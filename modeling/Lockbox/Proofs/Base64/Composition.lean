import Lockbox.Proofs.Base64.Soundness

/-!
# Detection in parts of a text

A character that no match contains cuts a text in two: the runs in front of it and behind it are
those of the two parts (`runs_append_cons`), so every search takes from the text what it takes from
the parts, and detection finds the tokens of both (`isSortedUnion_detect`). White space around a
text is made of such characters, so it makes no difference (`detect_surrounded`). -/

namespace Lockbox
namespace Base64

/-! ## Separators -/

/-- A character that is no symbol of either alphabet and no mark. -/
def Separates (char : Char) : Prop :=
  char.isAlphanum = false ∧ char ∉ ['+', '/', '-', '_', '=']

instance : DecidablePred Separates :=
  fun _ => inferInstanceAs (Decidable (_ ∧ _))

section Separators

variable {char : Char}

theorem Separates.ne_padChar
    (separates : Separates char) :
    char ≠ padChar := by
  rintro rfl
  exact separates.2 (by decide)

theorem Separates.containsChar_eq_false
    (separates : Separates char)
    (alphabet : Alphabet) :
    alphabet.containsChar char = false := by
  obtain ⟨notAlphanumeric, notListed⟩ := separates
  simp only [List.mem_cons, List.not_mem_nil, or_false, not_or] at notListed
  obtain ⟨notPlus, notSolidus, notMinus, notLowLine, -⟩ := notListed
  cases alphabet with
  | urlSafe => simp [Alphabet.containsChar, notAlphanumeric, notMinus, notLowLine]
  | standard => simp [Alphabet.containsChar, notAlphanumeric, notPlus, notSolidus]

/-- White space separates. -/
theorem separates_of_isBlank
    (blank : Text.isBlank char = true) :
    Separates char := by
  constructor
  · rw [Bool.eq_false_iff]
    intro alphanumeric
    have contained : Alphabet.standard.containsChar char = true := by
      simp only [Alphabet.containsChar, alphanumeric, Bool.true_or]
    obtain ⟨value, small, rfl⟩ := Alphabet.exists_symbol_of_containsChar contained
    rw [Alphabet.textIsBlank_symbol .standard small] at blank
    cases blank
  · intro listed
    simp only [List.mem_cons, List.not_mem_nil, or_false] at listed
    rcases listed with rfl | rfl | rfl | rfl | rfl <;> cases blank

end Separators

/-! ## Around a cut -/

theorem detect_nil : detect [] = [] :=
  rfl

section Cuts

variable {char : Char} {before after : Text}

/-- The runs of a text are those in front of a separator and those behind it. -/
theorem runs_append_cons
    (separates : Separates char)
    (alphabet : Alphabet)
    (before after : Text) :
    runs alphabet (before ++ char :: after) = runs alphabet before ++ runs alphabet after := by
  induction before with
  | nil =>
      obtain ⟨next, later, known⟩ := exists_runs_eq_cons alphabet after
      have cut : runs alphabet (char :: after) = ⟨[], 0⟩ :: next :: later := by
        rw [runs, known]
        simp only [separates.containsChar_eq_false alphabet, Bool.false_eq_true, if_false,
          if_neg separates.ne_padChar]
      rw [List.nil_append, cut, known]
      rfl
  | cons first rest inductionHypothesis =>
      obtain ⟨next, later, known⟩ := exists_runs_eq_cons alphabet rest
      rw [List.cons_append, runs, inductionHypothesis, runs, known]
      dsimp only [List.cons_append]
      split_ifs <;> rfl

/-- The searches are offered what they are offered in front of a separator and behind it. -/
theorem Pattern.select_append_cons
    (separates : Separates char)
    (pattern : Pattern)
    (before after : Text) :
    pattern.select (before ++ char :: after) = pattern.select before ++ pattern.select after := by
  rw [select, runs_append_cons separates, List.filterMap_append]
  rfl

/-- A search takes the same words whether it is made in the parts around a separator or in the whole
text. -/
theorem Pattern.Finds.append_cons
    {pattern : Pattern}
    {words otherWords : List Text}
    (separates : Separates char)
    (finds : pattern.Finds before words)
    (findsToo : pattern.Finds after otherWords) :
    pattern.Finds (before ++ char :: after) (words ++ otherWords) := by
  have found := finds_select pattern (before ++ char :: after)
  rwa [select_append_cons separates, (finds_select pattern before).unique finds,
    (finds_select pattern after).unique findsToo] at found

theorem mem_detect_append_cons
    {token : Text}
    (separates : Separates char) :
    token ∈ detect (before ++ char :: after) ↔ token ∈ detect before ∨ token ∈ detect after := by
  simp only [mem_detect_iff_select, Pattern.select_append_cons separates, List.mem_append,
    or_and_right, exists_or, and_or_left]

end Cuts

/-! ## Unions -/

/-- The elements of some lists in the increasing order of their bytes, none of them twice. -/
structure IsSortedUnion (parts : List (List Text)) (whole : List Text) : Prop where
  increasing : whole.Pairwise (fun first second => Utf8.encode first < Utf8.encode second)
  mem_iff : ∀ token, token ∈ whole ↔ ∃ part ∈ parts, token ∈ part

/-- Lists have one union. -/
theorem IsSortedUnion.unique
    {parts : List (List Text)}
    {whole other : List Text}
    (union : IsSortedUnion parts whole)
    (unionToo : IsSortedUnion parts other) :
    whole = other := by
  refine List.Perm.eq_of_pairwise ?_ union.increasing unionToo.increasing ?_
  · intro first second _ _ less more
    exact absurd more (List.lt_asymm less)
  · have distinct : ∀ {list : List Text},
        list.Pairwise (fun first second => Utf8.encode first < Utf8.encode second) → list.Nodup :=
      fun increasing => increasing.imp fun less same => by
        subst same
        exact List.lt_irrefl _ less
    refine (List.perm_ext_iff_of_nodup (distinct union.increasing)
      (distinct unionToo.increasing)).mpr fun token => ?_
    rw [union.mem_iff, unionToo.mem_iff]

/-- The tokens around a separator are those in front of it and those behind it. -/
theorem isSortedUnion_detect
    {char : Char}
    (separates : Separates char)
    (before after : Text) :
    IsSortedUnion [detect before, detect after] (detect (before ++ char :: after)) where
  increasing := pairwise_detect _
  mem_iff := by
    intro token
    rw [mem_detect_append_cons separates]
    simp

/-- The tokens of words between separators are those of the single words. -/
theorem isSortedUnion_detect_intercalate
    {char : Char}
    (separates : Separates char)
    (words : List Text) :
    IsSortedUnion (words.map detect) (detect (List.intercalate [char] words)) where
  increasing := pairwise_detect _
  mem_iff := by
    intro token
    simp only [List.mem_map, exists_exists_and_eq_and]
    induction words with
    | nil => simp [List.intercalate, detect_nil]
    | cons word others inductionHypothesis =>
        cases others with
        | nil => simp [List.intercalate]
        | cons next later =>
            rw [List.intercalate_cons_cons, List.append_assoc, List.singleton_append,
              mem_detect_append_cons separates, inductionHypothesis]
            simp

/-! ## White space around a text -/

section Blanks

variable {before after : Text}

/-- White space has no token. -/
theorem detect_eq_nil_of_blank
    {blanks : Text}
    (allBlank : ∀ char ∈ blanks, Text.isBlank char = true) :
    detect blanks = [] := by
  induction blanks with
  | nil => exact detect_nil
  | cons char rest inductionHypothesis =>
      have restNone := inductionHypothesis fun other member =>
        allBlank other (List.mem_cons_of_mem char member)
      refine List.eq_nil_iff_forall_not_mem.mpr fun token => ?_
      rw [← List.nil_append (char :: rest),
        mem_detect_append_cons (separates_of_isBlank (allBlank char (List.mem_cons_self ..))),
        restNone, detect_nil]
      simp

/-- White space around a text makes no difference to its tokens. -/
theorem detect_surrounded
    (blankBefore : ∀ char ∈ before, Text.isBlank char = true)
    (blankAfter : ∀ char ∈ after, Text.isBlank char = true)
    (text : Text) :
    detect (before ++ text ++ after) = detect text := by
  have behind : ∀ {token : Text},
      token ∈ detect (before ++ text ++ after) ↔ token ∈ detect (before ++ text) := by
    intro token
    cases after with
    | nil => rw [List.append_nil]
    | cons char rest =>
        rw [mem_detect_append_cons (separates_of_isBlank (blankAfter char (List.mem_cons_self ..))),
          detect_eq_nil_of_blank fun other member =>
            blankAfter other (List.mem_cons_of_mem char member)]
        simp
  have inFront : ∀ {token : Text}, token ∈ detect (before ++ text) ↔ token ∈ detect text := by
    intro token
    rcases List.eq_nil_or_concat before with rfl | ⟨front, char, rfl⟩
    · rw [List.nil_append]
    · rw [List.concat_eq_append] at blankBefore ⊢
      rw [List.append_assoc, List.singleton_append,
        mem_detect_append_cons (separates_of_isBlank (blankBefore char (by simp))),
        detect_eq_nil_of_blank fun other member => blankBefore other (by simp [member])]
      simp
  have union : IsSortedUnion [detect text] (detect (before ++ text ++ after)) :=
    ⟨pairwise_detect _, fun token => by rw [behind, inFront]; simp⟩
  exact union.unique ⟨pairwise_detect text, by simp⟩

/-- A text holds a token exactly when detection finds one in it. -/
theorem holdsToken_iff (text : Text) :
    holdsToken text = true ↔ detect text ≠ [] := by
  obtain ⟨before, after, split, blankBefore, blankAfter⟩ :=
    exists_surrounded_trimWhile Text.isBlank text
  have trimmed : detect text = detect (Text.trim text) := by
    conv => lhs; rw [split]
    exact detect_surrounded blankBefore blankAfter _
  rw [trimmed, holdsToken, Bool.and_eq_true, Bool.not_eq_true', Bool.not_eq_true',
    List.isEmpty_eq_false_iff, List.isEmpty_eq_false_iff]
  refine ⟨And.right, fun found => ⟨?_, found⟩⟩
  intro empty
  rw [empty] at found
  exact found detect_nil

end Blanks

end Base64
end Lockbox
