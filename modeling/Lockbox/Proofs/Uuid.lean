import Lockbox.Proofs.Text.Hex
import Lockbox.Uuid

/-!
# The spellings of an identifier

Five groups of digits with hyphens between them are taken apart in one way only
(`ungrouped?_eq_some_iff`). So a text is read as an identifier exactly when it is one of its four
spellings, with digits of either case (`parse?_eq_some_iff`), and the written form is one of them
(`spells_toText`).
-/

namespace Lockbox
namespace Uuid

/-- Digits and their groups of 8, 4, 4, 4 and 12 with hyphens between them. -/
inductive Grouped : Text → Text → Prop
  | groups {first second third fourth fifth : Text}
      (lengths : [first, second, third, fourth, fifth].map List.length = [8, 4, 4, 4, 12]) :
      Grouped (first ++ (second ++ (third ++ (fourth ++ fifth))))
        (first ++ '-' :: (second ++ '-' :: (third ++ '-' :: (fourth ++ '-' :: fifth))))

/-- The rest of a text around one of its characters. -/
theorem drop_eq_take_append_cons
    {text : Text}
    {char : Char}
    (start size : Nat)
    (here : text[start + size]? = some char) :
    text.drop start =
      (text.drop start).take size ++ char :: text.drop (start + size + 1) := by
  rw [← List.getElem?_drop] at here
  obtain ⟨inside, rfl⟩ := List.getElem?_eq_some_iff.mp here
  rw [Nat.add_assoc, ← List.drop_drop, ← List.drop_eq_getElem_cons inside, List.take_append_drop]

theorem Grouped.length_eq
    {digits text : Text}
    (grouped : Grouped digits text) :
    text.length = 36 := by
  obtain ⟨lengths⟩ := grouped
  simp only [List.map_cons, List.map_nil, List.cons.injEq, and_true] at lengths
  simp only [List.length_append, List.length_cons]
  omega

theorem ungrouped?_eq_some_iff
    {text digits : Text} :
    ungrouped? text = some digits ↔ Grouped digits text := by
  constructor
  · intro found
    simp only [ungrouped?, Option.ite_none_right_eq_some, Option.some.injEq, List.all_cons,
      List.all_nil, beq_iff_eq, Bool.and_eq_true] at found
    obtain ⟨⟨full, first, second, third, fourth, -⟩, rfl⟩ := found
    have whole : text = text.take 8 ++ '-' :: ((text.drop 9).take 4 ++ '-' ::
        ((text.drop 14).take 4 ++ '-' :: ((text.drop 19).take 4 ++ '-' :: text.drop 24))) := by
      have atFirst := drop_eq_take_append_cons 0 8 first
      have atSecond := drop_eq_take_append_cons 9 4 second
      have atThird := drop_eq_take_append_cons 14 4 third
      have atFourth := drop_eq_take_append_cons 19 4 fourth
      rwa [atSecond, atThird, atFourth] at atFirst
    apply (congrArg (Grouped _) whole).mpr
    simp only [List.append_assoc]
    exact .groups (by simp [full])
  · rintro ⟨lengths⟩
    simp only [List.map_cons, List.map_nil, List.cons.injEq, and_true] at lengths
    simp [ungrouped?, lengths, List.drop_append, List.drop_eq_nil_of_le]

/-- The spellings of an identifier, with digits of either case. -/
inductive Spells (id : Uuid) : Text → Prop
  | plain {digits : Text}
      (spelled : Hex.Spells id.val digits) :
      Spells id digits
  | hyphenated {digits text : Text}
      (spelled : Hex.Spells id.val digits)
      (grouped : Grouped digits text) :
      Spells id text
  | braced {digits text : Text}
      (spelled : Hex.Spells id.val digits)
      (grouped : Grouped digits text) :
      Spells id ('{' :: text ++ ['}'])
  | resourceName {digits text : Text}
      (spelled : Hex.Spells id.val digits)
      (grouped : Grouped digits text) :
      Spells id ("urn:uuid:".toList ++ text)

theorem ofDigits?_eq_some_iff
    {id : Uuid}
    {digits : Text} :
    ofDigits? digits = some id ↔ Hex.Spells id.val digits := by
  simp only [ofDigits?, Option.bind_eq_some_iff, Hex.toBytes?_eq_some_iff,
    FixedBytes.ofBytes?_eq_some_iff, exists_eq_right']

theorem length_eq_of_spells
    {id : Uuid}
    {digits : Text}
    (spelled : Hex.Spells id.val digits) :
    digits.length = 32 := by
  rw [spelled.length_eq, id.property]

theorem bind_ungrouped?_eq_some_iff
    {id : Uuid}
    {text : Text} :
    (ungrouped? text).bind ofDigits? = some id ↔
      ∃ digits, Hex.Spells id.val digits ∧ Grouped digits text := by
  simp only [Option.bind_eq_some_iff, ungrouped?_eq_some_iff, ofDigits?_eq_some_iff, and_comm]

/-- A text between braces, whose inside is found by its length. -/
theorem eq_braced
    {text : Text}
    (full : text.length = 38)
    (opens : text.head? = some '{')
    (closes : text.getLast? = some '}') :
    text = '{' :: (text.drop 1).take 36 ++ ['}'] := by
  obtain ⟨front, rfl⟩ := List.getLast?_eq_some_iff.mp closes
  obtain ⟨inside, rest⟩ := List.head?_eq_some_iff.mp opens
  cases front with
  | nil => simp at full
  | cons char front =>
      obtain rfl : char = '{' := by simpa using opens
      have size : front.length = 36 := by simpa using full
      simp [← size]

/-- A text is read as an identifier exactly when it is one of its spellings. -/
theorem parse?_eq_some_iff
    {id : Uuid}
    {text : Text} :
    parse? text = some id ↔ Spells id text := by
  constructor
  · intro found
    unfold parse? at found
    split at found
    next => exact .plain (ofDigits?_eq_some_iff.mp found)
    next =>
      split at found
      next =>
        obtain ⟨digits, spelled, grouped⟩ := bind_ungrouped?_eq_some_iff.mp found
        exact .hyphenated spelled grouped
      next =>
        split at found
        next isBraced =>
          obtain ⟨full, opens, closes⟩ := isBraced
          obtain ⟨digits, spelled, grouped⟩ := bind_ungrouped?_eq_some_iff.mp found
          rw [eq_braced full opens closes]
          exact .braced spelled grouped
        next =>
          split at found
          next isName =>
            obtain ⟨digits, spelled, grouped⟩ := bind_ungrouped?_eq_some_iff.mp found
            rw [← List.take_append_drop 9 text, isName.2]
            exact .resourceName spelled grouped
          next => cases found
  · intro spells
    cases spells with
    | plain spelled =>
        rw [parse?, if_pos (length_eq_of_spells spelled)]
        exact ofDigits?_eq_some_iff.mpr spelled
    | hyphenated spelled grouped =>
        have found := bind_ungrouped?_eq_some_iff.mpr ⟨_, spelled, grouped⟩
        simpa [parse?, grouped.length_eq] using found
    | braced spelled grouped =>
        have found := bind_ungrouped?_eq_some_iff.mpr ⟨_, spelled, grouped⟩
        simpa [parse?, grouped.length_eq, List.getLast?_cons] using found
    | resourceName spelled grouped =>
        have found := bind_ungrouped?_eq_some_iff.mpr ⟨_, spelled, grouped⟩
        simpa [parse?, grouped.length_eq] using found

/-- The written form is one of the spellings. -/
theorem spells_toText (id : Uuid) : Spells id id.toText := by
  apply Spells.hyphenated (Hex.spells_ofBytes id.val)
  have whole : id.val = id.val.take 4 ++ (id.val.drop 4).take 2 ++ (id.val.drop 6).take 2 ++
      (id.val.drop 8).take 2 ++ (id.val.drop 10).take 6 := by
    rw [← List.take_add, ← List.take_add, ← List.take_add, ← List.take_add]
    exact (List.take_of_length_le (Nat.le_of_eq id.property)).symm
  rw [whole]
  simp only [Hex.ofBytes_append, toText, List.append_assoc, List.singleton_append, List.drop_zero]
  exact .groups (by simp [Hex.length_ofBytes, id.property])

end Uuid
end Lockbox
