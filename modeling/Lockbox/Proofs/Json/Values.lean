import Lockbox.Json.Reader
import Lockbox.Json.Writer
import Lockbox.Proofs.Json.Tokens

/-!
# The spellings of JSON values

Every value has its tokens, and a reader that meets them has the value behind them
(`run_tokens`), however deep it is and whatever else is open. So a text in which the tokens of a
value are spelled, with any white space between them, is read as the value (`parse?_of_spells`).
-/

namespace Lockbox
namespace Json

mutual

/-- The tokens of a value. -/
def Value.tokens : Value → List Token
  | .null => [.null]
  | .bool value => [.bool value]
  | .number literal => [.number literal]
  | .string content => [.string content]
  | .array [] => [.openBracket, .closeBracket]
  | .array (first :: others) => .openBracket :: (first.tokens ++ laterItems others)
  | .object [] => [.openBrace, .closeBrace]
  | .object ((name, first) :: others) =>
    .openBrace :: .string name :: .colon :: (first.tokens ++ laterMembers others)

/-- The tokens of an array behind its first item. -/
def laterItems : List Value → List Token
  | [] => [.closeBracket]
  | next :: others => .comma :: (next.tokens ++ laterItems others)

/-- The tokens of an object behind its first member. -/
def laterMembers : List (Option Text × Value) → List Token
  | [] => [.closeBrace]
  | (name, next) :: others =>
    .comma :: .string name :: .colon :: (next.tokens ++ laterMembers others)

end

namespace Progress

/-- No value starts with the mark that ends an array. -/
theorem run_itemOrEnd
    (value : Value)
    (frames : List Frame)
    (rest : List Token) :
    run ⟨.itemOrEnd, frames⟩ (value.tokens ++ rest) =
      run ⟨.value, .array [] :: frames⟩ (value.tokens ++ rest) := by
  cases value with
  | array items => cases items <;> rw [Value.tokens] <;> rfl
  | object members => cases members <;> rw [Value.tokens] <;> rfl
  | _ => rw [Value.tokens]; rfl

mutual

/-- Behind the tokens of a value a reader has it. -/
theorem run_tokens : ∀ (value : Value) (frames : List Frame) (rest : List Token),
    run ⟨.value, frames⟩ (value.tokens ++ rest) = run ⟨.done value, frames⟩ rest
  | .null, _, _ | .bool _, _, _ | .number _, _, _ | .string _, _, _
  | .array [], _, _ | .object [], _, _ => by
      rw [Value.tokens]
      rfl
  | .array (first :: others), frames, rest => by
      rw [Value.tokens, List.cons_append, List.append_assoc]
      calc
        run ⟨.value, frames⟩ (.openBracket :: (first.tokens ++ (laterItems others ++ rest))) =
            run ⟨.itemOrEnd, frames⟩ (first.tokens ++ (laterItems others ++ rest)) :=
          rfl
        _ = run ⟨.done first, .array [] :: frames⟩ (laterItems others ++ rest) := by
          rw [run_itemOrEnd, run_tokens first]
        _ = run ⟨.done (.array (first :: others)), frames⟩ rest :=
          run_laterItems others first [] frames rest
  | .object ((name, first) :: others), frames, rest => by
      rw [Value.tokens, List.cons_append, List.cons_append, List.cons_append, List.append_assoc]
      calc
        run ⟨.value, frames⟩
              (.openBrace :: .string name :: .colon ::
                (first.tokens ++ (laterMembers others ++ rest))) =
            run ⟨.value, .object [] name :: frames⟩
              (first.tokens ++ (laterMembers others ++ rest)) :=
          rfl
        _ = run ⟨.done first, .object [] name :: frames⟩ (laterMembers others ++ rest) :=
          run_tokens first _ _
        _ = run ⟨.done (.object ((name, first) :: others)), frames⟩ rest :=
          run_laterMembers others name first [] frames rest

/-- Behind the other items of an array a reader has the array. -/
theorem run_laterItems : ∀ (others : List Value) (value : Value) (items : List Value)
    (frames : List Frame) (rest : List Token),
    run ⟨.done value, .array items :: frames⟩ (laterItems others ++ rest) =
      run ⟨.done (.array ((value :: items).reverse ++ others)), frames⟩ rest
  | [], _, _, _, _ => by
      rw [laterItems, List.append_nil]
      rfl
  | next :: others, value, items, frames, rest => by
      rw [laterItems, List.cons_append, List.append_assoc]
      calc
        run ⟨.done value, .array items :: frames⟩
              (.comma :: (next.tokens ++ (laterItems others ++ rest))) =
            run ⟨.value, .array (value :: items) :: frames⟩
              (next.tokens ++ (laterItems others ++ rest)) :=
          rfl
        _ = run ⟨.done next, .array (value :: items) :: frames⟩ (laterItems others ++ rest) :=
          run_tokens next _ _
        _ = run ⟨.done (.array ((next :: value :: items).reverse ++ others)), frames⟩ rest :=
          run_laterItems others next (value :: items) frames rest
        _ = _ := by
          rw [List.reverse_cons, List.append_assoc, List.singleton_append]

/-- Behind the other members of an object a reader has the object. -/
theorem run_laterMembers : ∀ (others : List (Option Text × Value)) (name : Option Text)
    (value : Value) (members : List (Option Text × Value)) (frames : List Frame)
    (rest : List Token),
    run ⟨.done value, .object members name :: frames⟩ (laterMembers others ++ rest) =
      run ⟨.done (.object (((name, value) :: members).reverse ++ others)), frames⟩ rest
  | [], _, _, _, _, _ => by
      rw [laterMembers, List.append_nil]
      rfl
  | (nextName, next) :: others, name, value, members, frames, rest => by
      rw [laterMembers, List.cons_append, List.cons_append, List.cons_append, List.append_assoc]
      calc
        run ⟨.done value, .object members name :: frames⟩
              (.comma :: .string nextName :: .colon ::
                (next.tokens ++ (laterMembers others ++ rest))) =
            run ⟨.value, .object ((name, value) :: members) nextName :: frames⟩
              (next.tokens ++ (laterMembers others ++ rest)) :=
          rfl
        _ = run ⟨.done next, .object ((name, value) :: members) nextName :: frames⟩
              (laterMembers others ++ rest) :=
          run_tokens next _ _
        _ = run ⟨.done (.object (((nextName, next) :: (name, value) :: members).reverse ++ others)),
              frames⟩ rest :=
          run_laterMembers others nextName next ((name, value) :: members) frames rest
        _ = _ := by
          rw [List.reverse_cons, List.append_assoc, List.singleton_append]

end

end Progress

/-! ## Numbers among the tokens of a value -/

section

variable {token : Token} {rest : List Token}

/-- Anything but a number may stand before other tokens. -/
theorem isChain_cons_of_isNumber
    (notNumber : token.isNumber = false)
    (chain : rest.IsChain Token.Apart) :
    (token :: rest).IsChain Token.Apart :=
  List.isChain_cons.mpr ⟨fun _ _ => Or.inl notNumber, chain⟩

theorem isNumber_of_head?_laterItems
    (others : List Value)
    (first : token ∈ (laterItems others ++ rest).head?) :
    token.isNumber = false := by
  cases others <;>
    · rw [laterItems] at first
      obtain rfl := Option.some.inj first
      rfl

theorem isNumber_of_head?_laterMembers
    (others : List (Option Text × Value))
    (first : token ∈ (laterMembers others ++ rest).head?) :
    token.isNumber = false := by
  cases others <;>
    · rw [laterMembers] at first
      obtain rfl := Option.some.inj first
      rfl

end

mutual

/-- No two numbers are next to each other among the tokens of a value. -/
theorem isChain_tokens : ∀ (value : Value) (rest : List Token),
    rest.IsChain Token.Apart → (∀ token ∈ rest.head?, token.isNumber = false) →
      (value.tokens ++ rest).IsChain Token.Apart
  | .null, _, chain, _ | .bool _, _, chain, _ | .string _, _, chain, _ => by
      rw [Value.tokens]
      exact isChain_cons_of_isNumber rfl chain
  | .number _, _, chain, notNumber => by
      rw [Value.tokens]
      exact List.isChain_cons.mpr ⟨fun token first => Or.inr (notNumber token first), chain⟩
  | .array [], _, chain, _ | .object [], _, chain, _ => by
      rw [Value.tokens]
      exact isChain_cons_of_isNumber rfl (isChain_cons_of_isNumber rfl chain)
  | .array (first :: others), rest, chain, _ => by
      rw [Value.tokens, List.cons_append, List.append_assoc]
      apply isChain_cons_of_isNumber rfl
      apply isChain_tokens first _ (isChain_laterItems others rest chain)
      exact fun _ => isNumber_of_head?_laterItems others
  | .object ((name, first) :: others), rest, chain, _ => by
      rw [Value.tokens, List.cons_append, List.cons_append, List.cons_append, List.append_assoc]
      iterate 3 apply isChain_cons_of_isNumber rfl
      apply isChain_tokens first _ (isChain_laterMembers others rest chain)
      exact fun _ => isNumber_of_head?_laterMembers others

theorem isChain_laterItems : ∀ (others : List Value) (rest : List Token),
    rest.IsChain Token.Apart → (laterItems others ++ rest).IsChain Token.Apart
  | [], _, chain => by
      rw [laterItems]
      exact isChain_cons_of_isNumber rfl chain
  | next :: others, rest, chain => by
      rw [laterItems, List.cons_append, List.append_assoc]
      apply isChain_cons_of_isNumber rfl
      apply isChain_tokens next _ (isChain_laterItems others rest chain)
      exact fun _ => isNumber_of_head?_laterItems others

theorem isChain_laterMembers : ∀ (others : List (Option Text × Value)) (rest : List Token),
    rest.IsChain Token.Apart → (laterMembers others ++ rest).IsChain Token.Apart
  | [], _, chain => by
      rw [laterMembers]
      exact isChain_cons_of_isNumber rfl chain
  | (name, next) :: others, rest, chain => by
      rw [laterMembers, List.cons_append, List.cons_append, List.cons_append, List.append_assoc]
      iterate 3 apply isChain_cons_of_isNumber rfl
      apply isChain_tokens next _ (isChain_laterMembers others rest chain)
      exact fun _ => isNumber_of_head?_laterMembers others

end

/-! ## Reading -/

/-- The texts that spell a value: its tokens with white space anywhere between them. -/
def Value.Spells (value : Value) (text : Text) : Prop :=
  Layout value.tokens text

theorem Value.ofTokens?_tokens (value : Value) : Value.ofTokens? value.tokens = some value := by
  have read := Progress.run_tokens value [] []
  rw [List.append_nil] at read
  rw [Value.ofTokens?, Progress.start, read]
  rfl

/-- A text that spells a value is read as the value. -/
theorem Value.parse?_of_spells
    {value : Value}
    {text : Text}
    (spells : value.Spells text) :
    Value.parse? text = some value := by
  have chain := isChain_tokens value [] .nil (fun _ first => by cases first)
  rw [List.append_nil] at chain
  rw [Value.parse?, tokens?_of_layout spells chain]
  exact value.ofTokens?_tokens

/-! ## Writing -/

variable {first second : List Token} {text text' spaces : Text}

theorem Layout.append_spaces
    (blank : ∀ char ∈ spaces, isSpace char = true)
    (layout : Layout first text) :
    Layout first (spaces ++ text) := by
  cases layout with
  | nil others => exact .nil (List.forall_mem_append.mpr ⟨blank, others⟩)
  | cons before spelled others =>
      rw [← List.append_assoc, ← List.append_assoc]
      exact .cons (List.forall_mem_append.mpr ⟨blank, before⟩) spelled others

theorem Layout.append
    (layout : Layout first text)
    (layout' : Layout second text') :
    Layout (first ++ second) (text ++ text') := by
  induction layout with
  | nil blank => exact layout'.append_spaces blank
  | cons blank spelled others inductionHypothesis =>
      rw [List.cons_append, List.append_assoc]
      exact .cons blank spelled inductionHypothesis

/-- A token without white space before it. -/
theorem Layout.token
    {token : Token}
    {piece : Text}
    (spelled : token.Spells piece)
    (layout : Layout first text) :
    Layout (token :: first) (piece ++ text) := by
  change Layout (token :: first) ([] ++ piece ++ text)
  exact .cons (List.forall_mem_nil _) spelled layout

theorem Layout.empty : Layout [] [] :=
  .nil (List.forall_mem_nil _)

/-- The digits of a control character give its code. -/
theorem toNat?_control :
    ∀ code < 0x20,
      Hex.toNat? ['0', '0', Hex.digit (code / 16), Hex.digit (code % 16)] = some code := by
  decide

theorem StringUnit.ofCode_toNat
    {char : Char}
    (small : char.toNat < 0xD800) :
    ofCode char.toNat = .char char := by
  rw [ofCode, if_neg (fun surrogate => Nat.not_le.mpr small surrogate.1), Char.ofNat_toNat]

/-- Every character is written in one of its spellings. -/
theorem spells_escape (char : Char) : (StringUnit.char char).Spells (escape char) := by
  unfold escape
  split
  case h_8 notQuote notBackslash _ _ _ _ _ =>
    split
    next control =>
      have spelled := StringUnit.Spells.code (toNat?_control char.toNat control)
      rwa [StringUnit.ofCode_toNat (by omega)] at spelled
    next printable => exact .itself (Nat.not_lt.mp printable) notQuote notBackslash
  all_goals exact .letter rfl

theorem spellsUnits_escape (text : Text) :
    SpellsUnits (text.map .char) (text.flatMap escape) := by
  induction text with
  | nil => exact .nil
  | cons char text inductionHypothesis => exact .cons (spells_escape char) inductionHypothesis

theorem StringUnit.join_map_char (text : Text) : join (text.map .char) = some text := by
  induction text with
  | nil => rfl
  | cons char text inductionHypothesis =>
      rw [List.map_cons, join, inductionHypothesis]
      rfl

/-- A text is written in quotes as one of its spellings. -/
theorem spells_quoted (text : Text) : (Token.string (some text)).Spells (quoted text) := by
  have spelled := Token.Spells.string (spellsUnits_escape text)
  rwa [StringUnit.join_map_char] at spelled

theorem Value.spells_quoted (text : Text) : (Value.string (some text)).Spells (quoted text) := by
  have layout := Layout.token (Json.spells_quoted text) .empty
  rw [List.append_nil] at layout
  rwa [Value.Spells, Value.tokens]

/-- A name and its value are written with a colon between them. -/
theorem layout_member
    {value : Value}
    {written : Text}
    (spelled : value.Spells written)
    (name : Text) :
    Layout (.string (some name) :: .colon :: value.tokens) (quoted name ++ [':'] ++ written) := by
  rw [List.append_assoc]
  exact .token (spells_quoted name) (.token .colon spelled)

/-- An object of two members is written as one of its spellings. -/
theorem Value.spells_writtenObject
    {first second : Value}
    {one two : Text}
    (spelled : first.Spells one)
    (spelled' : second.Spells two)
    (name name' : Text) :
    (Value.object [(some name, first), (some name', second)]).Spells
      (writtenObject [(name, one), (name', two)]) := by
  have closed : Layout [.closeBrace] ['}'] := .token .closeBrace .empty
  have later := Layout.token .comma ((layout_member spelled' name').append closed)
  have layout := Layout.token .openBrace ((layout_member spelled name).append later)
  simp only [Value.Spells, Value.tokens, laterMembers, writtenObject, List.map_cons, List.map_nil,
    List.intercalate_cons_cons, List.intercalate_singleton]
  simpa using layout

end Json
end Lockbox
