import Lockbox.Toml.Scalar

/-!
# TOML statements

A document is a sequence of lines: assignments, headers of tables, headers of items of arrays of
tables, and lines with nothing but a comment. Values may run over several lines.
-/

namespace Lockbox
namespace Toml

/-- What a line says. -/
inductive Statement
  /-- A dotted key gets a value. -/
  | assignment (key : List Text) (value : Value)
  /-- The following assignments belong to a table. -/
  | table (path : List Text)
  /-- The following assignments belong to a further item of an array of tables. -/
  | item (path : List Text)

/-- A text without the blanks at its start. -/
def skipBlanks (text : Text) : Text :=
  text.dropWhile isBlank

/-- A text without the comment it may start with; none if the comment holds a control
character. -/
def skipComment : Text → Option Text
  | '#' :: rest =>
    match rest.dropWhile isPlain with
    | [] => some []
    | '\n' :: after => some ('\n' :: after)
    | '\r' :: '\n' :: after => some ('\r' :: '\n' :: after)
    | _ => none
  | rest => some rest

/-- What follows the end of the line, in front of which only blanks and a comment may stand. -/
def finishLine (text : Text) : Option Text :=
  match skipComment (skipBlanks text) with
  | some [] => some []
  | some ('\n' :: rest) => some rest
  | some ('\r' :: '\n' :: rest) => some rest
  | _ => none

/-- A text without the blanks and at most `fuel` line ends and comments at its start. -/
def skipSpaceWithin : (fuel : Nat) → Text → Option Text
  | 0, _ => none
  | fuel + 1, text =>
    match skipBlanks text with
    | '\n' :: rest => skipSpaceWithin fuel rest
    | '\r' :: '\n' :: rest => skipSpaceWithin fuel rest
    | '#' :: rest =>
      match skipComment ('#' :: rest) with
      | none => none
      | some after => skipSpaceWithin fuel after
    | rest => some rest

/-- A text without the blanks, line ends and comments at its start; none if a comment holds a
control character. -/
def skipSpace (text : Text) : Option Text :=
  skipSpaceWithin (text.length + 1) text

/-- A character of a key without quotes. -/
def isKeyChar (char : Char) : Bool :=
  char.isAlphanum || char == '-' || char == '_'

/-- One part of a key, and what follows it. -/
def readKeyPart : Text → Option (Text × Text)
  | '"' :: rest => readBasic rest
  | '\'' :: rest => readLiteral rest
  | text =>
    match text.takeWhile isKeyChar with
    | [] => none
    | part => some (part, text.dropWhile isKeyChar)

/-- The parts of a dotted key that has at most `limit` of them, and what follows it and the blanks
behind it. -/
def readParts : (limit : Nat) → Text → Option (List Text × Text)
  | 0, _ => none
  | limit + 1, text =>
    match readKeyPart (skipBlanks text) with
    | none => none
    | some (part, rest) =>
      match skipBlanks rest with
      | '.' :: more =>
        match readParts limit more with
        | none => none
        | some (parts, after) => some (part :: parts, after)
      | after => some ([part], after)

/-- How deep arrays and inline tables may be nested, and how many parts a key may have. -/
def maximumDepth : Nat := 80

/-- A dotted key, and what follows it and the blanks behind it. -/
def readKey (text : Text) : Option (List Text × Text) :=
  readParts maximumDepth text

mutual

/-- A value inside of `depth` arrays and inline tables, and what follows it. -/
def readValue : (fuel : Nat) → (depth : Nat) → Text → Option (Value × Text)
  | 0, _, _ => none
  | fuel + 1, depth, text =>
    match text with
    | '[' :: rest =>
      if depth < maximumDepth then
        match readItems fuel (depth + 1) rest with
        | none => none
        | some (items, after) => some (.array items, after)
      else none
    | '{' :: rest =>
      if depth < maximumDepth then
        match readMembers fuel (depth + 1) [] rest with
        | none => none
        | some (entries, after) => some (.table .inline entries, after)
      else none
    | '"' :: _ => (readString text).map fun (content, after) => (.string content, after)
    | '\'' :: _ => (readString text).map fun (content, after) => (.string content, after)
    | _ =>
      let (word, after) := spanWord text
      (Value.ofWord? word).map fun value => (value, after)

/-- The items of an array whose opening bracket, or the comma after an item, has been read. -/
def readItems : (fuel : Nat) → (depth : Nat) → Text → Option (List Value × Text)
  | 0, _, _ => none
  | fuel + 1, depth, text =>
    match skipSpace text with
    | none => none
    | some (']' :: after) => some ([], after)
    | some inner =>
      match readValue fuel depth inner with
      | none => none
      | some (item, rest) =>
        match skipSpace rest with
        | some (']' :: after) => some ([item], after)
        | some (',' :: more) =>
          match readItems fuel depth more with
          | none => none
          | some (items, after) => some (item :: items, after)
        | _ => none

/-- The entries of an inline table whose opening brace, or the comma after an entry, has been read,
after those already read. -/
def readMembers : (fuel : Nat) → (depth : Nat) → Entries → Text → Option (Entries × Text)
  | 0, _, _, _ => none
  | fuel + 1, depth, entries, text =>
    match skipSpace text with
    | none => none
    | some ('}' :: after) => some (entries, after)
    | some inner =>
      match readMember fuel depth inner with
      | none => none
      | some (key, value, rest) =>
        match entries.assign key value, skipSpace rest with
        | some extended, some ('}' :: after) => some (extended, after)
        | some extended, some (',' :: more) => readMembers fuel depth extended more
        | _, _ => none

/-- The key and the value of one entry of an inline table, and what follows it. -/
def readMember : (fuel : Nat) → (depth : Nat) → Text → Option (List Text × Value × Text)
  | 0, _, _ => none
  | fuel + 1, depth, text =>
    match readKey text with
    | none => none
    | some (key, rest) =>
      match skipSpace rest with
      | some ('=' :: written) =>
        match skipSpace written with
        | none => none
        | some start =>
          match readValue fuel depth start with
          | none => none
          | some (value, after) => some (key, value, after)
      | _ => none

end

/-- The statement of a line that is not empty, and what follows the line. -/
def readStatement (text : Text) : Option (Statement × Text) :=
  match text with
  | '[' :: '[' :: rest =>
    match readKey rest with
    | some (path, ']' :: ']' :: after) => (finishLine after).map fun next => (.item path, next)
    | _ => none
  | '[' :: rest =>
    match readKey rest with
    | some (path, ']' :: after) => (finishLine after).map fun next => (.table path, next)
    | _ => none
  | _ =>
    match readKey text with
    | some (key, '=' :: written) =>
      match readValue (2 * written.length + 2) 0 (skipBlanks written) with
      | none => none
      | some (value, after) =>
        (finishLine after).map fun next => (.assignment key value, next)
    | _ => none

/-- The statements of a text. -/
def readStatements : (fuel : Nat) → Text → Option (List Statement)
  | 0, _ => none
  | fuel + 1, text =>
    match skipSpace text with
    | none => none
    | some [] => some []
    | some line =>
      match readStatement line with
      | none => none
      | some (statement, rest) =>
        match readStatements fuel rest with
        | none => none
        | some statements => some (statement :: statements)

/-- The statements of a document, which may start with a byte order mark. -/
def statements? (text : Text) : Option (List Statement) :=
  match text with
  | '\uFEFF' :: rest => readStatements (rest.length + 1) rest
  | _ => readStatements (text.length + 1) text

end Toml
end Lockbox
