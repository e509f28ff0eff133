import Lockbox.Toml.Statement

/-!
# TOML documents

The table that the statements of a document build, one after the other. An assignment goes to the
table of the last header.
-/

namespace Lockbox
namespace Toml

/-- A document that has been read in part: its entries, and the path of the last header. -/
structure Outline where
  entries : Entries
  current : List Text

namespace Outline

/-- The empty document. -/
def empty : Outline := ⟨[], []⟩

/-- The entries with a change made to the last name of a path. -/
def atLast (change : Text → Entries → Option Entries) (path : List Text) (entries : Entries) :
    Option Entries :=
  match path.getLast? with
  | none => none
  | some name => entries.within (change name) path.dropLast

/-- The document after one more statement. -/
def extend (outline : Outline) : Statement → Option Outline
  | .assignment key value =>
    (outline.entries.within (Entries.assign key value) outline.current).map fun entries =>
      ⟨entries, outline.current⟩
  | .table path =>
    (atLast Entries.openTable path outline.entries).map fun entries => ⟨entries, path⟩
  | .item path =>
    (atLast Entries.openItem path outline.entries).map fun entries => ⟨entries, path⟩

/-- The document after some more statements. -/
def extendAll : Outline → List Statement → Option Outline
  | outline, [] => some outline
  | outline, statement :: rest =>
    match outline.extend statement with
    | none => none
    | some next => extendAll next rest

end Outline

/-- The entries of a TOML document. -/
def parse? (text : Text) : Option Entries :=
  (statements? text).bind fun statements =>
    (Outline.empty.extendAll statements).map Outline.entries

end Toml
end Lockbox
