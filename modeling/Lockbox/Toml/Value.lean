import Lockbox.Text.Trim

/-!
# TOML values

A document is a table. How a table or an array of tables came about decides what later parts of the
document may add to it, so the form of each is kept.
-/

namespace Lockbox
namespace Toml

/-- How a table came about. -/
inductive TableForm
  /-- Written as one value; closed. -/
  | inline
  /-- Named by a header of its own; open to further headers below it. -/
  | header
  /-- Named only on the way to a header below it. -/
  | above
  /-- Named only on the way to the last part of a dotted key. -/
  | dotted
  deriving DecidableEq, Repr

/-- A TOML value. Numbers and dates are kept as they were written. -/
inductive Value
  | string (content : Text)
  | integer (literal : Text)
  | float (literal : Text)
  | bool (value : Bool)
  | dateTime (literal : Text)
  | array (items : List Value)
  /-- An array whose items are named by headers. The last one is open, the others are done with. -/
  | tables (earlier : List Value) (entries : List (Text × Value))
  | table (form : TableForm) (entries : List (Text × Value))

/-- Names with their values, in the order in which they first occur. -/
abbrev Entries := List (Text × Value)

namespace Entries

/-- The value of a name. -/
def find? (name : Text) (entries : Entries) : Option Value :=
  List.lookup name entries

/-- The entries with another value for a name that occurs. -/
def replace (name : Text) (value : Value) (entries : Entries) : Entries :=
  entries.map fun entry => if entry.1 = name then (name, value) else entry

/-- The entries with one more name. -/
def add (name : Text) (value : Value) (entries : Entries) : Entries :=
  entries ++ [(name, value)]

/-- The entries after an assignment to a dotted key. The key must not occur yet. Its last table must
be new or come from another dotted key. The tables in front of that may also be those that headers
only pass through, and arrays of tables, of which the last item is meant. -/
def assign : List Text → Value → Entries → Option Entries
  | [], _, _ => none
  | [name], value, entries =>
    match entries.find? name with
    | none => some (entries.add name value)
    | some _ => none
  | name :: next :: more, value, entries =>
    match entries.find? name with
    | none =>
      (assign (next :: more) value []).map fun inner => entries.add name (.table .dotted inner)
    | some (.table .dotted inner) =>
      (assign (next :: more) value inner).map fun changed =>
        entries.replace name (.table .dotted changed)
    | some (.table .above inner) =>
      if more.isEmpty then none
      else
        (assign (next :: more) value inner).map fun changed =>
          entries.replace name (.table .above changed)
    | some (.tables earlier inner) =>
      if more.isEmpty then none
      else
        (assign (next :: more) value inner).map fun changed =>
          entries.replace name (.tables earlier changed)
    | some _ => none

/-- The entries with a change made to the entries of the table that a header path names. Tables on
the way are made where they are missing, and of an array of tables the last one is meant. -/
def within (change : Entries → Option Entries) : List Text → Entries → Option Entries
  | [], entries => change entries
  | name :: more, entries =>
    match entries.find? name with
    | none => (within change more []).map fun inner => entries.add name (.table .above inner)
    | some (.table .inline _) => none
    | some (.table form inner) =>
      (within change more inner).map fun changed => entries.replace name (.table form changed)
    | some (.tables earlier inner) =>
      (within change more inner).map fun changed => entries.replace name (.tables earlier changed)
    | some _ => none

/-- The entries after the header of a table, which must not have had one yet. -/
def openTable (name : Text) (entries : Entries) : Option Entries :=
  match entries.find? name with
  | none => some (entries.add name (.table .header []))
  | some (.table .above inner) => some (entries.replace name (.table .header inner))
  | some _ => none

/-- The entries after the header of a further item of an array of tables. -/
def openItem (name : Text) (entries : Entries) : Option Entries :=
  match entries.find? name with
  | none => some (entries.add name (.tables [] []))
  | some (.tables earlier inner) =>
    some (entries.replace name (.tables (earlier ++ [.table .header inner]) []))
  | some _ => none

end Entries
end Toml
end Lockbox
