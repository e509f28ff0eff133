import Lockbox.Text.Trim

/-!
# Command line arguments

The words after the name of the program name a command and say what it is to work on. They are read
from left to right, and the first fault or the first request for a version or for help ends the
reading.
-/

namespace Lockbox
namespace CommandLine

/-- The identity that a command is about. -/
structure Target where
  service : Text
  name : Text
  deriving DecidableEq, Repr

/-- A command of the program. -/
inductive Command
  /-- Without a value, the secret comes from the standard input. -/
  | store (target : Target) (value : Option Text)
  | retrieve (target : Target)
  | delete (target : Target)
  | encrypt (key data : Text)
  | decrypt (key data : Text)
  | keygen (length : Nat)
  | detect (words : List Text)
  | health
  | establishConfig
  | version
  deriving DecidableEq, Repr

/-- What the arguments ask for. -/
inductive Request
  | run (command : Command)
  /-- The version, under the name of the program or of one of its commands. -/
  | showVersion (name : Text)
  | showHelp
  deriving DecidableEq, Repr

/-- How many words a command takes besides its options. -/
inductive WordCount
  | none
  | one
  | many
  deriving DecidableEq, Repr

/-- What a command takes. Every option has a value. -/
structure Form where
  /-- The options whose value is any text. -/
  texts : List Text := []
  /-- The options whose value is a number. -/
  numbers : List Text := []
  words : WordCount := .none
  deriving DecidableEq, Repr

/-- What has been read of the arguments of a command. -/
structure Given where
  options : List (Text × Text) := []
  words : List Text := []
  deriving DecidableEq, Repr

/-- How the reading of the arguments of a command ends. -/
inductive Ending
  | finished (given : Given)
  | version
  | help
  deriving DecidableEq, Repr

/-- A number as it is written in an argument, at most the largest of 64 bits. -/
def number? (text : Text) : Option Nat :=
  let digits :=
    match text with
    | '+' :: rest => rest
    | rest => rest
  if !digits.isEmpty && digits.all Char.isDigit then
    let value := digits.foldl (fun value digit => value * 10 + (digit.toNat - 0x30)) 0
    if value < 1 <<< 64 then some value else none
  else none

namespace Given

/-- The value of an option. -/
def find? (given : Given) (name : String) : Option Text :=
  List.lookup name.toList given.options

/-- One more option with its value. An option is given once, and a number has to be one. -/
def addOption (given : Given) (form : Form) (name value : Text) : Option Given :=
  if (List.lookup name given.options).isSome then none
  else if form.numbers.contains name && (number? value).isNone then none
  else some { given with options := given.options ++ [(name, value)] }

/-- One more word, if the command takes it. -/
def addWord (given : Given) (form : Form) (word : Text) : Option Given :=
  match form.words with
  | .none => none
  | .one => if given.words.isEmpty then some { given with words := [word] } else none
  | .many => some { given with words := given.words ++ [word] }

end Given

/-- An argument that starts with two hyphens, as a name and perhaps a value behind an equals
sign. -/
def splitLong (long : Text) : Text × Option Text :=
  match long.dropWhile (· != '=') with
  | [] => (long, none)
  | _ :: value => (long.takeWhile (· != '='), some value)

/-- The reading of the arguments of a command. An option that has been named and still lacks its
value is pending; while it is, no argument may start with a hyphen. Two hyphens alone end the
options. -/
def collect (form : Form) : (given : Given) → (pending : Option Text) → (ended : Bool) →
    List Text → Option Ending
  | given, none, _, [] => some (.finished given)
  | _, some _, _, [] => none
  | given, none, true, word :: rest =>
    (given.addWord form word).bind fun more => collect form more none true rest
  | _, some _, true, _ :: _ => none
  | given, pending, false, argument :: rest =>
    match argument, pending with
    | ['-', '-'], _ => collect form given pending true rest
    | '-' :: '-' :: _, some _ => none
    | '-' :: '-' :: long, none =>
      match splitLong long with
      | (name, none) =>
        if name = "version".toList then some .version
        else if name = "help".toList then some .help
        else if form.texts.contains name || form.numbers.contains name then
          collect form given (some name) false rest
        else none
      | (name, some value) =>
        if form.texts.contains name || form.numbers.contains name then
          (given.addOption form name value).bind fun more => collect form more none false rest
        else none
    | '-' :: _ :: _, some _ => none
    | '-' :: letter :: _, none =>
      if letter = 'V' then some .version else if letter = 'h' then some .help else none
    | word, none => (given.addWord form word).bind fun more => collect form more none false rest
    | value, some name =>
      (given.addOption form name value).bind fun more => collect form more none false rest

/-- The options that name an identity. -/
def targetOptions : List Text :=
  ["service".toList, "name".toList]

/-- The identity that has been given. -/
def target? (given : Given) : Option Target := do
  return { service := ← given.find? "service", name := ← given.find? "name" }

/-- A command that takes arguments: what it takes, and the command that they make, if none is
missing. -/
structure Usage where
  form : Form
  make : Given → Option Command

/-- The commands, except for those below other commands. -/
def usage? (name : Text) : Option Usage :=
  match String.ofList name with
  | "store" => some {
      form := { texts := "value".toList :: targetOptions }
      make := fun given => (target? given).map fun target => .store target (given.find? "value") }
  | "retrieve" => some {
      form := { texts := targetOptions }
      make := fun given => (target? given).map .retrieve }
  | "delete" => some {
      form := { texts := targetOptions }
      make := fun given => (target? given).map .delete }
  | "encrypt" => some {
      form := { texts := ["key".toList], words := .one }
      make := fun given => do return .encrypt (← given.find? "key") (← given.words.head?) }
  | "decrypt" => some {
      form := { texts := ["key".toList], words := .one }
      make := fun given => do return .decrypt (← given.find? "key") (← given.words.head?) }
  | "keygen" => some {
      form := { numbers := ["length".toList] }
      make := fun given =>
        match given.find? "length" with
        | none => some (.keygen 32)
        | some length => (number? length).map .keygen }
  | "detect" => some {
      form := { words := .many }
      make := fun given => if given.words.isEmpty then none else some (.detect given.words) }
  | "health" => some { form := {}, make := fun _ => some .health }
  | "version" => some { form := {}, make := fun _ => some .version }
  | _ => none

/-- What the arguments of a command ask for. -/
def requestOf (name : Text) (usage : Usage) (arguments : List Text) : Option Request :=
  match collect usage.form {} none false arguments with
  | none => none
  | some .version => some (.showVersion name)
  | some .help => some .showHelp
  | some (.finished given) => (usage.make given).map .run

/-- What an argument asks for in a place where only a command may stand. -/
inductive Choice
  | version
  | help
  | command (name : Text)
  deriving DecidableEq, Repr

/-- The choice that an argument makes. -/
def choice? : Text → Option Choice
  | '-' :: '-' :: long =>
    if long = "version".toList then some .version
    else if long = "help".toList then some .help
    else none
  | '-' :: letter :: _ =>
    if letter = 'V' then some .version else if letter = 'h' then some .help else none
  | name => some (.command name)

/-- What the arguments after `config` ask for. -/
def configRequest : List Text → Option Request
  | [] => none
  | first :: rest =>
    match choice? first with
    | none => none
    | some .version => some (.showVersion "sealbox-config".toList)
    | some .help => some .showHelp
    | some (.command name) =>
      if name = "init".toList then
        requestOf "sealbox-config-init".toList
          { form := {}, make := fun _ => some .establishConfig } rest
      else if name = "help".toList ∧ (rest = [] ∨ rest = ["init".toList] ∨ rest = ["help".toList])
        then some .showHelp
      else none

/-- Whether words name a command for which there is help. -/
def hasHelp : List Text → Bool
  | [] => true
  | [name] => (usage? name).isSome || name == "config".toList || name == "help".toList
  | [first, second] =>
    first == "config".toList && (second == "init".toList || second == "help".toList)
  | _ => false

/-- What the arguments of the program ask for, unless they are at fault. -/
def parse : List Text → Option Request
  | [] => none
  | first :: rest =>
    match choice? first with
    | none => none
    | some .version => some (.showVersion "sealbox".toList)
    | some .help => some .showHelp
    | some (.command name) =>
      if name = "config".toList then configRequest rest
      else if name = "help".toList then if hasHelp rest then some .showHelp else none
      else (usage? name).bind fun usage => requestOf ("sealbox-".toList ++ name) usage rest

end CommandLine
end Lockbox
