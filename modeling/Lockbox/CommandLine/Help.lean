import Lockbox.Text.Trim

/-!
# Help

What the program says about its use, in words of this library's own. It says the same whether help
is asked for as a whole or for one command.
-/

namespace Lockbox
namespace CommandLine

/-- The commands with what they take and what they do. -/
def commandHelp : List (String × String) := [
  ("store --service S --name N [--value V]", "keep a secret, by default the first line of stdin"),
  ("retrieve --service S --name N", "print a kept secret"),
  ("delete --service S --name N", "remove a kept secret, if there is one"),
  ("encrypt --key K DATA", "print DATA encrypted under a key of the caller"),
  ("decrypt --key K DATA", "print what a payload holds"),
  ("keygen [--length L]", "print a random key"),
  ("detect TEXT...", "list the Base64 tokens in a text"),
  ("health", "try the codec and the store"),
  ("config init", "write the configuration, unless there is one"),
  ("version", "print the version")]

/-- The lines of the help. -/
def helpText : Text :=
  let row := fun (usage, purpose) => s!"  sealbox {usage}\n      {purpose}\n".toList
  "Encrypted local secret storage\n\n".toList ++ commandHelp.flatMap row

end CommandLine
end Lockbox
