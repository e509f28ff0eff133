import Lockbox.Config
import Lockbox.Proofs.Toml.Statements

/-!
# Configurations as they are written

The text that describes a configuration says one thing after the other (`statements`), builds one
table (`entries`), and is read back as the configuration (`parse?_toText`).
-/

namespace Lockbox

namespace Config

open Toml

/-- What the text of a configuration says. -/
def statements (config : Config) : List Statement :=
  (config.secretsDirectory.toList.map fun directory =>
      .assignment ["secrets_dir".toList] (.string directory)) ++
    [.assignment ["key_source".toList] (.string config.keySource.name),
      .table [codecName],
      .assignment ["algorithm".toList] (.string config.codec.algorithm.name),
      .assignment ["legacy_detection".toList] (.bool config.codec.legacyDetection)]

/-- The table that the text of a configuration builds. -/
def entries (config : Config) : Entries :=
  (config.secretsDirectory.toList.map fun directory =>
      ("secrets_dir".toList, .string directory)) ++
    [("key_source".toList, .string config.keySource.name),
      (codecName, .table .header
        [("algorithm".toList, .string config.codec.algorithm.name),
          ("legacy_detection".toList, .bool config.codec.legacyDetection)])]

theorem line_append (name : String) (value rest : Text) :
    line name value ++ rest = name.toList ++ (" = ".toList ++ (value ++ '\n' :: rest)) := by
  simp [line]

theorem spells_writtenBool (value : Bool) : Spells (writtenBool value) (.bool value) := by
  cases value with
  | true => exact spells_word (by decide) rfl
  | false => exact spells_word (by decide) rfl

/-- What is written for every configuration. -/
def commonText (config : Config) : Text :=
  line "key_source" (written config.keySource.name) ++
    ('\n' :: '[' :: (codecName ++ (']' :: '\n' ::
      (line "algorithm" (written config.codec.algorithm.name) ++
        (line "legacy_detection" (writtenBool config.codec.legacyDetection) ++ [])))))

theorem readStatements_commonText (config : Config) (fuel : Nat) :
    readStatements (fuel + 5) config.commonText =
      some ({ config with secretsDirectory := none } : Config).statements := by
  rw [commonText, line_append, line_append, line_append]
  apply readStatements_assignment (by decide) (spells_written _)
  rw [readStatements_lineFeed]
  apply readStatements_header (by decide)
  apply readStatements_assignment (by decide) (spells_written _)
  apply readStatements_assignment (by decide) (spells_writtenBool _)
  exact readStatements_nil fuel

theorem toText_eq (config : Config) :
    config.toText =
      match config.secretsDirectory with
      | none => config.commonText
      | some directory => line "secrets_dir" (written directory) ++ config.commonText := by
  cases config with
  | mk directory keySource codec => cases directory <;> simp [toText, commonText, codecName]

/-- The statements of the text of a configuration. -/
theorem statements?_toText (config : Config) :
    statements? config.toText = some config.statements := by
  rw [toText_eq]
  cases config with
  | mk directory keySource codec =>
      cases directory with
      | none =>
          have longText : 4 ≤ (commonText ⟨none, keySource, codec⟩).length := by
            simp [commonText, line]
          obtain ⟨spare, same⟩ := statements?_eq
            (fun more same => by cases (List.cons.inj same).1) 4 longText
          exact same.trans (readStatements_commonText _ spare)
      | some directory =>
          have longText : 5 ≤ (line "secrets_dir" (written directory) ++
              commonText ⟨some directory, keySource, codec⟩).length := by
            simp [line]
          obtain ⟨spare, same⟩ := statements?_eq
            (fun more same => by cases (List.cons.inj same).1) 5 longText
          refine same.trans ?_
          rw [line_append]
          exact readStatements_assignment (by decide) (spells_written _)
            (readStatements_commonText _ spare)

theorem extendAll_statements (config : Config) :
    Outline.empty.extendAll config.statements = some ⟨config.entries, [codecName]⟩ := by
  cases config with
  | mk directory keySource codec => cases directory <;> rfl

theorem ofEntries?_entries (config : Config) :
    ofEntries? config.entries = some config := by
  obtain ⟨directory, keySource, algorithm, legacyDetection⟩ := config
  cases directory <;> cases keySource <;> cases algorithm <;> rfl

/-- The text that describes a configuration is read back as the configuration. -/
theorem parse?_toText (config : Config) :
    parse? config.toText = some config := by
  rw [Config.parse?, Toml.parse?, statements?_toText, Option.bind_some, extendAll_statements,
    Option.map_some, Option.bind_some, ofEntries?_entries]

end Config
end Lockbox
