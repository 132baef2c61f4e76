import ViewOutline.Analysis
import ViewOutline.Project.Folder
import ViewOutline.Text.Utf8
import ViewOutline.Toml.Document

/-!
# The configuration of a project

A project may set its vocabulary in a file of this program, or in a file that
many tools share.  A file that is no TOML document is passed over with a
warning; one that is not UTF-8, or holds a number of too many digits, cannot be
used and is not passed over.  The first file decides if it is a document, also
when it does not mention the vocabulary; the second is only looked at
otherwise.
-/

namespace ViewOutline.Configuration

/-- Why a configuration cannot be used. -/
inductive ConfigError where
  /-- A file is not UTF-8. -/
  | undecodable (error : Text.Utf8.DecodeError)
  /-- A file holds a whole number of too many digits. -/
  | longNumber (digits : Nat)
  /-- A table of settings is wrong. -/
  | setting (error : Vocabulary.SettingError)

/-- The wording of a configuration error. -/
def ConfigError.message : ConfigError → String
  | .undecodable error => error.message
  | .longNumber digits =>
      s!"Exceeds the limit ({Text.digitLimit} digits) for integer string conversion: " ++
        s!"value has {digits} digits; use sys.set_int_max_str_digits() to increase the limit"
  | .setting error => error.message

/-- The name of the file of this program. -/
def ownFile : String :=
  ".kbreakdown.toml"

/-- The name of the shared file. -/
def sharedFile : String :=
  "pyproject.toml"

/-- The table for this program. -/
def tableName : String :=
  "kbreakdown"

/-- A document that could be read, or `none` for one to be passed over. -/
def document? (project : Entry) (name : String) :
    Logged (Except ConfigError (Option Toml.Entries)) :=
  match project.child? name with
  | none => return .ok none
  | some (.folder _) => do
      Logged.log (.unreadableFile name "not a file")
      return .ok none
  | some (.file bytes) =>
      match Text.Utf8.decode bytes with
      | .error error => return .error (.undecodable error)
      | .ok text =>
          match Toml.parse text with
          | .ok entries => return .ok (some entries)
          | .error (.longNumber digits) => return .error (.longNumber digits)
          | .error .malformed => do
              Logged.log (.unreadableFile name "not a TOML document")
              return .ok none

/-- The vocabulary of a table of settings. -/
def vocabularyOf (table : Setting) : Except ConfigError Vocabulary :=
  (Vocabulary.ofSetting table).mapError .setting

/-- The vocabulary of the file of this program. -/
def ownVocabulary (entries : Toml.Entries) : Except ConfigError Vocabulary :=
  vocabularyOf ((entries.lookup tableName).getD (.table []))

/-- The vocabulary of the shared file, where the table lies among those of
other tools. -/
def sharedVocabulary (entries : Toml.Entries) : Except ConfigError Vocabulary :=
  match (entries.lookup "tool").getD (.table []) with
  | .table tools =>
      match tools.lookup tableName with
      | some table => vocabularyOf table
      | none => .ok .default
  | other => .error (.setting (.notATable other.kindName))

/-- The vocabulary of a project. -/
def vocabulary (project : Entry) : Logged (Except ConfigError Vocabulary) := do
  match ← document? project ownFile with
  | .error error => return .error error
  | .ok (some entries) => return ownVocabulary entries
  | .ok none =>
      match ← document? project sharedFile with
      | .error error => return .error error
      | .ok (some entries) => return sharedVocabulary entries
      | .ok none => return .ok .default

end ViewOutline.Configuration
