import SourceCheck.File
import SourceCheck.Language.Compile
import SourceCheck.Toml.Reader

/-!
Settings read from the TOML text of a file, and what can be wrong with them.
-/

namespace SourceCheck

inductive SettingsError where
  | unreadable (file : String) (reason : String)
  | malformed
  | vocabulary (error : VocabularyError)
  deriving DecidableEq, Repr

def SettingsError.message : SettingsError → String
  | .unreadable file reason => "failed to read config file " ++ file ++ ": " ++ reason
  | .malformed => "invalid config"
  | .vocabulary e => "invalid language vocabulary: " ++ e.message

namespace Settings

def ofText (text : String) : Except SettingsError Settings :=
  match (Toml.ofText? text).bind (Datum.settings? .ignored) with
  | some settings => .ok settings
  | none => .error .malformed

def ofFile (file : String) (entry : FileEntry) : Except SettingsError Settings :=
  match entry.readText with
  | .ok text => ofText text
  | .error reason => .error (.unreadable file reason)

def vocabulary (settings : Settings) : Except SettingsError Vocabulary :=
  settings.language.compile.mapError .vocabulary

end Settings

end SourceCheck
