import CaseSynthesis.Files.Basic
import CaseSynthesis.Settings.Document

/-! Where settings are looked for. -/

namespace CaseSynthesis.Settings

def fileName : String := "casegen.toml"

def ofFile (files : Files) (path : String) : Except SettingsError Settings :=
  match files path with
  | .ok text => ofDocument text
  | .error fault => .error (.unreadable path fault.message)

def ofFileIfAny (files : Files) (path : String) : Except SettingsError Settings :=
  if files.isFile path then ofFile files path else .ok {}

def ofDirectory (files : Files) (directory : String) : Except SettingsError Settings :=
  ofFileIfAny files (directory ++ "/" ++ fileName)

def ofPath? (files : Files) : Option String → Except SettingsError Settings
  | some path => ofFile files path
  | none => ofFileIfAny files fileName

end CaseSynthesis.Settings
