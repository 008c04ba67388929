import CaseSynthesis.Settings.Basic
import CaseSynthesis.Toml.Reader

/-! Settings in a configuration document. -/

namespace CaseSynthesis.Settings
open Toml

def textOr (missing key : String) (entries : Entries) : Option String :=
  match find? key entries with
  | none => some missing
  | some (.string text) => some text
  | some _ => none

/-- Settings given as an array of their values in order. Those at the end may be left out, and what
comes after them does not matter. -/
def ofElements : List Toml → Option Settings
  | [] => some {}
  | [.string fallbackCase] => some { fallbackCase }
  | .string fallbackCase :: .string serdePath :: _ => some { fallbackCase, serdePath }
  | _ => none

def ofValue : Toml → Option Settings
  | .table _ entries => do
    let default : Settings := {}
    return {
      fallbackCase := ← textOr default.fallbackCase "fallback_case" entries
      serdePath := ← textOr default.serdePath "serde_path" entries }
  | .array elements => ofElements elements
  | .datetime _ => some {}
  | _ => none

def ofEntries (entries : Entries) : Option Settings :=
  match find? "codegen" entries with
  | none => some {}
  | some value => ofValue value

def ofDocument (text : String) : Except SettingsError Settings := do
  match (Toml.parse? text).bind ofEntries with
  | none => throw .malformed
  | some settings =>
    settings.validate
    return settings

/-- The document that gives the settings. Usable ones hold nothing that needs an escape. -/
def document (settings : Settings) : String :=
  "[codegen]\nfallback_case = \"" ++ settings.fallbackCase ++ "\"\nserde_path = \"" ++
    settings.serdePath ++ "\"\n"

end CaseSynthesis.Settings
