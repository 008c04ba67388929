import CaseSynthesis.Rule.Case
import CaseSynthesis.Settings.Basic

/-! The rule that adds a fallback case to an enum, and a constructor by name. -/

namespace CaseSynthesis.Nullable

structure Members where
  fallback : String
  withName : Switch
  deriving DecidableEq, Repr

def parameter : String := "value"

def Members.declarations (members : Members) : List Declaration :=
  [.case members.fallback, .initializer ⟨"with_name", parameter, members.withName⟩]

def members (settings : Settings) (node : Node) : Except SynthesisError Members := do
  let cases ← structural .nullableEnum node.cases
  checkFallback settings.fallbackCase cases
  return {
    fallback := settings.fallbackCase
    withName := nameLookup (.parameter parameter) settings.fallbackCase cases }

end CaseSynthesis.Nullable
