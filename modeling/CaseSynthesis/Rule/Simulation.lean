import CaseSynthesis.Rule.Request
import CaseSynthesis.Switch.Run

/-! Trying synthesized declarations out: each call runs one of their switches, and a call may take
up the text that the one before it yielded. -/

namespace CaseSynthesis

inductive Call
  | init
  | rawValue
  | decode
  | encode
  deriving DecidableEq, Repr

def Call.subject : Call → String → Value
  | init, text | decode, text => .str text
  | rawValue, text | encode, text => .case text

/-- A call on the given text, or else on the text of the last call that succeeded. -/
structure Step where
  call : Call
  text : Option String
  deriving DecidableEq, Repr

def allDeclarations (settings : Settings) (rule : Rule) (decl : Decl) :
    Except SynthesisError (List Declaration) := do
  let sites := [Site.memberSynthesis, .extensionSynthesis].filter rule.supports
  return (← sites.mapM fun site => synthesize settings rule site (.decl decl)).flatten

namespace Declarations

def fallback? (declarations : List Declaration) : Option String :=
  declarations.findSome? Declaration.case?

def accessor? (declarations : List Declaration) : Option Switch :=
  (declarations.findSome? Declaration.accessor?).map Accessor.body

def initializer? (declarations : List Declaration) : Option Switch :=
  (declarations.findSome? Declaration.initializer?).map Initializer.body

def conformance? (conformance : Conformance) (declarations : List Declaration) : Option Switch :=
  ((declarations.filterMap Declaration.extension?).find? fun extension =>
    extension.conformance = conformance).map Extension.body

def switch? (declarations : List Declaration) : Call → Option Switch
  | .init => initializer? declarations
  | .rawValue => accessor? declarations
  | .decode => conformance? .decodable declarations
  | .encode => conformance? .encodable declarations

def branchCounts (declarations : List Declaration) : List Nat :=
  (declarations.filterMap Declaration.body?).map Switch.branchCount

def run? (declarations : List Declaration) (call : Call) (text : String) :
    Option (Except SwitchError Branch) :=
  (switch? declarations call).map fun switch =>
    switch.run (accessor? declarations) (call.subject text)

/-- The results of calls one after another; `text` is that of the last one that succeeded. -/
def runSteps (declarations : List Declaration) (text : String) :
    List Step → List (Option (Except SwitchError Branch))
  | [] => []
  | step :: rest =>
    let result := run? declarations step.call (step.text.getD text)
    let text := match result with
      | some (.ok branch) => branch.text
      | _ => text
    result :: runSteps declarations text rest

end Declarations

end CaseSynthesis
