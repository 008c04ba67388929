import CaseSynthesis.Rule.Codable
import CaseSynthesis.Rule.Nullable
import CaseSynthesis.Rule.Stringify

/-! Applying a rule at a site. -/

namespace CaseSynthesis

structure Request where
  site : Site
  node : Node
  conformances : List TypeName
  deriving DecidableEq, Repr

namespace Request

def members (decl : Decl) : Request := ⟨.memberSynthesis, .decl decl, []⟩

def extensions (decl : Decl) : Request := ⟨.extensionSynthesis, .decl decl, []⟩

end Request

inductive Expansion
  | expression (expression : Expression)
  | declarations (declarations : List Declaration)
  deriving Repr

def Expansion.expression? : Expansion → Option Expression
  | expression built => some built
  | declarations _ => none

def Expansion.declarations? : Expansion → List Declaration
  | declarations built => built
  | expression _ => []

/-- Why a request fails: the program at the site is at fault, or the host is. -/
inductive RequestError
  | synthesis (error : SynthesisError)
  | arity (fault : Stringify.ArityFault)
  deriving DecidableEq, Repr

def Node.invocation? : Node → Except SynthesisError Invocation
  | .invocation call => .ok call
  | .expr argument => .ok ⟨Rule.stringify.label, [argument]⟩
  | .decl declared =>
    .error (.structural .stringify
      (.unexpectedNode "an expression" (Node.decl declared).kindText))

def synthesize (settings : Settings) (rule : Rule) (site : Site) (node : Node) :
    Except SynthesisError (List Declaration) :=
  match rule, site with
  | .nullableEnum, .memberSynthesis => do return (← Nullable.members settings node).declarations
  | .codableEnum, .memberSynthesis => do return (← Codable.members settings node).declarations
  | .codableEnum, .extensionSynthesis => do
    let decl ← structural .codableEnum node.enum
    return (← Codable.extensions settings node).declarations ⟨decl.name⟩
  | rule, site => .error (.unsupportedSite rule site)

def Request.expand (settings : Settings) (rule : Rule) (request : Request) :
    Except RequestError Expansion :=
  match rule, request.site with
  | .stringify, .expression => do
    let invocation ← request.node.invocation?.mapError .synthesis
    return .expression (← (Stringify.expand invocation).mapError .arity)
  | rule, site => do
    return .declarations (← (synthesize settings rule site request.node).mapError .synthesis)

end CaseSynthesis
