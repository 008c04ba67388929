import CaseSynthesis.Output
import CaseSynthesis.Rule.Basic

/-! The rule that pairs an expression with its own text. -/

namespace CaseSynthesis.Stringify

/-- A host must check that there is one argument before it applies the rule. -/
structure ArityFault where
  name : String
  count : Nat
  deriving DecidableEq, Repr

def ArityFault.message (fault : ArityFault) : String :=
  fault.name ++ "! expects exactly one argument, the host passed " ++ toString fault.count

def pair (expr : ExprText) : Expression := .tuple [.embedded expr, .stringLiteral expr.source]

def expand (invocation : Invocation) : Except ArityFault Expression :=
  match invocation.arguments with
  | [argument] => .ok (pair argument)
  | arguments => .error ⟨invocation.name, arguments.length⟩

end CaseSynthesis.Stringify
