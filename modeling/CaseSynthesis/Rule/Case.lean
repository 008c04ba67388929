import CaseSynthesis.Output
import CaseSynthesis.Rule.Basic

/-! The cases of an enum, in the order of their declaration. -/

namespace CaseSynthesis

structure Case where
  name : String
  rawValue : Option Literal
  deriving DecidableEq, Repr

def Node.enum (node : Node) : Except Mismatch Decl :=
  match node with
  | .decl declared =>
    if declared.kind = .enum then .ok declared
    else .error (.notAnEnum declared.name declared.kind)
  | node => .error (.unexpectedNode "an enum declaration" node.kindText)

def Member.elements : Member → List CaseElement
  | cases elements => elements
  | other _ => []

def Decl.elements (decl : Decl) : List CaseElement := decl.members.flatMap Member.elements

/-- The cases that elements declare. None may have a payload, nor the name of one before it. -/
def casesAfter (seen : List String) : List CaseElement → Except Mismatch (List Case)
  | [] => .ok []
  | element :: rest => do
    if element.hasPayload then throw (.casePayload element.name)
    if element.name ∈ seen then throw (.duplicateCase element.name)
    let cases ← casesAfter (element.name :: seen) rest
    return ⟨element.name, element.rawValue⟩ :: cases

def Decl.cases (decl : Decl) : Except Mismatch (List Case) := casesAfter [] decl.elements

def Node.cases (node : Node) : Except Mismatch (List Case) := do (← node.enum).cases

def structural {α : Type} (rule : Rule) (result : Except Mismatch α) : Except SynthesisError α :=
  result.mapError (.structural rule)

def checkFallback (fallback : String) (cases : List Case) : Except SynthesisError Unit :=
  match cases.find? fun case => case.name = fallback with
  | some case => .error (.fallbackCollision case.name)
  | none => .ok ()

def nameLookup (subject : Subject) (fallback : String) (cases : List Case) : Switch where
  subject
  arms := cases.map fun case => ⟨.str case.name, .assignCase case.name⟩
  default := .assignCase fallback

def fallbackText : String := "Unknown"

end CaseSynthesis
