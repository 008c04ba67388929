import CaseSynthesis.Node
import CaseSynthesis.Switch.Basic

/-! What a rule produces: an expression, or declarations that are added to an enum. -/

namespace CaseSynthesis

inductive Expression
  | tuple (elements : List Expression)
  | embedded (expr : ExprText)
  | stringLiteral (value : String)
  deriving Repr

structure Initializer where
  name : String
  parameter : String
  body : Switch
  deriving DecidableEq, Repr

structure Accessor where
  name : String
  body : Switch
  deriving DecidableEq, Repr

inductive Conformance
  | decodable
  | encodable
  deriving DecidableEq, Repr

def Conformance.text : Conformance → String
  | decodable => "Decodable"
  | encodable => "Encodable"

structure Extension where
  target : TypeName
  conformance : Conformance
  body : Switch
  deriving DecidableEq, Repr

inductive Declaration
  | case (name : String)
  | initializer (initializer : Initializer)
  | accessor (accessor : Accessor)
  | extension (extension : Extension)
  deriving DecidableEq, Repr

namespace Declaration

def case? : Declaration → Option String
  | case name => some name
  | _ => none

def initializer? : Declaration → Option Initializer
  | initializer built => some built
  | _ => none

def accessor? : Declaration → Option Accessor
  | accessor built => some built
  | _ => none

def extension? : Declaration → Option Extension
  | extension built => some built
  | _ => none

def body? : Declaration → Option Switch
  | case _ => none
  | initializer built => some built.body
  | accessor built => some built.body
  | extension built => some built.body

end Declaration

end CaseSynthesis
