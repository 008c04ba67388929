/-! What a rule is applied to: expressions, macro calls and declarations, as a front end hands them
over. -/

namespace CaseSynthesis

structure ExprText where
  source : String
  deriving DecidableEq, Repr

structure Invocation where
  name : String
  arguments : List ExprText
  deriving DecidableEq, Repr

inductive DeclKind
  | enum
  | struct
  | union
  | trait
  | function
  | other (name : String)
  deriving DecidableEq, Repr

def DeclKind.text : DeclKind → String
  | enum => "enum"
  | struct => "struct"
  | union => "union"
  | trait => "trait"
  | function => "fn"
  | other name => name

structure TypeName where
  name : String
  deriving DecidableEq, Repr

/-- A literal; a string is kept as the text it denotes, any other as it is spelled. -/
inductive Literal
  | str (value : String)
  | number (spelling : String)
  deriving DecidableEq, Repr

def Literal.str? : Literal → Option String
  | str value => some value
  | number _ => none

structure CaseElement where
  name : String
  rawValue : Option Literal
  hasPayload : Bool
  deriving DecidableEq, Repr

/-- A member of a declaration. One line may declare several cases. -/
inductive Member
  | cases (elements : List CaseElement)
  | other (source : String)
  deriving DecidableEq, Repr

/-- A declaration. The first type that an enum inherits is that of its raw values. -/
structure Decl where
  kind : DeclKind
  name : String
  inherited : List TypeName
  members : List Member
  deriving DecidableEq, Repr

inductive Node
  | expr (expr : ExprText)
  | decl (decl : Decl)
  | invocation (invocation : Invocation)
  deriving DecidableEq, Repr

def Node.kindText : Node → String
  | expr _ => "an expression"
  | decl _ => "a declaration"
  | invocation _ => "a macro invocation"

end CaseSynthesis
