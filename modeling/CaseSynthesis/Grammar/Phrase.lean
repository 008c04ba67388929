import CaseSynthesis.Grammar.Parser

/-! The phrases of the grammar. What the rest of the library looks into has structure: paths, types,
attributes and enum items. Of any other phrase only its canonical tokens are kept, with as much of
its form as the grammar around it asks for. -/

namespace CaseSynthesis.Grammar

inductive Arguments
  | none
  | angled (empty : Bool) (tokens : Lexemes)
  | parenthesized (tokens : Lexemes)

namespace Arguments

def tokens : Arguments → Lexemes
  | none => []
  | angled _ tokens => tokens
  | parenthesized tokens => tokens

def isEmpty : Arguments → Bool
  | none => true
  | angled empty _ => empty
  | parenthesized _ => false

def isAbsent : Arguments → Bool
  | none => true
  | _ => false

def isParenthesized : Arguments → Bool
  | parenthesized _ => true
  | _ => false

end Arguments

structure Segment where
  separator : Lexemes
  name : Lexeme
  arguments : Arguments

def Segment.tokens (segment : Segment) : Lexemes :=
  segment.separator ++ segment.name :: segment.arguments.tokens

structure Path where
  segments : List Segment

namespace Path

def tokens (path : Path) : Lexemes := path.segments.flatMap Segment.tokens

def isGlobal (path : Path) : Bool :=
  path.segments.head?.any fun segment => !segment.separator.isEmpty

def isPlain (path : Path) : Bool := path.segments.all fun segment => segment.arguments.isAbsent

def last? (path : Path) : Option Segment := path.segments.getLast?

def withArguments (path : Path) (arguments : Arguments) : Path :=
  match path.last? with
  | some last => ⟨path.segments.dropLast ++ [{ last with arguments }]⟩
  | none => path

end Path

structure QualifiedPath where
  root : Lexemes
  path : Path

def QualifiedPath.tokens (qualified : QualifiedPath) : Lexemes :=
  qualified.root ++ qualified.path.tokens

def QualifiedPath.isQualified (qualified : QualifiedPath) : Bool := !qualified.root.isEmpty

inductive TypeForm
  | path (path : QualifiedPath)
  | reference (mutable : Bool) (target : TypeForm)
  | paren
  | bounds (single : Bool)
  | other

structure TypeExpr where
  form : TypeForm
  tokens : Lexemes

inductive BoundForm
  | trait
  | lifetime
  | captures
  | constant
  deriving DecidableEq, Repr

structure Bound where
  form : BoundForm
  tokens : Lexemes

inductive PatternForm
  | rest
  | openRange
  | verbatim
  | other
  deriving DecidableEq, Repr

structure Pattern where
  form : PatternForm
  tokens : Lexemes

inductive ExprForm
  | literal (token : Lexeme)
  | tuple (elements : List Lexemes)
  | blockLike
  | bracedMacro
  | comparison
  | range
  | verbatim
  | other

structure Expr where
  form : ExprForm
  tokens : Lexemes

namespace Expr

def other (tokens : Lexemes) : Expr := ⟨.other, tokens⟩

def isBlockLike (expr : Expr) : Bool := expr.form matches .blockLike

def isComparison (expr : Expr) : Bool := expr.form matches .comparison

def isRange (expr : Expr) : Bool := expr.form matches .range

def isBracedMacro (expr : Expr) : Bool := expr.form matches .bracedMacro

def prepend (tokens : Lexemes) (expr : Expr) : Expr := { expr with tokens := tokens ++ expr.tokens }

def endsInBrace (expr : Expr) : Bool :=
  expr.tokens.getLast?.any fun lexeme => lexeme.token == .closing .brace

end Expr

inductive AttributeInput
  | empty
  | list (opening inside closing : Lexemes)
  | value (equals tokens : Lexemes)

def AttributeInput.tokens : AttributeInput → Lexemes
  | empty => []
  | list opening inside closing => opening ++ inside ++ closing
  | value equals tokens => equals ++ tokens

structure Attribute where
  inner : Bool
  opening : Lexemes
  path : Path
  input : AttributeInput
  closing : Lexemes

def Attribute.tokens (attr : Attribute) : Lexemes :=
  attr.opening ++ attr.path.tokens ++ attr.input.tokens ++ attr.closing

namespace Attribute

def outerTokens (attributes : List Attribute) : Lexemes :=
  (attributes.filter fun attr => !attr.inner).flatMap tokens

def innerTokens (attributes : List Attribute) : Lexemes :=
  (attributes.filter fun attr => attr.inner).flatMap tokens

end Attribute

structure Variant where
  attributes : List Attribute
  name : Lexeme
  fields : Lexemes
  discriminant : Option (Lexemes × Expr)

def Variant.tokens (variant : Variant) : Lexemes :=
  variant.attributes.flatMap Attribute.tokens ++ variant.name :: variant.fields ++
    match variant.discriminant with
    | some (equals, value) => equals ++ value.tokens
    | none => []

structure EnumItem where
  attributes : List Attribute
  visibility : Lexemes
  keyword : Lexemes
  name : Lexeme
  generics : Lexemes
  whereClause : Lexemes
  opening : Lexemes
  variants : Parser.Separated Variant
  closing : Lexemes

def EnumItem.tokens (item : EnumItem) : Lexemes :=
  item.attributes.flatMap Attribute.tokens ++ item.visibility ++ item.keyword ++ item.name ::
    item.generics ++ item.whereClause ++ item.opening ++
    Parser.Separated.tokens Variant.tokens item.variants ++ item.closing

inductive ItemKind
  | struct
  | union
  | trait
  | function
  | constant
  | static
  | typeAlias
  | implementation
  deriving DecidableEq, Repr

inductive Item
  | enum (item : EnumItem)
  /-- A declaration: `head` runs to where inner attributes may stand, `tail` is what follows them.
  The name of an implementation is the type it is for. -/
  | declared (kind : ItemKind) (attributes : List Attribute) (name head tail : Lexemes)
  /-- A module; it has no items here when they stand in another file. -/
  | module (attributes : List Attribute) (name : Lexeme) (head : Lexemes) (items : List Item)
      (tail : Lexemes)
  | foreign (attributes : List Attribute) (head tail : Lexemes)
  | other (tokens : Lexemes)

namespace Item

mutual

def tokens : Item → Lexemes
  | .enum item => item.tokens
  | .declared _ attributes _ head tail =>
    Attribute.outerTokens attributes ++ head ++ Attribute.innerTokens attributes ++ tail
  | .module attributes _ head items tail =>
    Attribute.outerTokens attributes ++ head ++ Attribute.innerTokens attributes ++
      tokensAll items ++ tail
  | .foreign attributes head tail =>
    Attribute.outerTokens attributes ++ head ++ Attribute.innerTokens attributes ++ tail
  | .other tokens => tokens

def tokensAll : List Item → Lexemes
  | [] => []
  | item :: rest => item.tokens ++ tokensAll rest

end

def addAttributes (attributes : List Attribute) : Item → Item
  | .enum item => .enum { item with attributes := attributes ++ item.attributes }
  | .declared kind own name head tail => .declared kind (attributes ++ own) name head tail
  | .module own name head items tail => .module (attributes ++ own) name head items tail
  | .foreign own head tail => .foreign (attributes ++ own) head tail
  | .other tokens => .other (attributes.flatMap Attribute.tokens ++ tokens)

end Item

inductive Precedence
  | lowest
  | assignment
  | range
  | disjunction
  | conjunction
  | comparison
  | bitOr
  | bitXor
  | bitAnd
  | shift
  | sum
  | product
  | cast
  deriving DecidableEq, Repr

namespace Precedence

def rank : Precedence → Nat
  | lowest => 0
  | assignment => 1
  | range => 2
  | disjunction => 3
  | conjunction => 4
  | comparison => 5
  | bitOr => 6
  | bitXor => 7
  | bitAnd => 8
  | shift => 9
  | sum => 10
  | product => 11
  | cast => 12

instance : LT Precedence := ⟨fun p q => p.rank < q.rank⟩

instance : LE Precedence := ⟨fun p q => p.rank ≤ q.rank⟩

instance (p q : Precedence) : Decidable (p < q) := inferInstanceAs (Decidable (p.rank < q.rank))

instance (p q : Precedence) : Decidable (p ≤ q) := inferInstanceAs (Decidable (p.rank ≤ q.rank))

end Precedence

/-- The recursive phrases of the grammar. Every production is written over a supply of them, and the
grammar itself is the limit of supplying productions to one another. -/
structure Rules where
  expr (structs : Bool) : Parser Expr
  operand (structs : Bool) : Parser Expr
  operators (structs : Bool) (least : Precedence) (left : Expr) : Parser Expr
  boundedExpr : Parser Expr
  type (plus : Bool) : Parser TypeExpr
  bound (captures constants : Bool) : Parser Bound
  pattern : Parser Pattern
  statements : Parser Lexemes
  item : Parser Item
  fields : Parser Lexemes
  /-- The tree of an import; `rooted` says whether a part of it may start at the crate root, which
  makes the import one that is kept as it stands. -/
  useTree (rooted : Bool) : Parser (Lexemes × Bool)

def Rules.none : Rules where
  expr _ := Parser.fail
  operand _ := Parser.fail
  operators _ _ _ := Parser.fail
  boundedExpr := Parser.fail
  type _ := Parser.fail
  bound _ _ := Parser.fail
  pattern := Parser.fail
  statements := Parser.fail
  item := Parser.fail
  fields := Parser.fail
  useTree _ := Parser.fail

end CaseSynthesis.Grammar
