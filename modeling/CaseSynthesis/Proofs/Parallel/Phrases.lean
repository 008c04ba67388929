import CaseSynthesis.Proofs.Parallel.Primitives

/-! What it means for the phrases of two runs to be the same, and for two supplies of rules to run
side by side. -/

namespace CaseSynthesis.Grammar

open CaseSynthesis.Grammar.Parser

structure Bare (c : Comparison) (first second : Lexemes) : Prop extends Kin c first second where
  bare : View.opening .parenthesis first = false

inductive ArgumentsKin (c : Comparison) : Arguments → Arguments → Prop
  | none : ArgumentsKin c .none .none
  | angled (empty : Bool) {first second : Lexemes} (kin : Kin c first second) :
      ArgumentsKin c (.angled empty first) (.angled empty second)
  | parenthesized {first second : Lexemes} (kin : Kin c first second) :
      ArgumentsKin c (.parenthesized first) (.parenthesized second)

structure SegmentKin (c : Comparison) (segment other : Segment) : Prop where
  separator : Bare c segment.separator other.separator
  name : Kin c [segment.name] [other.name]
  arguments : ArgumentsKin c segment.arguments other.arguments

def PathKin (c : Comparison) (path other : Path) : Prop :=
  List.Forall₂ (SegmentKin c) path.segments other.segments

structure QualifiedKin (c : Comparison) (qualified other : QualifiedPath) : Prop where
  root : Bare c qualified.root other.root
  path : PathKin c qualified.path other.path

inductive TypeFormKin (c : Comparison) : TypeForm → TypeForm → Prop
  | path {qualified other : QualifiedPath} (kin : QualifiedKin c qualified other) :
      TypeFormKin c (.path qualified) (.path other)
  | reference (mutable : Bool) {form form' : TypeForm} (kin : TypeFormKin c form form') :
      TypeFormKin c (.reference mutable form) (.reference mutable form')
  | paren : TypeFormKin c .paren .paren
  | bounds (single : Bool) : TypeFormKin c (.bounds single) (.bounds single)
  | other : TypeFormKin c .other .other

structure TypeKin (c : Comparison) (type other : TypeExpr) : Prop where
  form : TypeFormKin c type.form other.form
  tokens : Kin c type.tokens other.tokens
  single : type.form = .bounds true →
    Kin c (withoutParentheses type.tokens) (withoutParentheses other.tokens)

structure BoundKin (c : Comparison) (bound other : Bound) : Prop where
  form : bound.form = other.form
  tokens : Kin c bound.tokens other.tokens
  inner : bound.form ≠ .constant →
    Kin c (withoutParentheses bound.tokens) (withoutParentheses other.tokens)

structure PatternKin (c : Comparison) (pattern other : Pattern) : Prop where
  form : pattern.form = other.form
  tokens : Kin c pattern.tokens other.tokens

inductive ExprFormKin (c : Comparison) : ExprForm → ExprForm → Prop
  | literal {token token' : Lexeme} (kin : Kin c [token] [token']) :
      ExprFormKin c (.literal token) (.literal token')
  | tuple {elements elements' : List Lexemes} (each : List.Forall₂ (Kin c) elements elements') :
      ExprFormKin c (.tuple elements) (.tuple elements')
  | blockLike : ExprFormKin c .blockLike .blockLike
  | bracedMacro : ExprFormKin c .bracedMacro .bracedMacro
  | comparison : ExprFormKin c .comparison .comparison
  | range : ExprFormKin c .range .range
  | verbatim : ExprFormKin c .verbatim .verbatim
  | other : ExprFormKin c .other .other

structure ExprKin (c : Comparison) (expr other : Expr) : Prop where
  form : ExprFormKin c expr.form other.form
  tokens : Kin c expr.tokens other.tokens

structure AttributeKin (c : Comparison) (attr other : Attribute) : Prop where
  inner : attr.inner = other.inner
  tokens : Kin c attr.tokens other.tokens

def ItemKin (c : Comparison) (item other : Item) : Prop :=
  ∀ attributes attributes', List.Forall₂ (AttributeKin c) attributes attributes' →
    Kin c (item.addAttributes attributes).tokens (other.addAttributes attributes').tokens

def Tagged {α : Type} (c : Comparison) (first second : α × Lexemes) : Prop :=
  first.1 = second.1 ∧ Kin c first.2 second.2

/-- Two supplies of rules that run side by side once a token has been taken. -/
structure RulesCore (c : Comparison) (limit : Nat) (rules rules' : Rules) : Prop where
  expr (place : Place) (structs : Bool) : Parallel c limit place .later .solid (ExprKin c)
    (rules.expr structs) (rules'.expr structs)
  operand (place : Place) (structs : Bool) : Parallel c limit place .later .solid (ExprKin c)
    (rules.operand structs) (rules'.operand structs)
  operators (place : Place) (structs : Bool) (least : Precedence) (left left' : Expr)
    (kin : ExprKin c left left') : Parallel c limit place .later .firm (ExprKin c)
    (rules.operators structs least left) (rules'.operators structs least left')
  boundedExpr (place : Place) : Parallel c limit place .later .solid (ExprKin c)
    rules.boundedExpr rules'.boundedExpr
  type (place : Place) (plus : Bool) : Parallel c limit place .later .solid (TypeKin c)
    (rules.type plus) (rules'.type plus)
  bound (place : Place) (captures constants : Bool) : Parallel c limit place .later .solid
    (BoundKin c) (rules.bound captures constants) (rules'.bound captures constants)
  pattern (place : Place) : Parallel c limit place .later .solid (PatternKin c) rules.pattern
    rules'.pattern
  statements : Parallel c limit .grouped .later .firm (Kin c) rules.statements rules'.statements
  item : Parallel c limit .grouped .later .solid (ItemKin c) rules.item rules'.item
  fields : Parallel c limit .grouped .later .solid (Kin c) rules.fields rules'.fields
  useTree (rooted : Bool) : Parallel c limit .grouped .later .solid
    (fun tree tree' => Kin c tree.1 tree'.1 ∧ tree.2 = tree'.2) (rules.useTree rooted)
    (rules'.useTree rooted)

def Comparison.alone : Comparison := ⟨[],[],False,False,.inl rfl,.inl rfl⟩

structure RulesKin (c : Comparison) (limit : Nat) (rules rules' : Rules) : Prop
    extends RulesCore c limit rules rules' where
  alone : RulesCore .alone 0 rules rules

variable {c : Comparison}

private theorem Kin.not_opening {lexeme other : Lexeme} (kin : Kin c [lexeme] [other])
    (delimiter : Delimiter) : lexeme.token ≠ .opening delimiter := by
  intro opens
  have enclosed := kin.enclosed [] []
  simp [Lexemes.tokens,opens,Lexer.balanced] at enclosed

namespace Bare

variable {first second first' second' : Lexemes}

theorem nil : Bare c [] [] := ⟨.nil,rfl⟩

theorem single {lexeme other : Lexeme} (kin : Kin c [lexeme] [other]) : Bare c [lexeme] [other] := by
  refine ⟨kin,?_⟩
  have open' := kin.not_opening .parenthesis
  simpa [View.opening] using open'

theorem append (left : Bare c first second) (filled : first ≠ []) (right : Kin c first' second') :
    Bare c (first ++ first') (second ++ second') := by
  refine ⟨left.toKin.append right,?_⟩
  cases first with
  | nil => contradiction
  | cons lexeme first => exact left.bare

theorem appendBare (left : Bare c first second) (right : Bare c first' second') :
    Bare c (first ++ first') (second ++ second') := by
  refine ⟨left.toKin.append right.toKin,?_⟩
  cases first with
  | nil => exact right.bare
  | cons lexeme first => exact left.bare

theorem inner (bare : Bare c first second) :
    Kin c (withoutParentheses first) (withoutParentheses second) := by
  have there : View.opening .parenthesis second = false := by
    have head := bare.bare
    cases bare.alike with
    | nil => rfl
    | @cons lexeme other _ _ resembles _ =>
      rcases resembles with same | ⟨_,sign,_,two⟩
      · simpa [View.opening,same] using head
      · simp [View.opening,two]
  rw [withoutParentheses,withoutParentheses,if_neg (by simp [bare.bare]),if_neg (by simp [there])]
  exact bare.toKin

end Bare

theorem ArgumentsKin.tokens {arguments other : Arguments} (kin : ArgumentsKin c arguments other) :
    Kin c arguments.tokens other.tokens := by
  cases kin with
  | none => exact .nil
  | angled empty kin => exact kin
  | parenthesized kin => exact kin

theorem ArgumentsKin.isEmpty {arguments other : Arguments} (kin : ArgumentsKin c arguments other) :
    arguments.isEmpty = other.isEmpty := by
  cases kin <;> rfl

theorem ArgumentsKin.isAbsent {arguments other : Arguments} (kin : ArgumentsKin c arguments other) :
    arguments.isAbsent = other.isAbsent := by
  cases kin <;> rfl

theorem ArgumentsKin.isParenthesized {arguments other : Arguments}
    (kin : ArgumentsKin c arguments other) :
    arguments.isParenthesized = other.isParenthesized := by
  cases kin <;> rfl

private theorem SegmentKin.tokens {segment other : Segment} (kin : SegmentKin c segment other) :
    Bare c segment.tokens other.tokens := by
  have named := (Bare.single kin.name).append (by simp) kin.arguments.tokens
  exact kin.separator.appendBare named

namespace PathKin

variable {path other : Path}

theorem tokens (kin : PathKin c path other) : Bare c path.tokens other.tokens := by
  obtain ⟨segments⟩ := path
  obtain ⟨others⟩ := other
  have each : List.Forall₂ (SegmentKin c) segments others := kin
  change Bare c (segments.flatMap Segment.tokens) (others.flatMap Segment.tokens)
  clear kin
  induction each with
  | nil => exact .nil
  | cons head rest ih =>
    rw [List.flatMap_cons,List.flatMap_cons]
    exact head.tokens.appendBare ih

theorem isPlain (kin : PathKin c path other) : path.isPlain = other.isPlain := by
  obtain ⟨segments⟩ := path
  obtain ⟨others⟩ := other
  have each : List.Forall₂ (SegmentKin c) segments others := kin
  change segments.all _ = others.all _
  clear kin
  induction each with
  | nil => rfl
  | cons head rest ih => rw [List.all_cons,List.all_cons,ih,head.arguments.isAbsent]

theorem isGlobal (kin : PathKin c path other) : path.isGlobal = other.isGlobal := by
  obtain ⟨segments⟩ := path
  obtain ⟨others⟩ := other
  have each : List.Forall₂ (SegmentKin c) segments others := kin
  cases each with
  | nil => rfl
  | cons head rest => exact congrArg (!·) head.separator.isEmpty

theorem snoc {segment segment' : Segment} (kin : PathKin c path other)
    (last : SegmentKin c segment segment') :
    PathKin c ⟨path.segments ++ [segment]⟩ ⟨other.segments ++ [segment']⟩ :=
  List.rel_append kin (.cons last .nil)

/-- Both paths are empty, or both have a last segment. -/
theorem last (kin : PathKin c path other) : (path.last? = none ∧ other.last? = none) ∨
    ∃ segment segment', path.last? = some segment ∧ other.last? = some segment' ∧
      SegmentKin c segment segment' ∧
      List.Forall₂ (SegmentKin c) path.segments.dropLast other.segments.dropLast := by
  obtain ⟨segments⟩ := path
  obtain ⟨others⟩ := other
  have each : List.Forall₂ (SegmentKin c) segments others := kin
  rcases segments.eq_nil_or_concat with rfl | ⟨before,segment,rfl⟩
  · cases each
    exact .inl ⟨rfl,rfl⟩
  · rcases others.eq_nil_or_concat with rfl | ⟨before',segment',rfl⟩
    · have length := each.length_eq
      simp at length
    · have length : before.length = before'.length := by simpa using each.length_eq
      have front := List.forall₂_take before.length each
      have back := List.forall₂_drop before.length each
      rw [List.concat_eq_append,List.concat_eq_append,List.take_left,length,List.take_left] at front
      rw [List.concat_eq_append,List.concat_eq_append,List.drop_left,length,List.drop_left] at back
      refine .inr ⟨segment,segment',by simp [Path.last?],by simp [Path.last?],?_,?_⟩
      · simpa using back
      · simpa using front

theorem withArguments {arguments arguments' : Arguments} (kin : PathKin c path other)
    (given : ArgumentsKin c arguments arguments') :
    PathKin c (path.withArguments arguments) (other.withArguments arguments') := by
  rcases kin.last with ⟨one,two⟩ | ⟨segment,segment',one,two,last,front⟩
  · rw [Path.withArguments,Path.withArguments,one,two]
    exact kin
  · rw [Path.withArguments,Path.withArguments,one,two]
    exact List.rel_append front (.cons ⟨last.separator,last.name,given⟩ .nil)

end PathKin

theorem QualifiedKin.tokens {qualified other : QualifiedPath} (kin : QualifiedKin c qualified other) :
    Bare c qualified.tokens other.tokens := kin.root.appendBare kin.path.tokens

theorem QualifiedKin.isQualified {qualified other : QualifiedPath}
    (kin : QualifiedKin c qualified other) : qualified.isQualified = other.isQualified :=
  congrArg (!·) kin.root.isEmpty

/-- A type that is not a single bound. -/
theorem TypeKin.of {type other : TypeExpr} (form : TypeFormKin c type.form other.form)
    (tokens : Kin c type.tokens other.tokens) (several : type.form ≠ .bounds true) :
    TypeKin c type other := ⟨form,tokens,fun single => absurd single several⟩

theorem TypeKin.other {first second : Lexemes} (kin : Kin c first second) :
    TypeKin c ⟨.other,first⟩ ⟨.other,second⟩ := .of .other kin nofun

theorem TypeKin.paren {first second : Lexemes} (kin : Kin c first second) :
    TypeKin c ⟨.paren,first⟩ ⟨.paren,second⟩ := .of .paren kin nofun

theorem ExprKin.other {first second : Lexemes} (kin : Kin c first second) :
    ExprKin c (.other first) (.other second) := ⟨.other,kin⟩

namespace ExprKin

variable {expr other : Expr}

theorem isRange (kin : ExprKin c expr other) : expr.isRange = other.isRange := by
  obtain ⟨form,tokens⟩ := expr
  obtain ⟨form',tokens'⟩ := other
  obtain ⟨forms,_⟩ := kin
  cases forms <;> rfl

end ExprKin

end CaseSynthesis.Grammar
