import CaseSynthesis.Proofs.Legible
import CaseSynthesis.Proofs.Parsing
import Mathlib.Data.List.Forall2

/-! Two runs of a parser side by side, on streams that differ in the places of their tokens and in
how they end. Whatever the first run reads the second reads too, and gives the same phrase.

The first stream may go on with a tail where the second ends: a comma, which separates an expression
from what follows it, or the attribute that a doc comment stands for. In the latter case the second
run is not looked at, and only how far the first one goes is of interest. Or the second stream goes on
where the first ends, with something that no phrase starts with. -/

namespace CaseSynthesis.Grammar

open Lexer (balanced docTokens)
open CaseSynthesis.Grammar.Parser

inductive Ended : Lexemes → Prop
  | nil : Ended []
  | closing (delimiter : Delimiter) (span : Span) (rest : Lexemes) :
      Ended (⟨.closing delimiter,span⟩ :: rest)
  | comma (joint : Bool) (span : Span) (rest : Lexemes) : Ended (⟨.punct ',' joint,span⟩ :: rest)

structure Comparison where
  /-- What the first stream still has where the second has ended. -/
  tail : Lexemes
  /-- What the second stream still has where the first has ended. -/
  beyond : Lexemes
  compared : Prop
  /-- The last sign before the tail may be joint in the first stream only. -/
  loosened : Prop
  form : tail = [] ∨ (∃ joint span, tail = [⟨.punct ',' joint,span⟩]) ∨
    ¬ compared ∧ ∃ inner comment, docTokens inner comment = some tail.tokens
  onward : beyond = [] ∨ tail = [] ∧ Ended beyond

def Comparison.Alike (c : Comparison) (token other : Token) : Prop :=
  token = other ∨ c.loosened ∧ ∃ sign, token = .punct sign true ∧ other = .punct sign false

def Comparison.Resembles (c : Comparison) (lexeme other : Lexeme) : Prop :=
  c.Alike lexeme.token other.token

/-- The streams up to the tail: token for token the same, but for the last one. -/
inductive Comparison.Matches (c : Comparison) : Lexemes → Lexemes → Prop
  | nil : Matches c [] c.beyond
  | cons {lexeme other : Lexeme} {rest others : Lexemes} (same : lexeme.token = other.token)
      (more : Matches c rest others) : Matches c (lexeme :: rest) (other :: others)
  | last {lexeme other : Lexeme} (followed : c.tail ≠ [])
      (alike : c.Alike lexeme.token other.token) : Matches c [lexeme] [other]

/-- The tokens of a phrase in both runs. They are such as can be printed and read back. -/
structure Kin (c : Comparison) (first second : Lexemes) : Prop where
  legible : ∀ lexeme ∈ first, lexeme.token.Legible
  enclosed : Token.Enclosed first.tokens
  unslashed : Token.unslashed first.tokens = true
  alike : List.Forall₂ c.Resembles first second

structure Sound (stream : Lexemes) : Prop where
  legible : ∀ lexeme ∈ stream, lexeme.token.Legible
  unslashed : Token.unslashed stream.tokens = true
  balanced : ∃ pending, balanced pending stream.tokens = true

inductive Place
  | outside
  | angled
  | grouped
  deriving DecidableEq

inductive Stage
  | start
  | later
  deriving DecidableEq

inductive Grip
  | loose
  | begun
  | firm
  | solid
  deriving DecidableEq

def Stage.bound (limit : Nat) : Stage → Nat
  | start => limit + 1
  | later => limit

def Stage.after : Grip → Stage → Stage
  | .begun, _ => .later
  | .solid, _ => .later
  | _, stage => stage

/-- What is required of the rest of a parser that has to have a grip. -/
@[reducible] def Grip.after : Grip → Grip → Grip
  | _, .loose => .loose
  | .begun, .begun => .loose
  | .solid, .begun => .loose
  | _, .begun => .begun
  | .loose, _ => .solid
  | .begun, _ => .solid
  | .firm, wanted => wanted
  | .solid, _ => .firm

class inductive Grip.Light : Grip → Prop
  | loose : Light .loose
  | firm : Light .firm

attribute [instance] Grip.Light.loose Grip.Light.firm

namespace Comparison

variable (c : Comparison)

def Uneven : Place → Prop
  | .outside => c.tail ≠ []
  | _ => c.tail ≠ [] ∨ c.beyond ≠ []

def Live (place : Place) (first second : Lexemes) : Prop :=
  ∃ shared, first = shared ++ c.tail ∧ (c.compared → c.Matches shared second) ∧
    (place = .angled → c.Uneven place → shared ≠ []) ∧
    (place = .grouped → ∃ delimiter pending, balanced (delimiter :: pending) first.tokens = true)

/-- The first stream has come to its tail where it has no business with it. -/
def Spent (place : Place) (first : Lexemes) : Prop :=
  c.Uneven place ∧
    (place = .outside ∧ first = [] ∨ place = .angled ∧ (first = [] ∨ first = c.tail))

structure State (place : Place) (first second : Lexemes) : Prop where
  sound : Sound first
  reached : c.Live place first second ∨ c.Spent place first

def EndsWell (taken rest : Lexemes) : Prop :=
  (c.tail ≠ [] → rest ≠ []) ∧ ∀ joint, taken.tokens.getLast? ≠ some (.punct '/' joint)

def Holds (taken rest : Lexemes) : Grip → Prop
  | .loose => True
  | .begun => taken ≠ []
  | .firm => taken = [] ∨ c.EndsWell taken rest
  | .solid => taken ≠ [] ∧ c.EndsWell taken rest

/-- The part that a parser takes off a stream: whole groups, with an end of the given kind. -/
def Taken (grip : Grip) (first rest : Lexemes) : Prop :=
  ∃ taken, first = taken ++ rest ∧ Token.Enclosed taken.tokens ∧ c.Holds taken rest grip

end Comparison

/-- Two runs from the given streams. In a group they also fail together. -/
def ParallelAt {α β : Type} (c : Comparison) (place : Place) (grip : Grip) (R : α → β → Prop)
    (first second : Lexemes) (p : Parser α) (q : Parser β) : Prop :=
  (∀ a rest, p first = some (a,rest) → ∃ b left, c.State place rest left ∧
      c.Taken grip first rest ∧ R a b ∧
      (c.compared → c.Live place rest left → q second = some (b,left))) ∧
    (c.compared → place = .grouped → p first = none → q second = none)

/-- Two parsers that run side by side wherever they start, as long as the second stream is not longer
than the rules reach. -/
def Parallel {α β : Type} (c : Comparison) (limit : Nat) (place : Place) (stage : Stage)
    (grip : Grip) (R : α → β → Prop) (p : Parser α) (q : Parser β) : Prop :=
  ∀ first second, c.State place first second →
    (c.compared → c.Live place first second → second.length < stage.bound limit) →
    ParallelAt c place grip R first second p q

/-! Tokens of phrases. -/

namespace Comparison

variable {c : Comparison}

theorem beyond_of_tail (followed : c.tail ≠ []) : c.beyond = [] :=
  c.onward.resolve_right fun onward => followed onward.1

theorem Matches.length {first second : Lexemes} (m : c.Matches first second) :
    second.length = first.length + c.beyond.length := by
  induction m with
  | nil => simp
  | cons same more ih => simp only [List.length_cons,ih]; omega
  | last followed alike => simp [beyond_of_tail followed]

theorem Matches.tail_of {lexeme : Lexeme} {rest second : Lexemes}
    (m : c.Matches (lexeme :: rest) second) : c.Matches rest second.tail := by
  cases m with
  | cons same more => exact more
  | @last _ other followed alike =>
    have ended : c.Matches [] c.beyond := .nil
    rwa [beyond_of_tail followed] at ended

private theorem Matches.head_of {lexeme : Lexeme} {rest second : Lexemes}
    (m : c.Matches (lexeme :: rest) second) :
    ∃ other left, second = other :: left ∧ c.Alike lexeme.token other.token := by
  cases m with
  | cons same more => exact ⟨_,_,rfl,.inl same⟩
  | last followed alike => exact ⟨_,_,rfl,alike⟩

/-- What is taken off the first stream stands at the head of the second as well. -/
theorem Matches.drop {taken rest second : Lexemes} (m : c.Matches (taken ++ rest) second) :
    c.Matches rest (second.drop taken.length) := by
  induction taken generalizing second with
  | nil => exact m
  | cons lexeme taken ih =>
    have more := ih m.tail_of
    rwa [List.drop_tail] at more

theorem Matches.take {taken rest second : Lexemes} (m : c.Matches (taken ++ rest) second) :
    List.Forall₂ c.Resembles taken (second.take taken.length) := by
  induction taken generalizing second with
  | nil => exact .nil
  | cons lexeme taken ih =>
    obtain ⟨other,left,rfl,alike⟩ := m.head_of
    exact .cons alike (ih m.tail_of)

end Comparison

theorem tokens_append (first second : Lexemes) :
    Lexemes.tokens (first ++ second) = first.tokens ++ second.tokens := List.map_append

theorem Sound.rest {taken rest : Lexemes} (sound : Sound (taken ++ rest)) : Sound rest := by
  obtain ⟨legible,unslashed,pending,closed⟩ := sound
  refine ⟨fun lexeme member => legible lexeme (by simp [member]),?_,?_⟩
  · rw [tokens_append] at unslashed
    exact Token.unslashed_of_append _ _ unslashed
  · induction taken generalizing pending with
    | nil => exact ⟨pending,closed⟩
    | cons lexeme taken ih =>
      have more := fun other member => legible other (List.mem_cons_of_mem lexeme member)
      have apart := Token.unslashed_of_append [lexeme.token] _ unslashed
      obtain ⟨token,span⟩ := lexeme
      cases token with
      | opening delimiter => exact ih more apart (delimiter :: pending) closed
      | closing delimiter =>
        cases pending with
        | nil => cases closed
        | cons innermost outer =>
          have both : (innermost == delimiter) = true ∧
              Lexer.balanced outer (Lexemes.tokens (taken ++ rest)) = true := by
            simpa [Lexemes.tokens,Lexer.balanced] using closed
          exact ih more apart outer both.2
      | _ => exact ih more apart pending closed

namespace Kin

variable {c : Comparison} {first second first' second' : Lexemes}

theorem nil : Kin c [] [] := ⟨by simp,.nil,rfl,.nil⟩

theorem append (left : Kin c first second) (right : Kin c first' second') :
    Kin c (first ++ first') (second ++ second') where
  legible lexeme member := (List.mem_append.mp member).elim (left.legible lexeme)
    (right.legible lexeme)
  enclosed := by
    rw [tokens_append]
    exact left.enclosed.append right.enclosed
  unslashed := by
    rw [tokens_append]
    exact Token.unslashed_append _ _ left.unslashed right.unslashed
  alike := List.rel_append left.alike right.alike

theorem length (kin : Kin c first second) : first.length = second.length := kin.alike.length_eq

theorem isEmpty (kin : Kin c first second) : first.isEmpty = second.isEmpty := by
  have same := kin.length
  cases first <;> cases second <;> simp_all

/-- A phrase is its own counterpart. -/
theorem self {c' : Comparison} (kin : Kin c first second) : Kin c' first first :=
  ⟨kin.legible,kin.enclosed,kin.unslashed,List.forall₂_same.mpr fun _ _ => .inl rfl⟩

theorem flatten {firsts seconds : List Lexemes} (each : List.Forall₂ (Kin c) firsts seconds) :
    Kin c firsts.flatten seconds.flatten := by
  induction each with
  | nil => exact nil
  | cons head _ ih => exact head.append ih

theorem flatMap {α β : Type} {R : α → β → Prop} {f : α → Lexemes} {g : β → Lexemes}
    {firsts : List α} {seconds : List β} (each : List.Forall₂ R firsts seconds)
    (kin : ∀ a b, R a b → Kin c (f a) (g b)) : Kin c (firsts.flatMap f) (seconds.flatMap g) := by
  induction each with
  | nil => exact nil
  | cons head _ ih =>
    rw [List.flatMap_cons,List.flatMap_cons]
    exact (kin _ _ head).append ih

end Kin

namespace Comparison

variable {c : Comparison} {place : Place} {first second rest left : Lexemes}

theorem Live.length (compared : c.compared) (live : c.Live place first second) :
    first.length + c.beyond.length = second.length + c.tail.length := by
  obtain ⟨shared,rfl,same,_⟩ := live
  rw [List.length_append,(same compared).length]
  omega

theorem Spent.not_live (spent : c.Spent place first) : ¬ c.Live place first second := by
  rintro ⟨shared,rfl,_,filled,_⟩
  obtain ⟨uneven,⟨rfl,empty⟩ | ⟨rfl,empty | same⟩⟩ := spent
  · exact uneven (List.append_eq_nil_iff.mp empty).2
  · exact filled rfl uneven (List.append_eq_nil_iff.mp empty).1
  · exact filled rfl uneven (List.append_left_eq_self.mp same)

theorem State.live_of_grouped (state : c.State .grouped first second) :
    c.Live .grouped first second := by
  rcases state.reached with live | ⟨_,⟨place,_⟩ | ⟨place,_⟩⟩
  · exact live
  · cases place
  · cases place

/-- A parser that comes to a stop before the tail has started before it. -/
theorem State.live_of_rest {grip : Grip} (state : c.State place first second)
    (taken : c.Taken grip first rest) (live : c.Live place rest left) :
    c.Live place first second := by
  rcases state.reached with started | spent
  · exact started
  · exfalso
    obtain ⟨taken,rfl,_⟩ := taken
    obtain ⟨shared,rfl,_,filled,_⟩ := live
    obtain ⟨uneven,⟨rfl,empty⟩ | ⟨rfl,empty | same⟩⟩ := spent
    · have none := (List.append_eq_nil_iff.mp empty).2
      exact uneven (List.append_eq_nil_iff.mp none).2
    · have none := (List.append_eq_nil_iff.mp empty).2
      exact filled rfl uneven (List.append_eq_nil_iff.mp none).1
    · rw [← List.append_assoc] at same
      have none := List.append_eq_nil_iff.mp (List.append_left_eq_self.mp same)
      exact filled rfl uneven none.2

private theorem Holds.trans {grip wanted : Grip} {taken more : Lexemes}
    (one : c.Holds taken (more ++ rest) grip) (two : c.Holds more rest (grip.after wanted)) :
    c.Holds (taken ++ more) rest wanted := by
  by_cases none : more = []
  · subst none
    rw [List.append_nil]
    cases wanted <;> cases grip <;> simp_all [Holds]
  · have last (ends : c.EndsWell more rest) : c.EndsWell (taken ++ more) rest := by
      refine ⟨ends.1,fun joint slash => ends.2 joint ?_⟩
      have some : more.tokens ≠ [] := by simpa [Lexemes.tokens] using none
      rwa [tokens_append,List.getLast?_append_of_ne_nil _ some] at slash
    cases wanted <;> cases grip <;> simp_all [Holds]

theorem Taken.trans {grip wanted : Grip} {middle : Lexemes} (one : c.Taken grip first middle)
    (two : c.Taken (grip.after wanted) middle rest) : c.Taken wanted first rest := by
  obtain ⟨taken,rfl,enclosed,held⟩ := one
  obtain ⟨more,rfl,closed,kept⟩ := two
  refine ⟨taken ++ more,by simp,?_,held.trans kept⟩
  rw [tokens_append]
  exact enclosed.append closed

theorem Taken.none {grip : Grip} [light : grip.Light] : c.Taken grip first first := by
  refine ⟨[],rfl,.nil,?_⟩
  cases light with
  | loose => trivial
  | firm => exact .inl rfl

/-- The weaker of two grips. -/
theorem Taken.weaken {grip : Grip} (taken : c.Taken .solid first rest) : c.Taken grip first rest := by
  obtain ⟨taken,rfl,enclosed,filled,ends⟩ := taken
  refine ⟨taken,rfl,enclosed,?_⟩
  cases grip with
  | loose => trivial
  | begun => exact filled
  | firm => exact .inr ends
  | solid => exact ⟨filled,ends⟩

theorem Taken.loosen {grip : Grip} (taken : c.Taken grip first rest) : c.Taken .loose first rest := by
  obtain ⟨taken,rfl,enclosed,_⟩ := taken
  exact ⟨taken,rfl,enclosed,trivial⟩

end Comparison

theorem Comparison.tail_head {c : Comparison} {lexeme : Lexeme} {rest : Lexemes}
    (split : c.tail = lexeme :: rest) :
    ∃ sign joint, lexeme.token = .punct sign joint ∧ (sign = ',' ∨ sign = '#') := by
  rcases c.form with none | ⟨joint,span,comma⟩ | ⟨_,inner,comment,doc⟩
  · simp [none] at split
  · rw [comma] at split
    cases split
    exact ⟨_,_,rfl,.inl rfl⟩
  · rw [split,docTokens] at doc
    split at doc
    · have first := congrArg List.head? (Option.some.inj doc)
      refine ⟨'#',false,?_,.inr rfl⟩
      simpa [Lexemes.tokens] using first.symm
    · cases doc

/-- A tail that starts with a comma is no more than that. -/
theorem Comparison.tail_comma {c : Comparison} {joint : Bool} {span : Span} {rest : Lexemes}
    (split : c.tail = ⟨.punct ',' joint,span⟩ :: rest) : rest = [] := by
  rcases c.form with none | ⟨joint',span',comma⟩ | ⟨_,inner,comment,doc⟩
  · rw [none] at split
    cases split
  · rw [comma] at split
    cases split
    rfl
  · rw [split,docTokens] at doc
    split at doc
    · have first := congrArg List.head? (Option.some.inj doc)
      simp [Lexemes.tokens] at first
    · cases doc

namespace Comparison

variable {c : Comparison} {place : Place} {second left shared : Lexemes}

theorem State.of_shared (sound : Sound (shared ++ c.tail))
    (same : c.compared → c.Matches shared left)
    (inside : place = .grouped → ∃ delimiter pending,
      balanced (delimiter :: pending) (Lexemes.tokens (shared ++ c.tail)) = true) :
    c.State place (shared ++ c.tail) left := by
  refine ⟨sound,?_⟩
  by_cases past : place = .angled ∧ c.Uneven place ∧ shared = []
  · obtain ⟨rfl,uneven,rfl⟩ := past
    exact .inr ⟨uneven,.inr ⟨rfl,.inr rfl⟩⟩
  · exact .inl ⟨shared,rfl,same,fun angled uneven empty => past ⟨angled,uneven,empty⟩,inside⟩

/-- Both streams go on from where whole groups have been taken off them. -/
theorem State.advance {taken : Lexemes} (state : c.State place (taken ++ (shared ++ c.tail)) second)
    (live : c.Live place (taken ++ (shared ++ c.tail)) second)
    (enclosed : Token.Enclosed taken.tokens) :
    ∃ other left, c.State place (shared ++ c.tail) left ∧
      List.Forall₂ c.Resembles taken other ∧
      (c.compared → second = other ++ left) := by
  obtain ⟨whole,split,same,_,inside⟩ := live
  rw [← List.append_assoc] at split
  obtain rfl := List.append_cancel_right split
  have grouped (here : place = .grouped) : ∃ delimiter pending,
      balanced (delimiter :: pending) (Lexemes.tokens (shared ++ c.tail)) = true := by
    obtain ⟨delimiter,pending,closed⟩ := inside here
    rw [tokens_append,enclosed] at closed
    exact ⟨delimiter,pending,closed⟩
  by_cases compared : c.compared
  · have all := same compared
    refine ⟨second.take taken.length,second.drop taken.length,
      .of_shared state.sound.rest (fun _ => all.drop) grouped,all.take,?_⟩
    exact fun _ => (List.take_append_drop _ _).symm
  · exact ⟨taken,second,.of_shared state.sound.rest (fun seen => absurd seen compared) grouped,
      List.forall₂_same.mpr fun _ _ => .inl rfl,fun seen => absurd seen compared⟩

end Comparison

end CaseSynthesis.Grammar
