import CaseSynthesis.Proofs.Parallel.Combinators

/-! Single tokens, signs, groups and lists of phrases, read side by side. -/

namespace CaseSynthesis.Grammar

open Lexer (balanced isPunct)
open CaseSynthesis.Grammar.Parser

/-- A token that is a phrase of its own wherever it stands, and never starts the tail. -/
def isPlain : Token → Bool
  | .ident _ | .lifetime _ | .literal _ => true
  | .punct sign _ => sign != ',' && sign != '#' && sign != '/'
  | _ => false

def Plain (view : View) : Prop :=
  ∀ lexeme more, view (lexeme :: more) = true → isPlain lexeme.token = true

section

variable {α β γ δ : Type} {c : Comparison} {limit : Nat} {place : Place} {stage : Stage}
  {grip wanted : Grip} {R : α → β → Prop} {Q : γ → δ → Prop} {p : Parser α} {q : Parser β}
  {first second rest left : Lexemes}

/-- A stream that starts with something else than the tail does. -/
private theorem Comparison.State.head (state : c.State place first second) (lexeme : Lexeme) (more : Lexemes)
    (split : first = lexeme :: more)
    (other : ∀ sign joint, lexeme.token = .punct sign joint → sign ≠ ',' ∧ sign ≠ '#') :
    ∃ shared, more = shared ++ c.tail ∧ c.Live place first second := by
  have apart (beyond : c.tail = lexeme :: more) : False := by
    obtain ⟨sign,joint,token,marked⟩ := c.tail_head beyond
    obtain ⟨noComma,noHash⟩ := other sign joint token
    rcases marked with rfl | rfl <;> contradiction
  rcases state.reached with live | ⟨_,⟨_,empty⟩ | ⟨_,empty | beyond⟩⟩
  · obtain ⟨shared,whole,_⟩ := id live
    cases shared with
    | nil => exact (apart (by rw [← split,whole,List.nil_append])).elim
    | cons lexeme' shared =>
      rw [split,List.cons_append] at whole
      cases whole
      exact ⟨shared,rfl,live⟩
  · rw [split] at empty
    cases empty
  · rw [split] at empty
    cases empty
  · exact (apart (by rw [← beyond,split])).elim

private theorem plain_other {token : Token} (plain : isPlain token = true) (sign : Char) (joint : Bool)
    (punct : token = .punct sign joint) : sign ≠ ',' ∧ sign ≠ '#' := by
  subst punct
  simp only [isPlain,Bool.and_eq_true,bne_iff_ne] at plain
  exact plain.1

private theorem plain_alike {token token' : Token} (plain : isPlain token = true)
    (alike : c.Alike token token') : isPlain token' = true := by
  rcases alike with rfl | ⟨_,sign,rfl,rfl⟩
  · exact plain
  · exact plain

theorem next_plain (lexeme : Lexeme) (more : Lexemes) (plain : isPlain lexeme.token = true) :
    next (lexeme :: more) = some (lexeme,more) := by
  obtain ⟨token,span⟩ := lexeme
  cases token <;> first | rfl | cases plain

theorem plain_enclosed (lexeme : Lexeme) (plain : isPlain lexeme.token = true) :
    Token.Enclosed (Lexemes.tokens [lexeme]) := by
  intro pending rest
  obtain ⟨token,span⟩ := lexeme
  cases token <;> first | rfl | cases plain

theorem plain_slash {token : Token} (plain : isPlain token = true) (joint : Bool) :
    token ≠ .punct '/' joint := by
  rintro rfl
  cases plain

/-- The next token, when it is a plain one. -/
private theorem ParallelAt.next (state : c.State place first second)
    (each : ∀ lexeme more, first = lexeme :: more → isPlain lexeme.token = true) :
    ParallelAt c place .solid (fun lexeme other => Kin c [lexeme] [other]) first second next next := by
  cases first with
  | nil =>
    refine ⟨fun _ _ run => (by cases run),fun _ inside _ => ?_⟩
    subst inside
    obtain ⟨_,_,filled⟩ := state.live_of_grouped.grouped_filled
    cases filled
  | cons lexeme more =>
    have plain := each lexeme more rfl
    obtain ⟨shared,rfl,live⟩ := state.head lexeme more rfl (plain_other plain)
    have single : c.State place ([lexeme] ++ (shared ++ c.tail)) second := state
    obtain ⟨others,left,reached,alike,same⟩ := single.advance live (plain_enclosed lexeme plain)
    obtain ⟨other,none,resembles,nothing,rfl⟩ := List.forall₂_cons_left_iff.mp alike
    obtain rfl := List.forall₂_nil_left_iff.mp nothing
    have kin : Kin c [lexeme] [other] := by
      refine ⟨?_,plain_enclosed lexeme plain,?_,.cons resembles .nil⟩
      · simpa using state.sound.legible lexeme (by simp)
      · have other := plain_slash plain true
        simpa [Lexemes.tokens,Token.unslashed] using other
    rw [ParallelAt,next_plain lexeme _ plain]
    refine ⟨fun a rest run => ?_,fun _ _ failed => (by cases failed)⟩
    cases run
    refine ⟨other,left,reached,⟨[lexeme],rfl,plain_enclosed lexeme plain,by simp,?_,?_⟩,kin,?_⟩
    · intro followed
      simp [followed]
    · intro joint slash
      exact plain_slash plain joint (by simpa [Lexemes.tokens] using slash)
    · intro compared _
      rw [same compared]
      exact next_plain other left (plain_alike plain resembles)

namespace Parallel

/-- A token that a view picks out. -/
theorem take {view : View} (blind : Blind c view) (plain : Plain view) :
    Parallel c limit place stage .solid (fun lexeme other => Kin c [lexeme] [other]) (take view)
      (take view) := by
  have unfolded : Parser.take view =
      Parser.peek view >>= fun ahead => if ahead = true then next else Parser.fail := by
    funext input
    rw [run_take,run_bind,run_peek,Option.bind_some,run_ite]
    rfl
  rw [unfolded]
  refine .peekAt blind.steady fun first second state bound => ?_
  cases seen : view first with
  | true =>
    refine ParallelAt.next state ?_
    rintro lexeme more rfl
    exact plain lexeme more seen
  | false => exact Parallel.fail first second state bound

/-- The next token, when a view has picked it out. -/
theorem nextSeen {view : View} {f : Lexeme → Parser γ} {g : Lexeme → Parser δ} {p' : Parser γ}
    {q' : Parser δ} (blind : Blind c view) (plain : Plain view)
    (yes : ∀ lexeme other, Kin c [lexeme] [other] →
      Parallel c limit place .later (Grip.after .solid wanted) Q (f lexeme) (g other))
    (no : Parallel c limit place stage wanted Q p' q') :
    Parallel c limit place stage wanted Q
      (Parser.peek view >>= fun ahead => if ahead = true then next >>= f else p')
      (Parser.peek view >>= fun ahead => if ahead = true then next >>= g else q') := by
  refine .peekAt blind.steady fun first second state bound => ?_
  cases seen : view first with
  | true =>
    have one := ParallelAt.next state fun lexeme more split => plain lexeme more (split ▸ seen)
    refine one.bind state fun lexeme other rest left _ kin reached taken => ?_
    exact yes lexeme other kin rest left reached (state.within bound taken)
  | false => exact no first second state bound

theorem nextIf {view : View} (blind : Blind c view) (plain : Plain view) :
    Parallel c limit place stage .solid (Kin c) (nextIf view) (nextIf view) :=
  (take blind plain).bind fun _ _ kin => .pure kin

end Parallel

namespace Plain

variable {view excluded : View} {views : List View}

theorem word : Plain .word := by
  rintro ⟨token,span⟩ more seen
  cases token <;> first | rfl | cases seen

theorem keyword (name : String) : Plain (.keyword name) := by
  intro lexeme more seen
  have token : lexeme.token = .ident ⟨name,false⟩ := by simpa [View.keyword] using seen
  rw [token]
  rfl

theorem ident : Plain .ident := by
  rintro ⟨token,span⟩ more seen
  cases token <;> first | rfl | cases seen

theorem lifetime : Plain .lifetime := by
  rintro ⟨token,span⟩ more seen
  cases token <;> first | rfl | cases seen

theorem stringLiteral : Plain .stringLiteral := by
  rintro ⟨token,span⟩ more seen
  cases token <;> first | rfl | cases seen

theorem literal : Plain .literal := by
  rintro ⟨token,span⟩ more seen
  cases token with
  | punct sign joint =>
    have minus : sign = '-' := by
      unfold View.literal at seen
      split at seen <;> simp_all
    subst minus
    rfl
  | ident name => rfl
  | lifetime name => rfl
  | literal text => rfl
  | _ => cases seen

theorem any (each : ∀ view ∈ views, Plain view) : Plain (.any views) := by
  intro lexeme more seen
  obtain ⟨view,member,held⟩ := List.any_eq_true.mp seen
  exact each view member lexeme more held

end Plain

attribute [simp] Plain.word Plain.keyword Plain.ident Plain.lifetime Plain.stringLiteral Plain.any

namespace Parallel

theorem keyword (name : String) :
    Parallel c limit place stage .solid (Kin c) (keyword name) (keyword name) :=
  nextIf (.keyword name) (.keyword name)

theorem ident : Parallel c limit place stage .solid (Kin c) ident ident :=
  nextIf .ident .ident

theorem word : Parallel c limit place stage .solid (Kin c) word word :=
  nextIf .word .word

theorem lifetime : Parallel c limit place stage .solid (Kin c) lifetime lifetime :=
  nextIf .lifetime .lifetime

end Parallel

/-! Signs. -/

def signTokens : List Char → List Token
  | [] => []
  | sign :: rest => .punct sign (!rest.isEmpty) :: signTokens rest

def isSpelling (text : String) : Bool :=
  !text.toList.isEmpty && text.toList.all (fun sign => isPunct sign && sign != '\'') &&
    Token.unslashed (signTokens text.toList)

def isSign (text : String) : Bool :=
  isSpelling text && text.toList.all fun sign => sign != ',' && sign != '#'

def isClosed (text : String) : Bool := isSign text && text.toList.getLast? != some '/'

def Spells : List Char → Lexemes → Prop :=
  List.Forall₂ fun sign lexeme => ∃ joint, lexeme.token = .punct sign joint

def respelled : List Char → Lexemes → Lexemes
  | sign :: signs, lexeme :: rest =>
    { lexeme with token := .punct sign !signs.isEmpty } :: respelled signs rest
  | _, _ => []

theorem exists_spelled (signs : List Char) (stream : Lexemes)
    (seen : View.chars signs stream = true) :
    ∃ taken more, stream = taken ++ more ∧ Spells signs taken := by
  induction signs generalizing stream with
  | nil => exact ⟨[],stream,rfl,.nil⟩
  | cons sign signs ih =>
    cases stream with
    | nil =>
      cases signs <;> cases seen
    | cons lexeme stream =>
      obtain ⟨token,span⟩ := lexeme
      cases signs with
      | nil =>
        cases token with
        | punct found joint =>
          obtain rfl : sign = found := by simpa [View.chars] using seen
          exact ⟨[⟨.punct sign joint,span⟩],stream,rfl,.cons ⟨joint,rfl⟩ .nil⟩
        | _ => cases seen
      | cons next signs =>
        cases token with
        | punct found joint =>
          cases joint with
          | true =>
            have both : sign = found ∧ View.chars (next :: signs) stream = true := by
              simpa [View.chars] using seen
            obtain ⟨rfl,ahead⟩ := both
            obtain ⟨taken,more,rfl,spelled⟩ := ih stream ahead
            exact ⟨⟨.punct sign true,span⟩ :: taken,more,rfl,.cons ⟨true,rfl⟩ spelled⟩
          | false => cases seen
        | _ => cases seen

theorem run_punctChars (signs : List Char) (taken more : Lexemes) (spelled : Spells signs taken) :
    punctChars signs (taken ++ more) = some (respelled signs taken,more) := by
  induction spelled with
  | nil => rfl
  | @cons sign lexeme signs taken found spelled ih =>
    obtain ⟨token,span⟩ := lexeme
    obtain ⟨joint,rfl⟩ := found
    have head : next (⟨.punct sign joint,span⟩ :: (taken ++ more)) =
        some (⟨.punct sign joint,span⟩,taken ++ more) := rfl
    simp only [List.cons_append,punctChars,run_bind,head,Option.bind_some,ih,run_pure]
    rfl

theorem tokens_respelled (signs : List Char) (taken : Lexemes) (spelled : Spells signs taken) :
    Lexemes.tokens (respelled signs taken) = signTokens signs := by
  induction spelled with
  | nil => rfl
  | cons found spelled ih => exact congrArg _ ih

private theorem Spells.alike {signs : List Char} {taken other : Lexemes} (spelled : Spells signs taken)
    (alike : List.Forall₂ c.Resembles taken other) : Spells signs other := by
  induction spelled generalizing other with
  | nil =>
    cases alike
    exact .nil
  | cons found spelled ih =>
    obtain ⟨lexeme,others,resembles,rest,rfl⟩ := List.forall₂_cons_left_iff.mp alike
    obtain ⟨joint,token⟩ := found
    refine .cons ?_ (ih rest)
    rcases resembles with same | ⟨_,sign,one,two⟩
    · exact ⟨joint,same ▸ token⟩
    · rw [one] at token
      cases token
      exact ⟨false,two⟩

private theorem Spells.enclosed {signs : List Char} {taken : Lexemes} (spelled : Spells signs taken) :
    Token.Enclosed taken.tokens := by
  induction spelled with
  | nil => exact .nil
  | @cons sign lexeme signs taken found spelled ih =>
    obtain ⟨token,span⟩ := lexeme
    obtain ⟨joint,rfl⟩ := found
    exact fun pending rest => ih pending rest

private theorem Spells.last {signs : List Char} {taken : Lexemes} (spelled : Spells signs taken)
    (joint : Bool) (slash : taken.tokens.getLast? = some (.punct '/' joint)) :
    signs.getLast? = some '/' := by
  induction spelled with
  | nil => cases slash
  | @cons sign lexeme signs taken found spelled ih =>
    obtain ⟨token,span⟩ := lexeme
    obtain ⟨joint',rfl⟩ := found
    cases spelled with
    | nil =>
      obtain ⟨rfl,_⟩ : sign = '/' ∧ joint' = joint := by simpa [Lexemes.tokens] using slash
      rfl
    | cons found' spelled => exact ih slash

theorem Kin.of_tokens {tokens : List Token} (one : Lexemes.tokens first = tokens)
    (two : Lexemes.tokens second = tokens) (legible : ∀ token ∈ tokens, token.Legible)
    (enclosed : Token.Enclosed tokens) (unslashed : Token.unslashed tokens = true) :
    Kin c first second := by
  subst one
  refine ⟨?_,enclosed,unslashed,?_⟩
  · intro lexeme member
    exact legible _ (List.mem_map_of_mem member)
  · have same : List.Forall₂ (fun lexeme token => Lexeme.token lexeme = token) first
        (Lexemes.tokens second) := by
      rw [two]
      exact List.forall₂_map_right_iff.mpr (List.forall₂_same.mpr fun _ _ => rfl)
    exact (List.forall₂_map_right_iff.mp same).imp fun _ _ same => .inl same

theorem signTokens_enclosed (signs : List Char) : Token.Enclosed (signTokens signs) := by
  induction signs with
  | nil => exact .nil
  | cons sign signs ih => exact fun pending rest => ih pending rest

theorem mem_signTokens (signs : List Char) (token : Token) (member : token ∈ signTokens signs) :
    ∃ sign ∈ signs, ∃ joint, token = .punct sign joint := by
  induction signs with
  | nil => cases member
  | cons sign signs ih =>
    rcases List.mem_cons.mp member with rfl | later
    · exact ⟨sign,by simp,_,rfl⟩
    · obtain ⟨found,listed,joint,same⟩ := ih later
      exact ⟨found,by simp [listed],joint,same⟩

theorem isSpelling_iff (text : String) : isSpelling text = true ↔ text.toList ≠ [] ∧
    (∀ sign ∈ text.toList, isPunct sign = true ∧ sign ≠ '\'') ∧
    Token.unslashed (signTokens text.toList) = true := by
  simp only [isSpelling,Bool.and_eq_true,Bool.not_eq_true',List.isEmpty_eq_false_iff,
    List.all_eq_true,bne_iff_ne,and_assoc]

theorem isSign_iff (text : String) : isSign text = true ↔
    isSpelling text = true ∧ ∀ sign ∈ text.toList, sign ≠ ',' ∧ sign ≠ '#' := by
  simp only [isSign,Bool.and_eq_true,List.all_eq_true,bne_iff_ne]

theorem run_punct (text : String) (input : Lexemes) :
    punct text input = if View.punct text input then punctChars text.toList input else none := by
  simp only [punct,run_bind,run_peek,run_require,Option.bind_some]
  cases View.punct text input <;> rfl

def Spelled (c : Comparison) (text : String) (first second : Lexemes) : Prop :=
  Kin c first second ∧ Lexemes.tokens first = signTokens text.toList ∧
    Lexemes.tokens second = signTokens text.toList

private theorem kin_respelled {text : String} {taken other : Lexemes} (spelling : isSpelling text = true)
    (one : Spells text.toList taken) (two : Spells text.toList other) :
    Spelled c text (respelled text.toList taken) (respelled text.toList other) := by
  have first := tokens_respelled _ _ one
  have second := tokens_respelled _ _ two
  obtain ⟨_,each,unslashed⟩ := (isSpelling_iff text).mp spelling
  refine ⟨.of_tokens first second ?_ (signTokens_enclosed _) unslashed,first,second⟩
  intro token member
  obtain ⟨found,listed,joint,rfl⟩ := mem_signTokens _ _ member
  exact each found listed

private theorem Spells.mem {signs : List Char} {taken : Lexemes} (spelled : Spells signs taken)
    (lexeme : Lexeme) (member : lexeme ∈ taken) :
    ∃ sign ∈ signs, ∃ joint, lexeme.token = .punct sign joint := by
  induction spelled with
  | nil => cases member
  | @cons sign head signs taken found spelled ih =>
    rcases List.mem_cons.mp member with rfl | later
    · exact ⟨sign,by simp,found⟩
    · obtain ⟨sign,listed,token⟩ := ih later
      exact ⟨sign,by simp [listed],token⟩

/-- A sign stands before the tail, all of it. -/
private theorem Comparison.State.sign_shared {text : String} {taken more : Lexemes}
    (state : c.State place (taken ++ more) second) (sign : isSign text = true)
    (spelled : Spells text.toList taken) :
    ∃ shared, more = shared ++ c.tail ∧ c.Live place (taken ++ more) second := by
  obtain ⟨spelling,each⟩ := (isSign_iff text).mp sign
  have filled := ((isSpelling_iff text).mp spelling).1
  have apart (lexeme : Lexeme) (member : lexeme ∈ taken) (sign : Char) (joint : Bool)
      (token : lexeme.token = .punct sign joint) : sign ≠ ',' ∧ sign ≠ '#' := by
    obtain ⟨found,listed,_,same⟩ := spelled.mem lexeme member
    rw [token] at same
    cases same
    exact each sign listed
  cases taken with
  | nil => exact absurd (List.forall₂_nil_right_iff.mp spelled) filled
  | cons lexeme taken =>
    obtain ⟨shared,split,live⟩ := state.head lexeme (taken ++ more) rfl (apart lexeme (by simp))
    rcases List.append_eq_append_iff.mp split with ⟨before,_,rest⟩ | ⟨beyond,shape,tail⟩
    · exact ⟨before,rest,live⟩
    · -- A sign that ran into the tail would have its first character.
      cases beyond with
      | nil => exact ⟨[],tail.symm,live⟩
      | cons marked beyond =>
        obtain ⟨sign,joint,token,first⟩ := c.tail_head tail
        have other := apart marked (by simp [shape]) sign joint token
        rcases first with rfl | rfl
        · exact absurd rfl other.1
        · exact absurd rfl other.2

/-- A sign that stands before the tail, as far as its end allows. -/
private theorem ParallelAt.sign (text : String) (spelling : isSpelling text = true)
    (ends : text.toList.getLast? = some '/' → grip = .begun) (state : c.State place first second)
    (seenToo : c.compared → c.Live place first second →
      View.punct text first = View.punct text second)
    (ahead : ∀ taken more, first = taken ++ more → Spells text.toList taken →
      ∃ shared, more = shared ++ c.tail ∧ c.Live place first second) :
    ParallelAt c place grip (Spelled c text) first second (punct text) (punct text) := by
  rw [ParallelAt,run_punct,run_punct]
  by_cases seen : View.punct text first = true
  · obtain ⟨taken,more,rfl,spelled⟩ := exists_spelled _ _ seen
    obtain ⟨shared,rfl,live⟩ := ahead taken more rfl spelled
    obtain ⟨other,left,reached,alike,same⟩ := state.advance live spelled.enclosed
    have spelled' := spelled.alike alike
    rw [if_pos seen,run_punctChars _ _ _ spelled]
    refine ⟨fun a rest run => ?_,fun _ _ failed => (by cases failed)⟩
    cases run
    refine ⟨_,left,reached,⟨taken,rfl,spelled.enclosed,?_⟩,kin_respelled spelling spelled spelled',?_⟩
    · have taking : taken ≠ [] := by
        rintro rfl
        exact ((isSpelling_iff text).mp spelling).1 (List.forall₂_nil_right_iff.mp spelled)
      by_cases slash : text.toList.getLast? = some '/'
      · rw [ends slash]
        exact taking
      · have well : c.EndsWell taken (shared ++ c.tail) :=
          ⟨fun followed => by simp [followed],fun joint last => slash (spelled.last joint last)⟩
        cases grip with
        | loose => trivial
        | begun => exact taking
        | firm => exact .inr well
        | solid => exact ⟨taking,well⟩
    · intro compared _
      rw [seenToo compared live] at seen
      rw [if_pos seen,same compared,run_punctChars _ _ _ spelled']
  · rw [if_neg seen]
    refine ⟨fun _ _ run => (by cases run),fun compared inside _ => ?_⟩
    subst inside
    rw [← seenToo compared state.live_of_grouped,if_neg seen]

theorem Parallel.spelled (text : String) (sign : isSign text = true)
    (ends : text.toList.getLast? = some '/' → grip = .begun) :
    Parallel c limit place stage grip (Spelled c text) (punct text) (punct text) := by
  obtain ⟨spelling,each⟩ := (isSign_iff text).mp sign
  have blind : Blind c (.punct text) := .chars _ fun member => (each _ member).1 rfl
  intro first second state bound
  refine .sign text spelling ends state
    (fun compared live => blind first second state.sound (live.sees compared)) ?_
  rintro taken more rfl spelled
  exact state.sign_shared sign spelled

/-- The streams have something before the tail, or the first has come to it. -/
theorem Comparison.State.ahead_or (state : c.State place first second) :
    (∃ lexeme shared, first = lexeme :: shared ++ c.tail) ∨
      place ≠ .grouped ∧ (first = [] ∨ first = c.tail ∧ c.tail ≠ []) := by
  have bare (open' : place ≠ .grouped) (reached : first = c.tail) :
      place ≠ .grouped ∧ (first = [] ∨ first = c.tail ∧ c.tail ≠ []) := by
    by_cases followed : c.tail = []
    · exact ⟨open',.inl (reached.trans followed)⟩
    · exact ⟨open',.inr ⟨reached,followed⟩⟩
  rcases state.reached with live | ⟨_,⟨rfl,empty⟩ | ⟨rfl,empty | reached⟩⟩
  · by_cases inside : place = .grouped
    · subst inside
      exact .inl live.grouped_filled
    · obtain ⟨shared,split,_⟩ := live
      cases shared with
      | nil => exact .inr (bare inside split)
      | cons lexeme shared => exact .inl ⟨lexeme,shared,split⟩
  · exact .inr ⟨nofun,.inl empty⟩
  · exact .inr ⟨nofun,.inl empty⟩
  · exact .inr (bare nofun reached)

theorem Comparison.Spent.nil (followed : c.tail ≠ []) (open' : place ≠ .grouped) :
    c.Spent place [] := by
  cases place with
  | outside => exact ⟨followed,.inl ⟨rfl,rfl⟩⟩
  | angled => exact ⟨.inl followed,.inr ⟨rfl,.inl rfl⟩⟩
  | grouped => contradiction

/-- A sign of one character, where the tail does not come next. -/
theorem ParallelAt.mark (text : String) (spelling : isSpelling text = true) (sign : Char)
    (single : text.toList = [sign]) (closed : sign ≠ '/') (state : c.State place first second)
    (ahead : ∃ lexeme shared, first = lexeme :: shared ++ c.tail) :
    ParallelAt c place .solid (Kin c) first second (punct text) (punct text) := by
  obtain ⟨⟨token,span⟩,shared,rfl⟩ := ahead
  have run : ParallelAt c place .solid (Spelled c text) (⟨token,span⟩ :: shared ++ c.tail) second
      (punct text) (punct text) := by
    refine .sign text spelling ?_ state ?_ ?_
    · intro slash
      rw [single] at slash
      exact absurd (Option.some.inj slash) closed
    · intro compared live
      obtain ⟨other,left,rfl,same | ⟨_,joined,one,two⟩⟩ := live.alike_head compared
      · rw [View.punct,single]
        obtain ⟨token',span'⟩ := other
        cases same
        cases token <;> rfl
      · rw [View.punct,single]
        obtain ⟨token',span'⟩ := other
        cases one
        cases two
        rfl
    · intro taken more split spelled
      rw [single] at spelled
      obtain ⟨lexeme,none,_,nothing,rfl⟩ := List.forall₂_cons_left_iff.mp spelled
      obtain rfl := List.forall₂_nil_left_iff.mp nothing
      refine ⟨shared,(List.cons.inj split).2.symm,?_⟩
      rcases state.reached with live | ⟨_,⟨_,empty⟩ | ⟨_,empty | beyond⟩⟩
      · exact live
      · cases empty
      · cases empty
      · exact absurd (List.append_left_eq_self.mp beyond) (List.cons_ne_nil _ _)
  exact run.mono (fun _ taken => taken) fun _ _ spelled => spelled.1

namespace Parallel

theorem sign (text : String) (closed : isClosed text = true) :
    Parallel c limit place stage .solid (Spelled c text) (Parser.punct text) (Parser.punct text) := by
  simp only [isClosed,Bool.and_eq_true,bne_iff_ne] at closed
  exact spelled text closed.1 fun slash => absurd slash closed.2

theorem punct (text : String) (closed : isClosed text = true) :
    Parallel c limit place stage .solid (Kin c) (punct text) (punct text) :=
  (sign text closed).imp fun _ _ read => read.1

/-- A comma may be the tail itself, and then nothing is left. -/
theorem comma : Parallel c limit place stage .begun (Kin c) (Parser.punct ",") (Parser.punct ",") := by
  intro first second state bound
  rcases state.ahead_or with ahead | ⟨open',beyond⟩
  · have run := ParallelAt.mark "," rfl ',' rfl (by decide) state ahead
    exact run.mono (fun _ taken => taken.weaken) fun _ _ kin => kin
  · refine ⟨fun a rest read => ?_,fun _ inside _ => absurd inside open'⟩
    rcases beyond with rfl | ⟨rfl,followed⟩
    · cases read
    · rw [run_punct] at read
      split at read
      case isFalse => cases read
      case isTrue seen =>
        obtain ⟨taken,after,split,spelled⟩ := exists_spelled [','] _ seen
        obtain ⟨⟨token,span⟩,none,⟨joint,token⟩,nothing,rfl⟩ :=
          List.forall₂_cons_left_iff.mp spelled
        cases token
        obtain rfl := List.forall₂_nil_left_iff.mp nothing
        obtain rfl := c.tail_comma split
        have run := run_punctChars _ _ [] spelled
        rw [split,show ",".toList = [','] from rfl,run] at read
        cases read
        have kin : Spelled c "," (respelled ",".toList [⟨.punct ',' joint,span⟩])
            (respelled ",".toList [⟨.punct ',' joint,span⟩]) := kin_respelled rfl spelled spelled
        refine ⟨_,second,⟨?_,.inr (.nil followed open')⟩,?_,kin.1,fun _ live =>
          absurd live (Comparison.Spent.nil followed open').not_live⟩
        · have sound := state.sound
          rw [split] at sound
          exact sound.rest
        · exact ⟨_,split,spelled.enclosed,List.cons_ne_nil _ _⟩

theorem optionally {view : View} {p q : Parser Lexemes} (blind : Blind c view)
    (run : Parallel c limit place stage .solid (Kin c) p q) :
    Parallel c limit place stage .firm (Kin c) (optionally view p) (optionally view q) :=
  .peekIf blind run.weaken (.pure .nil)

theorem optionalKeyword (name : String) :
    Parallel c limit place stage .firm (Kin c) (optionalKeyword name) (optionalKeyword name) :=
  optionally (.keyword name) (keyword name)

theorem optionalPunct (text : String) (closed : isClosed text = true) :
    Parallel c limit place stage .firm (Kin c) (optionalPunct text) (optionalPunct text) := by
  have plain : ',' ∉ text.toList := by
    simp only [isClosed,Bool.and_eq_true] at closed
    exact fun member => (((isSign_iff text).mp closed.1).2 _ member).1 rfl
  exact optionally (.chars _ plain) (punct text closed)

end Parallel

/-! Groups. -/

inductive Wraps (delimiter : Delimiter) (R : α → β → Prop) :
    Lexemes × α × Lexemes → Lexemes × β × Lexemes → Prop
  | mk {a : α} {b : β} (related : R a b) (opening closing opening' closing' : Span) :
      Wraps delimiter R ([⟨.opening delimiter,opening⟩],a,[⟨.closing delimiter,closing⟩])
        ([⟨.opening delimiter,opening'⟩],b,[⟨.closing delimiter,closing'⟩])

theorem Kin.wrap {inside inside' : Lexemes} (kin : Kin c inside inside') (delimiter : Delimiter)
    (opening closing opening' closing' : Span) :
    Kin c ([⟨.opening delimiter,opening⟩] ++ inside ++ [⟨.closing delimiter,closing⟩])
      ([⟨.opening delimiter,opening'⟩] ++ inside' ++ [⟨.closing delimiter,closing'⟩]) where
  legible := by
    intro lexeme member
    simp only [List.mem_append,List.mem_singleton] at member
    rcases member with (rfl | inner) | rfl
    · trivial
    · exact kin.legible lexeme inner
    · trivial
  enclosed := by
    have wrapped := kin.enclosed.wrap delimiter
    simpa [Lexemes.tokens] using wrapped
  unslashed := by
    rw [tokens_append,tokens_append]
    exact Token.unslashed_append _ _ (Token.unslashed_append _ _ rfl kin.unslashed) rfl
  alike := List.rel_append (List.rel_append (.cons (.inl rfl) .nil) kin.alike)
    (.cons (.inl rfl) .nil)

/-- A delimiter at the head of both streams. -/
private theorem Comparison.Live.step {token : Token} {span : Span} {shared : Lexemes}
    (live : c.Live place (⟨token,span⟩ :: (shared ++ c.tail)) second)
    (other : ∀ sign joint, token ≠ .punct sign joint) :
    ∃ span' left, c.compared → second = ⟨token,span'⟩ :: left ∧ c.Matches shared left := by
  by_cases compared : c.compared
  · obtain ⟨whole,split,same,_⟩ := live
    obtain rfl : ⟨token,span⟩ :: shared = whole :=
      List.append_cancel_right (by rw [← split]; rfl)
    have matched := same compared
    have more := matched.tail_of
    clear same
    cases matched with
    | @cons _ other _ others same _ =>
      obtain ⟨token',span'⟩ := other
      cases same
      exact ⟨span',others,fun _ => ⟨rfl,more⟩⟩
    | @last _ other followed alike =>
      obtain ⟨token',span'⟩ := other
      rcases alike with same | ⟨_,sign,one,_⟩
      · cases same
        exact ⟨span',[],fun _ => ⟨rfl,more⟩⟩
      · exact absurd one (other sign true)
  · exact ⟨span,second,fun seen => absurd seen compared⟩

theorem exists_opening {delimiter : Delimiter} {stream : Lexemes}
    (seen : View.opening delimiter stream = true) :
    ∃ span more, stream = ⟨.opening delimiter,span⟩ :: more := by
  cases stream with
  | nil => cases seen
  | cons lexeme more =>
    obtain ⟨token,span⟩ := lexeme
    obtain rfl : token = .opening delimiter := by simpa [View.opening] using seen
    exact ⟨span,more,rfl⟩

/-- Where a group opens, both streams go on in it. -/
private theorem Comparison.State.inside {delimiter : Delimiter} {span : Span} {more : Lexemes}
    (state : c.State place (⟨.opening delimiter,span⟩ :: more) second) :
    ∃ span' after, c.State .grouped more after ∧
      c.Live place (⟨.opening delimiter,span⟩ :: more) second ∧
      (c.compared → second = ⟨.opening delimiter,span'⟩ :: after) := by
  obtain ⟨shared,rfl,live⟩ := state.head _ more rfl nofun
  obtain ⟨span',after,opened⟩ := live.step nofun
  obtain ⟨pending,closed⟩ := state.sound.balanced
  have whole : Sound ([⟨.opening delimiter,span⟩] ++ (shared ++ c.tail)) := state.sound
  refine ⟨span',after,?_,live,fun compared => (opened compared).1⟩
  exact .of_shared whole.rest (fun compared => (opened compared).2)
    fun _ => ⟨delimiter,pending,closed⟩

/-- Both runs look into the group ahead before they take it. -/
theorem ParallelAt.inside {delimiter : Delimiter} {f : Lexemes → Parser α} {g : Lexemes → Parser β}
    (state : c.State place first second) (seen : View.opening delimiter first = true)
    (run : ∀ inside inside', (∀ view, Steady c .grouped view → view inside = view inside') →
      ParallelAt c place grip R first second (f inside) (g inside')) :
    ParallelAt c place grip R first second (fun input => f (input.drop 1) input)
      (fun input => g (input.drop 1) input) := by
  obtain ⟨span,more,rfl⟩ := exists_opening seen
  obtain ⟨span',after,inner,live,opened⟩ := state.inside
  by_cases compared : c.compared
  · have same (view : View) (steady : Steady c .grouped view) : view more = view after :=
      steady more after compared inner.sound inner.live_of_grouped
    refine .congr state rfl (fun _ _ => ?_) (run more after same)
    rw [opened compared]
    rfl
  · exact .congr state rfl (fun seen _ => absurd seen compared) (run more more fun _ _ => rfl)

def closeGroup (delimiter : Delimiter) (opening : Lexemes) (value : α) :
    Lexemes → Option ((Lexemes × α × Lexemes) × Lexemes)
  | lexeme :: rest =>
    if lexeme.token == .closing delimiter then some ((opening,value,[lexeme]),rest) else none
  | [] => none

theorem run_enclosed (delimiter : Delimiter) (inside : Parser α) (span : Span) (rest : Lexemes) :
    enclosed delimiter inside (⟨.opening delimiter,span⟩ :: rest) =
      (inside rest).bind fun read =>
        closeGroup delimiter [⟨.opening delimiter,span⟩] read.1 read.2 := by
  have seen : View.opening delimiter (⟨.opening delimiter,span⟩ :: rest) = true := by
    simp [View.opening]
  have head : nextIf (View.opening delimiter) (⟨.opening delimiter,span⟩ :: rest) =
      some ([⟨.opening delimiter,span⟩],rest) := by
    simp only [nextIf,run_bind,run_take,seen,if_true]
    rfl
  rw [enclosed,run_bind,head,Option.bind_some,run_bind]
  cases inside rest with
  | none => rfl
  | some read =>
    obtain ⟨value,left⟩ := read
    cases left with
    | nil => rfl
    | cons lexeme left =>
      change (if (lexeme.token == .closing delimiter) = true then _ else _ : Parser _) _ = _
      rw [Option.bind_some,closeGroup]
      split <;> rfl

theorem run_enclosed_none (delimiter : Delimiter) (inside : Parser α) (input : Lexemes)
    (unseen : View.opening delimiter input = false) : enclosed delimiter inside input = none := by
  have head : nextIf (View.opening delimiter) input = none := by
    simp [nextIf,unseen]
  rw [enclosed,run_bind,head]
  rfl

/-- A group ends with a delimiter, and so neither in a slash nor with the tail. -/
private theorem Comparison.Taken.group {taken shared : Lexemes} {delimiter : Delimiter}
    (enclosed : Token.Enclosed taken.tokens)
    (last : taken.tokens.getLast? = some (.closing delimiter)) :
    c.Taken .solid (taken ++ (shared ++ c.tail)) (shared ++ c.tail) := by
  refine ⟨taken,rfl,enclosed,?_,?_,?_⟩
  · rintro rfl
    cases last
  · intro followed
    simp [followed]
  · intro joint slash
    rw [last] at slash
    cases slash

/-- Behind a group both streams stand where they stood before it. -/
private theorem Comparison.State.behind {taken shared left : Lexemes}
    (state : c.State place (taken ++ (shared ++ c.tail)) second)
    (live : c.Live place (taken ++ (shared ++ c.tail)) second)
    (enclosed : Token.Enclosed taken.tokens) (same : c.compared → c.Matches shared left) :
    c.State place (shared ++ c.tail) left := by
  refine .of_shared state.sound.rest same fun inside => ?_
  obtain ⟨_,_,_,_,pending⟩ := live
  obtain ⟨outer,others,closed⟩ := pending inside
  rw [tokens_append,enclosed] at closed
  exact ⟨outer,others,closed⟩

/-- Where the first stream has something else than the end of a group, the second has so too. -/
private theorem closeGroup_other {delimiter : Delimiter} {token : Token} {span : Span} {rest left : Lexemes}
    (ahead : c.Live .grouped (⟨token,span⟩ :: rest) left) (compared : c.compared)
    (other : token ≠ .closing delimiter) (opening : Lexemes) (value : α) :
    closeGroup delimiter opening value left = none := by
  have inner : Place.grouped ≠ .outside := by decide
  rcases ahead.heads inner compared with ⟨none,_⟩ | ⟨lexeme,lexeme',_,_,one,rfl,alike⟩
  · cases none
  · cases one
    have differs : lexeme'.token ≠ .closing delimiter := by
      rcases alike with same | ⟨_,sign,_,two⟩
      · exact fun closing => other (same.trans closing)
      · simp [two]
    simp [closeGroup,differs]

/-- A group, the inside of which may be read in any way. -/
theorem Parallel.enclosed (delimiter : Delimiter)
    (run : Parallel c limit .grouped .later .loose R p q) :
    Parallel c limit place stage .solid (Wraps delimiter R) (enclosed delimiter p)
      (enclosed delimiter q) := by
  intro first second state bound
  cases seen : View.opening delimiter first with
  | false =>
    rw [ParallelAt,run_enclosed_none _ _ _ seen]
    refine ⟨fun _ _ run => (by cases run),fun compared inside _ => ?_⟩
    subst inside
    apply run_enclosed_none
    rw [← Blind.opening delimiter _ _ state.sound (state.live_of_grouped.sees compared)]
    exact seen
  | true =>
    obtain ⟨span,more,rfl⟩ := exists_opening seen
    obtain ⟨span',after,inner,live,opened⟩ := state.inside
    obtain ⟨ran,failed⟩ := run _ _ inner fun compared _ => by
      have within := bound compared live
      rw [opened compared,List.length_cons] at within
      cases stage <;> simp only [Stage.bound] at within ⊢ <;> omega
    rw [ParallelAt,run_enclosed]
    cases read : p more with
    | none =>
      refine ⟨fun _ _ run => (by cases run),fun compared inside _ => ?_⟩
      rw [opened compared,run_enclosed,failed compared rfl read]
      rfl
    | some result =>
      obtain ⟨a,rest⟩ := result
      obtain ⟨b,left,reached,⟨chunk,split,enclosed,_⟩,related,same⟩ := ran a rest read
      have ahead := reached.live_of_grouped
      obtain ⟨⟨token,span''⟩,shared',rfl⟩ := ahead.grouped_filled
      rw [Option.bind_some]
      by_cases ends : token = .closing delimiter
      · subst ends
        have next : c.Live .grouped (⟨.closing delimiter,span''⟩ :: (shared' ++ c.tail)) left := ahead
        obtain ⟨spanLeft,final,closing⟩ := next.step (by simp)
        let taken : Lexemes := ⟨.opening delimiter,span⟩ :: (chunk ++ [⟨.closing delimiter,span''⟩])
        have whole : Token.Enclosed taken.tokens := by
          have wrapped := enclosed.wrap delimiter
          simpa [taken,Lexemes.tokens] using wrapped
        have last : taken.tokens.getLast? = some (.closing delimiter) := by
          simp only [taken,← List.cons_append,tokens_append]
          exact List.getLast?_concat ..
        have parts : (⟨.opening delimiter,span⟩ :: more : Lexemes) = taken ++ (shared' ++ c.tail) := by
          rw [split]
          simp [taken]
        refine ⟨fun value rest run => ?_,fun _ _ none => by simp [closeGroup] at none⟩
        obtain ⟨rfl,rfl⟩ : (([⟨.opening delimiter,span⟩],a,[⟨.closing delimiter,span''⟩]) :
            Lexemes × α × Lexemes) = value ∧ shared' ++ c.tail = rest := by
          simpa [closeGroup] using run
        refine ⟨([⟨.opening delimiter,span'⟩],b,[⟨.closing delimiter,spanLeft⟩]),final,?_,?_,
          .mk related _ _ _ _,fun compared _ => ?_⟩
        · rw [parts] at state live
          exact state.behind live whole fun compared => (closing compared).2
        · rw [parts]
          exact .group whole last
        · rw [opened compared,run_enclosed,same compared ahead,Option.bind_some,
            (closing compared).1]
          simp [closeGroup]
      · refine ⟨fun value rest run => by simp [closeGroup,ends] at run,fun compared inside _ => ?_⟩
        rw [opened compared,run_enclosed,same compared ahead,Option.bind_some]
        exact closeGroup_other ahead compared ends _ _

namespace Parallel

theorem group (delimiter : Delimiter) {p q : Parser Lexemes}
    (run : Parallel c limit .grouped .later .loose (Kin c) p q) :
    Parallel c limit place stage .solid (Kin c) (group delimiter p) (group delimiter q) := by
  refine (enclosed delimiter run).bind ?_
  rintro _ _ ⟨kin,opening,closing,opening',closing'⟩
  exact .pure (kin.wrap delimiter opening closing opening' closing')

end Parallel

/-- What has been taken since an earlier point is the same phrase in both streams, as it stands. -/
private theorem Comparison.State.taken_kin (state : c.State place first second)
    (reached : c.State place rest left) (taken : c.Taken .firm first rest) :
    ∃ other, Kin c (first.take (first.length - rest.length)) other ∧
      (c.compared → c.Live place rest left →
        other = second.take (second.length - left.length)) := by
  obtain ⟨chunk,rfl,enclosed,held⟩ := id taken
  have size : (chunk ++ rest).length - rest.length = chunk.length := by simp
  have unslashed : Token.unslashed chunk.tokens = true := by
    have all := state.sound.unslashed
    rw [tokens_append] at all
    refine Token.unslashed_left _ _ all fun slash => ?_
    rcases held with rfl | ends
    · cases slash
    · exact ends.2 true slash
  have legible : ∀ lexeme ∈ chunk, lexeme.token.Legible :=
    fun lexeme member => state.sound.legible lexeme (by simp [member])
  rw [size,List.take_left]
  by_cases live : c.compared ∧ c.Live place rest left
  · have before := (state.live_of_rest taken live.2).length live.1
    have after := live.2.length live.1
    have same : second.length - left.length = chunk.length := by
      rw [List.length_append] at before
      omega
    obtain ⟨shared,split,same',_⟩ := state.live_of_rest taken live.2
    obtain ⟨shared',rfl,_⟩ := live.2
    rw [← List.append_assoc] at split
    obtain rfl := List.append_cancel_right split
    refine ⟨second.take chunk.length,⟨legible,enclosed,unslashed,(same' live.1).take⟩,?_⟩
    intro _ _
    rw [same]
  · exact ⟨chunk,⟨legible,enclosed,unslashed,List.forall₂_same.mpr fun _ _ => .inl rfl⟩,
      fun compared ahead => absurd ⟨compared,ahead⟩ live⟩

/-- A value that is only known of the second run when that is looked at. -/
protected theorem ParallelAt.pure {a : α} {b : β} (state : c.State place first second)
    [grip.Light]
    (known : ∃ other, R a other ∧ (c.compared → c.Live place first second → other = b)) :
    ParallelAt c place grip R first second (pure a) (pure b) := by
  refine ⟨fun value rest run => ?_,fun _ _ failed => (by cases failed)⟩
  cases run
  obtain ⟨other,related,same⟩ := known
  refine ⟨other,second,state,.none,related,fun compared live => ?_⟩
  rw [same compared live]
  rfl

/-- What has been taken since an earlier point, as it stands. -/
theorem ParallelAt.since {f : Lexemes → γ} {g : Lexemes → δ} {before before' : Lexemes}
    (state : c.State place before before') (reached : c.State place first second)
    (taken : c.Taken .firm before first)
    (each : ∀ tokens tokens', Kin c tokens tokens' → Q (f tokens) (g tokens'))
    [grip.Light] :
    ParallelAt c place grip Q first second
      (get >>= fun after => pure (f (before.take (before.length - after.length))))
      (get >>= fun after => pure (g (before'.take (before'.length - after.length)))) := by
  obtain ⟨other,kin,same⟩ := state.taken_kin reached taken
  refine .pure reached ⟨g other,each _ _ kin,fun compared live => ?_⟩
  rw [same compared live]

/-- What a parser takes, as it stands. -/
theorem Parallel.verbatim (run : Parallel c limit place stage .solid R p q) :
    Parallel c limit place stage .solid (Kin c) (verbatim p) (verbatim q) := by
  refine .getAt fun first second state bound => ?_
  refine run.bindAt state bound fun a b rest left _ reached _ taken => ?_
  exact .since state reached taken.weaken fun _ _ kin => kin

theorem run_anyGroup (span : Span) (delimiter : Delimiter) (chunk more : Lexemes)
    (closes : Closes 0 chunk) :
    anyGroup (⟨.opening delimiter,span⟩ :: (chunk ++ more)) =
      some (⟨.opening delimiter,span⟩ :: chunk,more) := by
  have after : View.afterTree (⟨.opening delimiter,span⟩ :: (chunk ++ more)) = more :=
    closes.afterGroup more
  simp only [anyGroup,after]
  congr 2
  have size : (⟨.opening delimiter,span⟩ :: (chunk ++ more) : Lexemes).length - more.length =
      (⟨.opening delimiter,span⟩ :: chunk : Lexemes).length := by
    simp
    omega
  rw [size,← List.cons_append,List.take_left]

theorem run_anyGroup_none {token : Token} {span : Span} {more : Lexemes}
    (other : ¬ ∃ delimiter, token = .opening delimiter) : anyGroup (⟨token,span⟩ :: more) = none := by
  cases token with
  | opening delimiter => exact absurd ⟨delimiter,rfl⟩ other
  | _ => rfl

theorem Parallel.anyGroup :
    Parallel c limit place stage .solid (Kin c) anyGroup anyGroup := by
  intro first second state bound
  cases first with
  | nil =>
    refine ⟨fun _ _ run => (by cases run),fun _ inside _ => ?_⟩
    subst inside
    obtain ⟨_,_,filled⟩ := state.live_of_grouped.grouped_filled
    cases filled
  | cons lexeme more =>
    obtain ⟨token,span⟩ := lexeme
    by_cases opens : ∃ delimiter, token = .opening delimiter
    · obtain ⟨delimiter,rfl⟩ := opens
      obtain ⟨shared,rfl,live⟩ := state.head _ more rfl nofun
      obtain ⟨pending,closed⟩ := state.sound.balanced
      rw [← List.cons_append,Comparison.balanced_shared] at closed
      obtain ⟨chunk,rest,rfl,closes,enclosed⟩ := exists_group shared delimiter span _ closed
      rw [List.append_assoc] at state live
      have parts : c.State place ((⟨.opening delimiter,span⟩ :: chunk) ++ (rest ++ c.tail)) second :=
        state
      obtain ⟨other,left,reached,alike,same⟩ := parts.advance live enclosed
      obtain ⟨last,ends⟩ := closes.last
      have final : (Lexemes.tokens (⟨.opening delimiter,span⟩ :: chunk)).getLast? =
          some (.closing last) := by
        change (Token.opening delimiter :: chunk.tokens).getLast? = _
        rw [List.getLast?_cons,ends]
        rfl
      obtain ⟨⟨token,span'⟩,others,head,inside,rfl⟩ := List.forall₂_cons_left_iff.mp alike
      obtain rfl : Token.opening delimiter = token := by
        rcases head with same | ⟨_,_,one,_⟩
        · exact same
        · cases one
      have kin : Kin c (⟨.opening delimiter,span⟩ :: chunk) (⟨.opening delimiter,span'⟩ :: others) := by
        refine ⟨fun lexeme member => state.sound.legible lexeme ?_,enclosed,?_,alike⟩
        · rw [← List.cons_append]
          exact List.mem_append_left _ member
        · have all := state.sound.unslashed
          rw [← List.cons_append,tokens_append] at all
          exact Token.unslashed_left _ _ all (by rw [final]; nofun)
      rw [ParallelAt,List.append_assoc,run_anyGroup _ _ _ _ closes]
      refine ⟨fun a rest run => ?_,fun _ _ failed => (by cases failed)⟩
      cases run
      refine ⟨_,left,reached,.group enclosed final,kin,fun compared _ => ?_⟩
      rw [same compared]
      exact run_anyGroup _ _ _ _ (closes.alike inside)
    · rw [ParallelAt,run_anyGroup_none opens]
      refine ⟨fun _ _ run => (by cases run),fun compared inside _ => ?_⟩
      subst inside
      have inner : Place.grouped ≠ .outside := by decide
      rcases state.live_of_grouped.heads inner compared with
        ⟨empty,_⟩ | ⟨_,⟨other,span'⟩,_,left,split,rfl,alike⟩
      · cases empty
      · cases split
        apply run_anyGroup_none
        rcases alike with same | ⟨_,sign,_,two⟩
        · obtain rfl : token = other := same
          exact opens
        · rintro ⟨delimiter,found⟩
          rw [found] at two
          cases two

theorem Parallel.rawGroup (delimiter : Delimiter) :
    Parallel c limit place stage .solid (Kin c) (rawGroup delimiter) (rawGroup delimiter) := by
  refine .peek (.opening delimiter) fun ahead => ?_
  exact .bind (.require rfl) fun _ _ _ => anyGroup

/-! Lists of phrases. -/

def SeparatedKin (c : Comparison) (R : α → β → Prop) : Separated α → Separated β → Prop :=
  List.Forall₂ fun phrase other => R phrase.1 other.1 ∧ Kin c phrase.2 other.2

theorem SeparatedKin.snoc {phrases : Separated α} {others : Separated β} {a : α} {b : β}
    {mark mark' : Lexemes} (before : SeparatedKin c R phrases others) (related : R a b)
    (kin : Kin c mark mark') :
    SeparatedKin c R (phrases ++ [(a,mark)]) (others ++ [(b,mark')]) :=
  List.rel_append before (.cons ⟨related,kin⟩ .nil)

theorem SeparatedKin.tokens {phrases : Separated α} {others : Separated β} {f : α → Lexemes}
    {g : β → Lexemes} (each : SeparatedKin c R phrases others)
    (kin : ∀ a b, R a b → Kin c (f a) (g b)) :
    Kin c (Separated.tokens f phrases) (Separated.tokens g others) :=
  Kin.flatMap each fun _ _ both => (kin _ _ both.1).append both.2

theorem SeparatedKin.flat {phrases others : Separated Lexemes}
    (each : SeparatedKin c (Kin c) phrases others) : Kin c (flat phrases) (flat others) :=
  each.tokens fun _ _ kin => kin

theorem SeparatedKin.isEmpty {phrases : Separated α} {others : Separated β}
    (each : SeparatedKin c R phrases others) : phrases.isEmpty = others.isEmpty := by
  cases each <;> rfl

/-- Whether a separator follows the last phrase. -/
theorem SeparatedKin.marked {phrases : Separated α} {others : Separated β}
    (each : SeparatedKin c R phrases others) :
    phrases.getLast?.all (fun last => !last.2.isEmpty) =
      others.getLast?.all fun last => !last.2.isEmpty := by
  have backward := List.rel_reverse each
  rw [List.getLast?_eq_head?_reverse,List.getLast?_eq_head?_reverse]
  generalize phrases.reverse = reversed at backward ⊢
  generalize others.reverse = reversed' at backward ⊢
  cases backward with
  | nil => rfl
  | cons both _ => exact congrArg (!·) both.2.isEmpty

private theorem Grip.after_self [light : grip.Light] : grip.after grip = grip := by
  cases light <;> rfl

namespace Parallel

theorem many {view : View} (steady : Steady c place view)
    (run : Parallel c limit place stage grip R p q) [grip.Light] :
    Parallel c limit place stage grip (List.Forall₂ R) (many view p) (many view q) := by
  refine .loop (fun phrases others related => ?_) .nil
  refine .peekIfIn steady (run.bind fun a b same => ?_) (.pure ⟨related,rfl⟩)
  rw [Grip.after_self]
  exact .pure ⟨List.rel_append related (.cons same .nil),rfl⟩

theorem separated {stop : View} {mark : String} (steady : Steady c place stop)
    (run : Parallel c limit place stage grip R p q)
    (between : ∀ stage, Parallel c limit place stage grip (Kin c) (Parser.punct mark)
      (Parser.punct mark)) [grip.Light] :
    Parallel c limit place stage grip (SeparatedKin c R) (separated stop mark p)
      (separated stop mark q) := by
  refine .loop (fun phrases others related => ?_) .nil
  refine .peekIfIn steady (.pure ⟨related,rfl⟩) (run.bind fun a b read => ?_)
  rw [Grip.after_self]
  refine .peekIfIn steady (.pure ⟨related.snoc read .nil,rfl⟩) ?_
  refine (between _).bind fun _ _ kin => ?_
  rw [Grip.after_self]
  exact .pure ⟨related.snoc read kin,rfl⟩

theorem joined {stop : View} {mark : String} (steady : Steady c place stop)
    (run : Parallel c limit place stage grip R p q) (seen : Steady c place (.punct mark))
    (between : ∀ stage, Parallel c limit place stage grip (Kin c) (Parser.punct mark)
      (Parser.punct mark)) [grip.Light] :
    Parallel c limit place stage grip (SeparatedKin c R) (joined stop mark p)
      (joined stop mark q) := by
  refine .loop (fun phrases others related => ?_) .nil
  refine .peekIfIn steady (.pure ⟨related,rfl⟩) (run.bind fun a b read => ?_)
  rw [Grip.after_self]
  refine .peekIfIn seen ?_ (.pure ⟨related.snoc read .nil,rfl⟩)
  refine (between _).bind fun _ _ kin => ?_
  rw [Grip.after_self]
  exact .pure ⟨related.snoc read kin,rfl⟩

theorem commaSeparated (run : Parallel c limit .grouped stage .solid R p q) :
    Parallel c limit .grouped stage .loose (SeparatedKin c R) (commaSeparated p)
      (commaSeparated q) :=
  separated (.atEnd nofun) run.weaken fun _ => comma.loosen

end Parallel

/-! Between brackets that are signs. -/

def Place.within : Place → Place
  | outside => angled
  | angled => angled
  | grouped => grouped

private theorem Comparison.State.enter (state : c.State .outside first second) :
    c.State .angled first second := by
  refine ⟨state.sound,?_⟩
  rcases state.reached with ⟨shared,rfl,same,_⟩ | ⟨followed,⟨_,rfl⟩ | ⟨other,_⟩⟩
  · by_cases past : c.Uneven .angled ∧ shared = []
    · obtain ⟨uneven,rfl⟩ := past
      exact .inr ⟨uneven,.inr ⟨rfl,.inr rfl⟩⟩
    · exact .inl ⟨shared,rfl,same,fun _ uneven empty => past ⟨uneven,empty⟩,nofun⟩
  · exact .inr ⟨.inl followed,.inr ⟨rfl,.inl rfl⟩⟩
  · cases other

private theorem Comparison.Live.leave (live : c.Live .angled first second) :
    c.Live .outside first second := by
  obtain ⟨shared,split,same,_⟩ := live
  exact ⟨shared,split,same,nofun,nofun⟩

/-- What stands between the brackets ends before the tail does, since the second bracket comes
first. -/
theorem Parallel.closing {f : α → Lexemes → Parser γ} {g : β → Lexemes → Parser δ} (text : String)
    (closed : isClosed text = true) (inside : Parallel c limit place.within stage .loose R p q)
    (next : ∀ a b mark mark', R a b → Kin c mark mark' →
      Parallel c limit place .later (Grip.after .solid wanted) Q (f a mark) (g b mark')) :
    Parallel c limit place stage wanted Q
      (p >>= fun a => Parser.punct text >>= fun mark => f a mark)
      (q >>= fun b => Parser.punct text >>= fun mark => g b mark) := by
  have regrip : Grip.after .solid (Grip.after .loose wanted) = Grip.after .solid wanted := by
    cases wanted <;> rfl
  have bracket (a : α) (b : β) (related : R a b) :
      Parallel c limit place stage (Grip.after .loose wanted) Q
        (Parser.punct text >>= fun mark => f a mark)
        (Parser.punct text >>= fun mark => g b mark) := by
    refine (Parallel.punct text closed).bind fun mark mark' kin => ?_
    rw [regrip]
    exact next a b mark mark' related kin
  cases place with
  | angled => exact inside.bind fun a b related => bracket a b related
  | grouped => exact inside.bind fun a b related => bracket a b related
  | outside =>
    intro first second state bound
    obtain ⟨ran,_⟩ := inside first second state.enter fun compared live => bound compared live.leave
    refine ⟨fun value final run => ?_,nofun⟩
    rw [run_bind] at run
    obtain ⟨⟨a,rest⟩,read,more⟩ := Option.bind_eq_some_iff.mp run
    obtain ⟨b,left,reached,taken,related,same⟩ := ran a rest read
    have ahead : c.Live .angled rest left := by
      have seen : View.punct text rest = true := by
        by_contra unseen
        rw [run_bind,run_punct,if_neg unseen] at more
        cases more
      obtain ⟨chunk,after,rfl,spelled⟩ := exists_spelled _ _ seen
      have sign : isSign text = true := (Bool.and_eq_true_iff.mp closed).1
      obtain ⟨_,_,live⟩ := reached.sign_shared sign spelled
      exact live
    have left' : c.State .outside rest left := ⟨reached.sound,.inl ahead.leave⟩
    have within : c.compared → c.Live .outside rest left → left.length < stage.bound limit :=
      fun compared live => state.within bound taken compared live
    obtain ⟨ran',_⟩ := bracket a b related rest left left' within
    obtain ⟨value',ended,reached',taken',related',same'⟩ := ran' value final more
    refine ⟨value',ended,reached',taken.trans taken',related',fun compared live => ?_⟩
    rw [run_bind,same compared ahead]
    exact same' compared live

/-! Literals. -/

theorem Parallel.literal :
    Parallel c limit place stage .solid (Kin c) literal literal := by
  intro first second state bound
  refine .peek Blind.literal.steady state ?_
  cases seen : View.literal first with
  | false => exact Parallel.fail first second state bound
  | true =>
    -- A plain token is read as it stands, and of a negated number the minus comes first.
    have single (plain : ∀ lexeme more, first = lexeme :: more → isPlain lexeme.token = true) :
        ParallelAt c place .solid (Kin c) first second (next >>= fun lexeme => pure [lexeme])
          (next >>= fun lexeme => pure [lexeme]) :=
      (ParallelAt.next state plain).bind state fun _ _ _ _ _ kin reached _ =>
        .pure reached ⟨_,kin,fun _ _ => rfl⟩
    have passed (rest : Unit → Parser Lexemes) : (Parser.require true >>= rest) = rest () := rfl
    rw [passed]
    refine .peek (Blind.punct "-" rfl).steady state ?_
    cases first with
    | nil => cases seen
    | cons lexeme more =>
      obtain ⟨token,span⟩ := lexeme
      cases token with
      | literal text =>
        refine single ?_
        rintro _ _ ⟨⟩
        rfl
      | ident name =>
        refine single ?_
        rintro _ _ ⟨⟩
        rfl
      | punct sign joint =>
        obtain ⟨rfl,text,span',after,rfl⟩ : sign = '-' ∧ ∃ text span' after,
            more = ⟨.literal text,span'⟩ :: after := by
          unfold View.literal at seen
          split at seen <;> simp_all
        refine (Parallel.punct "-" rfl _ second state bound).bind state ?_
        intro a b rest left read kin reached _
        cases read
        refine (ParallelAt.next reached ?_).bind reached fun _ _ _ _ _ number ended _ =>
          .pure ended ⟨_,kin.append number,fun _ _ => rfl⟩
        rintro _ _ ⟨⟩
        rfl
      | _ => cases seen

end

end CaseSynthesis.Grammar
