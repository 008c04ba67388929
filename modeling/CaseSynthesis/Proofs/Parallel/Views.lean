import CaseSynthesis.Proofs.Parallel.Basic

/-! Which views of the tokens ahead are the same in both runs. -/

namespace CaseSynthesis.Grammar

open Lexer (balanced docTokens)
open CaseSynthesis.Grammar.Parser

inductive Comparison.Sees (c : Comparison) : Lexemes → Lexemes → Prop
  | ended {rest : Lexemes} (ends : Ended rest) : Sees c [] rest
  | comma (joint : Bool) (span : Span) : Sees c [⟨.punct ',' joint,span⟩] []
  | cons (token : Token) (span span' : Span) {rest left : Lexemes} (more : Sees c rest left) :
      Sees c (⟨token,span⟩ :: rest) (⟨token,span'⟩ :: left)
  | last (sign : Char) (span span' : Span) {rest : Lexemes} (more : Sees c rest []) :
      Sees c (⟨.punct sign true,span⟩ :: rest) [⟨.punct sign false,span'⟩]

/-- A view that does not see how the streams end. -/
def Blind (c : Comparison) (view : View) : Prop :=
  ∀ first second, Sound first → c.Sees first second → view first = view second

def Near (c : Comparison) (view : View) : Prop :=
  ∀ first second, Sound first → c.Sees first second → (first = [] → second = []) →
    view first = view second

def Dull (view : View) : Prop := ∀ rest, Ended rest → view rest = false

def Steady (c : Comparison) (place : Place) (view : View) : Prop :=
  ∀ first second, c.compared → Sound first → c.Live place first second → view first = view second

namespace Comparison

variable {c : Comparison} {place : Place} {first second : Lexemes}

private theorem tail_of_compared (compared : c.compared) :
    c.tail = [] ∨ ∃ joint span, c.tail = [⟨.punct ',' joint,span⟩] := by
  rcases c.form with none | comma | ⟨unseen,_⟩
  · exact .inl none
  · exact .inr comma
  · exact absurd compared unseen

private theorem tail_ended (compared : c.compared) : Ended c.tail := by
  rcases tail_of_compared compared with none | ⟨joint,span,comma⟩
  · rw [none]
    exact .nil
  · rw [comma]
    exact .comma joint span []

private theorem beyond_ended : Ended c.beyond := by
  rcases c.onward with none | ⟨_,ended⟩
  · rw [none]
    exact .nil
  · exact ended

theorem Live.sees (compared : c.compared) (live : c.Live place first second) :
    c.Sees first second := by
  obtain ⟨shared,rfl,same,-⟩ := live
  have matched := same compared
  clear same
  have atTail : c.Sees c.tail c.beyond := by
    rcases tail_of_compared compared with none | ⟨joint,span,comma⟩
    · rw [none]
      exact .ended c.beyond_ended
    · rw [comma,beyond_of_tail (by simp [comma])]
      exact .comma joint span
  induction matched with
  | nil => exact atTail
  | @cons lexeme other rest others same more ih =>
    obtain ⟨token,span⟩ := lexeme
    obtain ⟨token',span'⟩ := other
    cases same
    exact .cons token span span' ih
  | @last lexeme other followed alike =>
    obtain ⟨token,span⟩ := lexeme
    obtain ⟨token',span'⟩ := other
    rw [beyond_of_tail followed] at atTail
    rcases alike with same | ⟨_,sign,one,two⟩
    · cases same
      exact .cons token span span' atTail
    · cases one
      cases two
      exact .last sign span span' atTail

/-- What has been opened is closed before the streams differ. -/
private theorem Sees.afterGroup (inner outer : List Delimiter) (depth : Nat)
    (deep : inner.length = depth + 1) (closed : balanced (inner ++ outer) first.tokens = true)
    (sees : c.Sees first second) :
    c.Sees (View.afterGroup depth first) (View.afterGroup depth second) := by
  induction sees generalizing inner depth with
  | ended =>
    cases inner with
    | nil => cases deep
    | cons => cases closed
  | comma joint span =>
    cases inner with
    | nil => cases deep
    | cons => cases closed
  | cons token span span' more ih =>
    cases token with
    | opening delimiter => exact ih (delimiter :: inner) (depth + 1) (by simp [deep]) closed
    | closing delimiter =>
      cases inner with
      | nil => cases deep
      | cons innermost inner =>
        cases depth with
        | zero => exact more
        | succ depth =>
          exact ih inner depth (by simpa using deep) (Bool.and_eq_true_iff.mp closed).2
    | _ => exact ih inner depth deep closed
  | last sign span span' more ih => exact ih inner depth deep closed

private theorem Sees.afterTree (sound : Sound first) (sees : c.Sees first second)
    (here : first = [] → second = []) :
    c.Sees (View.afterTree first) (View.afterTree second) := by
  cases sees with
  | ended =>
    rw [here rfl]
    exact .ended .nil
  | comma joint span => exact .ended .nil
  | cons token span span' more =>
    cases token with
    | opening delimiter =>
      obtain ⟨pending,closed⟩ := sound.balanced
      exact more.afterGroup [delimiter] pending 0 rfl closed
    | closing delimiter => exact .cons _ span span' more
    | _ => exact more
  | last sign span span' more => exact more

end Comparison

theorem any_congr {views : List View} {first second : Lexemes}
    (each : ∀ view ∈ views, view first = view second) :
    View.any views first = View.any views second := by
  induction views with
  | nil => rfl
  | cons view views ih =>
    have rest := ih fun other member => each other (by simp [member])
    simp only [View.any,List.any_cons] at rest ⊢
    rw [each view (by simp),rest]

private theorem all_congr {views : List View} {first second : Lexemes}
    (each : ∀ view ∈ views, view first = view second) :
    View.all views first = View.all views second := by
  induction views with
  | nil => rfl
  | cons view views ih =>
    have rest := ih fun other member => each other (by simp [member])
    simp only [View.all,List.all_cons] at rest ⊢
    rw [each view (by simp),rest]

private theorem afterGroup_suffix (depth : Nat) (stream : Lexemes) :
    ∃ taken, stream = taken ++ View.afterGroup depth stream := by
  induction stream generalizing depth with
  | nil => exact ⟨[],rfl⟩
  | cons lexeme stream ih =>
    have onward (depth : Nat) : ∃ taken, lexeme :: stream = taken ++ View.afterGroup depth stream := by
      obtain ⟨taken,split⟩ := ih depth
      exact ⟨lexeme :: taken,congrArg (lexeme :: ·) split⟩
    obtain ⟨token,span⟩ := lexeme
    cases token with
    | opening delimiter => exact onward (depth + 1)
    | closing delimiter =>
      cases depth with
      | zero => exact ⟨[_],rfl⟩
      | succ outer => exact onward outer
    | _ => exact onward depth

private theorem Sound.afterTree {stream : Lexemes} (sound : Sound stream) : Sound (View.afterTree stream) := by
  cases stream with
  | nil => exact sound
  | cons lexeme stream =>
    have rest : Sound stream := @Sound.rest [lexeme] stream sound
    obtain ⟨token,span⟩ := lexeme
    cases token with
    | opening delimiter =>
      obtain ⟨taken,split⟩ := afterGroup_suffix 0 stream
      rw [split] at rest
      exact rest.rest
    | closing delimiter => exact sound
    | _ => exact rest

/-! What stands where no phrase starts. -/

namespace Ended

variable {rest : Lexemes} (ended : Ended rest)
include ended

theorem opening (delimiter : Delimiter) : View.opening delimiter rest = false := by
  cases ended <;> rfl

theorem keyword (name : String) : View.keyword name rest = false := by
  cases ended <;> rfl

theorem chars (c : Char) (more : List Char) (other : c ≠ ',') :
    View.chars (c :: more) rest = false := by
  cases ended with
  | nil => cases more <;> rfl
  | closing => cases more <;> rfl
  | comma joint => cases joint <;> cases more <;> simp [View.chars,other]

end Ended

namespace Dull

variable {view excluded : View} {views : List View}

theorem keyword (name : String) : Dull (.keyword name) := fun _ ended => ended.keyword name

theorem ident : Dull .ident := by
  intro rest ended
  cases ended <;> rfl

theorem word : Dull .word := by
  intro rest ended
  cases ended <;> rfl

theorem lifetime : Dull .lifetime := by
  intro rest ended
  cases ended <;> rfl

theorem punct (text : String) (plain : text.toList.elem ',' = false) (some : text.toList ≠ []) :
    Dull (.punct text) := by
  intro rest ended
  unfold View.punct
  cases spelled : text.toList with
  | nil => exact absurd spelled some
  | cons sign signs =>
    refine ended.chars sign signs ?_
    rintro rfl
    simp [spelled] at plain

theorem but (dull : Dull view) : Dull (view.but excluded) := by
  intro rest ended
  simp [View.but,dull rest ended]

theorem any (each : ∀ view ∈ views, Dull view) : Dull (.any views) :=
  fun rest ended => List.any_eq_false.mpr fun view member => by simp [each view member rest ended]

end Dull

attribute [simp] Dull.keyword Dull.ident Dull.word Dull.lifetime Dull.punct Dull.but Dull.any

namespace Blind

variable {c : Comparison} {view excluded : View} {views : List View}

theorem steady {place : Place} (blind : Blind c view) : Steady c place view :=
  fun first second compared sound live => blind first second sound (live.sees compared)

theorem keyword (name : String) : Blind c (.keyword name) := by
  intro first second _ sees
  cases sees with
  | ended ends => exact (ends.keyword name).symm
  | _ => rfl

theorem ident : Blind c .ident := by
  intro first second _ sees
  cases sees with
  | ended ends => exact (Dull.ident _ ends).symm
  | cons token => cases token <;> rfl
  | _ => rfl

theorem word : Blind c .word := by
  intro first second _ sees
  cases sees with
  | ended ends => exact (Dull.word _ ends).symm
  | cons token => cases token <;> rfl
  | _ => rfl

theorem lifetime : Blind c .lifetime := by
  intro first second _ sees
  cases sees with
  | ended ends => exact (Dull.lifetime _ ends).symm
  | cons token => cases token <;> rfl
  | _ => rfl

theorem opening (delimiter : Delimiter) : Blind c (.opening delimiter) := by
  intro first second _ sees
  cases sees with
  | ended ends => exact (ends.opening delimiter).symm
  | _ => rfl

theorem stringLiteral : Blind c .stringLiteral := by
  intro first second _ sees
  cases sees with
  | ended ends => cases ends <;> rfl
  | cons token => cases token <;> rfl
  | _ => rfl

theorem float : Blind c opensFloat := by
  intro first second _ sees
  cases sees with
  | ended ends => cases ends <;> rfl
  | cons token => cases token <;> rfl
  | _ => rfl

theorem literal : Blind c .literal := by
  have number (rest left : Lexemes) (sees : c.Sees rest left) (sign : Char) (joint joint' : Bool)
      (span span' : Span) : View.literal (⟨.punct sign joint,span⟩ :: rest) =
        View.literal (⟨.punct sign joint',span'⟩ :: left) := by
    by_cases minus : sign = '-'
    · subst minus
      cases sees with
      | ended ends => cases ends <;> rfl
      | cons token => cases token <;> rfl
      | _ => rfl
    · have other (rest : Lexemes) (joint : Bool) (span : Span) :
          View.literal (⟨.punct sign joint,span⟩ :: rest) = false := by
        unfold View.literal
        split <;> simp_all
      rw [other,other]
  intro first second _ sees
  cases sees with
  | ended ends => cases ends <;> rfl
  | cons token span span' more =>
    cases token with
    | punct sign joint => exact number _ _ more sign joint joint span span'
    | _ => rfl
  | last sign span span' more => exact number _ _ more sign true false span span'
  | _ => rfl

private theorem chars_nil (sign : Char) (signs : List Char) :
    View.chars (sign :: signs) [] = false := by
  cases signs <;> rfl

private theorem chars_same (signs : List Char) (plain : ',' ∉ signs) (first second : Lexemes)
    (sees : c.Sees first second) : View.chars signs first = View.chars signs second := by
  induction signs generalizing first second with
  | nil => simp [View.chars]
  | cons sign signs ih =>
    have other : sign ≠ ',' := fun same => plain (by simp [same])
    have rest := ih fun member => plain (by simp [member])
    cases signs with
    | nil =>
      cases sees with
      | ended ends => rw [ends.chars sign [] other,chars_nil]
      | comma joint span => simp [View.chars,other]
      | cons token => cases token <;> rfl
      | last sign span span' more => rfl
    | cons next signs =>
      cases sees with
      | ended ends => rw [ends.chars sign _ other,chars_nil]
      | comma joint span =>
        cases joint with
        | true => simp [View.chars]
        | false => rfl
      | cons token span span' more =>
        cases token with
        | punct found joint =>
          cases joint with
          | true => simp [View.chars,rest _ _ more]
          | false => rfl
        | _ => rfl
      | last found span span' more =>
        have none := rest _ _ more
        rw [chars_nil] at none
        simp [View.chars,none]

theorem chars (signs : List Char) (plain : ',' ∉ signs) : Blind c (View.chars signs) :=
  fun first second _ sees => chars_same signs plain first second sees

theorem punct (text : String) (plain : text.toList.elem ',' = false) : Blind c (.punct text) :=
  chars text.toList fun comma => by simp [comma] at plain

theorem but (one : Blind c view) (two : Blind c excluded) : Blind c (view.but excluded) := by
  intro first second sound sees
  simp only [View.but,one first second sound sees,two first second sound sees]

theorem any (each : ∀ view ∈ views, Blind c view) : Blind c (.any views) :=
  fun first second sound sees => any_congr fun view member => each view member first second sound sees

theorem all (each : ∀ view ∈ views, Blind c view) : Blind c (.all views) :=
  fun first second sound sees => all_congr fun view member => each view member first second sound sees

/-- The first of the views keeps the others from the end of the stream. -/
theorem led (head : Blind c view) (dull : Dull view) (each : ∀ other ∈ views, Near c other) :
    Blind c (.all (view :: views)) := by
  intro first second sound sees
  by_cases here : first = [] → second = []
  · apply all_congr
    intro other member
    rcases List.mem_cons.mp member with rfl | later
    · exact head first second sound sees
    · exact each other later first second sound sees here
  · cases sees with
    | ended ends => simp [View.all,dull _ ends,dull _ Ended.nil]
    | _ => exact absurd nofun here

theorem ledBut (head : Blind c view) (dull : Dull view) (near : Near c excluded) :
    Blind c (view.but excluded) := by
  intro first second sound sees
  by_cases here : first = [] → second = []
  · simp only [View.but,head first second sound sees,near first second sound sees here]
  · cases sees with
    | ended ends => simp [View.but,dull _ ends,dull _ Ended.nil]
    | _ => exact absurd nofun here

end Blind

namespace Near

variable {c : Comparison} {view next : View} {views : List View}

theorem second (blind : Blind c view) : Near c view.second :=
  fun _ _ sound sees here => blind _ _ sound.afterTree (sees.afterTree sound here)

/-- What comes second keeps the view from the end of the stream. -/
theorem third (head : Blind c next) (dull : Dull next) (blind : Blind c view) :
    Near c (.all [.second next,.third view]) := by
  have ahead : Blind c (.all [next,.second view]) :=
    .led head dull fun other member => List.mem_singleton.mp member ▸ second blind
  exact fun first second' sound sees here => second ahead first second' sound sees here

theorem any (each : ∀ view ∈ views, Near c view) : Near c (.any views) :=
  fun first second sound sees here =>
    any_congr fun view member => each view member first second sound sees here

theorem not (one : Near c view) : Near c fun input => !view input := by
  intro first second sound sees here
  simp only [one first second sound sees here]

end Near

theorem Blind.ledThird {c : Comparison} {view next last : View} (head : Blind c view) (dull : Dull view)
    (middle : Blind c next) (dull' : Dull next) (blind : Blind c last) :
    Blind c (.all [view,.second next,.third last]) := by
  have nested : View.all [view,.second next,.third last] =
      .all [view,.all [.second next,.third last]] := by
    funext input
    simp [View.all]
  rw [nested]
  exact led head dull fun other member => List.mem_singleton.mp member ▸ .third middle dull' blind

/-- A double colon keeps what follows it from the end of the stream. -/
private theorem Blind.afterColons {c : Comparison} {view : View} (blind : Blind c view) (first second : Lexemes)
    (sound : Sound first) (sees : c.Sees first second) (colons : View.punct "::" first = true) :
    view.third first = view.third second := by
  change View.chars [':',':'] first = true at colons
  have one (rest left : Lexemes) (more : c.Sees rest left) (colon : View.chars [':'] rest = true) :
      c.Sees (View.afterTree rest) (View.afterTree left) := by
    cases more with
    | ended => cases colon
    | comma => cases colon
    | cons token span span' more => cases token <;> first | exact more | cases colon
    | last sign span span' more => exact more
  cases sees with
  | ended => cases colons
  | comma joint => cases joint <;> cases colons
  | cons token span span' more =>
    cases token with
    | punct sign joint =>
      cases joint with
      | true =>
        have next := one _ _ more (Bool.and_eq_true_iff.mp colons).2
        exact blind _ _ sound.afterTree.afterTree next
      | false => cases colons
    | _ => cases colons
  | last sign span span' more =>
    have next := one _ _ more (Bool.and_eq_true_iff.mp colons).2
    exact blind _ _ sound.afterTree.afterTree next

theorem Blind.colonsThird {c : Comparison} {view : View} (blind : Blind c view) :
    Blind c fun input => View.punct "::" input && View.third view input := by
  intro first second sound sees
  have same := Blind.punct (c := c) "::" rfl first second sound sees
  cases colons : View.punct "::" first with
  | true => simp only [← same,colons,blind.afterColons first second sound sees colons]
  | false => simp only [← same,colons,Bool.false_and]

theorem Blind.colonsButThird {c : Comparison} {view : View} (blind : Blind c view) :
    Blind c (View.but (.punct "::") view.third) := by
  intro first second sound sees
  have same := Blind.punct (c := c) "::" rfl first second sound sees
  cases colons : View.punct "::" first with
  | true => simp only [View.but,← same,colons,blind.afterColons first second sound sees colons]
  | false => simp only [View.but,← same,colons,Bool.false_and]

attribute [simp] Blind.keyword Blind.ident Blind.word Blind.lifetime Blind.opening
  Blind.stringLiteral Blind.literal Blind.float Blind.punct Blind.but Blind.any Blind.all Near.second

/-! Groups in a stream. -/

/-- The lexemes close the group in whose inside they start, `depth` groups deep, and end there. -/
def Closes (depth : Nat) : Lexemes → Prop
  | [] => False
  | lexeme :: rest =>
    match lexeme.token, depth with
    | .opening _, _ => Closes (depth + 1) rest
    | .closing _, 0 => rest = []
    | .closing _, outer + 1 => Closes outer rest
    | _, _ => Closes depth rest

theorem Closes.afterGroup {depth : Nat} {chunk : Lexemes} (closes : Closes depth chunk)
    (more : Lexemes) : View.afterGroup depth (chunk ++ more) = more := by
  induction chunk generalizing depth with
  | nil => cases closes
  | cons lexeme chunk ih =>
    obtain ⟨token,span⟩ := lexeme
    cases token with
    | opening delimiter => exact ih closes
    | closing delimiter =>
      cases depth with
      | zero =>
        obtain rfl : chunk = [] := closes
        rfl
      | succ outer => exact ih closes
    | _ => exact ih closes

theorem Closes.alike {c : Comparison} {depth : Nat} {chunk other : Lexemes}
    (closes : Closes depth chunk)
    (alike : List.Forall₂ c.Resembles chunk other) :
    Closes depth other := by
  induction alike generalizing depth with
  | nil => cases closes
  | @cons lexeme other chunk others same rest ih =>
    obtain ⟨token,span⟩ := lexeme
    obtain ⟨token',span'⟩ := other
    rcases same with same | ⟨_,sign,one,two⟩
    · cases same
      cases token with
      | opening delimiter => exact ih closes
      | closing delimiter =>
        cases depth with
        | zero =>
          obtain rfl : chunk = [] := closes
          cases rest
          rfl
        | succ outer => exact ih closes
      | _ => exact ih closes
    · cases one
      cases two
      exact ih closes

theorem Closes.last {depth : Nat} {chunk : Lexemes} (closes : Closes depth chunk) :
    ∃ delimiter, chunk.tokens.getLast? = some (.closing delimiter) := by
  induction chunk generalizing depth with
  | nil => cases closes
  | cons lexeme chunk ih =>
    have onward (inside : ∃ delimiter, (Lexemes.tokens chunk).getLast? = some (.closing delimiter)) :
        ∃ delimiter, (Lexemes.tokens (lexeme :: chunk)).getLast? = some (.closing delimiter) := by
      obtain ⟨delimiter,found⟩ := inside
      refine ⟨delimiter,?_⟩
      change (lexeme.token :: Lexemes.tokens chunk).getLast? = _
      rw [List.getLast?_cons,found]
      rfl
    obtain ⟨token,span⟩ := lexeme
    cases token with
    | opening delimiter => exact onward (ih closes)
    | closing delimiter =>
      cases depth with
      | zero =>
        obtain rfl : chunk = [] := closes
        exact ⟨delimiter,rfl⟩
      | succ outer => exact onward (ih closes)
    | _ => exact onward (ih closes)

/-- In a balanced stream, what has been opened is closed. -/
private theorem exists_closes (stream : Lexemes) (inner outer : List Delimiter) (depth : Nat)
    (deep : inner.length = depth + 1) (closed : balanced (inner ++ outer) stream.tokens = true) :
    ∃ chunk rest, stream = chunk ++ rest ∧ Closes depth chunk ∧ ∀ others more,
      balanced (inner ++ others) (chunk.tokens ++ more) = balanced others more := by
  induction stream generalizing inner depth with
  | nil =>
    cases inner with
    | nil => cases deep
    | cons delimiter inner => cases closed
  | cons lexeme stream ih =>
    obtain ⟨token,span⟩ := lexeme
    cases token with
    | opening delimiter =>
      obtain ⟨chunk,rest,rfl,closes,same⟩ := ih (delimiter :: inner) (depth + 1) (by simp [deep])
        closed
      exact ⟨⟨.opening delimiter,span⟩ :: chunk,rest,rfl,closes,same⟩
    | closing delimiter =>
      cases inner with
      | nil => cases deep
      | cons innermost inner =>
        have both : innermost = delimiter ∧
            balanced (inner ++ outer) (Lexemes.tokens stream) = true := by
          simpa [Lexemes.tokens,balanced] using closed
        obtain ⟨rfl,left⟩ := both
        cases depth with
        | zero =>
          obtain rfl : inner = [] := by simpa using deep
          refine ⟨[⟨.closing innermost,span⟩],stream,rfl,rfl,fun others more => ?_⟩
          simp [Lexemes.tokens,balanced]
        | succ depth =>
          obtain ⟨chunk,rest,rfl,closes,same⟩ := ih inner depth (by simpa using deep) left
          refine ⟨⟨.closing innermost,span⟩ :: chunk,rest,rfl,closes,fun others more => ?_⟩
          have inside := same others more
          simpa [Lexemes.tokens,balanced] using inside
    | _ =>
      obtain ⟨chunk,rest,rfl,closes,same⟩ := ih inner depth deep closed
      exact ⟨_ :: chunk,rest,rfl,closes,same⟩

/-- A group at the head of a stream, up to where it is closed. -/
theorem exists_group (stream : Lexemes) (delimiter : Delimiter) (span : Span)
    (pending : List Delimiter)
    (closed : balanced pending (Lexemes.tokens (⟨.opening delimiter,span⟩ :: stream)) = true) :
    ∃ chunk rest, stream = chunk ++ rest ∧ Closes 0 chunk ∧
      Token.Enclosed (Lexemes.tokens (⟨.opening delimiter,span⟩ :: chunk)) := by
  obtain ⟨chunk,rest,split,closes,same⟩ := exists_closes stream [delimiter] pending 0 rfl closed
  exact ⟨chunk,rest,split,closes,fun others more => same others more⟩

namespace Comparison

variable {c : Comparison} {place : Place} {first second shared : Lexemes}

theorem tail_enclosed : Token.Enclosed c.tail.tokens := by
  rcases c.form with none | ⟨joint,span,comma⟩ | ⟨_,inner,comment,doc⟩
  · rw [none]
    exact .nil
  · rw [comma]
    exact fun _ _ => rfl
  · unfold docTokens at doc
    split at doc
    · rw [← Option.some.inj doc]
      intro pending rest
      cases inner <;> simp [balanced]
    · cases doc

/-- The tail opens and closes as much, and so the stream is balanced without it. -/
theorem balanced_shared (pending : List Delimiter) :
    balanced pending (Lexemes.tokens (shared ++ c.tail)) = balanced pending shared.tokens := by
  induction shared generalizing pending with
  | nil =>
    have none := c.tail_enclosed pending []
    rwa [List.append_nil] at none
  | cons lexeme shared ih =>
    obtain ⟨token,span⟩ := lexeme
    cases token with
    | opening delimiter => exact ih (delimiter :: pending)
    | closing delimiter =>
      cases pending with
      | nil => rfl
      | cons innermost outer => exact congrArg ((innermost == delimiter) && ·) (ih outer)
    | _ => exact ih pending

theorem Live.grouped_filled (live : c.Live .grouped first second) :
    ∃ lexeme shared, first = lexeme :: shared ++ c.tail := by
  obtain ⟨shared,rfl,_,_,inside⟩ := live
  obtain ⟨delimiter,pending,closed⟩ := inside rfl
  rw [balanced_shared] at closed
  cases shared with
  | nil => cases closed
  | cons lexeme shared => exact ⟨lexeme,shared,rfl⟩

/-- Off the top, a token comes before the tail. -/
theorem Live.alike_head {lexeme : Lexeme} (compared : c.compared)
    (live : c.Live place (lexeme :: shared ++ c.tail) second) :
    ∃ other left, second = other :: left ∧ c.Alike lexeme.token other.token := by
  obtain ⟨whole,split,same,_⟩ := live
  obtain rfl := List.append_cancel_right split
  cases same compared with
  | cons equal more => exact ⟨_,_,rfl,.inl equal⟩
  | last followed alike => exact ⟨_,_,rfl,alike⟩

/-- Both streams have a token ahead, or have come to where one of them ends. -/
private theorem Live.start (compared : c.compared) (live : c.Live place first second) :
    (first = c.tail ∧ second = c.beyond) ∨ ∃ lexeme other rest left, first = lexeme :: rest ∧
      second = other :: left ∧ c.Alike lexeme.token other.token := by
  obtain ⟨shared,rfl,same,_⟩ := live
  have matched := same compared
  clear same
  cases matched with
  | nil => exact .inl ⟨rfl,rfl⟩
  | cons same more => exact .inr ⟨_,_,_,_,rfl,rfl,.inl same⟩
  | last followed alike => exact .inr ⟨_,_,_,_,rfl,rfl,alike⟩

theorem Live.heads (inner : place ≠ .outside) (compared : c.compared)
    (live : c.Live place first second) :
    (first = [] ∧ second = []) ∨ ∃ lexeme other rest left, first = lexeme :: rest ∧
      second = other :: left ∧ c.Alike lexeme.token other.token := by
  have filled : c.tail ≠ [] ∨ c.beyond ≠ [] → first ≠ c.tail := by
    intro uneven bare
    cases place with
    | outside => contradiction
    | angled =>
      obtain ⟨shared,rfl,_,some,_⟩ := live
      exact some rfl uneven (List.append_left_eq_self.mp bare)
    | grouped =>
      obtain ⟨lexeme,shared,rfl⟩ := live.grouped_filled
      exact List.cons_ne_nil _ _ (List.append_left_eq_self.mp bare)
  rcases live.start compared with ⟨bare,none⟩ | heads
  · obtain ⟨ends,ends'⟩ : c.tail = [] ∧ c.beyond = [] := by
      by_contra uneven
      exact filled (not_and_or.mp uneven) bare
    exact .inl ⟨bare.trans ends,none.trans ends'⟩
  · exact .inr heads

private theorem Live.afterTree (compared : c.compared) (live : c.Live .grouped first second) :
    c.Live .grouped (View.afterTree first) (View.afterTree second) := by
  obtain ⟨lexeme,shared,rfl⟩ := live.grouped_filled
  obtain ⟨whole,split,same,_,inside⟩ := live
  obtain rfl := List.append_cancel_right split
  obtain ⟨delimiter,pending,closed⟩ := inside rfl
  obtain ⟨token,span⟩ := lexeme
  have matched := same compared
  have parts : c.Matches ([⟨token,span⟩] ++ shared) second := matched
  have one : List.Forall₂ c.Resembles [⟨token,span⟩] (second.take 1) := parts.take
  obtain ⟨other,left,rfl⟩ : ∃ other left, second = other :: left := by
    cases second with
    | nil => cases one
    | cons other left => exact ⟨other,left,rfl⟩
  have more : c.Matches shared left := matched.tail_of
  have alike : c.Alike token other.token := by simpa [Resembles] using one
  obtain ⟨token',span'⟩ := other
  -- A sign may be joint in one stream only, and all other tokens are the same.
  rcases alike with same' | ⟨_,sign,one,two⟩
  · obtain rfl : token = token' := same'
    cases token with
    | opening opened =>
      rw [balanced_shared] at closed
      obtain ⟨chunk,rest,rfl,closes,enclosed⟩ := exists_group shared opened span _ closed
      have here : View.afterTree (⟨.opening opened,span⟩ :: (chunk ++ rest) ++ c.tail) =
          rest ++ c.tail := by
        change View.afterGroup 0 ((chunk ++ rest) ++ c.tail) = _
        rw [List.append_assoc,closes.afterGroup]
      have there : View.afterTree (⟨.opening opened,span'⟩ :: left) = left.drop chunk.length := by
        change View.afterGroup 0 left = _
        conv => lhs; rw [← left.take_append_drop chunk.length]
        exact (closes.alike more.take).afterGroup _
      rw [here,there]
      refine ⟨rest,rfl,fun _ => more.drop,nofun,fun _ => ⟨delimiter,pending,?_⟩⟩
      rw [balanced_shared]
      have left : balanced (delimiter :: pending)
          (Lexemes.tokens (⟨.opening opened,span⟩ :: chunk) ++ Lexemes.tokens rest) = true := by
        rw [← tokens_append]
        exact closed
      rwa [enclosed] at left
    | closing found => exact ⟨_,rfl,fun _ => matched,nofun,fun _ => ⟨delimiter,pending,closed⟩⟩
    | _ => exact ⟨_,rfl,fun _ => more,nofun,fun _ => ⟨delimiter,pending,closed⟩⟩
  · cases one
    cases two
    exact ⟨_,rfl,fun _ => more,nofun,fun _ => ⟨delimiter,pending,closed⟩⟩

end Comparison

/-! In a group the end is the same in both runs, and so is a comma. -/

namespace Steady

variable {c : Comparison} {place : Place} {view excluded : View} {views : List View}

private theorem atEnd_alike {lexeme other : Lexeme} (alike : c.Alike lexeme.token other.token)
    (rest left : Lexemes) : View.atEnd (lexeme :: rest) = View.atEnd (other :: left) := by
  rcases alike with same | ⟨_,sign,one,two⟩
  · simp [View.atEnd,same]
  · simp [View.atEnd,one,two]

private theorem comma_alike {lexeme other : Lexeme} (alike : c.Alike lexeme.token other.token)
    (rest left : Lexemes) :
    View.punct "," (lexeme :: rest) = View.punct "," (other :: left) := by
  obtain ⟨token,span⟩ := lexeme
  obtain ⟨token',span'⟩ := other
  rcases alike with same | ⟨_,sign,one,two⟩
  · cases same
    cases token <;> rfl
  · cases one
    cases two
    rfl

theorem atEnd (inner : place ≠ .outside) : Steady c place .atEnd := by
  intro first second compared _ live
  rcases live.heads inner compared with ⟨rfl,rfl⟩ | ⟨lexeme,other,rest,left,rfl,rfl,alike⟩
  · rfl
  · exact atEnd_alike alike rest left

theorem comma (inner : place ≠ .outside) : Steady c place (.punct ",") := by
  intro first second compared _ live
  rcases live.heads inner compared with ⟨rfl,rfl⟩ | ⟨lexeme,other,rest,left,rfl,rfl,alike⟩
  · rfl
  · exact comma_alike alike rest left

private theorem any_ended {rest : Lexemes} (ending : .atEnd ∈ views) (mark : .punct "," ∈ views)
    (ended : Ended rest) : View.any views rest = true := by
  cases ended with
  | nil => exact List.any_eq_true.mpr ⟨_,ending,rfl⟩
  | closing => exact List.any_eq_true.mpr ⟨_,ending,rfl⟩
  | comma => exact List.any_eq_true.mpr ⟨_,mark,rfl⟩

/-- The end and a comma together are the same in both runs wherever they are. -/
theorem stops (ending : .atEnd ∈ views) (mark : .punct "," ∈ views)
    (each : ∀ view ∈ views, view = .atEnd ∨ view = .punct "," ∨ Blind c view) :
    Steady c place (.any views) := by
  intro first second compared sound live
  rcases live.start compared with ⟨rfl,rfl⟩ | ⟨lexeme,other,rest,left,rfl,rfl,alike⟩
  · rw [any_ended ending mark (Comparison.tail_ended compared),any_ended ending mark c.beyond_ended]
  · apply any_congr
    intro view member
    rcases each view member with rfl | rfl | blind
    · exact atEnd_alike alike rest left
    · exact comma_alike alike rest left
    · exact blind _ _ sound (live.sees compared)

theorem any (each : ∀ view ∈ views, Steady c place view) : Steady c place (.any views) :=
  fun first second compared sound live =>
    any_congr fun view member => each view member first second compared sound live

theorem all (each : ∀ view ∈ views, Steady c place view) : Steady c place (.all views) :=
  fun first second compared sound live =>
    all_congr fun view member => each view member first second compared sound live

theorem but (one : Steady c place view) (two : Steady c place excluded) :
    Steady c place (view.but excluded) := by
  intro first second compared sound live
  simp only [View.but,one first second compared sound live,two first second compared sound live]

theorem not (one : Steady c place view) : Steady c place fun input => !view input := by
  intro first second compared sound live
  simp only [one first second compared sound live]

theorem second (one : Steady c .grouped view) : Steady c .grouped view.second :=
  fun _ _ compared sound live => one _ _ compared sound.afterTree (live.afterTree compared)

theorem third (one : Steady c .grouped view) : Steady c .grouped view.third :=
  fun _ _ compared sound live => one _ _ compared sound.afterTree.afterTree
    ((live.afterTree compared).afterTree compared)

end Steady

end CaseSynthesis.Grammar
