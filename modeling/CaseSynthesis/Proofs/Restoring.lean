import CaseSynthesis.Proofs.CasePaths
import CaseSynthesis.Proofs.RenderedShapes

/-! Parsers run on tokens that are given up to their places, and on streams as the lexer makes them. A
phrase is written and read back one part at a time: what the reading of a part needs is what may follow
it, and what it leaves is what follows. -/

namespace CaseSynthesis.Grammar

open CaseSynthesis.Grammar.Parser

/-! Parsers on tokens that are given up to their places. -/

/-- From the written tokens, and wherever something of the given kind follows them, the parser reads a
phrase with the property and leaves what follows. -/
def Restores {α : Type} (depth : Nat) (p : Parser α) (written : List Token) (Q : α → Prop)
    (follows : Lexemes → Prop) : Prop :=
  ∀ output rest : Lexemes, output.tokens = written → follows rest → (output ++ rest).length < depth →
    ∃ value, p (output ++ rest) = some (value,rest) ∧ Q value

def Anything (_ : Lexemes) : Prop := True

namespace Restores

variable {α β : Type} {depth : Nat} {p q : Parser α} {f : α → Parser β} {Q : α → Prop} {R : β → Prop}
  {written front back : List Token} {follows between : Lexemes → Prop}

protected theorem pure {value : α} (holds : Q value) : Restores depth (pure value) [] Q follows := by
  intro output rest same _ _
  obtain rfl : output = [] := List.map_eq_nil_iff.mp same
  exact ⟨value,rfl,holds⟩

theorem bindBefore (first : Restores depth p front Q between)
    (onward : ∀ output rest, Lexemes.tokens output = back → follows rest → between (output ++ rest))
    (next : ∀ value, Q value → Restores depth (f value) back R follows) :
    Restores depth (p >>= f) (front ++ back) R follows := by
  intro output rest same followed short
  obtain ⟨one,two,rfl,same,same'⟩ := split_tokens same
  rw [List.append_assoc] at short ⊢
  obtain ⟨value,ran,holds⟩ := first one (two ++ rest) same (onward two rest same' followed) short
  have shorter : (two ++ rest).length < depth := by
    rw [List.length_append] at short
    omega
  obtain ⟨result,ran',holds'⟩ := next value holds two rest same' followed shorter
  exact ⟨result,by rw [run_bind,ran]; exact ran',holds'⟩

protected theorem bind (first : Restores depth p front Q Anything)
    (next : ∀ value, Q value → Restores depth (f value) back R follows) :
    Restores depth (p >>= f) (front ++ back) R follows :=
  first.bindBefore (fun _ _ _ _ => trivial) next

theorem before (read : Restores depth p written Q between)
    (onward : ∀ rest, follows rest → between rest) : Restores depth p written Q follows :=
  fun output rest same followed short => read output rest same (onward rest followed) short

theorem last {g : α → β} (read : Restores depth p written Q follows)
    (each : ∀ value, Q value → R (g value)) :
    Restores depth (p >>= fun value => pure (g value)) written R follows := by
  intro output rest same followed short
  obtain ⟨value,ran,holds⟩ := read output rest same followed short
  exact ⟨g value,by rw [run_bind,ran]; rfl,each value holds⟩

theorem given {value : α} (next : Restores depth (f value) written R follows) :
    Restores depth (Pure.pure value >>= f) written R follows := next

theorem imp {P : α → Prop} (restored : Restores depth p written Q follows)
    (each : ∀ value, Q value → P value) : Restores depth p written P follows := by
  intro output rest same followed short
  obtain ⟨value,ran,holds⟩ := restored output rest same followed short
  exact ⟨value,ran,each value holds⟩

theorem peek {view : View} {g : Bool → Parser α} (seen : Bool)
    (sees : ∀ output rest, Lexemes.tokens output = written → follows rest →
      view (output ++ rest) = seen)
    (next : Restores depth (g seen) written Q follows) :
    Restores depth (Parser.peek view >>= g) written Q follows := by
  intro output rest same followed short
  obtain ⟨value,ran,holds⟩ := next output rest same followed short
  refine ⟨value,?_,holds⟩
  rw [run_bind,run_peek,sees output rest same followed]
  exact ran

theorem passed {g : Unit → Parser α} (next : Restores depth (g ()) written Q follows) :
    Restores depth (Parser.require true >>= g) written Q follows := next

theorem take {view : View} {token : Token} (sees : ∀ span rest, view (⟨token,span⟩ :: rest) = true)
    (plain : isPlain token = true) :
    Restores depth (take view) [token] (fun lexeme => lexeme.token = token) follows := by
  intro output rest same _ _
  obtain ⟨⟨found,span⟩,rfl,rfl⟩ := List.map_eq_singleton_iff.mp same
  refine ⟨⟨found,span⟩,?_,rfl⟩
  rw [List.singleton_append,run_take,if_pos (sees span rest),next_plain _ _ plain]

theorem keyword (name : String) : Restores depth (keyword name) [.ident ⟨name,false⟩]
    (fun tokens => tokens.tokens = [.ident ⟨name,false⟩]) follows := by
  have taken : Restores depth (Parser.take (.keyword name)) [.ident ⟨name,false⟩]
      (fun lexeme => lexeme.token = .ident ⟨name,false⟩) follows :=
    take (fun span rest => by simp [View.keyword]) rfl
  intro output rest same followed short
  obtain ⟨lexeme,ran,token⟩ := taken output rest same followed short
  refine ⟨[lexeme],?_,by simp [Lexemes.tokens,token]⟩
  rw [Parser.keyword,nextIf,run_bind,ran]
  rfl

end Restores

theorem chars_signTokens (signs : List Char) (output rest : Lexemes)
    (same : output.tokens = signTokens signs) :
    View.chars signs (output ++ rest) = true ∧ Spells signs output := by
  induction signs generalizing output with
  | nil =>
    obtain rfl : output = [] := List.map_eq_nil_iff.mp same
    exact ⟨by simp [View.chars],.nil⟩
  | cons sign signs ih =>
    obtain ⟨⟨token,span⟩,more,rfl,rfl,others⟩ := List.map_eq_cons_iff.mp same
    obtain ⟨seen,spelled⟩ := ih more others
    refine ⟨?_,.cons ⟨_,rfl⟩ spelled⟩
    cases signs with
    | nil => simp [View.chars]
    | cons next signs => simpa [View.chars] using seen

theorem Restores.punct {depth : Nat} {follows : Lexemes → Prop} (text : String) :
    Restores depth (punct text) (signTokens text.toList)
      (fun tokens => tokens.tokens = signTokens text.toList) follows := by
  intro output rest same _ _
  obtain ⟨seen,spelled⟩ := chars_signTokens _ output rest same
  refine ⟨respelled text.toList output,?_,tokens_respelled _ _ spelled⟩
  have ahead : View.punct text (output ++ rest) = true := seen
  rw [run_punct,if_pos ahead,run_punctChars _ _ _ spelled]

def Closing (delimiter : Delimiter) (rest : Lexemes) : Prop :=
  ∃ span more, rest = ⟨.closing delimiter,span⟩ :: more

theorem Restores.enclosed {α : Type} {depth : Nat} {p : Parser α} {written : List Token}
    {Q : α → Prop} {follows : Lexemes → Prop} (delimiter : Delimiter)
    (inside : Restores depth p written Q (Closing delimiter)) :
    Restores depth (enclosed delimiter p) (.opening delimiter :: (written ++ [.closing delimiter]))
      (fun found => found.1.tokens = [.opening delimiter] ∧ Q found.2.1 ∧
        found.2.2.tokens = [.closing delimiter]) follows := by
  intro output rest same _ short
  obtain ⟨⟨token,opening⟩,more,rfl,rfl,others⟩ := List.map_eq_cons_iff.mp same
  obtain ⟨inner,last,rfl,within,closed⟩ := split_tokens others
  obtain ⟨⟨token,closing⟩,rfl,rfl⟩ := List.map_eq_singleton_iff.mp closed
  rw [List.cons_append,List.append_assoc] at short ⊢
  obtain ⟨value,ran,holds⟩ := inside inner _ within ⟨closing,rest,rfl⟩
    (Nat.lt_of_succ_lt (by simpa using short))
  refine ⟨([⟨.opening delimiter,opening⟩],value,[⟨.closing delimiter,closing⟩]),?_,rfl,holds,rfl⟩
  rw [run_enclosed]
  change (p (inner ++ (⟨.closing delimiter,closing⟩ :: rest))).bind _ = _
  rw [ran]
  simp [closeGroup]

namespace Restores

variable {σ : Type} {depth : Nat} {body : σ → Parser (σ × Bool)} {state : σ}
  {written front back : List Token} {Q : σ → Prop} {follows between : Lexemes → Prop}

theorem loopStop
    (round : Restores depth (body state) written (fun next => Q next.1 ∧ next.2 = false) follows) :
    Restores depth (loop body state) written Q follows := by
  intro output rest same followed short
  obtain ⟨⟨last,_⟩,ran,holds,rfl⟩ := round output rest same followed short
  exact ⟨last,run_loop_stop _ _ _ _ _ ran,holds⟩

theorem loopMore (P : σ → Prop)
    (round : Restores depth (body state) front (fun next => P next.1 ∧ next.2 = true) between)
    (filled : front ≠ [])
    (onward : ∀ output rest, Lexemes.tokens output = back → follows rest → between (output ++ rest))
    (further : ∀ next, P next → Restores depth (loop body next) back Q follows) :
    Restores depth (loop body state) (front ++ back) Q follows := by
  intro output rest same followed short
  obtain ⟨one,two,rfl,same,same'⟩ := split_tokens same
  rw [List.append_assoc] at short ⊢
  obtain ⟨⟨next,_⟩,ran,holds,rfl⟩ := round one (two ++ rest) same (onward two rest same' followed) short
  have progress : (two ++ rest).length < (one ++ (two ++ rest)).length := by
    have some : one ≠ [] := by
      rintro rfl
      exact filled same.symm
    have long := List.length_pos_iff.mpr some
    simp only [List.length_append]
    omega
  obtain ⟨last,ran',holds'⟩ := further next holds two rest same' followed (progress.trans short)
  exact ⟨last,(run_loop_more _ _ _ _ _ ran progress).trans ran',holds'⟩

/-- A loop that reads one phrase in each round reads phrases written one after another, up to a
function of them. -/
theorem rounds {α β : Type} {body : List α → Parser (List α × Bool)} {tokens : α → List Token}
    {place : α → β} (phrases before : List α)
    (round : ∀ phrase ∈ phrases, ∀ before, Restores depth (body before) (tokens phrase)
      (fun next => next.1.map place = (before ++ [phrase]).map place ∧ next.2 = true) Anything)
    (filled : ∀ phrase ∈ phrases, tokens phrase ≠ [])
    (stop : ∀ before, Restores depth (body before) []
      (fun next => next.1 = before ∧ next.2 = false) follows) :
    Restores depth (loop body before) (phrases.flatMap tokens)
      (fun found => found.map place = (before ++ phrases).map place) follows := by
  induction phrases generalizing before with
  | nil =>
    refine .loopStop ((stop before).imp fun next ended => ⟨?_,ended.2⟩)
    rw [ended.1,List.append_nil]
  | cons phrase phrases ih =>
    obtain ⟨first,round⟩ := List.forall_mem_cons.mp round
    obtain ⟨some,filled⟩ := List.forall_mem_cons.mp filled
    refine .loopMore (fun next => next.map place = (before ++ [phrase]).map place) (first before) some
      (fun _ _ _ _ => trivial) fun next grown => ?_
    refine (ih next round filled).imp fun found all => ?_
    rw [all,List.map_append,grown]
    simp

end Restores

/-! What is read from streams such as the lexer makes. -/

private theorem enclosed_cases {α : Type} {delimiter : Delimiter} {p : Parser α} {input rest : Lexemes}
    {found : Lexemes × α × Lexemes} (read : enclosed delimiter p input = some (found,rest)) :
    ∃ opening more value closing, input = ⟨.opening delimiter,opening⟩ :: more ∧
      p more = some (value,⟨.closing delimiter,closing⟩ :: rest) ∧
      found = ([⟨.opening delimiter,opening⟩],value,[⟨.closing delimiter,closing⟩]) := by
  cases seen : View.opening delimiter input with
  | false =>
    rw [run_enclosed_none _ _ _ seen] at read
    cases read
  | true =>
    obtain ⟨opening,more,rfl⟩ := exists_opening seen
    rw [run_enclosed] at read
    obtain ⟨⟨value,after⟩,within,closed⟩ := Option.bind_eq_some_iff.mp read
    cases after with
    | nil => cases closed
    | cons last after =>
      obtain ⟨token,closing⟩ := last
      by_cases ends : token = .closing delimiter
      · subst ends
        obtain ⟨rfl,rfl⟩ : ([⟨.opening delimiter,opening⟩],value,[⟨.closing delimiter,closing⟩]) =
            found ∧ after = rest := by simpa [closeGroup] using closed
        exact ⟨opening,more,value,closing,rfl,within,rfl⟩
      · simp [closeGroup,ends] at closed

theorem group_cases {delimiter : Delimiter} {p : Parser Lexemes} {input tokens rest : Lexemes}
    (read : group delimiter p input = some (tokens,rest)) :
    ∃ opening more inner closing, input = ⟨.opening delimiter,opening⟩ :: more ∧
      p more = some (inner,⟨.closing delimiter,closing⟩ :: rest) ∧
      tokens.tokens = .opening delimiter :: (inner.tokens ++ [.closing delimiter]) := by
  obtain ⟨⟨found,after⟩,ran,same⟩ := Option.bind_eq_some_iff.mp read
  cases same
  obtain ⟨opening,more,inner,closing,rfl,within,rfl⟩ := enclosed_cases ran
  refine ⟨opening,more,inner,closing,rfl,within,?_⟩
  rw [tokens_append,tokens_append]
  rfl

/-- What the parser reads of a sound stream has the property, and what it leaves is sound. -/
def Yields {α : Type} (p : Parser α) (Q : α → Prop) : Prop :=
  ∀ input value rest, Sound input → p input = some (value,rest) → Sound rest ∧ Q value

namespace Yields

variable {α β : Type} {p q : Parser α} {f : α → Parser β} {P Q : α → Prop} {R : β → Prop}

protected theorem pure {value : α} (holds : Q value) : Yields (pure value) Q := by
  rintro input _ _ sound ⟨⟩
  exact ⟨sound,holds⟩

protected theorem bind (first : Yields p Q) (next : ∀ value, Q value → Yields (f value) R) :
    Yields (p >>= f) R := by
  intro input found rest sound read
  obtain ⟨⟨value,after⟩,one,two⟩ := Option.bind_eq_some_iff.mp read
  obtain ⟨sound,holds⟩ := first input value after sound one
  exact next value holds after found rest sound two

theorem given {value : α} (next : Yields (f value) R) : Yields (Pure.pure value >>= f) R := next

theorem imp (yields : Yields p Q) (each : ∀ value, Q value → P value) : Yields p P := by
  intro input value rest sound read
  obtain ⟨sound,holds⟩ := yields input value rest sound read
  exact ⟨sound,each value holds⟩

theorem and (yields : Yields p Q) (gives : Gives p P) : Yields p fun value => Q value ∧ P value := by
  intro input value rest sound read
  obtain ⟨sound,holds⟩ := yields input value rest sound read
  exact ⟨sound,holds,gives input value rest read⟩

theorem peek {view : View} {g : Bool → Parser α} (each : ∀ seen, Yields (g seen) Q) :
    Yields (Parser.peek view >>= g) Q :=
  fun input value rest sound read => each (view input) input value rest sound read

theorem ite {condition : Prop} [Decidable condition] (one : Yields p Q) (two : Yields q Q) :
    Yields (if condition then p else q) Q := by
  split
  · exact one
  · exact two

theorem require {condition : Bool} : Yields (Parser.require condition) fun _ => condition = true := by
  intro input value rest sound read
  rw [run_require] at read
  split at read
  case isTrue holds =>
    cases read
    exact ⟨sound,holds⟩
  case isFalse => cases read

private theorem loop {body : α → Parser (α × Bool)} {state : α} (start : Q state)
    (round : ∀ state, Q state → Yields (body state) fun next => Q next.1) :
    Yields (Parser.loop body state) Q := by
  intro input found rest sound read
  induction size : input.length using Nat.strongRecOn generalizing state input with
  | ind length ih =>
    subst size
    obtain ⟨next,more,after,ran,goesOn⟩ := loop_round read
    obtain ⟨sound,kept⟩ := round state start _ _ _ sound ran
    cases more with
    | false =>
      obtain ⟨rfl,rfl⟩ := goesOn
      exact ⟨sound,kept⟩
    | true => exact ih after.length goesOn.1 kept _ sound goesOn.2 rfl

/-- There is nothing beyond a stream that stands alone, so that it may be taken to stand anywhere. -/
theorem of_parallel {grip : Grip} {S : α → β → Prop} {r : Parser β}
    (run : Parallel .alone 0 .angled .later grip S p r) :
    Yields p fun value => ∃ other, S value other := by
  intro input value rest sound read
  have state : Comparison.alone.State .angled input [] :=
    ⟨sound,.inl ⟨input,by simp [Comparison.alone],False.elim,
      by simp [Comparison.alone,Comparison.Uneven],nofun⟩⟩
  obtain ⟨other,left,reached,_,related,_⟩ := (run input [] state False.elim).1 value rest read
  exact ⟨reached.sound,other,related⟩

theorem take {view : View} {Q : Lexeme → Prop}
    (each : ∀ lexeme rest, view (lexeme :: rest) = true → Q lexeme) : Yields (Parser.take view) Q := by
  intro input lexeme rest sound read
  refine ⟨?_,gives_take each input lexeme rest read⟩
  rw [run_take] at read
  split at read
  case isFalse => cases read
  case isTrue =>
    cases input with
    | nil => cases read
    | cons first input =>
      have sound : Sound ([first] ++ input) := sound
      obtain rfl : input = rest := by
        obtain ⟨token,span⟩ := first
        cases token <;> cases read <;> rfl
      exact sound.rest

theorem punct (text : String) :
    Yields (Parser.punct text) fun tokens => tokens.tokens = signTokens text.toList := by
  intro input tokens rest sound read
  refine ⟨?_,gives_punct text input tokens rest read⟩
  rw [run_punct] at read
  split at read
  case isFalse => cases read
  case isTrue seen =>
    obtain ⟨taken,more,rfl,spelled⟩ := exists_spelled _ _ seen
    rw [run_punctChars _ _ _ spelled] at read
    cases read
    exact sound.rest

theorem enclosed (delimiter : Delimiter) (inside : Yields p Q) :
    Yields (Parser.enclosed delimiter p) fun found => found.1.tokens = [.opening delimiter] ∧
      Q found.2.1 ∧ found.2.2.tokens = [.closing delimiter] := by
  intro input found rest sound read
  obtain ⟨opening,more,value,closing,rfl,within,rfl⟩ := enclosed_cases read
  have sound : Sound ([⟨.opening delimiter,opening⟩] ++ more) := sound
  obtain ⟨sound,holds⟩ := inside more value _ sound.rest within
  have sound : Sound ([⟨.closing delimiter,closing⟩] ++ rest) := sound
  exact ⟨sound.rest,rfl,holds,rfl⟩

theorem many {view : View} (phrase : Yields p Q) :
    Yields (Parser.many view p) fun phrases => ∀ phrase ∈ phrases, Q phrase := by
  refine .loop (by simp) fun phrases held => .peek fun seen => .ite ?_ (.pure held)
  refine .bind phrase fun value holds => .pure ?_
  exact List.forall_mem_append.mpr ⟨held,List.forall_mem_singleton.mpr holds⟩

theorem commaSeparated (phrase : Yields p Q) :
    Yields (Parser.commaSeparated p) fun phrases => ∀ phrase ∈ phrases, Q phrase.1 := by
  refine .loop (by simp) fun phrases held => .peek fun seen => .ite (.pure held) ?_
  refine .bind phrase fun value holds => .peek fun ended => ?_
  have longer (mark : Lexemes) : ∀ phrase ∈ phrases ++ [(value,mark)], Q phrase.1 :=
    List.forall_mem_append.mpr ⟨held,List.forall_mem_singleton.mpr holds⟩
  exact .ite (.pure (longer [])) (.bind (.punct ",") fun mark _ => .pure (longer mark))

theorem nextSeen {view : View} {P : Lexeme → Prop} {f : Lexeme → Parser α}
    (each : ∀ lexeme rest, view (lexeme :: rest) = true → P lexeme)
    (yes : ∀ lexeme, P lexeme → Yields (f lexeme) Q) (no : Yields p Q) :
    Yields (do if ← Parser.peek view then next >>= f else p) Q := by
  intro input value rest sound read
  rw [run_bind,run_peek,Option.bind_some,run_ite] at read
  split at read
  case isTrue seen =>
    refine (Yields.take each).bind yes input value rest sound ?_
    rw [run_bind,run_take,if_pos seen]
    exact read
  case isFalse => exact no input value rest sound read

end Yields

end CaseSynthesis.Grammar
