import CaseSynthesis.Grammar.Entry
import CaseSynthesis.Proofs.Parallel.Declaration

/-! Statements, and with them the grammar as a whole, read side by side. -/

namespace CaseSynthesis.Grammar

open CaseSynthesis.Grammar.Parser

section

variable {c : Comparison} {limit : Nat} {stage : Stage} {rules rules' : Rules}
  {first second : Lexemes}

private theorem opensMacroStatement_eq :
    opensMacroStatement = View.after plainPath (View.but (.all [.punct "!",.second (.opening .brace)])
      (.third (.any [View.but (.punct ".") (.punct ".."),.punct "?"]))) := by
  funext input
  unfold opensMacroStatement View.after
  cases plainPath input with
  | none => rfl
  | some read => simp [View.but,View.all]

private theorem opensMacroItem_eq :
    opensMacroItem = View.after plainPath (.all [.punct "!",
      .second (.any [.ident,.keyword "try"])]) := by
  funext input
  unfold opensMacroItem View.after
  cases plainPath input with
  | none => rfl
  | some read => simp [View.all]

private theorem opensMacroStatement_same (state : c.State .grouped first second)
    (bound : c.compared → c.Live .grouped first second → second.length < stage.bound limit)
    (compared : c.compared) : opensMacroStatement first = opensMacroStatement second := by
  rw [opensMacroStatement_eq]
  have point : Blind c (View.but (.punct ".") (.punct "..")) := .but (.punct "." rfl) (.punct ".." rfl)
  have follows : Blind c (.any [View.but (.punct ".") (.punct ".."),.punct "?"]) :=
    .any (by simp [point])
  have opens : Blind c (.all [.punct "!",.second (.opening .brace)]) :=
    .led (by simp) (by simp) (by simp)
  exact after_eq parallel_plainPath (opens.steady.but follows.steady.third) state bound compared

private theorem opensItem_same (state : c.State .grouped first second)
    (bound : c.compared → c.Live .grouped first second → second.length < stage.bound limit)
    (compared : c.compared) : opensItem first = opensItem second := by
  have word : Blind c opensFunctionWord := .any (by simp)
  have static : Blind c opensStaticItem := by
    have name : Blind c (.any [.keyword "mut",.ident]) := .any (by simp)
    exact .led (by simp) (by simp) (by simp [name])
  have const : Steady c .grouped opensConstItem := by
    have opens : Blind c (.any [.opening .brace,.keyword "static",.keyword "move",.punct "|"]) :=
      .any (by simp)
    have async : Steady c .grouped (View.but (.second (.keyword "async")) (.third opensFunctionWord)) :=
      .but (Blind.keyword "async").steady.second word.steady.third
    exact .but (Blind.keyword "const").steady (.any (by simp [opens.steady.second,async]))
  have path : Blind c (View.but (.keyword "crate") (.second (.punct "::"))) :=
    .ledBut (.keyword "crate") (.keyword "crate") (.second (.punct "::" rfl))
  have unsafety : Blind c (View.but (.keyword "unsafe") (.second (.opening .brace))) :=
    .ledBut (.keyword "unsafe") (.keyword "unsafe") (.second (.opening .brace))
  have async : Blind c (.all [.keyword "async",.second opensFunctionWord]) :=
    .led (by simp) (by simp) (by simp [word])
  have union : Blind c (.all [.keyword "union",.second .ident]) := .led (by simp) (by simp) (by simp)
  have auto : Blind c (.all [.keyword "auto",.second (.keyword "trait")]) :=
    .led (by simp) (by simp) (by simp)
  have default : Blind c (.all [.keyword "default",
      .second (.any [.keyword "unsafe",.keyword "impl"])]) := by
    have impl : Blind c (.any [.keyword "unsafe",.keyword "impl"]) := .any (by simp)
    exact .led (by simp) (by simp) (by simp [impl])
  have named : opensMacroItem first = opensMacroItem second := by
    rw [opensMacroItem_eq]
    have name : Blind c (.any [.ident,.keyword "try"]) := .any (by simp)
    have opens : Blind c (.all [.punct "!",.second (.any [.ident,.keyword "try"])]) :=
      .led (by simp) (by simp) (by simp [name])
    exact after_eq parallel_plainPath opens.steady state bound compared
  have sees {view : View} (blind : Blind c view) : view first = view second :=
    blind first second state.sound (state.live_of_grouped.sees compared)
  refine any_congr ?_
  simp only [List.forall_mem_cons]
  exact ⟨sees (.keyword _),sees path,sees (.keyword _),sees (.keyword _),sees static,
    const first second compared state.sound state.live_of_grouped,
    sees unsafety,sees async,sees (.keyword _),sees (.keyword _),sees (.keyword _),sees (.keyword _),
    sees (.keyword _),sees union,sees auto,sees (.keyword _),sees default,sees (.keyword _),
    sees (.keyword _),named,nofun⟩

private theorem parallel_macroStatement :
    Parallel c limit .grouped stage .solid (Kin c) macroStatement macroStatement := by
  refine .bind parallel_plainPath fun path path' kin => ?_
  refine .bind parallel_macroCall fun call call' tagged => ?_
  exact .bind (.optionalPunct ";" rfl) fun mark mark' last =>
    .pure ((kin.tokens.toKin.append tagged.2).append last)

private theorem Kin.getLast {tokens tokens' : Lexemes} (kin : Kin c tokens tokens') :
    Option.Rel c.Resembles tokens.getLast? tokens'.getLast? := by
  have ends := List.rel_reverse kin.alike
  rw [List.getLast?_eq_head?_reverse,List.getLast?_eq_head?_reverse]
  generalize tokens.reverse = reversed,tokens'.reverse = reversed' at ends
  cases ends with
  | nil => exact .none
  | cons alike _ => exact .some alike

private theorem ExprKin.endsInBrace {expr other : Expr} (kin : ExprKin c expr other) :
    expr.endsInBrace = other.endsInBrace := by
  have last := kin.tokens.getLast
  unfold Expr.endsInBrace
  generalize expr.tokens.getLast? = ending,other.tokens.getLast? = ending' at last
  cases last with
  | none => rfl
  | some alike =>
    rcases alike with same | ⟨_,sign,joint,alone⟩
    · simp [same]
    · simp [joint,alone]

private theorem ExprKin.isBracedMacro {expr other : Expr} (kin : ExprKin c expr other) :
    expr.isBracedMacro = other.isBracedMacro := by
  obtain ⟨form,tokens⟩ := expr
  obtain ⟨form',tokens'⟩ := other
  obtain ⟨forms,_⟩ := kin
  cases forms <;> rfl

private theorem parallel_letStatement (core : RulesCore c limit rules rules') :
    Parallel c limit .grouped stage .solid (Kin c) (letStatement rules) (letStatement rules') := by
  refine .bind (.keyword "let") fun keyword keyword' kin => ?_
  refine .bind (core.pattern _) fun pattern pattern' kin' => ?_
  refine .bind (.optionally (.punct ":" rfl) ?type) fun type type' typed => ?_
  case type =>
    refine .bind (.punct ":" rfl) fun colon colon' mark => ?_
    exact .bind (core.type _ true) fun type type' typed => .pure (mark.append typed.tokens)
  refine .bind (.optionally (.punct "=" rfl) ?value) fun value value' kin'' => ?_
  case value =>
    refine .bind (.punct "=" rfl) fun equals equals' mark => ?_
    refine .bind (core.expr _ true) fun value value' inner => ?_
    refine .eitherIf inner.endsInBrace (.value .nil) (.optionally (.keyword "else") ?_)
      fun otherwise otherwise' last => .pure ((mark.append inner.tokens).append last)
    refine .bind (.keyword "else") fun keyword keyword' kin => ?_
    exact .bind (parallel_block core) fun body body' inner => .pure (kin.append inner)
  exact .bind parallel_semicolon fun mark mark' last =>
    .pure ((((kin.append kin'.tokens).append typed).append kin'').append last)

private theorem parallel_statement (rule : RulesKin c limit rules rules') :
    Parallel c limit .grouped stage .solid (Tagged c) (statement rules) (statement rules') := by
  refine .getAt fun before before' state bound => ?_
  refine (parallel_outerAttributes rule).bindAt state bound
    fun attributes attributes' rest left each reached bound taken => ?_
  have kin : Kin c (attributes.flatMap Attribute.tokens) (attributes'.flatMap Attribute.tokens) :=
    .flatMap each fun _ _ kin => kin.tokens
  refine .look (fun compared _ => opensMacroStatement_same reached bound compared) reached ?_
  cases opensMacroStatement rest with
  | true =>
    refine (?call : Parallel c limit .grouped stage .solid (Tagged c) _ _) rest left reached bound
    exact .bind parallel_macroStatement fun call call' kin' => .pure ⟨rfl,kin.append kin'⟩
  | false =>
    refine .peek (Blind.keyword "let").steady reached ?_
    cases View.keyword "let" rest with
    | true =>
      refine (?binding : Parallel c limit .grouped stage .solid (Tagged c) _ _) rest left reached bound
      exact .bind (parallel_letStatement rule.toRulesCore) fun binding binding' kin' =>
        .pure ⟨rfl,kin.append kin'⟩
    | false =>
      refine .look (fun compared _ => opensItem_same reached bound compared) reached ?_
      cases opensItem rest with
      | true =>
        refine (parallelAt_itemAfter rule each state reached bound taken).bind reached
          fun item item' rest left _ kin' reached' taken => ?_
        exact Parallel.value ⟨rfl,kin'.tokens⟩ rest left reached' (reached.within bound taken)
      | false =>
        refine (?expr : Parallel c limit .grouped stage .solid (Tagged c) _ _) rest left reached bound
        refine .bind (parallel_boundedExpr rule) fun expr expr' inner => ?_
        refine .bind (.optionalPunct ";" rfl) fun mark mark' last => .pure ⟨?_,?_⟩
        · rw [last.isEmpty,inner.isBlockLike,inner.isBracedMacro]
        · refine Kin.append ?_ last
          obtain ⟨form,tokens⟩ := expr
          obtain ⟨form',tokens'⟩ := expr'
          obtain ⟨forms,inner⟩ := inner
          cases forms with
          | verbatim => exact inner
          | _ => exact kin.append inner

private theorem parallel_statements (rule : RulesKin c limit rules rules') :
    Parallel c limit .grouped stage .firm (Kin c) (statements rules) (statements rules') := by
  refine .loop (fun tokens tokens' kin => ?_) .nil
  have marked : Parallel c limit .grouped stage .firm (List.Forall₂ (Kin c))
      (many (.punct ";") semicolon) (many (.punct ";") semicolon) :=
    .many (Blind.punct ";" rfl).steady parallel_semicolon.weaken
  refine marked.bind fun marks marks' each => ?_
  have kin := kin.append (Kin.flatten each)
  refine .peekIfIn (.atEnd nofun) (.pure ⟨kin,rfl⟩) ?_
  refine .bind (parallel_statement rule) ?_
  rintro ⟨closed,tokens⟩ ⟨closed',tokens'⟩ ⟨same,kin'⟩
  obtain rfl : closed = closed' := same
  refine .peekIn (.atEnd nofun) fun ahead => ?_
  exact .bind (.require rfl) fun _ _ _ => .pure ⟨kin.append kin',rfl⟩

/-! The productions supplied to one another. -/

private theorem rulesCore_none : RulesCore c limit .none .none where
  expr _ _ := .fail
  operand _ _ := .fail
  operators _ _ _ _ _ _ := .fail
  boundedExpr _ := .fail
  type _ _ := .fail
  bound _ _ _ := .fail
  pattern _ := .fail
  statements := .fail
  item := .fail
  fields := .fail
  useTree _ := .fail

/-- A production asks for no other one before it has taken a token. -/
private theorem rulesCore_succ {depth depth' : Nat}
    (rule : RulesKin c limit (nested depth) (nested depth')) :
    RulesCore c (limit + 1) (nested (depth + 1)) (nested (depth' + 1)) := by
  have raise {α β : Type} {place : Place} {grip : Grip} {R : α → β → Prop} {p : Parser α}
      {q : Parser β} (run : Parallel c limit place .start grip R p q) :
      Parallel c (limit + 1) place .later grip R p q := run
  exact
    { expr := fun _ structs => raise (parallel_expr rule structs)
      operand := fun _ structs => raise (parallel_operand rule structs)
      operators := fun _ structs least _ _ kin =>
        raise (parallel_operators rule.toRulesCore structs least kin)
      boundedExpr := fun _ => raise (parallel_boundedExpr rule)
      type := fun _ plus => raise (parallel_typeExpr rule plus)
      bound := fun _ captures constants =>
        raise ((parallel_bound rule captures constants).imp fun _ _ kin => kin.1)
      pattern := fun _ => raise (parallel_pattern rule)
      statements := raise (parallel_statements rule)
      item := raise (parallel_item rule)
      fields := raise (parallel_fields rule)
      useTree := fun rooted => raise (parallel_useTree rule.toRulesCore rooted) }

/-- Where the second run has no tokens to go by, it may be any. -/
private theorem Parallel.unseen {α β : Type} {place : Place} {grip : Grip} {R : α → β → Prop}
    {p : Parser α} {q q' : Parser β} (run : Parallel c limit place .later grip R p q) :
    Parallel c 0 place .later grip R p q' := by
  intro first second state bound
  have never (compared : c.compared) (live : c.Live place first second) : False :=
    absurd (bound compared live) (Nat.not_lt_zero _)
  refine .congr state rfl (fun compared live => (never compared live).elim)
    (run first second state fun compared live => (never compared live).elim)

private theorem RulesCore.unseen {rules'' : Rules} (core : RulesCore c limit rules rules') :
    RulesCore c 0 rules rules'' where
  expr place structs := (core.expr place structs).unseen
  operand place structs := (core.operand place structs).unseen
  operators place structs least left left' kin :=
    (core.operators place structs least left left' kin).unseen
  boundedExpr place := (core.boundedExpr place).unseen
  type place plus := (core.type place plus).unseen
  bound place captures constants := (core.bound place captures constants).unseen
  pattern place := (core.pattern place).unseen
  statements := core.statements.unseen
  item := core.item.unseen
  fields := core.fields.unseen
  useTree rooted := (core.useTree rooted).unseen

theorem rulesCore_zero (depth : Nat) : ∀ (c : Comparison) (rules : Rules),
    RulesCore c 0 (nested depth) rules := by
  induction depth with
  | zero => exact fun c rules => (rulesCore_none : RulesCore c 0 _ _).unseen
  | succ depth ih => exact fun c rules => (rulesCore_succ ⟨ih c (nested depth),ih .alone _⟩).unseen

/-- Levels of nesting for all tokens of the second stream are enough. -/
theorem rulesKin_nested {depth depth' : Nat} (deep : limit ≤ depth) (deep' : limit ≤ depth') :
    RulesKin c limit (nested depth) (nested depth') := by
  refine ⟨?_,rulesCore_zero depth .alone _⟩
  induction limit generalizing depth depth' with
  | zero => exact rulesCore_zero depth c _
  | succ limit ih =>
    obtain _ | depth := depth
    · cases deep
    obtain _ | depth' := depth'
    · cases deep'
    exact rulesCore_succ ⟨ih (Nat.le_of_succ_le_succ deep) (Nat.le_of_succ_le_succ deep'),
      rulesCore_zero depth .alone _⟩

end

end CaseSynthesis.Grammar
