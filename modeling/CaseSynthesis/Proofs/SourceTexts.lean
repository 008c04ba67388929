import CaseSynthesis.Proofs.Blanks
import CaseSynthesis.Proofs.Stringified
import CaseSynthesis.Proofs.Trailing

/-! An expression next to its source text. The text is a part of the source that is read as the same
expression again; but the comma after the expression stays in it if a comment follows, and a comma at
the end of a comment is cut off. -/

namespace CaseSynthesis

open Lexer

def Token.Separated (tokens : List Token) : Prop := ∃ front joint, tokens = front ++ [.punct ',' joint]

def Token.Loosens (token other : Token) : Prop :=
  token = other ∨ ∃ sign, token = .punct sign true ∧ other = .punct sign false

namespace Lexer

private theorem balanced_concat_sign (tokens : List Token) (pending : List Delimiter) (sign : Char) (joint : Bool) :
    balanced pending (tokens ++ [.punct sign joint]) = balanced pending tokens := by
  induction tokens generalizing pending with
  | nil => rfl
  | cons token tokens ih =>
    cases token with
    | opening delimiter => exact ih _
    | closing delimiter =>
      cases pending with
      | nil => rfl
      | cons innermost outer => exact congrArg (innermost == delimiter && ·) (ih outer)
    | _ => exact ih _

private theorem Continued.balanced {tail : List Char} {own first : List Token} (continued : Continued tail own first)
    (pending : List Delimiter) : Lexer.balanced pending own = Lexer.balanced pending first := by
  cases continued with
  | same => rfl
  | joint front sign => rw [balanced_concat_sign,balanced_concat_sign]

private theorem last_of_docTokens {inner : Bool} {line : List Char} {doc : List Token}
    (shown : docTokens inner line = some doc) :
    2 ≤ doc.length ∧ doc.getLast? = some (.closing .bracket) := by
  unfold docTokens at shown
  split at shown
  case isFalse => cases shown
  case isTrue =>
    cases shown
    cases inner <;> simp

end Lexer

namespace Grammar

/-! Streams that differ in how they end. -/

section

variable {c : Comparison} {depth : Nat} {stream rest : Lexemes} {expr : Expr}

theorem split_tokens {front last : List Token} (whole : stream.tokens = front ++ last) :
    ∃ shared tail, stream = shared ++ tail ∧ Lexemes.tokens shared = front ∧ Lexemes.tokens tail = last := by
  obtain ⟨shared,tail,rfl,one,two⟩ := List.map_eq_append_iff.mp whole
  exact ⟨shared,tail,rfl,one,two⟩

/-- An expression does not end with the tail of a stream. -/
private theorem rest_of_tail {shared : Lexemes} (unseen : ¬ c.compared) (followed : c.tail ≠ [])
    (sound : Sound stream) (whole : stream = shared ++ c.tail)
    (read : (nested depth).expr true stream = some (expr,rest)) :
    ∃ more, rest = more ++ c.tail := by
  have state : c.State .outside stream [] :=
    ⟨sound,.inl ⟨shared,whole,fun seen => absurd seen unseen,by simp,by simp⟩⟩
  obtain ⟨_,left,after,⟨taken,_,_,_,ends,_⟩,_⟩ := ((rulesCore_zero depth c (nested depth)).expr .outside
    true stream [] state fun seen => absurd seen unseen).1 expr rest read
  rcases after.reached with ⟨more,same,_⟩ | ⟨_,⟨_,none⟩ | ⟨place,_⟩⟩
  · exact ⟨more,same⟩
  · exact absurd none (ends followed)
  · cases place

/-- A comma at the end of a stream is left by an expression. -/
private theorem rest_of_separated (sound : Sound stream) (separated : Token.Separated stream.tokens)
    (read : (nested depth).expr true stream = some (expr,rest)) : rest ≠ [] := by
  obtain ⟨front,joint,whole⟩ := separated
  obtain ⟨shared,tail,split,_,comma⟩ := split_tokens whole
  obtain ⟨⟨token,span⟩,rfl,same⟩ := List.map_eq_singleton_iff.mp comma
  obtain rfl : token = .punct ',' joint := same
  let c : Comparison := ⟨[⟨.punct ',' joint,span⟩],[],False,False,.inr (.inl ⟨joint,span,rfl⟩),.inl rfl⟩
  obtain ⟨more,rfl⟩ := rest_of_tail (c := c) id (by simp [c]) sound split read
  simp [c]

/-- An expression does not end in a doc comment. -/
private theorem rest_of_documented {inner : Bool} {line : List Char} {front doc : List Token} (sound : Sound stream)
    (shown : docTokens inner line = some doc) (whole : stream.tokens = front ++ doc)
    (read : (nested depth).expr true stream = some (expr,rest)) : 2 ≤ rest.length := by
  obtain ⟨shared,tail,split,_,last⟩ := split_tokens whole
  have long : 2 ≤ tail.length := by
    have size := (last_of_docTokens shown).1
    rwa [← last,Lexemes.tokens,List.length_map] at size
  let c : Comparison := ⟨tail,[],False,False,.inr (.inr ⟨id,inner,line,by rw [last,shown]⟩),.inl rfl⟩
  have followed : c.tail ≠ [] := by
    intro none
    rw [show tail = [] from none] at long
    cases long
  obtain ⟨more,rfl⟩ := rest_of_tail (c := c) id followed sound split read
  rw [List.length_append]
  exact Nat.le_add_left_of_le long

/-- One expression is read from the second stream too. -/
private theorem parseExprs_parallel {shared again : Lexemes} (compared : c.compared) (even : c.beyond = [])
    (sound : Sound stream)
    (whole : stream = shared ++ c.tail) (same : c.Matches shared again)
    (closed : balanced [] again.tokens = true) (parsed : parseExprs stream = some [expr]) :
    ∃ other left, exprOf again again = some (other,left) ∧ parseExprs again = some [other] ∧
      Kin c expr.tokens other.tokens ∧ (c.tail ≠ [] → left = []) := by
  obtain ⟨rest,read,ended⟩ := parseExprs_single parsed
  have size : stream.length = again.length + c.tail.length := by
    rw [whole,List.length_append,same.length,even]
    rfl
  have rule : RulesKin c (again.length + 1) (nested (stream.length + 1)) (nested (again.length + 1)) :=
    rulesKin_nested (by omega) (Nat.le_refl _)
  have state : c.State .outside stream again :=
    ⟨sound,.inl ⟨shared,whole,fun _ => same,by simp,by simp⟩⟩
  obtain ⟨other,left,after,taken,kin,second⟩ := (rule.expr .outside true stream again state
    fun _ _ => Nat.lt_succ_self _).1 expr rest read
  obtain ⟨part,split,_,filled,ends,_⟩ := taken
  have live : c.Live .outside rest left := by
    rcases after.reached with live | ⟨followed,⟨_,none⟩ | ⟨place,_⟩⟩
    · exact live
    · exact absurd none (ends followed)
    · cases place
  have run : exprOf again again = some (other,left) := second compared live
  obtain ⟨more,tailed,follow,_⟩ := live
  have remaining := follow compared
  have leaves : (c.tail ≠ [] → left = []) ∧ (left = [] ∨ ∃ joint span, left = [⟨.punct ',' joint,span⟩]) := by
    cases more with
    | nil =>
      cases remaining
      exact ⟨fun _ => even,.inl even⟩
    | cons lexeme more =>
      rcases ended with rfl | ⟨joint,span,rfl⟩
      · cases tailed
      obtain ⟨rfl,none⟩ := List.cons.inj tailed
      obtain ⟨rfl,bare⟩ := List.append_eq_nil_iff.mp none.symm
      refine ⟨fun followed => absurd bare followed,.inr ?_⟩
      cases remaining with
      | @cons _ twin _ others same more =>
        cases more
        obtain ⟨token,place⟩ := twin
        exact ⟨joint,place,by rw [← show Token.punct ',' joint = token from same,even]⟩
      | last followed => exact absurd bare followed
  refine ⟨other,left,run,parseExprs_of_single closed ?_ run leaves.2,kin.tokens,leaves.1⟩
  have some : 0 < part.length := List.length_pos_iff.mpr filled
  have total : stream.length = part.length + (more.length + c.tail.length) := by
    rw [split,tailed,List.length_append,List.length_append]
  exact List.length_pos_iff.mp (by omega)

theorem Comparison.matches_beyond {first second : Lexemes} (same : second.tokens = first.tokens) :
    c.Matches first (second ++ c.beyond) := by
  induction first generalizing second with
  | nil =>
    obtain rfl : second = [] := List.map_eq_nil_iff.mp same
    exact .nil
  | cons lexeme first ih =>
    obtain ⟨other,rest,rfl,token,more⟩ := List.map_eq_cons_iff.mp same
    exact .cons token.symm (ih more)

theorem Comparison.matches_of_tokens {first second : Lexemes} (even : c.beyond = [])
    (same : second.tokens = first.tokens) : c.Matches first second := by
  have whole := c.matches_beyond same
  rwa [even,List.append_nil] at whole

/-- The streams differ in their last token. -/
private theorem Comparison.matches_of_last {first second : Lexemes} {front : List Token} {token other : Token}
    (followed : c.tail ≠ []) (alike : c.Alike token other) (one : first.tokens = front ++ [token])
    (two : second.tokens = front ++ [other]) : c.Matches first second := by
  induction front generalizing first second with
  | nil =>
    obtain ⟨lexeme,rfl,rfl⟩ := List.map_eq_singleton_iff.mp one
    obtain ⟨lexeme',rfl,rfl⟩ := List.map_eq_singleton_iff.mp two
    exact .last followed alike
  | cons next front ih =>
    obtain ⟨lexeme,rest,rfl,token,more⟩ := List.map_eq_cons_iff.mp one
    obtain ⟨lexeme',rest',rfl,token',more'⟩ := List.map_eq_cons_iff.mp two
    exact .cons (token.trans token'.symm) (ih more more')

private theorem Kin.loosens {first second : Lexemes} (kin : Kin c first second) :
    List.Forall₂ Token.Loosens first.tokens second.tokens := by
  rw [Lexemes.tokens,Lexemes.tokens,List.forall₂_map_left_iff,List.forall₂_map_right_iff]
  exact kin.alike.imp fun _ _ alike => alike.imp_right And.right

theorem Kin.tokens_eq {first second : Lexemes} (kin : Kin c first second) (strict : ¬ c.loosened) :
    second.tokens = first.tokens := by
  have same : List.Forall₂ (fun lexeme other => lexeme.token = other.token) first second :=
    kin.alike.imp fun _ _ alike => alike.resolve_right fun loose => strict loose.1
  exact (List.forall₂_eq_eq_eq ▸ List.forall₂_map_left_iff.mpr (List.forall₂_map_right_iff.mpr same) :
    first.tokens = second.tokens).symm

/-- The expression depends on the tokens alone. -/
private theorem parseExprs_of_tokens {again : Lexemes} (sound : Sound stream)
    (same : again.tokens = stream.tokens) (closed : balanced [] again.tokens = true)
    (parsed : parseExprs stream = some [expr]) :
    ∃ other, parseExprs again = some [other] ∧ other.tokens.tokens = expr.tokens.tokens := by
  let c : Comparison := ⟨[],[],True,False,.inl rfl,.inl rfl⟩
  obtain ⟨other,_,_,parsed,kin,_⟩ := parseExprs_parallel (c := c) trivial rfl sound
    (List.append_nil _).symm (c.matches_of_tokens rfl same) closed parsed
  exact ⟨other,parsed,kin.tokens_eq id⟩

/-- The expression is read without the comma after it as well. -/
private theorem parseExprs_without_comma {again : Lexemes} {own first : List Token} {tail : List Char} {joint : Bool}
    (sound : Sound stream) (whole : stream.tokens = first ++ [.punct ',' joint])
    (continued : Continued tail own first) (sound' : Sound again) (same : again.tokens = own)
    (closed : balanced [] again.tokens = true) (parsed : parseExprs stream = some [expr]) :
    ∃ other, parseExprs again = some [other] ∧
      List.Forall₂ Token.Loosens expr.tokens.tokens other.tokens.tokens ∧
      (own = first → other.tokens.tokens = expr.tokens.tokens) ∧ ¬ Token.Separated again.tokens := by
  obtain ⟨shared,tail,split,front,comma⟩ := split_tokens whole
  obtain ⟨⟨token,span⟩,rfl,same'⟩ := List.map_eq_singleton_iff.mp comma
  obtain rfl : token = .punct ',' joint := same'
  let c : Comparison := ⟨[⟨.punct ',' joint,span⟩],[],True,own ≠ first,.inr (.inl ⟨joint,span,rfl⟩),.inl rfl⟩
  have agree : c.Matches shared again := by
    cases continued with
    | same => exact c.matches_of_tokens rfl (by rw [same,front])
    | joint before sign =>
      refine Comparison.matches_of_last (by simp [c]) (.inr ⟨?_,sign,rfl,rfl⟩) front same
      simp [c]
  obtain ⟨other,left,read,parsed,kin,ended⟩ := parseExprs_parallel trivial rfl sound split agree closed parsed
  refine ⟨other,parsed,kin.loosens,fun equal => kin.tokens_eq fun differ => differ equal,
    fun separated => ?_⟩
  exact rest_of_separated sound' separated read (ended (by simp [c]))

/-- No doc comment comes last, nor last but for a comma. -/
private theorem not_documented {inner : Bool} {line : List Char} {front doc last : List Token} (sound : Sound stream)
    (closed : balanced [] stream.tokens = true) (shown : docTokens inner line = some doc)
    (whole : stream.tokens = front ++ doc ++ last) (few : last = [] ∨ ∃ joint, last = [.punct ',' joint]) :
    parseExprs stream ≠ some [expr] := by
  intro parsed
  rcases few with rfl | ⟨joint,rfl⟩
  · obtain ⟨rest,read,ended⟩ := parseExprs_single parsed
    have long := rest_of_documented sound shown (whole.trans (List.append_nil _)) read
    rcases ended with rfl | ⟨_,_,rfl⟩
    · cases long
    · exact absurd long (by simp)
  · -- without the comma the expression would be read too, and the doc comment would come last
    obtain ⟨shared,tail,split,ends,comma⟩ := split_tokens whole
    obtain ⟨⟨token,span⟩,rfl,same⟩ := List.map_eq_singleton_iff.mp comma
    obtain rfl : token = .punct ',' joint := same
    have within : balanced [] shared.tokens = true := by
      rw [whole,balanced_concat_sign,← ends] at closed
      exact closed
    have sound' : Sound shared := by
      refine ⟨fun lexeme member => sound.legible lexeme (by simp [split,member]),?_,[],within⟩
      have all := sound.unslashed
      rw [split,tokens_append] at all
      refine Token.unslashed_left _ _ all ?_
      rw [ends,List.getLast?_append,(last_of_docTokens shown).2]
      simp
    let c : Comparison := ⟨[⟨.punct ',' joint,span⟩],[],True,False,.inr (.inl ⟨joint,span,rfl⟩),.inl rfl⟩
    obtain ⟨other,left,read,_,_,ended⟩ := parseExprs_parallel (c := c) trivial rfl sound split
      (c.matches_of_tokens rfl rfl) within parsed
    have long := rest_of_documented sound' shown ends read
    rw [ended (by simp [c])] at long
    cases long

end

end Grammar

namespace Lexer

/-! Blanks and commas after a text. -/

section

variable {text rest : List Char} {tokens more : List Token}

private theorem Lexes.unique (lexed : Lexes text tokens) (other : Lexes text more) : tokens = more := by
  obtain ⟨found,read,rfl⟩ := lexed.yields .start
  obtain ⟨found',read',rfl⟩ := other.yields .start
  rw [read] at read'
  cases read'
  rfl

private theorem Lexes.after_blanks {blanks : List Char} (blank : ∀ c ∈ blanks, Text.isBlank c = true)
    (lexed : Lexes (blanks ++ rest) tokens) : Lexes rest tokens := by
  induction blanks generalizing tokens with
  | nil => exact lexed
  | cons c blanks ih =>
    have gap : isGap c = true := by simp [isGap,blank c]
    cases lexed with
    | step read _ follow =>
      simp only [List.cons_append,Lexer.step,gap,if_true] at read
      cases read
      exact ih (fun d member => blank d (by simp [member])) follow

private theorem step_comma (rest : List Char) :
    step (',' :: rest) = some ([.punct ',' (opensPunct rest)],rest) :=
  step_sign rfl (by decide) rfl

private theorem Lexes.after_comma (lexed : Lexes (',' :: rest) tokens) :
    ∃ more, tokens = .punct ',' (opensPunct rest) :: more ∧ Lexes rest more := by
  cases lexed with
  | step read _ follow =>
    rw [step_comma] at read
    cases read
    exact ⟨_,rfl,follow⟩

private theorem lexes_blanks (blank : ∀ c ∈ text, Text.isBlank c = true) (lexed : Lexes text tokens) :
    tokens = [] := by
  rw [← List.append_nil text] at lexed
  exact (lexed.after_blanks blank).unique .nil

/-- The comma of a tail is its token. -/
private theorem lexes_tail (trailing : Trailing text) (few : text.count ',' ≤ 1) (lexed : Lexes text tokens) :
    ',' ∉ text ∧ tokens = [] ∨ ',' ∈ text ∧ tokens = [.punct ',' false] := by
  have blank (part : List Char) (inside : ∀ c ∈ part, c ∈ text) (plain : ',' ∉ part) :
      ∀ c ∈ part, Text.isBlank c = true := fun c member =>
    (trailing c (inside c member)).resolve_right fun comma => plain (comma ▸ member)
  by_cases comma : ',' ∈ text
  · obtain ⟨before,after,rfl⟩ := List.append_of_mem comma
    have none : before.count ',' = 0 ∧ after.count ',' = 0 := by
      rw [List.count_append,List.count_cons_self] at few
      omega
    have early := blank before (by simp_all) (List.count_eq_zero.mp none.1)
    have late := blank after (by simp_all) (List.count_eq_zero.mp none.2)
    obtain ⟨more,rfl,follow⟩ := (lexed.after_blanks early).after_comma
    obtain rfl := lexes_blanks late follow
    have alone : opensPunct after = false := by
      by_contra opens
      have first := comma_of_opensPunct (trailing.suffix ((List.suffix_cons _ _).trans (List.suffix_append _ _)))
        (by simpa using opens)
      exact List.count_eq_zero.mp none.2 (List.mem_of_mem_head? first)
    exact .inr ⟨comma,by rw [alone]⟩
  · exact .inl ⟨comma,lexes_blanks (blank text (fun _ => id) comma) lexed⟩

private theorem Stepped.comma {joint : Bool} (stepped : Stepped text tokens rest)
    (last : tokens.getLast? = some (.punct ',' joint)) : text = ',' :: rest := by
  cases stepped with
  | gap => cases last
  | comment => cases last
  | doc _ shown =>
    rw [(last_of_docTokens shown).2] at last
    cases last
  | sign =>
    cases last
    rfl
  | _ => cases last

/-- The last token is a comma if and only if the lexer comes to a comma with no token after it. -/
private theorem separated_iff (lexed : Lexes text tokens) :
    Token.Separated tokens ↔ ∃ rest, Reaches text (',' :: rest) ∧ Lexes rest [] := by
  constructor
  · rintro ⟨front,joint,whole⟩
    induction lexed generalizing front with
    | nil => simp at whole
    | @step input rest tokens more read shorter follow ih =>
      rcases List.eq_nil_or_concat more with rfl | ⟨others,last,rfl⟩
      · rw [List.append_nil] at whole
        have last : tokens.getLast? = some (.punct ',' joint) := by simp [whole]
        exact ⟨rest,(stepped_of_step read).comma last ▸ .here _,follow⟩
      · rw [List.concat_eq_append,← List.append_assoc] at whole
        obtain ⟨rfl,comma⟩ := List.append_inj' whole rfl
        obtain ⟨rest,reaches,ended⟩ := ih others (by rw [List.concat_eq_append,comma])
        exact ⟨rest,.step read reaches,ended⟩
  · rintro ⟨rest,reaches,ended⟩
    generalize goal : ',' :: rest = left at reaches
    induction reaches generalizing tokens with
    | here =>
      subst goal
      obtain ⟨more,rfl,follow⟩ := lexed.after_comma
      obtain rfl := follow.unique ended
      exact ⟨[],_,rfl⟩
    | step read _ ih =>
      cases lexed with
      | nil => cases read
      | step read' _ follow =>
        rw [read] at read'
        cases read'
        obtain ⟨front,joint,rfl⟩ := ih follow goal
        exact ⟨_ ++ front,joint,(List.append_assoc ..).symm⟩

/-- A comment at the end of a text is not a comma. -/
private theorem not_comma_of_comment (reaches : Reaches text [',']) : ¬ EndsInComment text := by
  rintro ⟨remark,reached,opens,read⟩
  have last {left : List Char} (more : Reaches [','] left) : left = [','] ∨ left = [] := by
    cases more with
    | here => exact .inl rfl
    | step read more =>
      rw [step_comma] at read
      cases read
      cases more with
      | here => exact .inr rfl
      | step read => cases read
  rcases reaches.linear reached with after | before
  · rcases last after with rfl | rfl <;> cases opens
  · cases before with
    | here => cases opens
    | step stepped more =>
      rw [step_of_comment opens,read] at stepped
      cases stepped
      cases more with
      | step read => cases read

end

end Lexer

namespace Stringified

open CaseSynthesis.Grammar

/-! The text of a source. -/

/-- What comes before and after the text in its source. -/
private theorem trimmed_split (source : List Char) : ∃ before after, source = before ++ trimmed source ++ after ∧
    (∀ c ∈ before, Text.isBlank c = true) ∧ Trailing after ∧ after.count ',' ≤ 1 ∧
    ((trimmed source).getLast? = some ',' → ',' ∈ after) := by
  obtain ⟨before,after,whole,blank,blank'⟩ := Text.trim_split source
  have plain {blanks : List Char} (blank : ∀ c ∈ blanks, Text.isBlank c = true) : blanks.count ',' = 0 :=
    List.count_eq_zero.mpr fun comma => absurd (blank ',' comma) (by decide)
  unfold trimmed
  simp only [beq_iff_eq]
  split
  case isTrue comma =>
    obtain ⟨blanks,rest,blank''⟩ := Text.exists_blanks_after (Text.trim source).dropLast
    refine ⟨before,blanks ++ ',' :: after,?_,blank,?_,?_,fun _ => by simp⟩
    · have cut : Text.trim source = Text.trimEnd (Text.trim source).dropLast ++ blanks ++ [','] := by
        rw [← rest,List.dropLast_append_getLast? _ comma]
      conv => lhs; rw [whole,cut]
      simp
    · intro c member
      simp only [List.mem_append,List.mem_cons] at member
      rcases member with inside | rfl | inside
      · exact .inl (blank'' c inside)
      · exact .inr rfl
      · exact .inl (blank' c inside)
    · rw [List.count_append,List.count_cons_self,plain blank'',plain blank']
  case isFalse other =>
    have same : Text.trimEnd (Text.trim source) = Text.trim source :=
      Text.trimEnd_of_solid (Text.solid_trimEnd _)
    rw [same]
    exact ⟨before,after,whole,blank,fun c member => .inl (blank' c member),by simp [plain blank'],
      fun comma => absurd comma other⟩

private theorem firm_trimmed (source : List Char) : Firm (trimmed source) := by
  unfold trimmed
  simp only
  split <;> exact Text.solid_trimEnd _

private theorem opens_trimmed (source : List Char) : ∀ c ∈ (trimmed source).head?, Text.isBlank c = false := by
  have shorter (text : List Char) : Text.trimEnd text <+: text := by
    obtain ⟨blanks,whole,_⟩ := Text.exists_blanks_after text
    exact ⟨blanks,whole.symm⟩
  have part : trimmed source <+: Text.trimStart source := by
    unfold trimmed
    simp only
    split
    · exact (shorter _).trans ((List.dropLast_prefix _).trans (shorter _))
    · exact (shorter _).trans (shorter _)
  intro c first
  obtain ⟨rest,found⟩ := List.head?_eq_some_iff.mp first
  obtain ⟨more,whole⟩ := part
  exact Text.solid_trimStart source c (by simp [← whole,found])

/-- Trimmed again, a text stays as it is unless a comma comes last. -/
private theorem trimmed_again (source : List Char) :
    trimmed (trimmed source) = trimmed source ↔ (trimmed source).getLast? ≠ some ',' := by
  have start := Text.trimStart_of_solid (opens_trimmed source)
  have ends := Text.trimEnd_of_solid (firm_trimmed source)
  generalize trimmed source = text at start ends ⊢
  have still : Text.trim text = text := by rw [Text.trim,start,ends]
  simp only [trimmed,still,beq_iff_eq]
  split
  case isTrue comma =>
    refine ⟨fun same => ?_,fun other => absurd comma other⟩
    obtain ⟨blanks,whole,_⟩ := Text.exists_blanks_after text.dropLast
    have fewer := congrArg List.length whole
    have some : text ≠ [] := by
      rintro rfl
      cases comma
    have size := List.length_pos_iff.mpr some
    rw [same,List.length_append,List.length_dropLast] at fewer
    omega
  case isFalse other => exact ⟨fun _ => other,fun _ => ends⟩

end Stringified

namespace Lexer

def withoutMark : List Char → List Char
  | '\ufeff' :: rest => rest
  | input => input

private theorem withoutMark_suffix (input : List Char) : withoutMark input <:+ input := by
  unfold withoutMark
  split
  · exact List.suffix_cons _ _
  · exact List.suffix_rfl

private theorem withoutMark_of_head {input : List Char} (other : input.head? ≠ some '\ufeff') :
    withoutMark input = input := by
  unfold withoutMark
  split
  case h_1 => exact absurd rfl other
  case h_2 => rfl

private theorem lex_eq (source : String) : ∃ position,
    lex source = (lexemes position (withoutMark source.toList)).filter fun lexemes =>
      balanced [] lexemes.tokens := by
  unfold lex
  split
  case h_1 rest marked => exact ⟨_,by rw [marked]; rfl⟩
  case h_2 other =>
    have head : source.toList.head? ≠ some '\ufeff' := by
      intro marked
      obtain ⟨rest,marked⟩ := List.head?_eq_some_iff.mp marked
      exact other rest marked
    exact ⟨.start,by rw [withoutMark_of_head head]⟩

/-- The streams of a source text, and what the lexer takes it for. -/
private theorem lex_tokens_iff {source : String} {tokens : List Token} :
    (∃ stream, lex source = some stream ∧ stream.tokens = tokens) ↔
      balanced [] tokens = true ∧ Lexes (withoutMark source.toList) tokens := by
  obtain ⟨position,same⟩ := lex_eq source
  rw [same]
  constructor
  · rintro ⟨stream,read,rfl⟩
    obtain ⟨found,closed⟩ := Option.filter_eq_some_iff.mp read
    exact ⟨closed,.of_lexemes found⟩
  · rintro ⟨closed,lexed⟩
    obtain ⟨stream,read,rfl⟩ := lexed.yields position
    exact ⟨stream,Option.filter_eq_some_iff.mpr ⟨read,closed⟩,rfl⟩

/-- What is left of a source text goes on with what is cut off its end. -/
private theorem Lexes.of_parts {source before text after : List Char} {tokens : List Token}
    (lexed : Lexes (withoutMark source) tokens) (whole : source = before ++ text ++ after)
    (blank : ∀ c ∈ before, Text.isBlank c = true) (trailing : Trailing after) :
    Lexes (withoutMark text ++ after) tokens := by
  have solid : isWeak '\ufeff' = false := rfl
  subst whole
  cases before with
  | nil =>
    cases text with
    | nil =>
      have head : after.head? ≠ some '\ufeff' :=
        fun first => trailing.not_mem solid (List.mem_of_mem_head? first)
      rwa [List.nil_append,List.nil_append,withoutMark_of_head head] at lexed
    | cons c text =>
      by_cases mark : c = '\ufeff'
      · subst mark
        exact lexed
      · rw [withoutMark_of_head (by simpa using mark)] at lexed ⊢
        exact lexed
  | cons c before =>
    have head : c ≠ '\ufeff' := by
      rintro rfl
      exact absurd (blank '\ufeff' (by simp)) (by decide)
    rw [withoutMark_of_head (by simpa using head),List.append_assoc] at lexed
    have follow := lexed.after_blanks blank
    cases text with
    | nil => exact follow
    | cons d text =>
      rw [withoutMark_of_head (by simpa using follow.unmarked)]
      exact follow

end Lexer

namespace Stringified

open CaseSynthesis.Grammar

inductive Cut (text after : List Char) (stream again expr other : List Token) : Prop
  /-- The comma after the expression is cut off. It leaves a sign alone that was joint with it. -/
  | separator (first : List Token) (whole : stream = first ++ [.punct ',' false])
      (continued : Continued after again first) (same : again = first → other = expr)
      (none : ¬ Token.Separated again)
  | blank (kept : again = stream) (same : other = expr)
      (remark : ',' ∈ after → EndsInComment (withoutMark text))

private theorem cut_of_lex {source : String} {stream : Lexemes} {expr : Expr} {before text after : List Char}
    (lexed : lex source = some stream) (parsed : parseExprs stream = some [expr])
    (whole : source.toList = before ++ text ++ after) (blank : ∀ c ∈ before, Text.isBlank c = true)
    (trailing : Trailing after) (few : after.count ',' ≤ 1) (firm : Firm text) :
    ∃ again other, lex (String.ofList text) = some again ∧ parseExprs again = some [other] ∧
      List.Forall₂ Token.Loosens expr.tokens.tokens other.tokens.tokens ∧
      Cut text after stream.tokens again.tokens expr.tokens.tokens other.tokens.tokens := by
  have sound := sound_of_lex lexed
  have few_of {left : List Char} (part : left <:+ after) : left.count ',' ≤ 1 :=
    (part.sublist.count_le ',').trans few
  obtain ⟨closed,read⟩ := lex_tokens_iff.mp ⟨stream,lexed,rfl⟩
  have reading := (read.of_parts whole blank trailing).reading trailing
    (firm.suffix (withoutMark_suffix text))
  generalize all : stream.tokens = tokens at reading
  cases reading with
  | documented shown part follow =>
    refine absurd parsed (not_documented sound closed shown all ?_)
    rcases lexes_tail (trailing.suffix part) (few_of part) follow with ⟨_,rfl⟩ | ⟨_,rfl⟩
    · exact .inl rfl
    · exact .inr ⟨false,rfl⟩
  | @apart own first rest left lexed' continued part follow swallowed =>
    have again (within : balanced [] first = true) : ∃ again, lex (String.ofList text) = some again ∧
        again.tokens = own ∧ balanced [] again.tokens = true := by
      have closed' : balanced [] own = true := by rw [continued.balanced,within]
      obtain ⟨again,read,rfl⟩ := lex_tokens_iff.mpr ⟨closed',by rwa [String.toList_ofList]⟩
      exact ⟨again,read,rfl,closed'⟩
    rcases lexes_tail (trailing.suffix part) (few_of part) follow with ⟨plain,rfl⟩ | ⟨_,rfl⟩
    · rw [List.append_nil] at all
      -- a joint sign would have the comma of the tail after it, which then were a token
      obtain rfl : first = own := by
        rcases swallowed with rfl | ⟨same,_⟩
        · cases continued with
          | same => rfl
          | joint front sign comma => exact absurd (List.mem_of_mem_head? comma) plain
        · exact same
      obtain ⟨again,read,same,closed⟩ := again (all ▸ closed)
      obtain ⟨other,found,equal⟩ := parseExprs_of_tokens sound (same.trans all.symm) closed parsed
      refine ⟨again,other,read,found,?_,.blank (same.trans (List.append_nil _).symm) equal fun comma => ?_⟩
      · rw [equal]
        exact List.forall₂_same.mpr fun _ _ => .inl rfl
      · exact (swallowed.resolve_left fun equal => plain (equal ▸ comma)).2
    · have within : balanced [] first = true := by rwa [all,balanced_concat_sign] at closed
      obtain ⟨again,read,same,closed⟩ := again within
      obtain ⟨other,found,loose,equal,none⟩ := parseExprs_without_comma sound all continued
        (sound_of_lex read) same closed parsed
      exact ⟨again,other,read,found,loose,.separator first rfl (same ▸ continued) (same ▸ equal) none⟩

/-- A comma at the end of the stream is left over where something other than blanks follows it. -/
private theorem separated_again_iff {text after : List Char} {stream again expr other : List Token}
    (cut : Cut text after stream again expr other) (lexed : Lexes (withoutMark text) again) (firm : Firm text)
    (commas : text.getLast? = some ',' → ',' ∈ after) :
    Token.Separated again ↔ ∃ rest, Reaches (withoutMark text) (',' :: rest) ∧ Lexes rest [] ∧
      ∃ c ∈ rest, Text.isBlank c = false := by
  rw [separated_iff lexed]
  refine ⟨fun ⟨rest,reaches,ended⟩ => ⟨rest,reaches,ended,?_⟩,
    fun ⟨rest,reaches,ended,_⟩ => ⟨rest,reaches,ended⟩⟩
  have part : ',' :: rest <:+ text := reaches.suffix.trans (withoutMark_suffix text)
  rcases List.eq_nil_or_concat rest with rfl | ⟨front,last,rfl⟩
  · -- the comma would be the last character, and trimming takes that off unless it is in a comment
    exfalso
    cases cut with
    | separator first whole continued same none => exact none ((separated_iff lexed).mpr ⟨[],reaches,ended⟩)
    | blank kept same remark =>
      have last : text.getLast? = some ',' := by
        obtain ⟨front,rfl⟩ := part
        simp
      exact not_comma_of_comment reaches (remark (commas last))
  · rw [List.concat_eq_append] at part ⊢
    refine ⟨last,by simp,firm last ?_⟩
    obtain ⟨before,rfl⟩ := part
    rw [← List.cons_append,← List.append_assoc]
    exact List.getLast?_concat

private theorem rendered_inj {expr other : Expr} {text text' : String} :
    rendered expr text = rendered other text' ↔
      expr.tokens.tokens = other.tokens.tokens ∧ text = text' := by
  rw [rendered_eq,rendered_eq]
  constructor
  · intro same
    obtain ⟨tokens,rest⟩ := List.append_inj' (List.cons.inj same).2 rfl
    have literal : Text.literalText text = Text.literalText text' := by simpa using rest
    have value := congrArg StringLiteral.value? literal
    rw [StringLiteral.value?_literalText,StringLiteral.value?_literalText] at value
    exact ⟨tokens,Option.some.inj value⟩
  · rintro ⟨tokens,rfl⟩
    rw [tokens]

structure Excerpt (source : String) (output : List Token) (stream again : Lexemes) (expr other : Expr)
    (before text after : List Char) : Prop where
  lexed : lex source = some stream
  parsed : single stream = .ok expr
  shown : output = rendered expr (String.ofList text)
  /-- The text is a part of the source, without blanks around it and a comma among those after it. -/
  whole : source.toList = before ++ text ++ after
  blanks : ∀ c ∈ before, Text.isBlank c = true
  blanksAfter : ∀ c ∈ after, Text.isBlank c = true ∨ c = ','
  commas : after.count ',' ≤ 1
  lexedAgain : lex (String.ofList text) = some again
  parsedAgain : single again = .ok other
  loosens : List.Forall₂ Token.Loosens expr.tokens.tokens other.tokens.tokens
  cut : Cut text after stream.tokens again.tokens expr.tokens.tokens other.tokens.tokens
  /-- A comma after the expression is left over if a comment or a mark without a token follows it. -/
  leftOver : Token.Separated again.tokens ↔ ∃ rest, Reaches (withoutMark text) (',' :: rest) ∧
    Lexes rest [] ∧ ∃ c ∈ rest, Text.isBlank c = false
  /-- The text gives the same result again unless a sign has lost its jointness or a comma comes last. -/
  repeated : ofSource (String.ofList text) = .ok output ↔
    other.tokens.tokens = expr.tokens.tokens ∧ text.getLast? ≠ some ','

/-- Every text next to an expression is read as that expression again. -/
theorem ofSource_reads_back {source : String} {output : List Token} (accepted : ofSource source = .ok output) :
    ∃ stream again expr other before text after,
      Excerpt source output stream again expr other before text after := by
  obtain ⟨stream,expr,read,parsed,rfl⟩ := rendering_ok_iff.mp accepted
  obtain ⟨before,after,whole,blank,trailing,few,commas⟩ := trimmed_split source.toList
  have firm := firm_trimmed source.toList
  obtain ⟨again,other,read',found,loose,cut⟩ :=
    cut_of_lex read (single_cases parsed) whole blank trailing few firm
  have parsed' : single again = .ok other := by rw [single,found]
  have lexed := (lex_tokens_iff.mp ⟨again,read',rfl⟩).2
  rw [String.toList_ofList] at lexed
  refine ⟨stream,again,expr,other,before,trimmed source.toList,after,read,parsed,rfl,whole,blank,trailing,few,
    read',parsed',loose,cut,separated_again_iff cut lexed firm commas,?_⟩
  have outcome : ofSource (String.ofList (trimmed source.toList)) =
      .ok (rendered other (String.ofList (trimmed (trimmed source.toList)))) :=
    rendering_ok_iff.mpr ⟨again,other,read',parsed',by rw [String.toList_ofList]⟩
  rw [outcome,Except.ok.injEq,rendered_inj,String.ofList_inj,trimmed_again]

def namedPair (text : String) : List Token :=
  [.opening .parenthesis,.ident ⟨"a",false⟩,.punct ',' false,.literal (Text.literalText text),
    .closing .parenthesis]

theorem ofSource_reads_back_remark : ∃ stream again expr other before text after,
    Excerpt "a, // x" (namedPair "a, // x") stream again expr other before text after :=
  ofSource_reads_back (by decide +kernel)

/-- A comma at the end of a comment is cut off, and the comma before a comment is not. -/
theorem ofSource_of_remarks : ofSource "a // x," = .ok (namedPair "a // x") ∧
    ofSource "a // x,," = .ok (namedPair "a // x,") ∧ ofSource "a, // x" = .ok (namedPair "a, // x") := by
  decide +kernel

end Stringified

end CaseSynthesis
