import CaseSynthesis.Program.Expansion
import CaseSynthesis.Proofs.Parallel.Statement
import CaseSynthesis.Proofs.Printing

/-! An expression next to its printed form: the text is read again as the tokens of the expression,
up to the jointness of signs. -/

namespace CaseSynthesis

open Lexer

namespace Grammar

open CaseSynthesis.Grammar.Parser

section

variable {α : Type}

/-- What a loop has gathered is kept by every round of it. -/
private theorem loop_extends {body : List α → Parser (List α × Bool)} {state result : List α}
    {input rest : Lexemes}
    (round : ∀ state input next more rest, body state input = some ((next,more),rest) →
      state <+: next)
    (run : loop body state input = some (result,rest)) : state <+: result := by
  induction size : input.length using Nat.strongRecOn generalizing state input with
  | ind length ih =>
    subst size
    obtain ⟨next,more,after,read,goesOn⟩ := loop_round run
    have kept := round _ _ _ _ _ read
    cases more with
    | false => exact goesOn.1 ▸ kept
    | true => exact kept.trans (ih after.length goesOn.1 goesOn.2 rfl)

private theorem comma_of_run {input mark rest : Lexemes} (run : punct "," input = some (mark,rest)) :
    ∃ joint span, input = ⟨.punct ',' joint,span⟩ :: rest := by
  rw [run_punct] at run
  split at run
  case isFalse => cases run
  case isTrue seen =>
    obtain ⟨taken,more,rfl,spelled⟩ := exists_spelled [','] input seen
    cases spelled with
    | @cons _ lexeme _ _ found none =>
      cases none
      obtain ⟨token,span⟩ := lexeme
      obtain ⟨joint,rfl⟩ := found
      rw [List.singleton_append] at run ⊢
      change punctChars [','] _ = _ at run
      cases run
      exact ⟨joint,span,rfl⟩

def separatedRound (stop : View) (separator : String) (phrase : Parser α)
    (phrases : Separated α) : Parser (Separated α × Bool) := do
  if ← peek stop then return (phrases,false)
  let value ← phrase
  if ← peek stop then return (phrases ++ [(value,[])],false)
  let mark ← punct separator
  return (phrases ++ [(value,mark)],true)

private theorem separated_eq (stop : View) (separator : String) (phrase : Parser α) :
    separated stop separator phrase = loop (separatedRound stop separator phrase) [] := rfl

theorem run_separatedRound (stop : View) (separator : String) (phrase : Parser α)
    (phrases : Separated α) (input : Lexemes) :
    separatedRound stop separator phrase phrases input =
      if stop input then some ((phrases,false),input)
      else (phrase input).bind fun (value,rest) =>
        if stop rest then some ((phrases ++ [(value,[])],false),rest)
        else (punct separator rest).map fun (mark,rest) => ((phrases ++ [(value,mark)],true),rest) := by
  simp only [separatedRound,run_bind,run_peek,Option.bind_some,run_ite,run_pure]
  split
  · rfl
  · cases phrase input with
    | none => rfl
    | some read =>
      obtain ⟨value,rest⟩ := read
      simp only [Option.bind_some]
      split
      · rfl
      · cases punct separator rest <;> rfl

/-- A round stops where it is, or it reads a phrase. -/
private theorem separatedRound_cases {stop : View} {separator : String} {phrase : Parser α}
    {phrases next : Separated α} {input rest : Lexemes} {more : Bool}
    (read : separatedRound stop separator phrase phrases input = some ((next,more),rest)) :
    (stop input = true ∧ next = phrases ∧ more = false ∧ rest = input) ∨
      ∃ value after, stop input = false ∧ phrase input = some (value,after) ∧
        (stop after = true ∧ next = phrases ++ [(value,[])] ∧ more = false ∧ rest = after ∨
          ∃ mark, stop after = false ∧ punct separator after = some (mark,rest) ∧
            next = phrases ++ [(value,mark)] ∧ more = true) := by
  rw [run_separatedRound] at read
  split at read
  case isTrue ended =>
    cases read
    exact .inl ⟨ended,rfl,rfl,rfl⟩
  case isFalse ahead =>
    obtain ⟨⟨value,after⟩,found,read⟩ := Option.bind_eq_some_iff.mp read
    refine .inr ⟨value,after,by simpa using ahead,found,?_⟩
    simp only at read
    split at read
    case isTrue ended =>
      cases read
      exact .inl ⟨ended,rfl,rfl,rfl⟩
    case isFalse further =>
      obtain ⟨⟨mark,left⟩,marked,same⟩ := Option.map_eq_some_iff.mp read
      cases same
      exact .inr ⟨mark,by simpa using further,marked,rfl,rfl⟩

private theorem separated_extends {stop : View} {separator : String} {phrase : Parser α}
    {phrases result : Separated α} {input rest : Lexemes}
    (run : loop (separatedRound stop separator phrase) phrases input = some (result,rest)) :
    phrases <+: result := by
  refine loop_extends (fun state input next more rest read => ?_) run
  rcases separatedRound_cases read with ⟨_,rfl,_⟩ | ⟨value,after,_,_,⟨_,rfl,_⟩ | ⟨mark,_,_,rfl,_⟩⟩
  · exact List.prefix_rfl
  · exact List.prefix_append _ _
  · exact List.prefix_append _ _

/-- Where the end has not come, another phrase is read. -/
private theorem separated_longer {stop : View} {separator : String} {phrase : Parser α}
    {phrases result : Separated α} {input rest : Lexemes} (ahead : stop input = false)
    (run : loop (separatedRound stop separator phrase) phrases input = some (result,rest)) :
    phrases.length < result.length := by
  obtain ⟨next,more,after,read,goesOn⟩ := loop_round run
  have grown : phrases.length < next.length := by
    rcases separatedRound_cases read with ⟨ended,_⟩ | ⟨value,after,_,_,⟨_,rfl,_⟩ | ⟨mark,_,_,rfl,_⟩⟩
    · rw [ahead] at ended
      cases ended
    · simp
    · simp
  cases more with
  | false => exact goesOn.1 ▸ grown
  | true => exact lt_of_lt_of_le grown (separated_extends goesOn.2).length_le

/-- One phrase, with a comma after it at most. -/
private theorem commaSeparated_single {phrase : Parser α} {stream mark : Lexemes} {value : α}
    (run : commaSeparated phrase stream = some ([(value,mark)],[])) :
    ∃ rest, phrase stream = some (value,rest) ∧
      (rest = [] ∨ ∃ joint span, rest = [⟨.punct ',' joint,span⟩]) := by
  rw [commaSeparated,separated_eq] at run
  obtain ⟨next,more,after,read,goesOn⟩ := loop_round run
  rcases separatedRound_cases read with ⟨_,rfl,rfl,_⟩ | ⟨value',rest,_,first,ended | comma⟩
  · cases goesOn.1
  · obtain ⟨_,rfl,rfl,rfl⟩ := ended
    obtain ⟨same,rfl⟩ := goesOn
    cases same
    exact ⟨[],first,.inl rfl⟩
  · obtain ⟨mark',_,marked,rfl,rfl⟩ := comma
    obtain ⟨joint,span,rfl⟩ := comma_of_run marked
    have follow := goesOn.2
    rw [List.nil_append] at follow
    cases ahead : View.atEnd after with
    | false => exact absurd (separated_longer ahead follow) (by simp)
    | true =>
      have stopped := run_separatedRound View.atEnd "," phrase [(value',mark')] after
      rw [if_pos ahead] at stopped
      rw [run_loop_stop _ _ _ _ _ stopped] at follow
      cases follow
      exact ⟨_,first,.inr ⟨joint,span,rfl⟩⟩

private theorem commaSeparated_of_single {phrase : Parser α} {stream rest : Lexemes} {value : α}
    (ahead : View.atEnd stream = false) (read : phrase stream = some (value,rest))
    (ended : rest = [] ∨ ∃ joint span, rest = [⟨.punct ',' joint,span⟩]) :
    ∃ mark, commaSeparated phrase stream = some ([(value,mark)],[]) := by
  have first := run_separatedRound View.atEnd "," phrase [] stream
  rw [if_neg (by simp [ahead]),read,Option.bind_some] at first
  rcases ended with rfl | ⟨joint,span,rfl⟩
  · exact ⟨[],run_loop_stop _ _ _ _ _ first⟩
  · have marked : separatedRound View.atEnd "," phrase [] stream =
        some (([(value,[⟨.punct ',' false,span⟩])],true),[]) := first
    have filled : 0 < stream.length := by
      cases stream with
      | nil => cases ahead
      | cons lexeme stream => simp
    refine ⟨[⟨.punct ',' false,span⟩],?_⟩
    rw [commaSeparated,separated_eq,run_loop_more _ _ _ _ _ marked filled]
    exact run_loop_stop _ _ _ _ _ (run_separatedRound View.atEnd "," phrase _ [])

def exprOf (stream : Lexemes) : Parser Expr := (nested (stream.length + 1)).expr true

theorem parseExprs_single {stream : Lexemes} {expr : Expr} (parsed : parseExprs stream = some [expr]) :
    ∃ rest, exprOf stream stream = some (expr,rest) ∧
      (rest = [] ∨ ∃ joint span, rest = [⟨.punct ',' joint,span⟩]) := by
  obtain ⟨exprs,read,same⟩ := Option.map_eq_some_iff.mp parsed
  obtain ⟨⟨_,mark⟩,rfl,rfl⟩ := List.map_eq_singleton_iff.mp same
  exact commaSeparated_single (whole_eq_some read)

theorem parseExprs_of_single {stream rest : Lexemes} {expr : Expr}
    (closed : balanced [] stream.tokens = true) (filled : stream ≠ [])
    (read : exprOf stream stream = some (expr,rest))
    (ended : rest = [] ∨ ∃ joint span, rest = [⟨.punct ',' joint,span⟩]) :
    parseExprs stream = some [expr] := by
  have ahead : View.atEnd stream = false := by
    cases stream with
    | nil => contradiction
    | cons lexeme stream =>
      obtain ⟨token,span⟩ := lexeme
      cases token with
      | closing delimiter => cases closed
      | _ => rfl
  obtain ⟨mark,run⟩ := commaSeparated_of_single ahead read ended
  have parsed : whole commaExprs stream = some [(expr,mark)] := whole_read _ _ _ run
  rw [parseExprs,parsed]
  rfl

end

/-- A stream is the tokens of a text, of which a byte order mark is no part. -/
private theorem lex_cases {source : String} {stream : Lexemes} (read : lex source = some stream) :
    balanced [] stream.tokens = true ∧ ∃ input, Lexes input stream.tokens ∧
      (source.toList = '\ufeff' :: input ∨ source.toList = input) := by
  unfold lex at read
  obtain ⟨found,closed⟩ := Option.filter_eq_some_iff.mp read
  refine ⟨closed,?_⟩
  split at found
  case h_1 input marked => exact ⟨input,.of_lexemes found,.inl marked⟩
  case h_2 => exact ⟨source.toList,.of_lexemes found,.inr rfl⟩

theorem sound_of_lex {source : String} {stream : Lexemes} (read : lex source = some stream) :
    Sound stream := by
  obtain ⟨closed,input,lexed,_⟩ := lex_cases read
  refine ⟨fun lexeme member => ?_,lexed.unslashed,[],closed⟩
  exact lexed.legible _ (List.mem_map_of_mem member)

theorem alone_state {stream : Lexemes} (sound : Sound stream) :
    Comparison.alone.State .outside stream [] :=
  ⟨sound,.inl ⟨stream,by simp [Comparison.alone],False.elim,nofun,nofun⟩⟩

/-- The tokens of an expression can be printed and read back. -/
private theorem kin_of_run {depth : Nat} {stream rest : Lexemes} {expr : Expr} (sound : Sound stream)
    (read : (nested depth).expr true stream = some (expr,rest)) :
    ∃ other, Kin .alone expr.tokens other := by
  obtain ⟨other,_,_,_,kin,_⟩ := ((rulesCore_zero depth .alone (nested depth)).expr .outside true
    stream [] (alone_state sound) False.elim).1 expr rest read
  exact ⟨other.tokens,kin.tokens⟩

end Grammar

namespace Stringified

open CaseSynthesis.Grammar

theorem single_cases {stream : Lexemes} {expr : Expr} (read : single stream = .ok expr) :
    parseExprs stream = some [expr] := by
  unfold single at read
  split at read
  case h_1 => cases read
  case h_2 found =>
    cases read
    exact found
  case h_3 => cases read

/-- An expression is rendered if and only if the source is tokens and they are one expression. -/
theorem rendering_ok_iff {source : String} {text : Expr → String} {out : List Token} :
    ((readTokens source).mapError ExpandError.unreadable >>= fun stream =>
      single stream >>= fun expr => pure (rendered expr (text expr))) = .ok out ↔
    ∃ stream expr, lex source = some stream ∧ single stream = .ok expr ∧
      out = rendered expr (text expr) := by
  unfold readTokens
  cases lex source with
  | none => exact ⟨nofun,fun ⟨_,_,read,_⟩ => nomatch read⟩
  | some stream =>
    change (single stream >>= fun expr => pure (rendered expr (text expr))) = _ ↔ _
    constructor
    · intro accepted
      cases parsed : single stream with
      | error error =>
        rw [parsed] at accepted
        cases accepted
      | ok expr =>
        rw [parsed] at accepted
        exact ⟨stream,expr,rfl,parsed,(Except.ok.inj accepted).symm⟩
    · rintro ⟨_,expr,⟨⟩,parsed,rfl⟩
      rw [parsed]
      rfl

theorem rendered_eq (expr : Expr) (text : String) : rendered expr text =
    .opening .parenthesis :: (expr.tokens.tokens ++
      [.punct ',' false,.literal (Text.literalText text),.closing .parenthesis]) := by
  change .opening .parenthesis :: (expr.tokens.tokens ++ [Token.punct ',' false] ++
    [.literal (Text.literalText text)] ++ [.closing .parenthesis]) = _
  simp

/-- The text next to an expression is its printed form, and it is read again as the tokens of the
expression, in which a sign is joint only before another sign. -/
theorem ofTokens_reads_back (source : String) (out : List Token)
    (accepted : ofTokens source = .ok out) :
    ∃ stream expr text again, lex source = some stream ∧ single stream = .ok expr ∧
      out = .opening .parenthesis :: (expr.tokens.tokens ++
        [.punct ',' false,.literal text,.closing .parenthesis]) ∧
      StringLiteral.value? text = some (Token.print expr.tokens.tokens) ∧
      lex (Token.print expr.tokens.tokens) = some again ∧
      again.tokens = Token.reread expr.tokens.tokens ∧
      (again.tokens = expr.tokens.tokens ↔ Token.Settled expr.tokens.tokens) := by
  obtain ⟨stream,expr,read,parsed,rfl⟩ := rendering_ok_iff.mp accepted
  obtain ⟨rest,run,_⟩ := parseExprs_single (single_cases parsed)
  obtain ⟨other,kin⟩ := kin_of_run (sound_of_lex read) run
  have legible : ∀ token ∈ expr.tokens.tokens, token.Legible := by
    intro token member
    obtain ⟨lexeme,inside,rfl⟩ := List.mem_map.mp member
    exact kin.legible lexeme inside
  have closed : balanced [] expr.tokens.tokens = true := by
    have all := kin.enclosed [] []
    rwa [List.append_nil] at all
  obtain ⟨again,lexed,same⟩ := lex_print legible kin.unslashed closed
  refine ⟨stream,expr,Text.literalText (Token.print expr.tokens.tokens),again,read,parsed,
    rendered_eq expr _,StringLiteral.value?_literalText _,lexed,same,?_⟩
  rw [same]
  exact Token.reread_eq_iff _

/-- What is made of `become x?,`. The comma leaves the sign before it joint, and is no part of the
expression. -/
def becomePair : List Token :=
  [.opening .parenthesis,.ident ⟨"become",false⟩,.ident ⟨"x",false⟩,.punct '?' true,.punct ',' false,
    .literal "\"become x ?\"",.closing .parenthesis]

private theorem ofTokens_become : ofTokens "become x?," = .ok becomePair := by decide +kernel

theorem ofTokens_reads_back_become : ofTokens "become x?," = .ok becomePair ∧
    ∃ stream expr text again, lex "become x?," = some stream ∧ single stream = .ok expr ∧
      becomePair = .opening .parenthesis :: (expr.tokens.tokens ++
        [.punct ',' false,.literal text,.closing .parenthesis]) ∧
      StringLiteral.value? text = some (Token.print expr.tokens.tokens) ∧
      lex (Token.print expr.tokens.tokens) = some again ∧
      again.tokens = Token.reread expr.tokens.tokens ∧
      (again.tokens = expr.tokens.tokens ↔ Token.Settled expr.tokens.tokens) :=
  ⟨ofTokens_become,ofTokens_reads_back _ _ ofTokens_become⟩

/-- The joint sign is read back as one that stands alone. -/
theorem ofTokens_loses_jointness : ofTokens "become x?," = .ok becomePair ∧
    StringLiteral.value? "\"become x ?\"" = some "become x ?" ∧
    (lex "become x ?").map Lexemes.tokens = some [.ident ⟨"become",false⟩,.ident ⟨"x",false⟩,
      .punct '?' false] :=
  ⟨ofTokens_become,by decide +kernel⟩

end Stringified

end CaseSynthesis
