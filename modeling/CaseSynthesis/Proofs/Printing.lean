import CaseSynthesis.Proofs.Lexed

/-! The printed form of tokens, read again. It gives the same tokens but for one thing: a sign is
joint afterwards only if it stands before a token that starts with a sign. -/

namespace CaseSynthesis

open Lexer

namespace Token

def opensSign : Token → Bool
  | punct _ _ => true
  | lifetime _ => true
  | literal text => text.toList.head? == some '\''
  | _ => false

def settle (token : Token) (rest : List Token) : Token :=
  match token with
  | punct c joint => punct c (joint && rest.head?.any opensSign)
  | token => token

def reread : List Token → List Token
  | [] => []
  | token :: rest => token.settle rest :: reread rest

/-- A joint sign only stands before a token that starts with a sign. -/
def Settled (tokens : List Token) : Prop :=
  ∀ before sign after, tokens = before ++ punct sign true :: after →
    ∃ next ∈ after.head?, next.opensSign = true

private theorem settle_eq_iff (token : Token) (rest : List Token) : token.settle rest = token ↔
    ∀ sign, token = punct sign true → ∃ next ∈ rest.head?, next.opensSign = true := by
  cases token with
  | punct c joint =>
    cases joint with
    | true => simp [settle,Option.any_eq_true]
    | false => simp [settle]
  | _ => simp [settle]

private theorem settled_cons (token : Token) (rest : List Token) : Settled (token :: rest) ↔
    (∀ sign, token = punct sign true → ∃ next ∈ rest.head?, next.opensSign = true) ∧
      Settled rest := by
  constructor
  · intro settled
    refine ⟨fun sign same => settled [] sign rest (by simp [same]),fun before sign after split => ?_⟩
    exact settled (token :: before) sign after (by simp [split])
  · rintro ⟨head,more⟩ before sign after split
    cases before with
    | nil =>
      obtain ⟨same,rfl⟩ := List.cons.inj split
      exact head sign same
    | cons other before => exact more before sign after (List.cons.inj split).2

theorem reread_eq_iff (tokens : List Token) : reread tokens = tokens ↔ Settled tokens := by
  induction tokens with
  | nil => exact ⟨fun _ before sign after split => by simp at split,fun _ => rfl⟩
  | cons token rest ih => rw [reread,List.cons.injEq,settle_eq_iff,ih,settled_cons]

def Clear (tail : List Char) : Token → Prop
  | punct c _ => Lexer.opensComment (c :: tail) = false
  | opening _ => True
  | closing _ => True
  | _ => Apart tail

def before (tail : List Char) : Token → Token
  | punct c _ => punct c (opensPunct tail)
  | token => token

end Token

namespace Lexer

private theorem afterQuoted_of_isPunct {c : Char} (sign : isPunct c = true) (other : c ≠ '\'')
    (rest : List Char) : afterQuoted (c :: rest) = none := by
  cases read : afterQuoted (c :: rest) with
  | none => rfl
  | some after =>
    have opener := head_of_quoted read
    simp only [List.mem_cons,List.not_mem_nil,or_false] at opener
    rcases opener with rfl | rfl | rfl | rfl | rfl
    all_goals first | exact absurd rfl other | cases sign

private theorem scan_of_isPunct {c : Char} (sign : isPunct c = true) (rest : List Char) :
    Number.scan (c :: rest) = none := by
  cases read : Number.scan (c :: rest) with
  | none => rfl
  | some after =>
    have digit := Number.isDigit_of_scan c rest after read
    have signs : "~!@#$%^&*-=+|;:,<.>/?'".toList.all (fun c => !c.isDigit) = true := rfl
    have plain := List.all_eq_true.mp signs c (List.contains_iff_mem.mp sign)
    simp [digit] at plain

theorem step_sign {c : Char} {tail : List Char} (sign : isPunct c = true) (other : c ≠ '\'')
    (plain : opensComment (c :: tail) = false) :
    step (c :: tail) = some ([.punct c (opensPunct tail)],tail) := by
  have opens : opensPunct (c :: tail) = true := by simp [opensPunct,sign,plain]
  have read : punct (c :: tail) = some (.punct c (opensPunct tail),tail) := by
    rw [punct.eq_2 c tail other,if_pos opens]
  have unquoted : literal (c :: tail) = none := by
    simp [literal,afterQuoted_of_isPunct sign other,scan_of_isPunct sign]
  rw [step,if_neg (by simp [isGap_of_isPunct sign]),if_neg (by simp [plain]),
    delimiter_of_isPunct sign,token,unquoted]
  simp [read]

private theorem anyIdent_text {name : Ident} {tail : List Char} (legible : name.Legible)
    (ended : Ends tail) : anyIdent (name.text.toList ++ tail) = some (name,tail) := by
  obtain ⟨name,raw⟩ := name
  obtain ⟨formed,escapable⟩ := legible
  obtain ⟨c,letters,split,start,letter⟩ := (wellFormed_iff name).mp formed
  have scanned := scan_append c letters tail start letter ended
  rw [← split] at scanned
  cases raw with
  | true =>
    have spelled : (Ident.text ⟨name,true⟩).toList = 'r' :: '#' :: name.toList := by
      simp [Ident.text]
    rw [spelled]
    have plain : unrawable.contains name = false := by simpa using escapable rfl
    simp only [List.cons_append,anyIdent,scanned,Option.bind_eq_bind,Option.bind_some,
      String.ofList_toList,plain]
    rfl
  | false =>
    have spelled : (Ident.text ⟨name,false⟩).toList = name.toList := by simp [Ident.text]
    rw [spelled]
    unfold anyIdent
    split
    case h_1 more marked =>
      -- The hash would be a letter of the name or the first character after it.
      rw [split,List.cons_append] at marked
      have next := (List.cons.inj marked).2
      cases letters with
      | nil => exact absurd (by simp) (ended '#' (by rw [List.nil_append] at next; simp [next])).2
      | cons d letters =>
        obtain rfl : d = '#' := (List.cons.inj next).1
        exact absurd (letter '#' (by simp)) (by decide)
    case h_2 =>
      rw [scanned]
      simp

theorem text_of_legible {name : Ident} (legible : name.Legible) :
    ∃ c more, name.text.toList = c :: more ∧ Text.isSolid c = true ∧ '\'' ∉ more := by
  obtain ⟨name,raw⟩ := name
  obtain ⟨formed,_⟩ := legible
  obtain ⟨c,letters,split,start,letter⟩ := (wellFormed_iff name).mp formed
  have quote (member : '\'' ∈ letters) : False := by
    have letter := letter '\'' member
    exact absurd letter (by decide)
  cases raw with
  | true =>
    refine ⟨'r','#' :: c :: letters,by simp [Ident.text,split],rfl,fun member => ?_⟩
    simp only [List.mem_cons] at member
    rcases member with same | rfl | member
    · cases same
    · exact absurd start (by decide)
    · exact quote member
  | false => exact ⟨c,letters,by simp [Ident.text,split],Text.isSolid_of_start c start,quote⟩

private theorem afterCharacter_of_other {kind : StringLiteral.Kind} {c : Char} {rest : List Char}
    (plain : c ≠ '\\') (other : rest.head? ≠ some '\'') :
    afterCharacter kind (c :: rest) = none := by
  have open' : afterQuote rest = none := by
    unfold afterQuote
    split
    case h_1 => exact absurd rfl other
    case h_2 => rfl
  unfold afterCharacter
  simp only
  split
  case isFalse => rfl
  case isTrue => exact open'

private theorem startsWith_of_head {text : String} {mark : Char} {more tail : List Char}
    (spelled : text.toList = mark :: more) (other : tail.head? ≠ some mark) :
    startsWith text tail = false := by
  rw [startsWith,spelled]
  cases tail with
  | nil => rfl
  | cons c tail =>
    have differs : mark ≠ c := fun same => other (by simp [same])
    simp [List.isPrefixOf,differs]

private theorem step_lifetime {name : Ident} {tail : List Char} (legible : name.Legible)
    (apart : Apart tail) :
    step ('\'' :: (name.text.toList ++ tail)) = some ([.lifetime name],tail) := by
  have named := anyIdent_text legible apart.ends
  obtain ⟨c,more,spelled,solid,unquoted⟩ := text_of_legible legible
  have sign (listed : Char) (mark : listed ∈ ['"','\'','#']) : tail.head? ≠ some listed :=
    fun head => (apart.ends listed head).2 mark
  have quoted : afterQuoted ('\'' :: (name.text.toList ++ tail)) = none := by
    rw [spelled]
    refine afterCharacter_of_other (Text.ne_of_solid c _ solid (by decide)) ?_
    cases more with
    | nil => exact sign '\'' (by simp)
    | cons d more =>
      intro head
      obtain rfl : d = '\'' := by simpa using head
      simp at unquoted
  have unquoted : literal ('\'' :: (name.text.toList ++ tail)) = none := by
    simp [literal,quoted,scan_of_isPunct (c := '\'') rfl]
  have read : punct ('\'' :: (name.text.toList ++ tail)) = some (.lifetime name,tail) := by
    have quote : startsWith "'" tail = false := startsWith_of_head rfl (sign '\'' (by simp))
    have hash : startsWith "#" tail = false := startsWith_of_head rfl (sign '#' (by simp))
    change lifetime (name.text.toList ++ tail) = _
    simp [lifetime,named,quote,hash]
  change (token ('\'' :: (name.text.toList ++ tail))).map _ = _
  rw [token,unquoted]
  simp [read]

private theorem step_ident {name : Ident} {tail : List Char} (legible : name.Legible) (apart : Apart tail) :
    step (name.text.toList ++ tail) = some ([.ident name],tail) := by
  obtain ⟨name,raw⟩ := name
  obtain ⟨formed,escapable⟩ := legible
  cases raw with
  | false => exact step_word name tail formed apart.ends
  | true =>
    have spelled : (Ident.text ⟨name,true⟩).toList = 'r' :: '#' :: name.toList := by
      simp [Ident.text]
    rw [spelled]
    exact step_rawWord name tail formed (escapable rfl) apart.ends

private theorem step_opening (delimiter : Delimiter) (tail : List Char) :
    step (delimiter.openingChar :: tail) = some ([.opening delimiter],tail) := by
  cases delimiter <;> rfl

private theorem step_closing (delimiter : Delimiter) (tail : List Char) :
    step (delimiter.closingChar :: tail) = some ([.closing delimiter],tail) := by
  cases delimiter <;> rfl

private theorem step_token {token : Token} {tail : List Char} (legible : token.Legible)
    (clear : token.Clear tail) :
    step (token.text.toList ++ tail) = some ([token.before tail],tail) := by
  cases token with
  | ident name => exact step_ident legible clear
  | lifetime name =>
    have spelled : (Token.lifetime name).text.toList = '\'' :: name.text.toList := by
      simp [Token.text]
    rw [spelled]
    exact step_lifetime legible clear
  | punct c joint =>
    have spelled : (Token.punct c joint).text.toList = [c] := by simp [Token.text]
    rw [spelled]
    exact step_sign legible.1 legible.2 clear
  | literal text => exact legible tail clear
  | opening delimiter =>
    have spelled : (Token.opening delimiter).text.toList = [delimiter.openingChar] := by
      simp [Token.text]
    rw [spelled]
    exact step_opening delimiter tail
  | closing delimiter =>
    have spelled : (Token.closing delimiter).text.toList = [delimiter.closingChar] := by
      simp [Token.text]
    rw [spelled]
    exact step_closing delimiter tail

/-- A literal does not start with a sign other than the quote. -/
theorem not_sign_of_literal {c : Char} {more : List Char} {text : String}
    (legible : (Token.literal text).Legible) (spelled : text.toList = c :: more) (other : c ≠ '\'') :
    isPunct c = false := by
  rw [Bool.eq_false_iff]
  intro sign
  have read := legible [] apart_nil
  rw [spelled,List.append_nil] at read
  cases comments : opensComment (c :: more) with
  | false =>
    rw [step_sign sign other comments] at read
    cases read
  | true =>
    rw [step,if_neg (by simp [isGap_of_isPunct sign]),if_pos comments] at read
    rcases comment_tokens read with none | ⟨inner,line,shown⟩
    · cases none
    · unfold docTokens at shown
      split at shown
      · have head := congrArg List.head? (Option.some.inj shown)
        simp at head
      · cases shown

theorem head_of_legible {token : Token} (legible : token.Legible) :
    ∃ c more, token.text.toList = c :: more ∧ isPunct c = token.opensSign ∧
      (token.opensComment = false → c ≠ '/' ∧ c ≠ '*') := by
  cases token with
  | ident name =>
    obtain ⟨c,more,spelled,solid,_⟩ := text_of_legible legible
    exact ⟨c,more,spelled,isPunct_of_solid c solid,
      fun _ => ⟨Text.ne_of_solid c _ solid rfl,Text.ne_of_solid c _ solid rfl⟩⟩
  | lifetime name => exact ⟨'\'',name.text.toList,by simp [Token.text],rfl,fun _ => by decide⟩
  | punct c joint =>
    exact ⟨c,[],by simp [Token.text],legible.1,fun plain => by simpa [Token.opensComment] using plain⟩
  | literal text =>
    cases spelled : text.toList with
    | nil =>
      have read := legible [] apart_nil
      rw [spelled] at read
      cases read
    | cons c more =>
      refine ⟨c,more,spelled,?_⟩
      by_cases quote : c = '\''
      · subst quote
        exact ⟨by simp [Token.opensSign,spelled,isPunct],fun _ => by decide⟩
      · have plain := not_sign_of_literal legible spelled quote
        refine ⟨by simp [Token.opensSign,spelled,quote,plain],fun _ => ⟨?_,?_⟩⟩
        · rintro rfl
          cases plain
        · rintro rfl
          cases plain
  | opening delimiter => cases delimiter <;> exact ⟨_,[],rfl,rfl,fun _ => by decide⟩
  | closing delimiter => cases delimiter <;> exact ⟨_,[],rfl,rfl,fun _ => by decide⟩

private theorem opensComment_of_head {c : Char} {rest : List Char} (other : c ≠ '/') :
    opensComment (c :: rest) = false := by
  simp [opensComment,startsWith,List.isPrefixOf,other.symm]

private theorem opensComment_of_next {c next : Char} {rest : List Char} (other : next ≠ '/' ∧ next ≠ '*') :
    opensComment (c :: next :: rest) = false := by
  simp [opensComment,startsWith,List.isPrefixOf,other.1.symm,other.2.symm]

private theorem opensPunct_text {token : Token} {tail : List Char} (legible : token.Legible)
    (clear : token.Clear tail) : opensPunct (token.text.toList ++ tail) = token.opensSign := by
  obtain ⟨c,more,spelled,sign,plain⟩ := head_of_legible legible
  have comments : opensComment (c :: (more ++ tail)) = false := by
    by_cases slash : c = '/'
    · cases token with
      | punct mark joint =>
        obtain ⟨rfl,rfl⟩ : mark = c ∧ [] = more := by simpa [Token.text] using spelled
        exact clear
      | _ => exact absurd slash (plain rfl).1
    · exact opensComment_of_head slash
  rw [spelled,List.cons_append,opensPunct,sign,comments]
  simp

theorem print_cons (token next : Token) (rest : List Token) :
    (Token.print (token :: next :: rest)).toList = token.text.toList ++
      ((if Token.spaced token next then [' '] else []) ++ (Token.print (next :: rest)).toList) := by
  rw [Token.print]
  split <;> simp

private theorem clear_nil (token : Token) : token.Clear [] := by
  cases token with
  | punct c joint => simp [Token.Clear,opensComment,startsWith,List.isPrefixOf]
  | opening delimiter => trivial
  | closing delimiter => trivial
  | _ => intro c first; cases first

/-- A character that keeps a token apart from what comes after it. -/
private theorem clear_of_weak {c : Char} (weak : isWeak c = true) (plain : c ≠ '/' ∧ c ≠ '*') (token : Token)
    (tail : List Char) : token.Clear (c :: tail) := by
  have apart : Apart (c :: tail) := by
    rintro d ⟨⟩
    exact weak
  cases token with
  | punct sign joint => exact opensComment_of_next plain
  | opening delimiter => trivial
  | closing delimiter => trivial
  | _ => exact apart

theorem tight_cases {token next : Token} (tight : Token.spaced token next = false) :
    (∃ c, token = .punct c true) ∨ (∃ delimiter, token = .opening delimiter) ∨
      ∃ delimiter, next = .closing delimiter ∧ delimiter ≠ .brace := by
  cases next with
  | closing delimiter =>
    by_cases brace : delimiter = .brace
    · cases token <;> simp_all [Token.spaced]
    · exact .inr (.inr ⟨delimiter,rfl,brace⟩)
  | _ => cases token <;> simp_all [Token.spaced]

/-- Without a space, a token is followed by the end of a group, or it is a joint sign or the start
of a group. -/
private theorem clear_tight {token next : Token} {rest : List Token} {tail : List Char}
    (legible : next.Legible) (tight : Token.spaced token next = false)
    (unslashed : Token.unslashed (token :: next :: rest) = true) :
    token.Clear (next.text.toList ++ tail) := by
  rcases tight_cases tight with ⟨c,rfl⟩ | ⟨delimiter,rfl⟩ | ⟨delimiter,rfl,round⟩
  · by_cases slash : c = '/'
    · subst slash
      have plain : next.opensComment = false := by
        simp only [Token.unslashed,beq_self_eq_true,Bool.true_and,Bool.and_eq_true,
          Bool.not_eq_true'] at unslashed
        exact unslashed.1
      obtain ⟨d,more,spelled,_,other⟩ := head_of_legible legible
      rw [spelled]
      exact opensComment_of_next (other plain)
    · exact opensComment_of_head slash
  · trivial
  · cases delimiter with
    | parenthesis => exact clear_of_weak rfl (by decide) token tail
    | bracket => exact clear_of_weak rfl (by decide) token tail
    | brace => exact absurd rfl round

private theorem before_space {token next : Token} (rest : List Token) (tail : List Char)
    (spaced : Token.spaced token next = true) :
    token.before (' ' :: tail) = token.settle (next :: rest) := by
  cases token with
  | punct c joint =>
    obtain rfl : joint = false := by
      simp only [Token.spaced,Bool.and_eq_true,Bool.not_eq_true'] at spaced
      exact spaced.1
    rfl
  | _ => rfl

private theorem before_tight {token next : Token} (rest : List Token) {tail : List Char}
    (legible : next.Legible) (clear : next.Clear tail) (tight : Token.spaced token next = false) :
    token.before (next.text.toList ++ tail) = token.settle (next :: rest) := by
  cases token with
  | punct c joint =>
    rw [Token.before,Token.settle,opensPunct_text legible clear]
    cases joint with
    | true => simp
    | false =>
      rcases tight_cases tight with ⟨_,same⟩ | ⟨_,same⟩ | ⟨delimiter,rfl,_⟩
      · cases same
      · cases same
      · rfl
  | _ => rfl

private theorem Lexes.token {token : Token} {tail : List Char} {tokens : List Token}
    (legible : token.Legible) (clear : token.Clear tail) (follow : Lexes tail tokens) :
    Lexes (token.text.toList ++ tail) (token.before tail :: tokens) := by
  obtain ⟨c,more,spelled,_⟩ := head_of_legible legible
  refine .step (step_token legible clear) ?_ follow
  rw [spelled,List.cons_append,List.length_cons,List.length_append]
  omega

private theorem Lexes.space {input : List Char} {tokens : List Token} (follow : Lexes input tokens) :
    Lexes (' ' :: input) tokens := by
  have read : Lexer.step (' ' :: input) = some ([],input) := rfl
  exact .step read (by simp) follow

private theorem lexes_print (token : Token) (rest : List Token)
    (legible : ∀ other ∈ token :: rest, other.Legible)
    (unslashed : Token.unslashed (token :: rest) = true) :
    ∃ tail, (Token.print (token :: rest)).toList = token.text.toList ++ tail ∧ token.Clear tail ∧
      token.before tail = token.settle rest ∧ Lexes tail (Token.reread rest) := by
  induction rest generalizing token with
  | nil =>
    refine ⟨[],by simp [Token.print],clear_nil token,?_,.nil⟩
    cases token <;> simp [Token.before,Token.settle,opensPunct]
  | cons next rest ih =>
    have later := fun other member => legible other (List.mem_cons_of_mem token member)
    have shown := later next (by simp)
    have apart := Token.unslashed_of_append [token] _ unslashed
    obtain ⟨tail,printed,clear,same,follow⟩ := ih next later apart
    have lexed : Lexes (next.text.toList ++ tail) (Token.reread (next :: rest)) := by
      rw [Token.reread,← same]
      exact .token shown clear follow
    cases spaced : Token.spaced token next with
    | true =>
      refine ⟨' ' :: (next.text.toList ++ tail),?_,clear_of_weak rfl (by decide) token _,before_space rest _ spaced,
        lexed.space⟩
      rw [print_cons,spaced,printed]
      rfl
    | false =>
      refine ⟨next.text.toList ++ tail,?_,clear_tight shown spaced unslashed,
        before_tight rest shown clear spaced,lexed⟩
      rw [print_cons,spaced,printed]
      rfl

/-- A byte order mark is read as nothing at all. -/
private theorem step_mark (rest : List Char) : step ('\ufeff' :: rest) = none := by
  have start : Text.isIdentifierStart '\ufeff' = false := by
    rw [Bool.eq_false_iff]
    intro start
    exact absurd (Text.isSolid_of_start _ start) (by decide)
  have number : Number.scan ('\ufeff' :: rest) = none := by
    cases read : Number.scan ('\ufeff' :: rest) with
    | none => rfl
    | some after => exact absurd (Number.isDigit_of_scan _ rest after read) (by decide)
  have name : ident ('\ufeff' :: rest) = none := by
    simp [ident,anyIdent,Ident.scan,start]
  have unquoted : literal ('\ufeff' :: rest) = none := by
    rw [literal,number]
    rfl
  have sign : punct ('\ufeff' :: rest) = none := by
    rw [punct.eq_2 _ rest (by decide),if_neg (by simp [opensPunct,isPunct])]
  have gap : isGap '\ufeff' = false := by decide
  have plain : opensComment ('\ufeff' :: rest) = false := opensComment_of_head (by decide)
  have delimiter : delimiter? '\ufeff' = none := rfl
  rw [step,if_neg (by simp [gap]),if_neg (by simp [plain]),delimiter,token,unquoted,sign,name]
  rfl

theorem Lexes.unmarked {input : List Char} {tokens : List Token} (lexed : Lexes input tokens) :
    input.head? ≠ some '\ufeff' := by
  intro marked
  obtain ⟨rest,rfl⟩ := List.head?_eq_some_iff.mp marked
  cases lexed with
  | step read =>
    rw [step_mark] at read
    cases read

private theorem lex_of_lexes {source : String} {tokens : List Token} (lexed : Lexes source.toList tokens)
    (closed : balanced [] tokens = true) :
    ∃ found, lex source = some found ∧ Lexemes.tokens found = tokens := by
  obtain ⟨found,read,rfl⟩ := lexed.yields .start
  refine ⟨found,?_,rfl⟩
  unfold lex
  split
  case h_1 marked => exact absurd (by simp [marked]) lexed.unmarked
  case h_2 => simp [read,closed]

private theorem balanced_reread (tokens : List Token) (pending : List Delimiter) :
    balanced pending (Token.reread tokens) = balanced pending tokens := by
  induction tokens generalizing pending with
  | nil => rfl
  | cons token rest ih =>
    cases token with
    | closing delimiter =>
      cases pending with
      | nil => rfl
      | cons innermost outer => simp [Token.reread,Token.settle,balanced,ih]
    | _ => exact ih _

/-- Printed tokens are read again as they were, up to the jointness of signs. -/
theorem lex_print {tokens : List Token} (legible : ∀ token ∈ tokens, token.Legible)
    (unslashed : Token.unslashed tokens = true) (closed : balanced [] tokens = true) :
    ∃ found, lex (Token.print tokens) = some found ∧ Lexemes.tokens found = Token.reread tokens := by
  have lexed : Lexes (Token.print tokens).toList (Token.reread tokens) := by
    cases tokens with
    | nil => exact .nil
    | cons token rest =>
      obtain ⟨tail,printed,clear,same,follow⟩ := lexes_print token rest legible unslashed
      rw [printed,Token.reread,← same]
      exact .token (legible token (by simp)) clear follow
  exact lex_of_lexes lexed (by rwa [balanced_reread])

end Lexer

end CaseSynthesis
