import CaseSynthesis.Proofs.Literals

/-! What the lexer makes of a text, as a sequence of steps. All tokens that it reads can be printed
and read back. -/

namespace CaseSynthesis

/-- A number takes at least one character, and only such as numbers are made of. -/
private theorem Number.scan_split {text rest : List Char} (read : scan text = some rest) :
    ∃ taken, text = taken ++ rest ∧ taken ≠ [] ∧ ∀ c ∈ taken, isInert c = false := by
  have suffixed {digits : Option (List Char)}
      (split : ∀ after, digits = some after →
        ∃ taken, text = taken ++ after ∧ taken ≠ [] ∧ ∀ c ∈ taken, isInert c = false)
      (read : digits.bind afterSuffix = some rest) :
      ∃ taken, text = taken ++ rest ∧ taken ≠ [] ∧ ∀ c ∈ taken, isInert c = false := by
    obtain ⟨after,found,suffix⟩ := Option.bind_eq_some_iff.mp read
    obtain ⟨taken,rfl,filled,parts⟩ := split after found
    obtain ⟨letters,rfl,each⟩ := afterSuffix_split after rest suffix
    refine ⟨taken ++ letters,by simp,by simp [filled],List.forall_mem_append.mpr ⟨parts,?_⟩⟩
    exact fun c letter => not_inert_of_continue c (each c letter)
  unfold scan at read
  cases float : (floatDigits text).bind afterSuffix with
  | some after =>
    obtain rfl : after = rest := by simpa [float] using read
    exact suffixed (fun after => floatDigits_split text after) float
  | none =>
    have integer : (integerDigits text).bind afterSuffix = some rest := by simpa [float] using read
    refine suffixed (fun after found => ?_) integer
    obtain ⟨taken,whole,filled,letters⟩ := integerDigits_split text after found
    exact ⟨taken,whole,filled,fun c letter => not_inert_of_continue c (letters c letter)⟩

namespace Lexer

theorem literal_split {input rest : List Char} {token : Token}
    (read : literal input = some (token,rest)) :
    ∃ text, input = text ++ rest ∧ text ≠ [] ∧ token = .literal (String.ofList text) ∧
      token.Legible := by
  obtain ⟨after,found,same⟩ := Option.map_eq_some_iff.mp read
  obtain ⟨spelled,ended⟩ := Prod.mk.inj same
  obtain rfl := ended.symm
  obtain ⟨text,rfl,filled,legible⟩ : ∃ text, input = text ++ rest ∧ text ≠ [] ∧
      (Token.literal (String.ofList text)).Legible := by
    cases quoted : afterQuoted input with
    | some after =>
      obtain rfl : rest = after := by simpa [quoted] using found.symm
      obtain ⟨text,rfl,closed,_⟩ := takes_quoted quoted
      obtain ⟨_,_,filled,_⟩ := closed.last
      exact ⟨text,rfl,by simp [filled],legible_quoted quoted⟩
    | none =>
      have number : Number.scan input = some rest := by simpa [quoted] using found
      obtain ⟨text,rfl,filled,_⟩ := Number.scan_split number
      exact ⟨text,rfl,filled,legible_number filled number⟩
  have size : (text ++ rest).length - rest.length = text.length := by simp
  rw [size,List.take_left] at spelled
  exact ⟨text,rfl,filled,spelled.symm,spelled ▸ legible⟩

private theorem wellFormed_of_scan {input name rest : List Char}
    (read : Ident.scan input = some (name,rest)) :
    Ident.wellFormed (String.ofList name) = true := by
  cases input with
  | nil => cases read
  | cons c input =>
    simp only [Ident.scan] at read
    split at read
    case isFalse => cases read
    case isTrue start =>
      cases read
      refine (wellFormed_iff _).mpr ⟨c,input.takeWhile Text.isIdentifierContinue,by simp,start,
        fun d member => List.mem_takeWhile_imp member⟩

private theorem legible_anyIdent {input rest : List Char} {ident : Ident}
    (read : anyIdent input = some (ident,rest)) : ident.Legible := by
  unfold anyIdent at read
  split at read
  case h_1 name =>
    obtain ⟨⟨letters,after⟩,scanned,named⟩ := Option.bind_eq_some_iff.mp read
    simp only at named
    split at named
    case isTrue => cases named
    case isFalse escapable =>
      cases named
      exact ⟨wellFormed_of_scan scanned,fun _ => by simpa using escapable⟩
  case h_2 =>
    obtain ⟨⟨letters,after⟩,scanned,same⟩ := Option.map_eq_some_iff.mp read
    cases same
    exact ⟨wellFormed_of_scan scanned,nofun⟩

/-- A comment stands for nothing or for an attribute. -/
theorem comment_tokens {input rest : List Char} {tokens : List Token}
    (read : comment input = some (tokens,rest)) :
    tokens = [] ∨ ∃ inner line, docTokens inner line = some tokens := by
  have doc {inner : Bool} {line after : List Char}
      (read : (docTokens inner line).map (·,after) = some (tokens,rest)) :
      tokens = [] ∨ ∃ inner line, docTokens inner line = some tokens := by
    obtain ⟨found,shown,same⟩ := Option.map_eq_some_iff.mp read
    cases same
    exact .inr ⟨inner,line,shown⟩
  unfold comment at read
  split at read
  · exact doc read
  split at read
  · exact doc read
  split at read
  · cases read
    exact .inl rfl
  split at read
  · cases read
    exact .inl rfl
  obtain ⟨⟨body,after⟩,_,more⟩ := Option.bind_eq_some_iff.mp read
  simp only at more
  split at more
  · obtain ⟨found,shown,same⟩ := Option.bind_eq_some_iff.mp more
    cases same
    exact .inr ⟨_,_,shown⟩
  split at more
  · obtain ⟨found,shown,same⟩ := Option.bind_eq_some_iff.mp more
    cases same
    exact .inr ⟨_,_,shown⟩
  · cases more
    exact .inl rfl

theorem legible_literalText (text : String) : (Token.literal (Text.literalText text)).Legible := by
  have spelled : (Text.literalText text).toList = '"' :: (Text.escapeLiteral text.toList ++ ['"']) := by
    simp [Text.literalText]
  have read : afterQuoted ((Text.literalText text).toList ++ []) = some [] := by
    rw [spelled,List.append_nil]
    change (StringLiteral.readCooked .text .plain _).map (fun read => afterSuffix read.2) = _
    rw [StringLiteral.readCooked_escapeLiteral]
    rfl
  have legible := legible_quoted read
  rwa [String.ofList_toList] at legible

private theorem legible_docTokens {inner : Bool} {line : List Char} {tokens : List Token}
    (shown : docTokens inner line = some tokens) : ∀ token ∈ tokens, token.Legible := by
  have hash : (Token.punct '#' false).Legible := ⟨rfl,by decide⟩
  have bang : (Token.punct '!' false).Legible := ⟨rfl,by decide⟩
  have equals : (Token.punct '=' false).Legible := ⟨rfl,by decide⟩
  have name : (Token.ident ⟨"doc",false⟩).Legible := ⟨rfl,nofun⟩
  unfold docTokens at shown
  split at shown
  case isFalse => cases shown
  case isTrue =>
    cases shown
    have inside : ∀ token ∈ [Token.opening .bracket,.ident ⟨"doc",false⟩,.punct '=' false,
        .literal (Text.literalText (String.ofList line)),.closing .bracket], token.Legible := by
      simp only [List.forall_mem_cons]
      exact ⟨trivial,name,equals,legible_literalText _,trivial,nofun⟩
    cases inner with
    | true => exact List.forall_mem_append.mpr ⟨by simp [hash,bang],inside⟩
    | false => exact List.forall_mem_append.mpr ⟨by simp [hash],inside⟩

private theorem unslashed_docTokens {inner : Bool} {line : List Char} {tokens : List Token}
    (shown : docTokens inner line = some tokens) : Token.unslashed tokens = true := by
  unfold docTokens at shown
  split at shown
  case isFalse => cases shown
  case isTrue =>
    cases shown
    cases inner <;> rfl

theorem isGap_of_isPunct {c : Char} (sign : isPunct c = true) : isGap c = false := by
  have signs : "~!@#$%^&*-=+|;:,<.>/?'".toList.all (fun c => !isGap c) = true := rfl
  simpa using List.all_eq_true.mp signs c (List.contains_iff_mem.mp sign)

theorem delimiter_of_isPunct {c : Char} (sign : isPunct c = true) : delimiter? c = none := by
  have signs : "~!@#$%^&*-=+|;:,<.>/?'".toList.all (fun c => (delimiter? c).isNone) = true := rfl
  simpa using List.all_eq_true.mp signs c (List.contains_iff_mem.mp sign)

theorem delimiter_cases {c : Char} {token : Token} (read : delimiter? c = some token) :
    ∃ delimiter, token = .opening delimiter ∨ token = .closing delimiter := by
  unfold delimiter? at read
  split at read <;> cases read
  all_goals simp

inductive Stepped : List Char → List Token → List Char → Prop
  | gap {c : Char} {rest : List Char} (blank : isGap c = true) : Stepped (c :: rest) [] rest
  | comment {input rest : List Char} (opens : opensComment input = true) : Stepped input [] rest
  | doc {input rest line : List Char} {tokens : List Token} {inner : Bool}
      (opens : opensComment input = true) (shown : docTokens inner line = some tokens) :
      Stepped input tokens rest
  | opening {c : Char} {rest : List Char} {delimiter : Delimiter}
      (read : delimiter? c = some (.opening delimiter)) : Stepped (c :: rest) [.opening delimiter] rest
  | closing {c : Char} {rest : List Char} {delimiter : Delimiter}
      (read : delimiter? c = some (.closing delimiter)) : Stepped (c :: rest) [.closing delimiter] rest
  | literal {input rest : List Char} {text : String} (legible : (Token.literal text).Legible)
      (read : Lexer.literal input = some (.literal text,rest)) : Stepped input [.literal text] rest
  | lifetime {input rest : List Char} {name : Ident} (legible : name.Legible) :
      Stepped input [.lifetime name] rest
  | sign {c : Char} {rest : List Char} (other : c ≠ '\'') (opens : opensPunct (c :: rest) = true) :
      Stepped (c :: rest) [.punct c (opensPunct rest)] rest
  | ident {input rest : List Char} {name : Ident} (legible : name.Legible) :
      Stepped input [.ident name] rest

private theorem stepped_of_punct {input rest : List Char} {token : Token}
    (read : punct input = some (token,rest)) : Stepped input [token] rest := by
  unfold punct at read
  split at read
  case h_1 =>
    obtain ⟨⟨name,after⟩,named,more⟩ := Option.bind_eq_some_iff.mp read
    have legible := legible_anyIdent named
    simp only at more
    split at more
    · cases more
    · cases more
      exact .lifetime legible
  case h_2 c rest other =>
    split at read
    case isFalse => cases read
    case isTrue opens =>
      cases read
      exact .sign other opens
  case h_3 => cases read

private theorem stepped_of_ident {input rest : List Char} {token : Token}
    (read : ident input = some (token,rest)) : Stepped input [token] rest := by
  unfold ident at read
  split at read
  · cases read
  · obtain ⟨⟨name,after⟩,named,same⟩ := Option.map_eq_some_iff.mp read
    cases same
    exact .ident (legible_anyIdent named)

private theorem stepped_of_token {input rest : List Char} {read : Token}
    (found : token input = some (read,rest)) : Stepped input [read] rest := by
  unfold token at found
  cases quoted : literal input with
  | some found' =>
    obtain rfl : found' = (read,rest) := by simpa [quoted] using found
    obtain ⟨_,_,_,rfl,legible⟩ := literal_split quoted
    exact .literal legible quoted
  | none =>
    cases sign : punct input with
    | some found' =>
      obtain rfl : found' = (read,rest) := by simpa [quoted,sign] using found
      exact stepped_of_punct sign
    | none => exact stepped_of_ident (by simpa [quoted,sign] using found)

theorem stepped_of_step {input rest : List Char} {tokens : List Token}
    (read : step input = some (tokens,rest)) : Stepped input tokens rest := by
  cases input with
  | nil => cases read
  | cons c input =>
    rw [step] at read
    split at read
    case isTrue blank =>
      cases read
      exact .gap blank
    case isFalse =>
      split at read
      case isTrue opens =>
        rcases comment_tokens read with rfl | ⟨inner,line,shown⟩
        · exact .comment opens
        · exact .doc opens shown
      case isFalse =>
        split at read
        case h_1 token found =>
          cases read
          obtain ⟨delimiter,rfl | rfl⟩ := delimiter_cases found
          · exact .opening found
          · exact .closing found
        case h_2 =>
          obtain ⟨⟨token,after⟩,found,same⟩ := Option.map_eq_some_iff.mp read
          cases same
          exact stepped_of_token found

namespace Stepped

variable {input rest : List Char} {tokens : List Token}

private theorem legible (stepped : Stepped input tokens rest) : ∀ token ∈ tokens, token.Legible := by
  cases stepped with
  | gap => nofun
  | comment => nofun
  | doc _ shown => exact legible_docTokens shown
  | opening => exact List.forall_mem_singleton.mpr trivial
  | closing => exact List.forall_mem_singleton.mpr trivial
  | literal legible => exact List.forall_mem_singleton.mpr legible
  | lifetime legible => exact List.forall_mem_singleton.mpr legible
  | sign other opens =>
    exact List.forall_mem_singleton.mpr ⟨((Bool.and_eq_true _ _).mp opens).1,other⟩
  | ident legible => exact List.forall_mem_singleton.mpr legible

/-- Where a sign comes next, one token is read, and it is that sign if it is one at all. -/
private theorem head_of_sign (stepped : Stepped input tokens rest) (opens : opensPunct input = true) :
    ∃ token, tokens = [token] ∧ ∀ sign joint, token = .punct sign joint → input.head? = some sign := by
  have head {c : Char} {rest : List Char} (opens : opensPunct (c :: rest) = true) :
      isPunct c = true := ((Bool.and_eq_true _ _).mp opens).1
  have noComment (comments : opensComment input = true) : False := by
    cases input with
    | nil => cases opens
    | cons c input => simp [opensPunct,comments] at opens
  cases stepped with
  | gap blank =>
    rw [isGap_of_isPunct (head opens)] at blank
    cases blank
  | comment comments => exact (noComment comments).elim
  | doc comments _ => exact (noComment comments).elim
  | opening read =>
    rw [delimiter_of_isPunct (head opens)] at read
    cases read
  | closing read =>
    rw [delimiter_of_isPunct (head opens)] at read
    cases read
  | sign => exact ⟨_,rfl,fun sign joint same => by cases same; rfl⟩
  | _ => exact ⟨_,rfl,fun _ _ sign => by cases sign⟩

/-- A slash is not read as a sign where it would open a comment. -/
private theorem unslashed (stepped : Stepped input tokens rest) : Token.unslashed tokens = true ∨
    tokens = [.punct '/' true] ∧ opensPunct rest = true ∧ ∀ c ∈ rest.head?, c ≠ '/' ∧ c ≠ '*' := by
  cases stepped with
  | gap => exact .inl rfl
  | comment => exact .inl rfl
  | doc _ shown => exact .inl (unslashed_docTokens shown)
  | @sign c _ _ opens =>
    by_cases slash : c = '/' ∧ opensPunct rest = true
    · obtain ⟨rfl,joint⟩ := slash
      refine .inr ⟨by rw [joint],joint,fun d next => ?_⟩
      obtain ⟨after,rfl⟩ := List.head?_eq_some_iff.mp next
      simp [opensPunct,opensComment,startsWith,List.isPrefixOf] at opens
      exact ⟨fun same => opens.2.1 same.symm,fun same => opens.2.2 same.symm⟩
    · have other : Token.punct c (opensPunct rest) ≠ .punct '/' true :=
        fun same => slash (Token.punct.inj same)
      exact .inl (by simpa [Token.unslashed] using other)
  | _ => exact .inl rfl

end Stepped

theorem literal_of_legible {text : String} (legible : (Token.literal text).Legible) :
    literal text.toList = some (.literal text,[]) := by
  have read := legible [] apart_nil
  rw [List.append_nil] at read
  generalize text.toList = input at read ⊢
  generalize shown : [Token.literal text] = tokens at read
  cases stepped_of_step read with
  | literal _ found =>
    cases shown
    exact found
  | doc _ documented =>
    subst shown
    unfold docTokens at documented
    split at documented
    · have head := congrArg List.head? (Option.some.inj documented)
      simp at head
    · cases documented
  | _ => cases shown

/-- A literal ends in letters, and before them comes nothing but a part of a literal. -/
theorem not_inert_of_literal {text : String} {before after : List Char} {c : Char}
    (legible : (Token.literal text).Legible) (split : text.toList = before ++ c :: after)
    (letters : ∀ d ∈ after, Text.isIdentifierContinue d = true) : isInert c = false := by
  obtain ⟨rest,found,ended⟩ := Option.map_eq_some_iff.mp (literal_of_legible legible)
  obtain rfl : rest = [] := (Prod.mk.inj ended).2
  cases quoted : afterQuoted text.toList with
  | none =>
    have number : Number.scan text.toList = some [] := by simpa [quoted] using found
    obtain ⟨taken,whole,_,parts⟩ := Number.scan_split number
    rw [List.append_nil] at whole
    exact parts c (by simp [← whole,split])
  | some rest =>
    obtain rfl : rest = [] := by simpa [quoted] using found
    obtain ⟨taken,whole,⟨inside,mark,suffix,rfl,quote,each⟩,_⟩ := takes_quoted quoted
    rw [List.append_nil,split] at whole
    have closing : isInert mark = false := not_inert_of_mem mark (by
      simp only [List.mem_cons,List.not_mem_nil,or_false] at quote ⊢
      rcases quote with rfl | rfl | rfl <;> simp)
    rcases List.append_eq_append_iff.mp whole with ⟨more,_,rest⟩ | ⟨more,_,rest⟩
    · cases more with
      | nil =>
        obtain ⟨rfl,_⟩ := List.cons.inj rest
        exact closing
      | cons d more =>
        obtain ⟨rfl,rfl⟩ := List.cons.inj rest
        have letter := letters mark (by simp)
        simp only [List.mem_cons,List.not_mem_nil,or_false] at quote
        rcases quote with rfl | rfl | rfl <;> exact absurd letter (by decide)
    · cases more with
      | nil =>
        obtain ⟨rfl,_⟩ := List.cons.inj rest
        exact closing
      | cons d more =>
        obtain ⟨rfl,rfl⟩ := List.cons.inj rest
        exact not_inert_of_continue c (each c (by simp))

inductive Lexes : List Char → List Token → Prop
  | nil : Lexes [] []
  | step {input rest : List Char} {tokens more : List Token}
      (read : step input = some (tokens,rest)) (shorter : rest.length < input.length)
      (follow : Lexes rest more) : Lexes input (tokens ++ more)

namespace Lexes

variable {input : List Char} {tokens : List Token}

theorem yields (lexed : Lexes input tokens) : Yields input tokens := by
  induction lexed with
  | nil => exact yields_nil
  | step read shorter _ ih =>
    intro position
    obtain ⟨span,stop,unfolded⟩ := lexemes_step position _ _ _ read shorter
    obtain ⟨found,after,rfl⟩ := ih stop
    rw [unfolded,after]
    exact ⟨_,rfl,by simp [Lexemes.tokens,Function.comp_def]⟩

theorem of_lexemes {position : Position} {found : Lexemes}
    (read : lexemes position input = some found) : Lexes input found.tokens := by
  induction size : input.length using Nat.strongRecOn generalizing position input found with
  | ind length ih =>
    subst size
    rw [lexemes] at read
    split at read
    case isTrue empty =>
      cases read
      rw [List.isEmpty_iff.mp empty]
      exact .nil
    case isFalse =>
      split at read
      case h_1 => cases read
      case h_2 tokens rest stepped =>
        split at read
        case isFalse => cases read
        case isTrue shorter =>
          obtain ⟨after,follow,rfl⟩ := Option.map_eq_some_iff.mp read
          have more := Lexes.step stepped shorter (ih rest.length shorter follow rfl)
          simpa [Lexemes.tokens,Function.comp_def] using more

theorem legible (lexed : Lexes input tokens) : ∀ token ∈ tokens, token.Legible := by
  induction lexed with
  | nil => nofun
  | step read _ _ ih =>
    intro token member
    rcases List.mem_append.mp member with here | later
    · exact (stepped_of_step read).legible token here
    · exact ih token later

private theorem head_of_sign (lexed : Lexes input tokens) (opens : opensPunct input = true) :
    ∃ token more, tokens = token :: more ∧
      ∀ sign joint, token = .punct sign joint → input.head? = some sign := by
  cases lexed with
  | nil => cases opens
  | step read _ _ =>
    obtain ⟨token,rfl,head⟩ := (stepped_of_step read).head_of_sign opens
    exact ⟨token,_,rfl,head⟩

theorem unslashed (lexed : Lexes input tokens) : Token.unslashed tokens = true := by
  induction lexed with
  | nil => rfl
  | step read _ follow ih =>
    rcases (stepped_of_step read).unslashed with apart | ⟨rfl,opens,other⟩
    · exact Token.unslashed_append _ _ apart ih
    · obtain ⟨token,more,rfl,head⟩ := follow.head_of_sign opens
      have plain : token.opensComment = false := by
        cases token with
        | punct sign joint =>
          have differs := other sign (head sign joint rfl)
          simpa [Token.opensComment] using differs
        | _ => rfl
      simp [Token.unslashed,plain,ih]

end Lexes

end Lexer

end CaseSynthesis
