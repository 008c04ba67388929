import CaseSynthesis.Proofs.Printing

/-! A text with blanks and commas after it. They end no token of the text and begin none of its
characters anew: the tokens of the text are read as if nothing came after it, but for a comment that
goes on and for the sign before a comma. -/

namespace CaseSynthesis.Lexer

def Trailing (tail : List Char) : Prop := ∀ c ∈ tail, Text.isBlank c = true ∨ c = ','

section

variable {text tail : List Char}

namespace Trailing

private theorem weak (trailing : Trailing tail) : ∀ c ∈ tail, isWeak c = true := by
  intro c member
  rcases trailing c member with blank | rfl
  · simp [isWeak,isGap,blank]
  · rfl

private theorem apart (trailing : Trailing tail) : Apart tail :=
  fun c first => trailing.weak c (List.mem_of_mem_head? first)

theorem not_mem (trailing : Trailing tail) {c : Char} (solid : isWeak c = false) : c ∉ tail := by
  intro member
  rw [trailing.weak c member] at solid
  cases solid

theorem suffix {rest : List Char} (trailing : Trailing tail) (part : rest <:+ tail) :
    Trailing rest := fun c member => trailing c (part.subset member)

end Trailing

/-- What starts a text is not found to go on in the tail. -/
private theorem isPrefixOf_trailing (trailing : Trailing tail) (marks : List Char)
    (solid : ∀ c ∈ marks, isWeak c = false) :
    marks.isPrefixOf (text ++ tail) = marks.isPrefixOf text := by
  induction marks generalizing text with
  | nil => simp
  | cons mark marks ih =>
    cases text with
    | nil =>
      cases tail with
      | nil => rfl
      | cons c tail =>
        have differs : mark ≠ c := by
          rintro rfl
          exact trailing.not_mem (solid mark (by simp)) (by simp)
        simp [List.isPrefixOf,differs]
    | cons c text =>
      simp only [List.cons_append,List.isPrefixOf]
      rw [ih fun d member => solid d (List.mem_cons_of_mem mark member)]

private theorem startsWith_trailing (trailing : Trailing tail) (marks : String)
    (solid : marks.toList.all (fun c => !isWeak c) = true) :
    startsWith marks (text ++ tail) = startsWith marks text :=
  isPrefixOf_trailing trailing _ fun c member => by
    simpa using List.all_eq_true.mp solid c member

private theorem opensComment_trailing (trailing : Trailing tail) :
    opensComment (text ++ tail) = opensComment text := by
  rw [opensComment,startsWith_trailing trailing "//" rfl,startsWith_trailing trailing "/*" rfl,
    opensComment]

private theorem opensPunct_trailing (trailing : Trailing tail) (filled : text ≠ []) :
    opensPunct (text ++ tail) = opensPunct text := by
  cases text with
  | nil => contradiction
  | cons c text =>
    have comments : opensComment (c :: text ++ tail) = opensComment (c :: text) :=
      opensComment_trailing trailing
    rw [List.cons_append] at comments ⊢
    rw [opensPunct,opensPunct,comments]

/-- Text that does not end in a weak character lies before the tail. -/
private theorem split_trailing (trailing : Trailing tail) {taken rest : List Char} {last : Char}
    (solid : isWeak last = false) (whole : text ++ tail = taken ++ last :: rest) :
    ∃ more, text = taken ++ last :: more ∧ rest = more ++ tail := by
  rcases List.append_eq_append_iff.mp whole with ⟨more,_,beyond⟩ | ⟨more,rfl,beyond⟩
  · exact (trailing.not_mem solid (by simp [beyond])).elim
  · cases more with
    | nil => exact (trailing.not_mem solid (by rw [List.nil_append] at beyond; simp [← beyond])).elim
    | cons c more =>
      obtain ⟨rfl,rfl⟩ := List.cons.inj beyond
      exact ⟨more,rfl,rfl⟩

private theorem replaces_append (apart : Apart tail) (rest : List Char) : Replaces (rest ++ tail) rest := by
  cases rest with
  | nil => exact .inl apart.breaks
  | cons c rest => exact .inr rfl

private theorem replaces_of_append (rest tail : List Char) : Replaces rest (rest ++ tail) := by
  cases rest with
  | nil => exact .inl nofun
  | cons c rest => exact .inr rfl

private theorem afterQuoted_trailing (trailing : Trailing tail) :
    afterQuoted (text ++ tail) = (afterQuoted text).map (· ++ tail) := by
  cases read : afterQuoted text with
  | some rest =>
    obtain ⟨taken,rfl,_,again⟩ := takes_quoted read
    have found := again _ (replaces_append trailing.apart rest)
    simpa using found
  | none =>
    cases found : afterQuoted (text ++ tail) with
    | none => rfl
    | some rest =>
      obtain ⟨taken,whole,closed,again⟩ := takes_quoted found
      obtain ⟨init,last,rfl,solid⟩ := closed.last
      rw [List.append_assoc] at whole
      obtain ⟨more,rfl,rfl⟩ := split_trailing trailing solid whole
      have same := again more (replaces_of_append more tail)
      rw [List.append_assoc,List.singleton_append,read] at same
      cases same

private theorem literal_trailing (trailing : Trailing tail) (filled : text ≠ []) :
    literal (text ++ tail) = (literal text).map fun (token,rest) => (token,rest ++ tail) := by
  have either : (afterQuoted (text ++ tail)).orElse (fun _ => Number.scan (text ++ tail)) =
      ((afterQuoted text).orElse fun _ => Number.scan text).map (· ++ tail) := by
    rw [afterQuoted_trailing trailing,Number.scan_apart text tail filled trailing.apart]
    cases afterQuoted text <;> rfl
  rw [literal,literal,either]
  cases (afterQuoted text).orElse fun _ => Number.scan text with
  | none => rfl
  | some rest =>
    have size : (text ++ tail).length - (rest ++ tail).length = text.length - rest.length := by
      simp only [List.length_append]
      omega
    simp only [Option.map_some,size,List.take_append_of_le_length (Nat.sub_le _ _)]

private theorem anyIdent_plain {input : List Char} (plain : startsWith "r#" input = false) :
    anyIdent input = (Ident.scan input).map fun (name,rest) => (⟨String.ofList name,false⟩,rest) := by
  unfold anyIdent
  split
  case h_1 => simp [startsWith,List.isPrefixOf] at plain
  case h_2 => rfl

private theorem anyIdent_trailing (trailing : Trailing tail) :
    anyIdent (text ++ tail) = (anyIdent text).map fun (name,rest) => (name,rest ++ tail) := by
  have same : startsWith "r#" (text ++ tail) = startsWith "r#" text :=
    startsWith_trailing trailing "r#" rfl
  cases raw : startsWith "r#" text with
  | false =>
    rw [anyIdent_plain raw,anyIdent_plain (same.trans raw),scan_breaks text trailing.apart.breaks]
    cases Ident.scan text <;> rfl
  | true =>
    obtain ⟨name,rfl⟩ := List.isPrefixOf_iff_prefix.mp raw
    change (Ident.scan (name ++ tail)).bind _ = ((Ident.scan name).bind _).map _
    rw [scan_breaks name trailing.apart.breaks]
    cases Ident.scan name with
    | none => rfl
    | some found =>
      simp only [Option.map_some,Option.bind_some]
      split <;> rfl

private theorem ident_trailing (trailing : Trailing tail) :
    ident (text ++ tail) = (ident text).map fun (token,rest) => (token,rest ++ tail) := by
  have openers : literalOpeners.all (fun opener => opener.toList.all fun c => !isWeak c) = true := rfl
  have same : literalOpeners.any (startsWith · (text ++ tail)) =
      literalOpeners.any (startsWith · text) := by
    rw [Bool.eq_iff_iff,List.any_eq_true,List.any_eq_true]
    refine exists_congr fun opener => and_congr_right fun listed => ?_
    rw [startsWith_trailing trailing opener (List.all_eq_true.mp openers opener listed)]
  rw [ident,ident,same,anyIdent_trailing trailing]
  split
  · rfl
  · cases anyIdent text <;> rfl

private theorem lifetime_trailing (trailing : Trailing tail) :
    lifetime (text ++ tail) = (lifetime text).map fun (token,rest) => (token,rest ++ tail) := by
  have raw : startsWith "r#" (text ++ tail) = startsWith "r#" text :=
    startsWith_trailing trailing "r#" rfl
  simp only [lifetime,anyIdent_trailing trailing,raw]
  cases anyIdent text with
  | none => rfl
  | some found =>
    have quote : startsWith "'" (found.2 ++ tail) = startsWith "'" found.2 :=
      startsWith_trailing trailing "'" rfl
    have hash : startsWith "#" (found.2 ++ tail) = startsWith "#" found.2 :=
      startsWith_trailing trailing "#" rfl
    simp only [Option.map_some,Option.bind_eq_bind,Option.bind_some,quote,hash]
    split <;> rfl

private theorem lifetime_of_read {input rest : List Char} {token : Token}
    (read : lifetime input = some (token,rest)) : ∃ name, token = .lifetime name := by
  obtain ⟨⟨name,after⟩,_,more⟩ := Option.bind_eq_some_iff.mp read
  simp only at more
  split at more
  · cases more
  · cases more
    exact ⟨name,rfl⟩

private theorem ident_of_read {input rest : List Char} {token : Token}
    (read : ident input = some (token,rest)) : ∃ name, token = .ident name := by
  unfold ident at read
  split at read
  · cases read
  · obtain ⟨⟨name,after⟩,_,same⟩ := Option.map_eq_some_iff.mp read
    cases same
    exact ⟨name,rfl⟩

def resettle (rest tail : List Char) (token : Token) : Token :=
  if rest.isEmpty then token.before tail else token

private theorem punct_trailing (trailing : Trailing tail) (filled : text ≠ []) :
    punct (text ++ tail) =
      (punct text).map fun (token,rest) => (resettle rest tail token,rest ++ tail) := by
  cases text with
  | nil => contradiction
  | cons c text =>
    by_cases quote : c = '\''
    · subst quote
      change lifetime (text ++ tail) = (lifetime text).map _
      rw [lifetime_trailing trailing]
      cases read : lifetime text with
      | none => rfl
      | some found =>
        obtain ⟨token,rest⟩ := found
        obtain ⟨name,rfl⟩ := lifetime_of_read read
        simp [resettle,Token.before]
    · have same : opensPunct (c :: text ++ tail) = opensPunct (c :: text) :=
        opensPunct_trailing trailing (by simp)
      rw [List.cons_append] at same ⊢
      rw [punct.eq_2 c text quote,punct.eq_2 c _ quote,same]
      split
      · cases text with
        | nil => simp [resettle,Token.before]
        | cons d text =>
          simp only [Option.map_some]
          rw [opensPunct_trailing trailing (by simp)]
          rfl
      · rfl

private theorem token_trailing (trailing : Trailing tail) (filled : text ≠ []) :
    token (text ++ tail) =
      (token text).map fun (token,rest) => (resettle rest tail token,rest ++ tail) := by
  rw [token,token,literal_trailing trailing filled,punct_trailing trailing filled,
    ident_trailing trailing]
  cases quoted : literal text with
  | some found =>
    obtain ⟨token,rest⟩ := found
    obtain ⟨_,_,_,rfl,_⟩ := literal_split quoted
    simp [resettle,Token.before]
  | none =>
    cases punct text with
    | some found => rfl
    | none =>
      cases named : ident text with
      | none => rfl
      | some found =>
        obtain ⟨token,rest⟩ := found
        obtain ⟨name,rfl⟩ := ident_of_read named
        simp [resettle,Token.before]

private theorem step_trailing_plain (trailing : Trailing tail) (filled : text ≠ [])
    (plain : opensComment text = false) : step (text ++ tail) =
      (step text).map fun (tokens,rest) => (tokens.map (resettle rest tail),rest ++ tail) := by
  have still : opensComment (text ++ tail) = false := by rw [opensComment_trailing trailing,plain]
  have read := token_trailing trailing filled
  cases text with
  | nil => contradiction
  | cons c text =>
    rw [List.cons_append] at still read ⊢
    cases blank : isGap c with
    | true =>
      rw [step,step,if_pos blank,if_pos blank]
      rfl
    | false =>
      simp only [step,blank,still,plain,read,Bool.false_eq_true,if_false]
      cases found : delimiter? c with
      | some token =>
        obtain ⟨delimiter,rfl | rfl⟩ := delimiter_cases found <;> simp [resettle,Token.before]
      | none => cases token (c :: text) <;> rfl

/-! Comments. -/

private theorem takeLine_suffix (input : List Char) : (takeLine input).2 <:+ input := by
  fun_induction takeLine input with
  | case1 => exact List.suffix_rfl
  | case2 rest => exact List.suffix_rfl
  | case3 rest => exact List.suffix_cons _ _
  | case4 c rest _ _ line after found ih =>
    rw [found] at ih
    exact ih.trans (List.suffix_cons _ _)

/-- A line that ends in the text is not changed by the tail, and another one goes on in it. -/
private theorem takeLine_append (ends : text.getLast? ≠ some '\r') (tail : List Char) :
    ((takeLine text).2 = [] ∧ takeLine (text ++ tail) =
        ((takeLine text).1 ++ (takeLine tail).1,(takeLine tail).2)) ∨
      takeLine (text ++ tail) = ((takeLine text).1,(takeLine text).2 ++ tail) := by
  fun_induction takeLine text with
  | case1 => exact .inl ⟨rfl,rfl⟩
  | case2 rest => exact .inr rfl
  | case3 rest => exact .inr rfl
  | case4 c rest plain other line after found ih =>
    have more : takeLine (c :: (rest ++ tail)) =
        (c :: (takeLine (rest ++ tail)).1,(takeLine (rest ++ tail)).2) := by
      refine takeLine.eq_4 c _ plain fun after return' feed => ?_
      cases rest with
      | nil => exact ends (by simp [return'])
      | cons d rest =>
        obtain ⟨rfl,_⟩ := List.cons.inj feed
        exact other rest return' rfl
    have kept : rest.getLast? ≠ some '\r' := by
      cases rest with
      | nil => nofun
      | cons d rest => simpa using ends
    rw [List.cons_append,more]
    rcases ih kept with ⟨none,same⟩ | same
    · rw [found] at none same
      rw [same]
      exact .inl ⟨none,rfl⟩
    · rw [found] at same
      rw [same]
      exact .inr rfl

private theorem takeBlock_suffix {depth : Nat} {input body rest : List Char}
    (read : takeBlock depth input = some (body,rest)) : rest <:+ input := by
  fun_induction takeBlock depth input generalizing body with
  | case1 input =>
    cases read
    exact ((List.suffix_cons _ _).trans (List.suffix_cons _ _))
  | case2 input outer ih =>
    obtain ⟨⟨inner,after⟩,found,same⟩ := Option.map_eq_some_iff.mp read
    cases same
    exact (ih found).trans ((List.suffix_cons _ _).trans (List.suffix_cons _ _))
  | case3 depth input ih =>
    obtain ⟨⟨inner,after⟩,found,same⟩ := Option.map_eq_some_iff.mp read
    cases same
    exact (ih found).trans ((List.suffix_cons _ _).trans (List.suffix_cons _ _))
  | case4 depth c input _ _ ih =>
    obtain ⟨⟨inner,after⟩,found,same⟩ := Option.map_eq_some_iff.mp read
    cases same
    exact (ih found).trans (List.suffix_cons _ _)
  | case5 => cases read

private theorem takeBlock_cons {depth : Nat} {c : Char} {rest : List Char}
    (star : c = '*' → rest.head? ≠ some '/') (slash : c = '/' → rest.head? ≠ some '*') :
    takeBlock depth (c :: rest) =
      (takeBlock depth rest).map fun (body,after) => (c :: body,after) :=
  takeBlock.eq_4 _ _ _ (fun _ first next => star first (by simp [next]))
    fun _ first next => slash first (by simp [next])

private theorem takeBlock_of_trailing (trailing : Trailing tail) (depth : Nat) :
    takeBlock depth tail = none := by
  induction tail with
  | nil => rfl
  | cons c tail ih =>
    have weak := trailing.weak c (by simp)
    rw [takeBlock_cons (by rintro rfl; cases weak) (by rintro rfl; cases weak),
      ih (trailing.suffix (List.suffix_cons _ _))]
    rfl

private theorem takeBlock_trailing (trailing : Trailing tail) (depth : Nat) :
    takeBlock depth (text ++ tail) =
      (takeBlock depth text).map fun (body,rest) => (body,rest ++ tail) := by
  fun_induction takeBlock depth text with
  | case1 text => rfl
  | case2 text outer ih =>
    change (takeBlock outer (text ++ tail)).map _ = _
    rw [ih]
    cases takeBlock outer text <;> rfl
  | case3 depth text ih =>
    change (takeBlock (depth + 1) (text ++ tail)).map _ = _
    rw [ih]
    cases takeBlock (depth + 1) text <;> rfl
  | case4 depth c text star slash ih =>
    have head (sign : Char) (solid : isWeak sign = false) (other : text.head? ≠ some sign) :
        (text ++ tail).head? ≠ some sign := by
      cases text with
      | nil => exact fun first => trailing.not_mem solid (List.mem_of_mem_head? first)
      | cons d text => exact other
    have noSlash (first : c = '*') : text.head? ≠ some '/' := fun next => by
      obtain ⟨rest,rfl⟩ := List.head?_eq_some_iff.mp next
      exact star rest first rfl
    have noStar (first : c = '/') : text.head? ≠ some '*' := fun next => by
      obtain ⟨rest,rfl⟩ := List.head?_eq_some_iff.mp next
      exact slash rest first rfl
    rw [List.cons_append,takeBlock_cons (fun first => head '/' rfl (noSlash first))
      fun first => head '*' rfl (noStar first),ih]
    cases takeBlock depth text <;> rfl
  | case5 depth => exact takeBlock_of_trailing trailing depth

def Firm (text : List Char) : Prop := ∀ c ∈ text.getLast?, Text.isBlank c = false

theorem Firm.suffix {rest : List Char} (firm : Firm text) (part : rest <:+ text) : Firm rest := by
  obtain ⟨before,rfl⟩ := part
  cases rest with
  | nil => nofun
  | cons c rest =>
    intro d last
    exact firm d (by simpa using last)

private theorem Firm.noReturn (firm : Firm text) : text.getLast? ≠ some '\r' :=
  fun last => absurd (firm '\r' last) (by decide)

private theorem docLine_trailing {inner : Bool} {tokens : List Token} {rest : List Char} (firm : Firm text)
    (read : (docTokens inner (takeLine (text ++ tail)).1).map (·,(takeLine (text ++ tail)).2) =
      some (tokens,rest)) :
    (∃ left, rest = left ++ tail ∧
        (docTokens inner (takeLine text).1).map (·,(takeLine text).2) = some (tokens,left)) ∨
      rest <:+ tail ∧ ∃ line, docTokens inner line = some tokens := by
  obtain ⟨doc,shown,same⟩ := Option.map_eq_some_iff.mp read
  obtain ⟨rfl,rfl⟩ := Prod.mk.inj same
  rcases takeLine_append firm.noReturn tail with ⟨_,line⟩ | line
  · rw [line] at shown ⊢
    exact .inr ⟨takeLine_suffix tail,_,shown⟩
  · rw [line] at shown ⊢
    exact .inl ⟨_,rfl,by rw [shown]; rfl⟩

private theorem comment_block (rest : List Char) : comment ('/' :: '*' :: rest) =
    if startsWith "*/" rest then some ([],rest.drop 2)
    else (takeBlock 0 rest).bind fun (body,after) =>
      if startsWith "!" rest then (docTokens true (body.drop 1)).bind fun doc => some (doc,after)
      else if startsWith "*" rest && !startsWith "**" rest then
        (docTokens false (body.drop 1)).bind fun doc => some (doc,after)
      else some ([],after) := rfl

/-- A block comment ends in the text, or it does not end at all. -/
private theorem comment_block_trailing (trailing : Trailing tail) (block : startsWith "/*" text = true) :
    comment (text ++ tail) = (comment text).map fun (tokens,rest) => (tokens,rest ++ tail) := by
  obtain ⟨rest,rfl⟩ := List.isPrefixOf_iff_prefix.mp block
  have starts (marks : String) (solid : marks.toList.all (fun c => !isWeak c) = true) :
      startsWith marks (rest ++ tail) = startsWith marks rest :=
    startsWith_trailing trailing marks solid
  change comment ('/' :: '*' :: (rest ++ tail)) = (comment ('/' :: '*' :: rest)).map _
  rw [comment_block,comment_block,starts "*/" rfl,starts "!" rfl,starts "*" rfl,starts "**" rfl,
    takeBlock_trailing trailing]
  split
  case isTrue empty =>
    have long : 2 ≤ rest.length := (List.isPrefixOf_iff_prefix.mp empty).length_le
    rw [List.drop_append_of_le_length long]
    rfl
  case isFalse =>
    cases takeBlock 0 rest with
    | none => rfl
    | some found =>
      simp only [Option.map_some,Option.bind_some]
      split
      · cases docTokens true (found.1.drop 1) <;> rfl
      · split
        · cases docTokens false (found.1.drop 1) <;> rfl
        · rfl

/-- A line comment may go on after the text, where its line does. -/
private theorem comment_line_trailing {tokens : List Token} {rest : List Char} (trailing : Trailing tail)
    (line : startsWith "//" text = true) (firm : Firm text)
    (read : comment (text ++ tail) = some (tokens,rest)) :
    (∃ left, rest = left ++ tail ∧ comment text = some (tokens,left)) ∨
      rest <:+ tail ∧ (tokens = [] ∧ comment text = some ([],[]) ∨
        ∃ inner line, docTokens inner line = some tokens) := by
  have starts (marks : String) (solid : marks.toList.all (fun c => !isWeak c) = true) :
      startsWith marks (text ++ tail) = startsWith marks text :=
    startsWith_trailing trailing marks solid
  have dropped (marks : String) (three : marks.toList.length = 3)
      (opened : startsWith marks text = true) : (text ++ tail).drop 3 = text.drop 3 ++ tail :=
    List.drop_append_of_le_length (three ▸ (List.isPrefixOf_iff_prefix.mp opened).length_le)
  have inside : Firm (text.drop 3) := firm.suffix (List.drop_suffix _ _)
  rw [comment,starts "//!" rfl,starts "///" rfl,starts "////" rfl,starts "//" rfl,if_pos line] at read
  rw [comment,if_pos line]
  split at read
  case isTrue inner =>
    rw [dropped "//!" rfl inner] at read
    rw [if_pos inner]
    exact (docLine_trailing inside read).imp_right fun ⟨part,line,shown⟩ =>
      ⟨part,.inr ⟨_,line,shown⟩⟩
  case isFalse notInner =>
    rw [if_neg notInner]
    split at read
    case isTrue outer =>
      rw [dropped "///" rfl ((Bool.and_eq_true _ _).mp outer).1] at read
      rw [if_pos outer]
      exact (docLine_trailing inside read).imp_right fun ⟨part,line,shown⟩ =>
        ⟨part,.inr ⟨_,line,shown⟩⟩
    case isFalse notOuter =>
      rw [if_neg notOuter]
      cases read
      rcases takeLine_append firm.noReturn tail with ⟨none,same⟩ | same
      · rw [same]
        exact .inr ⟨takeLine_suffix tail,.inl ⟨rfl,by rw [none]⟩⟩
      · rw [same]
        exact .inl ⟨_,rfl,rfl⟩

/-- A comment in the text is read as before, unless it goes on up to the end of the text. -/
private theorem comment_trailing {tokens : List Token} {rest : List Char} (trailing : Trailing tail)
    (opens : opensComment text = true) (firm : Firm text)
    (read : comment (text ++ tail) = some (tokens,rest)) :
    (∃ left, rest = left ++ tail ∧ comment text = some (tokens,left)) ∨
      rest <:+ tail ∧ (tokens = [] ∧ comment text = some ([],[]) ∨
        ∃ inner line, docTokens inner line = some tokens) := by
  rcases (Bool.or_eq_true _ _).mp opens with line | block
  · exact comment_line_trailing trailing line firm read
  · rw [comment_block_trailing trailing block] at read
    obtain ⟨⟨tokens,left⟩,found,same⟩ := Option.map_eq_some_iff.mp read
    cases same
    exact .inl ⟨left,rfl,found⟩

end

/-! What is left of a text after a step. -/

section

variable {input rest : List Char}

private theorem scan_suffix {name : List Char} (read : Ident.scan input = some (name,rest)) :
    rest <:+ input := by
  cases input with
  | nil => cases read
  | cons c input =>
    simp only [Ident.scan] at read
    split at read
    case isFalse => cases read
    case isTrue =>
      cases read
      exact (List.dropWhile_suffix _).trans (List.suffix_cons _ _)

private theorem anyIdent_suffix {name : Ident} (read : anyIdent input = some (name,rest)) : rest <:+ input := by
  unfold anyIdent at read
  split at read
  case h_1 =>
    obtain ⟨⟨letters,after⟩,scanned,named⟩ := Option.bind_eq_some_iff.mp read
    simp only at named
    split at named
    case isTrue => cases named
    case isFalse =>
      cases named
      exact (scan_suffix scanned).trans ((List.suffix_cons _ _).trans (List.suffix_cons _ _))
  case h_2 =>
    obtain ⟨⟨letters,after⟩,scanned,same⟩ := Option.map_eq_some_iff.mp read
    cases same
    exact scan_suffix scanned

private theorem ident_suffix {token : Token} (read : ident input = some (token,rest)) : rest <:+ input := by
  unfold ident at read
  split at read
  · cases read
  · obtain ⟨⟨name,after⟩,named,same⟩ := Option.map_eq_some_iff.mp read
    cases same
    exact anyIdent_suffix named

private theorem punct_suffix {token : Token} (read : punct input = some (token,rest)) : rest <:+ input := by
  unfold punct at read
  split at read
  case h_1 =>
    obtain ⟨⟨name,after⟩,named,more⟩ := Option.bind_eq_some_iff.mp read
    simp only at more
    split at more
    · cases more
    · cases more
      exact (anyIdent_suffix named).trans (List.suffix_cons _ _)
  case h_2 =>
    split at read
    case isFalse => cases read
    case isTrue =>
      cases read
      exact List.suffix_cons _ _
  case h_3 => cases read

private theorem token_suffix {found : Token} (read : token input = some (found,rest)) : rest <:+ input := by
  unfold token at read
  cases quoted : literal input with
  | some result =>
    obtain rfl : result = (found,rest) := by simpa [quoted] using read
    obtain ⟨text,rfl,_⟩ := literal_split quoted
    exact List.suffix_append _ _
  | none =>
    cases sign : punct input with
    | some result =>
      obtain rfl : result = (found,rest) := by simpa [quoted,sign] using read
      exact punct_suffix sign
    | none => exact ident_suffix (by simpa [quoted,sign] using read)

private theorem comment_suffix {tokens : List Token} (read : comment input = some (tokens,rest)) :
    rest <:+ input := by
  have line {inner : Bool} (count : Nat) (read : (docTokens inner (takeLine (input.drop count)).1).map
      (·,(takeLine (input.drop count)).2) = some (tokens,rest)) : rest <:+ input := by
    obtain ⟨_,_,same⟩ := Option.map_eq_some_iff.mp read
    cases same
    exact (takeLine_suffix _).trans (List.drop_suffix _ _)
  unfold comment at read
  split at read
  · exact line 3 read
  split at read
  · exact line 3 read
  split at read
  · cases read
    exact takeLine_suffix _
  split at read
  · cases read
    exact List.drop_suffix _ _
  obtain ⟨⟨body,after⟩,block,more⟩ := Option.bind_eq_some_iff.mp read
  have part : after <:+ input := (takeBlock_suffix block).trans (List.drop_suffix _ _)
  simp only at more
  split at more
  · obtain ⟨_,_,same⟩ := Option.bind_eq_some_iff.mp more
    cases same
    exact part
  split at more
  · obtain ⟨_,_,same⟩ := Option.bind_eq_some_iff.mp more
    cases same
    exact part
  · cases more
    exact part

private theorem step_suffix {tokens : List Token} (read : step input = some (tokens,rest)) : rest <:+ input := by
  cases input with
  | nil => cases read
  | cons c input =>
    simp only [step] at read
    split at read
    · cases read
      exact List.suffix_cons _ _
    split at read
    · exact comment_suffix read
    split at read
    · cases read
      exact List.suffix_cons _ _
    · obtain ⟨⟨found,after⟩,taken,same⟩ := Option.map_eq_some_iff.mp read
      cases same
      exact token_suffix taken

end

/-! All of a text with a tail. -/

section

variable {text tail : List Char}

/-- The tokens of a text on its own, and as they are with the tail after it: a comma that follows a sign
at once makes it joint. -/
inductive Continued (tail : List Char) : List Token → List Token → Prop
  | same (tokens : List Token) : Continued tail tokens tokens
  | joint (front : List Token) (sign : Char) (comma : tail.head? = some ',') :
      Continued tail (front ++ [.punct sign false]) (front ++ [.punct sign true])

private theorem Continued.after {own first : List Token} (continued : Continued tail own first)
    (front : List Token) : Continued tail (front ++ own) (front ++ first) := by
  cases continued with
  | same => exact .same _
  | joint more sign comma =>
    rw [← List.append_assoc,← List.append_assoc]
    exact .joint _ sign comma

theorem comma_of_opensPunct (trailing : Trailing tail) (opens : opensPunct tail = true) :
    tail.head? = some ',' := by
  cases tail with
  | nil => cases opens
  | cons c tail =>
    have sign : isPunct c = true := ((Bool.and_eq_true _ _).mp opens).1
    rcases trailing c (by simp) with blank | rfl
    · have gap := isGap_of_isPunct sign
      simp [isGap,blank] at gap
    · rfl

/-- The last token of a text. -/
private theorem continued_of_step (trailing : Trailing tail) {own : List Token} (plain : opensComment text = false)
    (read : step text = some (own,[])) : Continued tail own (own.map (resettle [] tail)) := by
  have kept {token : Token} (still : token.before tail = token) :
      Continued tail [token] ([token].map (resettle [] tail)) := by
    simp only [List.map_cons,List.map_nil,resettle,List.isEmpty_nil,if_true,still]
    exact .same _
  cases stepped_of_step read with
  | gap => exact .same _
  | comment opens =>
    rw [plain] at opens
    cases opens
  | doc opens =>
    rw [plain] at opens
    cases opens
  | @sign c =>
    cases joint : opensPunct tail with
    | false => exact kept (by rw [Token.before,joint]; rfl)
    | true =>
      have shown : [Token.punct c (opensPunct [])].map (resettle [] tail) = [.punct c true] := by
        simp [resettle,Token.before,joint]
      rw [shown]
      exact .joint [] c (comma_of_opensPunct trailing joint)
  | _ => exact kept rfl

inductive Reaches : List Char → List Char → Prop
  | here (input : List Char) : Reaches input input
  | step {input rest left : List Char} {tokens : List Token} (read : step input = some (tokens,rest))
      (more : Reaches rest left) : Reaches input left

/-- What the lexer comes to, it comes to one after the other. -/
theorem Reaches.linear {input one two : List Char} (first : Reaches input one)
    (second : Reaches input two) : Reaches one two ∨ Reaches two one := by
  induction first with
  | here => exact .inl second
  | step read more ih =>
    cases second with
    | here => exact .inr (.step read more)
    | step read' more' =>
      rw [read] at read'
      cases read'
      exact ih more'

theorem Reaches.suffix {input rest : List Char} (reaches : Reaches input rest) : rest <:+ input := by
  induction reaches with
  | here => exact List.suffix_rfl
  | step read _ ih => exact ih.trans (step_suffix read)

def EndsInComment (text : List Char) : Prop :=
  ∃ remark, Reaches text remark ∧ opensComment remark = true ∧ comment remark = some ([],[])

private theorem EndsInComment.step {rest : List Char} {tokens : List Token}
    (read : step text = some (tokens,rest)) (ends : EndsInComment rest) : EndsInComment text := by
  obtain ⟨remark,reaches,found⟩ := ends
  exact ⟨remark,.step read reaches,found⟩

inductive Reading (text tail : List Char) : List Token → Prop
  /-- Those of the text come first, then those of the tail, or of what a comment at the end of the text
  leaves of it. -/
  | apart {own first rest : List Token} {left : List Char} (lexed : Lexes text own)
      (continued : Continued tail own first) (part : left <:+ tail) (follow : Lexes left rest)
      (swallowed : left = tail ∨ first = own ∧ EndsInComment text) : Reading text tail (first ++ rest)
  /-- A doc comment at the end of the text goes on in the tail. -/
  | documented {front doc rest : List Token} {left line : List Char} {inner : Bool}
      (shown : docTokens inner line = some doc) (part : left <:+ tail) (follow : Lexes left rest) :
      Reading text tail (front ++ doc ++ rest)

/-- A step at the head of the text goes before what is read after it. -/
private theorem Reading.step {rest : List Char} {tokens more : List Token} (read : step text = some (tokens,rest))
    (shorter : rest.length < text.length) (reading : Reading rest tail more) :
    Reading text tail (tokens ++ more) := by
  cases reading with
  | apart lexed continued part follow swallowed =>
    rw [← List.append_assoc]
    exact .apart (.step read shorter lexed) (continued.after tokens) part follow
      (swallowed.imp_right fun ⟨same,ends⟩ => ⟨by rw [same],ends.step read⟩)
  | @documented front doc =>
    have whole := @Reading.documented text tail (tokens ++ front) doc _ _ _ _ ‹_› ‹_› ‹_›
    simpa using whole

theorem step_of_comment (opens : opensComment text = true) : step text = comment text := by
  cases text with
  | nil => cases opens
  | cons c text =>
    obtain rfl : c = '/' := by
      simp only [opensComment,startsWith,Bool.or_eq_true] at opens
      rcases opens with line | block
      · exact (List.cons.inj (List.isPrefixOf_iff_prefix.mp line).choose_spec).1.symm
      · exact (List.cons.inj (List.isPrefixOf_iff_prefix.mp block).choose_spec).1.symm
    have solid : isGap '/' = false := rfl
    simp only [step,solid,opens,Bool.false_eq_true,if_false,if_true]

/-- What a text with a tail is read as. -/
theorem Lexes.reading (trailing : Trailing tail) (firm : Firm text) {tokens : List Token}
    (lexed : Lexes (text ++ tail) tokens) : Reading text tail tokens := by
  induction size : text.length using Nat.strongRecOn generalizing text tokens with
  | ind length ih =>
    subst size
    by_cases filled : text = []
    · subst filled
      exact .apart .nil (.same []) List.suffix_rfl lexed (.inl rfl)
    generalize input : text ++ tail = whole at lexed
    cases lexed with
    | nil => simp [filled] at input
    | @step _ rest tokens more read shorter follow =>
      subst input
      cases opens : opensComment text with
      | false =>
        rw [step_trailing_plain trailing filled opens] at read
        obtain ⟨⟨own,left⟩,stepped,same⟩ := Option.map_eq_some_iff.mp read
        obtain ⟨rfl,rfl⟩ := Prod.mk.inj same
        have part := step_suffix stepped
        have fewer : left.length < text.length := by simpa using shorter
        cases left with
        | nil =>
          have continued := continued_of_step trailing opens stepped
          have lexed := Lexes.step stepped fewer .nil
          rw [List.append_nil] at lexed
          exact .apart lexed continued List.suffix_rfl follow (.inl rfl)
        | cons c left =>
          have unchanged : own.map (resettle (c :: left) tail) = own :=
            (List.map_congr_left fun _ _ => rfl).trans (List.map_id own)
          rw [unchanged]
          exact (ih _ fewer (firm.suffix part) follow rfl).step stepped fewer
      | true =>
        have still : opensComment (text ++ tail) = true := by rw [opensComment_trailing trailing,opens]
        rw [step_of_comment still] at read
        rcases comment_trailing trailing opens firm read with ⟨left,rfl,found⟩ | ⟨part,quiet | doc⟩
        · have stepped := (step_of_comment opens).trans found
          have fewer : left.length < text.length := by simpa using shorter
          exact (ih _ fewer (firm.suffix (step_suffix stepped)) follow rfl).step stepped fewer
        · obtain ⟨rfl,found⟩ := quiet
          have stepped := (step_of_comment opens).trans found
          have lexed := Lexes.step stepped (List.length_pos_iff.mpr filled) .nil
          exact .apart lexed (.same []) part follow (.inr ⟨rfl,text,.here text,opens,found⟩)
        · obtain ⟨inner,line,shown⟩ := doc
          exact @Reading.documented text tail [] _ _ _ _ _ shown part follow

end

end CaseSynthesis.Lexer
