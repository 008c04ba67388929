import CaseSynthesis.Proofs.Blanks
import CaseSynthesis.Proofs.Printing
import CaseSynthesis.Rule.Codable

/-! What the check for string types makes of the text of a type, and of the tokens that were printed
for it. -/

namespace CaseSynthesis

open Lexer

namespace Text

private theorem isInert_of_isBlank (c : Char) (blank : isBlank c = true) : isInert c = true :=
  inert_of_weak c (by simp [isWeak,isGap,blank])

theorem isBlank_space : isBlank ' ' = true := rfl

end Text

namespace Codable

/-! The text of a type. -/

def stringNames : List String := ["String","str"]

private theorem lastPiece_cases (piece text : List Char) : lastPiece piece text = text.reverse ++ piece ∨
    ∃ plain rest, text = plain ++ ':' :: ':' :: rest ∧ lastPiece piece text = plain.reverse ++ piece := by
  fun_induction lastPiece piece text with
  | case1 => exact .inl rfl
  | case2 piece rest => exact .inr ⟨[],rest,rfl,rfl⟩
  | case3 piece c rest _ ih =>
    rcases ih with same | ⟨plain,rest,rfl,same⟩
    · exact .inl (by simpa using same)
    · exact .inr ⟨c :: plain,rest,rfl,by simpa using same⟩

private theorem lastPiece_plain (plain : List Char) (other : ':' ∉ plain) (piece rest : List Char)
    (ended : rest = [] ∨ ∃ more, rest = ':' :: ':' :: more) :
    lastPiece piece (plain ++ rest) = plain.reverse ++ piece := by
  induction plain generalizing piece with
  | nil => rcases ended with rfl | ⟨more,rfl⟩ <;> rfl
  | cons c plain ih =>
    obtain ⟨apart,other⟩ := not_or.mp (mt List.mem_cons.mpr other)
    rw [List.cons_append,lastPiece.eq_3 _ _ _ fun _ same _ => absurd same.symm apart,ih other]
    simp

def isPlainLifetime (lifetime : Ident) : Bool :=
  !lifetime.raw && lifetime.name.toList.all isLifetimeChar

private theorem isLifetimeChar_of_colon : isLifetimeChar ':' = false := by decide

/-- What is dropped from the head of a type has no colon in it, and no blank is left there. -/
private theorem withoutReference_split (text : List Char) (opens : ∀ c ∈ text.head?, Text.isBlank c = false) :
    ∃ dropped, text = dropped ++ withoutReference text ∧ ':' ∉ dropped ∧
      ∀ c ∈ (withoutReference text).head?, Text.isBlank c = false := by
  have plain {blanks : List Char} (blank : ∀ c ∈ blanks, Text.isBlank c = true) : ':' ∉ blanks :=
    fun colon => absurd (blank ':' colon) (by decide)
  unfold withoutReference
  split
  case h_1 rest =>
    obtain ⟨blanks,whole,blank⟩ := Text.exists_blanks rest
    split
    case h_1 more lifetime =>
      obtain ⟨blanks',whole',blank'⟩ := Text.exists_blanks (more.dropWhile isLifetimeChar)
      refine ⟨'&' :: blanks ++ '\'' :: more.takeWhile isLifetimeChar ++ blanks',?_,?_,
        Text.solid_trimStart _⟩
      · conv => lhs; rw [whole,lifetime,← more.takeWhile_append_dropWhile (p := isLifetimeChar),whole']
        simp
      · have letters : ':' ∉ more.takeWhile isLifetimeChar := fun colon =>
          absurd (List.mem_takeWhile_imp colon) (by simp [isLifetimeChar_of_colon])
        simp [plain blank,plain blank',letters]
    case h_2 =>
      refine ⟨'&' :: blanks,?_,by simp [plain blank],Text.solid_trimStart _⟩
      conv => lhs; rw [whole]
      rfl
  case h_2 => exact ⟨[],rfl,by simp,opens⟩

private theorem stringName_facts : ∀ name ∈ stringNames, name.toList ≠ [] ∧ ':' ∉ name.toList ∧
    '\'' ∉ name.toList ∧ (∀ c ∈ name.toList, Text.isIdentifierContinue c = true) ∧
    (∀ c ∈ name.toList, isLifetimeChar c = true) ∧ literal name.toList = none := by
  intro name listed
  have checked : stringNames.all (fun name => !name.toList.isEmpty && (!name.toList.contains ':' &&
      (!name.toList.contains '\'' && (name.toList.all Text.isIdentifierContinue &&
      (name.toList.all isLifetimeChar && (literal name.toList).isNone))))) = true := rfl
  simpa using List.all_eq_true.mp checked name listed

def Qualifies (name text : List Char) : Prop :=
  ∃ before blanks, text = before ++ ':' :: ':' :: (blanks ++ name) ∧ ∀ c ∈ blanks, Text.isBlank c = true

private theorem withoutReference_qualifies {name text : List Char}
    (opens : ∀ c ∈ text.head?, Text.isBlank c = false) :
    Qualifies name (withoutReference text) ↔ Qualifies name text := by
  obtain ⟨dropped,whole,uncolon,_⟩ := withoutReference_split text opens
  generalize withoutReference text = rest at *
  subst whole
  constructor
  · rintro ⟨before,blanks,rfl,blank⟩
    exact ⟨dropped ++ before,blanks,by simp,blank⟩
  · rintro ⟨before,blanks,split,blank⟩
    rcases List.append_eq_append_iff.mp split with ⟨more,_,left⟩ | ⟨more,taken,left⟩
    · exact ⟨more,blanks,left,blank⟩
    · cases more with
      | nil => exact ⟨[],blanks,left.symm,blank⟩
      | cons c more =>
        obtain ⟨rfl,_⟩ := List.cons.inj left
        exact absurd (by simp [taken]) uncolon

section

variable {name : String} (listed : name ∈ stringNames)
include listed

private theorem isBlank_of_stringName : ∀ c ∈ name.toList, Text.isBlank c = false := by
  obtain ⟨_,_,_,letters,_⟩ := stringName_facts name listed
  intro c member
  by_contra blank
  have inert := Text.isInert_of_isBlank c (by simpa using blank)
  rw [not_inert_of_continue c (letters c member)] at inert
  cases inert

private theorem trim_stringName (blanks : List Char) (blank : ∀ c ∈ blanks, Text.isBlank c = true) :
    Text.trim (blanks ++ name.toList) = name.toList := by
  have solid := isBlank_of_stringName listed
  rw [Text.trim,Text.trimStart_append blank,
    Text.trimStart_of_solid fun c first => solid c (List.mem_of_mem_head? first),
    Text.trimEnd_of_solid fun c last => solid c (List.mem_of_getLast? last)]

private theorem trim_lastPiece_iff {text : List Char} (opens : ∀ c ∈ text.head?, Text.isBlank c = false)
    (ends : ∀ c ∈ text.getLast?, Text.isBlank c = false) :
    Text.trim (lastPiece [] text.reverse) = name.toList ↔
      text = name.toList ∨ Qualifies name.toList text := by
  obtain ⟨_,plain,_⟩ := stringName_facts name listed
  have firm {part : List Char} (suffix : part <:+ text) : Text.trimEnd part = part := by
    refine Text.trimEnd_of_solid fun c last => ends c ?_
    obtain ⟨front,rfl⟩ := suffix
    rw [List.getLast?_append,last]
    rfl
  constructor
  · intro found
    rcases lastPiece_cases [] text.reverse with same | ⟨back,rest,split,same⟩
    · rw [same,List.reverse_reverse,List.append_nil,Text.trim,Text.trimStart_of_solid opens,
        firm (List.suffix_refl text)] at found
      exact .inl found
    · have whole : text = rest.reverse ++ ':' :: ':' :: back.reverse := by
        simpa using congrArg List.reverse split
      obtain ⟨blanks,piece,blank⟩ := Text.exists_blanks back.reverse
      rw [same,List.append_nil,Text.trim,firm ⟨rest.reverse ++ ':' :: ':' :: blanks,by
        conv => rhs; rw [whole,piece]
        simp⟩] at found
      rw [found] at piece
      exact .inr ⟨rest.reverse,blanks,by rw [whole,piece],blank⟩
  · rintro (rfl | ⟨before,blanks,rfl,blank⟩)
    · have last := lastPiece_plain name.toList.reverse (by simpa using plain) [] [] (.inl rfl)
      simp only [List.append_nil,List.reverse_reverse] at last
      rw [last]
      exact trim_stringName listed [] (by simp)
    · have colon : ':' ∉ blanks := fun colon => absurd (blank ':' colon) (by decide)
      have last := lastPiece_plain (blanks ++ name.toList).reverse (by simp [plain,colon]) []
        (':' :: ':' :: before.reverse) (.inr ⟨_,rfl⟩)
      rw [List.reverse_reverse,List.append_nil] at last
      rw [show (before ++ ':' :: ':' :: (blanks ++ name.toList)).reverse =
        (blanks ++ name.toList).reverse ++ ':' :: ':' :: before.reverse by simp,last]
      exact trim_stringName listed blanks blank

end

/-- A type is taken for a string type exactly if its text ends in a double colon and one of the names,
or if nothing but a reference sign and a lifetime comes before the name. -/
private theorem isStringType_iff_text (text : String)
    (opens : ∀ c ∈ text.toList.head?, Text.isBlank c = false)
    (ends : ∀ c ∈ text.toList.getLast?, Text.isBlank c = false) :
    isStringType ⟨text⟩ = true ↔ ∃ name ∈ stringNames,
      withoutReference text.toList = name.toList ∨ Qualifies name.toList text.toList := by
  have trimmed : Text.trim text.toList = text.toList := by
    rw [Text.trim,Text.trimStart_of_solid opens,Text.trimEnd_of_solid ends]
  have verdict : isStringType ⟨text⟩ = true ↔ ∃ name ∈ stringNames,
      Text.trim (lastPiece [] (withoutReference text.toList).reverse) = name.toList := by
    simp [isStringType,trimmed,stringNames]
  obtain ⟨dropped,whole,_,solid⟩ := withoutReference_split text.toList opens
  have firm : ∀ c ∈ (withoutReference text.toList).getLast?, Text.isBlank c = false := by
    intro c last
    refine ends c ?_
    rw [whole,List.getLast?_append,last]
    rfl
  rw [verdict]
  refine exists_congr fun name => and_congr_right fun listed => ?_
  rw [trim_lastPiece_iff listed solid firm,withoutReference_qualifies opens]

end Codable

/-! The ends of printed tokens. -/

namespace Token

def lead (before : List Token) (token : Token) : List Char :=
  match before.getLast? with
  | none => []
  | some last => (print before).toList ++ if spaced last token then [' '] else []

private theorem lead_cons (first next : Token) (before : List Token) (token : Token) :
    lead (first :: next :: before) token = first.text.toList ++
      ((if spaced first next then [' '] else []) ++ lead (next :: before) token) := by
  obtain ⟨last,same⟩ : ∃ last, (next :: before).getLast? = some last :=
    ⟨_,List.getLast?_eq_some_getLast (List.cons_ne_nil _ _)⟩
  simp only [lead,List.getLast?_cons_cons,same,print_cons,List.append_assoc]

private theorem print_concat (before : List Token) (token : Token) :
    (print (before ++ [token])).toList = lead before token ++ token.text.toList := by
  induction before with
  | nil => simp [print,lead]
  | cons first before ih =>
    cases before with
    | nil =>
      rw [List.singleton_append,print_cons]
      simp [print,lead]
    | cons next before =>
      rw [List.cons_append,List.cons_append,print_cons,← List.cons_append,ih,lead_cons]
      simp only [List.append_assoc]

private theorem lead_concat (before : List Token) (token next : Token) : lead (before ++ [token]) next =
    lead before token ++ (token.text.toList ++ if spaced token next then [' '] else []) := by
  rw [lead,List.getLast?_concat]
  simp only [print_concat,List.append_assoc]

private theorem not_inert_of_ident {name : Ident} (legible : name.Legible) {c : Char}
    (member : c ∈ name.text.toList) : isInert c = false := by
  obtain ⟨name,raw⟩ := name
  obtain ⟨first,more,whole,start,letter⟩ := (wellFormed_iff name).mp legible.1
  have either : c = 'r' ∨ c = '#' ∨ c ∈ name.toList := by
    cases raw <;> simp_all [Ident.text]
  rcases either with rfl | rfl | inside
  · rfl
  · rfl
  · rw [whole] at inside
    rcases List.mem_cons.mp inside with rfl | inside
    · exact not_inert_of_continue c (Text.isIdentifierContinue_of_start c start)
    · exact not_inert_of_continue c (letter c inside)

/-- A character that no word or literal has in it is a token by itself. -/
private theorem sign_of_inert {token : Token} (legible : token.Legible) {before after : List Char} {c : Char}
    (split : token.text.toList = before ++ c :: after)
    (letters : ∀ d ∈ after, Text.isIdentifierContinue d = true) (inert : isInert c = true) :
    after = [] ∧ ((∃ joint, token = .punct c joint) ∨
      (∃ delimiter, token = .opening delimiter ∧ c = delimiter.openingChar) ∨
      ∃ delimiter, token = .closing delimiter ∧ c = delimiter.closingChar) := by
  have single {d : Char} (text : [d] = before ++ c :: after) : after = [] ∧ c = d := by
    cases before with
    | nil => exact ⟨(List.cons.inj text).2.symm,(List.cons.inj text).1.symm⟩
    | cons => simp at text
  cases token with
  | ident name =>
    have text : name.text.toList = before ++ c :: after := split
    exact absurd inert (by simp [not_inert_of_ident legible (c := c) (by simp [text])])
  | lifetime name =>
    have text : '\'' :: name.text.toList = before ++ c :: after := by simpa [text] using split
    have member : c ∈ '\'' :: name.text.toList := by simp [text]
    rcases List.mem_cons.mp member with rfl | inside
    · cases inert
    · exact absurd inert (by simp [not_inert_of_ident legible inside])
  | punct sign joint =>
    obtain ⟨rfl,rfl⟩ := single (by simpa [text] using split)
    exact ⟨rfl,.inl ⟨joint,rfl⟩⟩
  | literal spelling =>
    rw [not_inert_of_literal legible split letters] at inert
    cases inert
  | opening delimiter =>
    obtain ⟨rfl,rfl⟩ := single (by simpa [text] using split)
    exact ⟨rfl,.inr (.inl ⟨delimiter,rfl,rfl⟩)⟩
  | closing delimiter =>
    obtain ⟨rfl,rfl⟩ := single (by simpa [text] using split)
    exact ⟨rfl,.inr (.inr ⟨delimiter,rfl,rfl⟩)⟩

private theorem last_of_legible {token : Token} (legible : token.Legible) :
    ∃ init c, token.text.toList = init ++ [c] ∧ Text.isBlank c = false := by
  obtain ⟨first,more,spelled,_⟩ := head_of_legible legible
  rcases List.eq_nil_or_concat token.text.toList with none | ⟨init,c,whole⟩
  · simp [spelled] at none
  rw [List.concat_eq_append] at whole
  refine ⟨init,c,whole,?_⟩
  by_contra blank
  have blank : Text.isBlank c = true := by simpa using blank
  rcases (sign_of_inert legible whole (by simp) (Text.isInert_of_isBlank c blank)).2 with
    ⟨joint,rfl⟩ | ⟨delimiter,_,rfl⟩ | ⟨delimiter,_,rfl⟩
  · have gap := isGap_of_isPunct legible.1
    simp [isGap,blank] at gap
  · cases delimiter <;> cases blank
  · cases delimiter <;> cases blank

private theorem head_not_blank {token : Token} (legible : token.Legible) {c : Char} {more : List Char}
    (spelled : token.text.toList = c :: more) : Text.isBlank c = false := by
  by_contra blank
  have gap : isGap c = true := by simp_all [isGap]
  cases token with
  | ident name =>
    obtain ⟨d,rest,text,solid,_⟩ := text_of_legible legible
    obtain ⟨rfl,_⟩ := List.cons.inj (spelled.symm.trans text)
    rw [Text.isGap_of_solid c solid] at gap
    cases gap
  | lifetime name =>
    obtain ⟨rfl,_⟩ : '\'' = c ∧ _ := by simpa [text] using spelled
    cases gap
  | punct sign joint =>
    obtain ⟨rfl,_⟩ : sign = c ∧ _ := by simpa [text] using spelled
    rw [isGap_of_isPunct legible.1] at gap
    cases gap
  | literal spelling =>
    have read := legible [] apart_nil
    have spelled : spelling.toList = c :: more := spelled
    rw [spelled,List.append_nil,step,if_pos gap] at read
    cases read
  | opening delimiter =>
    obtain ⟨rfl,_⟩ : delimiter.openingChar = c ∧ _ := by simpa [text] using spelled
    cases delimiter <;> cases gap
  | closing delimiter =>
    obtain ⟨rfl,_⟩ : delimiter.closingChar = c ∧ _ := by simpa [text] using spelled
    cases delimiter <;> cases gap

private theorem isPunct_of_continue {c : Char} (letter : Text.isIdentifierContinue c = true) :
    isPunct c = false := by
  have signs : "~!@#$%^&*-=+|;:,<.>/?'".toList.all (fun sign => !Text.isIdentifierContinue sign) =
    true := rfl
  by_contra sign
  rw [Bool.not_eq_false] at sign
  have other := List.all_eq_true.mp signs c (List.contains_iff_mem.mp sign)
  simp [letter] at other

/-- Nothing that ends in a letter is printed close up to another token's letters. -/
private theorem lead_last {front : List Token} {token : Token} (legible : ∀ other ∈ front, other.Legible)
    {init : List Char} {c : Char} (printed : lead front token = init ++ [c])
    (letter : Text.isIdentifierContinue c = true)
    (open' : ∀ delimiter, token ≠ .closing delimiter) : False := by
  rcases List.eq_nil_or_concat front with rfl | ⟨front,last,rfl⟩
  · simp [lead] at printed
  rw [List.concat_eq_append,lead_concat] at printed
  cases spaced : Token.spaced last token with
  | true =>
    rw [spaced,if_pos rfl,← List.append_assoc] at printed
    obtain ⟨_,rfl⟩ := List.append_singleton_inj.mp printed
    exact absurd letter (by decide)
  | false =>
    rw [spaced,if_neg (by simp),List.append_nil] at printed
    rcases tight_cases spaced with ⟨sign,rfl⟩ | ⟨delimiter,rfl⟩ | ⟨delimiter,rfl,_⟩
    · obtain ⟨_,rfl⟩ := List.append_singleton_inj.mp (by simpa [text] using printed)
      have sign := (legible (.punct sign true) (by simp)).1
      exact absurd sign (by simp [isPunct_of_continue letter])
    · obtain ⟨_,rfl⟩ := List.append_singleton_inj.mp (by simpa [text] using printed)
      cases delimiter <;> exact absurd letter (by decide)
    · exact open' delimiter rfl

/-- A word at the end of printed tokens, set off from what is before it, is the last of them. -/
private theorem last_of_word {tokens : List Token} (legible : ∀ token ∈ tokens, token.Legible)
    (before : List Char) {word : List Char} (filled : word ≠ [])
    (letters : ∀ c ∈ word, Text.isIdentifierContinue c = true)
    (apart : ∀ c ∈ before.getLast?, isInert c = true)
    (printed : (print tokens).toList = before ++ word) :
    ∃ front last, tokens = front ++ [last] ∧ last.text.toList = word ∧ lead front last = before := by
  rcases List.eq_nil_or_concat tokens with rfl | ⟨front,last,rfl⟩
  · simp [print,filled] at printed
  rw [List.concat_eq_append] at *
  rw [print_concat] at printed
  refine ⟨front,last,rfl,?_⟩
  rcases List.append_eq_append_iff.mp printed with ⟨more,rest,text⟩ | ⟨more,rest,text⟩
  · rcases List.eq_nil_or_concat more with rfl | ⟨init,c,rfl⟩
    · exact ⟨by simpa using text,by simpa using rest.symm⟩
    · rw [List.concat_eq_append] at *
      have inert := apart c (by simp [rest])
      have only := sign_of_inert (legible last (by simp)) (by simpa using text) letters inert
      exact absurd only.1 filled
  · rcases List.eq_nil_or_concat more with rfl | ⟨init,c,rfl⟩
    · exact ⟨by simpa using text.symm,by simpa using rest⟩
    · rw [List.concat_eq_append] at *
      have earlier := fun other member => legible other (List.mem_append_left [last] member)
      rw [← List.append_assoc] at rest
      refine (lead_last earlier rest (letters c (by simp [text])) fun delimiter closing => ?_).elim
      have member : delimiter.closingChar ∈ word := by
        rw [text,closing]
        simp [Token.text]
      have letter := letters _ member
      cases delimiter <;> exact absurd letter (by decide)

def follow (token : Token) : List Token → List Char
  | [] => []
  | next :: rest => (if spaced token next then [' '] else []) ++ (print (next :: rest)).toList

private theorem print_follow (token : Token) (rest : List Token) :
    (print (token :: rest)).toList = token.text.toList ++ follow token rest := by
  cases rest with
  | nil => simp [print,follow]
  | cons next rest => rw [print_cons,follow]

private theorem print_opens {tokens : List Token} (legible : ∀ token ∈ tokens, token.Legible) :
    ∀ c ∈ (print tokens).toList.head?, Text.isBlank c = false := by
  intro c first
  cases tokens with
  | nil => simp [print] at first
  | cons token rest =>
    have shown := legible token (by simp)
    obtain ⟨d,more,spelled,_⟩ := head_of_legible shown
    obtain rfl : d = c := by simpa [print_follow,spelled] using first
    exact head_not_blank shown spelled

private theorem print_ends {tokens : List Token} (legible : ∀ token ∈ tokens, token.Legible) :
    ∀ c ∈ (print tokens).toList.getLast?, Text.isBlank c = false := by
  intro c last
  rcases List.eq_nil_or_concat tokens with rfl | ⟨front,token,rfl⟩
  · simp [print] at last
  rw [List.concat_eq_append] at *
  obtain ⟨init,d,spelled,solid⟩ := last_of_legible (legible token (by simp))
  obtain rfl : d = c := by simpa [print_concat,spelled] using last
  exact solid

private theorem trimStart_follow (token : Token) {rest : List Token} (legible : ∀ other ∈ rest, other.Legible) :
    Text.trimStart (follow token rest) = (print rest).toList := by
  cases rest with
  | nil => rfl
  | cons next rest =>
    rw [follow,Text.trimStart_append (by split <;> simp [Text.isBlank_space]),
      Text.trimStart_of_solid (print_opens legible)]

private theorem colon_of_lead {front : List Token} {token : Token} (legible : ∀ other ∈ front, other.Legible)
    (before : List Char) {blanks : List Char} (printed : lead front token = before ++ ':' :: blanks)
    (blank : ∀ c ∈ blanks, Text.isBlank c = true) :
    ∃ earlier joint, front = earlier ++ [.punct ':' joint] ∧
      lead earlier (.punct ':' joint) = before ∧
      blanks = if spaced (.punct ':' joint) token then [' '] else [] := by
  rcases List.eq_nil_or_concat front with rfl | ⟨earlier,last,rfl⟩
  · simp [lead] at printed
  rw [List.concat_eq_append] at *
  have shown := legible last (by simp)
  obtain ⟨init,c,spelled,solid⟩ := last_of_legible shown
  rw [lead_concat,spelled,List.append_assoc,List.singleton_append,← List.append_assoc] at printed
  obtain ⟨rfl,rfl,rfl⟩ := Text.split_at_last printed solid (by decide)
    (by split <;> simp [Text.isBlank_space]) blank
  obtain ⟨_,⟨joint,rfl⟩ | ⟨delimiter,_,other⟩ | ⟨delimiter,_,other⟩⟩ :=
    sign_of_inert shown spelled (by simp) rfl
  · obtain rfl : [] = init := by simpa [text] using spelled
    exact ⟨earlier,joint,rfl,by simp,rfl⟩
  · cases delimiter <;> cases other
  · cases delimiter <;> cases other

end Token

namespace Codable

open Token

/-! The tokens of a type. -/

section

variable {name : String} (listed : name ∈ stringNames)
include listed

private theorem ident_of_text {token : Token} (legible : token.Legible)
    (spelled : token.text.toList = name.toList) : token = .ident ⟨name,false⟩ := by
  obtain ⟨filled,_,quote,letters,_,unread⟩ := stringName_facts name listed
  have plain {c : Char} (member : c ∈ token.text.toList) : Text.isIdentifierContinue c = true :=
    letters c (by rwa [spelled] at member)
  cases token with
  | ident ident =>
    obtain ⟨ident,raw⟩ := ident
    cases raw with
    | true => exact absurd (plain (c := '#') (by simp [text,Ident.text])) (by decide)
    | false => simpa [text,Ident.text,String.toList_inj] using spelled
  | lifetime ident => exact absurd (plain (c := '\'') (by simp [text])) (by decide)
  | punct sign joint =>
    have letter := plain (c := sign) (by simp [text])
    exact absurd legible.1 (by simp [isPunct_of_continue letter])
  | literal spelling =>
    have read := literal_of_legible legible
    have spelled : spelling.toList = name.toList := spelled
    rw [spelled,unread] at read
    cases read
  | opening delimiter =>
    have letter := plain (c := delimiter.openingChar) (by simp [text])
    cases delimiter <;> exact absurd letter (by decide)
  | closing delimiter =>
    have letter := plain (c := delimiter.closingChar) (by simp [text])
    cases delimiter <;> exact absurd letter (by decide)

variable {tokens : List Token} (legible : ∀ token ∈ tokens, token.Legible)
include legible

private theorem print_eq_name_iff :
    (print tokens).toList = name.toList ↔ tokens = [.ident ⟨name,false⟩] := by
  obtain ⟨filled,_,_,letters,_⟩ := stringName_facts name listed
  constructor
  · intro printed
    obtain ⟨front,last,rfl,spelled,nothing⟩ := last_of_word legible [] filled letters
      (by simp) (by simpa using printed)
    obtain rfl := ident_of_text listed (legible last (by simp)) spelled
    rcases List.eq_nil_or_concat front with rfl | ⟨front,token,rfl⟩
    · rfl
    · rw [List.concat_eq_append] at *
      obtain ⟨_,_,some,_⟩ := last_of_legible (legible token (by simp))
      simp [lead_concat,some] at nothing
  · rintro rfl
    simp [print,text,Ident.text]

private theorem print_qualifies_iff : Qualifies name.toList (print tokens).toList ↔
    ∃ front joint, tokens = front ++ [.punct ':' true,.punct ':' joint,.ident ⟨name,false⟩] := by
  obtain ⟨filled,_,_,letters,_⟩ := stringName_facts name listed
  constructor
  · rintro ⟨before,blanks,printed,blank⟩
    have apart : ∀ c ∈ (before ++ ':' :: ':' :: blanks).getLast?, isInert c = true := by
      intro c last
      have member := List.mem_of_getLast? (l := ':' :: ':' :: blanks) (a := c) (by
        simpa [List.getLast?_append] using last)
      simp only [List.mem_cons] at member
      rcases member with rfl | rfl | inside
      · rfl
      · rfl
      · exact Text.isInert_of_isBlank c (blank c inside)
    obtain ⟨front,last,rfl,spelled,leads⟩ := last_of_word legible _ filled letters apart
      (by simpa using printed)
    obtain rfl := ident_of_text listed (legible last (by simp)) spelled
    have shown := fun other member => legible other (List.mem_append_left _ member)
    obtain ⟨front,joint,rfl,first,rfl⟩ := colon_of_lead shown (before ++ [':'])
      (by simpa using leads) blank
    have shown' := fun other member => shown other (List.mem_append_left _ member)
    obtain ⟨front,joint',rfl,_,close⟩ := colon_of_lead shown' before first (by simp)
    obtain rfl : joint' = true := by
      cases joint'
      · simp [spaced] at close
      · rfl
    exact ⟨front,joint,by simp⟩
  · rintro ⟨front,joint,rfl⟩
    refine ⟨lead front (.punct ':' true),if joint then [] else [' '],?_,
      by split <;> simp [Text.isBlank_space]⟩
    rw [show front ++ [.punct ':' true,.punct ':' joint,.ident ⟨name,false⟩] =
      front ++ [.punct ':' true] ++ [.punct ':' joint] ++ [.ident ⟨name,false⟩] by simp,
      print_concat,lead_concat,lead_concat]
    cases joint <;> simp [spaced,text,Ident.text]

end

private theorem withoutReference_of_head {text : List Char} (other : text.head? ≠ some '&') :
    withoutReference text = text := by
  unfold withoutReference
  split
  · simp at other
  · rfl

private theorem withoutReference_plain {rest text : List Char} (trimmed : Text.trimStart rest = text)
    (other : text.head? ≠ some '\'') : withoutReference ('&' :: rest) = text := by
  rw [withoutReference,trimmed]
  split
  · simp at other
  · rfl

private theorem withoutReference_lifetime {rest text : List Char}
    (trimmed : Text.trimStart rest = '\'' :: text) :
    withoutReference ('&' :: rest) = Text.trimStart (text.dropWhile isLifetimeChar) := by
  simp only [withoutReference,trimmed]

/-- What neither a lifetime nor a gap has in it stays. -/
private theorem mem_after_lifetime {c : Char} {text : List Char} (member : c ∈ text)
    (other : isLifetimeChar c = false) (solid : Text.isBlank c = false) :
    c ∈ Text.trimStart (text.dropWhile isLifetimeChar) := by
  have stays (p : Char → Bool) (left : p c = false) {text : List Char} (member : c ∈ text) :
      c ∈ text.dropWhile p := by
    rw [← text.takeWhile_append_dropWhile (p := p)] at member
    rcases List.mem_append.mp member with taken | stays
    · exact absurd (List.mem_takeWhile_imp taken) (by simp [left])
    · exact stays
  exact stays _ solid (stays _ other member)

private theorem dropWhile_follow_lifetime (lifetime : Ident) (rest : List Token) :
    (follow (.lifetime lifetime) rest).dropWhile isLifetimeChar = follow (.lifetime lifetime) rest := by
  cases rest with
  | nil => rfl
  | cons next rest =>
    rw [follow]
    cases spaced : Token.spaced (.lifetime lifetime) next with
    | true => exact List.dropWhile_cons_of_neg (by decide)
    | false =>
      rcases tight_cases spaced with ⟨_,same⟩ | ⟨_,same⟩ | ⟨delimiter,rfl,_⟩
      · cases same
      · cases same
      · rw [print_follow]
        cases delimiter <;> exact List.dropWhile_cons_of_neg (by decide)

private theorem mem_of_character {spelling : String} {more : List Char}
    (shown : (Token.literal spelling).Legible) (quoted : spelling.toList = '\'' :: more) :
    '\'' ∈ more := by
  obtain ⟨rest,found,_⟩ := Option.map_eq_some_iff.mp (literal_of_legible shown)
  rw [quoted] at found
  cases read : afterCharacter .text more with
  | some after =>
    obtain ⟨text,after,rfl,_⟩ := afterCharacter_split read
    simp
  | none =>
    have unread : afterQuoted ('\'' :: more) = none := read
    have number : Number.scan ('\'' :: more) = some rest := by simpa [unread] using found
    exact absurd (Number.isDigit_of_scan _ _ _ number) (by decide)

section

variable {name : String} (listed : name ∈ stringNames) {rest : List Token}
include listed

private theorem after_lifetime_iff (legible : ∀ token ∈ rest, token.Legible) {lifetime : Ident}
    (shown : lifetime.Legible) :
    Text.trimStart ((lifetime.text.toList ++ follow (.lifetime lifetime) rest).dropWhile isLifetimeChar) =
      name.toList ↔ isPlainLifetime lifetime = true ∧ (print rest).toList = name.toList := by
  obtain ⟨_,_,_,_,letters,_⟩ := stringName_facts name listed
  by_cases plain : isPlainLifetime lifetime = true
  · obtain ⟨raw,each⟩ : lifetime.raw = false ∧ ∀ c ∈ lifetime.name.toList, isLifetimeChar c = true := by
      simpa [isPlainLifetime] using plain
    rw [List.dropWhile_append_of_pos (by simpa [Ident.text,raw] using each),
      dropWhile_follow_lifetime,trimStart_follow _ legible]
    simp [plain]
  · refine iff_of_false (fun same => ?_) (by simp [plain])
    obtain ⟨c,member,other⟩ : ∃ c ∈ lifetime.text.toList, isLifetimeChar c = false := by
      obtain ⟨lifetime,raw⟩ := lifetime
      cases raw with
      | true => exact ⟨'#',by simp [Ident.text],by decide⟩
      | false => simpa [isPlainLifetime,Ident.text] using plain
    have solid : Text.isBlank c = false := by
      by_contra blank
      have inert := Text.isInert_of_isBlank c (by simpa using blank)
      rw [not_inert_of_ident shown member] at inert
      cases inert
    have stays := mem_after_lifetime
      (List.mem_append_left (follow (.lifetime lifetime) rest) member) other solid
    rw [same] at stays
    exact absurd (letters c stays) (by simp [other])

/-- The quote that ends a character is not dropped either. -/
private theorem after_character {spelling : String} {more : List Char}
    (shown : (Token.literal spelling).Legible) (quoted : spelling.toList = '\'' :: more) :
    Text.trimStart ((more ++ follow (.literal spelling) rest).dropWhile isLifetimeChar) ≠
      name.toList := by
  obtain ⟨_,_,quote,_⟩ := stringName_facts name listed
  intro same
  have closes : '\'' ∈ more := mem_of_character shown quoted
  have stays := mem_after_lifetime (List.mem_append_left (follow (.literal spelling) rest) closes)
    (by decide) (by decide)
  rw [same] at stays
  exact quote stays

end

private theorem sign_of_head {token : Token} (legible : token.Legible) {c : Char}
    (head : token.text.toList.head? = some c) (sign : isPunct c = true) :
    (∃ joint, token = .punct c joint) ∨
      c = '\'' ∧ ((∃ lifetime, token = .lifetime lifetime) ∨ ∃ spelling, token = .literal spelling) := by
  cases token with
  | ident name =>
    obtain ⟨d,more,spelled,solid,_⟩ := text_of_legible legible
    obtain rfl : d = c := by simpa [text,spelled] using head
    rw [isPunct_of_solid d solid] at sign
    cases sign
  | lifetime name => exact .inr ⟨by simpa [text,eq_comm] using head,.inl ⟨name,rfl⟩⟩
  | punct d joint => exact .inl ⟨joint,by simpa [text] using head⟩
  | literal spelling =>
    obtain ⟨more,spelled⟩ := List.head?_eq_some_iff.mp head
    by_cases quote : c = '\''
    · exact .inr ⟨quote,.inr ⟨spelling,rfl⟩⟩
    · rw [not_sign_of_literal legible spelled quote] at sign
      cases sign
  | opening delimiter =>
    obtain rfl : delimiter.openingChar = c := by simpa [text] using head
    cases delimiter <;> cases sign
  | closing delimiter =>
    obtain rfl : delimiter.closingChar = c := by simpa [text] using head
    cases delimiter <;> cases sign

section

variable {name : String} (listed : name ∈ stringNames) {tokens : List Token}
  (legible : ∀ token ∈ tokens, token.Legible)
include listed legible

private theorem withoutReference_follow_iff (joint : Bool) :
    withoutReference ('&' :: follow (.punct '&' joint) tokens) = name.toList ↔
      tokens = [.ident ⟨name,false⟩] ∨ ∃ lifetime, isPlainLifetime lifetime = true ∧
        tokens = [.lifetime lifetime,.ident ⟨name,false⟩] := by
  obtain ⟨filled,_⟩ := stringName_facts name listed
  have trimmed := trimStart_follow (.punct '&' joint) legible
  cases tokens with
  | nil =>
    rw [withoutReference_plain trimmed (by simp [print])]
    simp [print,filled.symm]
  | cons first rest =>
    have shown := legible first (by simp)
    have later := fun token member => legible token (List.mem_cons_of_mem first member)
    by_cases quote : first.text.toList.head? = some '\''
    · rcases sign_of_head shown quote (by decide) with ⟨joint,rfl⟩ | ⟨_,⟨lifetime,rfl⟩ | ⟨spelling,rfl⟩⟩
      · exact absurd rfl shown.2
      · rw [print_follow,show (Token.lifetime lifetime).text.toList = '\'' :: lifetime.text.toList by
          simp [text],List.cons_append] at trimmed
        rw [withoutReference_lifetime trimmed,after_lifetime_iff listed later shown,
          print_eq_name_iff listed later]
        grind
      · obtain ⟨more,quoted⟩ := List.head?_eq_some_iff.mp quote
        have spelled : spelling.toList = '\'' :: more := quoted
        rw [print_follow,quoted,List.cons_append] at trimmed
        rw [withoutReference_lifetime trimmed]
        exact iff_of_false (after_character listed shown spelled) (by simp)
    · have other : (print (first :: rest)).toList.head? ≠ some '\'' := by
        obtain ⟨c,more,spelled,_⟩ := head_of_legible shown
        simpa [print_follow,spelled] using quote
      rw [withoutReference_plain trimmed other,print_eq_name_iff listed legible]
      refine ⟨.inl,?_⟩
      rintro (same | ⟨lifetime,_,same⟩)
      · exact same
      · obtain ⟨rfl,_⟩ := List.cons.inj same
        exact absurd (by simp [text]) quote

private theorem withoutReference_print_iff : withoutReference (print tokens).toList = name.toList ↔
    tokens = [.ident ⟨name,false⟩] ∨ (∃ joint, tokens = [.punct '&' joint,.ident ⟨name,false⟩]) ∨
    ∃ joint lifetime, isPlainLifetime lifetime = true ∧
      tokens = [.punct '&' joint,.lifetime lifetime,.ident ⟨name,false⟩] := by
  obtain ⟨filled,_⟩ := stringName_facts name listed
  cases tokens with
  | nil => exact iff_of_false (by simp [print,withoutReference,filled.symm]) (by simp)
  | cons first rest =>
    have shown := legible first (by simp)
    have later := fun token member => legible token (List.mem_cons_of_mem first member)
    by_cases reference : first.text.toList.head? = some '&'
    · rcases sign_of_head shown reference (by decide) with ⟨joint,rfl⟩ | ⟨other,_⟩
      · rw [print_follow,show (Token.punct '&' joint).text.toList = ['&'] by simp [text],
          List.singleton_append,withoutReference_follow_iff listed later]
        grind
      · cases other
    · have other : (print (first :: rest)).toList.head? ≠ some '&' := by
        obtain ⟨c,more,spelled,_⟩ := head_of_legible shown
        simpa [print_follow,spelled] using reference
      rw [withoutReference_of_head other,print_eq_name_iff listed legible]
      refine ⟨.inl,?_⟩
      rintro (same | ⟨joint,same⟩ | ⟨joint,lifetime,_,same⟩)
      · exact same
      · obtain ⟨rfl,_⟩ := List.cons.inj same
        exact absurd (by simp [text]) reference
      · obtain ⟨rfl,_⟩ := List.cons.inj same
        exact absurd (by simp [text]) reference

end

def EndsQualified (tokens : List Token) : Prop :=
  ∃ name ∈ stringNames, ∃ front joint,
    tokens = front ++ [.punct ':' true,.punct ':' joint,.ident ⟨name,false⟩]

def StandsAlone (tokens : List Token) : Prop :=
  ∃ name ∈ stringNames, tokens = [.ident ⟨name,false⟩] ∨
    (∃ joint, tokens = [.punct '&' joint,.ident ⟨name,false⟩]) ∨
    ∃ joint lifetime, isPlainLifetime lifetime = true ∧
      tokens = [.punct '&' joint,.lifetime lifetime,.ident ⟨name,false⟩]

theorem isStringType_print_iff {tokens : List Token} (legible : ∀ token ∈ tokens, token.Legible) :
    isStringType ⟨print tokens⟩ = true ↔ StandsAlone tokens ∨ EndsQualified tokens := by
  rw [isStringType_iff_text _ (print_opens legible) (print_ends legible)]
  rw [StandsAlone,EndsQualified,← exists_or]
  refine exists_congr fun name => ?_
  rw [← and_or_left]
  refine and_congr_right fun listed => ?_
  rw [withoutReference_print_iff listed legible,print_qualifies_iff listed legible]

end Codable

end CaseSynthesis
