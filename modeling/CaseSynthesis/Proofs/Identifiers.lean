import CaseSynthesis.Program.CaseName
import CaseSynthesis.Proofs.Reading

/-! Names of cases as identifiers. A name that is spelled as an identifier can be the name of a case,
as it stands or as a raw identifier, unless it is one of the few keywords without a raw form. -/

namespace CaseSynthesis

/-- Whether a program can declare something by an identifier. Only a raw one may be called by a
keyword, if the keyword has a raw form. -/
def Ident.isLegal (ident : Ident) : Bool :=
  wellFormed ident.name && !(if ident.raw then unrawable else keywords).contains ident.name

theorem Ident.isLegal_plain_iff (name : String) :
    isLegal ⟨name,false⟩ = true ↔ wellFormed name = true ∧ name ∉ keywords := by
  simp [isLegal]

theorem Ident.isLegal_raw_iff (name : String) :
    isLegal ⟨name,true⟩ = true ↔ wellFormed name = true ∧ name ∉ unrawable := by
  simp [isLegal]

private theorem keyword_of_unrawable (name : String) (fixed : name ∈ unrawable) : name ∈ keywords := by
  have contained : ∀ name ∈ unrawable, name ∈ keywords := by decide
  exact contained name fixed

theorem Ident.isLegal_name (ident : Ident) (legal : ident.isLegal = true) :
    wellFormed ident.name = true ∧ ident.name ∉ unrawable := by
  obtain ⟨name,raw⟩ := ident
  cases raw with
  | true => exact (isLegal_raw_iff name).mp legal
  | false =>
    obtain ⟨formed,unreserved⟩ := (isLegal_plain_iff name).mp legal
    exact ⟨formed,fun fixed => unreserved (keyword_of_unrawable name fixed)⟩

private theorem parseIdent_ident (ident : Ident) (span : Span) :
    Grammar.parseIdent [⟨.ident ident,span⟩] =
      if ident.isKeyword then none else some ⟨.ident ident,span⟩ := by
  have view : Grammar.View.ident [⟨.ident ident,span⟩] = !ident.isKeyword := rfl
  rw [Grammar.parseIdent,Grammar.whole,Grammar.Parser.run_take,view]
  cases ident.isKeyword <;> rfl

private theorem plainIdent?_of_lex (text : String) (ident : Ident) (span : Span)
    (lexed : Lexer.lex text = some [⟨.ident ident,span⟩]) :
    plainIdent? text = if ident.isKeyword then none else some ident := by
  simp only [plainIdent?,lexed,Option.bind_eq_bind,Option.bind_some,parseIdent_ident]
  cases ident.isKeyword <;> rfl

private theorem plainIdent?_word (name : String) (formed : Ident.wellFormed name = true) :
    plainIdent? name = if name ∈ keywords then none else some ⟨name,false⟩ := by
  obtain ⟨span,lexed⟩ := lex_word name formed
  rw [plainIdent?_of_lex name _ span lexed]
  simp [Ident.isKeyword]

private theorem plainIdent?_malformed (name : String) (named : Settings.isName name.toList = true)
    (malformed : Ident.wellFormed name = false) : plainIdent? name = none := by
  have spelled : name.toList = Lexer.pathText false name [] := by
    simp [Lexer.pathText,Lexer.segmentText]
  have unlexed := lex_malformed name false name [] spelled (by simpa using named)
    (by simpa using malformed)
  simp only [plainIdent?,unlexed,Option.bind_eq_bind,Option.bind_none]

/-- An identifier is read back from its text. -/
theorem caseIdent_text (ident : Ident) (legal : ident.isLegal = true) :
    caseIdent ident.text = .ok ident := by
  obtain ⟨name,raw⟩ := ident
  cases raw with
  | false =>
    obtain ⟨formed,unreserved⟩ := (Ident.isLegal_plain_iff name).mp legal
    have read := plainIdent?_word name formed
    rw [if_neg unreserved] at read
    change caseIdent name = _
    rw [caseIdent,read]
  | true =>
    obtain ⟨formed,escapable⟩ := (Ident.isLegal_raw_iff name).mp legal
    obtain ⟨span,lexed⟩ := lex_rawWord name formed escapable
    have read : plainIdent? ("r#" ++ name) = some ⟨name,true⟩ :=
      plainIdent?_of_lex _ _ span lexed
    change caseIdent ("r#" ++ name) = _
    rw [caseIdent,read]

/-- A name is neither empty nor a number, whether it is spelled as an identifier or not. -/
private theorem ofName_of_solid (name : String) (c : Char) (letters : List Char)
    (split : name.toList = c :: letters) (solid : Text.isSolid c = true) :
    Ident.ofName name =
      if Ident.wellFormed name then .ok ⟨name,false⟩ else .error (.malformed name) := by
  have filled : name.isEmpty = false := by
    rw [Bool.eq_false_iff]
    intro empty
    rw [String.isEmpty_iff] at empty
    simp [empty] at split
  have number : name.toList.all Char.isDigit = false := by
    simp [split,Text.isDigit_of_solid c solid]
  simp only [Ident.ofName,filled,number,Bool.false_eq_true,if_false]

theorem caseIdent_formed (name : String) (formed : Ident.wellFormed name = true)
    (escapable : name ∉ unrawable) :
    caseIdent name = .ok ⟨name,keywords.contains name⟩ := by
  have words : ∀ name ∈ keywords, isWord name.toList = true := by decide
  rw [caseIdent,plainIdent?_word name formed]
  by_cases reserved : name ∈ keywords
  · obtain ⟨c,letters,split,start,_⟩ := (Lexer.wellFormed_iff name).mp formed
    have made := ofName_of_solid name c letters split (Text.isSolid_of_start c start)
    rw [if_pos formed] at made
    simp only [reserved,if_true,words name reserved,Ident.ofRawName,made]
    simp [escapable,reserved,bind,Except.bind,pure,Except.pure,Except.mapError]
  · simp [reserved]

/-- The settings admit names that no identifier can have. They pass for words here too, and are
found out only when an identifier is made of them. -/
theorem caseIdent_malformed (name : String) (named : Settings.isName name.toList = true)
    (malformed : Ident.wellFormed name = false) :
    caseIdent name = .error (.ident (.malformed name)) := by
  rw [caseIdent,plainIdent?_malformed name named malformed]
  cases split : name.toList with
  | nil => simp [split,Settings.isName] at named
  | cons c letters =>
    simp only [split,Settings.isName,Bool.and_eq_true] at named
    obtain ⟨⟨opening,_⟩,inside⟩ := named
    have word : isWord (c :: letters) = true := by
      rw [isWord,Bool.and_eq_true]
      exact ⟨opening,inside⟩
    have escapable : name ∉ unrawable := by
      intro fixed
      have formed : ∀ name ∈ unrawable, Ident.wellFormed name = true := by decide
      rw [formed name fixed] at malformed
      contradiction
    have made := ofName_of_solid name c letters split (Text.isSolid_of_nameStart c opening)
    rw [malformed] at made
    simp [word,escapable,Ident.ofRawName,made,bind,Except.bind,Except.mapError]

end CaseSynthesis
