import CaseSynthesis.Program.Reading
import CaseSynthesis.Proofs.Parsing

/-! Reading names and paths from text. -/

namespace CaseSynthesis

private theorem readPhrase_of_lex {α : Type} (parse : Lexemes → Option α) (text : String)
    (lexemes : Lexemes) (lexed : Lexer.lex text = some lexemes) :
    readPhrase parse text = match parse lexemes with
      | some phrase => .ok phrase
      | none => .error .notPhrase := by
  rw [readPhrase,readTokens,lexed]
  rfl

private theorem readPhrase_of_unlexed {α : Type} (parse : Lexemes → Option α) (text : String)
    (unlexed : Lexer.lex text = none) : readPhrase parse text = .error .notTokens := by
  rw [readPhrase,readTokens,unlexed]
  rfl

def isPathName (name : String) : Bool :=
  Ident.wellFormed name && Grammar.isSegment ⟨name,false⟩

section

variable (text : String) (global : Bool) (first : String) (rest : List String)
  (spelled : text.toList = Lexer.pathText global first rest)
  (named : ∀ name ∈ first :: rest, Settings.isName name.toList = true)

include spelled named

private theorem lex_path (formed : ∀ name ∈ first :: rest, Ident.wellFormed name = true) :
    ∃ found, Lexer.lex text = some found ∧ found.tokens = Lexer.pathTokens global first rest := by
  have unmarked := Lexer.unmarked_path global first rest (named first (by simp))
  have yields := Lexer.yields_path global first rest named formed
  rw [← spelled] at unmarked yields
  exact Lexer.lex_of_yields text _ unmarked yields (Lexer.pathTokens_flat global first rest)

theorem lex_malformed (malformed : ∃ name ∈ first :: rest, Ident.wellFormed name = false) :
    Lexer.lex text = none := by
  have unmarked := Lexer.unmarked_path global first rest (named first (by simp))
  have rejects := Lexer.rejects_path global first rest named malformed
  rw [← spelled] at unmarked rejects
  exact Lexer.lex_of_rejects text unmarked rejects

theorem readPath_read (usable : ∀ name ∈ first :: rest, isPathName name = true) :
    ∃ path, readPath text = .ok path ∧
      path.tokens.tokens = Lexer.pathTokens global first rest := by
  have parts : ∀ name ∈ first :: rest,
      Ident.wellFormed name = true ∧ Grammar.isSegment ⟨name,false⟩ = true := by
    simpa [isPathName] using usable
  obtain ⟨lexemes,lexed,tokens⟩ := lex_path text global first rest spelled named
    (fun name member => (parts name member).1)
  have parsed := Grammar.parsePath_tokens global first rest lexemes tokens
  rw [if_pos (fun name member => (parts name member).2)] at parsed
  obtain ⟨path,read,same⟩ := Option.map_eq_some_iff.mp parsed
  refine ⟨path,?_,same⟩
  rw [readPath,readPhrase_of_lex _ text lexemes lexed,read]

/-- A name with characters that identifiers lack is no token, and a keyword is no segment. -/
theorem readPath_fail (unusable : ∃ name ∈ first :: rest, isPathName name = false) :
    ∃ error, readPath text = .error error := by
  by_cases formed : ∀ name ∈ first :: rest, Ident.wellFormed name = true
  · obtain ⟨lexemes,lexed,tokens⟩ := lex_path text global first rest spelled named formed
    have parsed := Grammar.parsePath_tokens global first rest lexemes tokens
    have refused : ¬ ∀ name ∈ first :: rest, Grammar.isSegment ⟨name,false⟩ = true := by
      intro accepted
      obtain ⟨name,member,unusable⟩ := unusable
      simp [isPathName,formed name member,accepted name member] at unusable
    rw [if_neg refused] at parsed
    rw [readPath,readPhrase_of_lex _ text lexemes lexed,Option.map_eq_none_iff.mp parsed]
    exact ⟨_,rfl⟩
  · have malformed : ∃ name ∈ first :: rest, Ident.wellFormed name = false := by
      simpa only [not_forall,exists_prop,Bool.not_eq_true] using formed
    rw [readPath,readPhrase_of_unlexed _ text
      (lex_malformed text global first rest spelled named malformed)]
    exact ⟨_,rfl⟩

end

theorem readPath_word (name : String) (named : Settings.isName name.toList = true)
    (usable : isPathName name = true) : ∃ path, readPath name = .ok path := by
  have spelled : name.toList = Lexer.pathText false name [] := by
    simp [Lexer.pathText,Lexer.segmentText]
  obtain ⟨path,read,_⟩ := readPath_read name false name [] spelled (by simpa using named)
    (by simpa using usable)
  exact ⟨path,read⟩

theorem lex_word (name : String) (formed : Ident.wellFormed name = true) :
    ∃ span, Lexer.lex name = some [⟨.ident ⟨name,false⟩,span⟩] := by
  obtain ⟨c,letters,split,start,_⟩ := (Lexer.wellFormed_iff name).mp formed
  have other : c ≠ '\ufeff' :=
    Text.ne_of_solid c _ (Text.isSolid_of_start c start) rfl
  have stepped := Lexer.step_word name [] formed (by simp [Lexer.Ends])
  rw [List.append_nil] at stepped
  exact Lexer.lex_single name _ (by simpa [split] using other) stepped rfl

theorem lex_rawWord (name : String) (formed : Ident.wellFormed name = true)
    (escapable : name ∉ unrawable) :
    ∃ span, Lexer.lex ("r#" ++ name) = some [⟨.ident ⟨name,true⟩,span⟩] := by
  have spelled : ("r#" ++ name).toList = 'r' :: '#' :: name.toList := String.toList_append
  have stepped := Lexer.step_rawWord name [] formed escapable (by simp [Lexer.Ends])
  rw [List.append_nil,← spelled] at stepped
  exact Lexer.lex_single _ _ (by simp [spelled]) stepped rfl

theorem readType_word (name : String) (formed : Ident.wellFormed name = true)
    (unreserved : name ∉ keywords) :
    ∃ type, readType name = .ok type ∧ type.tokens.tokens = [.ident ⟨name,false⟩] := by
  obtain ⟨span,lexed⟩ := lex_word name formed
  obtain ⟨form,parsed⟩ := Grammar.parseType_ident ⟨name,false⟩ span
    (by simp [Ident.isKeyword,unreserved])
  refine ⟨⟨form,[⟨.ident ⟨name,false⟩,span⟩]⟩,?_,rfl⟩
  rw [readType,readPhrase_of_lex _ name _ lexed,parsed]

theorem readType_keyword (name : String) (formed : Ident.wellFormed name = true)
    (reserved : name ∈ keywords) (escapable : name ∉ unrawable) :
    readType name = .error .notPhrase := by
  obtain ⟨span,lexed⟩ := lex_word name formed
  rw [readType,readPhrase_of_lex _ name _ lexed,
    Grammar.parseType_keyword name span reserved escapable]

end CaseSynthesis
