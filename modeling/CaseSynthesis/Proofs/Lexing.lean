import CaseSynthesis.Proofs.Characters

/-! What the lexer makes of words and of colons. A word is read as a whole as long as all of it is
made of the characters of identifiers, and at any other letter or numeral the lexer gives up. -/

namespace CaseSynthesis.Lexer

def Yields (input : List Char) (tokens : List Token) : Prop :=
  ∀ position, ∃ found, lexemes position input = some found ∧ Lexemes.tokens found = tokens

def Rejects (input : List Char) : Prop := ∀ position, lexemes position input = none

theorem yields_nil : Yields [] [] := by
  intro position
  rw [lexemes]
  exact ⟨[],rfl,rfl⟩

theorem lexemes_step (position : Position) (input rest : List Char) (tokens : List Token)
    (stepped : step input = some (tokens,rest)) (shorter : rest.length < input.length) :
    ∃ span stop, lexemes position input =
      (lexemes stop rest).map (tokens.map (fun token => ⟨token,span⟩) ++ ·) := by
  have filled : input.isEmpty = false := by
    cases input with
    | nil => simp at shorter
    | cons c input => rfl
  rw [lexemes]
  simp only [filled,stepped,shorter,if_true,Bool.false_eq_true,if_false]
  exact ⟨_,_,rfl⟩

private theorem yields_cons (input rest : List Char) (token : Token) (tokens : List Token)
    (stepped : step input = some ([token],rest)) (shorter : rest.length < input.length)
    (follow : Yields rest tokens) : Yields input (token :: tokens) := by
  intro position
  obtain ⟨span,stop,unfolded⟩ := lexemes_step position input rest [token] stepped shorter
  obtain ⟨found,read,rfl⟩ := follow stop
  rw [unfolded,read]
  exact ⟨_,rfl,rfl⟩

private theorem rejects_of_step (input : List Char) (filled : input ≠ []) (failed : step input = none) :
    Rejects input := by
  intro position
  rw [lexemes]
  simp [filled,failed]

private theorem rejects_cons (input rest : List Char) (token : Token)
    (stepped : step input = some ([token],rest)) (shorter : rest.length < input.length)
    (follow : Rejects rest) : Rejects input := by
  intro position
  obtain ⟨span,stop,unfolded⟩ := lexemes_step position input rest [token] stepped shorter
  rw [unfolded,follow stop]
  rfl

def Unquoted (input : List Char) : Prop :=
  ∀ c ∈ (input.dropWhile Text.isIdentifierContinue).head?, c ∉ ['"','\'','#']

private theorem unquoted_letter (c : Char) (rest : List Char) (letter : Text.isIdentifierContinue c = true)
    (unquoted : Unquoted (c :: rest)) : Unquoted rest := by
  unfold Unquoted at unquoted ⊢
  rwa [List.dropWhile_cons_of_pos letter] at unquoted

private theorem unmarked_of_letter (c : Char) (letter : Text.isIdentifierContinue c = true) :
    c ∉ ['"','\'','#'] := by
  intro sign
  have signs : ['"','\'','#'].all (fun c => !Text.isIdentifierContinue c) = true := rfl
  simpa [letter] using List.all_eq_true.mp signs c sign

private theorem not_unquoted (sign : Char) (rest : List Char) (quote : sign ∈ ['"','\'','#']) :
    ¬ Unquoted (sign :: rest) := by
  intro unquoted
  apply unquoted sign _ quote
  rw [List.dropWhile_cons_of_neg fun letter => unmarked_of_letter sign letter quote]
  rfl

private theorem readHashed_of_unquoted (kind : StringLiteral.Kind) (input : List Char)
    (unquoted : Unquoted input) : StringLiteral.readHashed kind input = none := by
  cases input with
  | nil => rfl
  | cons c rest =>
    have noHash : c ≠ '#' := by
      rintro rfl
      exact not_unquoted _ rest (by decide) unquoted
    have noQuote : c ≠ '"' := by
      rintro rfl
      exact not_unquoted _ rest (by decide) unquoted
    simp [StringLiteral.readHashed,noHash,noQuote]

private theorem afterQuoted_of_unquoted (input : List Char) (unquoted : Unquoted input) :
    afterQuoted input = none := by
  have letters : ['b','c','r'].all Text.isIdentifierContinue = true := rfl
  have next (c : Char) (rest : List Char) (letter : c ∈ ['b','c','r'])
      (unquoted : Unquoted (c :: rest)) : Unquoted rest :=
    unquoted_letter c rest (List.all_eq_true.mp letters c letter) unquoted
  unfold afterQuoted
  split
  -- A quote, or a letter and a quote.
  · exact absurd unquoted (not_unquoted _ _ (by decide))
  · exact absurd (next _ _ (by decide) unquoted) (not_unquoted _ _ (by decide))
  · exact absurd (next _ _ (by decide) unquoted) (not_unquoted _ _ (by decide))
  · exact absurd (next _ _ (by decide) unquoted) (not_unquoted _ _ (by decide))
  -- The letters of a raw literal, without its hashes and quote.
  · have tail := next _ _ (by decide) (next _ _ (by decide) unquoted)
    simp only [readHashed_of_unquoted _ _ tail,Option.map_none]
  · have tail := next _ _ (by decide) (next _ _ (by decide) unquoted)
    simp only [readHashed_of_unquoted _ _ tail,Option.map_none]
  · have tail := next _ _ (by decide) unquoted
    simp only [readHashed_of_unquoted _ _ tail,Option.map_none]
  · exact absurd unquoted (not_unquoted _ _ (by decide))
  · rfl

private theorem hexDigit_of_solid (c : Char) (digit : Nat) (solid : Text.isSolid c = true)
    (found : Text.hexDigit? c = some digit) : 10 ≤ digit := by
  have decimal : ¬ ('0' ≤ c ∧ c ≤ '9') := by
    rintro ⟨low,high⟩
    have digit : c.isDigit = true := by
      simp only [Char.isDigit,Bool.and_eq_true,decide_eq_true_eq]
      exact ⟨low,high⟩
    rw [Text.isDigit_of_solid c solid] at digit
    contradiction
  rw [Text.hexDigit?,if_neg decimal] at found
  split at found
  · simp only [Option.some.injEq] at found
    omega
  · split at found
    · simp only [Option.some.injEq] at found
      omega
    · contradiction

private theorem numberScan_of_solid (c : Char) (rest : List Char) (solid : Text.isSolid c = true) :
    Number.scan (c :: rest) = none := by
  have digit := Text.isDigit_of_solid c solid
  have zero : c ≠ '0' := Text.ne_of_solid c '0' solid (by decide)
  have decimal : Number.radix (c :: rest) = (10,c :: rest) := by
    simp [Number.radix,zero]
  have float : Number.floatDigits (c :: rest) = none := by
    simp [Number.floatDigits,digit]
  have integer : Number.integerDigits (c :: rest) = none := by
    simp only [Number.integerDigits,decimal,Number.digitsRest]
    by_cases underscore : c = '_'
    · simp [underscore]
    · cases found : Text.hexDigit? c with
      | none => simp [underscore]
      | some value =>
        have large := hexDigit_of_solid c value solid found
        simp [underscore,Nat.not_lt.mpr large]
  simp [Number.scan,float,integer]

private theorem ident_of_unquoted (input : List Char) (unquoted : Unquoted input) :
    ident input = (Ident.scan input).map fun (name,rest) =>
      (.ident ⟨String.ofList name,false⟩,rest) := by
  -- Every opener comes to a quote or hash after nothing but letters.
  have openers : literalOpeners.all (fun opener =>
      (opener.toList.dropWhile Text.isIdentifierContinue).head?.any
        (['"','\'','#'].contains ·)) = true := rfl
  have plain : literalOpeners.any (startsWith · input) = false := by
    rw [List.any_eq_false]
    intro opener listed starts
    have marked := List.all_eq_true.mp openers opener listed
    obtain ⟨rest,rfl⟩ := List.isPrefixOf_iff_prefix.mp starts
    cases left : opener.toList.dropWhile Text.isIdentifierContinue with
    | nil => simp [left] at marked
    | cons sign more =>
      apply unquoted sign _ (by simpa [left] using marked)
      simp [List.dropWhile_append,left]
  have unescaped : anyIdent input = (Ident.scan input).map fun (name,rest) =>
      (⟨String.ofList name,false⟩,rest) := by
    unfold anyIdent
    split
    · have tail := unquoted_letter _ _ (by decide) unquoted
      exact absurd tail (not_unquoted _ _ (by decide))
    · rfl
  rw [ident,plain,unescaped,Option.map_map]
  rfl

theorem isPunct_of_solid (c : Char) (solid : Text.isSolid c = true) : isPunct c = false := by
  have signs : "~!@#$%^&*-=+|;:,<.>/?'".toList.all (fun sign => !Text.isSolid sign) = true := rfl
  rw [isPunct,Bool.eq_false_iff]
  intro listed
  simpa [solid] using List.all_eq_true.mp signs c (List.contains_iff_mem.mp listed)

private theorem delimiter_of_solid (c : Char) (solid : Text.isSolid c = true) : delimiter? c = none := by
  unfold delimiter?
  split
  case h_7 => rfl
  all_goals contradiction

/-- At a solid character that no literal starts with, only an identifier can stand. -/
private theorem step_of_solid (c : Char) (rest : List Char) (solid : Text.isSolid c = true)
    (unquoted : Unquoted (c :: rest)) :
    step (c :: rest) = (Ident.scan (c :: rest)).map fun (name,rest) =>
      ([.ident ⟨String.ofList name,false⟩],rest) := by
  have gap := Text.isGap_of_solid c solid
  have slash : c ≠ '/' := Text.ne_of_solid c '/' solid (by decide)
  have quote : c ≠ '\'' := Text.ne_of_solid c '\'' solid (by decide)
  have comment : opensComment (c :: rest) = false := by
    simp [opensComment,startsWith,List.isPrefixOf,slash.symm]
  have delimiter := delimiter_of_solid c solid
  have sign : punct (c :: rest) = none := by
    rw [punct.eq_2 c rest quote]
    simp [opensPunct,isPunct_of_solid c solid]
  have number := numberScan_of_solid c rest solid
  have quoted := afterQuoted_of_unquoted _ unquoted
  have other : token (c :: rest) = ident (c :: rest) := by
    simp [token,literal,quoted,number,sign]
  simp only [step,gap,comment,delimiter,other,ident_of_unquoted _ unquoted,Option.map_map]
  rfl

def Ends (tail : List Char) : Prop :=
  ∀ c ∈ tail.head?, Text.isIdentifierContinue c = false ∧ c ∉ ['"','\'','#']

private theorem dropWhile_of_ends (tail : List Char) (ended : Ends tail) :
    tail.dropWhile Text.isIdentifierContinue = tail := by
  cases tail with
  | nil => rfl
  | cons c rest => exact List.dropWhile_cons_of_neg (by simp [ended c rfl])

private theorem takeWhile_of_ends (tail : List Char) (ended : Ends tail) :
    tail.takeWhile Text.isIdentifierContinue = [] := by
  cases tail with
  | nil => rfl
  | cons c rest => exact List.takeWhile_cons_of_neg (by simp [ended c rfl])

private theorem unquoted_append (letters tail : List Char) (unmarked : ∀ c ∈ letters, c ∉ ['"','\'','#'])
    (ended : Ends tail) : Unquoted (letters ++ tail) := by
  intro c first
  rw [List.dropWhile_append,dropWhile_of_ends tail ended] at first
  cases left : letters.dropWhile Text.isIdentifierContinue with
  | nil =>
    rw [left] at first
    exact (ended c first).2
  | cons d more =>
    rw [left] at first
    have same : d = c := by simpa using first
    have member : d ∈ letters := by
      apply (List.dropWhile_sublist Text.isIdentifierContinue).subset
      simp [left]
    exact same ▸ unmarked d member

theorem scan_append (c : Char) (letters tail : List Char)
    (start : Text.isIdentifierStart c = true)
    (letter : ∀ c ∈ letters, Text.isIdentifierContinue c = true) (ended : Ends tail) :
    Ident.scan (c :: letters ++ tail) = some (c :: letters,tail) := by
  rw [List.cons_append,Ident.scan,if_pos start,List.takeWhile_append_of_pos letter,
    List.dropWhile_append_of_pos letter,takeWhile_of_ends tail ended,dropWhile_of_ends tail ended,
    List.append_nil]

theorem wellFormed_iff (name : String) :
    Ident.wellFormed name = true ↔ ∃ c letters, name.toList = c :: letters ∧
      Text.isIdentifierStart c = true ∧ ∀ c ∈ letters, Text.isIdentifierContinue c = true := by
  unfold Ident.wellFormed
  cases name.toList with
  | nil => simp
  | cons c letters =>
    constructor
    · intro formed
      exact ⟨c,letters,rfl,by simpa using formed⟩
    · rintro ⟨_,_,⟨rfl,rfl⟩,formed⟩
      simpa using formed

theorem step_word (name : String) (tail : List Char) (formed : Ident.wellFormed name = true)
    (ended : Ends tail) : step (name.toList ++ tail) = some ([.ident ⟨name,false⟩],tail) := by
  obtain ⟨c,letters,split,start,letter⟩ := (wellFormed_iff name).mp formed
  have unmarked : ∀ d ∈ c :: letters, d ∉ ['"','\'','#'] := by
    intro d member
    apply unmarked_of_letter
    rcases List.mem_cons.mp member with rfl | inside
    · exact Text.isIdentifierContinue_of_start d start
    · exact letter d inside
  have unquoted : Unquoted (c :: (letters ++ tail)) :=
    unquoted_append (c :: letters) tail unmarked ended
  rw [split,List.cons_append,step_of_solid c _ (Text.isSolid_of_start c start) unquoted,
    ← List.cons_append,scan_append c letters tail start letter ended,← split]
  simp only [Option.map_some,String.ofList_toList]

/-- After the mark of a raw identifier, a letter cannot open a raw string. -/
theorem step_rawWord (name : String) (tail : List Char) (formed : Ident.wellFormed name = true)
    (escapable : name ∉ unrawable) (ended : Ends tail) :
    step ('r' :: '#' :: name.toList ++ tail) = some ([.ident ⟨name,true⟩],tail) := by
  obtain ⟨c,letters,split,start,letter⟩ := (wellFormed_iff name).mp formed
  have solid := Text.isSolid_of_start c start
  have noHash : c ≠ '#' := Text.ne_of_solid c '#' solid (by decide)
  have noQuote : c ≠ '"' := Text.ne_of_solid c '"' solid (by decide)
  have scanned := scan_append c letters tail start letter ended
  have quoted : afterQuoted ('r' :: '#' :: c :: (letters ++ tail)) = none := by
    simp [afterQuoted,StringLiteral.readHashed,noHash,noQuote]
  have number := numberScan_of_solid 'r' ('#' :: c :: (letters ++ tail)) (by decide)
  have plain : literalOpeners.any (startsWith · ('r' :: '#' :: c :: (letters ++ tail))) = false := by
    simp [literalOpeners,startsWith,List.isPrefixOf,noHash.symm,noQuote.symm]
  have read : ident ('r' :: '#' :: c :: (letters ++ tail)) = some (.ident ⟨name,true⟩,tail) := by
    rw [ident,plain,anyIdent,← List.cons_append,scanned,← split]
    simp [escapable]
  have other : token ('r' :: '#' :: c :: (letters ++ tail)) =
      ident ('r' :: '#' :: c :: (letters ++ tail)) := by
    simp only [token,literal,quoted,number]
    rfl
  rw [split,List.cons_append,List.cons_append,List.cons_append]
  change (token ('r' :: '#' :: c :: (letters ++ tail))).map _ = _
  rw [other,read]
  rfl

private theorem length_lt_word (name : String) (tail : List Char) (formed : Ident.wellFormed name = true) :
    tail.length < (name.toList ++ tail).length := by
  obtain ⟨c,letters,split,_⟩ := (wellFormed_iff name).mp formed
  rw [split,List.cons_append,List.length_cons,List.length_append]
  omega

/-- A well-formed word is one identifier, keyword or not. -/
private theorem yields_word (name : String) (tail : List Char) (tokens : List Token)
    (formed : Ident.wellFormed name = true) (ended : Ends tail) (follow : Yields tail tokens) :
    Yields (name.toList ++ tail) (.ident ⟨name,false⟩ :: tokens) := by
  exact yields_cons _ tail _ _ (step_word name tail formed ended) (length_lt_word name tail formed)
    follow

private theorem unmarked_of_named (c : Char) (named : Settings.isNameChar c = true) :
    c ∉ ['"','\'','#'] := by
  intro sign
  have signs : ['"','\'','#'].all (fun c => !Settings.isNameChar c) = true := rfl
  simpa [named] using List.all_eq_true.mp signs c sign

private theorem ends_of_stray (c : Char) (rest : List Char) (named : Settings.isNameChar c = true)
    (stray : Text.isIdentifierContinue c = false) : Ends (c :: rest) := by
  intro d first
  have same : c = d := by simpa using first
  exact same ▸ ⟨stray,unmarked_of_named c named⟩

/-- At a character that the settings admit in a name and the lexer does not, nothing is read. -/
private theorem rejects_stray (c : Char) (rest : List Char) (named : Settings.isNameChar c = true)
    (stray : Text.isIdentifierContinue c = false) : Rejects (c :: rest) := by
  have unquoted := unquoted_append [] (c :: rest) (by simp) (ends_of_stray c rest named stray)
  have start : Text.isIdentifierStart c = false := by
    rw [Bool.eq_false_iff]
    intro start
    rw [Text.isIdentifierContinue_of_start c start] at stray
    contradiction
  apply rejects_of_step _ (by simp)
  rw [step_of_solid c rest (Text.isSolid_of_stray c named stray) unquoted]
  simp [Ident.scan,start]

private theorem split_at_stray (letters : List Char)
    (malformed : letters.all Text.isIdentifierContinue = false) :
    ∃ before d after, letters = before ++ d :: after ∧
      (∀ c ∈ before, Text.isIdentifierContinue c = true) ∧ Text.isIdentifierContinue d = false := by
  induction letters with
  | nil => simp at malformed
  | cons c letters ih =>
    cases letter : Text.isIdentifierContinue c with
    | false => exact ⟨[],c,letters,rfl,by simp,letter⟩
    | true =>
      obtain ⟨before,d,after,rfl,all,stray⟩ := ih (by simpa [letter] using malformed)
      exact ⟨c :: before,d,after,rfl,by simpa [letter] using all,stray⟩

/-- A name with a character that no identifier has there is not read, whatever it is followed by. -/
private theorem rejects_malformed (name : String) (tail : List Char)
    (named : Settings.isName name.toList = true) (malformed : Ident.wellFormed name = false)
    (ended : Ends tail) : Rejects (name.toList ++ tail) := by
  unfold Ident.wellFormed at malformed
  cases split : name.toList with
  | nil => simp [split,Settings.isName] at named
  | cons c letters =>
    simp only [split,Settings.isName,Bool.and_eq_true,List.all_eq_true] at named
    obtain ⟨⟨opening,_⟩,inside⟩ := named
    have unmarked : ∀ d ∈ c :: letters, d ∉ ['"','\'','#'] := by
      intro d member
      apply unmarked_of_named
      rcases List.mem_cons.mp member with rfl | later
      · exact Settings.isNameChar_of_start d opening
      · exact inside d later
    have unquoted : Unquoted (c :: (letters ++ tail)) :=
      unquoted_append (c :: letters) tail unmarked ended
    have stepped := step_of_solid c _ (Text.isSolid_of_nameStart c opening) unquoted
    by_cases start : Text.isIdentifierStart c = true
    · -- The identifier is read up to the first character that it cannot have.
      simp only [split,start,Bool.true_and] at malformed
      obtain ⟨before,d,after,rfl,letter,stray⟩ := split_at_stray letters malformed
      have named : Settings.isNameChar d = true := inside d (by simp)
      have stopped : Ends (d :: (after ++ tail)) := ends_of_stray d _ named stray
      rw [List.append_assoc,List.cons_append,← List.cons_append,
        scan_append c before _ start letter stopped,Option.map_some] at stepped
      rw [List.cons_append,List.append_assoc,List.cons_append]
      apply rejects_cons _ _ _ stepped
      · simp only [List.length_cons,List.length_append]
        omega
      · exact rejects_stray d _ named stray
    · apply rejects_of_step _ (by simp)
      rw [List.cons_append,stepped]
      simp [Ident.scan,start]

private theorem step_firstColon (rest : List Char) :
    step (':' :: ':' :: rest) = some ([.punct ':' true],':' :: rest) := rfl

private theorem step_lastColon (c : Char) (rest : List Char) (solid : Text.isSolid c = true) :
    step (':' :: c :: rest) = some ([.punct ':' false],c :: rest) := by
  have apart : opensPunct (c :: rest) = false := by
    simp [opensPunct,isPunct_of_solid c solid]
  change some ([Token.punct ':' (opensPunct (c :: rest))],c :: rest) = _
  rw [apart]

def segmentText (names : List String) : List Char :=
  names.flatMap fun name => ':' :: ':' :: name.toList

def segmentTokens (names : List String) : List Token :=
  names.flatMap fun name => [.punct ':' true,.punct ':' false,.ident ⟨name,false⟩]

private theorem ends_segmentText (names : List String) : Ends (segmentText names) := by
  cases names with
  | nil => simp [Ends,segmentText]
  | cons name names =>
    intro c first
    have colon : ':' = c := by simpa [segmentText] using first
    rw [← colon]
    decide

private theorem step_colons (name : String) (rest : List Char) (named : Settings.isName name.toList = true) :
    step (':' :: name.toList ++ rest) = some ([.punct ':' false],name.toList ++ rest) := by
  cases split : name.toList with
  | nil => simp [split,Settings.isName] at named
  | cons c letters =>
    simp only [split,Settings.isName,Bool.and_eq_true] at named
    exact step_lastColon c _ (Text.isSolid_of_nameStart c named.1.1)

private theorem yields_segments (names : List String)
    (named : ∀ name ∈ names, Settings.isName name.toList = true)
    (formed : ∀ name ∈ names, Ident.wellFormed name = true) :
    Yields (segmentText names) (segmentTokens names) := by
  induction names with
  | nil => exact yields_nil
  | cons name names ih =>
    have follow := ih (fun other member => named other (by simp [member]))
      (fun other member => formed other (by simp [member]))
    have word := yields_word name _ _ (formed name (by simp)) (ends_segmentText names) follow
    have second := step_colons name (segmentText names) (named name (by simp))
    apply yields_cons _ _ _ _ (step_firstColon _) (by simp)
    apply yields_cons _ _ _ _ second (by simp)
    exact word

private theorem rejects_word (name : String) (names : List String)
    (named : Settings.isName name.toList = true)
    (malformed : ∃ other ∈ name :: names, Ident.wellFormed other = false)
    (follow : (∃ other ∈ names, Ident.wellFormed other = false) → Rejects (segmentText names)) :
    Rejects (name.toList ++ segmentText names) := by
  cases formed : Ident.wellFormed name with
  | false => exact rejects_malformed name _ named formed (ends_segmentText names)
  | true =>
    have later : ∃ other ∈ names, Ident.wellFormed other = false := by
      simpa [formed] using malformed
    apply rejects_cons _ _ _ (step_word name _ formed (ends_segmentText names)) _ (follow later)
    exact length_lt_word name _ formed

/-- One malformed name among others is enough for the text not to be read. -/
private theorem rejects_segments (names : List String)
    (named : ∀ name ∈ names, Settings.isName name.toList = true)
    (malformed : ∃ name ∈ names, Ident.wellFormed name = false) :
    Rejects (segmentText names) := by
  induction names with
  | nil => simp at malformed
  | cons name names ih =>
    have second := step_colons name (segmentText names) (named name (by simp))
    apply rejects_cons _ _ _ (step_firstColon _) (by simp)
    apply rejects_cons _ _ _ second (by simp)
    apply rejects_word name names (named name (by simp)) malformed
    exact ih (fun other member => named other (by simp [member]))

def pathText (global : Bool) (first : String) (rest : List String) : List Char :=
  if global then segmentText (first :: rest) else first.toList ++ segmentText rest

def pathTokens (global : Bool) (first : String) (rest : List String) : List Token :=
  if global then segmentTokens (first :: rest) else .ident ⟨first,false⟩ :: segmentTokens rest

theorem yields_path (global : Bool) (first : String) (rest : List String)
    (named : ∀ name ∈ first :: rest, Settings.isName name.toList = true)
    (formed : ∀ name ∈ first :: rest, Ident.wellFormed name = true) :
    Yields (pathText global first rest) (pathTokens global first rest) := by
  cases global with
  | true => exact yields_segments (first :: rest) named formed
  | false =>
    rw [List.forall_mem_cons] at named formed
    have follow := yields_segments rest named.2 formed.2
    exact yields_word first _ _ formed.1 (ends_segmentText rest) follow

theorem rejects_path (global : Bool) (first : String) (rest : List String)
    (named : ∀ name ∈ first :: rest, Settings.isName name.toList = true)
    (malformed : ∃ name ∈ first :: rest, Ident.wellFormed name = false) :
    Rejects (pathText global first rest) := by
  cases global with
  | true => exact rejects_segments (first :: rest) named malformed
  | false =>
    rw [List.forall_mem_cons] at named
    exact rejects_word first rest named.1 malformed (rejects_segments rest named.2)

/-- A byte order mark would be skipped, but no path starts with one. -/
theorem unmarked_path (global : Bool) (first : String) (rest : List String)
    (named : Settings.isName first.toList = true) :
    (pathText global first rest).head? ≠ some '\ufeff' := by
  cases global with
  | true => simp [pathText,segmentText]
  | false =>
    cases split : first.toList with
    | nil => simp [split,Settings.isName] at named
    | cons c letters =>
      simp only [split,Settings.isName,Bool.and_eq_true] at named
      have solid := Text.isSolid_of_nameStart c named.1.1
      have other : c ≠ '\ufeff' := Text.ne_of_solid c _ solid rfl
      simpa [pathText,split] using other

def isFlat : Token → Bool
  | .opening _ | .closing _ => false
  | _ => true

private theorem balanced_flat (tokens : List Token) (flat : ∀ token ∈ tokens, isFlat token = true) :
    balanced [] tokens = true := by
  induction tokens with
  | nil => rfl
  | cons token tokens ih =>
    have rest := ih (fun other member => flat other (by simp [member]))
    have head := flat token (by simp)
    cases token with
    | opening delimiter => contradiction
    | closing delimiter => contradiction
    | _ => exact rest

private theorem segmentTokens_flat (names : List String) :
    ∀ token ∈ segmentTokens names, isFlat token = true := by
  intro token member
  obtain ⟨name,_,part⟩ := List.mem_flatMap.mp member
  simp only [List.mem_cons,List.not_mem_nil,or_false] at part
  rcases part with rfl | rfl | rfl <;> rfl

theorem pathTokens_flat (global : Bool) (first : String) (rest : List String) :
    ∀ token ∈ pathTokens global first rest, isFlat token = true := by
  cases global with
  | true => exact segmentTokens_flat (first :: rest)
  | false =>
    rw [pathTokens,if_neg (by simp),List.forall_mem_cons]
    exact ⟨rfl,segmentTokens_flat rest⟩

theorem lex_of_yields (source : String) (tokens : List Token)
    (unmarked : source.toList.head? ≠ some '\ufeff') (yields : Yields source.toList tokens)
    (flat : ∀ token ∈ tokens, isFlat token = true) :
    ∃ found, lex source = some found ∧ Lexemes.tokens found = tokens := by
  obtain ⟨found,read,rfl⟩ := yields .start
  refine ⟨found,?_,rfl⟩
  unfold lex
  split
  · rename_i marked
    simp [marked] at unmarked
  · simp [read,balanced_flat _ flat]

/-- A text that is one token. -/
theorem lex_single (source : String) (token : Token)
    (unmarked : source.toList.head? ≠ some '\ufeff')
    (stepped : step source.toList = some ([token],[])) (flat : isFlat token = true) :
    ∃ span, lex source = some [⟨token,span⟩] := by
  have filled : source.toList ≠ [] := by
    intro empty
    simp [empty,step] at stepped
  have shorter : 0 < source.toList.length := List.length_pos_iff.mpr filled
  have yields := yields_cons _ _ _ _ stepped shorter yields_nil
  obtain ⟨found,lexed,tokens⟩ := lex_of_yields source _ unmarked yields (by simpa using flat)
  obtain ⟨⟨_,span⟩,_,rfl,rfl,none⟩ := List.map_eq_cons_iff.mp tokens
  rw [List.map_eq_nil_iff.mp none] at lexed
  exact ⟨span,lexed⟩

theorem lex_of_rejects (source : String) (unmarked : source.toList.head? ≠ some '\ufeff')
    (rejects : Rejects source.toList) : lex source = none := by
  unfold lex
  split
  · rename_i marked
    simp [marked] at unmarked
  · simp [rejects .start]

end CaseSynthesis.Lexer
