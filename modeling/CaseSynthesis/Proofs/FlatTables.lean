import CaseSynthesis.Proofs.Readers
import CaseSynthesis.Toml.Reader
import Mathlib.Data.List.Nodup

/-! Tables of texts in configuration documents. A header and a line for each text are read as the
table that has each text under its key, provided that no key stands twice. Texts are written between
quotes as they are, so that they must not have a character that needs an escape. -/

namespace CaseSynthesis

namespace Toml

open Text Text.ReaderOf Text.Reader

def isPlain (c : Char) : Bool :=
  0x20 ≤ c.toNat && c.toNat != 0x7F && c != '"' && c != '\\'

theorem isPlain_iff (c : Char) :
    isPlain c = true ↔ 0x20 ≤ c.toNat ∧ c.toNat ≠ 0x7F ∧ c ≠ '"' ∧ c ≠ '\\' := by
  simp [isPlain,and_assoc]

private theorem isTextChar_of_plain (c : Char) (plain : isPlain c = true) : isTextChar c = true := by
  obtain ⟨shown,kept,_⟩ := (isPlain_iff c).mp plain
  simp [isTextChar,shown,kept]

def isBare (key : String) : Bool := !key.toList.isEmpty && key.toList.all isKeyChar

structure Field where
  key : String
  text : String
  bare : isBare key = true
  plain : ∀ c ∈ text.toList, isPlain c = true

namespace Field

def entry (field : Field) : String × Toml := (field.key,.string field.text)

def written (field : Field) : List Char :=
  field.key.toList ++ " = \"".toList ++ field.text.toList ++ "\"\n".toList

end Field

def tableText (name : String) (fields : List Field) : List Char :=
  '[' :: (name.toList ++ "]\n".toList ++ fields.flatMap Field.written)

section Strings

def basicRound (reversed : List Char) : Reader (List Char × Bool) := do
  match ← next with
  | '"' => return (reversed, false)
  | '\\' => return ((← escape) :: reversed, true)
  | c =>
    require (isTextChar c)
    return (c :: reversed, true)

private theorem basicRest_eq : basicRest = do return (← loop basicRound []).reverse := rfl

private theorem basicRound_plain (reversed : List Char) (c : Char) (rest : List Char)
    (plain : isPlain c = true) :
    basicRound reversed (c :: rest) = some ((c :: reversed,true),rest) := by
  obtain ⟨_,_,unquoted,unescaped⟩ := (isPlain_iff c).mp plain
  rw [basicRound,run_bind]
  simp only [next,Option.bind_some]
  rw [run_bind,run_require _ _ (isTextChar_of_plain c plain)]
  rfl

private theorem loop_basicRound (text rest reversed : List Char) (plain : ∀ c ∈ text, isPlain c = true) :
    loop basicRound reversed (text ++ '"' :: rest) =
      some (text.reverse ++ reversed,rest) := by
  induction text generalizing reversed with
  | nil => exact loop_stop basicRound reversed reversed _ rest rfl
  | cons c text ih =>
    have head := basicRound_plain reversed c (text ++ '"' :: rest) (plain c (by simp))
    rw [List.cons_append,loop_more basicRound _ _ _ _ head (by simp),
      ih (c :: reversed) fun later member => plain later (List.mem_cons_of_mem _ member)]
    simp

private theorem basicRest_plain (text rest : List Char) (plain : ∀ c ∈ text, isPlain c = true) :
    basicRest (text ++ '"' :: rest) = some (text,rest) := by
  rw [basicRest_eq,run_bind,loop_basicRound text rest [] plain,Option.bind_some,run_pure]
  simp

/-- Three quotes do not come from a text without quotes, unless one follows it. -/
private theorem quoted_plain (text rest : List Char) (plain : ∀ c ∈ text, isPlain c = true)
    (edge : rest.head? ≠ some '"') :
    quoted ('"' :: (text ++ '"' :: rest)) = some (text,rest) := by
  have single : accept "\"\"\"" ('"' :: (text ++ '"' :: rest)) =
      some (false,'"' :: (text ++ '"' :: rest)) := by
    cases text with
    | nil =>
      cases rest with
      | nil => rfl
      | cons c rest =>
        have other : '"' ≠ c := fun same => edge (by rw [← same]; rfl)
        simp [accept,other]
    | cons c text =>
      have other : '"' ≠ c := ((isPlain_iff c).mp (plain c (by simp))).2.2.1.symm
      simp [accept,other]
  rw [quoted,run_bind,single]
  exact basicRest_plain text rest plain

private theorem value_plain (text rest : List Char) (plain : ∀ c ∈ text, isPlain c = true)
    (edge : rest.head? ≠ some '"') :
    value nestingLimit ('"' :: (text ++ '"' :: rest)) =
      some (.string (String.ofList text),rest) := by
  have read := quoted_plain text rest plain edge
  change ((quoted _).bind fun found => some (Toml.string (String.ofList found.1),found.2)) = _
  rw [read]
  rfl

end Strings

section Lines

def keyRound (parts : List String) : Reader (List String × Bool) := do
  skipGap
  let part ← keyPart
  skipGap
  return (parts ++ [String.ofList part], ← accept ".")

private theorem key_eq : key = (do
    let parts ← loop keyRound []
    require (parts.length < nestingLimit)
    match parts.getLast? with
    | some last => return (parts.dropLast, last)
    | none => fail) := rfl

private theorem ne_of_keyChar (c sign : Char) (inside : isKeyChar c = true)
    (outside : isKeyChar sign = false) : c ≠ sign := by
  rintro rfl
  rw [inside] at outside
  contradiction

private theorem bare_cons (word : String) (bare : isBare word = true) :
    ∃ c rest, word.toList = c :: rest ∧ isKeyChar c = true := by
  simp only [isBare,Bool.and_eq_true,Bool.not_eq_true',List.all_eq_true] at bare
  obtain ⟨filled,kinds⟩ := bare
  cases spelled : word.toList with
  | nil => simp [spelled] at filled
  | cons c rest => exact ⟨c,rest,rfl,kinds c (by simp [spelled])⟩

private theorem skipGap_bare (word : String) (rest : List Char) (bare : isBare word = true) :
    skipGap (word.toList ++ rest) = some ((),word.toList ++ rest) := by
  obtain ⟨c,letters,spelled,inside⟩ := bare_cons word bare
  have solid : isGap c = false := by
    simp [isGap,ne_of_keyChar c ' ' inside rfl,ne_of_keyChar c '\t' inside rfl]
  rw [skipGap,skipWhile,spelled,List.cons_append,List.dropWhile_cons_of_neg (by simp [solid])]

private theorem keyPart_bare (word : String) (rest : List Char) (bare : isBare word = true)
    (edge : ∀ c ∈ rest.head?, isKeyChar c = false) :
    keyPart (word.toList ++ rest) = some (word.toList,rest) := by
  obtain ⟨c,letters,spelled,inside⟩ := bare_cons word bare
  have double : accept "\"" (word.toList ++ rest) = some (false,word.toList ++ rest) :=
    accept_other _ '"' _ rfl (by simp [spelled,ne_of_keyChar c '"' inside rfl])
  have single : accept "'" (word.toList ++ rest) = some (false,word.toList ++ rest) :=
    accept_other _ '\'' _ rfl (by simp [spelled,ne_of_keyChar c '\'' inside rfl])
  have taken : ∀ c ∈ word.toList, isKeyChar c = true := by
    simp only [isBare,Bool.and_eq_true,List.all_eq_true] at bare
    exact bare.2
  rw [keyPart,run_bind,double,Option.bind_some,if_neg Bool.false_ne_true,run_bind,single,
    Option.bind_some,if_neg Bool.false_ne_true]
  exact takeSome_append isKeyChar _ rest (by simp [spelled]) taken edge

/-- A key of one part, with the blanks after it. -/
private theorem key_bare (word : String) (rest : List Char) (bare : isBare word = true)
    (edge : ∀ c ∈ rest.head?, isKeyChar c = false)
    (last : (rest.dropWhile isGap).head? ≠ some '.') :
    key (word.toList ++ rest) = some (([],word),rest.dropWhile isGap) := by
  have undotted := accept_other "." '.' (rest.dropWhile isGap) rfl last
  have round : keyRound [] (word.toList ++ rest) =
      some (([word],false),rest.dropWhile isGap) := by
    rw [keyRound,run_bind,skipGap_bare word rest bare,Option.bind_some,run_bind,
      keyPart_bare word rest bare edge,Option.bind_some,run_bind,skipGap,skipWhile,
      Option.bind_some,run_bind,undotted,Option.bind_some,run_pure,String.ofList_toList]
    rfl
  rw [key_eq,run_bind,loop_stop keyRound _ _ _ _ round]
  rfl

private theorem line_header (name : String) (rest : List Char) (bare : isBare name = true) :
    line ('[' :: (name.toList ++ ']' :: '\n' :: rest)) = some (.header [] name,rest) := by
  obtain ⟨c,letters,spelled,inside⟩ := bare_cons name bare
  have single : accept "[[" ('[' :: (name.toList ++ ']' :: '\n' :: rest)) =
      some (false,'[' :: (name.toList ++ ']' :: '\n' :: rest)) := by
    simp [accept,spelled,(ne_of_keyChar c '[' inside rfl).symm]
  have named := key_bare name (']' :: '\n' :: rest) bare (by rintro c ⟨⟩; rfl) (by rintro ⟨⟩)
  rw [line,run_bind,single]
  change (key (name.toList ++ ']' :: '\n' :: rest)).bind _ = _
  rw [named]
  rfl

private theorem keyValue_field (field : Field) (rest : List Char) :
    keyValue (value nestingLimit) (field.written ++ rest) =
      some (([],field.key,.string field.text),'\n' :: rest) := by
  have spelled : field.written ++ rest =
      field.key.toList ++ ' ' :: '=' :: ' ' :: '"' :: (field.text.toList ++ '"' :: '\n' :: rest) := by
    simp [Field.written]
  have named := key_bare field.key
    (' ' :: '=' :: ' ' :: '"' :: (field.text.toList ++ '"' :: '\n' :: rest)) field.bare
    (by rintro c ⟨⟩; rfl) (by rintro ⟨⟩)
  have valued := value_plain field.text.toList ('\n' :: rest) field.plain (by rintro ⟨⟩)
  rw [String.ofList_toList] at valued
  rw [spelled,keyValue,run_bind,named]
  change (value nestingLimit ('"' :: (field.text.toList ++ '"' :: '\n' :: rest))).bind _ = _
  rw [valued]
  rfl

private theorem written_cons (field : Field) :
    ∃ c text, field.written = c :: text ∧ isKeyChar c = true := by
  obtain ⟨c,letters,spelled,inside⟩ := bare_cons field.key field.bare
  exact ⟨c,_,by rw [Field.written,spelled]; rfl,inside⟩

private theorem written_longer (field : Field) (rest : List Char) :
    rest.length < (field.written ++ rest).length := by
  obtain ⟨c,text,opened,_⟩ := written_cons field
  rw [opened,List.length_append,List.length_cons]
  omega

private theorem line_field (field : Field) (rest : List Char) :
    line (field.written ++ rest) = some (.entry [] field.key (.string field.text),rest) := by
  obtain ⟨c,text,opened,inside⟩ := written_cons field
  have other : (field.written ++ rest).head? ≠ some '[' := by
    simp [opened,ne_of_keyChar c '[' inside rfl]
  have element := accept_other "[[" '[' (field.written ++ rest) rfl other
  have header := accept_other "[" '[' (field.written ++ rest) rfl other
  rw [line,run_bind,element,Option.bind_some,if_neg Bool.false_ne_true,run_bind,header,
    Option.bind_some,if_neg Bool.false_ne_true,run_bind,keyValue_field field rest]
  rfl

end Lines

section Documents

def blankRound (_ : Unit) : Reader (Unit × Bool) := do
  let before ← get
  skipGap
  skipComment
  let _ ← acceptLineEnd
  let after ← get
  return ((), after.length < before.length)

private theorem skipLines_eq : skipLines = loop blankRound () := rfl

private theorem skipLines_newline (rest : List Char) : skipLines ('\n' :: rest) = skipLines rest := by
  have round : blankRound () ('\n' :: rest) = some (((),true),rest) := by
    change some (((),decide (rest.length < rest.length + 1)),rest) = _
    simp
  rw [skipLines_eq,loop_more blankRound () () _ rest round (by simp)]

private theorem skipLines_newlines (count : Nat) :
    skipLines (List.replicate count '\n') = some ((),[]) := by
  induction count with
  | zero => exact loop_stop blankRound () () [] [] rfl
  | succ count ih =>
    rw [List.replicate_succ,skipLines_newline]
    exact ih

private theorem skipLines_solid (c : Char) (rest : List Char) (solid : c ∉ [' ','\t','#','\n','\r']) :
    skipLines (c :: rest) = some ((),c :: rest) := by
  simp only [List.mem_cons,List.not_mem_nil,or_false,not_or] at solid
  obtain ⟨noBlank,noTab,noComment,noFeed,noReturn⟩ := solid
  have gap : skipGap (c :: rest) = some ((),c :: rest) := by
    simp [skipGap,skipWhile,isGap,noBlank,noTab]
  have comment : skipComment (c :: rest) = some ((),c :: rest) := by
    rw [skipComment,run_bind,accept_other "#" '#' _ rfl (by simpa using noComment)]
    rfl
  have lineEnd : acceptLineEnd (c :: rest) = some (false,c :: rest) := by
    rw [acceptLineEnd,run_bind,accept_other "\n" '\n' _ rfl (by simpa using noFeed)]
    exact accept_other "\r\n" '\r' _ rfl (by simpa using noReturn)
  have round : blankRound () (c :: rest) = some (((),false),c :: rest) := by
    simp only [blankRound,run_bind,run_get,run_pure,gap,comment,lineEnd,Option.bind_some]
    simp
  exact loop_stop blankRound () () _ _ round

private theorem find?_fresh (key : String) (entries : Entries) (fresh : key ∉ entries.map Prod.fst) :
    find? key entries = none := by
  rw [find?,Option.map_eq_none_iff,List.find?_eq_none]
  intro entry member same
  exact fresh (List.mem_map.mpr ⟨entry,member,eq_of_beq same⟩)

private theorem assign_fresh (key : String) (value : Toml) (entries : Entries)
    (fresh : key ∉ entries.map Prod.fst) : assign key value entries = entries ++ [(key,value)] := by
  induction entries with
  | nil => rfl
  | cons entry entries ih =>
    simp only [List.map_cons,List.mem_cons,not_or] at fresh
    obtain ⟨other,fresh⟩ := fresh
    simp [assign,Ne.symm other,ih fresh]

def Draft.ofTable (name : String) (entries : Entries) : Draft :=
  ⟨[(name,.table .header entries)],[name]⟩

private theorem add_header (name : String) :
    Draft.add {} (.header [] name) = some (.ofTable name []) := rfl

private theorem add_entry (name key : String) (value : Toml) (entries : Entries)
    (fresh : key ∉ entries.map Prod.fst) :
    (Draft.ofTable name entries).add (.entry [] key value) =
      some (.ofTable name (entries ++ [(key,value)])) := by
  have table : find? name [(name,Toml.table .header entries)] = some (.table .header entries) := by
    simp [find?]
  have inserted : insertKey [] key value .header entries = some (entries ++ [(key,value)]) := by
    rw [insertKey,updateAt,find?_fresh key entries fresh,assign_fresh key value entries fresh]
    rfl
  simp [Draft.add,Draft.ofTable,updateAt,table,inserted,assign]

def documentRound (draft : Draft) : Reader (Draft × Bool) := do
  skipLines
  if ← atEnd then return (draft, false)
  let line ← line
  match draft.add line with
  | some draft => return (draft, true)
  | none => fail

private theorem document_eq : document = do
    let _ ← accept "\ufeff"
    return (← loop documentRound {}).entries := rfl

private theorem documentRound_line (draft next : Draft) (said : Line) (c : Char) (text rest : List Char)
    (solid : c ∉ [' ','\t','#','\n','\r']) (read : line (c :: text) = some (said,rest))
    (added : draft.add said = some next) :
    documentRound draft (c :: text) = some ((next,true),rest) := by
  rw [documentRound,run_bind,skipLines_solid c text solid]
  change ((line (c :: text)).bind _) = _
  rw [read]
  simp only [Option.bind_some,added]
  rfl

private theorem documentRound_field (name : String) (entries : Entries) (field : Field) (rest : List Char)
    (fresh : field.key ∉ entries.map Prod.fst) :
    documentRound (.ofTable name entries) (field.written ++ rest) =
      some ((.ofTable name (entries ++ [field.entry]),true),rest) := by
  obtain ⟨c,text,opened,inside⟩ := written_cons field
  have read := line_field field rest
  rw [opened,List.cons_append] at read ⊢
  apply documentRound_line _ _ _ c _ rest _ read (add_entry name _ _ entries fresh)
  simp only [List.mem_cons,List.not_mem_nil,or_false,not_or]
  exact ⟨ne_of_keyChar c _ inside rfl,ne_of_keyChar c _ inside rfl,ne_of_keyChar c _ inside rfl,
    ne_of_keyChar c _ inside rfl,ne_of_keyChar c _ inside rfl⟩

private theorem documentRound_end (draft : Draft) (blanks : List Char)
    (blank : skipLines blanks = some ((),[])) :
    documentRound draft blanks = some ((draft,false),[]) := by
  rw [documentRound,run_bind,blank]
  rfl

/-- What the lines of fields say is added to the table, line by line. -/
private theorem loop_fields (name : String) (fields : List Field) (entries : Entries) (blanks : List Char)
    (blank : skipLines blanks = some ((),[]))
    (distinct : (entries.map Prod.fst ++ fields.map Field.key).Nodup) :
    loop documentRound (.ofTable name entries) (fields.flatMap Field.written ++ blanks) =
      some (.ofTable name (entries ++ fields.map Field.entry),[]) := by
  induction fields generalizing entries with
  | nil =>
    rw [List.map_nil,List.append_nil]
    exact loop_stop documentRound _ _ _ _ (documentRound_end _ blanks blank)
  | cons field fields ih =>
    have fresh : field.key ∉ entries.map Prod.fst := by
      intro listed
      exact List.disjoint_of_nodup_append distinct listed (by simp)
    have regrouped : ((entries ++ [field.entry]).map Prod.fst ++ fields.map Field.key).Nodup := by
      simpa [Field.entry] using distinct
    have round := documentRound_field name entries field (fields.flatMap Field.written ++ blanks)
      fresh
    rw [List.flatMap_cons,List.append_assoc,
      loop_more documentRound _ _ _ _ round (written_longer field _),ih _ regrouped]
    simp

/-- A header and the lines of fields are read as the table of the fields, whatever blank lines come
after them. -/
theorem parse?_table (name : String) (fields : List Field) (count : Nat) (bare : isBare name = true)
    (distinct : (fields.map Field.key).Nodup) :
    parse? (String.ofList (tableText name fields ++ List.replicate count '\n')) =
      some [(name,.table .header (fields.map Field.entry))] := by
  have opened := documentRound_line {} (.ofTable name []) _ '[' _
    (fields.flatMap Field.written ++ List.replicate count '\n') (by decide)
    (line_header name _ bare) (add_header name)
  have spelled : tableText name fields ++ List.replicate count '\n' =
      '[' :: (name.toList ++ ']' :: '\n' ::
        (fields.flatMap Field.written ++ List.replicate count '\n')) := by
    simp [tableText]
  have looped : loop documentRound {} (tableText name fields ++ List.replicate count '\n') =
      some (.ofTable name (fields.map Field.entry),[]) := by
    have shorter (rest : List Char) :
        rest.length < ('[' :: (name.toList ++ ']' :: '\n' :: rest)).length := by
      simp only [List.length_cons,List.length_append]
      omega
    rw [spelled,loop_more documentRound _ _ _ _ opened (shorter _),
      loop_fields name fields [] _ (skipLines_newlines count) (by simpa using distinct)]
    rfl
  have read : document (tableText name fields ++ List.replicate count '\n') =
      some ([(name,.table .header (fields.map Field.entry))],[]) := by
    have unmarked := accept_other "\ufeff" '\ufeff'
      (tableText name fields ++ List.replicate count '\n') rfl (by simp [tableText])
    rw [document_eq,run_bind,unmarked,Option.bind_some,run_bind,looped]
    rfl
  rw [parse?,whole,String.toList_ofList,read]

end Documents

end Toml

end CaseSynthesis
