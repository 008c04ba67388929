import CaseSynthesis.Proofs.Expansion
import CaseSynthesis.Proofs.Identifiers

/-! The type that conformances are written for. The enum and its methods keep the identifier of the
enum as it stands, while the conformances get its name alone, which is read as a type anew. The two
meet as long as the name is no keyword. -/

namespace CaseSynthesis

open Rendering

private theorem typeTokens_word (name : String) (formed : Ident.wellFormed name = true)
    (unreserved : name ∉ keywords) : typeTokens ⟨name⟩ = .ok [.ident ⟨name,false⟩] := by
  obtain ⟨type,read,tokens⟩ := readType_word name formed unreserved
  rw [typeTokens,read,← tokens]

private theorem typeTokens_keyword (name : String) (formed : Ident.wellFormed name = true)
    (reserved : name ∈ keywords) (escapable : name ∉ unrawable) :
    typeTokens ⟨name⟩ = .error (.invalidType name) := by
  rw [typeTokens,readType_keyword name formed reserved escapable]

theorem caseNames_enum (item : Grammar.EnumItem) :
    Grammar.Item.caseNames (.enum item) = item.ownVariants.map Grammar.Variant.caseName := by
  change (((item.toDecl none).members.flatMap Member.elements).map CaseElement.name) = _
  rw [Grammar.EnumItem.toDecl,List.flatMap_map,List.map_flatMap,Grammar.EnumItem.ownVariants,
    List.map_map,List.map_eq_flatMap]
  rfl

structure Lexeme.Declares (lexeme : Lexeme) (ident : Ident) : Prop where
  token : lexeme.token = .ident ident
  legal : ident.isLegal = true

theorem Lexeme.Declares.name_eq {lexeme : Lexeme} {ident : Ident}
    (declared : lexeme.Declares ident) : lexeme.name = ident.name := by
  rw [Lexeme.name,declared.token]

private theorem isWritable_name (ident : Ident) (legal : ident.isLegal = true) :
    isWritable ident.name = true := by
  obtain ⟨formed,escapable⟩ := ident.isLegal_name legal
  rw [isWritable,caseIdent_formed ident.name formed escapable]
  rfl

/-- All names of an enum can be written if a program can declare them. -/
theorem isWritable_caseNames (item : Grammar.EnumItem)
    (cases : ∀ variant ∈ item.ownVariants, ∃ ident, variant.name.Declares ident) :
    ∀ name ∈ Grammar.Item.caseNames (.enum item), isWritable name = true := by
  intro name listed
  rw [caseNames_enum] at listed
  obtain ⟨variant,member,rfl⟩ := List.mem_map.mp listed
  obtain ⟨ident,declared⟩ := cases variant member
  rw [Grammar.Variant.caseName,declared.name_eq]
  exact isWritable_name ident declared.legal

def Settings.NamesFallback (settings : Settings) (ident : Ident) : Prop :=
  ident.isLegal = true ∧
    (settings.fallbackCase = ident.text ∨ settings.fallbackCase = ident.name)

private theorem isWritable_fallback (settings : Settings) (ident : Ident)
    (named : settings.NamesFallback ident) : isWritable settings.fallbackCase = true := by
  obtain ⟨legal,text | name⟩ := named
  · rw [text,isWritable,caseIdent_text ident legal]
    rfl
  · rw [name]
    exact isWritable_name ident legal

private theorem rawType_word (name : String) (item : Grammar.Item) (unreserved : name ∉ keywords) :
    Rule.codableEnum.rawType [⟨.ident ⟨name,false⟩,.empty⟩] item = .ok (some ⟨name⟩) := by
  obtain ⟨form,parsed⟩ := Grammar.parseType_ident ⟨name,false⟩ .empty
    (by simp [Ident.isKeyword,unreserved])
  have read : rawTypeOfArguments [⟨.ident ⟨name,false⟩,.empty⟩] =
      some (some ⟨form,[⟨.ident ⟨name,false⟩,.empty⟩]⟩) := by
    simp only [rawTypeOfArguments,List.isEmpty_cons,parsed]
    rfl
  rw [Rule.rawType,read]
  rfl

def Codable.declarations (fallback : String) (elements : List CaseElement) (target : TypeName) :
    List Declaration :=
  (Members.ofElements fallback elements).declarations ++
    (Extensions.ofElements fallback elements).declarations target

/-- An enum as it is written out: itself with the fallback, its methods in an implementation for its
own identifier, and both conformances for the given one. -/
def Codable.WrittenFor (settings : Settings) (item : Grammar.EnumItem) (target : Ident)
    (expanded : Expanded) : Prop :=
  ∃ serde fallback methods decoder encoder decode encode,
    pathTokens settings.serdePath = .ok serde ∧
    caseIdent settings.fallbackCase = .ok fallback ∧
    expanded.declarations.filterMap Declaration.extension? =
      [⟨⟨target.name⟩,.decodable,decoder⟩,⟨⟨target.name⟩,.encodable,encoder⟩] ∧
    switch decoder = .ok decode ∧ switch encoder = .ok encode ∧
    expanded.rendered.item = item.withCases [fallback] ∧
    expanded.rendered.implementations =
      word "impl" ++ [item.name.token] ++ braces methods ++
        (decoding serde [.ident target] decode ++ encoding serde [.ident target] encode)

section

variable (settings : Settings) (arguments : Lexemes) (item : Grammar.EnumItem) (type : TypeName)
  (plain : item.generics.isEmpty = true)
  (typed : Rule.codableEnum.rawType arguments (.enum item) = .ok (some type))
  (accepted : Codable.Accepts settings (.decl (item.toDecl (some type))))

include plain typed accepted

private theorem expandItem_codable :
    ∃ elements, Grammar.Item.caseNames (.enum item) = elements.map CaseElement.name ∧
      expandItem settings .codableEnum arguments (.enum item) =
        (locateRendering item (Rendering.enum settings item
          (Codable.declarations settings.fallbackCase elements ⟨item.name.name⟩))).map
            fun rendered =>
              ⟨rendered,Codable.declarations settings.fallbackCase elements ⟨item.name.name⟩⟩ := by
  have synthesized := (synthesizeAll_codable_eq_ok_iff settings _ _).mpr ⟨accepted,rfl⟩
  have generics := (checkGenerics_enum_eq_ok_iff .codableEnum item).mpr plain
  exact ⟨(Node.decl (item.toDecl (some type))).elements,rfl,
    expandItem_synthesized settings .codableEnum arguments item _ typed generics _ synthesized⟩

variable (path : (pathTokens settings.serdePath).isOk = true)
  (written : ∀ name ∈ settings.fallbackCase :: Grammar.Item.caseNames (.enum item),
    isWritable name = true)

include path written

private theorem expandItem_codable_ok (target : Ident) (same : item.name.name = target.name)
    (read : typeTokens ⟨item.name.name⟩ = .ok [.ident target]) :
    ∃ expanded, expandItem settings .codableEnum arguments (.enum item) = .ok expanded ∧
      Codable.WrittenFor settings item target expanded := by
  obtain ⟨elements,names,expansion⟩ :=
    expandItem_codable settings arguments item type plain typed accepted
  rw [names] at written
  have writable : (Rendering.enum settings item
      (Codable.declarations settings.fallbackCase elements ⟨item.name.name⟩)).isOk = true := by
    rw [enum_isOk,path,Bool.true_and,Codable.declarations,List.all_append,Bool.and_eq_true,
      members_isRenderable_iff,extensions_isRenderable_iff,read]
    exact ⟨written,rfl,written⟩
  obtain ⟨rendered,output⟩ := (isOk_iff _).mp writable
  obtain ⟨serde,fallback,methods,tokens,decode,encode,located,spelled,again,decoded,encoded,rfl⟩ :=
    enum_codable_written settings item _ _ _ rendered output
  obtain rfl : [.ident target] = tokens := Except.ok.inj (read.symm.trans again)
  rw [expansion,output]
  refine ⟨_,rfl,serde,fallback,methods,_,_,decode,encode,located,spelled,?_,decoded,encoded,rfl,rfl⟩
  rw [← same]
  rfl

/-- Everything before the conformances is written, so that a name that is no type is reported. -/
private theorem expandItem_codable_error (error : RenderError)
    (unread : typeTokens ⟨item.name.name⟩ = .error error) :
    expandItem settings .codableEnum arguments (.enum item) =
      locateRendering item (.error error) := by
  obtain ⟨elements,names,expansion⟩ :=
    expandItem_codable settings arguments item type plain typed accepted
  rw [names] at written
  obtain ⟨serde,found⟩ := (isOk_iff _).mp path
  have failed : Rendering.enum settings item
      (Codable.declarations settings.fallbackCase elements ⟨item.name.name⟩) = .error error := by
    apply enum_first_error settings item serde found _ _ _ error
      ((members_isRenderable_iff _ _).mpr written)
    intro additions
    rw [Additions.add,extension,unread]
    rfl
  rw [expansion,failed]
  rfl

end

/-- Where the rule accepts an enum of legal names, conformances are written for the name of the enum
alone. This is the identifier that the enum and its methods have, but for the mark of a raw one, and
it is no type exactly if it is a keyword. An enum that is called by a keyword is therefore refused
although nothing is wrong with it. -/
theorem codable_target_unless_keyword (settings : Settings) (arguments : Lexemes)
    (item : Grammar.EnumItem) (type : TypeName) (name fallback : Ident)
    (plain : item.generics.isEmpty = true)
    (typed : Rule.codableEnum.rawType arguments (.enum item) = .ok (some type))
    (declared : item.name.Declares name)
    (cases : ∀ variant ∈ item.ownVariants, ∃ ident, variant.name.Declares ident)
    (named : settings.NamesFallback fallback)
    (path : ∃ path, readPath settings.serdePath = .ok path)
    (added : Expansion)
    (members : Request.expand settings .codableEnum (.members (item.toDecl (some type))) =
      .ok added) :
    (name.name ∉ keywords →
      ∃ expanded, expandItem settings .codableEnum arguments (.enum item) = .ok expanded ∧
        expanded.rendered.item.name.token = .ident name ∧
        Codable.WrittenFor settings item { name with raw := false } expanded) ∧
    (name.name ∈ keywords →
      expandItem settings .codableEnum arguments (.enum item) =
        .error (.reported ⟨(RenderError.invalidType name.name).message,item.name.span⟩)) := by
  have accepted := accepts_of_expand settings _ [] added members
  obtain ⟨formed,escapable⟩ := name.isLegal_name declared.legal
  have serde := pathTokens_isOk settings.serdePath path
  have written : ∀ name ∈ settings.fallbackCase :: Grammar.Item.caseNames (.enum item),
      isWritable name = true := by
    rw [List.forall_mem_cons]
    exact ⟨isWritable_fallback settings fallback named,isWritable_caseNames item cases⟩
  constructor
  · intro unreserved
    have read : typeTokens ⟨item.name.name⟩ = .ok [.ident { name with raw := false }] := by
      rw [declared.name_eq]
      exact typeTokens_word name.name formed unreserved
    obtain ⟨expanded,output,wrote⟩ := expandItem_codable_ok settings arguments item type plain typed
      accepted serde written { name with raw := false } declared.name_eq read
    refine ⟨expanded,output,?_,wrote⟩
    obtain ⟨_,_,_,_,_,_,_,_,_,_,_,_,same,_⟩ := wrote
    rw [same]
    exact declared.token
  · intro reserved
    have unread : typeTokens ⟨item.name.name⟩ = .error (.invalidType name.name) := by
      rw [declared.name_eq]
      exact typeTokens_keyword name.name formed reserved escapable
    rw [expandItem_codable_error settings arguments item type plain typed accepted serde written
      _ unread]
    rfl

theorem commaBetween_phrases {α : Type} (span : Span) (phrases : List α) :
    (Grammar.commaBetween span phrases).map Prod.fst = phrases := by
  fun_induction Grammar.commaBetween span phrases with
  | case1 => rfl
  | case2 last => rfl
  | case3 phrase rest _ ih => rw [List.map_cons,ih]

private theorem declares_ofIdents (name : Ident) (cases : List Ident)
    (legal : ∀ ident ∈ cases, ident.isLegal = true) :
    ∀ variant ∈ (Grammar.EnumItem.ofIdents name cases).ownVariants,
      ∃ ident, variant.name.Declares ident := by
  intro variant member
  rw [Grammar.EnumItem.ownVariants,Grammar.EnumItem.ofIdents,commaBetween_phrases] at member
  obtain ⟨ident,listed,rfl⟩ := List.mem_map.mp member
  exact ⟨ident,rfl,legal ident listed⟩

/-- A raw identifier that is no keyword is written raw and plain, and a keyword only raw. -/
theorem codable_target_unless_keyword_raw :
    (∃ expanded, expandItem { fallbackCase := "r#match" } .codableEnum
        [⟨.ident ⟨"String",false⟩,.empty⟩]
        (.enum (.ofIdents ⟨"Level",true⟩ [⟨"type",true⟩,⟨"Low",false⟩])) = .ok expanded ∧
      expanded.rendered.item.name.token = .ident ⟨"Level",true⟩) ∧
    expandItem {} .codableEnum [⟨.ident ⟨"String",false⟩,.empty⟩]
        (.enum (.ofIdents ⟨"match",true⟩ [⟨"A",false⟩])) =
      .error (.reported ⟨"invalid type `match`",.empty⟩) := by
  have string (item : Grammar.Item) := rawType_word "String" item (by decide)
  have serde := readPath_word "serde" (by decide) (by decide)
  constructor
  · have cases := declares_ofIdents ⟨"Level",true⟩ [⟨"type",true⟩,⟨"Low",false⟩] (by decide)
    obtain ⟨written,_⟩ := codable_target_unless_keyword { fallbackCase := "r#match" } _ _ _
      ⟨"Level",true⟩ ⟨"match",true⟩ rfl (string _) ⟨rfl,by decide⟩ cases ⟨by decide,.inl rfl⟩ serde
      _ rfl
    obtain ⟨expanded,output,named,_⟩ := written (by decide)
    exact ⟨expanded,output,named⟩
  · have cases := declares_ofIdents ⟨"match",true⟩ [⟨"A",false⟩] (by decide)
    obtain ⟨_,refused⟩ := codable_target_unless_keyword {} _ _ _ ⟨"match",true⟩
      ⟨"Unknown",false⟩ rfl (string _) ⟨rfl,by decide⟩ cases ⟨by decide,.inr rfl⟩ serde _ rfl
    exact refused (by decide)

def keywordNamed : Grammar.EnumItem := .ofIdents ⟨"type",true⟩ [⟨"A",false⟩]

/-- Nothing is wrong with the enum for either site, and yet it is refused. -/
theorem keyword_enum_refused :
    keywordNamed.name.Declares ⟨"type",true⟩ ∧
    (∃ added, Request.expand {} .codableEnum
      (.members (keywordNamed.toDecl (some ⟨"String"⟩))) = .ok added) ∧
    (∃ built, Request.expand {} .codableEnum
      (.extensions (keywordNamed.toDecl (some ⟨"String"⟩))) = .ok built) ∧
    expandItem {} .codableEnum [⟨.ident ⟨"String",false⟩,.empty⟩] (.enum keywordNamed) =
      .error (.reported ⟨"invalid type `type`",.empty⟩) := by
  have accepted : Codable.Accepts {} (.decl (keywordNamed.toDecl (some ⟨"String"⟩))) :=
    accepts_of_expand {} _ [] _ rfl
  have serde := pathTokens_isOk "serde" (readPath_word "serde" (by decide) (by decide))
  have cases := declares_ofIdents ⟨"type",true⟩ [⟨"A",false⟩] (by decide)
  have written : ∀ name ∈ "Unknown" :: Grammar.Item.caseNames (.enum keywordNamed),
      isWritable name = true := by
    rw [List.forall_mem_cons]
    exact ⟨isWritable_name ⟨"Unknown",false⟩ (by decide),isWritable_caseNames keywordNamed cases⟩
  refine ⟨⟨rfl,by decide⟩,⟨_,rfl⟩,⟨_,rfl⟩,?_⟩
  exact expandItem_codable_error {} _ keywordNamed _ rfl (rawType_word "String" _ (by decide))
    accepted serde written _ (typeTokens_keyword "type" (by decide) (by decide) (by decide))

end CaseSynthesis
