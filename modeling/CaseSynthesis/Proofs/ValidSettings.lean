import CaseSynthesis.Proofs.Expansion
import CaseSynthesis.Proofs.Identifiers

/-! What can be done with settings that were found valid. The settings are checked by classes of
characters, but written by way of the lexer and the grammar. Names of the former kind that are none
of the latter are accepted first and fail later. -/

namespace CaseSynthesis

open Rendering

theorem validate_eq_ok_iff (settings : Settings) :
    settings.validate = .ok () ↔
      Settings.isName settings.fallbackCase.toList = true ∧
      settings.fallbackCase ∉ Settings.reservedNames ∧
      (Settings.splitColons [] (Settings.withoutColons settings.serdePath.toList)).all
        Settings.isName = true := by
  unfold Settings.validate
  cases Settings.isName settings.fallbackCase.toList with
  | false => simp [bind,Except.bind,throw,throwThe,MonadExceptOf.throw]
  | true =>
    by_cases reserved : settings.fallbackCase ∈ Settings.reservedNames
    · simp [reserved,bind,Except.bind,throw,throwThe,MonadExceptOf.throw]
    · cases (Settings.splitColons [] (Settings.withoutColons settings.serdePath.toList)).all
        Settings.isName <;>
        simp [reserved,pure,Except.pure,throw,throwThe,MonadExceptOf.throw]

theorem escapable_of_valid (settings : Settings) (valid : settings.validate = .ok ()) :
    settings.fallbackCase ∉ unrawable := by
  obtain ⟨named,unreserved,_⟩ := (validate_eq_ok_iff settings).mp valid
  intro fixed
  rcases List.mem_cons.mp fixed with underscore | reserved
  · rw [underscore] at named
    contradiction
  · have contained : ∀ name ∈ ["super","self","Self","crate"], name ∈ Settings.reservedNames := by
      decide
    exact unreserved (contained _ reserved)

theorem caseIdent_fallback (settings : Settings) (valid : settings.validate = .ok ()) :
    caseIdent settings.fallbackCase =
      if Ident.wellFormed settings.fallbackCase then
        .ok ⟨settings.fallbackCase,keywords.contains settings.fallbackCase⟩
      else .error (.ident (.malformed settings.fallbackCase)) := by
  obtain ⟨named,_⟩ := (validate_eq_ok_iff settings).mp valid
  cases formed : Ident.wellFormed settings.fallbackCase with
  | true => exact caseIdent_formed _ formed (escapable_of_valid settings valid)
  | false => exact caseIdent_malformed _ named formed

section

variable (settings : Settings) (rule : Rule) (other : String)

/-- What a rule asks of a node for another fallback it asks for this one too, as long as the node does
not declare it. -/
private theorem takes_with_fallback (node : Node)
    (taken : rule.Takes { settings with fallbackCase := other } node)
    (free : settings.fallbackCase ∉ node.elements.map CaseElement.name) :
    rule.Takes settings node where
  enums := taken.enums
  admitted := { taken.admitted with free }
  coded codable := { taken.coded codable with free }

/-- Next to an expansion for another fallback, only a declared case of its name or the writing of it
can stand in the way of a fallback. -/
theorem expandItem_with_fallback_iff (arguments : Lexemes) (item : Grammar.Item)
    (expanded : (expandItem { settings with fallbackCase := other } rule arguments item).isOk =
      true) :
    (expandItem settings rule arguments item).isOk = true ↔
      settings.fallbackCase ∉ item.caseNames ∧ isWritable settings.fallbackCase = true := by
  obtain ⟨enum,rawType,rfl,typed,expands⟩ :=
    (expandItem_isOk_iff _ rule arguments item).mp expanded
  rw [expandItem_isOk_iff]
  constructor
  · rintro ⟨same,_,found,_,again⟩
    rw [Grammar.Item.enum.inj found]
    exact ⟨again.taken.admitted.free,again.written _ (by simp)⟩
  · rintro ⟨free,writable⟩
    refine ⟨enum,rawType,rfl,typed,?_⟩
    refine ⟨expands.plain,takes_with_fallback settings rule other _ expands.taken free,
      expands.path,?_,expands.target⟩
    rw [List.forall_mem_cons]
    exact ⟨writable,fun name listed => expands.written name (List.mem_cons_of_mem _ listed)⟩

private theorem expandItem_fault (arguments : Lexemes) (item : Grammar.Item) (fault : IdentFault)
    (expanded : (expandItem { settings with fallbackCase := other } rule arguments item).isOk =
      true) (free : settings.fallbackCase ∉ item.caseNames)
    (failed : caseIdent settings.fallbackCase = .error (.ident fault)) :
    expandItem settings rule arguments item = .error (.ident fault) := by
  obtain ⟨enum,rawType,rfl,typed,expands⟩ :=
    (expandItem_isOk_iff _ rule arguments item).mp expanded
  have taken := takes_with_fallback settings rule other _ expands.taken free
  obtain ⟨built,rest,synthesized,first,_⟩ := synthesizeAll_of_takes settings rule _ taken
  obtain ⟨serde,path⟩ := (isOk_iff _).mp expands.path
  have generics := (checkGenerics_enum_eq_ok_iff rule enum).mpr expands.plain
  -- The fallback is what is written first.
  have unwritten : Rendering.enum settings enum built.flatten = .error (.ident fault) := by
    rw [first]
    apply enum_first_error settings enum serde path [] rest _ _ rfl
    intro additions
    rw [Additions.add,failed]
    rfl
  rw [expandItem_synthesized settings rule arguments enum rawType typed generics built synthesized,
    unwritten]
  rfl

end

/-- By default, an enum is expanded if it admits the fallback and all its cases are spelled as
identifiers. -/
theorem nullable_expanded (item : Grammar.EnumItem) (plain : item.generics.isEmpty = true)
    (admitted : (Node.decl (item.toDecl none)).Admits "Unknown")
    (formed : ∀ name ∈ Grammar.Item.caseNames (.enum item),
      Ident.wellFormed name = true ∧ name ∉ unrawable) :
    (expandItem {} .nullableEnum [] (.enum item)).isOk = true := by
  have serde := pathTokens_isOk "serde" (readPath_word "serde" (by decide) (by decide))
  have writable (name : String) (spelled : Ident.wellFormed name = true ∧ name ∉ unrawable) :
      isWritable name = true := by
    rw [isWritable,caseIdent_formed name spelled.1 spelled.2]
    rfl
  have written : ∀ name ∈ "Unknown" :: Grammar.Item.caseNames (.enum item),
      isWritable name = true := by
    rw [List.forall_mem_cons]
    exact ⟨writable _ (by decide),fun name listed => writable name (formed name listed)⟩
  exact (expandItem_isOk_iff _ _ _ _).mpr
    ⟨item,none,rfl,rfl,plain,⟨by decide,admitted,by simp⟩,serde,written,by simp⟩

def status : Grammar.EnumItem := .ofIdents ⟨"Status",false⟩ [⟨"Visitor",false⟩]

theorem status_expanded : (expandItem {} .nullableEnum [] (.enum status)).isOk = true :=
  nullable_expanded status rfl ⟨⟨⟨_,rfl,rfl⟩,by decide,by decide⟩,by decide⟩ (by decide)

/-- A valid fallback that is spelled as an identifier can always be written, as it stands or raw, and
an item that is expanded for any other fallback is expanded for it too, unless it declares a case of
that name. A valid fallback that is not spelled so can never be written, and no item is expanded. -/
theorem valid_fallback_usable_iff (settings : Settings) (valid : settings.validate = .ok ()) :
    (Ident.wellFormed settings.fallbackCase = true →
      caseIdent settings.fallbackCase =
        .ok ⟨settings.fallbackCase,keywords.contains settings.fallbackCase⟩ ∧
      ∀ rule arguments item other,
        (expandItem { settings with fallbackCase := other } rule arguments item).isOk = true →
        ((expandItem settings rule arguments item).isOk = true ↔
          settings.fallbackCase ∉ item.caseNames)) ∧
    (Ident.wellFormed settings.fallbackCase = false →
      caseIdent settings.fallbackCase = .error (.ident (.malformed settings.fallbackCase)) ∧
      ∀ rule arguments item,
        (expandItem settings rule arguments item).isOk = false ∧
        ∀ other,
          (expandItem { settings with fallbackCase := other } rule arguments item).isOk = true →
          settings.fallbackCase ∉ item.caseNames →
          expandItem settings rule arguments item =
            .error (.ident (.malformed settings.fallbackCase))) := by
  have spelled := caseIdent_fallback settings valid
  constructor
  · intro formed
    rw [if_pos formed] at spelled
    refine ⟨spelled,?_⟩
    intro rule arguments item other expanded
    have writable : isWritable settings.fallbackCase = true := by
      rw [isWritable,spelled]
      rfl
    rw [expandItem_with_fallback_iff settings rule other arguments item expanded]
    exact and_iff_left writable
  · intro malformed
    rw [malformed,if_neg Bool.false_ne_true] at spelled
    refine ⟨spelled,?_⟩
    intro rule arguments item
    constructor
    · rw [Bool.eq_false_iff]
      intro expanded
      obtain ⟨enum,rawType,_,_,expands⟩ := (expandItem_isOk_iff _ rule arguments item).mp expanded
      have writable := expands.written settings.fallbackCase (by simp)
      rw [isWritable,spelled] at writable
      contradiction
    · intro other expanded free
      exact expandItem_fault settings rule other arguments item _ expanded free spelled

set_option maxRecDepth 4000 in
/-- A superscript digit is a numeral, but identifiers have none. -/
private theorem superscript_named : Settings.isName "x²".toList = true ∧ Ident.wellFormed "x²" = false := by
  constructor
  · rfl
  · rfl

private theorem validate_superscript : Settings.validate { fallbackCase := "x²" } = .ok () :=
  (validate_eq_ok_iff _).mpr ⟨superscript_named.1,by decide,rfl⟩

theorem valid_fallback_usable_keyword :
    Settings.validate { fallbackCase := "type" } = .ok () ∧
    caseIdent "type" = .ok ⟨"type",true⟩ ∧
    (expandItem { fallbackCase := "type" } .nullableEnum [] (.enum status)).isOk = true ∧
    expandItem { fallbackCase := "x²" } .nullableEnum [] (.enum status) =
      .error (.ident (.malformed "x²")) := by
  obtain ⟨spelled,expanded⟩ := (valid_fallback_usable_iff { fallbackCase := "type" } rfl).1 rfl
  obtain ⟨_,refused⟩ := (valid_fallback_usable_iff { fallbackCase := "x²" } validate_superscript).2
    superscript_named.2
  refine ⟨rfl,spelled,(expanded _ _ _ "Unknown" status_expanded).mpr (by decide),?_⟩
  exact (refused _ _ _).2 "Unknown" status_expanded (by decide)

theorem valid_fallback_not_written :
    Settings.validate { fallbackCase := "x²" } = .ok () ∧
      caseIdent "x²" = .error (.ident (.malformed "x²")) :=
  ⟨validate_superscript,caseIdent_malformed "x²" superscript_named.1 superscript_named.2⟩

/-- Splitting loses nothing but the colons it splits at. -/
private theorem splitColons_joined (piece text : List Char) :
    ∃ first rest, Settings.splitColons piece text = first :: rest ∧
      piece.reverse ++ text = first ++ rest.flatMap fun piece => ':' :: ':' :: piece := by
  fun_induction Settings.splitColons piece text with
  | case1 piece => exact ⟨_,[],rfl,by simp⟩
  | case2 piece text ih =>
    obtain ⟨first,rest,split,joined⟩ := ih
    refine ⟨_,_,rfl,?_⟩
    rw [split,List.flatMap_cons,List.cons_append,List.cons_append,← joined]
    rfl
  | case3 piece c text _ ih =>
    obtain ⟨first,rest,split,joined⟩ := ih
    refine ⟨first,rest,split,?_⟩
    rw [← joined,List.reverse_cons,List.append_assoc]
    rfl

def pathNames (path : String) : List String :=
  (Settings.splitColons [] (Settings.withoutColons path.toList)).map String.ofList

/-- Every text is spelled as a path of the names in it. -/
theorem spelled_pathNames (path : String) :
    ∃ global first rest, pathNames path = first :: rest ∧
      path.toList = Lexer.pathText global first rest := by
  obtain ⟨first,rest,split,joined⟩ :=
    splitColons_joined [] (Settings.withoutColons path.toList)
  have segments : Lexer.segmentText (rest.map String.ofList) =
      rest.flatMap fun piece => ':' :: ':' :: piece := by
    rw [Lexer.segmentText,List.flatMap_map]
    simp only [String.toList_ofList]
  have names : pathNames path = String.ofList first :: rest.map String.ofList := by
    rw [pathNames,split,List.map_cons]
  rw [List.reverse_nil,List.nil_append] at joined
  unfold Settings.withoutColons at joined
  split at joined
  · rename_i inside colons
    refine ⟨true,_,_,names,?_⟩
    rw [colons,joined]
    simp [Lexer.pathText,Lexer.segmentText,← segments]
  · refine ⟨false,_,_,names,?_⟩
    rw [joined]
    simp [Lexer.pathText,segments]

private theorem pathTokens_eq_error_iff (path text : String) :
    pathTokens path = .error (.invalidPath text) ↔
      text = path ∧ ¬ ∃ found, readPath path = .ok found := by
  unfold pathTokens
  cases readPath path with
  | ok found => simp
  | error error => simp [eq_comm]

/-- Where all names in a path are valid, it is read exactly if each is spelled as an identifier and
may stand in a path. It is then read as it is spelled. -/
theorem readPath_named_iff (text : String)
    (named : ∀ name ∈ pathNames text, Settings.isName name.toList = true) :
    ((∃ path, readPath text = .ok path) ↔ ∀ name ∈ pathNames text, isPathName name = true) ∧
    ∀ path, readPath text = .ok path →
      ∃ global first rest, pathNames text = first :: rest ∧
        text.toList = Lexer.pathText global first rest ∧
        path.tokens.tokens = Lexer.pathTokens global first rest := by
  obtain ⟨global,first,rest,names,spelled⟩ := spelled_pathNames text
  rw [names] at named ⊢
  have usable (path : Grammar.Path) (read : readPath text = .ok path) :
      ∀ name ∈ first :: rest, isPathName name = true := by
    by_contra refused
    obtain ⟨error,failed⟩ := readPath_fail text global first rest spelled named
      (by simpa only [not_forall,exists_prop,Bool.not_eq_true] using refused)
    rw [read] at failed
    contradiction
  refine ⟨⟨fun ⟨path,read⟩ => usable path read,?_⟩,?_⟩
  · intro accepted
    obtain ⟨path,read,_⟩ := readPath_read text global first rest spelled named accepted
    exact ⟨path,read⟩
  · intro path read
    obtain ⟨found,again,tokens⟩ := readPath_read text global first rest spelled named
      (usable path read)
    rw [read] at again
    rw [Except.ok.inj again]
    exact ⟨global,first,rest,rfl,spelled,tokens⟩

/-- A valid path is read exactly if each name in it is spelled as an identifier and may stand in a
path, which most keywords may not. Otherwise, and for no other reason, writing reports an invalid
path, whatever is written and by whichever rule. -/
theorem valid_path_usable_iff (settings : Settings) (valid : settings.validate = .ok ()) :
    ((∃ path, readPath settings.serdePath = .ok path) ↔
      ∀ name ∈ pathNames settings.serdePath, isPathName name = true) ∧
    (∀ path, readPath settings.serdePath = .ok path →
      ∃ global first rest, pathNames settings.serdePath = first :: rest ∧
        settings.serdePath.toList = Lexer.pathText global first rest ∧
        path.tokens.tokens = Lexer.pathTokens global first rest) ∧
    (∀ item declarations text,
      Rendering.enum settings item declarations = .error (.invalidPath text) ↔
        text = settings.serdePath ∧
        ∃ name ∈ pathNames settings.serdePath, isPathName name = false) ∧
    (∀ rule arguments item rawType built, rule.rawType arguments (.enum item) = .ok rawType →
      checkGenerics rule (.enum item) = .ok () →
      rule.synthesizeAll settings (.decl (item.toDecl rawType)) = .ok built →
      (∃ name ∈ pathNames settings.serdePath, isPathName name = false) →
      expandItem settings rule arguments (.enum item) =
        .error (.reported ⟨(RenderError.invalidPath settings.serdePath).message,
          item.name.span⟩)) := by
  obtain ⟨_,_,pieces⟩ := (validate_eq_ok_iff settings).mp valid
  have named : ∀ name ∈ pathNames settings.serdePath, Settings.isName name.toList = true := by
    simpa [pathNames] using pieces
  obtain ⟨readable,tokens⟩ := readPath_named_iff settings.serdePath named
  have reported (item : Grammar.EnumItem) (declarations : List Declaration) (text : String) :
      Rendering.enum settings item declarations = .error (.invalidPath text) ↔
        text = settings.serdePath ∧
        ∃ name ∈ pathNames settings.serdePath, isPathName name = false := by
    rw [enum_invalidPath_iff,pathTokens_eq_error_iff,readable]
    simp only [not_forall,exists_prop,Bool.not_eq_true]
  refine ⟨readable,tokens,reported,?_⟩
  intro rule arguments item rawType built typed generics synthesized refused
  rw [expandItem_synthesized settings rule arguments item rawType typed generics built
    synthesized,(reported item built.flatten _).mpr ⟨rfl,refused⟩]
  rfl

theorem valid_path_usable_crate :
    Settings.validate { serdePath := "crate::wire" } = .ok () ∧
    (∃ path, readPath "crate::wire" = .ok path) ∧
    (∀ declarations, Rendering.enum { serdePath := "::wire::fn" } status declarations =
      .error (.invalidPath "::wire::fn")) ∧
    expandItem { serdePath := "::wire::fn" } .nullableEnum [] (.enum status) =
      .error (.reported ⟨"invalid path `::wire::fn`",.empty⟩) := by
  have readable := (valid_path_usable_iff { serdePath := "crate::wire" } rfl).1
  obtain ⟨_,_,reported,refused⟩ := valid_path_usable_iff { serdePath := "::wire::fn" } rfl
  have keyword : ∃ name ∈ pathNames "::wire::fn", isPathName name = false :=
    ⟨"fn",by decide,by decide⟩
  refine ⟨rfl,readable.mpr (by decide),?_,refused _ _ _ none _ rfl rfl rfl keyword⟩
  exact fun declarations => (reported _ declarations _).mpr ⟨rfl,keyword⟩

theorem valid_path_not_read :
    Settings.validate { serdePath := "type" } = .ok () ∧
      ∃ error, readPath "type" = .error error :=
  ⟨rfl,readPath_fail "type" false "type" [] (by decide) (by decide) ⟨"type",by decide,by decide⟩⟩

end CaseSynthesis
