import CaseSynthesis.Program.Expansion
import CaseSynthesis.Proofs.Conformances
import CaseSynthesis.Proofs.RawValues

/-! A rule at all the sites of an item. The rule for raw values is applied at two sites, each of
which reads the node anew. Members ask for more than conformances do, so that the second site adds
no way to fail, and both list the cases in the same order. -/

namespace CaseSynthesis

def Rule.synthesizeAll (settings : Settings) (rule : Rule) (node : Node) :
    Except SynthesisError (List (List Declaration)) :=
  rule.itemSites.mapM fun site => synthesize settings rule site node

def Grammar.EnumItem.ofIdents (name : Ident) (cases : List Ident) : Grammar.EnumItem where
  attributes := []
  visibility := []
  keyword := [⟨.ident ⟨"enum",false⟩,.empty⟩]
  name := ⟨.ident name,.empty⟩
  generics := []
  whereClause := []
  opening := [⟨.opening .brace,.empty⟩]
  variants := Grammar.commaBetween .empty (cases.map (Grammar.Variant.ofIdent .empty))
  closing := [⟨.closing .brace,.empty⟩]

def Node.name : Node → String
  | decl declared => declared.name
  | _ => ""

private theorem synthesize_nullable_eq_ok_iff (settings : Settings) (node : Node)
    (built : List Declaration) :
    synthesize settings .nullableEnum .memberSynthesis node = .ok built ↔
      node.Admits settings.fallbackCase ∧
      built = Nullable.Members.declarations ⟨settings.fallbackCase,
        nameLookup (.parameter Nullable.parameter) settings.fallbackCase
          (node.elements.map CaseElement.case)⟩ := by
  simp only [synthesize,bind_eq_ok_iff,Nullable.members_eq_ok_iff,pure,Except.pure,Except.ok.injEq]
  constructor
  · rintro ⟨_,⟨admitted,rfl⟩,rfl⟩
    exact ⟨admitted,rfl⟩
  · rintro ⟨admitted,rfl⟩
    exact ⟨_,⟨admitted,rfl⟩,rfl⟩

private theorem synthesize_members_eq_ok_iff (settings : Settings) (node : Node)
    (built : List Declaration) :
    synthesize settings .codableEnum .memberSynthesis node = .ok built ↔
      Codable.Accepts settings node ∧
      built = (Codable.Members.ofElements settings.fallbackCase node.elements).declarations := by
  simp only [synthesize,bind_eq_ok_iff,Codable.members_eq_ok_iff,pure,Except.pure,Except.ok.injEq]
  constructor
  · rintro ⟨_,⟨accepted,rfl⟩,rfl⟩
    exact ⟨accepted,rfl⟩
  · rintro ⟨accepted,rfl⟩
    exact ⟨_,⟨accepted,rfl⟩,rfl⟩

private theorem synthesize_extensions_eq_ok_iff (settings : Settings) (node : Node)
    (built : List Declaration) :
    synthesize settings .codableEnum .extensionSynthesis node = .ok built ↔
      node.Admits settings.fallbackCase ∧
      built = (Codable.Extensions.ofElements settings.fallbackCase node.elements).declarations
        ⟨node.name⟩ := by
  simp only [synthesize,bind_eq_ok_iff,structural_eq_ok_iff,enum_eq_ok_iff,
    Codable.extensions_eq_ok_iff,pure,Except.pure,Except.ok.injEq]
  constructor
  · rintro ⟨decl,⟨rfl,_⟩,_,⟨admitted,rfl⟩,rfl⟩
    exact ⟨admitted,rfl⟩
  · rintro ⟨admitted,rfl⟩
    obtain ⟨decl,rfl,kind⟩ := admitted.enum
    exact ⟨decl,⟨rfl,kind⟩,_,⟨admitted,rfl⟩,rfl⟩

theorem synthesizeAll_nullable_eq_ok_iff (settings : Settings) (node : Node)
    (built : List (List Declaration)) :
    Rule.nullableEnum.synthesizeAll settings node = .ok built ↔
      node.Admits settings.fallbackCase ∧
      built = [Nullable.Members.declarations ⟨settings.fallbackCase,
        nameLookup (.parameter Nullable.parameter) settings.fallbackCase
          (node.elements.map CaseElement.case)⟩] := by
  simp only [Rule.synthesizeAll,Rule.itemSites,List.mapM_cons,List.mapM_nil,bind_eq_ok_iff,
    synthesize_nullable_eq_ok_iff,pure,Except.pure,Except.ok.injEq]
  constructor
  · rintro ⟨_,⟨admitted,rfl⟩,_,rfl,rfl⟩
    exact ⟨admitted,rfl⟩
  · rintro ⟨admitted,rfl⟩
    exact ⟨_,⟨admitted,rfl⟩,_,rfl,rfl⟩

/-- Members stand first, so that what is asked of them is asked before anything else. After them the
conformances cannot fail. -/
theorem synthesizeAll_codable (settings : Settings) (node : Node) :
    Rule.codableEnum.synthesizeAll settings node =
      (synthesize settings .codableEnum .memberSynthesis node).map fun members =>
        [members,(Codable.Extensions.ofElements settings.fallbackCase node.elements).declarations
          ⟨node.name⟩] := by
  simp only [Rule.synthesizeAll,Rule.itemSites,List.mapM_cons,List.mapM_nil]
  cases member : synthesize settings .codableEnum .memberSynthesis node with
  | error cause => rfl
  | ok members =>
    obtain ⟨accepted,_⟩ := (synthesize_members_eq_ok_iff settings node members).mp member
    have conforming := (synthesize_extensions_eq_ok_iff settings node _).mpr
      ⟨accepted.toAdmits,rfl⟩
    rw [conforming]
    rfl

theorem synthesizeAll_codable_eq_ok_iff (settings : Settings) (node : Node)
    (built : List (List Declaration)) :
    Rule.codableEnum.synthesizeAll settings node = .ok built ↔
      Codable.Accepts settings node ∧
      built = [(Codable.Members.ofElements settings.fallbackCase node.elements).declarations,
        (Codable.Extensions.ofElements settings.fallbackCase node.elements).declarations
          ⟨node.name⟩] := by
  rw [synthesizeAll_codable]
  cases member : synthesize settings .codableEnum .memberSynthesis node with
  | error cause =>
    simp only [Except.map,reduceCtorEq,false_iff,not_and]
    intro accepted
    rw [(synthesize_members_eq_ok_iff settings node _).mpr ⟨accepted,rfl⟩] at member
    simp at member
  | ok members =>
    obtain ⟨accepted,rfl⟩ := (synthesize_members_eq_ok_iff settings node members).mp member
    simp only [Except.map,Except.ok.injEq,accepted,true_and,eq_comm]

theorem expandItem_refused (settings : Settings) (rule : Rule) (arguments : Lexemes)
    (item : Grammar.Item) (rawType : Option TypeName)
    (typed : rule.rawType arguments item = .ok rawType) (plain : checkGenerics rule item = .ok ())
    (error : SynthesisError)
    (refused : rule.synthesizeAll settings (.decl (item.toDecl rawType)) = .error error) :
    expandItem settings rule arguments item =
      .error (.reported ⟨error.message,(item.culprit error).span⟩) := by
  rw [expandItem,typed]
  change (checkGenerics rule item >>= _) = _
  rw [plain]
  change (locate item (rule.synthesizeAll settings (.decl (item.toDecl rawType))) >>= _) = _
  rw [refused]
  rfl

/-- Once the declarations are there, all that is left is to write them. -/
theorem expandItem_synthesized (settings : Settings) (rule : Rule) (arguments : Lexemes)
    (item : Grammar.EnumItem) (rawType : Option TypeName)
    (typed : rule.rawType arguments (.enum item) = .ok rawType)
    (plain : checkGenerics rule (.enum item) = .ok ()) (built : List (List Declaration))
    (synthesized : rule.synthesizeAll settings (.decl (item.toDecl rawType)) = .ok built) :
    expandItem settings rule arguments (.enum item) =
      (locateRendering item (Rendering.enum settings item built.flatten)).map
        fun rendered => ⟨rendered,built.flatten⟩ := by
  rw [expandItem,typed]
  change (checkGenerics rule (.enum item) >>= _) = _
  rw [plain]
  change (locate (.enum item) (rule.synthesizeAll settings (.decl (item.toDecl rawType))) >>= _) = _
  rw [synthesized]
  change (locateRendering item (Rendering.enum settings item built.flatten) >>= _) = _
  cases locateRendering item (Rendering.enum settings item built.flatten) <;> rfl

/-- No other item is seen as an enum. -/
theorem enum_of_enumerates (item : Grammar.Item) (rawType : Option TypeName)
    (enumerates : (Node.decl (item.toDecl rawType)).Enumerates) : ∃ enum, item = .enum enum := by
  obtain ⟨decl,same,kind⟩ := enumerates.enum
  rw [← Node.decl.inj same] at kind
  cases item with
  | enum enum => exact ⟨enum,rfl⟩
  | declared form => cases form <;> simp [Grammar.Item.toDecl,Grammar.ItemKind.toDeclKind] at kind
  | module => simp [Grammar.Item.toDecl] at kind
  | foreign => simp [Grammar.Item.toDecl] at kind
  | other => simp [Grammar.Item.toDecl] at kind

private theorem expand_site (settings : Settings) (site : Site) (node : Node)
    (conformances : List TypeName) :
    Request.expand settings .codableEnum ⟨site,node,conformances⟩ =
      ((synthesize settings .codableEnum site node).mapError .synthesis).map .declarations := by
  simp only [Request.expand]
  cases synthesize settings .codableEnum site node <;> rfl

theorem accepts_of_expand (settings : Settings) (node : Node) (conformances : List TypeName)
    (added : Expansion)
    (expanded : Request.expand settings .codableEnum ⟨.memberSynthesis,node,conformances⟩ =
      .ok added) : Codable.Accepts settings node := by
  rw [expand_site] at expanded
  cases member : synthesize settings .codableEnum .memberSynthesis node with
  | error cause => simp [member,Except.map,Except.mapError] at expanded
  | ok members => exact ((synthesize_members_eq_ok_iff settings node members).mp member).1

namespace Codable

def Concerns (name : String) (arm : Arm) : Prop :=
  arm.pattern = .str name ∨ arm.pattern = .case name ∨ arm.pattern = .rawValueOf name ∨
    arm.branch = .assignCase name

/-- Four switches that have one arm for each case, in the order of the cases, and the fallback for
all else. -/
structure Aligned (fallback : String) (cases : List Case) (toRaw ofRaw decode encode : Switch) :
    Prop where
  accessor : List.Forall₂ (fun case arm => arm.pattern = .case case.name ∧
    ∃ value, rawValue case = .ok value ∧ arm.branch = .returnStr value) cases toRaw.arms
  initializer : List.Forall₂ (fun case arm => arm.pattern = .rawValueOf case.name ∧
    arm.branch = .assignCase case.name) cases ofRaw.arms
  decoder : List.Forall₂ (fun case arm => arm.pattern = .str case.name ∧
    arm.branch = .assignCase case.name) cases decode.arms
  encoder : List.Forall₂ (fun case arm => arm.pattern = .case case.name ∧
    arm.branch = .returnStr case.name) cases encode.arms
  defaults : toRaw.default = .returnStr fallbackText ∧ ofRaw.default = .assignCase fallback ∧
    decode.default = .assignCase fallback ∧ encode.default = .returnStr fallbackText
  elsewhere : ∀ switch ∈ [toRaw,ofRaw,decode,encode], ∀ arm ∈ switch.arms, ¬ Concerns fallback arm

private theorem forall₂_elements (holds : Case → Arm → Prop) (arm : CaseElement → Arm)
    (elements : List CaseElement) (each : ∀ element ∈ elements, holds element.case (arm element)) :
    List.Forall₂ holds (elements.map CaseElement.case) (elements.map arm) := by
  rw [List.forall₂_map_left_iff,List.forall₂_map_right_iff,List.forall₂_same]
  exact each

private theorem not_concerns_of_named (fallback : String) (elements : List CaseElement)
    (free : fallback ∉ elements.map CaseElement.name) (arm : CaseElement → Arm)
    (named : ∀ element, ∀ name, Concerns name (arm element) → element.name = name) :
    ∀ built ∈ elements.map arm, ¬ Concerns fallback built := by
  intro built listed concerned
  obtain ⟨element,member,rfl⟩ := List.mem_map.mp listed
  exact free (List.mem_map.mpr ⟨element,member,named element fallback concerned⟩)

private theorem aligned_of_accepts (settings : Settings) (node : Node) (accepted : Accepts settings node) :
    Aligned settings.fallbackCase (node.elements.map CaseElement.case)
      (Members.ofElements settings.fallbackCase node.elements).toRaw
      (Members.ofElements settings.fallbackCase node.elements).ofRaw
      (Extensions.ofElements settings.fallbackCase node.elements).decode
      (Extensions.ofElements settings.fallbackCase node.elements).encode where
  accessor := by
    apply forall₂_elements
    intro element member
    exact ⟨rfl,element.rawText,
      (rawValue_eq_ok_iff element _).mpr ⟨accepted.spelled element member,rfl⟩,rfl⟩
  initializer := forall₂_elements _ _ _ fun _ _ => ⟨rfl,rfl⟩
  decoder := by
    rw [Extensions.ofElements,nameLookup,List.map_map]
    exact forall₂_elements _ _ _ fun _ _ => ⟨rfl,rfl⟩
  encoder := forall₂_elements _ _ _ fun _ _ => ⟨rfl,rfl⟩
  defaults := ⟨rfl,rfl,rfl,rfl⟩
  elsewhere := by
    have apart := not_concerns_of_named settings.fallbackCase node.elements accepted.free
    simp only [List.forall_mem_cons,List.not_mem_nil,false_imp_iff,implies_true,and_true]
    refine ⟨apart _ ?_,apart _ ?_,?_,apart _ ?_⟩
    · simp [Concerns]
    · simp [Concerns]
    · rw [Extensions.ofElements,nameLookup,List.map_map]
      exact apart _ (by simp [Concerns,CaseElement.case])
    · simp [Concerns]

/-- Where members can be added, conformances can be added too. So the rule fails as a whole exactly
if it fails at the members, with the error of the members, and an item is then refused with it.
Otherwise each of the four switches has its arms in the order of the cases. -/
theorem sites_agree (settings : Settings) (node : Node) (conformances others : List TypeName) :
    (∀ added, Request.expand settings .codableEnum ⟨.memberSynthesis,node,conformances⟩ =
        .ok added →
      ∃ built, Request.expand settings .codableEnum ⟨.extensionSynthesis,node,others⟩ =
        .ok built) ∧
    (∀ error, Rule.codableEnum.synthesizeAll settings node = .error error ↔
      Request.expand settings .codableEnum ⟨.memberSynthesis,node,conformances⟩ =
        .error (.synthesis error)) ∧
    (∀ built, Rule.codableEnum.synthesizeAll settings node = .ok built →
      ∃ cases toRaw ofRaw decode encode, node.cases = .ok cases ∧
        Aligned settings.fallbackCase cases toRaw ofRaw decode encode ∧
        built.flatten = [.case settings.fallbackCase, .accessor ⟨accessorName,toRaw⟩,
          .initializer ⟨"from_raw_value",parameter,ofRaw⟩,
          .extension ⟨⟨node.name⟩,.decodable,decode⟩,
          .extension ⟨⟨node.name⟩,.encodable,encode⟩]) ∧
    (∀ arguments item rawType, Rule.codableEnum.rawType arguments item = .ok rawType →
      checkGenerics .codableEnum item = .ok () → node = .decl (item.toDecl rawType) →
      (∀ error, Request.expand settings .codableEnum ⟨.memberSynthesis,node,conformances⟩ =
          .error (.synthesis error) →
        expandItem settings .codableEnum arguments item =
          .error (.reported ⟨error.message,(item.culprit error).span⟩)) ∧
      (∀ added, Request.expand settings .codableEnum ⟨.memberSynthesis,node,conformances⟩ =
          .ok added →
        ∃ enum built, item = .enum enum ∧
          Rule.codableEnum.synthesizeAll settings node = .ok built ∧
          expandItem settings .codableEnum arguments item =
            (locateRendering enum (Rendering.enum settings enum built.flatten)).map
              fun rendered => ⟨rendered,built.flatten⟩)) := by
  have refused (error : SynthesisError) :
      Rule.codableEnum.synthesizeAll settings node = .error error ↔
        Request.expand settings .codableEnum ⟨.memberSynthesis,node,conformances⟩ =
          .error (.synthesis error) := by
    rw [synthesizeAll_codable,expand_site]
    cases synthesize settings .codableEnum .memberSynthesis node <;>
      simp [Except.map,Except.mapError]
  have accepted := accepts_of_expand settings node conformances
  refine ⟨?_,refused,?_,?_⟩
  · intro added expanded
    have conforming := (synthesize_extensions_eq_ok_iff settings node _).mpr
      ⟨(accepted added expanded).toAdmits,rfl⟩
    rw [expand_site,conforming]
    exact ⟨_,rfl⟩
  · intro built synthesized
    obtain ⟨accepts,rfl⟩ := (synthesizeAll_codable_eq_ok_iff settings node built).mp synthesized
    exact ⟨_,_,_,_,_,(node_cases_eq_ok_iff node _).mpr ⟨accepts.toEnumerates,rfl⟩,
      aligned_of_accepts settings node accepts,rfl⟩
  · rintro arguments item rawType typed plain rfl
    refine ⟨?_,?_⟩
    · intro error failed
      exact expandItem_refused settings _ arguments item rawType typed plain error
        ((refused error).mpr failed)
    · intro added expanded
      have accepts := accepted added expanded
      obtain ⟨enum,rfl⟩ := enum_of_enumerates item rawType accepts.toEnumerates
      have synthesized := (synthesizeAll_codable_eq_ok_iff settings _ _).mpr ⟨accepts,rfl⟩
      exact ⟨enum,_,rfl,synthesized,
        expandItem_synthesized settings _ arguments enum rawType typed plain _ synthesized⟩

theorem sites_agree_swapped :
    (∃ built, Request.expand {} .codableEnum ⟨.extensionSynthesis,swapped,[]⟩ = .ok built) ∧
    (∃ toRaw ofRaw decode encode,
      Aligned "Unknown" (swapped.elements.map CaseElement.case) toRaw ofRaw decode encode) ∧
    Rule.codableEnum.synthesizeAll {} crossed = .error (.missingRawType "Event") ∧
    expandItem {} .codableEnum [] (.enum (.ofIdents ⟨"Level",false⟩ [⟨"Low",false⟩])) =
      .error (.reported ⟨(SynthesisError.missingRawType "Level").message,.empty⟩) := by
  obtain ⟨conforming,_,aligned,_⟩ := sites_agree {} swapped [] []
  have refused := (sites_agree {} crossed [] []).2.1 (.missingRawType "Event")
  have reported := (sites_agree {}
    (.decl (Grammar.EnumItem.toDecl (.ofIdents ⟨"Level",false⟩ [⟨"Low",false⟩]) none)) [] []).2.2.2
  refine ⟨conforming _ rfl,?_,refused.mpr rfl,(reported [] _ none rfl rfl rfl).1 _ rfl⟩
  obtain ⟨cases,toRaw,ofRaw,decode,encode,found,arms,_⟩ := aligned _ rfl
  cases found
  exact ⟨toRaw,ofRaw,decode,encode,arms⟩

end Codable

end CaseSynthesis
