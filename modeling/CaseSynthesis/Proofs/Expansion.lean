import CaseSynthesis.Proofs.Rendering
import CaseSynthesis.Proofs.Sites

/-! Which items are expanded. Apart from the type that is given for raw values, this depends only on
the names that are written and on the checks of the rule. -/

namespace CaseSynthesis

open Rendering

def Grammar.Item.caseNames (item : Grammar.Item) : List String :=
  (item.toDecl none).elements.map CaseElement.name

structure Rule.Takes (settings : Settings) (rule : Rule) (node : Node) : Prop where
  enums : rule ≠ .stringify
  admitted : node.Admits settings.fallbackCase
  coded : rule = .codableEnum → Codable.Accepts settings node

theorem takes_of_synthesizeAll (settings : Settings) (rule : Rule) (node : Node)
    (built : List (List Declaration)) (synthesized : rule.synthesizeAll settings node = .ok built) :
    rule.Takes settings node := by
  cases rule with
  | stringify => contradiction
  | nullableEnum =>
    obtain ⟨admitted,_⟩ := (synthesizeAll_nullable_eq_ok_iff settings node built).mp synthesized
    exact ⟨by decide,admitted,by simp⟩
  | codableEnum =>
    obtain ⟨accepted,_⟩ := (synthesizeAll_codable_eq_ok_iff settings node built).mp synthesized
    exact ⟨by decide,accepted.toAdmits,fun _ => accepted⟩

/-- What a rule makes of a node that it takes starts with the fallback. It can be written if all the
names in it can. -/
theorem synthesizeAll_of_takes (settings : Settings) (rule : Rule) (node : Node)
    (taken : rule.Takes settings node) :
    ∃ built rest, rule.synthesizeAll settings node = .ok built ∧
      built.flatten = .case settings.fallbackCase :: rest ∧
      (built.flatten.all isRenderable = true ↔
        (∀ name ∈ settings.fallbackCase :: node.elements.map CaseElement.name,
          isWritable name = true) ∧
        (rule = .codableEnum → (typeTokens ⟨node.name⟩).isOk = true)) := by
  cases rule with
  | stringify => exact absurd rfl taken.enums
  | nullableEnum =>
    refine ⟨_,_,(synthesizeAll_nullable_eq_ok_iff settings node _).mpr ⟨taken.admitted,rfl⟩,rfl,?_⟩
    rw [List.flatten_singleton,nullable_isRenderable_iff]
    simp
  | codableEnum =>
    refine ⟨_,_,(synthesizeAll_codable_eq_ok_iff settings node _).mpr ⟨taken.coded rfl,rfl⟩,rfl,?_⟩
    rw [List.flatten_cons,List.flatten_singleton,List.all_append,Bool.and_eq_true,
      members_isRenderable_iff,extensions_isRenderable_iff]
    tauto

theorem checkGenerics_enum_eq_ok_iff (rule : Rule) (item : Grammar.EnumItem) :
    checkGenerics rule (.enum item) = .ok () ↔ item.generics.isEmpty = true := by
  unfold checkGenerics
  split <;> simp_all [ExpandError.at]

theorem locate_eq_ok_iff {α : Type} (item : Grammar.Item) (result : Except SynthesisError α)
    (value : α) : locate item result = .ok value ↔ result = .ok value := by
  cases result <;> simp [locate,Except.mapError]

private theorem located_isOk (item : Grammar.EnumItem) (result : Except RenderError Rendered)
    (declarations : List Declaration) :
    ((locateRendering item result).map fun rendered =>
      Expanded.mk rendered declarations).isOk = result.isOk := by
  cases result <;> rfl

/-- An enum that a rule takes is expanded exactly if all that is written for it can be. -/
private theorem expandItem_taken_isOk_iff (settings : Settings) (rule : Rule) (arguments : Lexemes)
    (item : Grammar.EnumItem) (rawType : Option TypeName)
    (typed : rule.rawType arguments (.enum item) = .ok rawType)
    (plain : item.generics.isEmpty = true)
    (taken : rule.Takes settings (.decl (item.toDecl rawType))) :
    (expandItem settings rule arguments (.enum item)).isOk = true ↔
      (pathTokens settings.serdePath).isOk = true ∧
      (∀ name ∈ settings.fallbackCase :: Grammar.Item.caseNames (.enum item),
        isWritable name = true) ∧
      (rule = .codableEnum → (typeTokens ⟨item.name.name⟩).isOk = true) := by
  obtain ⟨built,_,synthesized,_,renderable⟩ := synthesizeAll_of_takes settings rule _ taken
  have generics := (checkGenerics_enum_eq_ok_iff rule item).mpr plain
  rw [expandItem_synthesized settings rule arguments item rawType typed generics built synthesized,
    located_isOk,enum_isOk,Bool.and_eq_true,renderable]
  exact Iff.rfl

structure Expands (settings : Settings) (rule : Rule) (rawType : Option TypeName)
    (item : Grammar.EnumItem) : Prop where
  plain : item.generics.isEmpty = true
  taken : rule.Takes settings (.decl (item.toDecl rawType))
  path : (pathTokens settings.serdePath).isOk = true
  written : ∀ name ∈ settings.fallbackCase :: Grammar.Item.caseNames (.enum item),
    isWritable name = true
  target : rule = .codableEnum → (typeTokens ⟨item.name.name⟩).isOk = true

theorem expandItem_isOk_iff (settings : Settings) (rule : Rule) (arguments : Lexemes)
    (item : Grammar.Item) :
    (expandItem settings rule arguments item).isOk = true ↔
      ∃ enum rawType, item = .enum enum ∧ rule.rawType arguments item = .ok rawType ∧
        Expands settings rule rawType enum := by
  constructor
  · intro expanded
    obtain ⟨result,opened⟩ := (isOk_iff _).mp expanded
    simp only [expandItem,bind_eq_ok_iff,locate_eq_ok_iff] at opened
    obtain ⟨rawType,typed,_,generics,built,synthesized,_⟩ := opened
    have taken := takes_of_synthesizeAll settings rule _ built synthesized
    obtain ⟨enum,rfl⟩ := enum_of_enumerates item rawType taken.admitted.toEnumerates
    have plain := (checkGenerics_enum_eq_ok_iff rule enum).mp generics
    obtain ⟨path,written,target⟩ :=
      (expandItem_taken_isOk_iff settings rule arguments enum rawType typed plain taken).mp expanded
    exact ⟨enum,rawType,rfl,typed,plain,taken,path,written,target⟩
  · rintro ⟨enum,rawType,rfl,typed,plain,taken,path,written,target⟩
    exact (expandItem_taken_isOk_iff settings rule arguments enum rawType typed plain taken).mpr
      ⟨path,written,target⟩

end CaseSynthesis
