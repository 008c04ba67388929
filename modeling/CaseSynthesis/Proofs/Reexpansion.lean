import CaseSynthesis.Proofs.Acceptance
import CaseSynthesis.Proofs.Diagnostics

/-! Expanding an enum twice. The enum that an expansion writes out declares the fallback, by the very
name that the settings give it. All that is checked before the fallback was checked the first time, so
that no rule gets any further with it. -/

namespace CaseSynthesis

open Grammar Rendering

/-- An expansion under valid settings adds a variant that is called as the settings say, whether it is
written raw or not. -/
theorem expandItem_kept (settings : Settings) (rule : Rule) (arguments : Lexemes) (item : EnumItem)
    (expanded : Expanded) (valid : settings.validate = .ok ())
    (done : expandItem settings rule arguments (.enum item) = .ok expanded) :
    item.generics.isEmpty = true ∧ item.Kept expanded.rendered.item settings.fallbackCase ∧
      ∃ rawType, (Node.decl (item.toDecl rawType)).Admits settings.fallbackCase := by
  obtain ⟨rawType,ident,taken,spelled,output⟩ :=
    expandItem_item settings rule arguments item expanded done
  obtain ⟨_,_,same,_,expands⟩ :=
    (expandItem_isOk_iff settings rule arguments _).mp ((isOk_iff _).mpr ⟨expanded,done⟩)
  obtain rfl := Item.enum.inj same
  have named : ident.name = settings.fallbackCase := by
    rw [caseIdent_fallback settings valid] at spelled
    split at spelled
    · rw [← Except.ok.inj spelled]
    · contradiction
  refine ⟨expands.plain,?_,rawType,taken.admitted⟩
  rw [output,← named]
  exact withCases_kept item ident

section

variable {item written : EnumItem} {fallback : String} (kept : item.Kept written fallback)

include kept

/-- What was read once can be read again: the added case has no payload, and no other has its name. -/
theorem Grammar.EnumItem.Kept.enumerates {rawType : Option TypeName}
    (admitted : (Node.decl (item.toDecl rawType)).Admits fallback) (rawType' : Option TypeName) :
    (Node.decl (written.toDecl rawType')).Enumerates where
  enum := ⟨_,rfl,rfl⟩
  units := by
    intro element listed
    change element ∈ (written.toDecl rawType').elements at listed
    rw [kept.elements_eq,List.mem_append] at listed
    rcases listed with own | added
    · obtain ⟨before,declared,rfl⟩ := List.mem_map.mp own
      exact admitted.units before declared
    · rw [List.mem_singleton.mp added]
  distinct := kept.caseNames_nodup rawType admitted

theorem Grammar.EnumItem.Kept.fallback_declared (rawType : Option TypeName) :
    fallback ∈ (Node.decl (written.toDecl rawType)).elements.map CaseElement.name := by
  change fallback ∈ (written.toDecl rawType).elements.map CaseElement.name
  rw [kept.elements_eq,List.map_append]
  exact List.mem_append_right _ (List.mem_singleton_self _)

/-- The added variant is the one that an error about the fallback is shown at. -/
private theorem Grammar.EnumItem.Kept.fallback_shown :
    ∃ last, written.ownVariants.getLast? = some last ∧ last.caseName = fallback ∧
      written.variant? fallback = some last := by
  obtain ⟨own,last,_,all,_,_,named,_⟩ := kept.variants
  refine ⟨last,by rw [all,List.getLast?_concat],named,?_⟩
  rw [← named]
  exact written.variant?_last own last [] all List.not_mem_nil

end

section

variable (settings : Settings) (node : Node) (enumerates : node.Enumerates)
  (taken : settings.fallbackCase ∈ node.elements.map CaseElement.name)

include enumerates taken

private theorem synthesize_nullable_collides :
    synthesize settings .nullableEnum .memberSynthesis node =
      .error (.fallbackCollision settings.fallbackCase) := by
  have refused : Nullable.members settings node = .error (.fallbackCollision settings.fallbackCase) :=
    (checked_cases_eq_error_iff _ _ _ _ _).mpr (.collision enumerates taken)
  rw [synthesize,refused]
  rfl

private theorem synthesize_members_collides
    (typed : ∃ type, node.rawType? = some type ∧ Codable.isStringType type = true) :
    synthesize settings .codableEnum .memberSynthesis node =
      .error (.fallbackCollision settings.fallbackCase) := by
  have refused := (Codable.members_eq_error_iff settings node _).mpr
    (.collision enumerates typed taken)
  rw [synthesize,refused]
  rfl

private theorem synthesize_extensions_collides :
    synthesize settings .codableEnum .extensionSynthesis node =
      .error (.fallbackCollision settings.fallbackCase) := by
  have refused : Codable.extensions settings node =
      .error (.fallbackCollision settings.fallbackCase) :=
    (checked_cases_eq_error_iff _ _ _ _ _).mpr (.collision enumerates taken)
  obtain ⟨decl,rfl,kind⟩ := enumerates.enum
  rw [synthesize,(enum_eq_ok_iff _ _).mpr ⟨rfl,kind⟩]
  change (Codable.extensions settings (.decl decl) >>= _) = _
  rw [refused]
  rfl

end

def Rule.Typed (rule : Rule) (rawType : Option TypeName) : Prop :=
  rule = .nullableEnum ∨
    rule = .codableEnum ∧ ∃ type, rawType = some type ∧ Codable.isStringType type = true

/-- A rule that is not stopped by the raw type refuses the node at each of its sites alike. -/
theorem synthesize_collides (settings : Settings) (rule : Rule) (site : Site) (node : Node)
    (enumerates : node.Enumerates)
    (taken : settings.fallbackCase ∈ node.elements.map CaseElement.name)
    (typed : rule.Typed node.rawType?) (supported : rule.supports site = true) :
    synthesize settings rule site node = .error (.fallbackCollision settings.fallbackCase) := by
  rcases typed with rfl | ⟨rfl,typed⟩
  · cases site with
    | memberSynthesis => exact synthesize_nullable_collides settings node enumerates taken
    | expression | extensionSynthesis => contradiction
  · cases site with
    | memberSynthesis => exact synthesize_members_collides settings node enumerates taken typed
    | extensionSynthesis => exact synthesize_extensions_collides settings node enumerates taken
    | expression => contradiction

private theorem synthesizeAll_collides (settings : Settings) (rule : Rule) (node : Node)
    (enumerates : node.Enumerates)
    (taken : settings.fallbackCase ∈ node.elements.map CaseElement.name)
    (typed : rule.Typed node.rawType?) :
    rule.synthesizeAll settings node = .error (.fallbackCollision settings.fallbackCase) := by
  have member := synthesize_collides settings rule .memberSynthesis node enumerates taken typed
  rcases typed with rfl | ⟨rfl,_⟩
  · have refused := member rfl
    simp only [Rule.synthesizeAll,Rule.itemSites,List.mapM_cons,refused]
    rfl
  · rw [synthesizeAll_codable,member rfl]
    rfl

/-- What an expansion under valid settings writes out cannot be expanded again, by whichever rule.
Each rule finds the fallback declared, at every site where it may be applied, and the error is shown at
the variant that was added. -/
theorem expanded_enum_collides (settings : Settings) (rule : Rule) (arguments : Lexemes)
    (item : EnumItem) (expanded : Expanded) (valid : settings.validate = .ok ())
    (done : expandItem settings rule arguments (.enum item) = .ok expanded) (again : Rule) :
    (∀ rawType site, again.Typed rawType → again.supports site = true →
      synthesize settings again site (.decl (expanded.rendered.item.toDecl rawType)) =
        .error (.fallbackCollision settings.fallbackCase)) ∧
    ∃ last, expanded.rendered.item.ownVariants.getLast? = some last ∧
      last.caseName = settings.fallbackCase ∧
      ∀ arguments rawType, again.rawType arguments (.enum expanded.rendered.item) = .ok rawType →
        again.Typed rawType →
        expandItem settings again arguments (.enum expanded.rendered.item) =
          .error (.reported ⟨(SynthesisError.fallbackCollision settings.fallbackCase).message,
            last.tokens.span⟩) := by
  obtain ⟨plain,kept,own,admitted⟩ := expandItem_kept settings rule arguments item expanded valid done
  have inherited (rawType : Option TypeName) :
      (Node.decl (expanded.rendered.item.toDecl rawType)).rawType? = rawType := by
    cases rawType <;> rfl
  obtain ⟨last,added,named,shown⟩ := kept.fallback_shown
  refine ⟨?_,last,added,named,?_⟩
  · intro rawType site typed supported
    exact synthesize_collides settings again site _ (kept.enumerates admitted rawType)
      (kept.fallback_declared rawType) ((inherited rawType).symm ▸ typed) supported
  · intro arguments rawType given typed
    have refused := synthesizeAll_collides settings again _ (kept.enumerates admitted rawType)
      (kept.fallback_declared rawType) ((inherited rawType).symm ▸ typed)
    have generics : checkGenerics again (.enum expanded.rendered.item) = .ok () := by
      rw [checkGenerics_enum_eq_ok_iff,kept.generics]
      exact plain
    rw [← EnumItem.culprit_eq _ (.fallbackCollision settings.fallbackCase) _ rfl last shown]
    exact expandItem_refused settings again arguments _ rawType given generics _ refused

/-- A fallback that is written raw is found again under its bare name. -/
theorem expanded_enum_collides_keyword :
    ∃ expanded last, expandItem { fallbackCase := "type" } .nullableEnum [] (.enum status) =
        .ok expanded ∧
      expanded.rendered.item.ownVariants.getLast? = some last ∧
      synthesize { fallbackCase := "type" } .codableEnum .memberSynthesis
          (.decl (expanded.rendered.item.toDecl (some ⟨"String"⟩))) =
        .error (.fallbackCollision "type") ∧
      expandItem { fallbackCase := "type" } .nullableEnum [] (.enum expanded.rendered.item) =
        .error (.reported ⟨"case `type` collides with the synthesized fallback case",
          last.tokens.span⟩) := by
  have writable : isWritable "type" = true := by
    rw [isWritable,caseIdent_formed "type" (by decide) (by decide)]
    rfl
  have done := (expandItem_with_fallback_iff { fallbackCase := "type" } .nullableEnum "Unknown" []
    (.enum status) status_expanded).mpr ⟨by decide,writable⟩
  obtain ⟨expanded,done⟩ := (isOk_iff _).mp done
  obtain ⟨_,last,added,_,refused⟩ := expanded_enum_collides { fallbackCase := "type" } .nullableEnum []
    status expanded rfl done .nullableEnum
  obtain ⟨collides,_⟩ := expanded_enum_collides { fallbackCase := "type" } .nullableEnum [] status
    expanded rfl done .codableEnum
  exact ⟨expanded,last,done,added,collides (some ⟨"String"⟩) _ (.inr ⟨rfl,_,rfl,by decide⟩) rfl,
    refused [] none rfl (.inl rfl)⟩

end CaseSynthesis
