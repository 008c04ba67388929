import CaseSynthesis.Program.Reading
import CaseSynthesis.Proofs.Refusals
import CaseSynthesis.Proofs.Relowering

/-! Where an error of a rule is shown. A rule tells the name of a case and not its place, and the last
variant of that name is taken for it. Once the names of an enum are known to be distinct there is only
one such variant, but the checks for payloads and for repeated names come before that. -/

namespace CaseSynthesis

structure Rule.Refuses (settings : Settings) (rule : Rule) (arguments : Lexemes)
    (item : Grammar.EnumItem) (error : SynthesisError) : Prop where
  plain : checkGenerics rule (.enum item) = .ok ()
  refused : ∃ rawType, rule.rawType arguments (.enum item) = .ok rawType ∧
    rule.synthesizeAll settings (.decl (item.toDecl rawType)) = .error error

namespace Grammar

theorem EnumItem.variant?_last (item : EnumItem) (front : List Variant) (shown : Variant)
    (back : List Variant) (split : item.ownVariants = front ++ shown :: back)
    (last : shown.caseName ∉ back.map Variant.caseName) :
    item.variant? shown.caseName = some shown := by
  have none : back.filter (fun variant => variant.caseName == shown.caseName) = [] := by
    rw [List.filter_eq_nil_iff]
    intro variant member same
    exact last (List.mem_map.mpr ⟨variant,member,eq_of_beq same⟩)
  unfold EnumItem.variant?
  change ((item.ownVariants).filter _).getLast? = _
  rw [split,List.filter_append,List.filter_cons_of_pos (by simp),none,
    List.getLast?_concat]

private theorem exists_last_variant (variants : List Variant) (case : String)
    (declared : case ∈ variants.map Variant.caseName) :
    ∃ front shown back, variants = front ++ shown :: back ∧ shown.caseName = case ∧
      case ∉ back.map Variant.caseName := by
  induction variants with
  | nil => simp at declared
  | cons variant rest ih =>
    by_cases later : case ∈ rest.map Variant.caseName
    · obtain ⟨front,shown,back,rfl,named,last⟩ := ih later
      exact ⟨variant :: front,shown,back,rfl,named,last⟩
    · rcases List.mem_cons.mp declared with here | there
      · exact ⟨[],variant,rest,rfl,here.symm,later⟩
      · exact absurd there later

theorem EnumItem.culprit_eq (item : EnumItem) (error : SynthesisError) (case : String)
    (about : error.case? = some case) (shown : Variant) (found : item.variant? case = some shown) :
    (Item.enum item).culprit error = shown.tokens := by
  simp only [Item.culprit,about,found]

end Grammar

open Grammar

/-- An error about a case is shown at the last variant of that name, while the check stopped at the
first that is at fault. The two are the same exactly if no later variant has the name. That is so for
every error but those about a payload or a repeated name. -/
theorem shown_at_last_of_name (settings : Settings) (rule : Rule) (arguments : Lexemes)
    (item : EnumItem) (error : SynthesisError) (refuses : rule.Refuses settings arguments item error)
    (case : String) (about : error.case? = some case) :
    ∃ before stopped after front shown back,
      item.ownVariants = before ++ stopped :: after ∧ stopped.caseName = case ∧
      StopsAt settings.fallbackCase rule (before.map Variant.toElement) stopped.toElement
        (after.map Variant.toElement) error ∧
      item.ownVariants = front ++ shown :: back ∧ shown.caseName = case ∧
      case ∉ back.map Variant.caseName ∧ item.variant? case = some shown ∧
      expandItem settings rule arguments (.enum item) =
        .error (.reported ⟨error.message,shown.tokens.span⟩) ∧
      (front = before ∧ shown = stopped ∧ back = after ↔ case ∉ after.map Variant.caseName) ∧
      ((∀ cause, error ≠ .structural rule cause) → case ∉ after.map Variant.caseName) := by
  obtain ⟨rawType,typed,refused⟩ := refuses.refused
  obtain ⟨elements,element,others,split,stops⟩ := synthesizeAll_stops settings rule _ error refused
    (by simp [about])
  change (item.toDecl rawType).elements = _ at split
  rw [elements_toDecl] at split
  obtain ⟨before,tail,cut,rfl,rest⟩ := List.map_eq_append_iff.mp split
  obtain ⟨stopped,after,rfl,rfl,rfl⟩ := List.map_eq_cons_iff.mp rest
  have named : stopped.caseName = case := Option.some.inj (stops.case?_eq.symm.trans about)
  have names : (after.map Variant.toElement).map CaseElement.name =
      after.map Variant.caseName := by
    rw [List.map_map]
    rfl
  have unique (later : ∀ cause, error ≠ .structural rule cause) :
      case ∉ after.map Variant.caseName := by
    rw [← names,← named]
    exact stops.name_not_after later
  have reported (shown : Variant) (found : item.variant? case = some shown) :
      expandItem settings rule arguments (.enum item) =
        .error (.reported ⟨error.message,shown.tokens.span⟩) := by
    rw [← item.culprit_eq error case about shown found]
    exact expandItem_refused settings rule arguments (.enum item) rawType typed refuses.plain error
      refused
  by_cases later : case ∈ after.map Variant.caseName
  · -- A later variant of the name draws the error away from the one that is at fault.
    obtain ⟨middle,shown,back,rfl,again,last⟩ := exists_last_variant after case later
    have place : item.ownVariants = (before ++ stopped :: middle) ++ shown :: back := by
      rw [cut,List.append_assoc,List.cons_append]
    have found : item.variant? case = some shown :=
      again ▸ item.variant?_last _ shown back place (again ▸ last)
    refine ⟨before,stopped,_,_,shown,back,cut,named,stops,place,again,last,found,reported shown found,
      ⟨?_,fun none => absurd later none⟩,unique⟩
    rintro ⟨same,_,_⟩
    simpa using congrArg List.length same
  · have found : item.variant? case = some stopped :=
      named ▸ item.variant?_last before stopped after cut (named ▸ later)
    exact ⟨before,stopped,after,before,stopped,after,cut,named,stops,cut,named,later,found,
      reported stopped found,⟨fun _ => later,fun _ => ⟨rfl,rfl,rfl⟩⟩,unique⟩

def repeating : EnumItem := .ofIdents ⟨"Level",false⟩ [⟨"Low",false⟩,⟨"Low",false⟩,⟨"Low",false⟩]

/-- The check stops at the second of three, and the error is shown at the third. -/
theorem shown_at_last_of_name_repeating :
    Rule.nullableEnum.Refuses {} [] repeating (.structural .nullableEnum (.duplicateCase "Low")) ∧
    ∃ front shown, repeating.ownVariants = front ++ [shown] ∧
      repeating.variant? "Low" = some shown := by
  have refuses : Rule.nullableEnum.Refuses {} [] repeating
      (.structural .nullableEnum (.duplicateCase "Low")) := ⟨rfl,none,rfl,rfl⟩
  obtain ⟨_,_,_,front,shown,back,_,_,_,place,_,last,found,_⟩ :=
    shown_at_last_of_name {} .nullableEnum [] repeating _ refuses "Low" rfl
  have none : back = [] := by
    cases back with
    | nil => rfl
    | cons variant rest =>
      have listed : variant ∈ repeating.ownVariants := by simp [place]
      have named : ∀ variant ∈ repeating.ownVariants, variant.caseName = "Low" := by
        simp [repeating,EnumItem.ofIdents,EnumItem.ownVariants,commaBetween,Variant.ofIdent,
          Variant.caseName,Lexeme.name]
      exact absurd (by simp [named variant listed]) last
  exact ⟨refuses,front,shown,none ▸ place,found⟩

def shapeText : String := "enum Shape \x7b A(u8), A \x7d"

def shownError : Item → Option (List (CaseElement × Span) × Diagnostic)
  | .enum item =>
    match expandItem {} .nullableEnum [] (.enum item) with
    | .error (.reported diagnostic) =>
      some (item.ownVariants.map fun variant => (variant.toElement,variant.tokens.span),
        diagnostic)
    | _ => none
  | _ => none

/-- The error about the payload of the first case is shown at the second, which has none. -/
theorem payload_shown_at_unit_case :
    (readItem shapeText).toOption.bind shownError =
      some ([(⟨"A",none,true⟩,⟨⟨1,13⟩,⟨1,18⟩⟩),(⟨"A",none,false⟩,⟨⟨1,20⟩,⟨1,21⟩⟩)],
        ⟨"#[nullable_enum] case `A` carries associated values, only unit cases are supported",
          ⟨⟨1,20⟩,⟨1,21⟩⟩⟩) := by decide +kernel

end CaseSynthesis
