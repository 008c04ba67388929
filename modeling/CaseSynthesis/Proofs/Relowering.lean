import CaseSynthesis.Proofs.Targets
import CaseSynthesis.Proofs.ValidSettings

/-! The enum that an expansion writes out, against the one it was applied to. Nothing is lost but the
strings that stood for raw values, and nothing is added but the fallback, so that the new enum is
seen by the rules as the old one with one more case. -/

namespace CaseSynthesis

open Rendering

def CaseElement.withoutString (element : CaseElement) : CaseElement :=
  { element with rawValue := element.rawValue.filter fun literal => literal.str?.isNone }

def Member.withoutStrings : Member → Member
  | cases elements => cases (elements.map CaseElement.withoutString)
  | other source => other source

def Decl.withFallback (decl : Decl) (fallback : String) : Decl :=
  { decl with members := decl.members.map Member.withoutStrings ++ [.cases [⟨fallback,none,false⟩]] }

private theorem CaseElement.withoutString_rawValue (element : CaseElement)
    (spelled : ∀ spelling, element.rawValue ≠ some (.number spelling)) :
    element.withoutString.rawValue = none := by
  unfold withoutString
  cases value : element.rawValue with
  | none => rfl
  | some literal =>
    cases literal with
    | str text => rfl
    | number spelling => exact absurd value (spelled spelling)

private theorem Decl.withFallback_elements (decl : Decl) (fallback : String) :
    (decl.withFallback fallback).elements =
      decl.elements.map CaseElement.withoutString ++ [⟨fallback,none,false⟩] := by
  have each (member : Member) :
      member.withoutStrings.elements = member.elements.map CaseElement.withoutString := by
    cases member <;> rfl
  unfold Decl.elements Decl.withFallback
  rw [List.flatMap_append,List.flatMap_map,List.map_flatMap]
  simp only [each]
  rfl

namespace Grammar

def Variant.HasString (variant : Variant) : Prop :=
  ∃ value, variant.toElement.rawValue = some (.str value)

structure Variant.Kept (variant written : Variant) : Prop where
  attributes : written.attributes = variant.attributes
  name : written.name = variant.name
  fields : written.fields = variant.fields
  removed : variant.HasString → written.discriminant = none
  retained : ¬ variant.HasString → written.discriminant = variant.discriminant

/-- An enum as it is written out: all of it, and last a variant that is only a name. -/
structure EnumItem.Kept (item written : EnumItem) (fallback : String) : Prop where
  attributes : written.attributes = item.attributes
  visibility : written.visibility = item.visibility
  keyword : written.keyword = item.keyword
  name : written.name = item.name
  generics : written.generics = item.generics
  whereClause : written.whereClause = item.whereClause
  braces : written.opening = item.opening ∧ written.closing = item.closing
  variants : ∃ kept last, written.variants = commaBetween item.name.span (kept ++ [last]) ∧
    written.ownVariants = kept ++ [last] ∧ List.Forall₂ Variant.Kept item.ownVariants kept ∧
    last.attributes = [] ∧ last.caseName = fallback ∧ last.fields = [] ∧ last.discriminant = none

private theorem str?_toLiteral (expr : Expr) : expr.toLiteral.str? = expr.string? := by
  unfold Expr.toLiteral
  cases expr.string? <;> rfl

private theorem hasString_iff (variant : Variant) :
    variant.HasString ↔ ∃ equals value, variant.discriminant = some (equals,value) ∧
      value.string?.isSome = true := by
  unfold Variant.HasString Variant.toElement
  cases found : variant.discriminant with
  | none => simp
  | some pair =>
    obtain ⟨equals,value⟩ := pair
    simp only [Option.map_some,Option.some.injEq,Prod.mk.injEq,← str?_toLiteral]
    cases kind : value.toLiteral <;> simp [kind,Literal.str?]

/-- Writing and reading an enum tell strings from other discriminants alike. -/
theorem withoutString_kept (variant : Variant) : variant.Kept variant.withoutString := by
  cases found : variant.discriminant with
  | none =>
    have same : variant.withoutString = variant := by simp only [Variant.withoutString,found]
    rw [same]
    exact ⟨rfl,rfl,rfl,fun _ => found,fun _ => rfl⟩
  | some pair =>
    obtain ⟨equals,value⟩ := pair
    by_cases string : value.string?.isSome = true
    · have stripped : variant.withoutString = { variant with discriminant := none } := by
        simp only [Variant.withoutString,found,string,if_true]
      have text : variant.HasString := (hasString_iff variant).mpr ⟨equals,value,found,string⟩
      rw [stripped]
      exact ⟨rfl,rfl,rfl,fun _ => rfl,fun other => absurd text other⟩
    · have same : variant.withoutString = variant := by
        simp only [Variant.withoutString,found,string,if_false,Bool.false_eq_true]
      rw [same]
      refine ⟨rfl,rfl,rfl,fun text => ?_,fun _ => rfl⟩
      obtain ⟨_,other,again,held⟩ := (hasString_iff variant).mp text
      rw [found] at again
      obtain ⟨_,rfl⟩ := Prod.mk.inj (Option.some.inj again)
      exact absurd held string

private theorem Variant.Kept.toElement_eq {variant written : Variant} (kept : variant.Kept written) :
    written.toElement = variant.toElement.withoutString := by
  have name : written.caseName = variant.caseName := by rw [caseName,kept.name,caseName]
  have value : written.toElement.rawValue =
      variant.toElement.rawValue.filter fun literal => literal.str?.isNone := by
    by_cases string : variant.HasString
    · have gone : written.toElement.rawValue = none := by
        rw [toElement,kept.removed string,Option.map_none]
      obtain ⟨text,found⟩ := string
      rw [gone,found]
      rfl
    · have same : written.toElement.rawValue = variant.toElement.rawValue := by
        simp only [toElement,kept.retained string]
      rw [same]
      cases found : variant.toElement.rawValue with
      | none => rfl
      | some literal =>
        cases literal with
        | str text => exact absurd ⟨text,found⟩ string
        | number spelling => rfl
  have payload : written.toElement.hasPayload = variant.toElement.hasPayload := by
    simp only [toElement,kept.fields]
  unfold CaseElement.withoutString
  rw [← value,← payload]
  exact congrArg (fun name => CaseElement.mk name _ _) name

private theorem members_toDecl (item : EnumItem) (rawType : Option TypeName) :
    (item.toDecl rawType).members =
      item.ownVariants.map fun variant => .cases [variant.toElement] := by
  rw [EnumItem.toDecl,EnumItem.ownVariants,List.map_map]
  rfl

theorem elements_toDecl (item : EnumItem) (rawType : Option TypeName) :
    (item.toDecl rawType).elements = item.ownVariants.map Variant.toElement := by
  rw [Decl.elements,members_toDecl,List.flatMap_map,List.map_eq_flatMap]
  rfl

private theorem kept_members {variants written : List Variant}
    (each : List.Forall₂ Variant.Kept variants written) :
    written.map (fun variant => Member.cases [variant.toElement]) =
      (variants.map fun variant => Member.cases [variant.toElement]).map Member.withoutStrings := by
  induction each with
  | nil => rfl
  | cons first _ ih =>
    rw [List.map_cons,List.map_cons,List.map_cons,ih,first.toElement_eq]
    rfl

/-- What is kept is seen as before, but for the strings. -/
theorem EnumItem.Kept.toDecl_eq {item written : EnumItem} {fallback : String}
    (kept : item.Kept written fallback) (rawType : Option TypeName) :
    written.toDecl rawType = (item.toDecl rawType).withFallback fallback := by
  obtain ⟨variants,last,_,all,each,_,named,unit,plain⟩ := kept.variants
  have added : last.toElement = ⟨fallback,none,false⟩ := by
    simp [Variant.toElement,named,unit,plain]
  have members : (written.toDecl rawType).members =
      (item.toDecl rawType).members.map Member.withoutStrings ++
        [.cases [⟨fallback,none,false⟩]] := by
    rw [members_toDecl,all,List.map_append,kept_members each,List.map_singleton,added,
      members_toDecl]
  have name : (written.toDecl rawType).name = (item.toDecl rawType).name := by
    rw [EnumItem.toDecl,kept.name,EnumItem.toDecl]
  rw [Decl.withFallback,← members,← name]
  rfl

theorem EnumItem.Kept.elements_eq {item written : EnumItem} {fallback : String}
    (kept : item.Kept written fallback) (rawType : Option TypeName) :
    (written.toDecl rawType).elements =
      (item.toDecl rawType).elements.map CaseElement.withoutString ++ [⟨fallback,none,false⟩] := by
  rw [kept.toDecl_eq,Decl.withFallback_elements]

/-- If there are no numbers, only strings are there to be removed. -/
private theorem EnumItem.Kept.discriminant_none {item written : EnumItem} {fallback : String}
    (kept : item.Kept written fallback) (rawType : Option TypeName)
    (spelled : ∀ element ∈ (item.toDecl rawType).elements, ∀ spelling,
      element.rawValue ≠ some (.number spelling)) :
    ∀ variant ∈ written.ownVariants, variant.discriminant = none := by
  intro variant listed
  have member : variant.toElement ∈ (written.toDecl rawType).elements := by
    rw [elements_toDecl]
    exact List.mem_map_of_mem listed
  have bare : variant.toElement.rawValue = none := by
    rw [kept.elements_eq,List.mem_append] at member
    rcases member with own | added
    · obtain ⟨element,declared,same⟩ := List.mem_map.mp own
      rw [← same]
      exact element.withoutString_rawValue (spelled element declared)
    · rw [List.mem_singleton.mp added]
  exact Option.map_eq_none_iff.mp bare

theorem EnumItem.Kept.caseNames_nodup {item written : EnumItem} {fallback : String}
    (kept : item.Kept written fallback) (rawType : Option TypeName)
    (admitted : (Node.decl (item.toDecl rawType)).Admits fallback) :
    (Item.caseNames (.enum written)).Nodup := by
  change ((written.toDecl rawType).elements.map CaseElement.name).Nodup
  rw [kept.elements_eq,List.map_append,List.map_map,List.map_singleton]
  refine List.Nodup.append admitted.distinct (List.nodup_singleton _) ?_
  rw [List.disjoint_singleton]
  exact admitted.free

theorem withCases_kept (item : EnumItem) (ident : Ident) :
    item.Kept (item.withCases [ident]) ident.name where
  attributes := rfl
  visibility := rfl
  keyword := rfl
  name := rfl
  generics := rfl
  whereClause := rfl
  braces := ⟨rfl,rfl⟩
  variants := by
    refine ⟨item.ownVariants.map Variant.withoutString,.ofIdent item.name.span ident,rfl,
      commaBetween_phrases _ _,?_,rfl,rfl,rfl,rfl⟩
    rw [List.forall₂_map_right_iff,List.forall₂_same]
    exact fun variant _ => withoutString_kept variant

end Grammar

def Spelled (names : List String) (idents : List Ident) : Prop :=
  List.Forall₂ (fun name ident => caseIdent name = .ok ident) names idents

/-- A declaration adds an identifier if it is that of a case, and else none. -/
private theorem add_cases (serde : List Token) (additions : Additions) (declaration : Declaration)
    (result : Additions) (added : additions.add serde declaration = .ok result) :
    ∃ idents, Spelled declaration.case?.toList idents ∧
      result.cases = additions.cases ++ idents := by
  cases declaration with
  | case name =>
    obtain ⟨ident,named,same⟩ := (bind_eq_ok_iff _ _ _).mp added
    obtain rfl := Except.ok.inj same
    exact ⟨[ident],.cons named .nil,rfl⟩
  | initializer built | accessor built | extension built =>
    obtain ⟨tokens,_,same⟩ := (bind_eq_ok_iff _ _ _).mp added
    obtain rfl := Except.ok.inj same
    exact ⟨[],.nil,(List.append_nil _).symm⟩

private theorem foldlM_add_cases (serde : List Token) (declarations : List Declaration)
    (additions result : Additions)
    (added : declarations.foldlM (Additions.add serde) additions = .ok result) :
    ∃ idents, Spelled (declarations.filterMap Declaration.case?) idents ∧
      result.cases = additions.cases ++ idents := by
  induction declarations generalizing additions with
  | nil =>
    obtain rfl : additions = result := Except.ok.inj added
    exact ⟨[],.nil,(List.append_nil _).symm⟩
  | cons declaration declarations ih =>
    rw [List.foldlM_cons] at added
    obtain ⟨next,first,rest⟩ := (bind_eq_ok_iff _ _ _).mp added
    obtain ⟨head,named,gained⟩ := add_cases serde additions declaration next first
    obtain ⟨tail,others,later⟩ := ih next rest
    have listed : (declaration :: declarations).filterMap Declaration.case? =
        declaration.case?.toList ++ declarations.filterMap Declaration.case? := by
      cases declaration <;> rfl
    refine ⟨head ++ tail,?_,?_⟩
    · rw [listed]
      exact List.rel_append named others
    · rw [later,gained,List.append_assoc]

/-- An enum is written with a variant for each case that is declared. -/
theorem enum_item (settings : Settings) (item : Grammar.EnumItem)
    (declarations : List Declaration) (rendered : Rendered)
    (written : Rendering.enum settings item declarations = .ok rendered) :
    ∃ idents, Spelled (declarations.filterMap Declaration.case?) idents ∧
      rendered.item = item.withCases idents := by
  simp only [Rendering.enum,bind_eq_ok_iff,pure,Except.pure,Except.ok.injEq] at written
  obtain ⟨serde,_,additions,added,rfl⟩ := written
  obtain ⟨idents,named,cases⟩ := foldlM_add_cases serde declarations {} additions added
  exact ⟨idents,named,congrArg item.withCases cases⟩

theorem synthesizeAll_cases (settings : Settings) (rule : Rule) (node : Node)
    (built : List (List Declaration)) (synthesized : rule.synthesizeAll settings node = .ok built) :
    built.flatten.filterMap Declaration.case? = [settings.fallbackCase] := by
  cases rule with
  | stringify => contradiction
  | nullableEnum =>
    obtain ⟨_,rfl⟩ := (synthesizeAll_nullable_eq_ok_iff settings node built).mp synthesized
    rfl
  | codableEnum =>
    obtain ⟨_,rfl⟩ := (synthesizeAll_codable_eq_ok_iff settings node built).mp synthesized
    rfl

/-- Expanding an enum writes it out with the fallback for its last variant. -/
theorem expandItem_item (settings : Settings) (rule : Rule) (arguments : Lexemes)
    (item : Grammar.EnumItem) (expanded : Expanded)
    (done : expandItem settings rule arguments (.enum item) = .ok expanded) :
    ∃ rawType ident, rule.Takes settings (.decl (item.toDecl rawType)) ∧
      caseIdent settings.fallbackCase = .ok ident ∧
      expanded.rendered.item = item.withCases [ident] := by
  obtain ⟨_,rawType,same,typed,expands⟩ :=
    (expandItem_isOk_iff settings rule arguments _).mp ((isOk_iff _).mpr ⟨expanded,done⟩)
  obtain rfl := Grammar.Item.enum.inj same
  obtain ⟨built,_,synthesized,_⟩ := synthesizeAll_of_takes settings rule _ expands.taken
  have generics := (checkGenerics_enum_eq_ok_iff rule item).mpr expands.plain
  rw [expandItem_synthesized settings rule arguments item rawType typed generics built synthesized]
    at done
  cases written : Rendering.enum settings item built.flatten with
  | error error => cases error <;> simp [written,locateRendering,Except.mapError,Except.map] at done
  | ok rendered =>
    rw [written] at done
    obtain rfl := Except.ok.inj done
    obtain ⟨idents,named,output⟩ := enum_item settings item _ rendered written
    rw [synthesizeAll_cases settings rule _ built synthesized] at named
    obtain ⟨ident,_,spelled,none,rfl⟩ := List.forall₂_cons_left_iff.mp named
    obtain rfl := List.forall₂_nil_left_iff.mp none
    exact ⟨rawType,ident,expands.taken,spelled,output⟩

/-- Under valid settings, expanding an enum writes it out as it stands, without the discriminants that
are strings and with the fallback for its last variant. Seen by the rules again, it is the enum from
before with every string for a raw value gone and with the fallback for one more case, and no two of
its cases have the same name. -/
theorem expanded_enum_relowered (settings : Settings) (rule : Rule) (arguments : Lexemes)
    (item : Grammar.EnumItem) (expanded : Expanded) (valid : settings.validate = .ok ())
    (done : expandItem settings rule arguments (.enum item) = .ok expanded) :
    item.Kept expanded.rendered.item settings.fallbackCase ∧
    (rule = .codableEnum →
      ∀ variant ∈ expanded.rendered.item.ownVariants, variant.discriminant = none) ∧
    (∀ rawType, expanded.rendered.item.toDecl rawType =
      (item.toDecl rawType).withFallback settings.fallbackCase) ∧
    (Grammar.Item.caseNames (.enum expanded.rendered.item)).Nodup ∧
    expanded.tokens = expanded.rendered.item.tokens.tokens ++ expanded.rendered.implementations := by
  obtain ⟨rawType,ident,taken,spelled,output⟩ :=
    expandItem_item settings rule arguments item expanded done
  have named : ident.name = settings.fallbackCase := by
    rw [caseIdent_fallback settings valid] at spelled
    split at spelled
    · rw [← Except.ok.inj spelled]
    · contradiction
  have kept : item.Kept expanded.rendered.item settings.fallbackCase := by
    rw [output,← named]
    exact Grammar.withCases_kept item ident
  exact ⟨kept,fun codable => kept.discriminant_none rawType (taken.coded codable).spelled,
    kept.toDecl_eq,kept.caseNames_nodup rawType taken.admitted,rfl⟩

def signals : Grammar.EnumItem :=
  let variant (name value : String) : Grammar.Variant :=
    ⟨[],⟨.ident ⟨name,false⟩,.empty⟩,[],
      some ([⟨.punct '=' false,.empty⟩],⟨.literal ⟨.literal value,.empty⟩,[⟨.literal value,.empty⟩]⟩)⟩
  { Grammar.EnumItem.ofIdents ⟨"Signal",false⟩ [] with
    variants := Grammar.commaBetween .empty [variant "Stop" "\"halt\"",variant "Go" "3"] }

/-- The string is gone, while the number stays. -/
theorem expanded_enum_relowered_signals :
    ∃ expanded, expandItem {} .nullableEnum [] (.enum signals) = .ok expanded ∧
      (expanded.rendered.item.toDecl none).elements =
        [⟨"Stop",none,false⟩,⟨"Go",some (.number "3"),false⟩,⟨"Unknown",none,false⟩] := by
  have strings : (signals.toDecl none).elements =
      [⟨"Stop",some (.str "halt"),false⟩,⟨"Go",some (.number "3"),false⟩] := by cbv
  have done : (expandItem {} .nullableEnum [] (.enum signals)).isOk = true :=
    nullable_expanded signals rfl
      ⟨⟨⟨_,rfl,rfl⟩,by simp [Node.elements,strings],by simp [Node.elements,strings]⟩,
        by simp [Node.elements,strings]⟩ (by decide)
  obtain ⟨expanded,done⟩ := (isOk_iff _).mp done
  obtain ⟨_,_,again,_⟩ :=
    expanded_enum_relowered {} .nullableEnum [] signals expanded (by decide) done
  refine ⟨expanded,done,?_⟩
  rw [again,Decl.withFallback_elements,strings]
  rfl

end CaseSynthesis
