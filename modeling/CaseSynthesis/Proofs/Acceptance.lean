import CaseSynthesis.Proofs.Conformances
import CaseSynthesis.Proofs.Refusals

/-! Which nodes the rules for enums accept, and with which error they refuse each of the others. Of
everything that is wrong with a node only the first is reported: first what it is, then its cases in
order, then its raw type, then the fallback, then the raw values in order. -/

namespace CaseSynthesis

/-- Elements that pass are read one by one, and their names are kept for the rest. -/
private theorem casesAfter_append (seen : List String) (before rest : List CaseElement)
    (units : ∀ element ∈ before, element.hasPayload = false)
    (distinct : DistinctAfter seen (before.map CaseElement.name)) :
    casesAfter seen (before ++ rest) =
      (casesAfter ((before.map CaseElement.name).reverse ++ seen) rest).map
        (before.map CaseElement.case ++ ·) := by
  induction before generalizing seen with
  | nil =>
    change casesAfter seen rest = (casesAfter seen rest).map id
    cases casesAfter seen rest <;> rfl
  | cons element before ih =>
    obtain ⟨unit,units⟩ := List.forall_mem_cons.mp units
    obtain ⟨fresh,distinct⟩ := (distinctAfter_cons _ _ _).mp distinct
    have passed : casesAfter seen (element :: (before ++ rest)) =
        (casesAfter (element.name :: seen) (before ++ rest)).map (element.case :: ·) := by
      rw [casesAfter,unit,if_neg (by simp),if_neg fresh]
      cases casesAfter (element.name :: seen) (before ++ rest) <;> rfl
    rw [List.cons_append,passed,ih _ units distinct]
    simp only [List.map_cons,List.reverse_cons,List.append_assoc,List.cons_append,List.nil_append]
    cases casesAfter ((before.map CaseElement.name).reverse ++ element.name :: seen) rest <;> rfl

/-- The first element that has a payload or the name of an earlier one, and the error about it. A
payload counts before a name. -/
inductive FaultyCase (before : List CaseElement) (stopped : CaseElement) : Mismatch → Prop
  | payload (carries : stopped.hasPayload = true) :
      FaultyCase before stopped (.casePayload stopped.name)
  | duplicate (unit : stopped.hasPayload = false)
      (repeats : stopped.name ∈ before.map CaseElement.name) :
      FaultyCase before stopped (.duplicateCase stopped.name)

def FirstFaulty (elements : List CaseElement) (cause : Mismatch) : Prop :=
  ∃ before stopped after, elements = before ++ stopped :: after ∧
    (∀ element ∈ before, element.hasPayload = false) ∧ (before.map CaseElement.name).Nodup ∧
    FaultyCase before stopped cause

private theorem decl_cases_eq_error_iff (decl : Decl) (cause : Mismatch) :
    decl.cases = .error cause ↔ FirstFaulty decl.elements cause := by
  constructor
  · intro failed
    obtain ⟨before,stopped,after,split,units,distinct,why⟩ := casesAfter_eq_error [] _ cause failed
    refine ⟨before,stopped,after,split,units,(distinctAfter_start _).mp distinct,?_⟩
    rcases why with ⟨carries,rfl⟩ | ⟨unit,repeats,rfl⟩
    · exact .payload carries
    · exact .duplicate unit (by simpa using repeats)
  · rintro ⟨before,stopped,after,split,units,distinct,fault⟩
    rw [Decl.cases,split,casesAfter_append _ _ _ units ((distinctAfter_start _).mpr distinct),
      casesAfter]
    cases fault with
    | payload carries =>
      rw [if_pos carries]
      rfl
    | duplicate unit repeats =>
      rw [unit,if_neg (by simp),if_pos (by simpa using repeats)]
      rfl

/-- Two declarations that differ only in how their case elements are grouped into members, and in
the members that are no cases. -/
structure Decl.Regrouped (first second : Decl) : Prop where
  kind : first.kind = second.kind
  name : first.name = second.name
  inherited : first.inherited = second.inherited
  elements : first.members.flatMap Member.elements = second.members.flatMap Member.elements

namespace Decl.Regrouped

variable {first second : Decl} (regrouped : first.Regrouped second)
include regrouped

private theorem cases : first.cases = second.cases := by
  rw [Decl.cases,Decl.elements,regrouped.elements]
  rfl

private theorem node_cases : (Node.decl first).cases = (Node.decl second).cases := by
  simp only [Node.cases,Node.enum,regrouped.kind,regrouped.name]
  split
  · exact regrouped.cases
  · rfl

private theorem rawType : Codable.rawType first = Codable.rawType second := by
  rw [Codable.rawType,Codable.rawType,regrouped.inherited,regrouped.name]

private theorem members (settings : Settings) :
    Codable.members settings (.decl first) = Codable.members settings (.decl second) := by
  simp only [Codable.members,Node.enum,regrouped.kind,regrouped.name]
  split
  · simp only [structural,Except.mapError,bind,Except.bind,regrouped.cases,regrouped.rawType]
  · rfl

end Decl.Regrouped

def gathered : Decl :=
  ⟨.enum, "Event", [⟨"String"⟩],
    [.cases [⟨"Opened", none, false⟩, ⟨"Closed", some (.str "done"), false⟩,
      ⟨"Opened", none, true⟩]]⟩

def scattered : Decl :=
  ⟨.enum, "Event", [⟨"String"⟩],
    [.cases [], .cases [⟨"Opened", none, false⟩], .other "fn turn(&self) {}",
      .cases [⟨"Closed", some (.str "done"), false⟩, ⟨"Opened", none, true⟩]]⟩

inductive Node.Unreadable : Node → Mismatch → Prop
  | expr (text : ExprText) :
      Unreadable (.expr text) (.unexpectedNode "an enum declaration" "an expression")
  | invocation (call : Invocation) :
      Unreadable (.invocation call) (.unexpectedNode "an enum declaration" "a macro invocation")
  | kind (decl : Decl) (other : decl.kind ≠ .enum) :
      Unreadable (.decl decl) (.notAnEnum decl.name decl.kind)
  | cases (decl : Decl) (enum : decl.kind = .enum) (cause : Mismatch)
      (fault : FirstFaulty (Node.decl decl).elements cause) : Unreadable (.decl decl) cause

private theorem node_cases_eq_error_iff (node : Node) (cause : Mismatch) :
    node.cases = .error cause ↔ node.Unreadable cause := by
  cases node with
  | expr text =>
    change Except.error _ = .error cause ↔ _
    constructor
    · rintro ⟨⟩
      exact .expr text
    · rintro ⟨⟩
      rfl
  | invocation call =>
    change Except.error _ = .error cause ↔ _
    constructor
    · rintro ⟨⟩
      exact .invocation call
    · rintro ⟨⟩
      rfl
  | decl decl =>
    by_cases enum : decl.kind = .enum
    · have read : (Node.decl decl).cases = decl.cases := by
        simp only [Node.cases,Node.enum,if_pos enum]
        rfl
      rw [read,decl_cases_eq_error_iff]
      constructor
      · exact .cases decl enum cause
      · rintro (_ | _ | ⟨_,other⟩ | ⟨_,_,_,fault⟩)
        · exact absurd enum other
        · exact fault
    · have read : (Node.decl decl).cases = .error (.notAnEnum decl.name decl.kind) := by
        simp only [Node.cases,Node.enum,if_neg enum]
        rfl
      rw [read,Except.error.injEq]
      constructor
      · rintro rfl
        exact .kind decl enum
      · rintro (_ | _ | _ | ⟨_,enum',_,_⟩)
        · rfl
        · exact absurd enum' enum

private theorem checkFallback_eq_error_iff (fallback : String) (elements : List CaseElement)
    (error : SynthesisError) :
    checkFallback fallback (elements.map CaseElement.case) = .error error ↔
      fallback ∈ elements.map CaseElement.name ∧ error = .fallbackCollision fallback := by
  constructor
  · intro failed
    obtain ⟨before,stopped,after,rfl,_,rfl,rfl⟩ := checkFallback_eq_error _ _ _ failed
    simp
  · rintro ⟨taken,rfl⟩
    cases checked : checkFallback fallback (elements.map CaseElement.case) with
    | ok _ => exact absurd taken ((checkFallback_eq_ok_iff _ _).mp checked)
    | error error =>
      obtain ⟨_,_,_,_,_,rfl,rfl⟩ := checkFallback_eq_error _ _ _ checked
      rfl

inductive Node.Refuses (node : Node) (fallback : String) (rule : Rule) : SynthesisError → Prop
  | unreadable (cause : Mismatch) (unreadable : node.Unreadable cause) :
      Refuses node fallback rule (.structural rule cause)
  | collision (enumerates : node.Enumerates)
      (taken : fallback ∈ node.elements.map CaseElement.name) :
      Refuses node fallback rule (.fallbackCollision fallback)

theorem checked_cases_eq_error_iff {α : Type} (rule : Rule) (node : Node) (fallback : String)
    (next : List Case → α) (error : SynthesisError) :
    (do
      let cases ← structural rule node.cases
      checkFallback fallback cases
      return next cases) = .error error ↔ node.Refuses fallback rule error := by
  simp only [bind_eq_error_iff,structural_eq_error_iff,structural_eq_ok_iff,
    node_cases_eq_error_iff,node_cases_eq_ok_iff]
  constructor
  · rintro (⟨cause,unreadable,rfl⟩ | ⟨_,⟨enumerates,rfl⟩,collides | ⟨_,_,done⟩⟩)
    · exact .unreadable cause unreadable
    · obtain ⟨taken,rfl⟩ := (checkFallback_eq_error_iff _ _ _).mp collides
      exact .collision enumerates taken
    · cases done
  · rintro (⟨cause,unreadable⟩ | ⟨enumerates,taken⟩)
    · exact .inl ⟨cause,unreadable,rfl⟩
    · exact .inr ⟨_,⟨enumerates,rfl⟩,.inl ((checkFallback_eq_error_iff _ _ _).mpr ⟨taken,rfl⟩)⟩

namespace Codable

private theorem rawType_eq_error_iff (decl : Decl) (error : SynthesisError) :
    rawType decl = .error error ↔
      decl.inherited = [] ∧ error = .missingRawType decl.name ∨
        ∃ type rest, decl.inherited = type :: rest ∧ isStringType type = false ∧
          error = .unsupportedRawType decl.name type.name := by
  unfold rawType
  cases decl.inherited with
  | nil =>
    simp only [Except.error.injEq,true_and,reduceCtorEq,false_and,exists_false,or_false]
    exact eq_comm
  | cons type rest =>
    cases string : isStringType type with
    | true =>
      simp only [string,if_true,reduceCtorEq,false_and,false_or,false_iff]
      rintro ⟨_,_,⟨⟩,other,_⟩
      rw [string] at other
      cases other
    | false =>
      simp only [string,Bool.false_eq_true,if_false,reduceCtorEq,false_and,false_or]
      constructor
      · rintro ⟨⟩
        exact ⟨type,rest,rfl,string,rfl⟩
      · rintro ⟨_,_,⟨⟩,_,rfl⟩
        rfl

def entry (element : CaseElement) : String × String := (element.rawText,element.name)

/-- Raw values that pass are computed one by one, and are kept for the rest. -/
private theorem rawValuesAfter_append (seen : List (String × String)) (before rest : List CaseElement)
    (spelled : ∀ element ∈ before, ∀ spelling, element.rawValue ≠ some (.number spelling))
    (distinct : DistinctAfter (seen.map Prod.fst) (before.map CaseElement.rawText)) :
    rawValuesAfter seen ((before ++ rest).map CaseElement.case) =
      (rawValuesAfter ((before.map entry).reverse ++ seen) (rest.map CaseElement.case)).map
        (before.map CaseElement.rawText ++ ·) := by
  induction before generalizing seen with
  | nil =>
    change rawValuesAfter seen (rest.map CaseElement.case) =
      (rawValuesAfter seen (rest.map CaseElement.case)).map id
    cases rawValuesAfter seen (rest.map CaseElement.case) <;> rfl
  | cons element before ih =>
    obtain ⟨own,spelled⟩ := List.forall_mem_cons.mp spelled
    obtain ⟨fresh,distinct⟩ := (distinctAfter_cons _ _ _).mp distinct
    have valued : rawValue element.case = .ok element.rawText :=
      (rawValue_eq_ok_iff _ _).mpr ⟨own,rfl⟩
    have passed : rawValuesAfter seen ((element :: (before ++ rest)).map CaseElement.case) =
        (rawValuesAfter (entry element :: seen) ((before ++ rest).map CaseElement.case)).map
          (element.rawText :: ·) := by
      have kept : (element.rawText,element.case.name) = entry element := rfl
      rw [List.map_cons,rawValuesAfter,valued]
      simp only [bind,Except.bind,(lookup_none_iff _ _).mpr fresh,kept]
      cases rawValuesAfter (entry element :: seen) _ <;> rfl
    rw [List.cons_append,passed,ih (entry element :: seen) spelled distinct]
    simp only [List.map_cons,List.reverse_cons,List.append_assoc,List.cons_append,List.nil_append]
    cases rawValuesAfter _ (rest.map CaseElement.case) <;> rfl

private theorem lookup_entry (before : List CaseElement) (first : CaseElement) (member : first ∈ before)
    (only : ∀ other ∈ before, other.rawText = first.rawText → other = first) :
    (before.map entry).reverse.lookup first.rawText = some first.name := by
  cases found : (before.map entry).reverse.lookup first.rawText with
  | none =>
    refine absurd ?_ ((lookup_none_iff _ _).mp found)
    simpa [entry] using ⟨first,member,rfl⟩
  | some name =>
    obtain ⟨other,listed,text,rfl⟩ : ∃ other ∈ before,
        other.rawText = first.rawText ∧ other.name = name := by
      simpa [entry] using mem_of_lookup _ _ _ found
    rw [only other listed text]

/-- The first case whose raw value is a number or the raw value of an earlier case, and the error
about it. There is only one such earlier case. -/
inductive FaultyValue (before : List CaseElement) (stopped : CaseElement) : SynthesisError → Prop
  | number (spelling : String) (given : stopped.rawValue = some (.number spelling)) :
      FaultyValue before stopped (.invalidRawValue stopped.name (.number spelling))
  | shared (spelled : ∀ spelling, stopped.rawValue ≠ some (.number spelling))
      (first : CaseElement) (member : first ∈ before) (same : first.rawText = stopped.rawText)
      (only : ∀ other ∈ before, other.rawText = stopped.rawText → other = first) :
      FaultyValue before stopped
        (.duplicateRawValue stopped.name first.name stopped.rawText)

def FirstFaultyValue (elements : List CaseElement) (error : SynthesisError) : Prop :=
  ∃ before stopped after, elements = before ++ stopped :: after ∧ Valued before ∧
    FaultyValue before stopped error

private theorem rawValues_eq_error_iff (elements : List CaseElement) (error : SynthesisError) :
    rawValues (elements.map CaseElement.case) = .error error ↔ FirstFaultyValue elements error := by
  constructor
  · intro failed
    obtain ⟨before,stopped,after,split,numbers,distinct,why⟩ := rawValuesAfter_eq_error [] _ _ failed
    rw [List.map_nil,distinctAfter_start] at distinct
    refine ⟨before,stopped,after,split,⟨numbers,distinct⟩,?_⟩
    rcases why with ⟨spelling,given,rfl⟩ | ⟨spelled,_,none | ⟨first,member,same,rfl⟩,rfl⟩
    · exact .number spelling given
    · simp at none
    · refine .shared spelled first member same fun other listed again => ?_
      exact List.inj_on_of_nodup_map distinct listed member (again.trans same.symm)
  · rintro ⟨before,stopped,after,rfl,⟨numbers,distinct⟩,fault⟩
    rw [rawValues,rawValuesAfter_append [] _ _ numbers ((distinctAfter_start _).mpr distinct),
      List.map_cons,rawValuesAfter]
    cases fault with
    | number spelling given =>
      have refused : rawValue stopped.case =
          .error (.invalidRawValue stopped.name (.number spelling)) := by
        simp [rawValue,CaseElement.case,given]
      rw [refused]
      rfl
    | shared spelled first member same only =>
      have valued : rawValue stopped.case = .ok stopped.rawText :=
        (rawValue_eq_ok_iff _ _).mpr ⟨spelled,rfl⟩
      have found : (before.map entry).reverse.lookup stopped.rawText = some first.name := by
        rw [← same] at only ⊢
        exact lookup_entry before first member only
      rw [List.append_nil] at *
      rw [valued]
      simp only [bind,Except.bind,found]
      rfl

/-- Why the rule refuses to add members to a node. Each reason presupposes that none of those before
it applies. -/
inductive Refuses (settings : Settings) (node : Node) : SynthesisError → Prop
  | unreadable (cause : Mismatch) (unreadable : node.Unreadable cause) :
      Refuses settings node (.structural .codableEnum cause)
  | untyped (decl : Decl) (declared : node = .decl decl) (enumerates : node.Enumerates)
      (none : decl.inherited = []) :
      Refuses settings node (.missingRawType decl.name)
  | unsupported (decl : Decl) (declared : node = .decl decl) (enumerates : node.Enumerates)
      (type : TypeName) (rest : List TypeName) (first : decl.inherited = type :: rest)
      (other : isStringType type = false) :
      Refuses settings node (.unsupportedRawType decl.name type.name)
  | collision (enumerates : node.Enumerates)
      (typed : ∃ type, node.rawType? = some type ∧ isStringType type = true)
      (taken : settings.fallbackCase ∈ node.elements.map CaseElement.name) :
      Refuses settings node (.fallbackCollision settings.fallbackCase)
  | unvalued (admits : node.Admits settings.fallbackCase)
      (typed : ∃ type, node.rawType? = some type ∧ isStringType type = true)
      (error : SynthesisError) (fault : FirstFaultyValue node.elements error) :
      Refuses settings node error

theorem members_eq_error_iff (settings : Settings) (node : Node) (error : SynthesisError) :
    members settings node = .error error ↔ Refuses settings node error := by
  simp only [members,bind_eq_error_iff,structural_eq_error_iff,structural_eq_ok_iff]
  constructor
  · rintro (⟨cause,mismatch,rfl⟩ | ⟨decl,enum,⟨cause,mismatch,rfl⟩ | ⟨cases,read,failed⟩⟩)
    · refine .unreadable cause ((node_cases_eq_error_iff node cause).mp ?_)
      exact (bind_eq_error_iff _ _ _).mpr (.inl mismatch)
    · refine .unreadable cause ((node_cases_eq_error_iff node cause).mp ?_)
      exact (bind_eq_error_iff _ _ _).mpr (.inr ⟨decl,enum,mismatch⟩)
    · obtain ⟨enumerates,rfl⟩ := (node_cases_eq_ok_iff node cases).mp
        ((bind_eq_ok_iff _ _ _).mpr ⟨decl,enum,read⟩)
      obtain ⟨rfl,_⟩ := (enum_eq_ok_iff _ _).mp enum
      rcases failed with untyped | ⟨type,typed,collides | ⟨_,free,unvalued | ⟨_,_,done⟩⟩⟩
      · rcases (rawType_eq_error_iff _ _).mp untyped with ⟨none,rfl⟩ | ⟨type,rest,first,other,rfl⟩
        · exact .untyped decl rfl enumerates none
        · exact .unsupported decl rfl enumerates type rest first other
      · obtain ⟨taken,rfl⟩ := (checkFallback_eq_error_iff _ _ _).mp collides
        exact .collision enumerates ⟨type,(rawType_eq_ok_iff _ _).mp typed⟩ taken
      · exact .unvalued ⟨enumerates,(checkFallback_eq_ok_iff _ _).mp free⟩
          ⟨type,(rawType_eq_ok_iff _ _).mp typed⟩ error ((rawValues_eq_error_iff _ _).mp unvalued)
      · cases done
  · -- What lies before the check that fails has passed, and each check is passed as its lemma says.
    have cases (decl : Decl) (enumerates : (Node.decl decl).Enumerates) :
        (Node.decl decl).enum = .ok decl ∧
          decl.cases = .ok (decl.elements.map CaseElement.case) := by
      obtain ⟨_,⟨⟩,enum⟩ := enumerates.enum
      exact ⟨(enum_eq_ok_iff _ _).mpr ⟨rfl,enum⟩,
        (decl_cases_eq_ok_iff _ _).mpr ⟨enumerates.units,enumerates.distinct,rfl⟩⟩
    rintro (⟨cause,unreadable⟩ | ⟨decl,rfl,enumerates,none⟩ |
      ⟨decl,rfl,enumerates,type,rest,first,other⟩ | ⟨enumerates,typed,taken⟩ | ⟨admits,typed,_,fault⟩)
    · rcases (bind_eq_error_iff _ _ _).mp ((node_cases_eq_error_iff node cause).mpr unreadable) with
        mismatch | ⟨decl,enum,mismatch⟩
      · exact .inl ⟨cause,mismatch,rfl⟩
      · exact .inr ⟨decl,enum,.inl ⟨cause,mismatch,rfl⟩⟩
    · obtain ⟨enum,read⟩ := cases decl enumerates
      exact .inr ⟨decl,enum,.inr ⟨_,read,.inl ((rawType_eq_error_iff _ _).mpr (.inl ⟨none,rfl⟩))⟩⟩
    · obtain ⟨enum,read⟩ := cases decl enumerates
      exact .inr ⟨decl,enum,.inr ⟨_,read,.inl
        ((rawType_eq_error_iff _ _).mpr (.inr ⟨type,rest,first,other,rfl⟩))⟩⟩
    · obtain ⟨decl,rfl,_⟩ := enumerates.enum
      obtain ⟨enum,read⟩ := cases decl enumerates
      obtain ⟨type,typed⟩ := typed
      exact .inr ⟨decl,enum,.inr ⟨_,read,.inr ⟨type,(rawType_eq_ok_iff _ _).mpr typed,.inl
        ((checkFallback_eq_error_iff _ _ _).mpr ⟨taken,rfl⟩)⟩⟩⟩
    · obtain ⟨decl,rfl,_⟩ := admits.enum
      obtain ⟨enum,read⟩ := cases decl admits.toEnumerates
      obtain ⟨type,typed⟩ := typed
      exact .inr ⟨decl,enum,.inr ⟨_,read,.inr ⟨type,(rawType_eq_ok_iff _ _).mpr typed,.inr
        ⟨(),(checkFallback_eq_ok_iff _ _).mpr admits.free,.inl
          ((rawValues_eq_error_iff _ _).mpr fault)⟩⟩⟩⟩

end Codable

/-- Each rule for enums accepts exactly the nodes that fulfil its conditions, and refuses every other
one for the first condition that is broken. The conditions speak of the case elements of a declaration
in the order of its members. -/
theorem enum_rules_accept_or_refuse (settings : Settings) (node : Node) :
    (∀ decl, (Node.decl decl).elements = decl.members.flatMap Member.elements) ∧
    ((∃ built, Codable.members settings node = .ok built) ↔ Codable.Accepts settings node) ∧
    (∀ error, Codable.members settings node = .error error ↔ Codable.Refuses settings node error) ∧
    ((∃ built, Nullable.members settings node = .ok built) ↔ node.Admits settings.fallbackCase) ∧
    (∀ error, Nullable.members settings node = .error error ↔
      node.Refuses settings.fallbackCase .nullableEnum error) ∧
    ((∃ built, Codable.extensions settings node = .ok built) ↔ node.Admits settings.fallbackCase) ∧
    (∀ error, Codable.extensions settings node = .error error ↔
      node.Refuses settings.fallbackCase .codableEnum error) := by
  refine ⟨fun _ => rfl,?_,Codable.members_eq_error_iff settings node,?_,?_,?_,?_⟩
  · simp only [Codable.members_eq_ok_iff,exists_and_left,exists_eq,and_true]
  · simp only [Nullable.members_eq_ok_iff,exists_and_left,exists_eq,and_true]
  · exact checked_cases_eq_error_iff _ _ _ _
  · simp only [Codable.extensions_eq_ok_iff,exists_and_left,exists_eq,and_true]
  · exact checked_cases_eq_error_iff _ _ _ _

end CaseSynthesis
