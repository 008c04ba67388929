import CaseSynthesis.Proofs.Cases
import CaseSynthesis.Proofs.Dispatch
import CaseSynthesis.Rule.Codable

/-! Raw values of accepted enums: the accessor and the constructor by raw value are inverse to each
other on the declared cases. The fallback case takes part in this only as long as no declared case
has the string that stands for the fallback as its raw value. -/

namespace CaseSynthesis

def CaseElement.rawText (element : CaseElement) : String :=
  match element.rawValue with
  | some (.str value) => value
  | _ => element.name

def Node.rawType? : Node → Option TypeName
  | decl declared => declared.inherited.head?
  | _ => none

namespace Codable

theorem rawValue_eq_ok_iff (element : CaseElement) (value : String) :
    rawValue element.case = .ok value ↔
      (∀ spelling, element.rawValue ≠ some (.number spelling)) ∧ value = element.rawText := by
  unfold rawValue CaseElement.rawText CaseElement.case
  cases element.rawValue with
  | none => simp [eq_comm]
  | some literal => cases literal <;> simp [eq_comm]

theorem lookup_none_iff (seen : List (String × String)) (value : String) :
    seen.lookup value = none ↔ value ∉ seen.map Prod.fst := by
  rw [List.lookup_eq_none_iff]
  constructor
  · intro apart repeated
    obtain ⟨earlier,member,same⟩ := List.mem_map.mp repeated
    simpa [same] using apart earlier member
  · intro fresh earlier member
    have apart : value ≠ earlier.1 :=
      fun same => fresh (List.mem_map.mpr ⟨earlier,member,same.symm⟩)
    simp [apart]

private theorem rawValuesAfter_cons_eq_ok_iff (seen : List (String × String)) (element : CaseElement)
    (rest : List Case) (values : List String) :
    rawValuesAfter seen (element.case :: rest) = .ok values ↔
      (∀ spelling, element.rawValue ≠ some (.number spelling)) ∧
      element.rawText ∉ seen.map Prod.fst ∧
        ∃ following, rawValuesAfter ((element.rawText, element.name) :: seen) rest = .ok following ∧
          values = element.rawText :: following := by
  rw [rawValuesAfter,bind_eq_ok_iff]
  simp only [rawValue_eq_ok_iff,← lookup_none_iff]
  constructor
  · rintro ⟨value,⟨spelled,rfl⟩,accepted⟩
    cases found : seen.lookup element.rawText with
    | some first => simp [found,throw,throwThe,MonadExceptOf.throw] at accepted
    | none =>
      simp only [found,bind_eq_ok_iff] at accepted
      obtain ⟨following,computed,same⟩ := accepted
      exact ⟨spelled,rfl,following,computed,(Except.ok.inj same).symm⟩
  · rintro ⟨spelled,fresh,following,computed,rfl⟩
    refine ⟨element.rawText,⟨spelled,rfl⟩,?_⟩
    simp only [fresh,bind_eq_ok_iff]
    exact ⟨following,computed,rfl⟩

/-- Cases have raw values exactly if none is given by a number and no raw value stands twice among
them and those seen before, whether it is explicit or the name of its case. -/
private theorem rawValuesAfter_eq_ok_iff (seen : List (String × String)) (elements : List CaseElement)
    (values : List String) :
    rawValuesAfter seen (elements.map CaseElement.case) = .ok values ↔
      (∀ element ∈ elements, ∀ spelling, element.rawValue ≠ some (.number spelling)) ∧
      DistinctAfter (seen.map Prod.fst) (elements.map CaseElement.rawText) ∧
      values = elements.map CaseElement.rawText := by
  induction elements generalizing seen values with
  | nil => simp [rawValuesAfter,distinctAfter_nil]
  | cons element rest ih =>
    rw [List.map_cons,rawValuesAfter_cons_eq_ok_iff]
    simp only [ih,List.forall_mem_cons,List.map_cons,distinctAfter_cons]
    constructor
    · rintro ⟨spelled,fresh,following,⟨allSpelled,distinct,rfl⟩,rfl⟩
      exact ⟨⟨spelled,allSpelled⟩,⟨fresh,distinct⟩,rfl⟩
    · rintro ⟨⟨spelled,allSpelled⟩,⟨fresh,distinct⟩,rfl⟩
      exact ⟨spelled,fresh,_,⟨allSpelled,distinct,rfl⟩,rfl⟩

theorem rawType_eq_ok_iff (decl : Decl) (type : TypeName) :
    rawType decl = .ok type ↔ decl.inherited.head? = some type ∧ isStringType type = true := by
  unfold rawType
  cases decl.inherited with
  | nil => simp
  | cons first rest =>
    by_cases accepted : isStringType first = true
    · simp only [accepted,if_true,Except.ok.injEq,List.head?_cons,Option.some.injEq]
      constructor
      · rintro rfl
        exact ⟨rfl,accepted⟩
      · exact And.left
    · simp only [accepted,if_false,reduceCtorEq,List.head?_cons,Option.some.injEq,false_iff]
      rintro ⟨rfl,string⟩
      exact accepted string

structure Accepts (settings : Settings) (node : Node) : Prop extends
    node.Admits settings.fallbackCase where
  rawType : ∃ type, node.rawType? = some type ∧ isStringType type = true
  spelled : ∀ element ∈ node.elements, ∀ spelling, element.rawValue ≠ some (.number spelling)
  values : (node.elements.map CaseElement.rawText).Nodup

def Members.ofElements (fallback : String) (elements : List CaseElement) : Members where
  fallback
  toRaw := {
    subject := .selfValue
    arms := elements.map fun element => ⟨.case element.name, .returnStr element.rawText⟩
    default := .returnStr fallbackText }
  ofRaw := {
    subject := .parameter parameter
    arms := elements.map fun element => ⟨.rawValueOf element.name, .assignCase element.name⟩
    default := .assignCase fallback }

/-- Pairing the cases with their raw values keeps each case next to its own. -/
private theorem accessor_arms (elements : List CaseElement) :
    List.zipWith (fun (case : Case) value => Arm.mk (.case case.name) (.returnStr value))
        (elements.map CaseElement.case) (elements.map CaseElement.rawText) =
      elements.map fun element => ⟨.case element.name, .returnStr element.rawText⟩ := by
  rw [List.zipWith_map,List.zipWith_self]
  rfl

private theorem initializer_arms (elements : List CaseElement) :
    (elements.map CaseElement.case).map (fun case =>
        Arm.mk (.rawValueOf case.name) (.assignCase case.name)) =
      elements.map fun element => ⟨.rawValueOf element.name, .assignCase element.name⟩ := by
  rw [List.map_map]
  rfl

/-- Members are added exactly to the enums that the rule accepts. Which they are follows from the
fallback and the declared elements. -/
theorem members_eq_ok_iff (settings : Settings) (node : Node) (built : Members) :
    members settings node = .ok built ↔
      Accepts settings node ∧ built = .ofElements settings.fallbackCase node.elements := by
  simp only [members,bind_eq_ok_iff,structural_eq_ok_iff,enum_eq_ok_iff,decl_cases_eq_ok_iff,
    rawType_eq_ok_iff]
  constructor
  · rintro ⟨decl,⟨rfl,kind⟩,_,⟨units,distinct,rfl⟩,type,string,_,free,values,computed,same⟩
    rw [checkFallback_eq_ok_iff] at free
    rw [rawValues,rawValuesAfter_eq_ok_iff,List.map_nil,distinctAfter_start] at computed
    obtain ⟨spelled,apart,rfl⟩ := computed
    rw [accessor_arms,initializer_arms] at same
    have enum : (Node.decl decl).Enumerates := ⟨⟨decl,rfl,kind⟩,units,distinct⟩
    exact ⟨⟨⟨enum,free⟩,⟨type,string⟩,spelled,apart⟩,(Except.ok.inj same).symm⟩
  · rintro ⟨⟨⟨⟨⟨decl,rfl,kind⟩,units,distinct⟩,free⟩,⟨type,string⟩,spelled,apart⟩,rfl⟩
    refine ⟨decl,⟨rfl,kind⟩,_,⟨units,distinct,rfl⟩,type,string,(),?_,
      decl.elements.map CaseElement.rawText,?_,?_⟩
    · rw [checkFallback_eq_ok_iff]
      exact free
    · rw [rawValues,rawValuesAfter_eq_ok_iff,List.map_nil,distinctAfter_start]
      exact ⟨spelled,apart,rfl⟩
    · rw [accessor_arms,initializer_arms]
      rfl

namespace Members

variable (fallback : String) (elements : List CaseElement)

theorem toRaw_tabulates (rawValue : String → Except SwitchError String) (name : String) :
    Tabulates rawValue (.case name) name elements CaseElement.name
      (fun element => ⟨.case element.name, .returnStr element.rawText⟩)
      (ofElements fallback elements).toRaw where
  arms := rfl
  compared := fun element _ => test_case rawValue element.name name

private theorem rawValue_declared (names : (elements.map CaseElement.name).Nodup) (element : CaseElement)
    (member : element ∈ elements) :
    Switch.rawValue (some (ofElements fallback elements).toRaw) element.name =
      .ok element.rawText := by
  apply rawValue_of_returnStr
  exact (toRaw_tabulates fallback elements _ element.name).runWith_entry names element member rfl

private theorem rawValue_undeclared (name : String) (absent : name ∉ elements.map CaseElement.name) :
    Switch.rawValue (some (ofElements fallback elements).toRaw) name = .ok fallbackText := by
  apply rawValue_of_returnStr
  exact (toRaw_tabulates fallback elements _ name).runWith_absent absent

/-- The arms of the constructor ask the accessor for the raw values, and it has one for each. -/
theorem ofRaw_tabulates (names : (elements.map CaseElement.name).Nodup) (text : String) :
    Tabulates (Switch.rawValue (some (ofElements fallback elements).toRaw)) (.str text) text
      elements CaseElement.rawText
      (fun element => ⟨.rawValueOf element.name, .assignCase element.name⟩)
      (ofElements fallback elements).ofRaw where
  arms := rfl
  compared := fun element member =>
    test_rawValueOf _ _ _ _ (rawValue_declared fallback elements names element member)

theorem ofRaw_declared (names : (elements.map CaseElement.name).Nodup)
    (values : (elements.map CaseElement.rawText).Nodup) (element : CaseElement)
    (member : element ∈ elements) :
    (ofElements fallback elements).ofRaw.run (some (ofElements fallback elements).toRaw)
      (.str element.rawText) = .ok (.assignCase element.name) :=
  (ofRaw_tabulates fallback elements names element.rawText).runWith_entry values element member rfl

theorem ofRaw_undeclared (names : (elements.map CaseElement.name).Nodup) (text : String)
    (absent : text ∉ elements.map CaseElement.rawText) :
    (ofElements fallback elements).ofRaw.run (some (ofElements fallback elements).toRaw)
      (.str text) = .ok (.assignCase fallback) :=
  (ofRaw_tabulates fallback elements names text).runWith_absent absent

def throughRaw (members : Members) (name : String) : Except SwitchError Branch := do
  members.ofRaw.run (some members.toRaw) (.str (← Switch.rawValue (some members.toRaw) name))

private theorem throughRaw_of_rawValue (members : Members) (name text : String)
    (found : Switch.rawValue (some members.toRaw) name = .ok text) :
    members.throughRaw name = members.ofRaw.run (some members.toRaw) (.str text) := by
  rw [throughRaw,found]
  rfl

end Members

def swapped : Node :=
  .decl ⟨.enum, "Odd", [⟨"&'static str"⟩],
    [.cases [⟨"First", some (.str "Second"), false⟩], .other "fn turn(&self) {}",
      .cases [⟨"Second", some (.str "First"), false⟩, ⟨"Third", none, false⟩]]⟩

/-- The accessor gives every declared case its explicit string or else its name, and every other
name the string of the fallback. The constructor never fails: it takes a raw value to the one
declared case that has it, and any other string to the fallback. So each declared case is read back
from its raw value. -/
theorem members_rawValue_inverse (settings : Settings) (node : Node) (built : Members)
    (accepted : members settings node = .ok built) :
    (∀ element ∈ node.elements,
      Switch.rawValue (some built.toRaw) element.name = .ok element.rawText) ∧
    (∀ name, name ∉ node.elements.map CaseElement.name →
      Switch.rawValue (some built.toRaw) name = .ok "Unknown") ∧
    (node.elements.map CaseElement.name).Nodup ∧ (node.elements.map CaseElement.rawText).Nodup ∧
    (∀ text, ∀ element ∈ node.elements, element.rawText = text →
      built.ofRaw.run (some built.toRaw) (.str text) = .ok (.assignCase element.name)) ∧
    (∀ text, text ∉ node.elements.map CaseElement.rawText →
      built.ofRaw.run (some built.toRaw) (.str text) = .ok (.assignCase settings.fallbackCase)) ∧
    (∀ element ∈ node.elements,
      built.throughRaw element.name = .ok (.assignCase element.name)) := by
  obtain ⟨enum,rfl⟩ := (members_eq_ok_iff settings node built).mp accepted
  have names := enum.distinct
  have declared := Members.rawValue_declared settings.fallbackCase node.elements names
  have inverse := Members.ofRaw_declared settings.fallbackCase node.elements names enum.values
  refine ⟨declared,?_,names,enum.values,?_,?_,?_⟩
  · exact Members.rawValue_undeclared settings.fallbackCase node.elements
  · rintro text element member rfl
    exact inverse element member
  · exact Members.ofRaw_undeclared settings.fallbackCase node.elements names
  · intro element member
    rw [Members.throughRaw_of_rawValue _ _ _ (declared element member)]
    exact inverse element member

theorem members_rawValue_inverse_swapped :
    ∃ built, members {} swapped = .ok built ∧
      built.throughRaw "First" = .ok (.assignCase "First") ∧
      built.ofRaw.run (some built.toRaw) (.str "First") = .ok (.assignCase "Second") ∧
      built.ofRaw.run (some built.toRaw) (.str "Fourth") = .ok (.assignCase "Unknown") := by
  refine ⟨_,rfl,?_⟩
  obtain ⟨_,_,_,_,found,absent,through⟩ := members_rawValue_inverse {} swapped _ rfl
  have first : ⟨"First", some (.str "Second"), false⟩ ∈ swapped.elements := by decide
  have second : ⟨"Second", some (.str "First"), false⟩ ∈ swapped.elements := by decide
  exact ⟨through _ first,found "First" _ second rfl,absent "Fourth" (by decide)⟩

/-- The fallback is written as a fixed string, and is read back from it exactly if no declared case
has that string as its raw value. A case that has it takes the place of the fallback. -/
theorem members_fallback_throughRaw_iff (settings : Settings) (node : Node) (built : Members)
    (accepted : members settings node = .ok built) :
    Switch.rawValue (some built.toRaw) settings.fallbackCase = .ok "Unknown" ∧
    (built.throughRaw settings.fallbackCase = .ok (.assignCase settings.fallbackCase) ↔
      "Unknown" ∉ node.elements.map CaseElement.rawText) ∧
    (∀ element ∈ node.elements, element.rawText = "Unknown" →
      built.throughRaw settings.fallbackCase = .ok (.assignCase element.name)) := by
  obtain ⟨enum,rfl⟩ := (members_eq_ok_iff settings node built).mp accepted
  have written := Members.rawValue_undeclared settings.fallbackCase node.elements
    settings.fallbackCase enum.free
  have through := Members.throughRaw_of_rawValue _ _ _ written
  have captured : ∀ element ∈ node.elements, element.rawText = "Unknown" →
      (Members.ofElements settings.fallbackCase node.elements).throughRaw settings.fallbackCase =
        .ok (.assignCase element.name) := by
    intro element member taken
    rw [through]
    unfold fallbackText
    rw [← taken]
    exact Members.ofRaw_declared settings.fallbackCase node.elements enum.distinct enum.values
      element member
  refine ⟨written,⟨?_,?_⟩,captured⟩
  · intro survives taken
    obtain ⟨element,member,same⟩ := List.mem_map.mp taken
    rw [captured element member same] at survives
    have collision : element.name = settings.fallbackCase := by simpa using survives
    exact enum.free (List.mem_map.mpr ⟨element,member,collision⟩)
  · intro free
    rw [through]
    exact Members.ofRaw_undeclared settings.fallbackCase node.elements enum.distinct _ free

theorem members_fallback_throughRaw_swapped :
    ∃ built, members {} swapped = .ok built ∧
      built.throughRaw "Unknown" = .ok (.assignCase "Unknown") := by
  refine ⟨_,rfl,?_⟩
  exact (members_fallback_throughRaw_iff {} swapped _ rfl).2.1.mpr (by decide)

def capturing : Node :=
  .decl ⟨.enum, "Event", [⟨"String"⟩], [.cases [⟨"Opened", some (.str "Unknown"), false⟩]]⟩

theorem fallback_captured_by_rawValue :
    Settings.validate {} = .ok () ∧
      ∃ built, members {} capturing = .ok built ∧
        Switch.rawValue (some built.toRaw) "Unknown" = .ok "Unknown" ∧
        built.ofRaw.run (some built.toRaw) (.str "Unknown") = .ok (.assignCase "Opened") :=
  ⟨rfl,_,rfl,rfl,rfl⟩

end Codable

end CaseSynthesis
