import CaseSynthesis.Proofs.Cases
import CaseSynthesis.Proofs.Dispatch
import CaseSynthesis.Rule.Codable
import CaseSynthesis.Rule.Nullable

/-! Lookup by name, as the constructor by name and the decoder do it, and what the encoder writes.
A declared case is always decoded from what it is encoded to. For the fallback this depends on
whether some case is called by the string that stands for the fallback. -/

namespace CaseSynthesis

theorem nameLookup_tabulates (subject : Subject) (fallback : String) (elements : List CaseElement)
    (rawValue : String → Except SwitchError String) (text : String) :
    Tabulates rawValue (.str text) text elements CaseElement.name
      (fun element => ⟨.str element.name, .assignCase element.name⟩)
      (nameLookup subject fallback (elements.map CaseElement.case)) where
  arms := List.map_map
  compared := fun element _ => test_str rawValue element.name text

/-- A lookup by name finds each declared name and nothing else, whatever its subject is called. -/
theorem nameLookup_run (subject : Subject) (fallback : String) (elements : List CaseElement)
    (distinct : (elements.map CaseElement.name).Nodup) (accessor : Option Switch) (text : String) :
    (nameLookup subject fallback (elements.map CaseElement.case)).run accessor (.str text) =
      .ok (.assignCase (if text ∈ elements.map CaseElement.name then text else fallback)) := by
  have table := nameLookup_tabulates subject fallback elements (Switch.rawValue accessor) text
  rw [apply_ite Branch.assignCase]
  exact table.runWith_key distinct .assignCase (fun _ => rfl)

theorem Nullable.members_eq_ok_iff (settings : Settings) (node : Node) (added : Nullable.Members) :
    Nullable.members settings node = .ok added ↔
      node.Admits settings.fallbackCase ∧
      added = ⟨settings.fallbackCase, nameLookup (.parameter parameter) settings.fallbackCase
        (node.elements.map CaseElement.case)⟩ := by
  rw [Nullable.members,checked_cases_eq_ok_iff]
  simp only [pure,Except.pure,Except.ok.injEq,eq_comm]

namespace Codable

def Extensions.ofElements (fallback : String) (elements : List CaseElement) : Extensions where
  decode := nameLookup .decodedString fallback (elements.map CaseElement.case)
  encode := {
    subject := .selfValue
    arms := elements.map fun element => ⟨.case element.name, .returnStr element.name⟩
    default := .returnStr fallbackText }

theorem extensions_eq_ok_iff (settings : Settings) (node : Node) (built : Extensions) :
    extensions settings node = .ok built ↔
      node.Admits settings.fallbackCase ∧
      built = .ofElements settings.fallbackCase node.elements := by
  have arms : (node.elements.map CaseElement.case).map (fun case =>
      Arm.mk (.case case.name) (.returnStr case.name)) =
        node.elements.map fun element => ⟨.case element.name, .returnStr element.name⟩ := by
    rw [List.map_map]
    rfl
  rw [extensions,checked_cases_eq_ok_iff,arms]
  simp only [pure,Except.pure,Except.ok.injEq,Extensions.ofElements,eq_comm]

namespace Extensions

theorem encode_tabulates (fallback : String) (elements : List CaseElement)
    (rawValue : String → Except SwitchError String) (name : String) :
    Tabulates rawValue (.case name) name elements CaseElement.name
      (fun element => ⟨.case element.name, .returnStr element.name⟩)
      (ofElements fallback elements).encode where
  arms := rfl
  compared := fun element _ => test_case rawValue element.name name

private theorem encode_run (fallback : String) (elements : List CaseElement)
    (distinct : (elements.map CaseElement.name).Nodup) (accessor : Option Switch) (name : String) :
    (ofElements fallback elements).encode.run accessor (.case name) =
      .ok (.returnStr (if name ∈ elements.map CaseElement.name then name else fallbackText)) := by
  have table := encode_tabulates fallback elements (Switch.rawValue accessor) name
  rw [apply_ite Branch.returnStr]
  exact table.runWith_key distinct .returnStr (fun _ => rfl)

def throughText (extensions : Extensions) (accessor : Option Switch) (name : String) :
    Except SwitchError Branch := do
  match ← extensions.encode.run accessor (.case name) with
  | .returnStr text => extensions.decode.run accessor (.str text)
  | .assignCase assigned => throw (.notAString assigned)

/-- A declared name comes back as it is. Any other is written as the fallback, and so comes back as
a case of that name if there is one. -/
private theorem throughText_run (fallback : String) (elements : List CaseElement)
    (distinct : (elements.map CaseElement.name).Nodup) (accessor : Option Switch) (name : String) :
    (ofElements fallback elements).throughText accessor name =
      .ok (.assignCase (if name ∈ elements.map CaseElement.name then name
        else if fallbackText ∈ elements.map CaseElement.name then fallbackText else fallback)) := by
  rw [throughText,encode_run fallback elements distinct accessor name]
  change (ofElements fallback elements).decode.run accessor (.str _) = _
  rw [ofElements,nameLookup_run _ _ _ distinct]
  by_cases listed : name ∈ elements.map CaseElement.name
  · simp only [listed,if_true]
  · simp only [listed,if_false]

end Extensions

def crossed : Node :=
  .decl ⟨.enum, "Event", [],
    [.cases [⟨"Opened", some (.str "Closed"), false⟩, ⟨"Closed", none, false⟩]]⟩

/-- Decoding is an exact lookup by name, to which raw values do not matter. It gives back every
declared case from what the case is encoded to, and it agrees with the constructor by name on every
string. -/
theorem extensions_encode_decode (settings : Settings) (node : Node) (built : Extensions)
    (accepted : extensions settings node = .ok built) (accessor : Option Switch) :
    (∀ element ∈ node.elements,
      built.encode.run accessor (.case element.name) = .ok (.returnStr element.name) ∧
      built.decode.run accessor (.str element.name) = .ok (.assignCase element.name)) ∧
    (∀ text, built.decode.run accessor (.str text) =
      .ok (.assignCase (if text ∈ node.elements.map CaseElement.name then text
        else settings.fallbackCase))) ∧
    (∀ added, Nullable.members settings node = .ok added →
      ∀ text, added.withName.run accessor (.str text) = built.decode.run accessor (.str text)) := by
  obtain ⟨enum,rfl⟩ := (extensions_eq_ok_iff settings node built).mp accepted
  have lookup (subject : Subject) := nameLookup_run subject settings.fallbackCase node.elements
    enum.distinct accessor
  refine ⟨?_,lookup .decodedString,?_⟩
  · intro element member
    have listed : element.name ∈ node.elements.map CaseElement.name :=
      List.mem_map.mpr ⟨element,member,rfl⟩
    constructor
    · rw [Extensions.encode_run _ _ enum.distinct,if_pos listed]
    · rw [Extensions.ofElements,lookup,if_pos listed]
  · intro added admitted text
    obtain ⟨_,rfl⟩ := (Nullable.members_eq_ok_iff settings node added).mp admitted
    exact (lookup _ text).trans (lookup _ text).symm

theorem extensions_encode_decode_crossed :
    ∃ built added, extensions {} crossed = .ok built ∧ Nullable.members {} crossed = .ok added ∧
      built.encode.run none (.case "Opened") = .ok (.returnStr "Opened") ∧
      built.decode.run none (.str "Closed") = .ok (.assignCase "Closed") ∧
      built.decode.run none (.str "Reopened") = .ok (.assignCase "Unknown") ∧
      added.withName.run none (.str "Opened") = built.decode.run none (.str "Opened") := by
  refine ⟨_,_,rfl,rfl,?_⟩
  obtain ⟨declared,lookup,agree⟩ := extensions_encode_decode {} crossed _ rfl none
  have opened : ⟨"Opened", some (.str "Closed"), false⟩ ∈ crossed.elements := by decide
  have closed : ⟨"Closed", none, false⟩ ∈ crossed.elements := by decide
  exact ⟨(declared _ opened).1,(declared _ closed).2,lookup "Reopened",agree _ rfl "Opened"⟩

/-- The fallback is always encoded as the same string. It is decoded from it, and with it every case
of the enum, exactly if no declared case is called by that string. A fallback of that very name is
safe, since no declared case may share its name. -/
theorem extensions_fallback_throughText_iff (settings : Settings) (node : Node)
    (built : Extensions) (accepted : extensions settings node = .ok built)
    (accessor : Option Switch) :
    built.encode.run accessor (.case settings.fallbackCase) = .ok (.returnStr "Unknown") ∧
    (built.throughText accessor settings.fallbackCase = .ok (.assignCase settings.fallbackCase) ↔
      "Unknown" ∉ node.elements.map CaseElement.name) ∧
    ((∀ name ∈ node.elements.map CaseElement.name ++ [settings.fallbackCase],
        built.throughText accessor name = .ok (.assignCase name)) ↔
      "Unknown" ∉ node.elements.map CaseElement.name) ∧
    (settings.fallbackCase = "Unknown" → "Unknown" ∉ node.elements.map CaseElement.name) := by
  obtain ⟨enum,rfl⟩ := (extensions_eq_ok_iff settings node built).mp accepted
  have through := Extensions.throughText_run settings.fallbackCase node.elements enum.distinct
    accessor
  have survives : (Extensions.ofElements settings.fallbackCase node.elements).throughText accessor
      settings.fallbackCase = .ok (.assignCase settings.fallbackCase) ↔
        "Unknown" ∉ node.elements.map CaseElement.name := by
    rw [through,if_neg enum.free]
    constructor
    · intro same taken
      rw [fallbackText,if_pos taken] at same
      have collision : "Unknown" = settings.fallbackCase := by simpa using same
      exact enum.free (collision ▸ taken)
    · intro free
      rw [fallbackText,if_neg free]
  refine ⟨?_,survives,⟨?_,?_⟩,?_⟩
  · rw [Extensions.encode_run _ _ enum.distinct,if_neg enum.free]
    rfl
  · intro all
    exact survives.mp (all settings.fallbackCase (by simp))
  · intro free name member
    rcases List.mem_append.mp member with listed | last
    · rw [through,if_pos listed]
    · rw [List.mem_singleton.mp last]
      exact survives.mpr free
  · intro same
    exact same ▸ enum.free

theorem extensions_fallback_throughText_crossed :
    ∃ built, extensions { fallbackCase := "Other" } crossed = .ok built ∧
      built.throughText none "Other" = .ok (.assignCase "Other") := by
  refine ⟨_,rfl,?_⟩
  exact (extensions_fallback_throughText_iff { fallbackCase := "Other" } crossed _ rfl none).2.1.mpr
    (by decide)

def claiming : Node := .decl ⟨.enum, "Event", [], [.cases [⟨"Unknown", none, false⟩]]⟩

theorem fallback_captured_by_name :
    Settings.validate { fallbackCase := "Other" } = .ok () ∧
      ∃ built, extensions { fallbackCase := "Other" } claiming = .ok built ∧
        built.encode.run none (.case "Other") = .ok (.returnStr "Unknown") ∧
        built.decode.run none (.str "Unknown") = .ok (.assignCase "Unknown") :=
  ⟨rfl,_,rfl,rfl,rfl⟩

end Codable

end CaseSynthesis
