import CaseSynthesis.Proofs.Conformances
import CaseSynthesis.Proofs.RawValues

/-! The order in which an enum declares its cases. A switch takes the first arm that matches, and the
checks go through the cases one by one, but an enum that passes them has patterns that exclude one
another. So neither what is accepted nor what a switch does depends on the order. -/

namespace CaseSynthesis

namespace Tabulates

variable {α : Type} {key : α → String} {arm : α → Arm} {text : String}
  {rawValue rawValue' : String → Except SwitchError String} {value value' : Value}
  {entries shuffled : List α} {switch switch' : Switch}

/-- A table with distinct keys gives the same branch in whatever order its entries stand. -/
private theorem runWith_perm (table : Tabulates rawValue value text entries key arm switch)
    (other : Tabulates rawValue' value' text shuffled key arm switch')
    (permuted : entries.Perm shuffled) (distinct : (entries.map key).Nodup)
    (defaults : switch.default = switch'.default) :
    ∃ branch, switch.runWith rawValue value = .ok branch ∧
      switch'.runWith rawValue' value' = .ok branch := by
  have keys : (entries.map key).Perm (shuffled.map key) := permuted.map key
  by_cases listed : text ∈ entries.map key
  · obtain ⟨entry,member,found⟩ := List.mem_map.mp listed
    refine ⟨(arm entry).branch,table.runWith_entry distinct entry member found,?_⟩
    exact other.runWith_entry (keys.nodup_iff.mp distinct) entry (permuted.mem_iff.mp member) found
  · refine ⟨switch.default,table.runWith_absent listed,?_⟩
    rw [defaults]
    exact other.runWith_absent (fun member => listed (keys.mem_iff.mpr member))

end Tabulates

structure Decl.Shuffled (first second : Decl) : Prop where
  enums : first.kind = .enum ∧ second.kind = .enum
  name : first.name = second.name
  inherited : first.inherited = second.inherited
  elements : first.elements.Perm second.elements

namespace Decl.Shuffled

variable {first second : Decl}

private theorem symm (shuffled : first.Shuffled second) : second.Shuffled first :=
  ⟨shuffled.enums.symm,shuffled.name.symm,shuffled.inherited.symm,shuffled.elements.symm⟩

private theorem names (shuffled : first.Shuffled second) :
    (first.elements.map CaseElement.name).Perm (second.elements.map CaseElement.name) :=
  shuffled.elements.map CaseElement.name

private theorem admits (shuffled : first.Shuffled second) (fallback : String)
    (admitted : (Node.decl first).Admits fallback) : (Node.decl second).Admits fallback where
  enum := ⟨second,rfl,shuffled.enums.2⟩
  units := fun element member => admitted.units element (shuffled.elements.mem_iff.mpr member)
  distinct := shuffled.names.nodup_iff.mp admitted.distinct
  free := fun taken => admitted.free (shuffled.names.mem_iff.mpr taken)

private theorem accepts (shuffled : first.Shuffled second) (settings : Settings)
    (accepted : Codable.Accepts settings (.decl first)) :
    Codable.Accepts settings (.decl second) where
  toAdmits := shuffled.admits _ accepted.toAdmits
  rawType := by
    obtain ⟨type,declared,string⟩ := accepted.rawType
    refine ⟨type,?_,string⟩
    change second.inherited.head? = some type
    rw [← shuffled.inherited]
    exact declared
  spelled := fun element member => accepted.spelled element (shuffled.elements.mem_iff.mpr member)
  values := (shuffled.elements.map CaseElement.rawText).nodup_iff.mp accepted.values

end Decl.Shuffled

def SameBranch (first second : Except SwitchError Branch) : Prop :=
  ∃ branch, first = .ok branch ∧ second = .ok branch

section

variable (settings : Settings) {first second : Decl} (shuffled : first.Shuffled second)
include shuffled

private theorem Nullable.members_shuffled :
    ((∃ built, Nullable.members settings (.decl first) = .ok built) ↔
      ∃ built, Nullable.members settings (.decl second) = .ok built) ∧
    ∀ one two, Nullable.members settings (.decl first) = .ok one →
      Nullable.members settings (.decl second) = .ok two → ∀ accessor text,
        SameBranch (one.withName.run accessor (.str text))
          (two.withName.run accessor (.str text)) := by
  simp only [Nullable.members_eq_ok_iff]
  refine ⟨⟨?_,?_⟩,?_⟩
  · rintro ⟨_,admitted,_⟩
    exact ⟨_,shuffled.admits _ admitted,rfl⟩
  · rintro ⟨_,admitted,_⟩
    exact ⟨_,shuffled.symm.admits _ admitted,rfl⟩
  · rintro _ _ ⟨admitted,rfl⟩ ⟨_,rfl⟩ accessor text
    exact (nameLookup_tabulates _ _ _ _ text).runWith_perm (nameLookup_tabulates _ _ _ _ text)
      shuffled.elements admitted.distinct rfl

namespace Codable

private theorem members_shuffled :
    ((∃ built, members settings (.decl first) = .ok built) ↔
      ∃ built, members settings (.decl second) = .ok built) ∧
    ∀ one two, members settings (.decl first) = .ok one →
      members settings (.decl second) = .ok two →
        (∀ accessor name, SameBranch (one.toRaw.run accessor (.case name))
          (two.toRaw.run accessor (.case name))) ∧
        ∀ text, SameBranch (one.ofRaw.run (some one.toRaw) (.str text))
          (two.ofRaw.run (some two.toRaw) (.str text)) := by
  simp only [members_eq_ok_iff]
  refine ⟨⟨?_,?_⟩,?_⟩
  · rintro ⟨_,accepted,_⟩
    exact ⟨_,shuffled.accepts _ accepted,rfl⟩
  · rintro ⟨_,accepted,_⟩
    exact ⟨_,shuffled.symm.accepts _ accepted,rfl⟩
  · rintro _ _ ⟨accepted,rfl⟩ ⟨again,rfl⟩
    constructor
    · intro accessor name
      exact (Members.toRaw_tabulates _ _ _ name).runWith_perm (Members.toRaw_tabulates _ _ _ name)
        shuffled.elements accepted.distinct rfl
    · -- Each constructor asks its own accessor, and both accessors know the same raw values.
      intro text
      exact (Members.ofRaw_tabulates _ _ accepted.distinct text).runWith_perm
        (Members.ofRaw_tabulates _ _ again.distinct text) shuffled.elements accepted.values rfl

private theorem extensions_shuffled :
    ((∃ built, extensions settings (.decl first) = .ok built) ↔
      ∃ built, extensions settings (.decl second) = .ok built) ∧
    ∀ one two, extensions settings (.decl first) = .ok one →
      extensions settings (.decl second) = .ok two → ∀ accessor,
        (∀ text, SameBranch (one.decode.run accessor (.str text))
          (two.decode.run accessor (.str text))) ∧
        ∀ name, SameBranch (one.encode.run accessor (.case name))
          (two.encode.run accessor (.case name)) := by
  simp only [extensions_eq_ok_iff]
  refine ⟨⟨?_,?_⟩,?_⟩
  · rintro ⟨_,admitted,_⟩
    exact ⟨_,shuffled.admits _ admitted,rfl⟩
  · rintro ⟨_,admitted,_⟩
    exact ⟨_,shuffled.symm.admits _ admitted,rfl⟩
  · rintro _ _ ⟨admitted,rfl⟩ ⟨_,rfl⟩ accessor
    constructor
    · intro text
      exact (nameLookup_tabulates _ _ _ _ text).runWith_perm (nameLookup_tabulates _ _ _ _ text)
        shuffled.elements admitted.distinct rfl
    · intro name
      exact (Extensions.encode_tabulates _ _ _ name).runWith_perm
        (Extensions.encode_tabulates _ _ _ name) shuffled.elements admitted.distinct rfl

end Codable

end

/-- The order of declaration decides neither whether an enum is accepted nor what any of the switches
does that are synthesized for it. A constructor by raw value is run with the accessor that was
synthesized together with it. -/
theorem declaration_order_irrelevant (settings : Settings) (first second : Decl)
    (shuffled : first.Shuffled second) :
    (((∃ built, Nullable.members settings (.decl first) = .ok built) ↔
        ∃ built, Nullable.members settings (.decl second) = .ok built) ∧
      ((∃ built, Codable.members settings (.decl first) = .ok built) ↔
        ∃ built, Codable.members settings (.decl second) = .ok built) ∧
      ((∃ built, Codable.extensions settings (.decl first) = .ok built) ↔
        ∃ built, Codable.extensions settings (.decl second) = .ok built)) ∧
    (∀ one two, Nullable.members settings (.decl first) = .ok one →
      Nullable.members settings (.decl second) = .ok two → ∀ accessor text,
        SameBranch (one.withName.run accessor (.str text))
          (two.withName.run accessor (.str text))) ∧
    (∀ one two, Codable.members settings (.decl first) = .ok one →
      Codable.members settings (.decl second) = .ok two →
        (∀ accessor name, SameBranch (one.toRaw.run accessor (.case name))
          (two.toRaw.run accessor (.case name))) ∧
        ∀ text, SameBranch (one.ofRaw.run (some one.toRaw) (.str text))
          (two.ofRaw.run (some two.toRaw) (.str text))) ∧
    (∀ one two, Codable.extensions settings (.decl first) = .ok one →
      Codable.extensions settings (.decl second) = .ok two → ∀ accessor,
        (∀ text, SameBranch (one.decode.run accessor (.str text))
          (two.decode.run accessor (.str text))) ∧
        ∀ name, SameBranch (one.encode.run accessor (.case name))
          (two.encode.run accessor (.case name))) := by
  obtain ⟨named,lookups⟩ := Nullable.members_shuffled settings shuffled
  obtain ⟨coded,accessors⟩ := Codable.members_shuffled settings shuffled
  obtain ⟨conforming,codings⟩ := Codable.extensions_shuffled settings shuffled
  exact ⟨⟨named,coded,conforming⟩,lookups,accessors,codings⟩

def ascending : Decl :=
  ⟨.enum, "Event", [⟨"String"⟩],
    [.cases [⟨"Opened", some (.str "Closed"), false⟩, ⟨"Closed", some (.str "done"), false⟩],
      .cases [⟨"Merged", none, false⟩]]⟩

def descending : Decl :=
  ⟨.enum, "Event", [⟨"String"⟩],
    [.cases [⟨"Merged", none, false⟩], .other "fn turn(&self) {}",
      .cases [⟨"Closed", some (.str "done"), false⟩, ⟨"Opened", some (.str "Closed"), false⟩]]⟩

theorem declaration_order_irrelevant_reversed :
    ascending.Shuffled descending ∧
    ∃ one two, Codable.members {} (.decl ascending) = .ok one ∧
      Codable.members {} (.decl descending) = .ok two ∧
      SameBranch (one.ofRaw.run (some one.toRaw) (.str "Closed"))
        (two.ofRaw.run (some two.toRaw) (.str "Closed")) := by
  have shuffled : ascending.Shuffled descending := ⟨by decide,rfl,rfl,by decide⟩
  refine ⟨shuffled,_,_,rfl,rfl,?_⟩
  exact ((declaration_order_irrelevant {} ascending descending shuffled).2.2.1 _ _ rfl rfl).2 _

end CaseSynthesis
