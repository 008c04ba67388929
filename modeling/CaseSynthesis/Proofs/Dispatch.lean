import CaseSynthesis.Switch.Run
import Mathlib.Data.List.Nodup

/-! Switches as tables. Where every pattern can be compared with the value, a run takes the arm of
the one entry that has the value for its key, and the default if no entry has it. -/

namespace CaseSynthesis

theorem selectBranch_hit (test : Pattern → Except SwitchError Bool) (default : Branch) (arm : Arm)
    (rest : List Arm) (matched : test arm.pattern = .ok true) :
    selectBranch test default (arm :: rest) = .ok arm.branch := by
  rw [selectBranch,matched]
  rfl

theorem selectBranch_miss (test : Pattern → Except SwitchError Bool) (default : Branch) (arm : Arm)
    (rest : List Arm) (missed : test arm.pattern = .ok false) :
    selectBranch test default (arm :: rest) = selectBranch test default rest := by
  rw [selectBranch,missed]
  rfl

/-- Arms that do not match are passed over, whatever follows them. -/
theorem selectBranch_skip (test : Pattern → Except SwitchError Bool) (default : Branch)
    (before after : List Arm) (missed : ∀ arm ∈ before, test arm.pattern = .ok false) :
    selectBranch test default (before ++ after) = selectBranch test default after := by
  induction before with
  | nil => rfl
  | cons arm before ih =>
    have head : test arm.pattern = .ok false := missed arm (by simp)
    have tail : ∀ arm ∈ before, test arm.pattern = .ok false :=
      fun arm member => missed arm (List.mem_cons_of_mem _ member)
    rw [List.cons_append,selectBranch_miss test default arm _ head]
    exact ih tail

theorem test_str (rawValue : String → Except SwitchError String) (expected actual : String) :
    (Pattern.str expected).test rawValue (.str actual) = .ok (expected == actual) := rfl

theorem test_case (rawValue : String → Except SwitchError String) (expected actual : String) :
    (Pattern.case expected).test rawValue (.case actual) = .ok (expected == actual) := rfl

theorem test_rawValueOf (rawValue : String → Except SwitchError String)
    (name value actual : String) (found : rawValue name = .ok value) :
    (Pattern.rawValueOf name).test rawValue (.str actual) = .ok (value == actual) := by
  simp only [Pattern.test,found]
  rfl

theorem rawValue_of_returnStr (accessor : Switch) (name value : String)
    (returned : accessor.runWith (fun name => .error (.missingAccessor name)) (.case name) =
      .ok (.returnStr value)) : Switch.rawValue (some accessor) name = .ok value := by
  simp only [Switch.rawValue,returned]
  rfl

/-- One arm for each entry of a table, in their order. Against the value that is run, the pattern of
an entry stands for the key of the entry. -/
structure Tabulates {α : Type} (rawValue : String → Except SwitchError String) (value : Value)
    (text : String) (entries : List α) (key : α → String) (arm : α → Arm) (switch : Switch) :
    Prop where
  arms : switch.arms = entries.map arm
  compared : ∀ entry ∈ entries,
    (arm entry).pattern.test rawValue value = .ok (key entry == text)

namespace Tabulates

variable {α : Type} {rawValue : String → Except SwitchError String} {value : Value}
  {text : String} {entries : List α} {key : α → String} {arm : α → Arm} {switch : Switch}

private theorem missed (table : Tabulates rawValue value text entries key arm switch) (part : List α)
    (inside : ∀ entry ∈ part, entry ∈ entries) (absent : text ∉ part.map key) :
    ∀ skipped ∈ part.map arm, skipped.pattern.test rawValue value = .ok false := by
  intro skipped member
  obtain ⟨entry,listed,rfl⟩ := List.mem_map.mp member
  have other : key entry ≠ text := fun same => absent (List.mem_map.mpr ⟨entry,listed,same⟩)
  rw [table.compared entry (inside entry listed)]
  simp [other]

theorem runWith_absent (table : Tabulates rawValue value text entries key arm switch)
    (absent : text ∉ entries.map key) : switch.runWith rawValue value = .ok switch.default := by
  have skipped := table.missed entries (fun _ listed => listed) absent
  unfold Switch.runWith
  rw [table.arms,← List.append_nil (entries.map arm),selectBranch_skip _ _ _ _ skipped]
  rfl

/-- Distinct keys leave only one arm that can match, so that the first match is the entry asked
for. -/
theorem runWith_entry (table : Tabulates rawValue value text entries key arm switch)
    (distinct : (entries.map key).Nodup) (entry : α) (member : entry ∈ entries)
    (found : key entry = text) : switch.runWith rawValue value = .ok (arm entry).branch := by
  obtain ⟨before,after,split⟩ := List.append_of_mem member
  have fresh : text ∉ before.map key := by
    intro listed
    rw [split,List.map_append,List.map_cons] at distinct
    have apart := List.disjoint_of_nodup_append distinct
    exact apart listed (by simp [found])
  have skipped := table.missed before (by simp +contextual [split]) fresh
  have matched : (arm entry).pattern.test rawValue value = .ok true := by
    rw [table.compared entry member,found,beq_self_eq_true]
  unfold Switch.runWith
  rw [table.arms,split,List.map_append,List.map_cons,selectBranch_skip _ _ _ _ skipped,
    selectBranch_hit _ _ _ _ matched]

/-- Where the branch of an entry depends on its key alone, a run depends only on whether the value
is a key. -/
theorem runWith_key (table : Tabulates rawValue value text entries key arm switch)
    (distinct : (entries.map key).Nodup) (branch : String → Branch)
    (labelled : ∀ entry, (arm entry).branch = branch (key entry)) :
    switch.runWith rawValue value =
      .ok (if text ∈ entries.map key then branch text else switch.default) := by
  by_cases listed : text ∈ entries.map key
  · obtain ⟨entry,member,same⟩ := List.mem_map.mp listed
    rw [table.runWith_entry distinct entry member same,labelled,same,if_pos listed]
  · rw [table.runWith_absent listed,if_neg listed]

end Tabulates

end CaseSynthesis
