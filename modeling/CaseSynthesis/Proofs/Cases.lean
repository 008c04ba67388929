import CaseSynthesis.Rule.Case
import Mathlib.Data.List.Nodup

/-! Which nodes have cases, and which cases they have. Every rule for enums reads a node so. -/

namespace CaseSynthesis

theorem bind_eq_ok_iff {ε α β : Type} (first : Except ε α) (next : α → Except ε β) (result : β) :
    (first >>= next) = .ok result ↔ ∃ value, first = .ok value ∧ next value = .ok result := by
  cases first <;> simp [bind,Except.bind]

theorem structural_eq_ok_iff {α : Type} (rule : Rule) (result : Except Mismatch α) (value : α) :
    structural rule result = .ok value ↔ result = .ok value := by
  cases result <;> simp [structural,Except.mapError]

theorem enum_eq_ok_iff (node : Node) (decl : Decl) :
    node.enum = .ok decl ↔ node = .decl decl ∧ decl.kind = .enum := by
  cases node with
  | expr expr => simp [Node.enum]
  | invocation invocation => simp [Node.enum]
  | decl declared =>
    by_cases kind : declared.kind = .enum
    · simp only [Node.enum,kind,if_true,Except.ok.injEq,Node.decl.injEq]
      constructor
      · rintro rfl
        exact ⟨rfl,kind⟩
      · exact And.left
    · simp only [Node.enum,kind,if_false,reduceCtorEq,Node.decl.injEq,false_iff]
      rintro ⟨rfl,accepted⟩
      exact kind accepted

def Node.elements : Node → List CaseElement
  | decl declared => declared.elements
  | _ => []

def CaseElement.case (element : CaseElement) : Case := ⟨element.name, element.rawValue⟩

def DistinctAfter (seen keys : List String) : Prop := keys.Nodup ∧ keys.Disjoint seen

theorem distinctAfter_nil (seen : List String) : DistinctAfter seen [] := by
  simp [DistinctAfter]

/-- The step of a check that remembers what it has seen. -/
theorem distinctAfter_cons (seen : List String) (key : String) (rest : List String) :
    DistinctAfter seen (key :: rest) ↔ key ∉ seen ∧ DistinctAfter (key :: seen) rest := by
  simp only [DistinctAfter,List.nodup_cons,List.disjoint_cons_left,List.disjoint_cons_right]
  tauto

theorem distinctAfter_start (keys : List String) : DistinctAfter [] keys ↔ keys.Nodup := by
  simp [DistinctAfter]

private theorem casesAfter_cons_eq_ok_iff (seen : List String) (element : CaseElement)
    (rest : List CaseElement) (cases : List Case) :
    casesAfter seen (element :: rest) = .ok cases ↔
      element.hasPayload = false ∧ element.name ∉ seen ∧
        ∃ following, casesAfter (element.name :: seen) rest = .ok following ∧
          cases = element.case :: following := by
  rw [casesAfter]
  by_cases payload : element.hasPayload = true
  · simp [payload,bind,Except.bind,throw,throwThe,MonadExceptOf.throw]
  · by_cases repeated : element.name ∈ seen
    · simp [payload,repeated,bind,Except.bind,throw,throwThe,MonadExceptOf.throw]
    · rw [if_neg payload,if_neg repeated]
      cases following : casesAfter (element.name :: seen) rest with
      | error cause => simp [bind,Except.bind]
      | ok declared =>
        simp only [bind,Except.bind,pure,Except.pure,Except.ok.injEq,payload,repeated]
        simp [eq_comm,CaseElement.case]

/-- Elements declare cases exactly if none of them has a payload and no name stands twice among
them and those seen before. Then each declares its own case. -/
private theorem casesAfter_eq_ok_iff (seen : List String) (elements : List CaseElement)
    (cases : List Case) :
    casesAfter seen elements = .ok cases ↔
      (∀ element ∈ elements, element.hasPayload = false) ∧
      DistinctAfter seen (elements.map CaseElement.name) ∧
      cases = elements.map CaseElement.case := by
  induction elements generalizing seen cases with
  | nil => simp [casesAfter,distinctAfter_nil]
  | cons element rest ih =>
    rw [casesAfter_cons_eq_ok_iff]
    simp only [ih,List.forall_mem_cons,List.map_cons,distinctAfter_cons]
    constructor
    · rintro ⟨unit,fresh,following,⟨units,distinct,rfl⟩,rfl⟩
      exact ⟨⟨unit,units⟩,⟨fresh,distinct⟩,rfl⟩
    · rintro ⟨⟨unit,units⟩,⟨fresh,distinct⟩,rfl⟩
      exact ⟨unit,fresh,_,⟨units,distinct,rfl⟩,rfl⟩

structure Node.Enumerates (node : Node) : Prop where
  enum : ∃ decl, node = .decl decl ∧ decl.kind = .enum
  units : ∀ element ∈ node.elements, element.hasPayload = false
  distinct : (node.elements.map CaseElement.name).Nodup

theorem decl_cases_eq_ok_iff (decl : Decl) (cases : List Case) :
    decl.cases = .ok cases ↔
      (∀ element ∈ decl.elements, element.hasPayload = false) ∧
      (decl.elements.map CaseElement.name).Nodup ∧ cases = decl.elements.map CaseElement.case := by
  rw [Decl.cases,casesAfter_eq_ok_iff,distinctAfter_start]

theorem node_cases_eq_ok_iff (node : Node) (cases : List Case) :
    node.cases = .ok cases ↔ node.Enumerates ∧ cases = node.elements.map CaseElement.case := by
  simp only [Node.cases,bind_eq_ok_iff,enum_eq_ok_iff,decl_cases_eq_ok_iff]
  constructor
  · rintro ⟨decl,⟨rfl,kind⟩,units,distinct,rfl⟩
    exact ⟨⟨⟨decl,rfl,kind⟩,units,distinct⟩,rfl⟩
  · rintro ⟨⟨⟨decl,rfl,kind⟩,units,distinct⟩,rfl⟩
    exact ⟨decl,⟨rfl,kind⟩,units,distinct,rfl⟩

theorem names_case (elements : List CaseElement) :
    (elements.map CaseElement.case).map Case.name = elements.map CaseElement.name := by
  rw [List.map_map]
  rfl

theorem checkFallback_eq_ok_iff (fallback : String) (elements : List CaseElement) :
    checkFallback fallback (elements.map CaseElement.case) = .ok () ↔
      fallback ∉ elements.map CaseElement.name := by
  unfold checkFallback
  rw [← names_case]
  cases found : (elements.map CaseElement.case).find? fun case => case.name = fallback with
  | none => simpa using found
  | some case =>
    have member := List.mem_of_find?_eq_some found
    have same : case.name = fallback := by simpa using List.find?_some found
    simp only [reduceCtorEq,false_iff,not_not]
    exact List.mem_map.mpr ⟨case,member,same⟩

/-- An enum to which a fallback case of the given name can be added. -/
structure Node.Admits (node : Node) (fallback : String) : Prop extends node.Enumerates where
  free : fallback ∉ node.elements.map CaseElement.name

/-- A rule that reads the cases of a node and then checks its fallback goes on exactly from the
nodes that admit the fallback. -/
theorem checked_cases_eq_ok_iff {α : Type} (rule : Rule) (node : Node) (fallback : String)
    (next : List Case → Except SynthesisError α) (result : α) :
    (do
      let cases ← structural rule node.cases
      checkFallback fallback cases
      next cases) = .ok result ↔
      node.Admits fallback ∧ next (node.elements.map CaseElement.case) = .ok result := by
  simp only [bind_eq_ok_iff,structural_eq_ok_iff,node_cases_eq_ok_iff]
  constructor
  · rintro ⟨_,⟨enum,rfl⟩,_,free,continued⟩
    exact ⟨⟨enum,(checkFallback_eq_ok_iff _ _).mp free⟩,continued⟩
  · rintro ⟨⟨enum,free⟩,continued⟩
    exact ⟨_,⟨enum,rfl⟩,(),(checkFallback_eq_ok_iff _ _).mpr free,continued⟩

end CaseSynthesis
