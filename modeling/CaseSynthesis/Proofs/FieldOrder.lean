import CaseSynthesis.Json.Decode
import Mathlib.Data.List.Forall2
import Mathlib.Data.List.Nodup

/-! Values that differ only in the order of fields, and how the parts of a record are found in all of
them alike. A form that can be read back from any order is one that no two values share. -/

namespace CaseSynthesis.Json

/-- A value that is equal to another but for the order in which the fields of its objects stand. -/
inductive Reorders : Json → Json → Prop
  | null : Reorders null null
  | bool (value : Bool) : Reorders (bool value) (bool value)
  | number (text : String) : Reorders (number text) (number text)
  | str (value : String) : Reorders (str value) (str value)
  | arr {elements others : List Json} (each : List.Forall₂ Reorders elements others) :
    Reorders (arr elements) (arr others)
  | obj {fields others moved : List (String × Json)}
    (names : fields.map Prod.fst = others.map Prod.fst)
    (values : List.Forall₂ Reorders (fields.map Prod.snd) (others.map Prod.snd))
    (permuted : others.Perm moved) : Reorders (obj fields) (obj moved)

mutual

private theorem Reorders.refl : (json : Json) → Reorders json json
  | .null => null
  | .bool value => bool value
  | .number text => number text
  | .str value => str value
  | .arr elements => arr (reflAll elements)
  | .obj fields => obj rfl (reflFields fields) (List.Perm.refl fields)

theorem Reorders.reflAll : (elements : List Json) → List.Forall₂ Reorders elements elements
  | [] => .nil
  | value :: rest => .cons (refl value) (reflAll rest)

theorem Reorders.reflFields : (fields : List (String × Json)) →
    List.Forall₂ Reorders (fields.map Prod.snd) (fields.map Prod.snd)
  | [] => .nil
  | (_,value) :: rest => .cons (refl value) (reflFields rest)

end

/-- Of fields with different names, each is found by its name. -/
private theorem field?_of_mem (fields : List (String × Json)) (distinct : (fields.map Prod.fst).Nodup)
    (name : String) (value : Json) (listed : (name,value) ∈ fields) :
    field? name fields = some value := by
  have present : (fields.reverse.find? fun field => field.1 == name).isSome = true := by
    rw [List.find?_isSome]
    exact ⟨(name,value),List.mem_reverse.mpr listed,beq_self_eq_true name⟩
  obtain ⟨found,first⟩ := Option.isSome_iff_exists.mp present
  have member : found ∈ fields := List.mem_reverse.mp (List.mem_of_find?_eq_some first)
  have named : (found.1 == name) = true := by simpa using List.find?_some first
  have same : found = (name,value) := List.inj_on_of_nodup_map distinct member listed (eq_of_beq named)
  rw [field?,first,same]
  rfl

def Keeps (written fields : List (String × Json)) : Prop :=
  ∀ name value, (name,value) ∈ written →
    ∃ other, field? name fields = some other ∧ Reorders value other

private theorem exists_reordered {written others : List (String × Json)}
    (names : written.map Prod.fst = others.map Prod.fst)
    (values : List.Forall₂ Reorders (written.map Prod.snd) (others.map Prod.snd))
    (name : String) (value : Json) (listed : (name,value) ∈ written) :
    ∃ other, (name,other) ∈ others ∧ Reorders value other := by
  induction written generalizing others with
  | nil => contradiction
  | cons field written ih =>
    cases others with
    | nil => simp at names
    | cons other others =>
      obtain ⟨same,names⟩ := List.cons_eq_cons.mp names
      obtain ⟨first,values⟩ := List.forall₂_cons.mp values
      rcases List.mem_cons.mp listed with rfl | later
      · exact ⟨other.2,List.mem_cons.mpr (.inl (Prod.ext same rfl)),first⟩
      · obtain ⟨other,member,same⟩ := ih names values later
        exact ⟨other,List.mem_cons_of_mem _ member,same⟩

theorem Reorders.keeps {written : List (String × Json)} {json : Json}
    (same : Reorders (.obj written) json) (distinct : (written.map Prod.fst).Nodup) :
    ∃ fields, json = .obj fields ∧ Keeps written fields := by
  cases same with
  | obj names values permuted =>
    refine ⟨_,rfl,fun name value listed => ?_⟩
    obtain ⟨other,member,same⟩ := exists_reordered names values name value listed
    have unique := (permuted.map Prod.fst).nodup (names ▸ distinct)
    exact ⟨other,field?_of_mem _ unique name other (permuted.subset member),same⟩

/-- The tag of a record is found, and what remains is the record without it. -/
theorem Reorders.tagged {tag name : String} {written : List (String × Json)} {json : Json}
    (same : Reorders (.obj ((tag,.str name) :: written)) json)
    (distinct : (tag :: written.map Prod.fst).Nodup) :
    ∃ content, json.tagged? tag = some (name,content) ∧ Reorders (.obj written) content := by
  obtain ⟨fields,rfl,kept⟩ := same.keeps distinct
  obtain ⟨_,found,⟨⟩⟩ := kept tag (.str name) List.mem_cons_self
  refine ⟨.obj (fields.filter fun field => field.1 != tag),by rw [tagged?,found]; rfl,?_⟩
  cases same with
  | @obj _ others _ names values permuted =>
    cases others with
    | nil => simp at names
    | cons other others =>
      obtain ⟨same,names⟩ := List.cons_eq_cons.mp names
      obtain ⟨_,values⟩ := List.forall₂_cons.mp values
      -- The tag is taken away by its name, so no other field may have that name.
      have untagged : ∀ field ∈ others, (field.1 != tag) = true := by
        intro field listed
        rw [names,List.nodup_cons] at distinct
        exact bne_iff_ne.mpr fun same => distinct.1 (same ▸ List.mem_map_of_mem listed)
      refine .obj names values ?_
      have removed : (other :: others).filter (fun field => field.1 != tag) = others := by
        rw [List.filter_cons_of_neg (by simp [← same]),List.filter_eq_self.mpr untagged]
      rw [← removed]
      exact permuted.filter _

/-- An alternative whose content stands next to its tag. -/
theorem Reorders.adjacent {tag content kind : String} {value json : Json}
    (same : Reorders (.obj [(tag,.str kind),(content,value)]) json) (apart : tag ≠ content)
    (inTagged : Bool) :
    ∃ other, json.adjacent? inTagged tag content = some (kind,other) ∧ Reorders value other := by
  obtain ⟨fields,rfl,kept⟩ := same.keeps (by simpa using apart)
  obtain ⟨_,tagged,⟨⟩⟩ := kept tag (.str kind) (by simp)
  obtain ⟨other,found,same⟩ := kept content value (by simp)
  refine ⟨other,?_,same⟩
  simp [adjacent?,record?,tagged,found,unitName?,alternative?,isUnit]

/-- An alternative that is the only field of an object. -/
theorem Reorders.alternative {name : String} {value json : Json}
    (same : Reorders (.obj [(name,value)]) json) :
    ∃ other, json.alternative? = some (name,some other) ∧ Reorders value other := by
  cases same with
  | @obj _ others _ names values permuted =>
    cases others with
    | nil => simp at names
    | cons other others =>
      obtain ⟨rfl,none⟩ := List.cons_eq_cons.mp names
      obtain rfl : others = [] := List.map_eq_nil_iff.mp none.symm
      obtain rfl := List.singleton_perm.mp permuted
      exact ⟨other.2,rfl,(List.forall₂_cons.mp values).1⟩

/-- A record of one text. -/
theorem Reorders.text {name value : String} {json : Json}
    (same : Reorders (.obj [(name,.str value)]) json) :
    ∃ fields, json.record? [name] = some fields ∧ required? str? name fields = some value := by
  obtain ⟨fields,rfl,kept⟩ := same.keeps (List.nodup_singleton name)
  obtain ⟨_,found,⟨⟩⟩ := kept name (.str value) List.mem_cons_self
  exact ⟨fields,rfl,by rw [required?,found]; rfl⟩

def ReadsBack {α : Type} (write : α → Json) (read : Json → Option α) : Prop :=
  ∀ value json, Reorders (write value) json → read json = some value

theorem str_readsBack : ReadsBack str str? := by
  rintro value _ ⟨⟩
  rfl

theorem bool_readsBack : ReadsBack bool bool? := by
  rintro value _ ⟨⟩
  rfl

theorem list?_eq_some {α : Type} (read : Json → Option α) (values : List α)
    (elements : List Json)
    (each : List.Forall₂ (fun value element => read element = some value) values elements) :
    list? read (arr elements) = some values := by
  change elements.mapM read = some values
  induction each with
  | nil => rfl
  | cons first _ ih => rw [List.mapM_cons,first,ih]; rfl

section

variable {α : Type} {write : α → Json} {read : Json → Option α} (back : ReadsBack write read)
include back

theorem ReadsBack.list : ReadsBack (fun values => .arr (values.map write)) (list? read) := by
  intro values json same
  cases same with
  | arr each =>
    rw [List.forall₂_map_left_iff] at each
    exact list?_eq_some read values _ (each.imp fun value element => back value element)

variable {written fields : List (String × Json)} (kept : Keeps written fields)
include kept

theorem ReadsBack.required (name : String) (value : α) (listed : (name,write value) ∈ written) :
    required? read name fields = some value := by
  obtain ⟨other,found,same⟩ := kept name (write value) listed
  rw [required?,found]
  exact back value other same

theorem ReadsBack.optional (missing : α) (name : String) (value : α)
    (listed : (name,write value) ∈ written) : optional? read missing name fields = some value := by
  obtain ⟨other,found,same⟩ := kept name (write value) listed
  rw [optional?,found]
  exact back value other same

end

/-- A form that is read back, also when its fields are reordered, and that no two values share. -/
structure Faithful {α : Type} (write : α → Json) (read : Json → Option α) : Prop where
  back : ∀ value, read (write value) = some value
  reordered : ∀ value json, Reorders (write value) json → read json = some value
  apart : ∀ value other, Reorders (write value) (write other) → value = other

theorem ReadsBack.faithful {α : Type} {write : α → Json} {read : Json → Option α}
    (back : ReadsBack write read) : Faithful write read where
  back value := back value _ (.refl _)
  reordered := back
  apart value other same := by
    have first := back value _ same
    rw [back other _ (.refl _)] at first
    exact (Option.some.inj first).symm

private theorem depthFields_le_iff (fields : List (String × Json)) (bound : Nat) :
    depthFields fields ≤ bound ↔ ∀ field ∈ fields, field.2.depth ≤ bound := by
  induction fields with
  | nil => simp [depthFields]
  | cons field fields ih => rw [depthFields,Nat.max_le,ih,List.forall_mem_cons]

theorem depth_of_field? {name : String} {fields : List (String × Json)} {value : Json}
    (found : field? name fields = some value) : value.depth < (obj fields).depth := by
  obtain ⟨field,first,rfl⟩ := Option.map_eq_some_iff.mp found
  have member : field ∈ fields := List.mem_reverse.mp (List.mem_of_find?_eq_some first)
  rw [depth]
  exact Nat.lt_succ_of_le ((depthFields_le_iff fields _).mp (Nat.le_refl _) field member)

theorem depth_of_tagged? {tag name : String} {json content : Json}
    (found : json.tagged? tag = some (name,content)) : content.depth ≤ json.depth := by
  revert found
  fun_cases tagged? tag json with
  | case1 fields =>
    simp only [Option.bind_eq_bind,Option.bind_eq_some_iff,Option.pure_def,Option.some.injEq,
      Prod.mk.injEq]
    rintro ⟨_,_,_,_,_,rfl⟩
    rw [depth,depth,Nat.succ_le_succ_iff,depthFields_le_iff]
    intro field listed
    exact (depthFields_le_iff fields _).mp (Nat.le_refl _) field (List.mem_of_mem_filter listed)
  | case2 first rest =>
    simp only [Option.bind_eq_bind,Option.bind_eq_some_iff,Option.pure_def,Option.some.injEq,
      Prod.mk.injEq]
    rintro ⟨_,_,_,rfl⟩
    rw [depth,depth,depthAll]
    omega
  | case3 => nofun

end CaseSynthesis.Json
