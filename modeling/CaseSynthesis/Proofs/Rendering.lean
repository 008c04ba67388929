import CaseSynthesis.Program.Rendering
import CaseSynthesis.Proofs.Conformances
import CaseSynthesis.Proofs.RawValues

/-! What it takes to write declarations. Whether one can be written does not depend on those before
it, so that all can be written if each can, and else the first that cannot tells the error. -/

namespace CaseSynthesis

theorem isOk_iff {ε α : Type} (result : Except ε α) :
    result.isOk = true ↔ ∃ value, result = .ok value := by
  cases result <;> simp [Except.isOk,Except.toBool]

theorem isOk_bind {ε α β : Type} (first : Except ε α) (next : α → Except ε β) (good : Bool)
    (each : ∀ value, (next value).isOk = good) : (first >>= next).isOk = (first.isOk && good) := by
  cases first with
  | error error => rfl
  | ok value => exact (each value).trans (Bool.true_and good).symm

theorem isOk_mapM {ε α β : Type} (function : α → Except ε β) (items : List α) :
    (items.mapM function).isOk = items.all fun item => (function item).isOk := by
  induction items with
  | nil => rfl
  | cons item items ih =>
    rw [List.mapM_cons,List.all_cons]
    apply isOk_bind
    intro value
    rw [isOk_bind _ _ true (fun _ => rfl),ih,Bool.and_true]

private theorem isOk_foldlM {ε α β : Type} (step : β → α → Except ε β) (good : α → Bool)
    (each : ∀ state item, (step state item).isOk = good item) (items : List α) (state : β) :
    (items.foldlM step state).isOk = items.all good := by
  induction items generalizing state with
  | nil => rfl
  | cons item items ih =>
    rw [List.foldlM_cons,List.all_cons,isOk_bind _ _ _ ih,each]

def Pattern.caseNames : Pattern → List String
  | str _ => []
  | case name | rawValueOf name => [name]

def Branch.caseNames : Branch → List String
  | assignCase name => [name]
  | returnStr _ => []

def Arm.caseNames (arm : Arm) : List String := arm.pattern.caseNames ++ arm.branch.caseNames

def Switch.caseNames (switch : Switch) : List String :=
  switch.arms.flatMap Arm.caseNames ++ switch.default.caseNames

namespace Rendering

def isWritable (name : String) : Bool := (caseIdent name).isOk

private theorem casePath_isOk (name : String) : (casePath name).isOk = isWritable name := by
  rw [casePath,isOk_bind _ _ true (fun _ => rfl),Bool.and_true,isWritable]

private theorem pattern_isOk (built : Pattern) :
    (pattern built).isOk = built.caseNames.all isWritable := by
  cases built with
  | str value => rfl
  | case name => simp [pattern,Pattern.caseNames,casePath_isOk]
  | rawValueOf name =>
    rw [pattern,isOk_bind _ _ true (fun _ => rfl),casePath_isOk]
    simp [Pattern.caseNames]

private theorem branch_isOk (built : Branch) : (branch built).isOk = built.caseNames.all isWritable := by
  cases built with
  | assignCase name => simp [branch,Branch.caseNames,casePath_isOk]
  | returnStr value => rfl

private theorem arm_isOk (built : Arm) : (arm built).isOk = built.caseNames.all isWritable := by
  rw [arm,isOk_bind _ _ _ (fun _ => isOk_bind _ _ true (fun _ => rfl)),pattern_isOk,branch_isOk,
    Arm.caseNames,List.all_append,Bool.and_true]

/-- A switch can be written exactly if its subject and every case that it names can. -/
theorem switch_isOk (built : Switch) :
    (switch built).isOk =
      ((subject built.subject).isOk && built.caseNames.all isWritable) := by
  have arms : (built.arms.mapM arm).isOk =
      (built.arms.flatMap Arm.caseNames).all isWritable := by
    rw [isOk_mapM,List.all_flatMap]
    simp only [arm_isOk]
  rw [switch,isOk_bind _ _ _
      (fun _ => isOk_bind _ _ _ (fun _ => isOk_bind _ _ true (fun _ => rfl))),
    arms,branch_isOk,Switch.caseNames,List.all_append,Bool.and_true]

def isRenderable : Declaration → Bool
  | .case name => isWritable name
  | .initializer built =>
    (nameIdent built.name).isOk && ((nameIdent built.parameter).isOk && (switch built.body).isOk)
  | .accessor built => (nameIdent built.name).isOk && (switch built.body).isOk
  | .extension built => (typeTokens built.target).isOk && (switch built.body).isOk

private theorem add_isOk (serde : List Token) (additions : Additions) (declaration : Declaration) :
    (additions.add serde declaration).isOk = isRenderable declaration := by
  cases declaration with
  | case name =>
    rw [Additions.add,isOk_bind _ _ true (fun _ => rfl),Bool.and_true]
    rfl
  | initializer built =>
    rw [Additions.add,isOk_bind _ _ true (fun _ => rfl),initializer,isOk_bind _ _ _
      (fun _ => isOk_bind _ _ _ (fun _ => isOk_bind _ _ true (fun _ => rfl)))]
    simp only [Bool.and_true,isRenderable]
  | accessor built =>
    rw [Additions.add,isOk_bind _ _ true (fun _ => rfl),accessor,isOk_bind _ _ _
      (fun _ => isOk_bind _ _ true (fun _ => rfl))]
    simp only [Bool.and_true,isRenderable]
  | extension built =>
    rw [Additions.add,isOk_bind _ _ true (fun _ => rfl),extension,isOk_bind _ _ _
      (fun _ => isOk_bind _ _ true (fun _ => rfl))]
    simp only [Bool.and_true,isRenderable]

theorem enum_isOk (settings : Settings) (item : Grammar.EnumItem)
    (declarations : List Declaration) :
    (enum settings item declarations).isOk =
      ((pathTokens settings.serdePath).isOk && declarations.all isRenderable) := by
  apply isOk_bind
  intro serde
  rw [isOk_bind _ _ true (fun _ => rfl),isOk_foldlM _ isRenderable (add_isOk serde),Bool.and_true]

theorem pathTokens_isOk (path : String) (read : ∃ found, readPath path = .ok found) :
    (pathTokens path).isOk = true := by
  obtain ⟨found,same⟩ := read
  rw [pathTokens,same]
  rfl

def Pathless {α : Type} (result : Except RenderError α) : Prop :=
  ∀ text, result ≠ .error (.invalidPath text)

private theorem pathless_ok {α : Type} (value : α) : Pathless (.ok value) := by
  intro text failed
  contradiction

private theorem pathless_bind {α β : Type} (first : Except RenderError α)
    (next : α → Except RenderError β) (head : Pathless first)
    (tail : ∀ value, Pathless (next value)) : Pathless (first >>= next) := by
  cases first with
  | error error => exact fun text failed => head text (congrArg _ (Except.error.inj failed))
  | ok value => exact tail value

private theorem pathless_mapM {α β : Type} (function : α → Except RenderError β) (items : List α)
    (each : ∀ item, Pathless (function item)) : Pathless (items.mapM function) := by
  induction items with
  | nil => exact pathless_ok []
  | cons item items ih =>
    rw [List.mapM_cons]
    exact pathless_bind _ _ (each item) fun _ => pathless_bind _ _ ih fun _ => pathless_ok _

private theorem pathless_foldlM {α β : Type} (step : β → α → Except RenderError β) (items : List α)
    (state : β) (each : ∀ state item, Pathless (step state item)) :
    Pathless (items.foldlM step state) := by
  induction items generalizing state with
  | nil => exact pathless_ok state
  | cons item items ih =>
    rw [List.foldlM_cons]
    exact pathless_bind _ _ (each state item) ih

private theorem pathless_mapError {α : Type} (result : Except IdentFault α) :
    Pathless (result.mapError .ident) := by
  cases result <;> simp [Pathless,Except.mapError]

private theorem pathless_caseIdent (name : String) : Pathless (caseIdent name) := by
  unfold caseIdent
  split
  · exact pathless_ok _
  · split
    · exact pathless_mapError _
    · simp [Pathless]

private theorem pathless_casePath (name : String) : Pathless (casePath name) :=
  pathless_bind _ _ (pathless_caseIdent name) fun _ => pathless_ok _

private theorem pathless_nameIdent (name : String) : Pathless (nameIdent name) :=
  pathless_bind _ _ (pathless_mapError _) fun _ => pathless_ok _

private theorem pathless_typeTokens (type : TypeName) : Pathless (typeTokens type) := by
  unfold typeTokens
  split
  · exact pathless_ok _
  · simp [Pathless]

private theorem pathless_pattern (built : Pattern) : Pathless (pattern built) := by
  cases built with
  | str value => exact pathless_ok _
  | case name => exact pathless_casePath name
  | rawValueOf name => exact pathless_bind _ _ (pathless_casePath name) fun _ => pathless_ok _

private theorem pathless_branch (built : Branch) : Pathless (branch built) := by
  cases built with
  | assignCase name => exact pathless_casePath name
  | returnStr value => exact pathless_ok _

private theorem pathless_subject (built : Subject) : Pathless (subject built) := by
  cases built with
  | parameter name => exact pathless_nameIdent name
  | selfValue => exact pathless_ok _
  | decodedString => exact pathless_ok _

private theorem pathless_switch (built : Switch) : Pathless (switch built) := by
  have arms : ∀ built, Pathless (arm built) := fun built =>
    pathless_bind _ _ (pathless_pattern built.pattern) fun _ =>
      pathless_bind _ _ (pathless_branch built.branch) fun _ => pathless_ok _
  apply pathless_bind _ _ (pathless_subject built.subject)
  intro _
  apply pathless_bind _ _ (pathless_mapM _ built.arms arms)
  intro _
  exact pathless_bind _ _ (pathless_branch built.default) fun _ => pathless_ok _

private theorem pathless_add (serde : List Token) (additions : Additions) (declaration : Declaration) :
    Pathless (additions.add serde declaration) := by
  cases declaration with
  | case name => exact pathless_bind _ _ (pathless_caseIdent name) fun _ => pathless_ok _
  | initializer built =>
    apply pathless_bind _ _ _ fun _ => pathless_ok _
    apply pathless_bind _ _ (pathless_nameIdent built.name)
    intro _
    apply pathless_bind _ _ (pathless_nameIdent built.parameter)
    intro _
    exact pathless_bind _ _ (pathless_switch built.body) fun _ => pathless_ok _
  | accessor built =>
    apply pathless_bind _ _ _ fun _ => pathless_ok _
    apply pathless_bind _ _ (pathless_nameIdent built.name)
    intro _
    exact pathless_bind _ _ (pathless_switch built.body) fun _ => pathless_ok _
  | extension built =>
    apply pathless_bind _ _ _ fun _ => pathless_ok _
    apply pathless_bind _ _ (pathless_typeTokens built.target)
    intro _
    exact pathless_bind _ _ (pathless_switch built.body) fun _ => pathless_ok _

/-- Nothing but the path of the settings is ever reported as an invalid path. -/
theorem enum_invalidPath_iff (settings : Settings) (item : Grammar.EnumItem)
    (declarations : List Declaration) (text : String) :
    enum settings item declarations = .error (.invalidPath text) ↔
      pathTokens settings.serdePath = .error (.invalidPath text) := by
  cases read : pathTokens settings.serdePath with
  | error error =>
    rw [enum,read]
    change Except.error error = _ ↔ _
    simp only [Except.error.injEq]
  | ok serde =>
    have clear : Pathless (enum settings item declarations) := by
      rw [enum,read]
      apply pathless_bind _ _ (pathless_foldlM _ declarations {} (pathless_add serde))
      exact fun _ => pathless_ok _
    simp only [clear text,reduceCtorEq]

/-- The first declaration that cannot be written makes the whole fail. -/
theorem enum_first_error (settings : Settings) (item : Grammar.EnumItem) (serde : List Token)
    (path : pathTokens settings.serdePath = .ok serde) (before after : List Declaration)
    (declaration : Declaration) (error : RenderError) (written : before.all isRenderable = true)
    (failed : ∀ additions : Additions, additions.add serde declaration = .error error) :
    enum settings item (before ++ declaration :: after) = .error error := by
  have passed : (before.foldlM (Additions.add serde) {}).isOk = true := by
    rw [isOk_foldlM _ isRenderable (add_isOk serde),written]
  obtain ⟨additions,added⟩ := (isOk_iff _).mp passed
  rw [enum,path]
  change ((before ++ declaration :: after).foldlM (Additions.add serde) {} >>= _) = _
  rw [List.foldlM_append,added]
  change ((Additions.add serde additions declaration >>= _) >>= _) = _
  rw [failed]
  rfl

section

variable (fallback : String) (elements : List CaseElement) (name : String)

theorem mem_caseNames_nameLookup (subject : Subject) :
    name ∈ (nameLookup subject fallback (elements.map CaseElement.case)).caseNames ↔
      name ∈ fallback :: elements.map CaseElement.name := by
  simp [nameLookup,Switch.caseNames,Arm.caseNames,Pattern.caseNames,Branch.caseNames,
    CaseElement.case,or_comm,eq_comm]

theorem mem_caseNames_toRaw :
    name ∈ (Codable.Members.ofElements fallback elements).toRaw.caseNames ↔
      name ∈ elements.map CaseElement.name := by
  simp [Codable.Members.ofElements,Switch.caseNames,Arm.caseNames,Pattern.caseNames,
    Branch.caseNames,eq_comm]

theorem mem_caseNames_ofRaw :
    name ∈ (Codable.Members.ofElements fallback elements).ofRaw.caseNames ↔
      name ∈ fallback :: elements.map CaseElement.name := by
  simp [Codable.Members.ofElements,Switch.caseNames,Arm.caseNames,Pattern.caseNames,
    Branch.caseNames,or_comm,eq_comm]

theorem mem_caseNames_encode :
    name ∈ (Codable.Extensions.ofElements fallback elements).encode.caseNames ↔
      name ∈ elements.map CaseElement.name := by
  simp [Codable.Extensions.ofElements,Switch.caseNames,Arm.caseNames,Pattern.caseNames,
    Branch.caseNames,eq_comm]

end

section

variable (fallback : String) (elements : List CaseElement)

/-- What the rule for fallbacks adds can be written if the names of all cases can. -/
theorem nullable_isRenderable_iff :
    (Nullable.Members.declarations ⟨fallback,nameLookup (.parameter Nullable.parameter) fallback
      (elements.map CaseElement.case)⟩).all isRenderable = true ↔
      ∀ name ∈ fallback :: elements.map CaseElement.name, isWritable name = true := by
  have method : (nameIdent "with_name").isOk = true := rfl
  have parameter : (subject (.parameter Nullable.parameter)).isOk = true := rfl
  simp only [Nullable.Members.declarations,List.all_cons,List.all_nil,isRenderable,method,
    switch_isOk,Bool.true_and,Bool.and_true,Bool.and_eq_true,List.all_eq_true,
    mem_caseNames_nameLookup]
  constructor
  · exact fun written => written.2.2.2
  · exact fun written => ⟨written fallback (by simp),rfl,parameter,written⟩

theorem members_isRenderable_iff :
    (Codable.Members.ofElements fallback elements).declarations.all isRenderable = true ↔
      ∀ name ∈ fallback :: elements.map CaseElement.name, isWritable name = true := by
  simp only [Codable.Members.declarations,List.all_cons,List.all_nil,isRenderable,
    switch_isOk,Bool.and_true,Bool.and_eq_true,List.all_eq_true,mem_caseNames_toRaw,
    mem_caseNames_ofRaw]
  constructor
  · exact fun written => written.2.2.2.2.2
  · intro written
    refine ⟨written fallback (by simp),⟨rfl,rfl,?_⟩,rfl,rfl,rfl,written⟩
    exact fun name listed => written name (List.mem_cons_of_mem _ listed)

theorem extensions_isRenderable_iff (target : TypeName) :
    ((Codable.Extensions.ofElements fallback elements).declarations target).all isRenderable =
        true ↔
      (typeTokens target).isOk = true ∧
      ∀ name ∈ fallback :: elements.map CaseElement.name, isWritable name = true := by
  have decoder := fun name => mem_caseNames_nameLookup fallback elements name .decodedString
  simp only [Codable.Extensions.declarations,List.all_cons,List.all_nil,isRenderable,
    switch_isOk,Bool.and_true,Bool.and_eq_true,List.all_eq_true,mem_caseNames_encode]
  constructor
  · exact fun written => ⟨written.1.1,fun name listed =>
      written.1.2.2 name ((decoder name).mpr listed)⟩
  · rintro ⟨read,written⟩
    refine ⟨⟨read,rfl,fun name listed => written name ((decoder name).mp listed)⟩,read,rfl,?_⟩
    exact fun name listed => written name (List.mem_cons_of_mem _ listed)

end

private theorem accessor_ne_nil (built : Accessor) (tokens : List Token)
    (written : accessor built = .ok tokens) : tokens ≠ [] := by
  simp only [accessor,bind_eq_ok_iff,pure,Except.pure,Except.ok.injEq] at written
  obtain ⟨name,_,body,_,rfl⟩ := written
  simp [word]

/-- The output of the rule for raw values: the methods in one implementation for the enum itself,
then both conformances for the type that the name of the enum is read as. -/
theorem enum_codable_written (settings : Settings) (item : Grammar.EnumItem)
    (members : Codable.Members) (extensions : Codable.Extensions) (target : TypeName)
    (rendered : Rendered)
    (written : enum settings item (members.declarations ++ extensions.declarations target) =
      .ok rendered) :
    ∃ serde fallback methods tokens decode encode,
      pathTokens settings.serdePath = .ok serde ∧ caseIdent members.fallback = .ok fallback ∧
      typeTokens target = .ok tokens ∧ switch extensions.decode = .ok decode ∧
      switch extensions.encode = .ok encode ∧
      rendered = ⟨item.withCases [fallback],word "impl" ++ [item.name.token] ++ braces methods ++
        (decoding serde tokens decode ++ encoding serde tokens encode)⟩ := by
  simp only [enum,Codable.Members.declarations,Codable.Extensions.declarations,List.cons_append,
    List.nil_append,List.foldlM_cons,List.foldlM_nil,Additions.add,extension,bind_eq_ok_iff,pure,
    Except.pure,Except.ok.injEq] at written
  obtain ⟨serde,path,_,⟨_,⟨fallback,named,rfl⟩,_,⟨getter,read,rfl⟩,_,⟨maker,_,rfl⟩,
    _,⟨_,⟨tokens,typed,decode,decoded,rfl⟩,rfl⟩,
    _,⟨_,⟨same,again,encode,encoded,rfl⟩,rfl⟩,rfl⟩,rfl⟩ := written
  obtain rfl : tokens = same := Except.ok.inj (typed.symm.trans again)
  have filled : (getter ++ maker).isEmpty = false := by
    simp [accessor_ne_nil _ getter read]
  refine ⟨serde,fallback,getter ++ maker,tokens,decode,encode,path,named,typed,decoded,encoded,?_⟩
  simp only [List.nil_append,filled,Bool.false_eq_true,if_false]

end Rendering

end CaseSynthesis
