import CaseSynthesis.Proofs.Sites

/-! Where the checks on an enum stop. They go through its cases in order, and each error that names a
case was made at one of them: all that stand before it have passed the check. -/

namespace CaseSynthesis

theorem bind_eq_error_iff {ε α β : Type} (first : Except ε α) (next : α → Except ε β) (error : ε) :
    (first >>= next) = .error error ↔
      first = .error error ∨ ∃ value, first = .ok value ∧ next value = .error error := by
  cases first <;> simp [bind,Except.bind]

theorem structural_eq_error_iff {α : Type} (rule : Rule) (result : Except Mismatch α)
    (error : SynthesisError) :
    structural rule result = .error error ↔
      ∃ cause, result = .error cause ∧ error = .structural rule cause := by
  cases result <;> simp [structural,Except.mapError,eq_comm]

/-- The check on cases stops at the first element that has a payload or the name of an earlier one. A
payload counts before a name. -/
theorem casesAfter_eq_error (seen : List String) (elements : List CaseElement) (cause : Mismatch)
    (failed : casesAfter seen elements = .error cause) :
    ∃ before stopped after, elements = before ++ stopped :: after ∧
      (∀ element ∈ before, element.hasPayload = false) ∧
      DistinctAfter seen (before.map CaseElement.name) ∧
      (stopped.hasPayload = true ∧ cause = .casePayload stopped.name ∨
        stopped.hasPayload = false ∧
          (stopped.name ∈ seen ∨ stopped.name ∈ before.map CaseElement.name) ∧
          cause = .duplicateCase stopped.name) := by
  induction elements generalizing seen with
  | nil => simp [casesAfter] at failed
  | cons element rest ih =>
    rw [casesAfter] at failed
    by_cases payload : element.hasPayload = true
    · rw [if_pos payload] at failed
      obtain rfl := Except.error.inj failed
      exact ⟨[],element,rest,rfl,by simp,distinctAfter_nil seen,.inl ⟨payload,rfl⟩⟩
    · have unit : element.hasPayload = false := by simpa using payload
      rw [if_neg payload] at failed
      by_cases repeated : element.name ∈ seen
      · rw [if_pos repeated] at failed
        obtain rfl := Except.error.inj failed
        exact ⟨[],element,rest,rfl,by simp,distinctAfter_nil seen,.inr ⟨unit,.inl repeated,rfl⟩⟩
      · rw [if_neg repeated] at failed
        have later : casesAfter (element.name :: seen) rest = .error cause := by
          rcases (bind_eq_error_iff _ _ _).mp failed with failed | ⟨_,_,done⟩
          · exact failed
          · contradiction
        obtain ⟨before,stopped,after,rfl,units,distinct,why⟩ := ih (element.name :: seen) later
        refine ⟨element :: before,stopped,after,rfl,?_,?_,?_⟩
        · simpa [unit] using units
        · exact (distinctAfter_cons _ _ _).mpr ⟨repeated,distinct⟩
        · simpa [or_assoc,or_left_comm] using why

theorem checkFallback_eq_error (fallback : String) (elements : List CaseElement)
    (error : SynthesisError)
    (failed : checkFallback fallback (elements.map CaseElement.case) = .error error) :
    ∃ before stopped after, elements = before ++ stopped :: after ∧
      fallback ∉ before.map CaseElement.name ∧ stopped.name = fallback ∧
      error = .fallbackCollision stopped.name := by
  unfold checkFallback at failed
  cases found : (elements.map CaseElement.case).find? fun case => case.name = fallback with
  | none => simp [found] at failed
  | some case =>
    rw [found] at failed
    obtain ⟨same,front,back,split,apart⟩ := List.find?_eq_some_iff_append.mp found
    obtain ⟨before,tail,rfl,rfl,rest⟩ := List.map_eq_append_iff.mp split
    obtain ⟨stopped,after,rfl,rfl,rfl⟩ := List.map_eq_cons_iff.mp rest
    have named : stopped.case.name = fallback := by simpa using same
    refine ⟨before,stopped,after,rfl,?_,named,(Except.error.inj failed).symm⟩
    rw [← names_case]
    intro taken
    obtain ⟨earlier,member,again⟩ := List.mem_map.mp taken
    simpa [again] using apart earlier member

structure Valued (elements : List CaseElement) : Prop where
  spelled : ∀ element ∈ elements, ∀ spelling, element.rawValue ≠ some (.number spelling)
  distinct : (elements.map CaseElement.rawText).Nodup

namespace Codable

private theorem rawValue_eq_error (element : CaseElement) (error : SynthesisError)
    (failed : rawValue element.case = .error error) :
    ∃ spelling, element.rawValue = some (.number spelling) ∧
      error = .invalidRawValue element.name (.number spelling) := by
  unfold rawValue CaseElement.case at failed
  cases value : element.rawValue with
  | none => simp [value] at failed
  | some literal =>
    cases literal with
    | str text => simp [value] at failed
    | number spelling => exact ⟨spelling,rfl,by simpa [value,eq_comm] using failed⟩

theorem mem_of_lookup (seen : List (String × String)) (value first : String)
    (found : seen.lookup value = some first) : (value,first) ∈ seen := by
  obtain ⟨before,after,rfl,_⟩ := List.lookup_eq_some_iff.mp found
  simp

/-- The check on raw values stops at the first number, or the first raw value that an earlier case
has. -/
theorem rawValuesAfter_eq_error (seen : List (String × String)) (elements : List CaseElement)
    (error : SynthesisError)
    (failed : rawValuesAfter seen (elements.map CaseElement.case) = .error error) :
    ∃ before stopped after, elements = before ++ stopped :: after ∧
      (∀ element ∈ before, ∀ spelling, element.rawValue ≠ some (.number spelling)) ∧
      DistinctAfter (seen.map Prod.fst) (before.map CaseElement.rawText) ∧
      ((∃ spelling, stopped.rawValue = some (.number spelling) ∧
          error = .invalidRawValue stopped.name (.number spelling)) ∨
        (∀ spelling, stopped.rawValue ≠ some (.number spelling)) ∧
          ∃ first, ((stopped.rawText,first) ∈ seen ∨
              ∃ earlier ∈ before, earlier.rawText = stopped.rawText ∧ earlier.name = first) ∧
            error = .duplicateRawValue stopped.name first stopped.rawText) := by
  induction elements generalizing seen with
  | nil => simp [rawValuesAfter] at failed
  | cons element rest ih =>
    rw [List.map_cons,rawValuesAfter,bind_eq_error_iff] at failed
    rcases failed with number | ⟨value,valued,failed⟩
    · obtain ⟨spelling,given,rfl⟩ := rawValue_eq_error element error number
      exact ⟨[],element,_,rfl,by simp,distinctAfter_nil _,.inl ⟨spelling,given,rfl⟩⟩
    · obtain ⟨spelled,rfl⟩ := (rawValue_eq_ok_iff element value).mp valued
      cases found : seen.lookup element.rawText with
      | some first =>
        simp only [found] at failed
        obtain rfl := Except.error.inj failed
        have listed : (element.rawText,first) ∈ seen := mem_of_lookup seen _ first found
        exact ⟨[],element,_,rfl,by simp,distinctAfter_nil _,
          .inr ⟨spelled,first,.inl listed,rfl⟩⟩
      | none =>
        simp only [found] at failed
        have later : rawValuesAfter ((element.rawText,element.name) :: seen)
            (rest.map CaseElement.case) = .error error := by
          rcases (bind_eq_error_iff _ _ _).mp failed with failed | ⟨_,_,done⟩
          · exact failed
          · contradiction
        obtain ⟨before,stopped,after,rfl,numbers,distinct,why⟩ := ih _ later
        refine ⟨element :: before,stopped,after,rfl,?_,?_,?_⟩
        · exact List.forall_mem_cons.mpr ⟨spelled,numbers⟩
        · exact (distinctAfter_cons _ _ _).mpr ⟨(lookup_none_iff _ _).mp found,distinct⟩
        · rcases why with number | ⟨stoppedSpelled,first,origin,rfl⟩
          · exact .inl number
          · refine .inr ⟨stoppedSpelled,first,?_,rfl⟩
            rcases origin with listed | ⟨earlier,member,same⟩
            · rcases List.mem_cons.mp listed with own | before
              · obtain ⟨text,rfl⟩ := Prod.mk.inj own
                exact .inr ⟨element,by simp,text.symm,rfl⟩
              · exact .inl before
            · exact .inr ⟨earlier,List.mem_cons_of_mem _ member,same⟩

end Codable

/-- A check stops at an element, among those before and after it, and gives the error. Later checks
are made only after all elements have passed the earlier ones. -/
inductive StopsAt (fallback : String) (rule : Rule) (before : List CaseElement)
    (stopped : CaseElement) (after : List CaseElement) : SynthesisError → Prop
  | payload (units : ∀ element ∈ before, element.hasPayload = false)
      (distinct : (before.map CaseElement.name).Nodup) (carries : stopped.hasPayload = true) :
      StopsAt fallback rule before stopped after (.structural rule (.casePayload stopped.name))
  | duplicate (units : ∀ element ∈ before, element.hasPayload = false)
      (distinct : (before.map CaseElement.name).Nodup) (unit : stopped.hasPayload = false)
      (repeats : stopped.name ∈ before.map CaseElement.name) :
      StopsAt fallback rule before stopped after (.structural rule (.duplicateCase stopped.name))
  | collision (names : ((before ++ stopped :: after).map CaseElement.name).Nodup)
      (free : fallback ∉ before.map CaseElement.name) (taken : stopped.name = fallback) :
      StopsAt fallback rule before stopped after (.fallbackCollision stopped.name)
  | number (names : ((before ++ stopped :: after).map CaseElement.name).Nodup)
      (valued : Valued before) (spelling : String)
      (given : stopped.rawValue = some (.number spelling)) :
      StopsAt fallback rule before stopped after
        (.invalidRawValue stopped.name (.number spelling))
  | shared (names : ((before ++ stopped :: after).map CaseElement.name).Nodup)
      (valued : Valued before) (spelled : ∀ spelling, stopped.rawValue ≠ some (.number spelling))
      (earlier : CaseElement) (member : earlier ∈ before)
      (same : earlier.rawText = stopped.rawText) :
      StopsAt fallback rule before stopped after
        (.duplicateRawValue stopped.name earlier.name stopped.rawText)

namespace StopsAt

variable {fallback : String} {rule : Rule} {before after : List CaseElement}
  {stopped : CaseElement} {error : SynthesisError}

theorem case?_eq (stops : StopsAt fallback rule before stopped after error) :
    error.case? = some stopped.name := by
  cases stops <;> rfl

/-- Once the cases have passed, no other one has the name of the one that the check stops at. -/
theorem name_not_after (stops : StopsAt fallback rule before stopped after error)
    (later : ∀ cause, error ≠ .structural rule cause) :
    stopped.name ∉ after.map CaseElement.name := by
  have unique (names : ((before ++ stopped :: after).map CaseElement.name).Nodup) :
      stopped.name ∉ after.map CaseElement.name := by
    rw [List.map_append,List.map_cons] at names
    exact (List.nodup_cons.mp names.of_append_right).1
  cases stops with
  | payload => exact absurd rfl (later _)
  | duplicate => exact absurd rfl (later _)
  | collision names => exact unique names
  | number names => exact unique names
  | shared names => exact unique names

end StopsAt

private theorem decl_cases_stops (fallback : String) (rule : Rule) (decl : Decl) (error : SynthesisError)
    (failed : structural rule decl.cases = .error error) :
    ∃ before stopped after, decl.elements = before ++ stopped :: after ∧
      StopsAt fallback rule before stopped after error := by
  obtain ⟨cause,mismatch,rfl⟩ := (structural_eq_error_iff _ _ _).mp failed
  obtain ⟨before,stopped,after,split,units,distinct,why⟩ := casesAfter_eq_error [] _ cause mismatch
  rw [distinctAfter_start] at distinct
  refine ⟨before,stopped,after,split,?_⟩
  rcases why with ⟨carries,rfl⟩ | ⟨unit,repeats,rfl⟩
  · exact .payload units distinct carries
  · exact .duplicate units distinct unit (by simpa using repeats)

private theorem checkFallback_stops (fallback : String) (rule : Rule) (decl : Decl)
    (names : (decl.elements.map CaseElement.name).Nodup) (error : SynthesisError)
    (failed : checkFallback fallback (decl.elements.map CaseElement.case) = .error error) :
    ∃ before stopped after, decl.elements = before ++ stopped :: after ∧
      StopsAt fallback rule before stopped after error := by
  obtain ⟨before,stopped,after,split,free,taken,rfl⟩ := checkFallback_eq_error _ _ error failed
  exact ⟨before,stopped,after,split,.collision (split ▸ names) free taken⟩

private theorem Codable.rawValues_stops (fallback : String) (rule : Rule) (decl : Decl)
    (names : (decl.elements.map CaseElement.name).Nodup) (error : SynthesisError)
    (failed : rawValues (decl.elements.map CaseElement.case) = .error error) :
    ∃ before stopped after, decl.elements = before ++ stopped :: after ∧
      StopsAt fallback rule before stopped after error := by
  obtain ⟨before,stopped,after,split,numbers,distinct,why⟩ := rawValuesAfter_eq_error [] _ _ failed
  rw [List.map_nil,distinctAfter_start] at distinct
  have valued : Valued before := ⟨numbers,distinct⟩
  refine ⟨before,stopped,after,split,?_⟩
  rcases why with ⟨spelling,given,rfl⟩ | ⟨spelled,first,origin,rfl⟩
  · exact .number (split ▸ names) valued spelling given
  · rcases origin with none | ⟨earlier,member,same,rfl⟩
    · simp at none
    · exact .shared (split ▸ names) valued spelled earlier member same

/-- A node that is no enum is refused as a whole. -/
private theorem case?_of_enum_error (rule : Rule) (node : Node) (cause : Mismatch)
    (failed : node.enum = .error cause) : (SynthesisError.structural rule cause).case? = none := by
  cases node with
  | decl declared =>
    by_cases kind : declared.kind = .enum
    · simp [Node.enum,kind] at failed
    · simp only [Node.enum,kind,if_false,Except.error.injEq] at failed
      rw [← failed]
      rfl
  | expr expr => exact Except.error.inj failed ▸ rfl
  | invocation invocation => exact Except.error.inj failed ▸ rfl

private theorem case?_of_rawType_error (decl : Decl) (error : SynthesisError)
    (failed : Codable.rawType decl = .error error) : error.case? = none := by
  unfold Codable.rawType at failed
  cases types : decl.inherited with
  | nil =>
    rw [types] at failed
    exact Except.error.inj failed ▸ rfl
  | cons type rest =>
    by_cases string : Codable.isStringType type = true
    · simp [types,string] at failed
    · simp only [types,string,if_false,Except.error.injEq,Bool.false_eq_true] at failed
      rw [← failed]
      rfl

private theorem Nullable.members_stops (settings : Settings) (node : Node) (error : SynthesisError)
    (failed : Nullable.members settings node = .error error) (about : error.case? ≠ none) :
    ∃ before stopped after, node.elements = before ++ stopped :: after ∧
      StopsAt settings.fallbackCase .nullableEnum before stopped after error := by
  rw [Nullable.members,bind_eq_error_iff] at failed
  rcases failed with unread | ⟨cases,read,failed⟩
  · obtain ⟨cause,mismatch,rfl⟩ := (structural_eq_error_iff _ _ _).mp unread
    rcases (bind_eq_error_iff _ _ _).mp mismatch with other | ⟨decl,enum,refused⟩
    · exact absurd (case?_of_enum_error _ _ _ other) about
    · obtain ⟨rfl,_⟩ := (enum_eq_ok_iff _ _).mp enum
      exact decl_cases_stops _ _ decl _ ((structural_eq_error_iff _ _ _).mpr ⟨cause,refused,rfl⟩)
  · rw [structural_eq_ok_iff,node_cases_eq_ok_iff] at read
    obtain ⟨enumerates,rfl⟩ := read
    obtain ⟨decl,rfl,_⟩ := enumerates.enum
    rcases (bind_eq_error_iff _ _ _).mp failed with collides | ⟨_,_,done⟩
    · exact checkFallback_stops _ _ decl enumerates.distinct _ collides
    · contradiction

private theorem Codable.members_stops (settings : Settings) (node : Node) (error : SynthesisError)
    (failed : Codable.members settings node = .error error) (about : error.case? ≠ none) :
    ∃ before stopped after, node.elements = before ++ stopped :: after ∧
      StopsAt settings.fallbackCase .codableEnum before stopped after error := by
  rw [Codable.members,bind_eq_error_iff] at failed
  rcases failed with other | ⟨decl,enum,failed⟩
  · obtain ⟨cause,mismatch,rfl⟩ := (structural_eq_error_iff _ _ _).mp other
    exact absurd (case?_of_enum_error _ _ _ mismatch) about
  rw [structural_eq_ok_iff,enum_eq_ok_iff] at enum
  obtain ⟨rfl,_⟩ := enum
  rcases (bind_eq_error_iff _ _ _).mp failed with refused | ⟨cases,read,failed⟩
  · exact decl_cases_stops _ _ decl _ refused
  rw [structural_eq_ok_iff,decl_cases_eq_ok_iff] at read
  obtain ⟨_,distinct,rfl⟩ := read
  rcases (bind_eq_error_iff _ _ _).mp failed with untyped | ⟨_,_,failed⟩
  · exact absurd (case?_of_rawType_error decl error untyped) about
  rcases (bind_eq_error_iff _ _ _).mp failed with collides | ⟨_,_,failed⟩
  · exact checkFallback_stops _ _ decl distinct _ collides
  rcases (bind_eq_error_iff _ _ _).mp failed with unvalued | ⟨_,_,done⟩
  · exact rawValues_stops _ _ decl distinct _ unvalued
  · contradiction

/-- An error that names a case was made at an element of that name, and all elements before it had
passed. -/
theorem synthesizeAll_stops (settings : Settings) (rule : Rule) (node : Node)
    (error : SynthesisError) (failed : rule.synthesizeAll settings node = .error error)
    (about : error.case? ≠ none) :
    ∃ before stopped after, node.elements = before ++ stopped :: after ∧
      StopsAt settings.fallbackCase rule before stopped after error := by
  cases rule with
  | stringify => exact absurd (Except.error.inj failed ▸ rfl) about
  | nullableEnum =>
    apply Nullable.members_stops settings node error _ about
    simp only [Rule.synthesizeAll,Rule.itemSites,List.mapM_cons,List.mapM_nil,synthesize] at failed
    cases built : Nullable.members settings node with
    | error cause =>
      rw [built] at failed
      exact congrArg Except.error (Except.error.inj failed)
    | ok members =>
      rw [built] at failed
      contradiction
  | codableEnum =>
    apply Codable.members_stops settings node error _ about
    rw [synthesizeAll_codable] at failed
    simp only [synthesize] at failed
    cases built : Codable.members settings node with
    | error cause =>
      rw [built] at failed
      exact congrArg Except.error (Except.error.inj failed)
    | ok members =>
      rw [built] at failed
      contradiction

end CaseSynthesis
