import CaseSynthesis.Proofs.Dispatch

/-! Raw values as a table that is bound late. A pattern that asks for a raw value stands for the string
that the accessor returns, so that the string can be put in its place beforehand. Only where a lookup
fails does it matter when it is made: once all arms before it have been passed over, and not at all
if one of them ends the run. -/

namespace CaseSynthesis

namespace Pattern

def resolve (rawValue : String → Except SwitchError String) : Pattern → Pattern
  | rawValueOf name =>
    match rawValue name with
    | .ok value => .str value
    | .error _ => .rawValueOf name
  | pattern => pattern

private theorem test_resolve (rawValue other : String → Except SwitchError String) (pattern : Pattern)
    (text : String)
    (found : ∀ name, pattern = .rawValueOf name → ∃ value, rawValue name = .ok value) :
    (pattern.resolve rawValue).test other (.str text) = pattern.test rawValue (.str text) := by
  cases pattern with
  | str expected => rfl
  | case expected => rfl
  | rawValueOf name =>
    obtain ⟨value,known⟩ := found name rfl
    rw [test_rawValueOf rawValue name value text known,resolve,known]
    exact test_str other value text

/-- Against a case, no pattern looks a raw value up. -/
private theorem test_case_value (rawValue other : String → Except SwitchError String) (pattern : Pattern)
    (name : String) : pattern.test rawValue (.case name) = pattern.test other (.case name) := by
  cases pattern <;> rfl

end Pattern

def Branch.returned : Branch → Except SwitchError String
  | returnStr value => .ok value
  | assignCase assigned => .error (.notAString assigned)

private theorem test_rawValueOf_error (rawValue : String → Except SwitchError String) (name : String)
    (error : SwitchError) (actual : String) (failed : rawValue name = .error error) :
    (Pattern.rawValueOf name).test rawValue (.str actual) = .error error := by
  simp only [Pattern.test,failed]
  rfl

/-- A run that tells the place of the arm that an error stems from. -/
def traceBranch (test : Pattern → Except SwitchError Bool) (default : Branch) (place : Nat) :
    List Arm → Except (Nat × SwitchError) Branch
  | [] => .ok default
  | arm :: rest => do
    if ← (test arm.pattern).mapError (place, ·) then return arm.branch
    traceBranch test default (place + 1) rest

section

variable (test : Pattern → Except SwitchError Bool) (default : Branch)

private theorem selectBranch_change (other : Pattern → Except SwitchError Bool)
    (change : Pattern → Pattern) (arms : List Arm)
    (same : ∀ arm ∈ arms, other (change arm.pattern) = test arm.pattern) :
    selectBranch other default (arms.map fun arm => { arm with pattern := change arm.pattern }) =
      selectBranch test default arms := by
  induction arms with
  | nil => rfl
  | cons arm arms ih =>
    rw [List.map_cons,selectBranch,selectBranch,same arm (by simp),
      ih fun later member => same later (List.mem_cons_of_mem _ member)]

private theorem selectBranch_error (arms : List Arm) (error : SwitchError)
    (failed : selectBranch test default arms = .error error) :
    ∃ arm ∈ arms, test arm.pattern = .error error := by
  induction arms with
  | nil => cases failed
  | cons arm arms ih =>
    cases tested : test arm.pattern with
    | error other =>
      rw [selectBranch,tested] at failed
      exact ⟨arm,by simp,tested.trans (congrArg Except.error (Except.error.inj failed))⟩
    | ok matched =>
      cases matched with
      | true =>
        rw [selectBranch_hit _ _ _ _ tested] at failed
        cases failed
      | false =>
        rw [selectBranch_miss _ _ _ _ tested] at failed
        obtain ⟨later,member,fails⟩ := ih failed
        exact ⟨later,List.mem_cons_of_mem _ member,fails⟩

/-- Once an arm matches or fails, it does not matter which arms come after it. -/
private theorem selectBranch_decided (before after other : List Arm)
    (decided : ∃ arm ∈ before, test arm.pattern ≠ .ok false) :
    selectBranch test default (before ++ after) = selectBranch test default (before ++ other) := by
  induction before with
  | nil => simp at decided
  | cons first before ih =>
    rw [List.cons_append,List.cons_append,selectBranch,selectBranch]
    cases tested : test first.pattern with
    | error error => rfl
    | ok matched =>
      cases matched with
      | true => rfl
      | false =>
        have later : ∃ arm ∈ before, test arm.pattern ≠ .ok false := by
          simpa [tested] using decided
        rw [ih later]

private theorem traceBranch_forget (place : Nat) (arms : List Arm) :
    (traceBranch test default place arms).mapError Prod.snd = selectBranch test default arms := by
  induction arms generalizing place with
  | nil => rfl
  | cons arm arms ih =>
    rw [traceBranch,selectBranch,← ih (place + 1)]
    cases test arm.pattern with
    | error error => rfl
    | ok matched => cases matched <;> rfl

/-- Each arm before has its own place, so that no error of theirs is taken for that of the arm. -/
private theorem traceBranch_eq_error_iff (before after : List Arm) (arm : Arm) (error : SwitchError)
    (failed : test arm.pattern = .error error) (place : Nat) :
    traceBranch test default place (before ++ arm :: after) =
        .error (place + before.length,error) ↔
      ∀ earlier ∈ before, test earlier.pattern = .ok false := by
  induction before generalizing place with
  | nil =>
    rw [List.nil_append,traceBranch,failed]
    simp [Except.mapError,bind,Except.bind]
  | cons first before ih =>
    rw [List.cons_append,traceBranch,List.forall_mem_cons,List.length_cons,
      show place + (before.length + 1) = place + 1 + before.length by omega,← ih (place + 1)]
    cases test first.pattern with
    | error other =>
      simp only [Except.mapError,bind,Except.bind,Except.error.injEq,Prod.mk.injEq,reduceCtorEq,
        false_and,iff_false]
      omega
    | ok matched =>
      cases matched <;> simp [Except.mapError,bind,Except.bind,pure,Except.pure]

end

namespace Switch

def resolve (switch accessor : Switch) : Switch :=
  { switch with
    arms := switch.arms.map fun arm =>
      { arm with pattern := arm.pattern.resolve (rawValue (some accessor)) } }

def trace (accessor : Option Switch) (switch : Switch) (value : Value) :
    Except (Nat × SwitchError) Branch :=
  traceBranch (fun pattern => pattern.test (rawValue accessor) value) switch.default 0 switch.arms

private theorem runWith_case_value (rawValue other : String → Except SwitchError String) (switch : Switch)
    (name : String) : switch.runWith rawValue (.case name) = switch.runWith other (.case name) := by
  unfold runWith
  congr 1
  funext pattern
  exact pattern.test_case_value rawValue other name

private theorem rawValue_some (accessor : Switch) (name : String) :
    rawValue (some accessor) name = accessor.run none (.case name) >>= Branch.returned := by
  have nested : accessor.runWith (fun name => .error (.missingAccessor name)) (.case name) =
      accessor.run none (.case name) := runWith_case_value _ _ accessor name
  rw [← nested]
  rfl

/-- The raw value of a case can be missing in two ways, and neither is that there is no accessor. -/
private theorem rawValue_ne_missingAccessor (accessor : Switch) (name other : String) :
    rawValue (some accessor) name ≠ .error (.missingAccessor other) := by
  intro missing
  rw [rawValue_some] at missing
  cases ran : accessor.run none (.case name) with
  | error error =>
    rw [ran] at missing
    obtain ⟨arm,_,failed⟩ := selectBranch_error _ _ _ _ ran
    rw [show error = .missingAccessor other from Except.error.inj missing] at failed
    cases found : arm.pattern <;> rw [found] at failed <;> cases failed
  | ok branch =>
    rw [ran] at missing
    cases branch <;> cases missing

private theorem run_ne_missingAccessor (accessor switch : Switch) (text name : String) :
    switch.run (some accessor) (.str text) ≠ .error (.missingAccessor name) := by
  intro missing
  obtain ⟨arm,_,failed⟩ := selectBranch_error _ _ _ _ missing
  cases found : arm.pattern with
  | str expected =>
    rw [found] at failed
    cases failed
  | case expected =>
    rw [found] at failed
    cases failed
  | rawValueOf asked =>
    rw [found] at failed
    cases known : rawValue (some accessor) asked with
    | ok value =>
      rw [test_rawValueOf _ _ _ _ known] at failed
      cases failed
    | error error =>
      rw [test_rawValueOf_error _ _ _ _ known] at failed
      rw [Except.error.inj failed] at known
      exact rawValue_ne_missingAccessor accessor asked name known

/-- On a string, a switch runs as if the raw values of its patterns were strings in it from the start,
provided that the accessor has all of them. Where it has not, a lookup that fails ends the run exactly
if each arm before it can be compared and does not match. Once an arm matches or fails, the arms after
it do not matter, and a first match is taken. The accessor itself never looks a raw value up. -/
theorem rawValues_bound_late (accessor switch : Switch) (text : String) :
    ((∀ arm ∈ switch.arms, ∀ name, arm.pattern = .rawValueOf name →
        ∃ value, rawValue (some accessor) name = .ok value) →
      switch.run (some accessor) (.str text) = (switch.resolve accessor).run none (.str text)) ∧
    (switch.trace (some accessor) (.str text)).mapError Prod.snd =
      switch.run (some accessor) (.str text) ∧
    (∀ before name branch after error,
      switch.arms = before ++ ⟨.rawValueOf name,branch⟩ :: after →
      rawValue (some accessor) name = .error error →
      (switch.trace (some accessor) (.str text) = .error (before.length,error) ↔
        ∀ arm ∈ before, arm.pattern.test (rawValue (some accessor)) (.str text) = .ok false)) ∧
    (∀ before after other, switch.arms = before ++ after →
      (∃ arm ∈ before, arm.pattern.test (rawValue (some accessor)) (.str text) ≠ .ok false) →
      switch.run (some accessor) (.str text) =
        { switch with arms := before ++ other }.run (some accessor) (.str text)) ∧
    (∀ before arm after, switch.arms = before ++ arm :: after →
      (∀ arm ∈ before, arm.pattern.test (rawValue (some accessor)) (.str text) = .ok false) →
      arm.pattern.test (rawValue (some accessor)) (.str text) = .ok true →
      switch.run (some accessor) (.str text) = .ok arm.branch) ∧
    (∀ lookup name, accessor.runWith lookup (.case name) = accessor.run none (.case name)) ∧
    (∀ name, rawValue (some accessor) name =
      accessor.run none (.case name) >>= Branch.returned) ∧
    ∀ name, switch.run (some accessor) (.str text) ≠ .error (.missingAccessor name) := by
  refine ⟨?_,traceBranch_forget _ _ _ _,?_,?_,?_,?_,rawValue_some accessor,
    run_ne_missingAccessor accessor switch text⟩
  · intro found
    apply Eq.symm
    unfold run runWith resolve
    apply selectBranch_change
    intro arm member
    exact arm.pattern.test_resolve _ _ text (found arm member)
  · intro before name branch after error arms failed
    have fails := test_rawValueOf_error (rawValue (some accessor)) name error text failed
    have surfaced := traceBranch_eq_error_iff
      (fun pattern => pattern.test (rawValue (some accessor)) (.str text)) switch.default before
      after ⟨.rawValueOf name,branch⟩ error fails 0
    rw [Nat.zero_add,← arms] at surfaced
    exact surfaced
  · intro before after other arms decided
    unfold run runWith
    rw [arms]
    exact selectBranch_decided _ _ before after other decided
  · intro before arm after arms missed matched
    unfold run runWith
    rw [arms,selectBranch_skip _ _ _ _ missed,selectBranch_hit _ _ _ _ matched]
  · intro lookup name
    exact runWith_case_value lookup _ accessor name

def lopsided : Switch where
  subject := .selfValue
  arms := [⟨.case "A",.returnStr "a"⟩,⟨.case "B",.assignCase "A"⟩,⟨.str "c",.returnStr "c"⟩]
  default := .returnStr "Unknown"

def lookups (names : List String) : Switch where
  subject := .parameter "value"
  arms := ⟨.str "x",.assignCase "X"⟩ ::
    names.map fun name => ⟨.rawValueOf name,.assignCase name⟩
  default := .assignCase "Unknown"

theorem rawValues_bound_late_lopsided :
    (lookups ["A"]).run (some lopsided) (.str "z") =
      ((lookups ["A"]).resolve lopsided).run none (.str "z") ∧
    (lookups ["A","B"]).run (some lopsided) (.str "a") = .ok (.assignCase "A") ∧
    (lookups ["A","B","C"]).trace (some lopsided) (.str "z") = .error (2,.notAString "A") ∧
    (lookups ["A","B","C"]).trace (some lopsided) (.str "z") ≠
      .error (3,.mismatch (.str "c") (.case "C")) := by
  obtain ⟨resolved,_⟩ := rawValues_bound_late lopsided (lookups ["A"]) "z"
  obtain ⟨_,_,_,_,taken,_⟩ := rawValues_bound_late lopsided (lookups ["A","B"]) "a"
  obtain ⟨_,_,surfaces,_⟩ := rawValues_bound_late lopsided (lookups ["A","B","C"]) "z"
  have first : ∀ arm ∈ (lookups ["A"]).arms, ∀ name, arm.pattern = .rawValueOf name →
      ∃ value, rawValue (some lopsided) name = .ok value := by
    intro arm member name asks
    simp only [lookups,List.map_cons,List.map_nil,List.mem_cons,List.not_mem_nil,or_false] at member
    rcases member with rfl | rfl <;> cases asks
    exact ⟨"a",rfl⟩
  refine ⟨resolved first,taken [⟨.str "x",_⟩] ⟨.rawValueOf "A",_⟩ _ rfl (by decide) rfl,?_,?_⟩
  · exact (surfaces [⟨.str "x",_⟩,⟨.rawValueOf "A",_⟩] "B" _ _ _ rfl rfl).mpr (by decide)
  · have masked := surfaces [⟨.str "x",_⟩,⟨.rawValueOf "A",_⟩,⟨.rawValueOf "B",_⟩] "C" _ _ _ rfl rfl
    exact fun surfaced => absurd (masked.mp surfaced) (by decide)

end Switch

end CaseSynthesis
