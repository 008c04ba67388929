import CaseSynthesis.Proofs.Escapes
import CaseSynthesis.Proofs.Identifiers
import CaseSynthesis.Proofs.Rendering

/-! Written switches read back. The tokens of a switch tell its patterns and branches apart, escapes
and raw identifiers included, so that no two switches are written alike. -/

namespace CaseSynthesis

def NamesCase (name : String) : Prop := ∃ ident : Ident, ident.isLegal = true ∧ ident.name = name

theorem caseIdent_named (name : String) (named : NamesCase name) :
    caseIdent name = .ok ⟨name,keywords.contains name⟩ := by
  obtain ⟨ident,legal,rfl⟩ := named
  obtain ⟨formed,escapable⟩ := ident.isLegal_name legal
  exact caseIdent_formed ident.name formed escapable

/-- A switch that names only possible cases, and no parameter in place of the value itself. -/
structure Switch.Legible (switch : Switch) : Prop where
  named : ∀ name ∈ switch.caseNames, NamesCase name
  apart : switch.subject ≠ .parameter "self"

namespace Written

def casePath? : List Token → Option (String × List Token)
  | .ident ⟨"Self",false⟩ :: .punct ':' true :: .punct ':' false :: .ident case :: rest =>
    some (case.name,rest)
  | _ => none

/-- A string literal, a case, or `raw if raw == Self::Case.raw_value()`. -/
def pattern? (tokens : List Token) : Option (Pattern × List Token) :=
  match tokens with
  | .literal text :: rest => (StringLiteral.value? text).map fun value => (.str value,rest)
  | .ident ⟨"raw",false⟩ :: .ident ⟨"if",false⟩ :: .ident ⟨"raw",false⟩ ::
      .punct '=' true :: .punct '=' false :: path =>
    match casePath? path with
    | some (name,.punct '.' false :: .ident ⟨"raw_value",false⟩ ::
        .opening .parenthesis :: .closing .parenthesis :: rest) => some (.rawValueOf name,rest)
    | _ => none
  | _ => (casePath? tokens).map fun (name,rest) => (.case name,rest)

def branch? (tokens : List Token) : Option (Branch × List Token) :=
  match tokens with
  | .literal text :: rest => (StringLiteral.value? text).map fun value => (.returnStr value,rest)
  | _ => (casePath? tokens).map fun (name,rest) => (.assignCase name,rest)

def arm? (tokens : List Token) : Option (Arm × List Token) :=
  match pattern? tokens with
  | some (pattern,.punct '=' true :: .punct '>' false :: rest) =>
    match branch? rest with
    | some (branch,.punct ',' false :: rest) => some (⟨pattern,branch⟩,rest)
    | _ => none
  | _ => none

def arms? (tokens : List Token) : Option (List Arm × List Token) :=
  match arm? tokens with
  | none => some ([],tokens)
  | some (arm,rest) =>
    if rest.length < tokens.length then
      (arms? rest).map fun (arms,left) => (arm :: arms,left)
    else none
termination_by tokens.length

def subject? : List Token → Option (Subject × List Token)
  | .ident ⟨"self",false⟩ :: rest => some (.selfValue,rest)
  | .ident ⟨"value",false⟩ :: .punct '.' false :: .ident ⟨"as_str",false⟩ ::
      .opening .parenthesis :: .closing .parenthesis :: rest => some (.decodedString,rest)
  | .ident name :: rest => some (.parameter name.text,rest)
  | _ => none

def switch? : List Token → Option Switch
  | .ident ⟨"match",false⟩ :: tokens =>
    match subject? tokens with
    | some (subject,.opening .brace :: inside) =>
      match arms? inside with
      | some (arms,.ident ⟨"_",false⟩ :: .punct '=' true :: .punct '>' false :: rest) =>
        match branch? rest with
        | some (default,[.punct ',' false,.closing .brace]) => some ⟨subject,arms,default⟩
        | _ => none
      | _ => none
    | _ => none
  | _ => none

def casePath (ident : Ident) : List Token :=
  [.ident ⟨"Self",false⟩,.punct ':' true,.punct ':' false,.ident ident]

private theorem casePath_written (name : String) (named : NamesCase name) (path : List Token)
    (written : Rendering.casePath name = .ok path) :
    path = casePath ⟨name,keywords.contains name⟩ := by
  rw [Rendering.casePath,caseIdent_named name named] at written
  exact (Except.ok.inj written).symm

private theorem pattern_read (built : Pattern) (named : ∀ name ∈ built.caseNames, NamesCase name)
    (tokens rest : List Token) (written : Rendering.pattern built = .ok tokens) :
    pattern? (tokens ++ rest) = some (built,rest) := by
  cases built with
  | str value =>
    obtain rfl := Except.ok.inj written
    simp [Rendering.stringLiteral,pattern?,StringLiteral.value?_literalText]
  | case name =>
    rw [casePath_written name (named name (by simp [Pattern.caseNames])) tokens written]
    rfl
  | rawValueOf name =>
    obtain ⟨path,spelled,same⟩ := (bind_eq_ok_iff _ _ _).mp written
    obtain rfl := Except.ok.inj same
    rw [casePath_written name (named name (by simp [Pattern.caseNames])) path spelled]
    rfl

private theorem branch_read (built : Branch) (named : ∀ name ∈ built.caseNames, NamesCase name)
    (tokens rest : List Token) (written : Rendering.branch built = .ok tokens) :
    branch? (tokens ++ rest) = some (built,rest) := by
  cases built with
  | assignCase name =>
    rw [casePath_written name (named name (by simp [Branch.caseNames])) tokens written]
    rfl
  | returnStr value =>
    obtain rfl := Except.ok.inj written
    simp [Rendering.stringLiteral,branch?,StringLiteral.value?_literalText]

private theorem arm_read (built : Arm) (named : ∀ name ∈ built.caseNames, NamesCase name)
    (tokens rest : List Token) (written : Rendering.arm built = .ok tokens) :
    arm? (tokens ++ rest) = some (built,rest) ∧ rest.length < (tokens ++ rest).length := by
  obtain ⟨head,first,opened⟩ := (bind_eq_ok_iff _ _ _).mp written
  obtain ⟨body,second,same⟩ := (bind_eq_ok_iff _ _ _).mp opened
  obtain rfl := Except.ok.inj same
  have pattern := pattern_read built.pattern
    (fun name listed => named name (List.mem_append_left _ listed)) head
    (.punct '=' true :: .punct '>' false :: (body ++ .punct ',' false :: rest)) first
  have branch := branch_read built.branch
    (fun name listed => named name (List.mem_append_right _ listed)) body
    (.punct ',' false :: rest) second
  have spelled : head ++ Rendering.sign "=>" ++ body ++ Rendering.sign "," ++ rest =
      head ++ .punct '=' true :: .punct '>' false :: (body ++ .punct ',' false :: rest) := by
    simp [Rendering.sign,Rendering.sign.go]
  rw [spelled]
  constructor
  · simp only [arm?,pattern,branch]
  · simp only [List.length_append,List.length_cons]
    omega

/-- The arms are read one after another, up to tokens that are no arm. -/
private theorem arms_read (arms : List Arm) (named : ∀ name ∈ arms.flatMap Arm.caseNames, NamesCase name)
    (tokens : List (List Token)) (rest : List Token)
    (written : arms.mapM Rendering.arm = .ok tokens) (stop : arm? rest = none) :
    arms? (tokens.flatten ++ rest) = some (arms,rest) := by
  induction arms generalizing tokens with
  | nil =>
    obtain rfl : tokens = [] := (Except.ok.inj written).symm
    rw [List.flatten_nil,List.nil_append,arms?,stop]
  | cons arm arms ih =>
    rw [List.mapM_cons] at written
    obtain ⟨head,first,opened⟩ := (bind_eq_ok_iff _ _ _).mp written
    obtain ⟨later,others,same⟩ := (bind_eq_ok_iff _ _ _).mp opened
    obtain rfl := Except.ok.inj same
    rw [List.flatMap_cons] at named
    obtain ⟨read,shorter⟩ := arm_read arm
      (fun name listed => named name (List.mem_append_left _ listed)) head (later.flatten ++ rest)
      first
    have following := ih (fun name listed => named name (List.mem_append_right _ listed)) later others
    rw [List.flatten_cons,List.append_assoc,arms?,read]
    simp only [shorter,if_true,following,Option.map_some]

private theorem ofName_name (name : String) (ident : Ident) (made : Ident.ofName name = .ok ident) :
    ident = ⟨name,false⟩ := by
  unfold Ident.ofName at made
  repeat' split at made
  all_goals simp_all

/-- An identifier is spelled as the text that it was made of. -/
private theorem ofText_text (text : String) (ident : Ident) (made : Ident.ofText text = .ok ident) :
    ident.text = text := by
  unfold Ident.ofText at made
  split at made
  · rename_i name spelled
    obtain ⟨plain,named,opened⟩ := (bind_eq_ok_iff _ _ _).mp made
    obtain rfl := ofName_name _ plain named
    split at opened
    · contradiction
    · obtain rfl := Except.ok.inj opened
      rw [← String.toList_inj,spelled]
      simp [Ident.text]
  · obtain rfl := ofName_name text ident made
    rfl

private theorem subject_read (built : Subject) (apart : built ≠ .parameter "self")
    (tokens rest : List Token) (clear : rest.head? ≠ some (.punct '.' false))
    (written : Rendering.subject built = .ok tokens) :
    subject? (tokens ++ rest) = some (built,rest) := by
  cases built with
  | parameter name =>
    obtain ⟨ident,made,same⟩ := (bind_eq_ok_iff _ _ _).mp written
    obtain rfl := Except.ok.inj same
    have spelled : ident.text = name := by
      apply ofText_text
      cases found : Ident.ofText name <;> simp_all [Except.mapError]
    have other : ident ≠ ⟨"self",false⟩ := by
      rintro rfl
      exact apart (congrArg Subject.parameter spelled.symm)
    rw [List.singleton_append]
    unfold subject?
    split <;> simp_all
  | selfValue =>
    obtain rfl := Except.ok.inj written
    rfl
  | decodedString =>
    obtain rfl := Except.ok.inj written
    rfl

structure Spells (switch : Switch) (tokens subject arms default : List Token) : Prop where
  shape : tokens = .ident ⟨"match",false⟩ :: subject ++ .opening .brace :: arms ++
    .ident ⟨"_",false⟩ :: .punct '=' true :: .punct '>' false :: default ++
    [.punct ',' false,.closing .brace]
  subject_eq : subject? subject = some (switch.subject,[])
  arms_eq : arms? arms = some (switch.arms,[])
  default_eq : branch? default = some (switch.default,[])

private theorem switch_parts (switch : Switch) (tokens : List Token)
    (written : Rendering.switch switch = .ok tokens) :
    ∃ subject arms default, Rendering.subject switch.subject = .ok subject ∧
      switch.arms.mapM Rendering.arm = .ok arms ∧ Rendering.branch switch.default = .ok default ∧
      tokens = .ident ⟨"match",false⟩ :: subject ++ .opening .brace :: arms.flatten ++
        .ident ⟨"_",false⟩ :: .punct '=' true :: .punct '>' false :: default ++
        [.punct ',' false,.closing .brace] := by
  simp only [Rendering.switch,bind_eq_ok_iff,pure,Except.pure,Except.ok.injEq] at written
  obtain ⟨subject,first,arms,second,default,third,rfl⟩ := written
  refine ⟨subject,arms,default,first,second,third,?_⟩
  simp [Rendering.word,Rendering.sign,Rendering.sign.go,Rendering.braces,Rendering.group]

section

variable (switch : Switch) (legible : switch.Legible) (tokens : List Token)
  (written : Rendering.switch switch = .ok tokens)

include legible written

private theorem spells_written : ∃ subject arms default, Spells switch tokens subject arms default := by
  obtain ⟨named,apart⟩ := legible
  obtain ⟨subject,arms,default,first,second,third,shape⟩ := switch_parts switch tokens written
  have head := subject_read switch.subject apart subject [] (by simp) first
  have body := arms_read switch.arms (fun name listed => named name (List.mem_append_left _ listed))
    arms [] second rfl
  have last := branch_read switch.default
    (fun name listed => named name (List.mem_append_right _ listed)) default [] third
  rw [List.append_nil] at head body last
  exact ⟨subject,arms.flatten,default,shape,head,body,last⟩

private theorem switch_read : switch? tokens = some switch := by
  obtain ⟨named,apart⟩ := legible
  obtain ⟨subject,arms,default,first,second,third,rfl⟩ := switch_parts switch tokens written
  have last := branch_read switch.default
    (fun name listed => named name (List.mem_append_right _ listed)) default
    [.punct ',' false,.closing .brace] third
  -- The underscore of the default is no pattern, so that the arms end before it.
  have body := arms_read switch.arms (fun name listed => named name (List.mem_append_left _ listed))
    arms (.ident ⟨"_",false⟩ :: .punct '=' true :: .punct '>' false ::
      (default ++ [.punct ',' false,.closing .brace])) second rfl
  have head := subject_read switch.subject apart subject
    (.opening .brace :: (arms.flatten ++ .ident ⟨"_",false⟩ :: .punct '=' true ::
      .punct '>' false :: (default ++ [.punct ',' false,.closing .brace]))) (by simp) first
  simp only [List.cons_append,List.append_assoc] at head ⊢
  simp only [switch?,head,body,last]

end

/-- A switch of possible cases is written exactly if its subject can be. Its tokens are then those of
a match, and reading them gives back the subject, the arms in order and the default. So two such
switches that are written alike are equal. -/
theorem switch_read_back (switch : Switch) (legible : switch.Legible) :
    ((Rendering.switch switch).isOk = true ↔ (Rendering.subject switch.subject).isOk = true) ∧
    (∀ tokens, Rendering.switch switch = .ok tokens →
      (∃ subject arms default, Spells switch tokens subject arms default) ∧
      switch? tokens = some switch) ∧
    (∀ other tokens, other.Legible → Rendering.switch switch = .ok tokens →
      Rendering.switch other = .ok tokens → switch = other) := by
  refine ⟨?_,?_,?_⟩
  · have writable : switch.caseNames.all Rendering.isWritable = true := by
      rw [List.all_eq_true]
      intro name listed
      rw [Rendering.isWritable,caseIdent_named name (legible.named name listed)]
      rfl
    rw [Rendering.switch_isOk,writable,Bool.and_true]
  · intro tokens written
    exact ⟨spells_written switch legible tokens written,switch_read switch legible tokens written⟩
  · intro other tokens legibleOther written writtenOther
    have first := switch_read switch legible tokens written
    have second := switch_read other legibleOther tokens writtenOther
    exact Option.some.inj (first.symm.trans second)

/-- Without the mark of a raw identifier, `self` cannot be told from the value itself. -/
example : Rendering.subject (.parameter "self") = Rendering.subject .selfValue := rfl

def crowded : Switch where
  subject := .parameter "r#type"
  arms := [⟨.str "\"\\\x007",.assignCase "type"⟩,⟨.rawValueOf "raw",.assignCase "raw"⟩,
    ⟨.case "match",.returnStr "e\u0301"⟩]
  default := .assignCase "Unknown"

theorem switch_read_back_crowded :
    crowded.Legible ∧
      ∃ tokens, Rendering.switch crowded = .ok tokens ∧ switch? tokens = some crowded := by
  have legal : ∀ name ∈ crowded.caseNames, Ident.isLegal ⟨name,true⟩ = true := by decide
  have legible : crowded.Legible := ⟨fun name listed => ⟨_,legal name listed,rfl⟩,by decide⟩
  obtain ⟨writable,read,_⟩ := switch_read_back crowded legible
  obtain ⟨tokens,written⟩ := (isOk_iff _).mp (writable.mpr rfl)
  exact ⟨legible,tokens,written,(read tokens written).2⟩

end Written

end CaseSynthesis
