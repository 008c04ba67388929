import CaseSynthesis.Form.Request
import CaseSynthesis.Proofs.FieldOrder

/-! The JSON forms of nodes, of requests and what they yield, and of settings. Whatever is written can
be read back. -/

namespace CaseSynthesis

open Json

private theorem ExprText.readsBack : ReadsBack toJson ofJson? := by
  intro expr json same
  obtain ⟨fields,record,source⟩ := same.text
  simp [ofJson?,record,source]

private theorem TypeName.readsBack : ReadsBack toJson ofJson? := by
  intro type json same
  obtain ⟨fields,record,name⟩ := same.text
  simp [ofJson?,record,name]

private theorem Literal.readsBack (inTagged : Bool) : ReadsBack toJson (ofJson? inTagged) := by
  intro literal json same
  cases literal with
  | str text | number text =>
    obtain ⟨_,found,⟨⟩⟩ := same.adjacent (by decide) inTagged
    rw [ofJson?,found]
    rfl

private theorem DeclKind.readsBack (inTagged : Bool) : ReadsBack toJson (ofJson? inTagged) := by
  intro kind json same
  cases kind with
  | other name =>
    obtain ⟨_,found,⟨⟩⟩ := same.alternative
    rw [ofJson?,found]
    rfl
  | enum | struct | union | trait | function =>
    cases same
    rfl

private theorem CaseElement.rawValue_readsBack :
    ReadsBack (fun rawValue => (rawValue.map Literal.toJson).getD .null) rawValueOfJson? := by
  intro rawValue json same
  cases rawValue with
  | none =>
    cases same
    rfl
  | some literal =>
    -- A literal is never written as null, since null is not read as one.
    have read := Literal.readsBack true literal json same
    cases json with
    | null => contradiction
    | _ => simp [rawValueOfJson?,read]

private theorem CaseElement.readsBack : ReadsBack toJson ofJson? := by
  intro element json same
  obtain ⟨fields,rfl,kept⟩ := same.keeps (by simp)
  have name := str_readsBack.required kept "name" element.name (by simp)
  have rawValue := rawValue_readsBack.optional kept none "raw_value" element.rawValue (by simp)
  have hasPayload := bool_readsBack.optional kept false "has_payload" element.hasPayload (by simp)
  simp [ofJson?,record?,name,rawValue,hasPayload]

private theorem Member.readsBack : ReadsBack toJson ofJson? := by
  intro member json same
  cases member with
  | cases elements =>
    obtain ⟨_,found,same⟩ := same.tagged (by simp)
    obtain ⟨fields,rfl,kept⟩ := same.keeps (by simp)
    have elements := CaseElement.readsBack.list.required kept "elements" elements (by simp)
    simp [ofJson?,found,record?,elements]
  | other source =>
    obtain ⟨_,found,same⟩ := same.tagged (by simp)
    obtain ⟨fields,record,source⟩ := same.text
    simp [ofJson?,found,record,source]

private theorem Decl.readsBack (inTagged : Bool) : ReadsBack toJson (ofJson? inTagged) := by
  intro decl json same
  obtain ⟨fields,rfl,kept⟩ := same.keeps (by simp [fieldsJson])
  have kind := (DeclKind.readsBack inTagged).required kept "kind" decl.kind (by simp [fieldsJson])
  have name := str_readsBack.required kept "name" decl.name (by simp [fieldsJson])
  have inherited := TypeName.readsBack.list.optional kept [] "inherited" decl.inherited
    (by simp [fieldsJson])
  have members := Member.readsBack.list.optional kept [] "members" decl.members
    (by simp [fieldsJson])
  simp [ofJson?,record?,kind,name,inherited,members]

private theorem Invocation.readsBack : ReadsBack (fun invocation => .obj invocation.fieldsJson) ofJson? := by
  intro invocation json same
  obtain ⟨fields,rfl,kept⟩ := same.keeps (by simp [fieldsJson])
  have name := str_readsBack.required kept "name" invocation.name (by simp [fieldsJson])
  have arguments := ExprText.readsBack.list.required kept "arguments" invocation.arguments
    (by simp [fieldsJson])
  simp [ofJson?,record?,name,arguments]

private theorem Node.readsBack : ReadsBack toJson ofJson? := by
  intro node json same
  cases node with
  | expr text =>
    obtain ⟨_,found,same⟩ := same.tagged (by simp)
    simp [ofJson?,found,ExprText.readsBack text _ same]
  | decl declared =>
    obtain ⟨_,found,same⟩ := same.tagged (by simp [Decl.fieldsJson])
    simp [ofJson?,found,Decl.readsBack true declared _ same]
  | invocation call =>
    obtain ⟨_,found,same⟩ := same.tagged (by simp [Invocation.fieldsJson])
    simp [ofJson?,found,Invocation.readsBack call _ same]

private theorem Subject.readsBack (inTagged : Bool) : ReadsBack toJson (ofJson? inTagged) := by
  intro subject json same
  cases subject with
  | parameter name =>
    obtain ⟨_,found,⟨⟩⟩ := same.alternative
    rw [ofJson?,found]
    rfl
  | selfValue | decodedString =>
    cases same
    rfl

private theorem Pattern.readsBack (inTagged : Bool) : ReadsBack toJson (ofJson? inTagged) := by
  intro pattern json same
  cases pattern with
  | str text | case text | rawValueOf text =>
    obtain ⟨_,found,⟨⟩⟩ := same.adjacent (by decide) inTagged
    rw [ofJson?,found]
    rfl

private theorem Branch.readsBack (inTagged : Bool) : ReadsBack toJson (ofJson? inTagged) := by
  intro branch json same
  cases branch with
  | assignCase text | returnStr text =>
    obtain ⟨_,found,⟨⟩⟩ := same.adjacent (by decide) inTagged
    rw [ofJson?,found]
    rfl

private theorem Arm.readsBack (inTagged : Bool) : ReadsBack toJson (ofJson? inTagged) := by
  intro arm json same
  obtain ⟨fields,rfl,kept⟩ := same.keeps (by simp)
  have pattern := (Pattern.readsBack inTagged).required kept "pattern" arm.pattern (by simp)
  have branch := (Branch.readsBack inTagged).required kept "branch" arm.branch (by simp)
  simp [ofJson?,record?,pattern,branch]

private theorem Switch.readsBack (inTagged : Bool) : ReadsBack toJson (ofJson? inTagged) := by
  intro switch json same
  obtain ⟨fields,rfl,kept⟩ := same.keeps (by simp)
  have subject := (Subject.readsBack inTagged).required kept "subject" switch.subject (by simp)
  have arms := (Arm.readsBack inTagged).list.required kept "arms" switch.arms (by simp)
  have default := (Branch.readsBack inTagged).required kept "default" switch.default (by simp)
  simp [ofJson?,record?,subject,arms,default]

private theorem Initializer.readsBack (inTagged : Bool) :
    ReadsBack (fun initializer => .obj initializer.fieldsJson) (ofJson? inTagged) := by
  intro initializer json same
  obtain ⟨fields,rfl,kept⟩ := same.keeps (by simp [fieldsJson])
  have name := str_readsBack.required kept "name" initializer.name (by simp [fieldsJson])
  have parameter := str_readsBack.required kept "parameter" initializer.parameter
    (by simp [fieldsJson])
  have body := (Switch.readsBack inTagged).required kept "body" initializer.body
    (by simp [fieldsJson])
  simp [ofJson?,record?,name,parameter,body]

private theorem Accessor.readsBack (inTagged : Bool) :
    ReadsBack (fun accessor => .obj accessor.fieldsJson) (ofJson? inTagged) := by
  intro accessor json same
  obtain ⟨fields,rfl,kept⟩ := same.keeps (by simp [fieldsJson])
  have name := str_readsBack.required kept "name" accessor.name (by simp [fieldsJson])
  have body := (Switch.readsBack inTagged).required kept "body" accessor.body (by simp [fieldsJson])
  simp [ofJson?,record?,name,body]

private theorem Conformance.readsBack (inTagged : Bool) : ReadsBack toJson (ofJson? inTagged) := by
  intro conformance json same
  cases conformance with
  | decodable | encodable =>
    cases same
    rfl

private theorem Extension.readsBack (inTagged : Bool) :
    ReadsBack (fun extension => .obj extension.fieldsJson) (ofJson? inTagged) := by
  intro extension json same
  obtain ⟨fields,rfl,kept⟩ := same.keeps (by simp [fieldsJson])
  have target := TypeName.readsBack.required kept "target" extension.target (by simp [fieldsJson])
  have conformance := (Conformance.readsBack inTagged).required kept "conformance"
    extension.conformance (by simp [fieldsJson])
  have body := (Switch.readsBack inTagged).required kept "body" extension.body (by simp [fieldsJson])
  simp [ofJson?,record?,target,conformance,body]

private theorem Declaration.readsBack : ReadsBack toJson ofJson? := by
  intro declaration json same
  cases declaration with
  | case name =>
    obtain ⟨_,found,same⟩ := same.tagged (by simp)
    obtain ⟨fields,record,name⟩ := same.text
    simp [ofJson?,found,record,name]
  | initializer built =>
    obtain ⟨_,found,same⟩ := same.tagged (by simp [Initializer.fieldsJson])
    simp [ofJson?,found,Initializer.readsBack true built _ same]
  | accessor built =>
    obtain ⟨_,found,same⟩ := same.tagged (by simp [Accessor.fieldsJson])
    simp [ofJson?,found,Accessor.readsBack true built _ same]
  | extension built =>
    obtain ⟨_,found,same⟩ := same.tagged (by simp [Extension.fieldsJson])
    simp [ofJson?,found,Extension.readsBack true built _ same]

mutual

/-- An expression is read back within any bound on the depth of its form. -/
private theorem Expression.readsBackWithin : (expression : Expression) → (bound : Nat) → (json : Json) →
    Reorders expression.toJson json → json.depth ≤ bound →
    ofJsonWithin? bound json = some expression
  | .tuple elements,bound + 1,json,same,shallow => by
    rw [toJson] at same
    obtain ⟨content,found,same⟩ := same.tagged (by simp)
    -- The elements are two levels deeper than the tuple, one for the object and one for the array.
    have smaller := depth_of_tagged? found
    obtain ⟨fields,rfl,kept⟩ := same.keeps (by simp)
    obtain ⟨_,listed,same⟩ := kept "elements" _ List.mem_cons_self
    have inner := depth_of_field? listed
    cases same with
    | arr each =>
      rw [depth] at inner
      have all := list?_eq_some _ _ _ (readsBackAll elements bound _ each (by omega))
      simp [ofJsonWithin?,found,record?,required?,listed,all]
  | .embedded expr,bound + 1,json,same,_ => by
    rw [toJson] at same
    obtain ⟨_,found,same⟩ := same.tagged (by simp)
    simp [ofJsonWithin?,found,ExprText.readsBack expr _ same]
  | .stringLiteral value,bound + 1,json,same,_ => by
    rw [toJson] at same
    obtain ⟨_,found,same⟩ := same.tagged (by simp)
    obtain ⟨fields,record,value⟩ := same.text
    simp [ofJsonWithin?,found,record,value]
  | _,0,json,_,shallow => by cases json <;> simp [depth] at shallow

theorem Expression.readsBackAll : (elements : List Expression) → (bound : Nat) →
    (jsons : List Json) → List.Forall₂ Reorders (toJsonAll elements) jsons →
    depthAll jsons ≤ bound →
    List.Forall₂ (fun element json => ofJsonWithin? bound json = some element) elements jsons
  | [],_,_,same,_ => by
    cases same
    exact .nil
  | element :: elements,bound,_,same,shallow => by
    cases same with
    | cons first rest =>
      rw [depthAll,Nat.max_le] at shallow
      exact .cons (readsBackWithin element bound _ first shallow.1)
        (readsBackAll elements bound _ rest shallow.2)

end

private theorem Expression.readsBack : ReadsBack toJson ofJson? :=
  fun expression json same => readsBackWithin expression json.depth json same (Nat.le_refl _)

private theorem Site.readsBack : ReadsBack toJson ofJson? := by
  intro site json same
  cases site with
  | expression | memberSynthesis | extensionSynthesis =>
    cases same
    rfl

private theorem Request.readsBack : ReadsBack toJson ofJson? := by
  intro request json same
  obtain ⟨fields,rfl,kept⟩ := same.keeps (by simp)
  have site := Site.readsBack.required kept "site" request.site (by simp)
  have node := Node.readsBack.required kept "node" request.node (by simp)
  have conformances := TypeName.readsBack.list.optional kept [] "conformances" request.conformances
    (by simp)
  simp [ofJson?,record?,site,node,conformances]

private theorem Expansion.readsBack : ReadsBack toJson ofJson? := by
  intro expansion json same
  cases expansion with
  | expression built =>
    obtain ⟨_,found,same⟩ := same.adjacent (by decide) false
    simp [ofJson?,found,Expression.readsBack built _ same]
  | declarations built =>
    obtain ⟨_,found,same⟩ := same.adjacent (by decide) false
    simp [ofJson?,found,Declaration.readsBack.list built _ same]

private theorem Settings.codegen_readsBack :
    ReadsBack (fun settings => .obj [("fallback_case",.str settings.fallbackCase),
      ("serde_path",.str settings.serdePath)]) codegenOfJson? := by
  intro settings json same
  obtain ⟨fields,rfl,kept⟩ := same.keeps (by simp)
  have fallback (missing : String) := str_readsBack.optional kept missing "fallback_case"
    settings.fallbackCase (by simp)
  have path (missing : String) := str_readsBack.optional kept missing "serde_path"
    settings.serdePath (by simp)
  simp [codegenOfJson?,record?,fallback,path]

private theorem Settings.readsBack : ReadsBack toJson ofJson? := by
  intro settings json same
  obtain ⟨fields,rfl,kept⟩ := same.keeps (by simp)
  exact codegen_readsBack.optional kept {} "codegen" settings (by simp)

/-- Every node, request, expansion, declaration and expression, and all settings, are read back from
their form, whatever the order of its fields, and so no two of them have the same form. -/
theorem forms_faithful :
    Faithful Node.toJson Node.ofJson? ∧ Faithful Request.toJson Request.ofJson? ∧
    Faithful Expansion.toJson Expansion.ofJson? ∧
    Faithful Declaration.toJson Declaration.ofJson? ∧
    Faithful Expression.toJson Expression.ofJson? ∧
    Faithful Settings.toJson Settings.ofJson? :=
  ⟨Node.readsBack.faithful,Request.readsBack.faithful,Expansion.readsBack.faithful,
    Declaration.readsBack.faithful,Expression.readsBack.faithful,Settings.readsBack.faithful⟩

end CaseSynthesis
