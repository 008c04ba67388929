import CaseSynthesis.Proofs.ValidSettings

/-! What the rules take from the settings. The name of the fallback is carried along as it is: it is
declared, and it is assigned where no case is found, but nothing else depends on it. The path of the
serialization library matters only where conformances are written. -/

namespace CaseSynthesis

open Rendering

inductive Agrees {ε α β : Type} (R : α → β → Prop) : Except ε α → Except ε β → Prop
  | ok {one : α} {two : β} (related : R one two) : Agrees R (.ok one) (.ok two)
  | error (error : ε) : Agrees R (.error error) (.error error)

namespace Agrees

variable {ε α β γ δ : Type} {R : α → β → Prop} {Q : γ → δ → Prop}

private theorem bind {first : Except ε α} {second : Except ε β} {next : α → Except ε γ}
    {next' : β → Except ε δ} (agreed : Agrees R first second)
    (each : ∀ one two, first = .ok one → R one two → Agrees Q (next one) (next' two)) :
    Agrees Q (first >>= next) (second >>= next') := by
  cases agreed with
  | ok related => exact each _ _ rfl related
  | error error => exact .error error

private theorem imp {Q : α → β → Prop} {first : Except ε α} {second : Except ε β}
    (agreed : Agrees R first second)
    (each : ∀ one two, first = .ok one → second = .ok two → R one two → Q one two) :
    Agrees Q first second := by
  cases agreed with
  | ok related => exact .ok (each _ _ rfl rfl related)
  | error error => exact .error error

/-- A step that both take alike. -/
private theorem step (first : Except ε α) {next : α → Except ε γ} {next' : α → Except ε δ}
    (each : ∀ value, first = .ok value → Agrees Q (next value) (next' value)) :
    Agrees Q (first >>= next) (first >>= next') := by
  cases first with
  | ok value => exact each value rfl
  | error error => exact .error error

private theorem of_ok {one : α} {two : β} (agreed : Agrees R (.ok one : Except ε α) (.ok two)) : R one two := by
  cases agreed with
  | ok related => exact related

private theorem eq {first second : Except ε α} (agreed : Agrees (· = ·) first second) : first = second := by
  cases agreed with
  | ok same => rw [same]
  | error error => rfl

end Agrees

/-- Two runs that assign the same of the given cases, or each the fallback of its own. -/
inductive Reassigned (names : List String) (fallback other : String) :
    Except SwitchError Branch → Except SwitchError Branch → Prop
  | declared {name : String} (listed : name ∈ names) :
      Reassigned names fallback other (.ok (.assignCase name)) (.ok (.assignCase name))
  | fallback : Reassigned names fallback other (.ok (.assignCase fallback)) (.ok (.assignCase other))

/-- What a rule declares at a site, twice over. Only the fallback differs: as a case, and in what the
functions from strings to cases assign. The constructor from raw values is run next to the accessor
that it is declared with. -/
inductive Redirects (names : List String) (fallback other : String) :
    Rule → Site → List Declaration → List Declaration → Prop
  | nullable (name parameter : String) {body body' : Switch}
      (runs : ∀ accessor accessor' text, Reassigned names fallback other
        (body.run accessor (.str text)) (body'.run accessor' (.str text))) :
      Redirects names fallback other .nullableEnum .memberSynthesis
        [.case fallback, .initializer ⟨name,parameter,body⟩]
        [.case other, .initializer ⟨name,parameter,body'⟩]
  | members (accessor : Accessor) (name parameter : String) {body body' : Switch}
      (runs : ∀ text, Reassigned names fallback other
        (body.run (some accessor.body) (.str text)) (body'.run (some accessor.body) (.str text))) :
      Redirects names fallback other .codableEnum .memberSynthesis
        [.case fallback, .accessor accessor, .initializer ⟨name,parameter,body⟩]
        [.case other, .accessor accessor, .initializer ⟨name,parameter,body'⟩]
  | extensions (target : TypeName) (encode : Switch) {decode decode' : Switch}
      (runs : ∀ accessor accessor' text, Reassigned names fallback other
        (decode.run accessor (.str text)) (decode'.run accessor' (.str text))) :
      Redirects names fallback other .codableEnum .extensionSynthesis
        [.extension ⟨target,.decodable,decode⟩, .extension ⟨target,.encodable,encode⟩]
        [.extension ⟨target,.decodable,decode'⟩, .extension ⟨target,.encodable,encode⟩]

section

variable (first second : Settings) (node : Node)
  (free : first.fallbackCase ∉ node.elements.map CaseElement.name)
  (free' : second.fallbackCase ∉ node.elements.map CaseElement.name)

private theorem nameLookup_reassigned (subject : Subject) (fallback other : String)
    (elements : List CaseElement) (distinct : (elements.map CaseElement.name).Nodup)
    (accessor accessor' : Option Switch) (text : String) :
    Reassigned (elements.map CaseElement.name) fallback other
      ((nameLookup subject fallback (elements.map CaseElement.case)).run accessor (.str text))
      ((nameLookup subject other (elements.map CaseElement.case)).run accessor' (.str text)) := by
  rw [nameLookup_run _ _ _ distinct,nameLookup_run _ _ _ distinct]
  by_cases listed : text ∈ elements.map CaseElement.name
  · rw [if_pos listed,if_pos listed]
    exact .declared listed
  · rw [if_neg listed,if_neg listed]
    exact .fallback

private theorem ofRaw_reassigned (fallback other : String) (elements : List CaseElement)
    (distinct : (elements.map CaseElement.name).Nodup)
    (values : (elements.map CaseElement.rawText).Nodup) (text : String) :
    Reassigned (elements.map CaseElement.name) fallback other
      ((Codable.Members.ofElements fallback elements).ofRaw.run
        (some (Codable.Members.ofElements fallback elements).toRaw) (.str text))
      ((Codable.Members.ofElements other elements).ofRaw.run
        (some (Codable.Members.ofElements other elements).toRaw) (.str text)) := by
  by_cases listed : text ∈ elements.map CaseElement.rawText
  · obtain ⟨element,member,rfl⟩ := List.mem_map.mp listed
    rw [Codable.Members.ofRaw_declared _ _ distinct values element member,
      Codable.Members.ofRaw_declared _ _ distinct values element member]
    exact .declared (List.mem_map_of_mem member)
  · rw [Codable.Members.ofRaw_undeclared _ _ distinct text listed,
      Codable.Members.ofRaw_undeclared _ _ distinct text listed]
    exact .fallback

include free free'

/-- Reading the cases knows no settings, and the check of the fallback passes under both. -/
private theorem checked_cases_agree {α β : Type} {R : α → β → Prop} (rule : Rule)
    (next : List Case → Except SynthesisError α) (next' : List Case → Except SynthesisError β)
    (each : node.Enumerates → Agrees R (next (node.elements.map CaseElement.case))
      (next' (node.elements.map CaseElement.case))) :
    Agrees R
      (do
        let cases ← structural rule node.cases
        checkFallback first.fallbackCase cases
        next cases)
      (do
        let cases ← structural rule node.cases
        checkFallback second.fallbackCase cases
        next' cases) := by
  refine .step _ fun cases read => ?_
  obtain ⟨enumerates,rfl⟩ :=
    (node_cases_eq_ok_iff node cases).mp ((structural_eq_ok_iff rule _ _).mp read)
  rw [(checkFallback_eq_ok_iff _ _).mpr free,(checkFallback_eq_ok_iff _ _).mpr free']
  exact each enumerates

private theorem nullable_redirects :
    Agrees (Redirects (node.elements.map CaseElement.name) first.fallbackCase second.fallbackCase
        .nullableEnum .memberSynthesis)
      (synthesize first .nullableEnum .memberSynthesis node)
      (synthesize second .nullableEnum .memberSynthesis node) := by
  refine .bind (R := fun one two => Redirects (node.elements.map CaseElement.name)
    first.fallbackCase second.fallbackCase .nullableEnum .memberSynthesis one.declarations two.declarations) ?_
    fun one two _ related => .ok related
  refine checked_cases_agree first second node free free' .nullableEnum _ _ fun enumerates => .ok ?_
  refine .nullable _ _ fun accessor accessor' text => ?_
  exact nameLookup_reassigned _ _ _ _ enumerates.distinct _ _ text

private theorem members_redirect :
    Agrees (Redirects (node.elements.map CaseElement.name) first.fallbackCase second.fallbackCase
        .codableEnum .memberSynthesis)
      (synthesize first .codableEnum .memberSynthesis node)
      (synthesize second .codableEnum .memberSynthesis node) := by
  refine .bind (R := fun one two => Redirects (node.elements.map CaseElement.name)
    first.fallbackCase second.fallbackCase .codableEnum .memberSynthesis one.declarations two.declarations) ?_
    fun one two _ related => .ok related
  -- Every check but that of the fallback is made without the settings.
  have checked : Agrees (fun _ _ => True) (Codable.members first node)
      (Codable.members second node) := by
    refine .step _ fun decl enum => .step _ fun cases read => .step _ fun _ _ => ?_
    obtain ⟨rfl,_⟩ := (enum_eq_ok_iff node decl).mp ((structural_eq_ok_iff _ _ _).mp enum)
    obtain ⟨_,_,rfl⟩ := (decl_cases_eq_ok_iff decl cases).mp ((structural_eq_ok_iff _ _ _).mp read)
    rw [(checkFallback_eq_ok_iff _ decl.elements).mpr free,
      (checkFallback_eq_ok_iff _ decl.elements).mpr free']
    exact .step (Codable.rawValues _) fun _ _ => .ok trivial
  refine checked.imp fun one two built built' _ => ?_
  obtain ⟨accepted,rfl⟩ := (Codable.members_eq_ok_iff first node one).mp built
  obtain ⟨_,rfl⟩ := (Codable.members_eq_ok_iff second node two).mp built'
  refine .members ⟨_,(Codable.Members.ofElements first.fallbackCase node.elements).toRaw⟩ _ _
    fun text => ?_
  exact ofRaw_reassigned _ _ _ accepted.distinct accepted.values text

private theorem extensions_redirect :
    Agrees (Redirects (node.elements.map CaseElement.name) first.fallbackCase second.fallbackCase
        .codableEnum .extensionSynthesis)
      (synthesize first .codableEnum .extensionSynthesis node)
      (synthesize second .codableEnum .extensionSynthesis node) := by
  refine .step _ fun decl _ => ?_
  refine .bind (R := fun one two => Redirects (node.elements.map CaseElement.name)
    first.fallbackCase second.fallbackCase .codableEnum .extensionSynthesis
      (one.declarations ⟨decl.name⟩) (two.declarations ⟨decl.name⟩)) ?_
    fun one two _ related => .ok related
  refine checked_cases_agree first second node free free' .codableEnum _ _ fun enumerates => .ok ?_
  refine .extensions _ _ fun accessor accessor' text => ?_
  exact nameLookup_reassigned _ _ _ _ enumerates.distinct _ _ text

/-- Every rule, wherever it is applied, declares the same under both settings, but for the fallback. -/
private theorem synthesize_redirects (rule : Rule) (site : Site) :
    Agrees (Redirects (node.elements.map CaseElement.name) first.fallbackCase second.fallbackCase
        rule site)
      (synthesize first rule site node) (synthesize second rule site node) := by
  cases rule with
  | stringify => exact .error _
  | nullableEnum =>
    cases site with
    | memberSynthesis => exact nullable_redirects first second node free free'
    | expression | extensionSynthesis => exact .error _
  | codableEnum =>
    cases site with
    | memberSynthesis => exact members_redirect first second node free free'
    | extensionSynthesis => exact extensions_redirect first second node free free'
    | expression => exact .error _

end

section

variable (settings : Settings) (path : String)

private theorem synthesize_serdePath (rule : Rule) (site : Site) (node : Node) :
    synthesize { settings with serdePath := path } rule site node =
      synthesize settings rule site node := by
  cases rule <;> cases site <;> rfl

/-- The path is written for conformances only. -/
private theorem add_of_no_extension (serde serde' : List Token) (additions : Additions)
    (declaration : Declaration) (plain : declaration.extension? = none) :
    additions.add serde declaration = additions.add serde' declaration := by
  cases declaration with
  | extension built => cases plain
  | case name => rfl
  | initializer built => rfl
  | accessor built => rfl

private theorem foldlM_add_of_no_extension (serde serde' : List Token) (declarations : List Declaration)
    (plain : ∀ declaration ∈ declarations, declaration.extension? = none) (additions : Additions) :
    declarations.foldlM (Additions.add serde) additions =
      declarations.foldlM (Additions.add serde') additions := by
  induction declarations generalizing additions with
  | nil => rfl
  | cons declaration rest ih =>
    rw [List.forall_mem_cons] at plain
    rw [List.foldlM_cons,List.foldlM_cons,add_of_no_extension serde serde' _ _ plain.1]
    exact congrArg _ (funext (ih plain.2))

private theorem enum_serdePath (item : Grammar.EnumItem) (declarations : List Declaration)
    (plain : ∀ declaration ∈ declarations, declaration.extension? = none)
    (one : (pathTokens settings.serdePath).isOk = true) (two : (pathTokens path).isOk = true) :
    Rendering.enum { settings with serdePath := path } item declarations =
      Rendering.enum settings item declarations := by
  obtain ⟨serde,read⟩ := (isOk_iff _).mp one
  obtain ⟨serde',read'⟩ := (isOk_iff _).mp two
  unfold Rendering.enum
  rw [read,read']
  change (declarations.foldlM (Additions.add serde') {} >>= _) =
    (declarations.foldlM (Additions.add serde) {} >>= _)
  rw [foldlM_add_of_no_extension serde' serde declarations plain]

private theorem nullable_declarations_plain (members : Nullable.Members) :
    ∀ declaration ∈ members.declarations, declaration.extension? = none := by
  unfold Nullable.Members.declarations
  simp [Declaration.extension?]

/-- The rule for fallbacks writes the same tokens under both paths, and fails alike. -/
private theorem expandItem_serdePath (arguments : Lexemes) (item : Grammar.Item)
    (one : (pathTokens settings.serdePath).isOk = true) (two : (pathTokens path).isOk = true) :
    expandItem { settings with serdePath := path } .nullableEnum arguments item =
      expandItem settings .nullableEnum arguments item := by
  unfold expandItem
  simp only [synthesize_serdePath]
  refine Agrees.eq (.step _ fun rawType _ => .step _ fun _ _ => .step _ fun built located => ?_)
  have synthesized := (locate_eq_ok_iff item _ built).mp located
  obtain ⟨_,rfl⟩ := (synthesizeAll_nullable_eq_ok_iff settings _ built).mp synthesized
  cases item with
  | enum enum =>
    dsimp only
    rw [enum_serdePath settings path enum _ 
      (by simpa using nullable_declarations_plain _) one two]
    exact .step _ fun _ _ => .ok rfl
  | declared | module | foreign | other => exact .error _

end

/-- For two fallbacks that a node does not declare, every rule gives the same error or the same
declarations, but that each fallback stands where the other does. The path of the serialization library
changes no declaration, and no token of an expansion without conformances. -/
theorem fallback_is_parameter (first second : Settings) (node : Node)
    (free : first.fallbackCase ∉ node.elements.map CaseElement.name)
    (free' : second.fallbackCase ∉ node.elements.map CaseElement.name) :
    (∀ rule site,
      Agrees (Redirects (node.elements.map CaseElement.name) first.fallbackCase second.fallbackCase
          rule site)
        (synthesize first rule site node) (synthesize second rule site node)) ∧
    ∀ (settings : Settings) path,
      (∀ rule site node, synthesize { settings with serdePath := path } rule site node =
        synthesize settings rule site node) ∧
      ((∃ found, readPath settings.serdePath = .ok found) →
        (∃ found, readPath path = .ok found) →
        ∀ arguments item, expandItem { settings with serdePath := path } .nullableEnum arguments item =
          expandItem settings .nullableEnum arguments item) := by
  refine ⟨synthesize_redirects first second node free free',fun settings path =>
    ⟨synthesize_serdePath settings path,fun readable readable' arguments item => ?_⟩⟩
  exact expandItem_serdePath settings path arguments item (pathTokens_isOk _ readable)
    (pathTokens_isOk _ readable')

theorem fallback_is_parameter_swapped :
    (∃ one two,
      synthesize {} .codableEnum .memberSynthesis Codable.swapped = .ok one ∧
      synthesize { fallbackCase := "Other" } .codableEnum .memberSynthesis Codable.swapped = .ok two ∧
      Redirects ["First", "Second", "Third"] "Unknown" "Other" .codableEnum .memberSynthesis one two) ∧
    expandItem { serdePath := "crate::wire" } .nullableEnum [] (.enum status) =
      expandItem {} .nullableEnum [] (.enum status) := by
  obtain ⟨redirects,paths⟩ := fallback_is_parameter {} { fallbackCase := "Other" } Codable.swapped
    (by decide) (by decide)
  have readable (path : String) (named : ∀ name ∈ pathNames path, Settings.isName name.toList = true)
      (written : ∀ name ∈ pathNames path, isPathName name = true) :
      ∃ found, readPath path = .ok found := (readPath_named_iff path named).1.mpr written
  refine ⟨⟨_,_,rfl,rfl,(redirects .codableEnum .memberSynthesis).of_ok⟩,?_⟩
  exact (paths {} "crate::wire").2 (readable "serde" (by decide) (by decide))
    (readable "crate::wire" (by decide) (by decide)) [] (.enum status)

end CaseSynthesis
