import CaseSynthesis.Proofs.Relowering
import CaseSynthesis.Proofs.Stringified
import CaseSynthesis.Proofs.TypeShapes

/-! The paths by which written code refers to cases. A variant is declared by an identifier, and its
name goes through the rules without the mark of a raw one. The mark is put back exactly where the name
is a keyword, so that each path leads to the variant that the name was taken from. -/

namespace CaseSynthesis

namespace Grammar

open CaseSynthesis.Grammar.Parser

section

variable {α β : Type} {p : Parser α} {Q : α → Prop}

private theorem Gives.map {f : α → β} {P : β → Prop} (given : Gives p Q) (each : ∀ value, Q value → P (f value)) :
    Gives (f <$> p) P :=
  given.bind fun value holds => .pure (each value holds)

theorem gives_take {view : View} {Q : Lexeme → Prop}
    (each : ∀ lexeme rest, view (lexeme :: rest) = true → Q lexeme) : Gives (take view) Q := by
  intro input lexeme rest read
  have taken : nextIf view input = some ([lexeme],rest) := by
    rw [nextIf,run_bind,read]
    rfl
  exact gives_nextIf (Q := fun tokens => ∀ lexeme ∈ tokens, Q lexeme)
    (fun lexeme rest seen => by simpa using each lexeme rest seen) input _ rest taken lexeme (by simp)

private theorem Gives.enclosed (delimiter : Delimiter) (given : Gives p Q) :
    Gives (enclosed delimiter p) fun found => Q found.2.1 := by
  refine .after fun opening => .bind given fun value holds => .after fun ahead => ?_
  split
  · exact .ite (fun _ => .after fun _ => .pure holds) fun _ => .fail
  · exact .fail

private theorem Gives.commaSeparated (given : Gives p Q) :
    Gives (commaSeparated p) fun phrases => ∀ phrase ∈ phrases, Q phrase.1 := by
  refine .loop (by simp) fun phrases held => .peekIf (.pure held) (.bind given fun value holds => ?_)
  have longer (mark : Lexemes) : ∀ phrase ∈ phrases ++ [(value,mark)], Q phrase.1 := by
    exact List.forall_mem_append.mpr ⟨held,List.forall_mem_singleton.mpr holds⟩
  exact .peekIf (.pure (longer [])) (.after fun mark => .pure (longer mark))

end

/-! The names of variants. -/

def Variant.Named (variant : Variant) : Prop :=
  ∃ ident, variant.name.token = .ident ident ∧ ident.isKeyword = false

private theorem gives_variant (rules : Rules) : Gives (variant rules) Variant.Named := by
  refine .after fun attributes => .after fun _ => ?_
  refine .bind (Q := fun name => ∃ ident, name.token = .ident ident ∧ ident.isKeyword = false)
    (gives_take fun lexeme rest seen => ?_) fun name named => ?_
  · obtain ⟨token,span⟩ := lexeme
    cases token with
    | ident ident => exact ⟨ident,rfl,by simpa [View.ident] using seen⟩
    | _ => cases seen
  · refine .after fun braced => .after fun tupled => .ite (fun _ => .after ?_) fun _ =>
      .ite (fun _ => .after ?_) fun _ => .after ?_
    all_goals
      exact fun payload => .peekIf (.after fun _ => .after fun _ => .after fun _ => .pure named)
        (.after fun _ => .pure named)

private theorem gives_enumItem (rules : Rules) :
    Gives (enumItem rules) fun item => ∀ variant ∈ item.ownVariants, variant.Named := by
  refine .after fun _ => .after fun _ => .after fun _ => .after fun _ => .after fun _ => ?_
  refine .bind (.enclosed .brace (.commaSeparated (gives_variant rules))) fun found named => .pure ?_
  intro variant member
  obtain ⟨phrase,listed,rfl⟩ := List.mem_map.mp member
  exact named phrase listed

def NoEnum (found : Option Item) : Prop := ∀ item, found ≠ some (.enum item)

private theorem noEnum_functionItem (rules : Rules) : Gives (functionItem rules) NoEnum := by
  refine .after fun _ => .after fun _ => .peekIf (.after fun _ => .pure nofun) ?_
  exact .after fun _ => .pure nofun

private theorem noEnum_externCrate : Gives externCrate fun item => NoEnum (some item) := by
  refine .after fun _ => .after fun _ => .after fun _ => .peekIf (.after ?_) (.after ?_)
  all_goals exact fun _ => .after fun _ => .after fun _ => .pure nofun

private theorem noEnum_foreignBlock (rules : Rules) :
    Gives (foreignBlock rules) fun item => NoEnum (some item) := by
  refine .after fun _ => .after fun _ => .after fun _ => .after fun _ => .after fun _ => .pure nofun

private theorem noEnum_useItem (rules : Rules) : Gives (useItem rules) NoEnum := by
  refine .after fun _ => .after fun _ => .after fun _ => .after fun _ => .after fun _ => .pure ?_
  split <;> exact nofun

private theorem noEnum_staticItem (rules : Rules) : Gives (staticItem rules) NoEnum := by
  refine .after fun _ => .after fun _ => .after fun _ => .after fun _ => .after fun _ => ?_
  exact .ite (fun _ => .after fun _ => .pure nofun) fun _ => .pure nofun

private theorem noEnum_constantItem (rules : Rules) : Gives (constantItem rules) NoEnum := by
  refine .after fun _ => .after fun _ => ?_
  exact .ite (fun _ => .pure nofun) fun _ => .pure nofun

private theorem noEnum_aliasItem (rules : Rules) : Gives (aliasItem rules) NoEnum := by
  refine .after fun _ => .after fun _ => ?_
  exact .ite (fun _ => .pure nofun) fun _ => .pure nofun

private theorem noEnum_traitRest (rules : Rules) (name : Lexeme) (head : Lexemes) :
    Gives (traitRest rules name head) fun item => NoEnum (some item) :=
  .after fun _ => .after fun _ => .after fun _ => .pure nofun

private theorem noEnum_modifiedTrait (rules : Rules) :
    Gives (modifiedTrait rules) fun item => NoEnum (some item) := by
  refine .after fun _ => .after fun _ => .after fun _ => .after fun _ => .after fun _ => .after fun _ => ?_
  exact noEnum_traitRest rules _ _

private theorem noEnum_traitItem (rules : Rules) :
    Gives (traitItem rules) fun item => NoEnum (some item) := by
  refine .after fun _ => .after fun _ => .after fun _ => .after fun _ => .peekIf ?_
    (noEnum_traitRest rules _ _)
  exact .after fun _ => .after fun _ => .after fun _ => .after fun _ => .pure nofun

private theorem noEnum_implItem (rules : Rules) : Gives (implItem rules) NoEnum := by
  refine .after fun _ => .after fun _ => .after fun _ => .after fun _ => .after fun _ =>
    .after fun _ => .after fun _ => .after fun _ => .after fun _ => ?_
  exact .ite (fun _ => .pure nofun) fun _ => .pure nofun

private theorem noEnum_moduleItem (rules : Rules) :
    Gives (moduleItem rules) fun item => NoEnum (some item) := by
  refine .after fun _ => .after fun _ => .after fun _ => .after fun _ => .peekIf ?_ ?_
  · exact .after fun _ => .pure nofun
  · exact .after fun _ => .pure nofun

private theorem noEnum_structItem (rules : Rules) :
    Gives (structItem rules) fun item => NoEnum (some item) := by
  refine .after fun _ => .after fun _ => .after fun _ => .after fun _ => .after fun _ => .after fun _ =>
    .after fun _ => .after fun _ => .ite (fun _ => ?_) fun _ => .ite (fun _ => ?_) fun _ => ?_
  · exact .after fun _ => .after fun _ => .after fun _ => .after fun _ => .pure nofun
  · exact .after fun _ => .pure nofun
  · exact .after fun _ => .pure nofun

private theorem noEnum_unionItem (rules : Rules) :
    Gives (unionItem rules) fun item => NoEnum (some item) := by
  exact .after fun _ => .after fun _ => .after fun _ => .after fun _ => .after fun _ => .after fun _ =>
    .pure nofun

/-- From the given tokens, the parser reads no enum but those that the production for enums reads. -/
def OnlyEnums (rules : Rules) (input : Lexemes) (p : Parser (Option Item)) : Prop :=
  ∀ item rest, p input = some (some (.enum item),rest) → enumItem rules input = some (item,rest)

private theorem onlyEnums_ite {rules : Rules} {input : Lexemes} {p q : Parser (Option Item)} (condition : Bool)
    (one : OnlyEnums rules input p) (two : OnlyEnums rules input q) :
    OnlyEnums rules input (if condition then p else q) := by
  cases condition with
  | true => exact one
  | false => exact two

private theorem onlyEnums_itemOf (rules : Rules) (plain : Bool) (ahead input : Lexemes) :
    OnlyEnums rules input (itemOf rules plain ahead) := by
  have none {p : Parser (Option Item)} (given : Gives p NoEnum) : OnlyEnums rules input p :=
    fun item rest read => absurd rfl (given input _ rest read item)
  have form {p : Parser Item} (given : Gives p fun item => NoEnum (some item)) :
      OnlyEnums rules input (some <$> p) := none (given.map fun _ none => none)
  have foreign := form (noEnum_foreignBlock rules)
  have modified := form (noEnum_modifiedTrait rules)
  have module := form (noEnum_moduleItem rules)
  have implemented := none (noEnum_implItem rules)
  refine onlyEnums_ite _ (none (noEnum_functionItem rules)) (onlyEnums_ite _
    (onlyEnums_ite _ (form noEnum_externCrate) foreign) (onlyEnums_ite _ (none (noEnum_useItem rules))
      (onlyEnums_ite _ (none (noEnum_staticItem rules)) (onlyEnums_ite _
        (none (noEnum_constantItem rules)) (onlyEnums_ite _ (onlyEnums_ite _ modified (onlyEnums_ite _
          implemented (onlyEnums_ite _ foreign module))) (onlyEnums_ite _ module (onlyEnums_ite _
            (none (noEnum_aliasItem rules)) (onlyEnums_ite _ (form (noEnum_structItem rules))
              (onlyEnums_ite _ ?enum (onlyEnums_ite _ (form (noEnum_unionItem rules)) (onlyEnums_ite _
                (form (noEnum_traitItem rules)) (onlyEnums_ite _ modified (onlyEnums_ite _ implemented
                  (onlyEnums_ite _ ?macros (onlyEnums_ite _ ?call (none .fail))))))))))))))))
  case enum =>
    intro item rest read
    obtain ⟨⟨found,after⟩,ran,same⟩ := Option.bind_eq_some_iff.mp read
    cases same
    exact ran
  case macros => exact none (.after fun _ => .pure nofun)
  case call => exact none (.after fun _ => .pure nofun)

private theorem onlyEnums_itemRest (rules : Rules) (input : Lexemes) :
    OnlyEnums rules input (itemRest rules) := by
  intro item rest read
  obtain ⟨⟨visibility,ahead⟩,_,read⟩ := Option.bind_eq_some_iff.mp read
  exact onlyEnums_itemOf rules visibility.isEmpty ahead input item rest read

/-- An enum is read after its attributes by the production for enums. -/
theorem item_enum {rules : Rules} {input rest : Lexemes} {item : EnumItem}
    (read : Grammar.item rules input = some (.enum item,rest)) :
    ∃ attributes after bare, outerAttributes rules input = some (attributes,after) ∧
      enumItem rules after = some (bare,rest) ∧
      item = { bare with attributes := attributes ++ bare.attributes } := by
  obtain ⟨⟨attributes,after⟩,attributed,read⟩ := Option.bind_eq_some_iff.mp read
  obtain ⟨⟨found,left⟩,ran,read⟩ := Option.bind_eq_some_iff.mp read
  cases found with
  | none => cases read
  | some found =>
    cases found with
    | enum bare =>
      cases read
      exact ⟨attributes,after,bare,attributed,onlyEnums_itemRest rules after bare rest ran,rfl⟩
    | declared | module | foreign | other => cases read

private theorem Variant.Named.declares {variant : Variant} (named : variant.Named)
    (legible : variant.name.token.Legible) : ∃ ident, variant.name.Declares ident := by
  obtain ⟨⟨name,raw⟩,token,free⟩ := named
  rw [token] at legible
  obtain ⟨formed,escapable⟩ := legible
  refine ⟨_,token,?_⟩
  cases raw with
  | true => exact (Ident.isLegal_raw_iff name).mpr ⟨formed,escapable rfl⟩
  | false =>
    exact (Ident.isLegal_plain_iff name).mpr ⟨formed,by simpa [Ident.isKeyword] using free⟩

private theorem EnumItem.name_mem_tokens {item : EnumItem} {variant : Variant}
    (member : variant ∈ item.ownVariants) : variant.name ∈ item.tokens := by
  obtain ⟨phrase,listed,rfl⟩ := List.mem_map.mp member
  have inside : phrase.1.name ∈ Separated.tokens Variant.tokens item.variants :=
    List.mem_flatMap.mpr ⟨_,listed,by simp [Variant.tokens]⟩
  simp [EnumItem.tokens,inside]

theorem rulesKin_alone (depth : Nat) : RulesKin .alone 0 (nested depth) (nested depth) :=
  ⟨rulesCore_zero depth .alone _,rulesCore_zero depth .alone _⟩

/-- In tokens as the lexer makes them, every variant that is read is declared by an identifier. -/
private theorem variants_declared {depth : Nat} {stream rest : Lexemes} {item : EnumItem}
    (sound : Sound stream) (read : Grammar.item (nested depth) stream = some (.enum item,rest)) :
    ∀ variant ∈ item.ownVariants, ∃ ident, variant.name.Declares ident := by
  obtain ⟨attributes,after,bare,attributed,ran,rfl⟩ := item_enum read
  -- There is nothing beyond the stream, so that it may be taken to stand anywhere.
  have state : Comparison.alone.State .angled stream [] :=
    ⟨sound,.inl ⟨stream,by simp [Comparison.alone],False.elim,
      by simp [Comparison.alone,Comparison.Uneven],nofun⟩⟩
  have rule := rulesKin_alone depth
  have leading : Parallel .alone 0 .angled .later .loose _ (outerAttributes (nested depth)) _ :=
    parallel_outerAttributes rule
  have enumerated : Parallel .alone 0 .angled .later .solid _ (enumItem (nested depth)) _ :=
    parallel_enumItem rule (by decide)
  obtain ⟨_,left,reached,_⟩ := (leading stream [] state False.elim).1 attributes after attributed
  obtain ⟨_,_,_,_,kin,_⟩ := (enumerated after left reached False.elim).1 bare rest ran
  have whole := kin [] [] .nil
  intro variant member
  refine (gives_enumItem _ after bare rest ran variant member).declares (whole.legible _ ?_)
  exact EnumItem.name_mem_tokens member

end Grammar

open Grammar Rendering

theorem readItem_eq_ok {source : String} {item : Item} (read : readItem source = .ok item) :
    ∃ stream, Sound stream ∧ parseItem stream = some item := by
  unfold readItem readPhrase readTokens at read
  cases lexed : Lexer.lex source with
  | none => rw [lexed] at read; cases read
  | some stream =>
    refine ⟨stream,sound_of_lex lexed,?_⟩
    rw [lexed] at read
    cases parsed : parseItem stream with
    | none => simp [parsed,bind,Except.bind,throw,throwThe,MonadExceptOf.throw] at read
    | some found =>
      simp only [parsed,bind,Except.bind,pure,Except.pure,Except.ok.injEq] at read
      rw [read]

/-- The name of a case that can be declared is spelled as an identifier that can be declared too. -/
private theorem caseIdent_legal (ident : Ident) (legal : ident.isLegal = true) :
    caseIdent ident.name = .ok ⟨ident.name,keywords.contains ident.name⟩ ∧
      Ident.isLegal ⟨ident.name,keywords.contains ident.name⟩ = true := by
  obtain ⟨formed,escapable⟩ := ident.isLegal_name legal
  refine ⟨caseIdent_formed ident.name formed escapable,?_⟩
  by_cases reserved : ident.name ∈ keywords
  · simpa [reserved] using (Ident.isLegal_raw_iff ident.name).mpr ⟨formed,escapable⟩
  · simpa [reserved] using (Ident.isLegal_plain_iff ident.name).mpr ⟨formed,reserved⟩

def selfPath (name : String) : List Token :=
  word "Self" ++ sign "::" ++ [.ident ⟨name,keywords.contains name⟩]

/-- The path of a name is written, with a legal identifier of that very name at its end, by whatever
pattern or branch speaks of the case, and among the variants there is one of that name and no other. -/
structure LeadsTo (variants : List Variant) (name : String) (variant : Variant) : Prop where
  path : casePath name = .ok (selfPath name)
  matching : Rendering.pattern (.case name) = .ok (selfPath name)
  guarding : Rendering.pattern (.rawValueOf name) = .ok (word "raw" ++ word "if" ++ word "raw" ++
    sign "==" ++ selfPath name ++ sign "." ++ word "raw_value" ++ parens [])
  assigning : Rendering.branch (.assignCase name) = .ok (selfPath name)
  legal : Ident.isLegal ⟨name,keywords.contains name⟩ = true
  member : variant ∈ variants
  named : variant.caseName = name
  only : ∀ other ∈ variants, other.caseName = name → other = variant

private theorem leadsTo_of_legal {variants : List Variant} (distinct : (variants.map Variant.caseName).Nodup)
    {variant : Variant} (member : variant ∈ variants) (ident : Ident) (legal : ident.isLegal = true)
    (named : variant.caseName = ident.name) : LeadsTo variants ident.name variant := by
  obtain ⟨spelled,written⟩ := caseIdent_legal ident legal
  have path : casePath ident.name = .ok (selfPath ident.name) := by
    rw [casePath,spelled]
    rfl
  refine ⟨path,path,?_,path,written,member,named,fun other listed same => ?_⟩
  · rw [Rendering.pattern,path]
    rfl
  · exact List.inj_on_of_nodup_map distinct listed member (same.trans named.symm)

/-- The switches that a rule makes name no case but those of the enum and the fallback. -/
private theorem synthesizeAll_caseNames (settings : Settings) (rule : Rule) (node : Node)
    (built : List (List Declaration)) (synthesized : rule.synthesizeAll settings node = .ok built) :
    ∀ body ∈ built.flatten.filterMap Declaration.body?, ∀ name ∈ body.caseNames,
      name ∈ settings.fallbackCase :: node.elements.map CaseElement.name := by
  have declared (name : String) (listed : name ∈ node.elements.map CaseElement.name) :
      name ∈ settings.fallbackCase :: node.elements.map CaseElement.name :=
    List.mem_cons_of_mem _ listed
  have lookup (subject : Subject) (name : String)
      (listed : name ∈ (nameLookup subject settings.fallbackCase
        (node.elements.map CaseElement.case)).caseNames) :=
    (mem_caseNames_nameLookup _ _ name subject).mp listed
  have reading (name : String) (listed : name ∈ (Codable.Members.ofElements settings.fallbackCase
      node.elements).ofRaw.caseNames) := (mem_caseNames_ofRaw _ _ name).mp listed
  have toRaw (name : String) (listed : name ∈ (Codable.Members.ofElements settings.fallbackCase
      node.elements).toRaw.caseNames) := declared name ((mem_caseNames_toRaw _ _ name).mp listed)
  have encode (name : String) (listed : name ∈ (Codable.Extensions.ofElements settings.fallbackCase
      node.elements).encode.caseNames) := declared name ((mem_caseNames_encode _ _ name).mp listed)
  cases rule with
  | stringify => contradiction
  | nullableEnum =>
    obtain ⟨_,rfl⟩ := (synthesizeAll_nullable_eq_ok_iff settings node built).mp synthesized
    exact List.forall_mem_singleton.mpr (lookup (.parameter Nullable.parameter))
  | codableEnum =>
    obtain ⟨_,rfl⟩ := (synthesizeAll_codable_eq_ok_iff settings node built).mp synthesized
    change ∀ body ∈ [_,_,_,_],_
    simp only [List.forall_mem_cons]
    exact ⟨toRaw,reading,lookup .decodedString,encode,nofun⟩

private theorem distinct_variants {item : EnumItem} {rawType : Option TypeName}
    (distinct : ((Node.decl (item.toDecl rawType)).elements.map CaseElement.name).Nodup) :
    (item.ownVariants.map Variant.caseName).Nodup := by
  rw [← caseNames_enum]
  exact distinct

private theorem names_legal (item : EnumItem) (rawType : Option TypeName)
    (declared : ∀ variant ∈ item.ownVariants, ∃ ident, variant.name.Declares ident) :
    ∀ name ∈ (item.toDecl rawType).elements.map CaseElement.name,
      ∃ ident : Ident, ident.isLegal = true ∧ ident.name = name := by
  intro name listed
  rw [elements_toDecl,List.map_map] at listed
  obtain ⟨variant,member,rfl⟩ := List.mem_map.mp listed
  obtain ⟨ident,found⟩ := declared variant member
  exact ⟨ident,found.legal,found.name_eq.symm⟩

/-- Under valid settings, what is written out has the variants of the enum and one for the fallback. -/
private theorem enum_kept (settings : Settings) (rule : Rule) (item : EnumItem) (node : Node)
    (built : List (List Declaration)) (rendered : Rendered) (valid : settings.validate = .ok ())
    (synthesized : rule.synthesizeAll settings node = .ok built)
    (written : Rendering.enum settings item built.flatten = .ok rendered) :
    item.Kept rendered.item settings.fallbackCase ∧
      ∃ ident : Ident, ident.isLegal = true ∧ ident.name = settings.fallbackCase := by
  obtain ⟨idents,named,output⟩ := enum_item settings item _ rendered written
  rw [synthesizeAll_cases settings rule node built synthesized] at named
  obtain ⟨ident,_,spelled,none,rfl⟩ := List.forall₂_cons_left_iff.mp named
  obtain rfl := List.forall₂_nil_left_iff.mp none
  rw [caseIdent_fallback settings valid] at spelled
  split at spelled
  case isFalse => contradiction
  case isTrue formed =>
    obtain rfl := Except.ok.inj spelled
    refine ⟨output ▸ withCases_kept item _,⟨settings.fallbackCase,true⟩,?_,rfl⟩
    exact (Ident.isLegal_raw_iff _).mpr ⟨formed,escapable_of_valid settings valid⟩

section

variable (settings : Settings) (rule : Rule) (item : EnumItem) (rawType : Option TypeName)
  (built : List (List Declaration))
  (declared : ∀ variant ∈ item.ownVariants, ∃ ident, variant.name.Declares ident)
  (synthesized : rule.synthesizeAll settings (.decl (item.toDecl rawType)) = .ok built)

include declared synthesized

private theorem synthesized_leadsTo :
    ∀ name ∈ (item.toDecl rawType).elements.map CaseElement.name,
      ∃ variant, LeadsTo item.ownVariants name variant := by
  intro name listed
  have taken := takes_of_synthesizeAll settings rule _ built synthesized
  obtain ⟨ident,legal,rfl⟩ := names_legal item rawType declared name listed
  rw [elements_toDecl,List.map_map] at listed
  obtain ⟨variant,member,named⟩ := List.mem_map.mp listed
  exact ⟨variant,leadsTo_of_legal (distinct_variants taken.admitted.distinct) member ident legal named⟩

private theorem rendered_leadsTo (rendered : Rendered) (valid : settings.validate = .ok ())
    (written : Rendering.enum settings item built.flatten = .ok rendered) :
    ∀ name ∈ settings.fallbackCase :: (item.toDecl rawType).elements.map CaseElement.name,
      ∃ variant, LeadsTo rendered.item.ownVariants name variant := by
  have taken := takes_of_synthesizeAll settings rule _ built synthesized
  obtain ⟨kept,fallback,legal,called⟩ :=
    enum_kept settings rule item _ built rendered valid synthesized written
  have distinct : (rendered.item.ownVariants.map Variant.caseName).Nodup := by
    rw [← caseNames_enum]
    exact kept.caseNames_nodup rawType taken.admitted
  have names : rendered.item.ownVariants.map Variant.caseName =
      (item.toDecl rawType).elements.map CaseElement.name ++ [settings.fallbackCase] := by
    rw [← caseNames_enum]
    change (rendered.item.toDecl rawType).elements.map CaseElement.name = _
    rw [kept.elements_eq,List.map_append,List.map_map]
    rfl
  have leads (ident : Ident) (legal : ident.isLegal = true)
      (listed : ident.name ∈ rendered.item.ownVariants.map Variant.caseName) :
      ∃ variant, LeadsTo rendered.item.ownVariants ident.name variant := by
    obtain ⟨variant,member,named⟩ := List.mem_map.mp listed
    exact ⟨variant,leadsTo_of_legal distinct member ident legal named⟩
  rw [List.forall_mem_cons]
  constructor
  · rw [← called] at names ⊢
    exact leads fallback legal (by simp [names])
  · intro name listed
    have inside : name ∈ rendered.item.ownVariants.map Variant.caseName := by simp [names,listed]
    obtain ⟨ident,legal,rfl⟩ := names_legal item rawType declared name listed
    exact leads ident legal inside

end

/-- Every variant that is read from a source text is declared by an identifier. The name of such an
identifier, without the mark of a raw one, is spelled as an identifier of that name again, which is raw
exactly if the name is a keyword, and no two names are spelled alike. So whatever a rule makes of the
enum, the path of each case in it is written by the patterns and branches that speak of the case. It
leads to the one variant that the case was taken from, and under valid settings to that one variant of
the enum that is written out. Writing fails only for the path of the serialization library, the
fallback or the name of the enum. -/
theorem case_paths_name_variants (source : String) (item : EnumItem)
    (read : readItem source = .ok (.enum item)) :
    (∀ variant ∈ item.ownVariants, ∃ ident, variant.name.token = .ident ident ∧
      ident.isLegal = true ∧ variant.caseName = ident.name) ∧
    (∀ ident : Ident, ident.isLegal = true →
      caseIdent ident.name = .ok ⟨ident.name,keywords.contains ident.name⟩ ∧
      Ident.isLegal ⟨ident.name,keywords.contains ident.name⟩ = true ∧
      ∀ other : Ident, other.isLegal = true → caseIdent other.name = caseIdent ident.name →
        other.name = ident.name) ∧
    ∀ (settings : Settings) (rule : Rule) rawType built,
      rule.synthesizeAll settings (.decl (item.toDecl rawType)) = .ok built →
      (∀ body ∈ built.flatten.filterMap Declaration.body?, ∀ name ∈ body.caseNames,
        name ≠ settings.fallbackCase → ∃ variant, LeadsTo item.ownVariants name variant) ∧
      (∀ rendered, settings.validate = .ok () →
        Rendering.enum settings item built.flatten = .ok rendered →
        ∀ body ∈ built.flatten.filterMap Declaration.body?, ∀ name ∈ body.caseNames,
          ∃ variant, LeadsTo rendered.item.ownVariants name variant) ∧
      ((Rendering.enum settings item built.flatten).isOk = true ↔
        (pathTokens settings.serdePath).isOk = true ∧ isWritable settings.fallbackCase = true ∧
        (rule = .codableEnum → (typeTokens ⟨item.name.name⟩).isOk = true)) := by
  obtain ⟨stream,sound,parsed⟩ := readItem_eq_ok read
  have declared := variants_declared sound (whole_eq_some parsed)
  refine ⟨?_,?_,?_⟩
  · intro variant member
    obtain ⟨ident,found⟩ := declared variant member
    exact ⟨ident,found.token,found.legal,found.name_eq⟩
  · intro ident legal
    obtain ⟨spelled,written⟩ := caseIdent_legal ident legal
    refine ⟨spelled,written,fun other legal' same => ?_⟩
    rw [spelled,(caseIdent_legal other legal').1] at same
    exact (Ident.mk.inj (Except.ok.inj same)).1
  · intro settings rule rawType built synthesized
    have names := synthesizeAll_caseNames settings rule _ built synthesized
    refine ⟨?_,?_,?_⟩
    · intro body listed name called other
      have own := List.mem_of_ne_of_mem other (names body listed name called)
      exact synthesized_leadsTo settings rule item rawType built declared synthesized name own
    · intro rendered valid written body listed name called
      exact rendered_leadsTo settings rule item rawType built declared synthesized rendered valid written
        name (names body listed name called)
    · have taken := takes_of_synthesizeAll settings rule _ built synthesized
      obtain ⟨again,_,same,_,renderable⟩ := synthesizeAll_of_takes settings rule _ taken
      obtain rfl := Except.ok.inj (synthesized.symm.trans same)
      rw [enum_isOk,Bool.and_eq_true,renderable,List.forall_mem_cons]
      have own := isWritable_caseNames item declared
      constructor
      · rintro ⟨path,⟨fallback,_⟩,target⟩
        exact ⟨path,fallback,target⟩
      · rintro ⟨path,fallback,target⟩
        exact ⟨path,⟨fallback,own⟩,target⟩

def Grammar.Item.elements? : Item → Option (List CaseElement)
  | .enum item => some (item.toDecl none).elements
  | _ => none

private theorem read_elements (source : String) (elements : List CaseElement)
    (seen : (readItem source).toOption.bind Item.elements? = some elements) :
    ∃ item, readItem source = .ok (.enum item) ∧ (item.toDecl none).elements = elements := by
  cases read : readItem source with
  | error error => simp [read,Except.toOption] at seen
  | ok found =>
    rw [read] at seen
    cases found with
    | enum item => exact ⟨item,rfl,Option.some.inj seen⟩
    | declared | module | foreign | other => cases seen

/-- The name of a raw identifier is written raw only where it has to be. -/
theorem case_paths_name_variants_raw :
    ∃ item built, readItem "enum Kind \x7b r#type, r#Plain \x7d" = .ok (.enum item) ∧
      Rule.nullableEnum.synthesizeAll {} (.decl (item.toDecl none)) = .ok built ∧
      (∃ variant, LeadsTo item.ownVariants "type" variant) ∧
      (∃ variant, LeadsTo item.ownVariants "Plain" variant) ∧
      caseIdent "type" = .ok ⟨"type",true⟩ ∧ caseIdent "Plain" = .ok ⟨"Plain",false⟩ := by
  obtain ⟨item,read,elements⟩ := read_elements "enum Kind \x7b r#type, r#Plain \x7d"
    [⟨"type",none,false⟩,⟨"Plain",none,false⟩] (by decide +kernel)
  have admitted : (Node.decl (item.toDecl none)).Admits "Unknown" :=
    ⟨⟨⟨_,rfl,rfl⟩,by simp [Node.elements,elements],by simp [Node.elements,elements]⟩,
      by simp [Node.elements,elements]⟩
  have synthesized := (synthesizeAll_nullable_eq_ok_iff {} _ _).mpr ⟨admitted,rfl⟩
  obtain ⟨_,spelled,each⟩ := case_paths_name_variants _ item read
  obtain ⟨leads,_⟩ := each {} .nullableEnum none _ synthesized
  have found (name : String) (listed : name ∈ ["type","Plain"]) (other : name ≠ "Unknown") :
      ∃ variant, LeadsTo item.ownVariants name variant := by
    refine leads _ (List.mem_singleton_self _) name ?_ other
    rw [mem_caseNames_nameLookup]
    simpa [Node.elements,elements] using Or.inr listed
  exact ⟨item,_,read,synthesized,found "type" (by decide) (by decide),
    found "Plain" (by decide) (by decide),(spelled ⟨"type",true⟩ (by decide)).1,
    (spelled ⟨"Plain",true⟩ (by decide)).1⟩

end CaseSynthesis
