import CaseSynthesis.Proofs.Stringified
import CaseSynthesis.Proofs.TypeShapes

/-! The types that are taken for string types. The check looks at the printed form of a type. It knows
every path to `String` or `str` and every shared reference to one, unless the lifetime of the reference
is an odd one; but it also takes whatever ends in such a path for a string type. -/

namespace CaseSynthesis.Grammar

open Codable

/-! What is to be a string type. -/

def QualifiedPath.namesString (qualified : QualifiedPath) : Bool :=
  qualified.path.last?.any fun last =>
    last.arguments.isAbsent && stringNames.any fun name => last.name.token == .ident ⟨name,false⟩

def TypeForm.namesString : TypeForm → Bool
  | .path qualified => qualified.namesString
  | .reference false (.path qualified) => qualified.namesString
  | _ => false

def TypeExpr.lifetime? (type : TypeExpr) : Option Ident :=
  match type.form, type.tokens.tokens with
  | .reference _ _, _ :: .lifetime lifetime :: _ => some lifetime
  | _, _ => none

/-! Tokens none of which is odd. -/

private theorem not_odd_of_even {tokens : Lexemes} (even : ∀ token ∈ tokens.tokens, isOdd token = false) :
    ¬ Odd tokens := by
  rintro ⟨token,member,odd⟩
  rw [even token member] at odd
  cases odd

private theorem even_of_standsAlone {tokens : List Token} (alone : StandsAlone tokens) :
    ∀ token ∈ tokens, isOdd token = false := by
  have named : ∀ name ∈ stringNames, isOdd (.ident ⟨name,false⟩) = false := by decide
  have sign (joint : Bool) : isOdd (.punct '&' joint) = false := rfl
  have mark (lifetime : Ident) : isOdd (.lifetime lifetime) = false := rfl
  obtain ⟨name,listed,rfl | ⟨joint,rfl⟩ | ⟨joint,lifetime,_,rfl⟩⟩ := alone <;>
    simp [named name listed,sign,mark]

private theorem tokens_of_absent {arguments : Arguments} (absent : arguments.isAbsent = true) :
    arguments.tokens = [] := by
  cases arguments with
  | none => rfl
  | _ => cases absent

private theorem QualifiedPath.tokens_concat {qualified : QualifiedPath} {front : List Segment} {last : Segment}
    (split : qualified.path.segments = front ++ [last]) (absent : last.arguments.isAbsent = true) :
    qualified.tokens = qualified.root ++ front.flatMap Segment.tokens ++ last.separator ++ [last.name] := by
  simp [QualifiedPath.tokens,Path.tokens,split,Segment.tokens,tokens_of_absent absent]

private theorem QualifiedPath.last_concat {qualified : QualifiedPath} {front : List Segment} {last : Segment}
    (split : qualified.path.segments = front ++ [last]) : qualified.path.last? = some last := by
  simp [Path.last?,split]

/-- A path none of whose tokens is odd is a name alone. -/
private theorem Formed.alone {qualified : QualifiedPath} (formed : Formed qualified.root qualified.path)
    (even : ∀ token ∈ qualified.tokens.tokens, isOdd token = false) :
    ∃ last, qualified.path.last? = some last ∧ last.arguments.isAbsent = true ∧
      qualified.tokens = [last.name] := by
  obtain ⟨front,last,split,placed,bare⟩ := formed
  have usual := not_odd_of_even even
  have part : qualified.tokens = (qualified.root ++ front.flatMap Segment.tokens ++ last.separator) ++
      (last.name :: last.arguments.tokens) := by
    simp [QualifiedPath.tokens,Path.tokens,split,Segment.tokens]
  have absent : last.arguments.isAbsent = true := by
    refine bare.resolve_right fun odd => usual ?_
    rw [part]
    exact (odd.right [last.name]).right _
  refine ⟨last,QualifiedPath.last_concat split,absent,?_⟩
  rcases placed with colons | ⟨rfl,root,separator⟩
  · refine absurd ?_ usual
    rw [QualifiedPath.tokens_concat split absent]
    exact ((Odd.head colons rfl).right _).left _
  · simp [QualifiedPath.tokens_concat split absent,root,separator]

/-- A path to `String` or `str` is that name, or ends in colons and that name. -/
private theorem Formed.ends {qualified : QualifiedPath} (formed : Formed qualified.root qualified.path)
    (string : qualified.namesString = true) :
    (∃ name ∈ stringNames, qualified.tokens.tokens = [.ident ⟨name,false⟩]) ∨
      EndsQualified qualified.tokens.tokens := by
  obtain ⟨front,last,split,placed,_⟩ := formed
  simp only [QualifiedPath.namesString,QualifiedPath.last_concat split,Option.any_some,Bool.and_eq_true,
    List.any_eq_true,beq_iff_eq] at string
  obtain ⟨absent,name,listed,token⟩ := string
  have whole := QualifiedPath.tokens_concat split absent
  rcases placed with colons | ⟨rfl,root,separator⟩
  · refine .inr ⟨name,listed,Lexemes.tokens (qualified.root ++ front.flatMap Segment.tokens),false,?_⟩
    have same : Lexemes.tokens [last.name] = [.ident ⟨name,false⟩] := by simp [Lexemes.tokens,token]
    rw [whole,tokens_append,tokens_append _ last.separator,colons,same]
    simp
  · refine .inl ⟨name,listed,?_⟩
    simp [whole,root,separator,Lexemes.tokens,token]

private theorem namesString_of_alone {qualified : QualifiedPath} {last : Segment} {name : String}
    (listed : name ∈ stringNames) (found : qualified.path.last? = some last)
    (absent : last.arguments.isAbsent = true) (token : last.name.token = .ident ⟨name,false⟩) :
    qualified.namesString = true := by
  simp only [QualifiedPath.namesString,found,Option.any_some,absent,Bool.true_and,List.any_eq_true]
  exact ⟨name,listed,by simp [token]⟩

/-- A type none of whose tokens is odd is a name alone or a shared reference. -/
private theorem Shaped.even {type : TypeExpr} (shaped : Shaped type) (filled : type.tokens ≠ [])
    (even : ∀ token ∈ type.tokens.tokens, isOdd token = false) :
    (∃ qualified last, type.form = .path qualified ∧ qualified.path.last? = some last ∧
      last.arguments.isAbsent = true ∧ type.tokens.tokens = [last.name.token]) ∨
    ∃ lifetime target, type.form = .reference false target.form ∧ Shaped target ∧
      (lifetime = [] ∨ ∃ name, lifetime = [.lifetime name]) ∧
      type.tokens.tokens = .punct '&' false :: lifetime ++ target.tokens.tokens := by
  have usual := not_odd_of_even even
  cases shaped with
  | @path qualified formed =>
    obtain ⟨last,found,absent,whole⟩ := formed.alone even
    exact .inl ⟨qualified,last,rfl,found,absent,by simp [whole,Lexemes.tokens]⟩
  | @reference ampersand lifetime mutability target sign named marked shaped =>
    obtain rfl : mutability = [] := marked.resolve_right fun odd => usual ((odd.right _).left _)
    refine .inr ⟨lifetime.tokens,target,rfl,shaped,named.imp (fun none => by rw [none]; rfl) id,?_⟩
    simp [tokens_append,sign]
  | other _ odd => exact (odd.elim filled usual).elim

/-- A type that is the name of a string type alone is the path of that name. -/
private theorem Shaped.named {type : TypeExpr} {name : String} (shaped : Shaped type)
    (listed : name ∈ stringNames) (whole : type.tokens.tokens = [.ident ⟨name,false⟩]) :
    ∃ qualified, type.form = .path qualified ∧ qualified.namesString = true := by
  have filled : type.tokens ≠ [] := by
    intro none
    rw [none] at whole
    cases whole
  rcases shaped.even filled (even_of_standsAlone ⟨name,listed,.inl whole⟩) with
    ⟨qualified,last,form,found,absent,single⟩ | ⟨lifetime,target,_,_,_,signed⟩
  · have token : last.name.token = .ident ⟨name,false⟩ := by
      rw [single] at whole
      exact List.singleton_inj.mp whole
    exact ⟨qualified,form,namesString_of_alone listed found absent token⟩
  · rw [signed] at whole
    cases whole

/-- A type that is a sign and more is a shared reference. -/
private theorem Shaped.signed {type : TypeExpr} {joint : Bool} {first : Token} {rest : List Token}
    (shaped : Shaped type) (whole : type.tokens.tokens = .punct '&' joint :: first :: rest)
    (even : ∀ token ∈ type.tokens.tokens, isOdd token = false) :
    ∃ lifetime target, type.form = .reference false target.form ∧ Shaped target ∧
      (lifetime = [] ∨ ∃ name, lifetime = [.lifetime name]) ∧
      lifetime ++ target.tokens.tokens = first :: rest := by
  have filled : type.tokens ≠ [] := by
    intro none
    rw [none] at whole
    cases whole
  rcases shaped.even filled even with ⟨_,last,_,_,_,single⟩ | ⟨lifetime,target,form,inner,named,signed⟩
  · simp [single] at whole
  · rw [whole] at signed
    exact ⟨lifetime,target,form,inner,named,(List.cons.inj signed).2.symm⟩

private theorem namesString_of_standsAlone {type : TypeExpr} (shaped : Shaped type)
    (alone : StandsAlone type.tokens.tokens) :
    type.form.namesString = true ∧ ∀ lifetime ∈ type.lifetime?, isPlainLifetime lifetime = true := by
  have even := even_of_standsAlone alone
  obtain ⟨name,listed,whole | ⟨joint,whole⟩ | ⟨joint,mark,plain,whole⟩⟩ := alone
  · obtain ⟨qualified,form,string⟩ := shaped.named listed whole
    simp [form,TypeForm.namesString,string,TypeExpr.lifetime?]
  · obtain ⟨lifetime,target,form,inner,named,rest⟩ := shaped.signed whole even
    rcases named with rfl | ⟨mark,rfl⟩
    · obtain ⟨qualified,formed,string⟩ := inner.named listed rest
      simp [form,formed,TypeForm.namesString,string,TypeExpr.lifetime?,whole]
    · cases rest
  · obtain ⟨lifetime,target,form,inner,named,rest⟩ := shaped.signed whole even
    rcases named with rfl | ⟨mark',rfl⟩
    · -- a type does not start with a lifetime that bounds do not follow
      rw [List.nil_append] at rest
      have filled : target.tokens ≠ [] := by
        intro none
        rw [none] at rest
        cases rest
      have inside : ∀ token ∈ target.tokens.tokens, isOdd token = false := by
        intro token member
        rw [rest] at member
        exact even token (by rw [whole]; exact List.mem_cons_of_mem _ member)
      rcases inner.even filled inside with ⟨_,_,_,_,_,single⟩ | ⟨_,_,_,_,_,signed⟩
      · simp [rest] at single
      · rw [rest] at signed
        cases signed
    · obtain ⟨rfl,sole⟩ : mark' = mark ∧ target.tokens.tokens = [.ident ⟨name,false⟩] := by
        simpa using rest
      obtain ⟨qualified,formed,string⟩ := inner.named listed sole
      simp [form,formed,TypeForm.namesString,string,TypeExpr.lifetime?,whole,plain]

private theorem endsQualified_append {tokens : List Token} (ends : EndsQualified tokens) (before : List Token) :
    EndsQualified (before ++ tokens) := by
  obtain ⟨name,listed,front,joint,rfl⟩ := ends
  exact ⟨name,listed,before ++ front,joint,(List.append_assoc ..).symm⟩

/-- A path that is the target of a type. -/
private theorem Shaped.formed {type : TypeExpr} {qualified : QualifiedPath} (shaped : Shaped type)
    (form : type.form = .path qualified) :
    Formed qualified.root qualified.path ∧ type.tokens = qualified.tokens := by
  cases shaped with
  | path formed =>
    cases form
    exact ⟨formed,rfl⟩
  | reference => cases form
  | other nameless =>
    subst form
    cases nameless

private theorem TypeForm.referent_of_namesString {mutable : Bool} {target : TypeForm}
    (string : (TypeForm.reference mutable target).namesString = true) :
    mutable = false ∧ ∃ qualified, target = .path qualified ∧ qualified.namesString = true := by
  cases mutable with
  | true => cases string
  | false =>
    cases target with
    | path qualified => exact ⟨rfl,qualified,rfl,string⟩
    | _ => cases string

private theorem ends_of_namesString {type : TypeExpr} (shaped : Shaped type)
    (string : type.form.namesString = true)
    (plain : ∀ lifetime ∈ type.lifetime?, isPlainLifetime lifetime = true) :
    StandsAlone type.tokens.tokens ∨ EndsQualified type.tokens.tokens := by
  cases shaped with
  | path formed => exact (formed.ends string).imp (fun ⟨name,listed,whole⟩ => ⟨name,listed,.inl whole⟩) id
  | @reference ampersand lifetime mutability target sign mark marked inner =>
    obtain ⟨shared,qualified,form,named⟩ := TypeForm.referent_of_namesString string
    obtain rfl : mutability = [] := by simpa using shared
    obtain ⟨formed,tokens⟩ := inner.formed form
    have whole : Lexemes.tokens (ampersand ++ lifetime ++ [] ++ target.tokens) =
        .punct '&' false :: (lifetime.tokens ++ qualified.tokens.tokens) := by
      simp [tokens_append,sign,tokens]
    rcases formed.ends named with ⟨name,listed,sole⟩ | ends
    · refine .inl ⟨name,listed,.inr ?_⟩
      rw [whole,sole]
      rcases mark with rfl | ⟨mark,marks⟩
      · exact .inl ⟨false,rfl⟩
      · rw [marks] at whole ⊢
        refine .inr ⟨false,mark,plain mark ?_,rfl⟩
        simp only [TypeExpr.lifetime?,whole,List.cons_append,Option.mem_some_iff]
    · rw [whole]
      exact .inr (endsQualified_append ends (.punct '&' false :: lifetime.tokens))
  | @other form _ nameless =>
    cases form with
    | path => cases nameless
    | reference => cases nameless
    | _ => cases string

/-- The types that are read have tokens that can be printed and read back. -/
private theorem legible_of_run {depth : Nat} {stream rest : Lexemes} {type : TypeExpr} (sound : Sound stream)
    (read : (nested depth).type true stream = some (type,rest)) :
    ∀ token ∈ type.tokens.tokens, token.Legible := by
  obtain ⟨other,_,_,_,kin,_⟩ := ((rulesCore_zero depth .alone (nested depth)).type .outside true
    stream [] (alone_state sound) False.elim).1 type rest read
  intro token member
  obtain ⟨lexeme,inside,rfl⟩ := List.mem_map.mp member
  exact kin.tokens.legible lexeme inside

private theorem parseType_run {stream : Lexemes} {type : TypeExpr} (parsed : parseType stream = some type) :
    ∃ depth, (nested depth).type true stream = some (type,[]) := by
  refine ⟨stream.length + 2,?_⟩
  unfold parseType whole at parsed
  split at parsed
  case h_1 run =>
    cases parsed
    exact run
  case h_2 => cases parsed

end CaseSynthesis.Grammar

namespace CaseSynthesis

open Grammar Codable

def judged {α : Type} (judge : TypeExpr → α) (source : String) : Option (Option α) :=
  ((Lexer.lex source).bind rawTypeOfArguments).map (Option.map judge)

/-- A type is accepted if and only if it is a path to `String` or `str`, or a shared reference to one
whose lifetime, if any, has a plain name, or ends in such a path that is qualified. -/
theorem string_type_iff {source : String} {type : TypeExpr}
    (read : (Lexer.lex source).bind rawTypeOfArguments = some (some type)) :
    isStringType type.toName = true ↔
      type.form.namesString = true ∧ (∀ lifetime ∈ type.lifetime?, isPlainLifetime lifetime = true) ∨
        EndsQualified type.tokens.tokens := by
  obtain ⟨arguments,lexed,parsed⟩ := Option.bind_eq_some_iff.mp read
  have found : parseType arguments = some type := by
    unfold rawTypeOfArguments at parsed
    split at parsed
    · cases parsed
    · simpa using parsed
  obtain ⟨depth,run⟩ := parseType_run found
  have shaped := gives_type depth true _ _ _ run
  have printed := isStringType_print_iff (legible_of_run (sound_of_lex lexed) run)
  refine printed.trans ⟨?_,?_⟩
  · exact Or.imp_left (namesString_of_standsAlone shaped)
  · rintro (⟨string,plain⟩ | ends)
    · exact ends_of_namesString shaped string plain
    · exact .inr ends

theorem string_type_iff_static : ∃ type,
    (Lexer.lex "&'static std::string::String").bind rawTypeOfArguments = some (some type) ∧
      isStringType type.toName = true ∧ (isStringType type.toName = true ↔
        type.form.namesString = true ∧ (∀ lifetime ∈ type.lifetime?, isPlainLifetime lifetime = true) ∨
          EndsQualified type.tokens.tokens) := by
  have accepted : judged (fun type => isStringType type.toName) "&'static std::string::String" =
      some (some true) := by
    decide +kernel
  obtain ⟨_,read,same⟩ := Option.map_eq_some_iff.mp accepted
  obtain ⟨type,rfl,string⟩ := Option.map_eq_some_iff.mp same
  exact ⟨type,read,string,string_type_iff read⟩

/-- A function that returns a string is accepted, and so is a mutable reference to a qualified path; a
reference whose lifetime has a raw name is not. -/
theorem function_is_string_type :
    judged (fun type => (type.form.namesString,isStringType type.toName)) "fn() -> std::string::String" =
        some (some (false,true)) ∧
      judged (fun type => (type.form.namesString,isStringType type.toName)) "&mut std::string::String" =
        some (some (false,true)) ∧
      judged (fun type => (type.form.namesString,isStringType type.toName)) "&'r#a str" =
        some (some (true,false)) := by
  decide +kernel

end CaseSynthesis
