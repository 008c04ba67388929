import CaseSynthesis.Proofs.Parallel.Expr

/-! Items, read side by side. They only occur in groups, where both runs fail together. -/

namespace CaseSynthesis.Grammar

open CaseSynthesis.Grammar.Parser

section

variable {α β : Type} {c : Comparison} {limit : Nat} {stage : Stage} {grip wanted : Grip}
  {R : α → β → Prop} {rules rules' : Rules} {first second : Lexemes}

/-! Looking ahead with a parser. -/

/-- In a group one run succeeds exactly if the other does. -/
private theorem Parallel.isSome_eq {p : Parser α} {q : Parser β}
    (run : Parallel c limit .grouped stage grip R p q) (state : c.State .grouped first second)
    (bound : c.compared → c.Live .grouped first second → second.length < stage.bound limit)
    (compared : c.compared) : (p first).isSome = (q second).isSome := by
  obtain ⟨ran,failed⟩ := run first second state bound
  cases read : p first with
  | none =>
    rw [failed compared rfl read]
    rfl
  | some result =>
    obtain ⟨b,left,reached,_,_,same⟩ := ran result.1 result.2 read
    rw [same compared reached.live_of_grouped]
    rfl

private theorem Parallel.tried {γ δ : Type} {Q : γ → δ → Prop} {p : Parser α} {q : Parser β}
    {yes no : Parser γ} {yes' no' : Parser δ}
    (run : Parallel c limit .grouped stage grip R p q)
    (one : Parallel c limit .grouped stage wanted Q yes yes')
    (two : Parallel c limit .grouped stage wanted Q no no') :
    Parallel c limit .grouped stage wanted Q
      (ahead p >>= fun tried => if tried.isSome = true then yes else no)
      (ahead q >>= fun tried => if tried.isSome = true then yes' else no') := by
  intro first second state bound
  have choice : ParallelAt c .grouped wanted Q first second
      (if (p first).isSome = true then yes else no)
      (if (p first).isSome = true then yes' else no') :=
    Parallel.ifBool rfl one two first second state bound
  refine .congr state ?_ (fun compared _ => ?_) choice
  · change (if ((p first).map Prod.fst).isSome = true then yes else no) first = _
    rw [Option.isSome_map]
  · change (if ((q second).map Prod.fst).isSome = true then yes' else no') second = _
    rw [Option.isSome_map,run.isSome_eq state bound compared]

def View.after (phrase : Parser α) (view : View) : View := fun input =>
  match phrase input with
  | some (_,rest) => view rest
  | none => false

theorem after_eq {p : Parser α} {view : View} {R : α → α → Prop}
    (run : Parallel c limit .grouped stage grip R p p) (steady : Steady c .grouped view)
    (state : c.State .grouped first second)
    (bound : c.compared → c.Live .grouped first second → second.length < stage.bound limit)
    (compared : c.compared) : View.after p view first = View.after p view second := by
  obtain ⟨ran,failed⟩ := run first second state bound
  unfold View.after
  cases read : p first with
  | none => rw [failed compared rfl read]
  | some result =>
    obtain ⟨b,left,reached,_,_,same⟩ := ran result.1 result.2 read
    rw [same compared reached.live_of_grouped]
    exact steady _ _ compared reached.sound reached.live_of_grouped

theorem Parallel.peekAfter {γ δ : Type} {Q : γ → δ → Prop} {p : Parser α} {view : View}
    {R : α → α → Prop} {yes no : Parser γ} {yes' no' : Parser δ}
    (run : Parallel c limit .grouped stage grip R p p) (steady : Steady c .grouped view)
    (one : Parallel c limit .grouped stage wanted Q yes yes')
    (two : Parallel c limit .grouped stage wanted Q no no') :
    Parallel c limit .grouped stage wanted Q
      (Parser.peek (View.after p view) >>= fun seen => if seen = true then yes else no)
      (Parser.peek (View.after p view) >>= fun seen => if seen = true then yes' else no') :=
  fun first second state bound =>
    .look (fun compared _ => after_eq run steady state bound compared) state
      (Parallel.ifBool rfl one two first second state bound)

theorem opensFunction_eq (safe : Bool) :
    opensFunction safe = View.after (functionModifiers safe) (.keyword "fn") := by
  funext input
  unfold opensFunction View.after
  cases functionModifiers safe input <;> rfl

/-! Phrases after their attributes. -/

theorem parallel_semicolon {place : Place} :
    Parallel c limit place stage .solid (Kin c) semicolon semicolon := .punct ";" rfl

theorem parallel_attributed (rule : RulesKin c limit rules rules') {p q : Parser (Option Lexemes)}
    (run : Parallel c limit .grouped stage .solid (Option.Rel (Kin c)) p q) :
    Parallel c limit .grouped stage .solid (Kin c) (attributed rules p) (attributed rules' q) := by
  refine .getAt fun before before' state bound => ?_
  refine (parallel_attributeTokens rule).bindAt state bound
    fun attributes attributes' _ _ kin reached bound taken => ?_
  refine run.bindAt reached bound fun read read' rest left related reached bound more => ?_
  have taken : c.Taken .firm before rest := taken.trans more
  cases related with
  | some kin' => exact .pure reached ⟨_,kin.append kin',fun _ _ => rfl⟩
  | none => exact .since state reached taken fun _ _ kin => kin

@[simp] theorem Blind.opensItemMacro : Blind c opensItemMacro := .any (by simp)

/-! Functions. -/

theorem parallel_functionModifiers {place : Place} (safe : Bool) :
    Parallel c limit place stage .firm (Kin c) (functionModifiers safe) (functionModifiers safe) := by
  refine .bind (.optionalKeyword "const") fun constant constant' kin => ?_
  refine .bind (.optionalKeyword "async") fun async async' kin' => ?_
  refine .peek (.keyword "safe") fun ahead => ?_
  refine .eitherIf rfl (.weaken (.keyword "safe")) (.optionalKeyword "unsafe")
    fun safety safety' kin'' => ?_
  exact .bind parallel_abi fun abi abi' kin''' =>
    .pure (((kin.append kin').append kin'').append kin''')

private theorem parallel_receiver {place : Place} (core : RulesCore c limit rules rules') :
    Parallel c limit place stage .solid (Kin c) (receiver rules) (receiver rules') := by
  refine .bind (.optionally (.punct "&" rfl) ?_) fun reference reference' kin => ?_
  · refine .bind (.punct "&" rfl) fun ampersand ampersand' mark => ?_
    exact .bind (.optionally .lifetime .lifetime) fun lifetime lifetime' kin =>
      .pure (mark.append kin)
  refine .bind (.optionalKeyword "mut") fun mutable mutable' kin' => ?_
  refine .bind (.keyword "self") fun name name' kin'' => ?_
  refine .eitherIf kin.isEmpty (.optionally (.punct ":" rfl) ?_) (.value .nil)
    fun type type' typed => .pure (((kin.append kin').append kin'').append typed)
  refine .bind (.punct ":" rfl) fun colon colon' mark => ?_
  exact .bind (core.type _ true) fun type type' typed => .pure (mark.append typed.tokens)

private theorem kin_unnamed (span span' : Span) :
    Kin c [⟨.ident ⟨"_",false⟩,span⟩,⟨.punct ':' false,span⟩]
      [⟨.ident ⟨"_",false⟩,span'⟩,⟨.punct ':' false,span'⟩] := by
  have name : (Token.ident ⟨"_",false⟩).Legible := ⟨rfl,nofun⟩
  have colon : (Token.punct ':' false).Legible := ⟨rfl,by decide⟩
  exact (kin_token name rfl span span').append (kin_token colon rfl span span')

private theorem parallel_parameter (rule : RulesKin c limit rules rules') :
    Parallel c limit .grouped .later .solid (Tagged c) (parameter rules) (parameter rules') := by
  have core := rule.toRulesCore
  refine .bind (parallel_attributeTokens rule) fun attributes attributes' kin => ?_
  refine .peekIf (.punct "..." rfl) ?variadic (.tried (parallel_receiver core) ?receiver
    (.peekIf (.led (by simp) (by simp) (by simp)) ?unnamed ?named))
  case variadic =>
    exact .bind (.punct "..." rfl) fun dots dots' mark => .pure ⟨rfl,kin.append mark⟩
  case receiver =>
    exact .bind (parallel_receiver core) fun name name' kin' => .pure ⟨rfl,kin.append kin'⟩
  case unnamed =>
    refine .bind (core.type _ true) fun type type' typed => .pure ⟨rfl,kin.append ?_⟩
    exact (kin_unnamed _ _).append typed.tokens
  case named =>
    refine .bind (core.pattern _) fun pattern pattern' kin' => ?_
    refine .bind (.punct ":" rfl) fun colon colon' mark => ?_
    have before := (kin.append kin'.tokens).append mark
    refine .peekIf (.punct "..." rfl) ?_ ?_
    · exact .bind (.punct "..." rfl) fun dots dots' mark => .pure ⟨rfl,before.append mark⟩
    · exact .bind (core.type _ true) fun type type' typed => .pure ⟨rfl,before.append typed.tokens⟩

private theorem parallel_parameters (rule : RulesKin c limit rules rules') :
    Parallel c limit .grouped .later .loose (Kin c) (parameters rules) (parameters rules') := by
  refine .loop (fun tokens tokens' kin => ?_) .nil
  refine .peekIfIn (.atEnd nofun) (.pure ⟨kin,rfl⟩) (.bind (parallel_parameter rule) ?_)
  rintro ⟨kind,parameter⟩ ⟨kind',parameter'⟩ ⟨same,kin'⟩
  obtain rfl : kind = kind' := same
  refine .bind (.require (by rw [kin.isEmpty])) fun _ _ _ => ?_
  refine .peekIfIn (.atEnd nofun) (.pure ⟨kin.append kin',rfl⟩) ?_
  exact .bind .comma fun comma comma' mark => .pure ⟨(kin.append kin').append mark,rfl⟩

structure SignatureKin (c : Comparison) (signature other : Signature) : Prop where
  modifiers : Kin c signature.modifiers other.modifiers
  name : Kin c [signature.name] [other.name]
  tokens : Kin c signature.tokens other.tokens

private theorem SignatureKin.isSafe {signature other : Signature} (kin : SignatureKin c signature other) :
    signature.isSafe = other.isSafe := by
  have alike := kin.modifiers.alike
  unfold Signature.isSafe
  generalize signature.modifiers = modifiers at alike
  generalize other.modifiers = modifiers' at alike
  induction alike with
  | nil => rfl
  | @cons lexeme other _ _ resembles _ ih =>
    rw [List.any_cons,List.any_cons,ih]
    rcases resembles with same | ⟨_,sign,one,two⟩
    · rw [same]
    · rw [one,two]
      rfl

theorem parallel_signature (rule : RulesKin c limit rules rules') (safe : Bool) :
    Parallel c limit .grouped stage .begun (SignatureKin c) (signature rules safe)
      (signature rules' safe) := by
  refine .bind (parallel_functionModifiers safe) fun modifiers modifiers' kin => ?_
  refine .bind (.keyword "fn") fun keyword keyword' kin' => ?_
  refine .bind (.take .ident .ident) fun name name' named => ?_
  refine .bind (parallel_generics rule) fun generics generics' kin'' => ?_
  refine .bind (.group .parenthesis (parallel_parameters rule)) fun inputs inputs' given => ?_
  refine .bind (parallel_returnType rule.toRulesCore true) ?_
  rintro ⟨extensible,output⟩ ⟨extensible',output'⟩ ⟨_,typed⟩
  refine .bind (parallel_whereClause rule nofun) fun clause clause' bounded => .pure ⟨kin,named,?_⟩
  have tokens := ((((((kin.append kin').append named).append kin'').append given).append typed).append
    bounded)
  simpa using tokens

/-! What an item is made of. -/

private theorem kin_filtered {attributes attributes' : List Attribute}
    (each : List.Forall₂ (AttributeKin c) attributes attributes') (keep : Bool → Bool) :
    Kin c ((attributes.filter fun attr => keep attr.inner).flatMap Attribute.tokens)
      ((attributes'.filter fun attr => keep attr.inner).flatMap Attribute.tokens) := by
  refine kin_attributes ?_
  induction each with
  | nil => exact .nil
  | @cons attr other _ _ kin _ ih =>
    rw [List.filter_cons,List.filter_cons,kin.inner]
    split
    · exact .cons kin ih
    · exact ih

private theorem kin_outerTokens {attributes attributes' : List Attribute}
    (each : List.Forall₂ (AttributeKin c) attributes attributes') :
    Kin c (Attribute.outerTokens attributes) (Attribute.outerTokens attributes') :=
  kin_filtered each (!·)

private theorem kin_innerTokens {attributes attributes' : List Attribute}
    (each : List.Forall₂ (AttributeKin c) attributes attributes') :
    Kin c (Attribute.innerTokens attributes) (Attribute.innerTokens attributes') :=
  kin_filtered each id

def Frames (c : Comparison) (before after before' after' : Lexemes) : Prop :=
  ∀ inner inner', Kin c inner inner' → Kin c (before ++ inner ++ after) (before' ++ inner' ++ after')

theorem Frames.after {before after before' after' head head' : Lexemes}
    (frames : Frames c before after before' after') (kin : Kin c head head') :
    Frames c (head ++ before) after (head' ++ before') after' := by
  intro inner inner' kin'
  simpa using kin.append (frames inner inner' kin')

private theorem Frames.plain {head head' : Lexemes} (kin : Kin c head head') : Frames c head [] head' [] := by
  intro inner inner' kin'
  simpa using kin.append kin'

namespace ItemKin

theorem other {tokens tokens' : Lexemes} (kin : Kin c tokens tokens') :
    ItemKin c (.other tokens) (.other tokens') :=
  fun _ _ each => (kin_attributes each).append kin

private theorem framed {attributes attributes' own own' : List Attribute} {head tail head' tail' : Lexemes}
    (each : List.Forall₂ (AttributeKin c) own own') (frames : Frames c head tail head' tail')
    (others : List.Forall₂ (AttributeKin c) attributes attributes') :
    Kin c (Attribute.outerTokens (attributes ++ own) ++ head ++
        Attribute.innerTokens (attributes ++ own) ++ tail)
      (Attribute.outerTokens (attributes' ++ own') ++ head' ++
        Attribute.innerTokens (attributes' ++ own') ++ tail') := by
  have all := List.rel_append others each
  have whole := (kin_outerTokens all).append (frames _ _ (kin_innerTokens all))
  simpa using whole

theorem declared (kind : ItemKind) (name name' : Lexemes) {own own' : List Attribute}
    {head tail head' tail' : Lexemes} (each : List.Forall₂ (AttributeKin c) own own')
    (frames : Frames c head tail head' tail') :
    ItemKin c (.declared kind own name head tail) (.declared kind own' name' head' tail') :=
  fun _ _ others => framed each frames others

theorem plain (kind : ItemKind) (name name' : Lexemes) {head head' : Lexemes}
    (kin : Kin c head head') :
    ItemKin c (.declared kind [] name head []) (.declared kind [] name' head' []) :=
  declared kind name name' .nil (.plain kin)

private theorem foreign {own own' : List Attribute} {head tail head' tail' : Lexemes}
    (each : List.Forall₂ (AttributeKin c) own own') (frames : Frames c head tail head' tail') :
    ItemKin c (.foreign own head tail) (.foreign own' head' tail') :=
  fun _ _ others => framed each frames others

theorem tokens {item other : Item} (kin : ItemKin c item other) :
    Kin c item.tokens other.tokens := by
  have none := kin [] [] .nil
  have plain (item : Item) : (item.addAttributes []).tokens = item.tokens := by
    cases item <;> rfl
  rwa [plain,plain] at none

theorem addAttributes {item other : Item} {attributes attributes' : List Attribute}
    (kin : ItemKin c item other) (each : List.Forall₂ (AttributeKin c) attributes attributes') :
    ItemKin c (item.addAttributes attributes) (other.addAttributes attributes') := by
  have twice (item : Item) (more attributes : List Attribute) :
      ((item.addAttributes attributes).addAttributes more).tokens =
        (item.addAttributes (more ++ attributes)).tokens := by
    cases item <;> simp [Item.addAttributes,Item.tokens]
  intro more more' others
  rw [twice,twice]
  exact kin _ _ (List.rel_append others each)

private theorem tokensAll {items others : List Item} (each : List.Forall₂ (ItemKin c) items others) :
    Kin c (Item.tokensAll items) (Item.tokensAll others) := by
  induction each with
  | nil => exact .nil
  | cons head _ ih => exact head.tokens.append ih

theorem module {own own' : List Attribute} {head tail head' tail' : Lexemes} {items items' : List Item}
    {name name' : Lexeme} (each : List.Forall₂ (AttributeKin c) own own')
    (inside : List.Forall₂ (ItemKin c) items items') (frames : Frames c head tail head' tail') :
    ItemKin c (.module own name head items tail) (.module own' name' head' items' tail') := by
  intro attributes attributes' others
  have all := List.rel_append others each
  have inner := (kin_innerTokens all).append (tokensAll inside)
  have whole := (kin_outerTokens all).append (frames _ _ inner)
  simpa [Item.addAttributes,Item.tokens] using whole

end ItemKin

def BodyKin (c : Comparison) (body other : Lexemes × List Attribute × Lexemes) : Prop :=
  List.Forall₂ (AttributeKin c) body.2.1 other.2.1 ∧ Frames c body.1 body.2.2 other.1 other.2.2

theorem parallel_body (rule : RulesKin c limit rules rules') {p q : Parser Lexemes}
    (run : Parallel c limit .grouped .later .loose (Kin c) p q) :
    Parallel c limit .grouped stage .solid (BodyKin c) (body rules p) (body rules' q) := by
  refine .bind (.enclosed .brace (?inside : Parallel _ _ _ _ _ (fun read read' =>
    List.Forall₂ (AttributeKin c) read.1 read'.1 ∧ Kin c read.2 read'.2) _ _)) ?_
  case inside =>
    refine .bind (parallel_innerAttributes rule) fun attributes attributes' each => ?_
    exact .bind run fun tokens tokens' kin => .pure ⟨each,kin⟩
  rintro _ _ ⟨⟨each,kin⟩,opening,closing,opening',closing'⟩
  refine .pure ⟨each,fun inner inner' kin' => ?_⟩
  simpa using (kin'.append kin).wrap .brace opening closing opening' closing'

theorem parallel_functionItem (rule : RulesKin c limit rules rules') :
    Parallel c limit .grouped stage .solid (Option.Rel (ItemKin c)) (functionItem rules)
      (functionItem rules') := by
  refine .bind parallel_visibility fun visibility visibility' kin => ?_
  refine .bind (parallel_signature rule false) fun signature signature' kin' => ?_
  refine .peekIf (.punct ";" rfl) ?_ ?_
  · exact .bind parallel_semicolon fun _ _ _ => .pure .none
  · refine .bind (parallel_body rule rule.statements.loosen) ?_
    rintro ⟨opening,attributes,tail⟩ ⟨opening',attributes',tail'⟩ ⟨each,frames⟩
    exact .pure (.some (.declared _ _ _ each (frames.after (kin.append kin'.tokens))))

theorem parallel_itemMacro (named : Bool) :
    Parallel c limit .grouped stage .solid (Kin c) (itemMacro named) (itemMacro named) := by
  refine .bind parallel_plainPath fun path path' kin => ?_
  refine .bind (.punct "!" rfl) fun bang bang' mark => ?_
  have word : Blind c (.any [.ident,.keyword "try"]) := .any (by simp)
  refine .eitherIf rfl (.optionally word .word) (.value .nil) fun name name' kin' => ?_
  refine .peek (.opening .brace) fun braced => ?_
  refine .bind .anyGroup fun call call' kin'' => ?_
  refine .eitherIf rfl (.value .nil) parallel_semicolon.weaken fun mark' mark'' last => ?_
  exact .pure ((((kin.tokens.toKin.append mark).append kin').append kin'').append last)

private theorem parallel_staticHead :
    Parallel c limit .grouped stage .solid
      (fun read read' => Kin c [read.1] [read'.1] ∧ Kin c read.2 read'.2) staticHead staticHead := by
  refine .bind (.keyword "static") fun keyword keyword' kin => ?_
  refine .bind (.optionalKeyword "mut") fun mutable mutable' kin' => ?_
  exact .bind (.take .ident .ident) fun name name' named =>
    .pure ⟨named,(kin.append kin').append named⟩

private theorem parallel_optionalValue (core : RulesCore c limit rules rules') :
    Parallel c limit .grouped stage .firm (Kin c) (optionalValue rules) (optionalValue rules') := by
  refine .optionally (.punct "=" rfl) (.bind (.punct "=" rfl) fun equals equals' mark => ?_)
  exact .bind (core.expr _ true) fun value value' kin => .pure (mark.append kin.tokens)

private theorem parallel_annotatedType (core : RulesCore c limit rules rules') :
    Parallel c limit .grouped stage .firm (Kin c)
      (optionally (.punct ":") do return (← punct ":") ++ (← rules.type true).tokens)
      (optionally (.punct ":") do return (← punct ":") ++ (← rules'.type true).tokens) := by
  refine .optionally (.punct ":" rfl) (.bind (.punct ":" rfl) fun colon colon' mark => ?_)
  exact .bind (core.type _ true) fun type type' typed => .pure (mark.append typed.tokens)

theorem parallel_staticItem (core : RulesCore c limit rules rules') :
    Parallel c limit .grouped stage .solid (Option.Rel (ItemKin c)) (staticItem rules)
      (staticItem rules') := by
  refine .bind parallel_visibility fun visibility visibility' kin => ?_
  refine .bind parallel_staticHead ?_
  rintro ⟨name,head⟩ ⟨name',head'⟩ ⟨named,kin'⟩
  refine .bind (parallel_annotatedType core) fun type type' typed => ?_
  refine .bind (parallel_optionalValue core) fun value value' kin'' => ?_
  refine .bind parallel_semicolon fun mark mark' last => ?_
  rw [typed.isEmpty,kin''.isEmpty]
  refine .ifBool rfl (.bind (.require rfl) fun _ _ _ => .pure .none) (.pure (.some ?_))
  exact .plain _ _ _ ((((kin.append kin').append typed).append kin'').append last)

structure ConstantKin (c : Comparison) (declaration other : ConstantDeclaration) : Prop where
  name : Kin c [declaration.name] [other.name]
  generic : declaration.generic = other.generic
  hasValue : declaration.hasValue = other.hasValue
  tokens : Kin c declaration.tokens other.tokens

theorem Plain.opensName : Plain opensName := .any (by simp)

theorem parallel_constantDeclaration (rule : RulesKin c limit rules rules') :
    Parallel c limit .grouped stage .solid (ConstantKin c) (constantDeclaration rules)
      (constantDeclaration rules') := by
  refine .bind (.keyword "const") fun keyword keyword' kin => ?_
  refine .bind (.take .opensName .opensName) fun name name' named => ?_
  refine .peek (.punct "<" rfl) fun angled => ?_
  refine .bind (parallel_generics rule) fun generics generics' kin' => ?_
  refine .bind (.punct ":" rfl) fun colon colon' mark => ?_
  refine .bind (rule.type _ true) fun type type' typed => ?_
  refine .bind (parallel_optionalValue rule.toRulesCore) fun value value' kin'' => ?_
  refine .peek (.keyword "where") fun qualified => ?_
  refine .bind (parallel_whereClause rule nofun) fun clause clause' bounded => ?_
  refine .bind parallel_semicolon fun mark' mark'' last => ?_
  refine .pure ⟨named,rfl,congrArg (!·) kin''.isEmpty,?_⟩
  have tokens := ((((((kin.append named).append kin').append mark).append typed.tokens).append
    kin'').append bounded).append last
  simpa using tokens

theorem parallel_constantItem (rule : RulesKin c limit rules rules') :
    Parallel c limit .grouped stage .solid (Option.Rel (ItemKin c)) (constantItem rules)
      (constantItem rules') := by
  refine .bind parallel_visibility fun visibility visibility' kin => ?_
  refine .bind (parallel_constantDeclaration rule) fun declaration declaration' kin' => ?_
  refine .ifBool (by rw [kin'.generic,kin'.hasValue]) (.pure .none) (.pure (.some ?_))
  exact .plain _ _ _ (kin.append kin'.tokens)

structure AliasKin (c : Comparison) (declaration other : AliasDeclaration) : Prop where
  name : Kin c [declaration.name] [other.name]
  hasColon : declaration.hasColon = other.hasColon
  hasDefinition : declaration.hasDefinition = other.hasDefinition
  tokens : Kin c declaration.tokens other.tokens

/-- Bounds after a colon, which go with them when there are none. -/
theorem parallel_introducedBounds (rule : RulesKin c limit rules rules') {stop : View}
    (steady : Steady c .grouped stop) :
    Parallel c limit .grouped stage .loose (Kin c)
      (optionally (.punct ":") do
        let colon ← punct ":"
        let bounds ← separated stop "+" (bound rules false true)
        return introduced colon (boundTokens bounds))
      (optionally (.punct ":") do
        let colon ← punct ":"
        let bounds ← separated stop "+" (bound rules' false true)
        return introduced colon (boundTokens bounds)) := by
  refine .peekIf (.punct ":" rfl) ?_ (.pure .nil)
  refine .bind (.punct ":" rfl) fun colon colon' mark => ?_
  refine .bind (.separated steady (parallel_bound rule false true).loosen
    fun _ => (Parallel.punct "+" rfl).loosen) fun bounds bounds' each => ?_
  exact .pure (kin_introduced mark (kin_boundTokens each))

theorem parallel_aliasDeclaration (rule : RulesKin c limit rules rules') (place : ClausePlace) :
    Parallel c limit .grouped stage .solid (AliasKin c) (aliasDeclaration rules place)
      (aliasDeclaration rules' place) := by
  refine .bind (.keyword "type") fun keyword keyword' kin => ?_
  refine .bind (.take .ident .ident) fun name name' named => ?_
  refine .bind (parallel_generics rule) fun generics generics' kin' => ?_
  refine .peek (.punct ":" rfl) fun hasColon => ?_
  refine .bind (parallel_introducedBounds rule (.any (by simp [Blind.steady])))
    fun bounds bounds' kin'' => ?_
  refine .peek (.keyword "where") fun early => ?_
  refine .eitherIf rfl (parallel_whereClause rule nofun) (.pure .nil) fun before before' first => ?_
  refine .bind (.optionally (.punct "=" rfl) (.bind (.punct "=" rfl) fun equals equals' mark =>
    .bind (rule.type _ true) fun type type' typed => .pure (mark.append typed.tokens)))
    fun definition definition' given => ?_
  refine .eitherIf rfl (parallel_whereClause rule nofun) (.pure .nil) fun after after' second => ?_
  refine .bind parallel_semicolon fun mark mark' last => ?_
  refine .pure ⟨named,rfl,congrArg (!·) given.isEmpty,?_⟩
  have tokens := ((((((kin.append named).append kin').append kin'').append first).append
    given).append second).append last
  simpa using tokens

theorem parallel_aliasItem (rule : RulesKin c limit rules rules') :
    Parallel c limit .grouped stage .solid (Option.Rel (ItemKin c)) (aliasItem rules)
      (aliasItem rules') := by
  refine .bind parallel_visibility fun visibility visibility' kin => ?_
  refine .bind (parallel_aliasDeclaration rule _) fun declaration declaration' kin' => ?_
  refine .ifBool (by rw [kin'.hasColon,kin'.hasDefinition]) (.pure .none) (.pure (.some ?_))
  exact .plain _ _ _ (kin.append kin'.tokens)

private theorem parallel_rename :
    Parallel c limit .grouped stage .firm (Kin c)
      (optionally (.keyword "as") do return (← keyword "as") ++ (← nextIf opensName))
      (optionally (.keyword "as") do return (← keyword "as") ++ (← nextIf opensName)) := by
  refine .optionally (.keyword "as") (.bind (.keyword "as") fun keyword keyword' kin => ?_)
  exact .bind (.nextIf .opensName .opensName) fun name name' kin' => .pure (kin.append kin')

theorem parallel_externCrate :
    Parallel c limit .grouped stage .solid (ItemKin c) externCrate externCrate := by
  refine .bind parallel_visibility fun visibility visibility' kin => ?_
  refine .bind (.keyword "extern") fun word word' kin' => ?_
  refine .bind (.keyword "crate") fun crate crate' kin'' => ?_
  refine .either (.keyword "self") (.keyword "self") .ident fun name name' named => ?_
  refine .bind parallel_rename fun rename rename' renamed => ?_
  refine .bind parallel_semicolon fun mark mark' last => .pure (.other ?_)
  exact (((kin.append (kin'.append kin'')).append named).append renamed).append last

/-! Foreign items and imports. -/

theorem parallel_method (rule : RulesKin c limit rules rules') {head head' : Lexemes}
    (kin : Kin c head head') :
    Parallel c limit .grouped stage .solid (Kin c) (method rules head) (method rules' head') := by
  refine .bind (parallel_body rule rule.statements.loosen) ?_
  rintro ⟨opening,attributes,tail⟩ ⟨opening',attributes',tail'⟩ ⟨each,frames⟩
  exact .pure (frames.after kin _ _ (kin_attributes each))

private theorem Blind.opensForeignStatic : Blind c opensForeignStatic := by
  have safety : Blind c (.any [.keyword "unsafe",.keyword "safe"]) := .any (by simp)
  have guarded : Blind c (.all [.any [.keyword "unsafe",.keyword "safe"],
    .second (.keyword "static")]) := .led safety (.any (by simp)) (by simp)
  exact .any (by simp [guarded])

/-- A phrase that has a form under the same condition in both runs. -/
theorem rel_when {formed other : Bool} {a : α} {b : β} (same : formed = other) (related : R a b) :
    Option.Rel R (if formed = true then some a else none) (if other = true then some b else none) := by
  subst same
  cases formed with
  | true => exact .some related
  | false => exact .none

theorem rel_unless {kept other : Bool} {a : α} {b : β} (same : kept = other) (related : R a b) :
    Option.Rel R (if kept = true then none else some a) (if other = true then none else some b) := by
  subst same
  cases kept with
  | true => exact .none
  | false => exact .some related

private theorem parallel_foreignItem (rule : RulesKin c limit rules rules') :
    Parallel c limit .grouped stage .solid (Kin c) (foreignItem rules) (foreignItem rules') := by
  have core := rule.toRulesCore
  have safety : Blind c (.any [.keyword "unsafe",.keyword "safe"]) := .any (by simp)
  refine parallel_attributed rule (.bind parallel_visibility fun visibility visibility' kin => ?_)
  rw [opensFunction_eq]
  refine .peekAfter (parallel_functionModifiers true) (Blind.keyword "fn").steady ?function
    (.peekIf .opensForeignStatic ?static (.peekIf (.keyword "type") ?typeAlias
      (.peek .opensItemMacro fun ahead => ?call)))
  case function =>
    refine .bind (parallel_signature rule true) fun signature signature' kin' => ?_
    refine .peekIf (.opening .brace) (.bind (parallel_method rule .nil) fun _ _ _ => .pure .none) ?_
    refine .bind parallel_semicolon fun mark mark' last => .pure (rel_unless kin'.isSafe ?_)
    exact (kin.append kin'.tokens).append last
  case static =>
    refine .bind (.optionally safety .word) fun safety safety' kin' => ?_
    refine .bind parallel_staticHead ?_
    rintro ⟨name,static⟩ ⟨name',static'⟩ ⟨_,kin''⟩
    refine .bind (.punct ":" rfl) fun colon colon' mark => ?_
    refine .bind (core.type _ true) fun type type' typed => ?_
    refine .bind (parallel_optionalValue core) fun value value' given => ?_
    refine .bind parallel_semicolon fun mark' mark'' last => .pure ?_
    have tokens := (((kin.append kin'').append mark).append typed.tokens).append last
    exact rel_when (by rw [kin'.isEmpty,given.isEmpty]) tokens
  case typeAlias =>
    refine .bind (parallel_aliasDeclaration rule _) fun declaration declaration' kin' => .pure ?_
    exact rel_unless (by rw [kin'.hasColon,kin'.hasDefinition]) (kin.append kin'.tokens)
  case call =>
    refine .bind (.require (by rw [kin.isEmpty])) fun _ _ _ => ?_
    exact .bind (parallel_itemMacro false) fun call call' kin' => .pure (.some kin')

theorem parallel_members {p q : Parser Lexemes}
    (run : Parallel c limit .grouped .later .solid (Kin c) p q) :
    Parallel c limit .grouped .later .loose (Kin c)
      (do return (← many (fun input => !View.atEnd input) p).flatten)
      (do return (← many (fun input => !View.atEnd input) q).flatten) :=
  .bind (.many (.not (.atEnd nofun)) run.loosen) fun _ _ each => .pure (.flatten each)

theorem parallel_foreignBlock (rule : RulesKin c limit rules rules') :
    Parallel c limit .grouped stage .solid (ItemKin c) (foreignBlock rules)
      (foreignBlock rules') := by
  refine .bind (.optionalKeyword "unsafe") fun unsafety unsafety' kin => ?_
  refine .peek (.keyword "extern") fun ahead => .bind (.require rfl) fun _ _ _ => ?_
  refine .bind parallel_abi fun abi abi' kin' => ?_
  refine .bind (parallel_body rule (parallel_members (parallel_foreignItem rule))) ?_
  rintro ⟨opening,attributes,tail⟩ ⟨opening',attributes',tail'⟩ ⟨each,frames⟩
  exact .pure (.foreign each (frames.after (kin.append kin')))

def TreeKin (c : Comparison) (tree other : Lexemes × Bool) : Prop :=
  Kin c tree.1 other.1 ∧ tree.2 = other.2

theorem parallel_useTree (core : RulesCore c limit rules rules') (rooted : Bool) :
    Parallel c limit .grouped stage .solid (TreeKin c) (useTree rules rooted)
      (useTree rules' rooted) := by
  refine .peekIf (.any (by simp)) ?name (.peekIf (.punct "*" rfl) ?glob ?group)
  case name =>
    refine .bind .word fun name name' kin => ?_
    refine .peekIf (.punct "::" rfl) ?_ ?_
    · refine .bind (.punct "::" rfl) fun colons colons' mark => ?_
      refine .bind (core.useTree false) ?_
      rintro ⟨tree,inner⟩ ⟨tree',inner'⟩ ⟨kin',_⟩
      exact .pure ⟨(kin.append mark).append kin',rfl⟩
    · exact .bind parallel_rename fun rename rename' kin' => .pure ⟨kin.append kin',rfl⟩
  case glob => exact .bind (.punct "*" rfl) fun star star' kin => .pure ⟨kin,rfl⟩
  case group =>
    refine .bind (.enclosed .brace (.commaSeparated
      (?tree : Parallel _ _ _ _ _ (TreeKin c) _ _))) ?_
    case tree =>
      refine .eitherIf rfl (.optionalPunct "::" rfl) (.value .nil) fun root root' kin => ?_
      simp only [kin.isEmpty]
      refine .bind (core.useTree _) ?_
      rintro ⟨tree,inner⟩ ⟨tree',inner'⟩ ⟨kin',same⟩
      obtain rfl : inner = inner' := same
      exact .pure ⟨kin.append kin',rfl⟩
    rintro _ _ ⟨each,opening,closing,opening',closing'⟩
    rename_i trees trees'
    have inner : (trees.any fun tree => tree.1.2) = trees'.any fun tree => tree.1.2 := by
      induction each with
      | nil => rfl
      | cons both _ ih => rw [List.any_cons,List.any_cons,ih,both.1.2]
    refine .pure ⟨?_,inner⟩
    exact (each.tokens fun _ _ kin => kin.1).wrap .brace opening closing opening' closing'

theorem parallel_useItem (core : RulesCore c limit rules rules') :
    Parallel c limit .grouped stage .solid (Option.Rel (ItemKin c)) (useItem rules)
      (useItem rules') := by
  refine .bind parallel_visibility fun visibility visibility' kin => ?_
  refine .bind (.keyword "use") fun keyword keyword' kin' => ?_
  refine .bind (.optionalPunct "::" rfl) fun root root' kin'' => ?_
  rw [kin''.isEmpty]
  refine .bind (parallel_useTree core _) ?_
  rintro ⟨tree,rooted⟩ ⟨tree',rooted'⟩ ⟨inner,same⟩
  refine .bind parallel_semicolon fun mark mark' last => .pure (rel_unless same (.other ?_))
  exact (((kin.append kin').append kin'').append inner).append last

end

end CaseSynthesis.Grammar
