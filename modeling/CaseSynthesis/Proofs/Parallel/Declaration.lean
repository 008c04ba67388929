import CaseSynthesis.Proofs.Parallel.Item

/-! Types, traits, implementations and modules, read side by side, and items of all kinds. -/

namespace CaseSynthesis.Grammar

open CaseSynthesis.Grammar.Parser

section

variable {c : Comparison} {limit : Nat} {stage : Stage} {rules rules' : Rules}

/-! Fields and variants. -/

private theorem Blind.opensAnonymousFields : Blind c opensAnonymousFields := by
  have braced : Blind c (.all [.keyword "union",.second (.opening .brace)]) :=
    .led (by simp) (by simp) (by simp)
  exact .any (by simp [braced])

private theorem parallel_namedField (rule : RulesKin c limit rules rules') :
    Parallel c limit .grouped stage .solid (Kin c) (namedField rules) (namedField rules') := by
  refine .bind (parallel_attributeTokens rule) fun attributes attributes' kin => ?_
  refine .bind parallel_visibility fun visibility visibility' kin' => ?_
  refine .peek (.keyword "_") fun anonymous => ?_
  refine .bind (.nextIf .opensName .opensName) fun name name' named => ?_
  refine .bind (.punct ":" rfl) fun colon colon' mark => ?_
  have before := ((kin.append kin').append named).append mark
  refine .peek .opensAnonymousFields fun ahead => .ifBool rfl ?_ ?_
  · refine .bind (.verbatim (R := Kin c) ?_) fun type type' typed => .pure (before.append typed)
    exact .bind .word fun _ _ _ => rule.fields.weaken
  · exact .bind (rule.type _ true) fun type type' typed => .pure (before.append typed.tokens)

theorem parallel_fields {place : Place} (rule : RulesKin c limit rules rules') :
    Parallel c limit place stage .solid (Kin c) (fields rules) (fields rules') :=
  .group .brace (.bind (.commaSeparated (parallel_namedField rule)) fun _ _ each => .pure each.flat)

private theorem parallel_unnamedField (rule : RulesKin c limit rules rules') :
    Parallel c limit .grouped .later .solid (Kin c) (unnamedField rules) (unnamedField rules') := by
  refine .bind (parallel_attributeTokens rule) fun attributes attributes' kin => ?_
  refine .bind parallel_visibility fun visibility visibility' kin' => ?_
  exact .bind (rule.type _ true) fun type type' typed =>
    .pure ((kin.append kin').append typed.tokens)

theorem parallel_unnamedFields {place : Place} (rule : RulesKin c limit rules rules') :
    Parallel c limit place stage .solid (Kin c) (unnamedFields rules) (unnamedFields rules') :=
  .group .parenthesis (.bind (.commaSeparated (parallel_unnamedField rule)) fun _ _ each =>
    .pure each.flat)

private theorem parallel_structItem (rule : RulesKin c limit rules rules') :
    Parallel c limit .grouped stage .solid (ItemKin c) (structItem rules) (structItem rules') := by
  refine .bind parallel_visibility fun visibility visibility' kin => ?_
  refine .bind (.keyword "struct") fun keyword keyword' kin' => ?_
  refine .bind (.take .ident .ident) fun name name' named => ?_
  refine .bind (parallel_generics rule) fun generics generics' kin'' => ?_
  refine .peek (.keyword "where") fun clause => ?_
  refine .bind (parallel_whereClause rule nofun) fun before before' bounded => ?_
  have head := (((kin.append kin').append named).append kin'').append bounded
  have finish {rest rest' : Lexemes} (last : Kin c rest rest') : ItemKin c
      (.declared .struct [] [name] (visibility ++ keyword ++ name :: generics ++ before ++ rest) [])
      (.declared .struct [] [name'] (visibility' ++ keyword' ++ name' :: generics' ++ before' ++ rest')
        []) := .plain _ _ _ (by simpa using head.append last)
  refine .peek (.opening .parenthesis) fun tupled => .peek (.opening .brace) fun braced => ?_
  refine .ifBool rfl ?_ (.ifBool rfl ?_ ?_)
  · refine .bind (parallel_unnamedFields rule) fun fields fields' kin => ?_
    refine .bind (parallel_whereClause rule nofun) fun after after' bounded => ?_
    exact .bind parallel_semicolon fun mark mark' last =>
      .pure (finish ((kin.append bounded).append last))
  · exact .bind (parallel_fields rule) fun fields fields' kin => .pure (finish kin)
  · exact .bind parallel_semicolon fun mark mark' last => .pure (finish last)

private theorem parallel_unionItem (rule : RulesKin c limit rules rules') :
    Parallel c limit .grouped stage .solid (ItemKin c) (unionItem rules) (unionItem rules') := by
  refine .bind parallel_visibility fun visibility visibility' kin => ?_
  refine .bind (.keyword "union") fun keyword keyword' kin' => ?_
  refine .bind (.take .ident .ident) fun name name' named => ?_
  refine .bind (parallel_generics rule) fun generics generics' kin'' => ?_
  refine .bind (parallel_whereClause rule nofun) fun clause clause' bounded => ?_
  refine .bind (parallel_fields rule) fun fields fields' inner => .pure (.plain _ _ _ ?_)
  have head := ((((kin.append kin').append named).append kin'').append bounded).append inner
  simpa using head

private theorem parallel_variant (rule : RulesKin c limit rules rules') :
    Parallel c limit .grouped stage .solid (fun variant other => Kin c variant.tokens other.tokens)
      (variant rules) (variant rules') := by
  refine .bind (parallel_outerAttributes rule) fun attributes attributes' each => ?_
  refine .bind parallel_visibility fun _ _ _ => ?_
  refine .bind (.take .ident .ident) fun name name' named => ?_
  refine .peek (.opening .brace) fun braced => .peek (.opening .parenthesis) fun tupled => ?_
  refine .oneOf (parallel_fields rule).weaken (parallel_unnamedFields rule).weaken (.value .nil)
    fun payload payload' kin => ?_
  have before := ((kin_attributes each).append named).append kin
  refine .peekIf (.punct "=" rfl) ?_ (.pure (by simpa [Variant.tokens] using before))
  refine .bind (.punct "=" rfl) fun equals equals' mark => ?_
  refine .bind (rule.expr _ true) fun value value' inner => .pure ?_
  simpa [Variant.tokens] using before.append (mark.append inner.tokens)

theorem parallel_enumItem {place : Place} (rule : RulesKin c limit rules rules')
    (inner : place ≠ .outside) :
    Parallel c limit place stage .solid (fun item other => ItemKin c (.enum item) (.enum other))
      (enumItem rules) (enumItem rules') := by
  refine .bind parallel_visibility fun visibility visibility' kin => ?_
  refine .bind (.keyword "enum") fun keyword keyword' kin' => ?_
  refine .bind (.take .ident .ident) fun name name' named => ?_
  refine .bind (parallel_generics rule) fun generics generics' kin'' => ?_
  refine .bind (parallel_whereClause rule inner) fun clause clause' bounded => ?_
  refine .bind (.enclosed .brace (.commaSeparated (parallel_variant rule))) ?_
  rintro _ _ ⟨inner,opening,closing,opening',closing'⟩
  refine .pure fun attributes attributes' each => ?_
  have head := (((kin.append kin').append named).append kin'').append bounded
  have variants := (inner.tokens fun _ _ kin => kin).wrap .brace opening closing opening' closing'
  have whole := ((kin_attributes each).append head).append variants
  simpa [Item.addAttributes,Item.tokens,EnumItem.tokens] using whole

/-! Traits and implementations. -/

private theorem parallel_traitMember (rule : RulesKin c limit rules rules') :
    Parallel c limit .grouped stage .solid (Kin c) (traitMember rules) (traitMember rules') := by
  refine parallel_attributed rule (.bind parallel_visibility fun visibility visibility' kin => ?_)
  refine .bind (.optionalKeyword "default") fun default default' kin' => ?_
  have plain : (visibility.isEmpty && default.isEmpty) =
      (visibility'.isEmpty && default'.isEmpty) := by
    rw [kin.isEmpty,kin'.isEmpty]
  rw [opensFunction_eq]
  refine .peekAfter (parallel_functionModifiers false) (Blind.keyword "fn").steady ?function
    (.peekIf (.keyword "const") ?constant (.peekIf (.keyword "type") ?typeAlias
      (.peek .opensItemMacro fun ahead => ?call)))
  case function =>
    refine .bind (parallel_signature rule false) fun signature signature' kin => ?_
    refine .peekIf (.punct ";" rfl) ?_ ?_
    · exact .bind parallel_semicolon fun mark mark' last =>
        .pure (rel_when plain (kin.tokens.append last))
    · exact .bind (parallel_method rule kin.tokens) fun tokens tokens' kin =>
        .pure (rel_when plain kin)
  case constant =>
    exact .bind (parallel_constantDeclaration rule) fun declaration declaration' kin =>
      .pure (rel_when (by rw [plain,kin.generic]) kin.tokens)
  case typeAlias =>
    exact .bind (parallel_aliasDeclaration rule _) fun declaration declaration' kin =>
      .pure (rel_when plain kin.tokens)
  case call =>
    refine .bind (.require (by rw [plain])) fun _ _ _ => ?_
    exact .bind (parallel_itemMacro false) fun call call' kin => .pure (.some kin)

private theorem parallel_memberBody (rule : RulesKin c limit rules rules') {p q : Parser Lexemes}
    (run : Parallel c limit .grouped .later .solid (Kin c) p q) :
    Parallel c limit .grouped stage .solid (BodyKin c) (memberBody rules p) (memberBody rules' q) :=
  parallel_body rule (parallel_members run)

private theorem parallel_traitRest (rule : RulesKin c limit rules rules') {name name' : Lexeme}
    {head head' : Lexemes} (kin : Kin c head head') :
    Parallel c limit .grouped stage .solid (ItemKin c) (traitRest rules name head)
      (traitRest rules' name' head') := by
  refine .bind (parallel_introducedBounds rule (.any (by simp [Blind.steady])))
    fun supertraits supertraits' kin' => ?_
  refine .bind (parallel_whereClause rule nofun) fun clause clause' bounded => ?_
  refine .bind (parallel_memberBody rule (parallel_traitMember rule)) ?_
  rintro ⟨opening,attributes,tail⟩ ⟨opening',attributes',tail'⟩ ⟨each,frames⟩
  exact .pure (.declared _ _ _ each (frames.after ((kin.append kin').append bounded)))

private theorem parallel_modifiedTrait (rule : RulesKin c limit rules rules') :
    Parallel c limit .grouped stage .solid (ItemKin c) (modifiedTrait rules)
      (modifiedTrait rules') := by
  refine .bind parallel_visibility fun visibility visibility' kin => ?_
  refine .bind (.optionalKeyword "unsafe") fun unsafety unsafety' kin' => ?_
  refine .bind (.optionalKeyword "auto") fun auto auto' kin'' => ?_
  refine .bind (.keyword "trait") fun keyword keyword' mark => ?_
  refine .bind (.take .ident .ident) fun name name' named => ?_
  refine .bind (parallel_generics rule) fun generics generics' given => ?_
  refine (parallel_traitRest rule ?_).weaken
  have head := ((((kin.append kin').append kin'').append mark).append named).append given
  simpa using head

private theorem parallel_traitItem (rule : RulesKin c limit rules rules') :
    Parallel c limit .grouped stage .solid (ItemKin c) (traitItem rules) (traitItem rules') := by
  refine .bind parallel_visibility fun visibility visibility' kin => ?_
  refine .bind (.keyword "trait") fun keyword keyword' mark => ?_
  refine .bind (.take .ident .ident) fun name name' named => ?_
  refine .bind (parallel_generics rule) fun generics generics' given => ?_
  have head : Kin c (visibility ++ keyword ++ name :: generics)
      (visibility' ++ keyword' ++ name' :: generics') := by
    simpa using ((kin.append mark).append named).append given
  refine .peekIf (.punct "=" rfl) ?_ (parallel_traitRest rule head).weaken
  refine .bind (.punct "=" rfl) fun equals equals' mark => ?_
  refine .bind (.separated (.any (by simp [Blind.steady])) (parallel_bound rule false true).loosen
    fun _ => (Parallel.punct "+" rfl).loosen) fun bounds bounds' each => ?_
  refine .bind (parallel_whereClause rule nofun) fun clause clause' bounded => ?_
  refine .bind parallel_semicolon fun mark' mark'' last => .pure (.other ?_)
  exact (((head.append mark).append (kin_boundTokens each)).append bounded).append last

private theorem parallel_implMember (rule : RulesKin c limit rules rules') :
    Parallel c limit .grouped stage .solid (Kin c) (implMember rules) (implMember rules') := by
  refine parallel_attributed rule (.bind parallel_visibility fun visibility visibility' kin => ?_)
  refine .bind (.optionally (.ledBut (.keyword "default") (.keyword "default")
    (.second (.punct "!" rfl))) (.keyword "default"))
    fun default default' kin' => ?_
  have head := kin.append kin'
  rw [opensFunction_eq]
  refine .peekAfter (parallel_functionModifiers false) (Blind.keyword "fn").steady ?function
    (.peekIf (.keyword "const") ?constant (.peekIf (.keyword "type") ?typeAlias
      (.peek .opensItemMacro fun ahead => ?call)))
  case function =>
    refine .bind (parallel_signature rule false) fun signature signature' kin => ?_
    refine .peekIf (.punct ";" rfl) ?_ ?_
    · exact .bind parallel_semicolon fun _ _ _ => .pure .none
    · exact .bind (parallel_method rule (head.append kin.tokens)) fun tokens tokens' kin =>
        .pure (.some kin)
  case constant =>
    exact .bind (parallel_constantDeclaration rule) fun declaration declaration' kin =>
      .pure (rel_unless (by rw [kin.generic,kin.hasValue]) (head.append kin.tokens))
  case typeAlias =>
    exact .bind (parallel_aliasDeclaration rule _) fun declaration declaration' kin =>
      .pure (rel_unless (by rw [kin.hasColon,kin.hasDefinition]) (head.append kin.tokens))
  case call =>
    refine .bind (.require (by rw [head.isEmpty])) fun _ _ _ => ?_
    exact .bind (parallel_itemMacro false) fun call call' kin => .pure (.some kin)

private theorem Steady.opensImplGenerics : Steady c .grouped opensImplGenerics := by
  have colon : Steady c .grouped (View.but (.punct ":") (.punct "::")) :=
    (Blind.but (.punct ":" rfl) (.punct "::" rfl)).steady
  have marks : Steady c .grouped (.any [.punct ">",.punct "#",.keyword "const"]) :=
    .any (by simp [Blind.steady])
  have names : Steady c .grouped (.any [.lifetime,.ident]) := .any (by simp [Blind.steady])
  have ends : Steady c .grouped (.any [.punct ">",.punct ",",View.but (.punct ":") (.punct "::"),
    .punct "="]) := .any (by simp [Blind.steady,colon,Steady.comma])
  have named : Steady c .grouped (.all [.second (.any [.lifetime,.ident]),
      .third (.any [.punct ">",.punct ",",View.but (.punct ":") (.punct "::"),.punct "="])]) :=
    .all (by simp [Steady.second names,Steady.third ends])
  have inside : Steady c .grouped (.any [.second (.any [.punct ">",.punct "#",.keyword "const"]),
      .all [.second (.any [.lifetime,.ident]),
        .third (.any [.punct ">",.punct ",",View.but (.punct ":") (.punct "::"),.punct "="])]]) :=
    .any (by simp [Steady.second marks,named])
  exact .all (by simp [Blind.steady,inside])

private theorem parallel_implConstness :
    Parallel c limit .grouped stage .firm (Kin c) implConstness implConstness := by
  have optional : Blind c (.all [.punct "?",.second (.keyword "const")]) :=
    .led (by simp) (by simp) (by simp)
  refine .optionally (.any (by simp [optional])) ?_
  refine .bind (.optionalPunct "?" rfl) fun mark mark' kin => ?_
  exact .bind (.keyword "const") fun keyword keyword' kin' => .pure (kin.append kin')

private theorem TypeFormKin.unqualified : ∀ {form form' : TypeForm}, TypeFormKin c form form' →
    (match form with | .path ⟨[],_⟩ => true | _ => false) =
      (match form' with | .path ⟨[],_⟩ => true | _ => false) := by
  intro form form' kin
  cases kin with
  | @path qualified other kin =>
    obtain ⟨root,path⟩ := qualified
    obtain ⟨root',path'⟩ := other
    have same := kin.root.isEmpty
    cases root <;> cases root' <;> first | rfl | cases same
  | _ => rfl

private theorem parallel_implSubject (core : RulesCore c limit rules rules') :
    Parallel c limit .grouped .later .solid (fun read read' =>
      Kin c read.1 read'.1 ∧ read.2.2 = read'.2.2) (implSubject rules) (implSubject rules') := by
  refine .getAt fun before before' state bound => ?_
  refine Parallel.bindAt (.optionally (.ledBut (.punct "!" rfl) (.punct "!" rfl (by decide))
    (.second (.opening .brace))) (.punct "!" rfl))
    state bound fun polarity polarity' _ _ kin reached bound taken => ?_
  refine (core.type _ true).bindAt reached bound
    fun first first' rest left typed reached bound more => ?_
  have taken : c.Taken .solid before rest := taken.trans more
  refine .peek (Blind.keyword "for").steady reached ?_
  cases View.keyword "for" rest with
  | true =>
    refine (?trait : Parallel c limit .grouped .later .firm _ _ _) rest left reached bound
    refine .bind (.keyword "for") fun separator separator' kin' => ?_
    refine .bind (core.type _ true) fun subject subject' typed' => .pure ⟨?_,typed.form.unqualified⟩
    exact ((kin.append typed.tokens).append kin').append typed'.tokens
  | false =>
    rw [kin.isEmpty]
    cases List.isEmpty polarity' with
    | true => exact Parallel.value ⟨typed.tokens,rfl⟩ rest left reached bound
    | false =>
      exact .since (f := fun tokens => (tokens,tokens,true)) (g := fun tokens => (tokens,tokens,true))
        state reached taken.weaken fun _ _ kin => ⟨kin,rfl⟩

private theorem parallel_implItem (rule : RulesKin c limit rules rules') :
    Parallel c limit .grouped stage .solid (Option.Rel (ItemKin c)) (implItem rules)
      (implItem rules') := by
  refine .bind parallel_visibility fun visibility visibility' kin => ?_
  refine .bind (.optionalKeyword "default") fun default default' kin' => ?_
  refine .bind (.optionalKeyword "unsafe") fun unsafety unsafety' kin'' => ?_
  refine .bind (.keyword "impl") fun keyword keyword' mark => ?_
  refine .bind (.peekIfIn .opensImplGenerics (parallel_generics rule) (.pure .nil))
    fun generics generics' given => ?_
  refine .bind parallel_implConstness fun constant constant' const => ?_
  refine .bind (parallel_implSubject rule.toRulesCore) ?_
  rintro ⟨subject,name,nameable⟩ ⟨subject',name',nameable'⟩ ⟨inner,same⟩
  obtain rfl : nameable = nameable' := same
  refine .bind (parallel_whereClause rule nofun) fun clause clause' bounded => ?_
  refine .bind (parallel_memberBody rule (parallel_implMember rule)) ?_
  rintro ⟨opening,attributes,tail⟩ ⟨opening',attributes',tail'⟩ ⟨each,frames⟩
  refine .ifBool (by rw [kin.isEmpty,const.isEmpty]) (.pure .none) (.pure (.some ?_))
  have head := ((((kin'.append kin'').append mark).append given).append inner).append bounded
  exact .declared _ _ _ each (frames.after head)

/-! Modules and macros. -/

private theorem parallel_moduleItem (rule : RulesKin c limit rules rules') :
    Parallel c limit .grouped stage .solid (ItemKin c) (moduleItem rules) (moduleItem rules') := by
  refine .bind parallel_visibility fun visibility visibility' kin => ?_
  refine .bind (.optionalKeyword "unsafe") fun unsafety unsafety' kin' => ?_
  refine .bind (.keyword "mod") fun keyword keyword' kin'' => ?_
  refine .bind (.take (.any (by simp)) (.any (by simp))) fun name name' named => ?_
  have head := ((kin.append kin').append kin'').append named
  refine .peekIf (.punct ";" rfl) ?_ ?_
  · refine .bind parallel_semicolon fun mark mark' last => .pure (.module .nil .nil ?_)
    intro inner inner' kin
    exact (head.append kin).append last
  · refine .bind (.enclosed .brace (?inside : Parallel _ _ _ _ _ (fun read read' =>
      List.Forall₂ (AttributeKin c) read.1 read'.1 ∧ List.Forall₂ (ItemKin c) read.2 read'.2) _ _)) ?_
    case inside =>
      refine .bind (parallel_innerAttributes rule) fun attributes attributes' each => ?_
      exact .bind (.many (.not (.atEnd nofun)) rule.item.loosen) fun items items' inner =>
        .pure ⟨each,inner⟩
    rintro _ _ ⟨⟨each,inner⟩,opening,closing,opening',closing'⟩
    refine .pure (.module each inner (Frames.after ?_ head))
    exact fun _ _ kin => kin.wrap .brace opening closing opening' closing'

private theorem parallel_macroDeclaration :
    Parallel c limit .grouped stage .solid (fun _ _ => True) macroDeclaration macroDeclaration := by
  refine .bind parallel_visibility fun _ _ _ => .bind (.keyword "macro") fun _ _ _ => ?_
  refine .bind .ident fun _ _ _ => .bind (.optionally (.opening .parenthesis) .anyGroup) fun _ _ _ => ?_
  exact .bind (.rawGroup .brace) fun _ _ _ => .pure trivial

/-! Items of all kinds. -/

private theorem parallel_itemOf (rule : RulesKin c limit rules rules') (plain : Bool) {rest left : Lexemes}
    (same : ∀ view, Steady c .grouped view → view rest = view left)
    (function : opensFunction false rest = opensFunction false left) :
    Parallel c limit .grouped stage .solid (Option.Rel (ItemKin c)) (itemOf rules plain rest)
      (itemOf rules' plain left) := by
  have core := rule.toRulesCore
  have sees (view : View) (blind : Blind c view) : view rest = view left := same view blind.steady
  have sees' (view : View) (blind : Blind c view) : view.second rest = view.second left :=
    same _ blind.steady.second
  have autoTrait : Blind c (.all [.keyword "auto",.second (.keyword "trait")]) :=
    .led (by simp) (by simp) (by simp)
  have unsafeTrait : Blind c (.any [.keyword "trait",.all [.keyword "auto",
    .second (.keyword "trait")]]) := .any (by simp [autoTrait])
  have defaulted : Blind c (View.but (.keyword "default") (.second (.punct "!"))) :=
    .ledBut (.keyword "default") (.keyword "default") (.second (.punct "!" rfl))
  have form {p q : Parser Item} (run : Parallel c limit .grouped stage .solid (ItemKin c) p q) :
      Parallel c limit .grouped stage .solid (Option.Rel (ItemKin c)) (some <$> p) (some <$> q) :=
    run.map fun _ _ kin => .some kin
  refine .ifBool function (parallel_functionItem rule) (.ifBool (sees _ (.keyword "extern")) ?foreign
    (.ifBool (sees _ (.keyword "use")) (parallel_useItem core) (.ifBool (sees _ (.keyword "static"))
      (parallel_staticItem core) (.ifBool (sees _ (.keyword "const")) (parallel_constantItem rule)
        (.ifBool (sees _ (.keyword "unsafe")) ?unsafety (.ifBool (sees _ (.keyword "mod"))
          (form (parallel_moduleItem rule)) (.ifBool (sees _ (.keyword "type"))
            (parallel_aliasItem rule) (.ifBool (sees _ (.keyword "struct"))
              (form (parallel_structItem rule)) (.ifBool (sees _ (.keyword "enum")) ?enum
                (.ifBool (sees _ (.led (by simp) (by simp) (by simp))) (form (parallel_unionItem rule))
                  (.ifBool (sees _ (.keyword "trait")) (form (parallel_traitItem rule))
                    (.ifBool (sees _ autoTrait) (form (parallel_modifiedTrait rule))
                      (.ifBool (sees _ (.any (by simp [defaulted]))) (parallel_implItem rule)
                        (.ifBool (sees _ (.keyword "macro")) ?macros (.ifBool ?plain ?call
                          .fail)))))))))))))))
  case foreign =>
    exact .ifBool (sees' _ (.keyword "crate")) (form parallel_externCrate)
      (form (parallel_foreignBlock rule))
  case unsafety =>
    exact .ifBool (sees' _ unsafeTrait) (form (parallel_modifiedTrait rule))
      (.ifBool (sees' _ (.keyword "impl")) (parallel_implItem rule)
        (.ifBool (sees' _ (.keyword "extern")) (form (parallel_foreignBlock rule))
          (form (parallel_moduleItem rule))))
  case enum => exact (parallel_enumItem rule (by decide)).map fun _ _ kin => .some kin
  case macros => exact parallel_macroDeclaration.map fun _ _ _ => .none
  case plain => exact congrArg (plain && ·) (sees _ .opensItemMacro)
  case call => exact (parallel_itemMacro true).map fun _ _ kin => .some (.other kin)

private theorem parallel_itemRest (rule : RulesKin c limit rules rules') :
    Parallel c limit .grouped stage .solid (Option.Rel (ItemKin c)) (itemRest rules)
      (itemRest rules') := by
  intro first second state bound
  obtain ⟨ran,failed⟩ := parallel_visibility first second state bound
  cases read : visibility first with
  | none =>
    have none : itemRest rules first = none := by
      unfold itemRest
      rw [read]
      rfl
    rw [ParallelAt,none]
    refine ⟨fun _ _ run => (by cases run),fun compared inside _ => ?_⟩
    unfold itemRest
    rw [failed compared inside read]
    rfl
  | some result =>
    obtain ⟨shown,rest⟩ := result
    obtain ⟨shown',left,reached,taken,kin,same⟩ := ran shown rest read
    have here : itemRest rules first = itemOf rules shown.isEmpty rest first := by
      unfold itemRest
      rw [read]
      rfl
    by_cases compared : c.compared
    · have there : itemRest rules' second = itemOf rules' shown.isEmpty left second := by
        unfold itemRest
        rw [same compared reached.live_of_grouped,kin.isEmpty]
        rfl
      have steady (view : View) (steady : Steady c .grouped view) : view rest = view left :=
        steady rest left compared reached.sound reached.live_of_grouped
      have function : opensFunction false rest = opensFunction false left := by
        rw [opensFunction_eq]
        exact after_eq (parallel_functionModifiers false) (Blind.keyword "fn").steady reached
          (state.within bound taken) compared
      exact .congr state here (fun _ _ => there)
        (parallel_itemOf rule _ steady function first second state bound)
    · exact .congr state here (fun seen _ => absurd seen compared)
        (parallel_itemOf rule shown.isEmpty (fun _ _ => rfl) rfl first second state bound)

/-- An item after attributes that were read from an earlier point on. -/
theorem parallelAt_itemAfter (rule : RulesKin c limit rules rules')
    {before before' first second : Lexemes} {attributes attributes' : List Attribute}
    (each : List.Forall₂ (AttributeKin c) attributes attributes')
    (state : c.State .grouped before before') (reached : c.State .grouped first second)
    (bound : c.compared → c.Live .grouped first second → second.length < stage.bound limit)
    (taken : c.Taken .loose before first) :
    ParallelAt c .grouped .solid (ItemKin c) first second (itemAfter rules before attributes)
      (itemAfter rules' before' attributes') := by
  refine (parallel_itemRest rule).bindAt reached bound
    fun read read' rest left related reached bound more => ?_
  have taken : c.Taken .firm before rest := taken.trans more
  cases related with
  | some kin => exact Parallel.value (kin.addAttributes each) rest left reached bound
  | none => exact .since state reached taken fun _ _ kin => .other kin

theorem parallel_item (rule : RulesKin c limit rules rules') :
    Parallel c limit .grouped stage .solid (ItemKin c) (item rules) (item rules') := by
  refine .getAt fun before before' state bound => ?_
  refine (parallel_outerAttributes rule).bindAt state bound
    fun attributes attributes' rest left each reached bound taken => ?_
  exact parallelAt_itemAfter rule each state reached bound taken

end

end CaseSynthesis.Grammar
