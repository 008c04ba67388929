import CaseSynthesis.Proofs.Parallel.Path

/-! Types, the bounds on them, generic parameters and where clauses, read side by side. -/

namespace CaseSynthesis.Grammar

open CaseSynthesis.Grammar.Parser

section

variable {c : Comparison} {limit : Nat} {place : Place} {stage : Stage} {rules rules' : Rules}

@[simp] theorem Blind.opensBound : Blind c opensBound := .any (by simp)

@[simp] theorem Blind.opensName : Blind c opensName := .any (by simp)

@[simp] theorem Dull.opensName : Dull opensName := .any (by simp)

@[simp] theorem Blind.opensFunctionType : Blind c opensFunctionType := .any (by simp)

@[simp] theorem Blind.afterBinder : Blind c afterBinder := .any (by simp)

@[simp] theorem Blind.opensPathType : Blind c opensPathType := .any (by simp)

private theorem Blind.namedParameter {name : View} (blind : Blind c name) (dull : Dull name) :
    Blind c (namedParameter name) := by
  have apart : Near c fun input => !View.second (.punct "::") input := .not (.second (.punct "::" rfl))
  exact .led blind dull (by simp [apart])

private theorem Blind.opensVariadicType : Blind c opensVariadicType := by
  have named : Blind c (.all [Grammar.opensName,.second (.punct ":"),.third (.punct "...")]) :=
    .ledThird (by simp) (by simp) (by simp) (by simp) (by simp)
  exact .any (by simp [named])

private theorem Blind.opensParenthesized (path : Path) : Blind c (opensParenthesized path) := by
  intro first second sound sees
  have opens := Blind.opening (c := c) .parenthesis first second sound sees
  have colons := (Blind.opening (c := c) .parenthesis).colonsThird first second sound sees
  simp only [Grammar.opensParenthesized,opens,colons]

private theorem PathKin.opensParenthesized {path path' : Path} (kin : PathKin c path path') :
    opensParenthesized path = opensParenthesized path' := by
  have given : (path.last?.any fun last => last.arguments.isEmpty) =
      path'.last?.any fun last => last.arguments.isEmpty := by
    rcases kin.last with ⟨one,two⟩ | ⟨segment,segment',one,two,last,_⟩
    · rw [one,two]
    · rw [one,two]
      exact last.arguments.isEmpty
  funext input
  simp only [Grammar.opensParenthesized,given]

/-! Bounds. -/

/-- A keyword that a phrase starts with. -/
private theorem parallel_lead (name : String) :
    Parallel c limit place stage .solid (fun first second => Bare c first second ∧ first ≠ [])
      (keyword name) (keyword name) :=
  .bind (.take (.keyword name) (.keyword name)) fun _ _ kin =>
    .pure ⟨.single kin,List.cons_ne_nil _ _⟩

private theorem parallel_lifetimeBinder (rule : RulesKin c limit rules rules') :
    Parallel c limit place stage .solid (Bare c) (lifetimeBinder rules) (lifetimeBinder rules') := by
  refine .bind (parallel_lead "for") fun keyword keyword' ⟨bare,filled⟩ => ?_
  refine .bind (.punct "<" rfl) fun opening opening' kin => ?_
  refine .closing ">" rfl (.separated (Blind.punct ">" rfl).steady (?item : Parallel _ _ _ _ _ (Kin c) _ _)
    fun _ => Parallel.comma.loosen) fun lifetimes lifetimes' closing closing' each mark => .pure ?_
  case item =>
    refine .bind (parallel_attributeTokens rule) fun attributes attributes' kin => ?_
    exact .bind .lifetime fun lifetime lifetime' kin' => .pure (kin.append kin')
  have rest := (kin.append each.flat).append mark
  simpa using bare.append filled rest

theorem parallel_optionalBinder (rule : RulesKin c limit rules rules') :
    Parallel c limit place stage .firm (Bare c) (optionalBinder rules) (optionalBinder rules') :=
  .peekIf (.keyword "for") (parallel_lifetimeBinder rule).weaken (.pure .nil)

private theorem TypeFormKin.isParen {form form' : TypeForm} :
    TypeFormKin c form form' → (form matches .paren) = (form' matches .paren) := by
  rintro ⟨⟩ <;> rfl

theorem parallel_returnType (core : RulesCore c limit rules rules') (plus : Bool) :
    Parallel c limit place stage .firm (Tagged c) (returnType rules plus)
      (returnType rules' plus) := by
  refine .peekIf (.punct "->" rfl) ?_ (.pure ⟨rfl,.nil⟩)
  refine .bind (.punct "->" rfl) fun arrow arrow' kin => ?_
  exact .bind (core.type _ plus) fun type type' typed =>
    .pure ⟨typed.form.isParen,kin.append typed.tokens⟩

private theorem parallel_commaTypes (core : RulesCore c limit rules rules') :
    Parallel c limit .grouped .later .loose (Kin c) (commaTypes rules) (commaTypes rules') :=
  .bind (.commaSeparated (core.type _ true)) fun _ _ each =>
    .pure (each.tokens fun _ _ kin => kin.tokens)

private theorem parallel_parenthesizedArguments (core : RulesCore c limit rules rules') :
    Parallel c limit place stage .solid
      (fun read read' => read.1 = read'.1 ∧ ArgumentsKin c read.2 read'.2)
      (parenthesizedArguments rules) (parenthesizedArguments rules') := by
  refine .bind (.group .parenthesis (parallel_commaTypes core)) fun inputs inputs' kin => ?_
  refine .bind (parallel_returnType core false) ?_
  rintro ⟨extensible,output⟩ ⟨extensible',output'⟩ ⟨same,kin'⟩
  exact .pure ⟨same,.parenthesized (kin.append kin')⟩

private theorem parallel_captures : Parallel c limit place stage .solid (Bare c) captures captures := by
  refine .bind (parallel_lead "use") fun keyword keyword' ⟨bare,filled⟩ => ?_
  refine .bind (.punct "<" rfl) fun opening opening' kin => ?_
  refine .closing ">" rfl (.separated (Blind.punct ">" rfl).steady (?item : Parallel _ _ _ _ _ (Tagged c) _ _)
    fun _ => Parallel.comma.loosen) fun parameters parameters' closing closing' each mark =>
      .pure ?_
  case item =>
    refine .peekIf .lifetime ?_ ?_
    · exact .bind .lifetime fun tokens tokens' kin => .pure ⟨rfl,kin⟩
    · exact .bind (.nextIf (.any (by simp)) (.any (by simp))) fun tokens tokens' kin =>
        .pure ⟨rfl,kin⟩
  have rest := (kin.append (kin_lifetimesFirst each)).append mark
  simpa using bare.append filled rest

private theorem parallel_traitBound (rule : RulesKin c limit rules rules') (constants : Bool) :
    Parallel c limit place stage .solid (fun read read' => Tagged c read read' ∧
      (read.1 = false → Bare c read.2 read'.2) ∧ (constants = false → read.1 = false))
      (traitBound rules constants) (traitBound rules' constants) := by
  refine .bind (parallel_optionalBinder rule) fun binder binder' bound => ?_
  refine .either (.opening .bracket) (.weaken (.group .bracket (.loosen (.keyword "const"))))
    (.optionalKeyword "const") fun constant constant' kin => ?_
  refine .bind (.require (by rw [kin.isEmpty])) fun _ _ allowed => ?_
  refine .bind (?maybe : Parallel _ _ _ _ .firm (Bare c) _ _) fun maybe maybe' mark => ?_
  case maybe =>
    exact .peekIf (.punct "?" rfl) ((Parallel.sign "?" rfl).imp fun _ _ spelled => spelled.bare).weaken
      (.pure .nil)
  have result {path path' : Path} (named : PathKin c path path') :
      Tagged c (!constant.isEmpty,binder ++ constant ++ maybe ++ path.tokens)
        (!constant'.isEmpty,binder' ++ constant' ++ maybe' ++ path'.tokens) ∧
      ((!constant.isEmpty) = false → Bare c (binder ++ constant ++ maybe ++ path.tokens)
        (binder' ++ constant' ++ maybe' ++ path'.tokens)) ∧
      (constants = false → (!constant.isEmpty) = false) := by
    have tokens := named.tokens
    refine ⟨⟨congrArg (!·) kin.isEmpty,?_⟩,fun plain => ?_,fun never => ?_⟩
    · exact ((bound.toKin.append kin).append mark.toKin).append tokens.toKin
    · obtain rfl : constant = [] := by simpa using plain
      obtain rfl : constant' = [] := List.length_eq_zero_iff.mp kin.length.symm
      simpa using (bound.appendBare mark).appendBare tokens
    · simpa [never] using allowed
  have unbound : (binder.isEmpty || maybe.isEmpty) = (binder'.isEmpty || maybe'.isEmpty) := by
    rw [bound.isEmpty,mark.isEmpty]
  refine .bind (parallel_path rule false) fun path path' named => ?_
  rw [named.opensParenthesized]
  refine .peekIf (.opensParenthesized path') ?_ ?_
  · refine .bind (.optionalPunct "::" rfl) fun _ _ _ => ?_
    refine .bind (parallel_parenthesizedArguments rule.toRulesCore) ?_
    rintro ⟨_,arguments⟩ ⟨_,arguments'⟩ ⟨_,given⟩
    refine .bind (.value (named.withArguments given)) fun path path' named => ?_
    exact .bind (.require unbound) fun _ _ _ => .pure (result named)
  · refine .bind (.value named) fun path path' named => ?_
    exact .bind (.require unbound) fun _ _ _ => .pure (result named)

def BoundOf (c : Comparison) (constants : Bool) (bound other : Bound) : Prop :=
  BoundKin c bound other ∧ (constants = false → bound.form ≠ .constant)

private theorem BoundOf.trait (constants : Bool) {tokens tokens' : Lexemes} (kin : Kin c tokens tokens')
    (inner : Kin c (withoutParentheses tokens) (withoutParentheses tokens')) :
    BoundOf c constants ⟨.trait,tokens⟩ ⟨.trait,tokens'⟩ := ⟨⟨rfl,kin,fun _ => inner⟩,fun _ => nofun⟩

private theorem withoutParentheses_group (opening closing : Span) (inside : Lexemes) :
    withoutParentheses ([⟨.opening .parenthesis,opening⟩] ++ inside ++
      [⟨.closing .parenthesis,closing⟩]) = inside := by
  simp [withoutParentheses,View.opening]

private theorem parallel_bareLifetime :
    Parallel c limit place stage .solid (Bare c) lifetime lifetime :=
  .bind (.take .lifetime .lifetime) fun _ _ kin => .pure (.single kin)

theorem parallel_bound (rule : RulesKin c limit rules rules') (allowCaptures constants : Bool) :
    Parallel c limit place stage .solid (BoundOf c constants) (bound rules allowCaptures constants)
      (bound rules' allowCaptures constants) := by
  refine .peekIf .lifetime ?_ (.peekIf (.keyword "use") ?_ ?_)
  · refine .bind parallel_bareLifetime fun tokens tokens' bare => ?_
    exact .pure ⟨⟨rfl,bare.toKin,fun _ => bare.inner⟩,fun _ => nofun⟩
  · refine .bind (.require rfl) fun _ _ _ => ?_
    refine .bind parallel_captures fun tokens tokens' bare => ?_
    exact .pure ⟨⟨rfl,bare.toKin,fun _ => bare.inner⟩,fun _ => nofun⟩
  refine .getAt fun before before' state bound => .peek (Blind.opening .parenthesis).steady state ?_
  have constant {rest left : Lexemes} (reached : c.State place rest left)
      (taken : c.Taken .solid before rest) (allowed : constants = false → true = false) :
      ParallelAt c place .firm (BoundOf c constants) rest left
        (get >>= fun after => pure ⟨.constant,before.take (before.length - after.length)⟩)
        (get >>= fun after => pure ⟨.constant,before'.take (before'.length - after.length)⟩) := by
    refine .since state reached taken.weaken fun tokens tokens' kin => ?_
    exact ⟨⟨rfl,kin,fun plain => absurd rfl plain⟩,fun never => absurd (allowed never) nofun⟩
  cases View.opening .parenthesis before with
  | true =>
    refine Parallel.bindAt (.enclosed .parenthesis (parallel_traitBound rule constants).loosen)
      state bound ?_
    rintro _ _ rest left ⟨related,opening,closing,opening',closing'⟩ reached within taken
    rename_i read read'
    obtain ⟨modified,tokens⟩ := read
    obtain ⟨modified',tokens'⟩ := read'
    obtain ⟨⟨same,kin⟩,_,never⟩ := related
    cases same
    cases modified with
    | true => exact constant reached taken never
    | false =>
      refine Parallel.pure (.trait constants ?_ ?_) rest left reached within
      · exact kin.wrap .parenthesis opening closing opening' closing'
      · rw [withoutParentheses_group,withoutParentheses_group]
        exact kin
  | false =>
    refine Parallel.bindAt (parallel_traitBound rule constants) state bound ?_
    rintro ⟨modified,tokens⟩ ⟨_,tokens'⟩ rest left ⟨⟨same,kin⟩,bare,never⟩ reached within taken
    cases same
    cases modified with
    | true => exact constant reached taken never
    | false =>
      have plain := bare rfl
      refine Parallel.pure (.trait constants ?_ ?_) rest left reached within
      · simpa using kin
      · simpa using plain.inner

private theorem parallel_bounds (rule : RulesKin c limit rules rules') (plus allowCaptures constants : Bool) :
    Parallel c limit place stage .solid (SeparatedKin c (BoundOf c constants))
      (bounds rules plus allowCaptures constants) (bounds rules' plus allowCaptures constants) := by
  refine .loop (fun bounds bounds' each => ?_) .nil
  refine .bind (parallel_bound rule allowCaptures constants) fun bound bound' kin => ?_
  refine .peek (.punct "+" rfl) fun ahead => .ifBool rfl ?_ (.pure ⟨each.snoc kin .nil,rfl⟩)
  refine .bind (.punct "+" rfl) fun sign sign' mark => ?_
  exact .peek (.any (by simp)) fun more => .pure ⟨each.snoc kin mark,rfl⟩

private theorem namesTrait_kin {bounds bounds' : Separated Bound} {constants : Bool}
    (each : SeparatedKin c (BoundOf c constants) bounds bounds') :
    namesTrait bounds = namesTrait bounds' := by
  induction each with
  | nil => rfl
  | cons both _ ih =>
    simp only [namesTrait,List.any_cons] at ih ⊢
    rw [both.1.1.form,ih]

private theorem parallel_traitBounds (rule : RulesKin c limit rules rules')
    (plus allowCaptures constants : Bool) :
    Parallel c limit place stage .solid (SeparatedKin c (BoundOf c constants))
      (traitBounds rules plus allowCaptures constants)
      (traitBounds rules' plus allowCaptures constants) := by
  refine .bind (parallel_bounds rule plus allowCaptures constants) fun bounds bounds' each => ?_
  exact .bind (.require (namesTrait_kin each)) fun _ _ _ => .pure each

theorem kin_boundTokens {bounds bounds' : Separated Bound} {constants : Bool}
    (each : SeparatedKin c (BoundOf c constants) bounds bounds') :
    Kin c (boundTokens bounds) (boundTokens bounds') := each.tokens fun _ _ kin => kin.1.tokens

private theorem TypeKin.bounds {bounds bounds' : Separated Bound}
    (each : SeparatedKin c (BoundOf c false) bounds bounds') :
    TypeKin c (boundsType bounds) (boundsType bounds') := by
  have alone : isSingle bounds = isSingle bounds' := by
    match bounds, bounds', each with
    | [], [], _ => rfl
    | [(_,sign)], [(_,sign')], .cons both _ => exact both.2.isEmpty
    | _ :: _ :: _, _ :: _ :: _, _ => rfl
  refine ⟨?_,kin_boundTokens each,fun single => ?_⟩
  · rw [boundsType,boundsType,alone]
    exact .bounds _
  · have single : isSingle bounds = true := TypeForm.bounds.inj single
    match bounds, bounds', each, single with
    | [(bound,sign)], [(bound',sign')], .cons both _, single =>
      obtain rfl : sign = [] := by simpa [isSingle] using single
      obtain rfl : sign' = [] := List.length_eq_zero_iff.mp both.2.length.symm
      have inner := both.1.1.inner (both.1.2 rfl)
      simpa [boundsType,boundTokens,Separated.tokens] using inner

private theorem parallel_boundsAfter (rule : RulesKin c limit rules rules') {first first' : Bound}
    (kin : BoundOf c false first first') :
    Parallel c limit place stage .firm (TypeKin c) (boundsAfter rules first)
      (boundsAfter rules' first') := by
  refine .bind (?bounds : Parallel _ _ _ _ .firm (fun read read' =>
    SeparatedKin c (BoundOf c false) read.1 read'.1 ∧ BoundOf c false read.2 read'.2) _ _) ?_
  case bounds =>
    refine .loop ?_ ⟨.nil,kin⟩
    rintro ⟨bounds,last⟩ ⟨bounds',last'⟩ ⟨each,kin⟩
    refine .peekIf (.punct "+" rfl) ?_ (.pure ⟨⟨each,kin⟩,rfl⟩)
    refine .bind (.punct "+" rfl) fun sign sign' mark => ?_
    exact .bind (parallel_bound rule false false) fun next next' more =>
      .pure ⟨⟨each.snoc kin mark,more⟩,rfl⟩
  rintro ⟨bounds,last⟩ ⟨bounds',last'⟩ ⟨each,kin⟩
  exact .pure (.bounds (each.snoc kin .nil))

/-! Types. -/

/-- A phrase in parentheses, with them and without. -/
private theorem parallel_parenthesized {p q : Parser Lexemes}
    (run : Parallel c limit .grouped .later .loose (Kin c) p q) :
    Parallel c limit place stage .solid (fun first second => Kin c first second ∧
      Kin c (withoutParentheses first) (withoutParentheses second)) (group .parenthesis p)
      (group .parenthesis q) := by
  refine .bind (.enclosed .parenthesis run) ?_
  rintro _ _ ⟨kin,opening,closing,opening',closing'⟩
  refine .pure ⟨kin.wrap .parenthesis opening closing opening' closing',?_⟩
  rw [withoutParentheses_group,withoutParentheses_group]
  exact kin

/-- A trait in a group is what stands inside it. -/
private theorem BoundOf.group {inside inside' : Lexemes} (kin : Kin c inside inside')
    (opening closing opening' closing' : Span) :
    BoundOf c false
      ⟨.trait,[⟨.opening .parenthesis,opening⟩] ++ inside ++ [⟨.closing .parenthesis,closing⟩]⟩
      ⟨.trait,[⟨.opening .parenthesis,opening'⟩] ++ inside' ++ [⟨.closing .parenthesis,closing'⟩]⟩ := by
  refine .trait false (kin.wrap .parenthesis opening closing opening' closing') ?_
  rw [withoutParentheses_group,withoutParentheses_group]
  exact kin

private theorem parallelAt_parenthesizedType (rule : RulesKin c limit rules rules') (plus : Bool)
    {first second : Lexemes} (state : c.State place first second)
    (bound : c.compared → c.Live place first second → second.length < stage.bound limit)
    (seen : View.opening .parenthesis first = true) :
    ParallelAt c place .solid (TypeKin c) first second (parenthesizedType rules plus)
      (parenthesizedType rules' plus) := by
  refine .inside state seen fun inside inside' same => ?_
  refine (?choice : Parallel c limit place stage _ _ _ _) first second state bound
  refine .ifBool (same _ (.atEnd nofun)) ?_ (.ifBool (same _ Blind.lifetime.steady) ?_
    (.ifBool (same _ (Blind.punct "?" rfl).steady) ?_ ?_))
  · exact .bind (.group .parenthesis (.pure .nil)) fun tokens tokens' kin => .pure (.other kin)
  · refine .bind (.group .parenthesis ?_) fun tokens tokens' kin => .pure (.paren kin)
    exact .bind (parallel_traitBounds rule true false false) fun bounds bounds' each =>
      .pure (kin_boundTokens each)
  · refine .bind (parallel_parenthesized (?trait : Parallel _ _ _ _ _ (Kin c) _ _))
      fun tokens tokens' ⟨kin,inner⟩ => (parallel_boundsAfter rule (.trait false kin inner))
    exact .bind (parallel_traitBound rule false) fun read read' ⟨tagged,_⟩ => .pure tagged.2
  · refine .bind (.enclosed .parenthesis (?inside : Parallel _ _ _ _ _ (fun read read' =>
      TypeKin c read.1 read'.1 ∧ Kin c read.2 read'.2) _ _)) ?_
    case inside =>
      refine .bind (rule.type _ true) fun type type' typed => ?_
      refine .bind (?more : Parallel _ _ _ _ .loose (Kin c) _ _) fun rest rest' kin =>
        .pure ⟨typed,kin⟩
      refine .peekIfIn (.comma nofun) ?_ (.pure .nil)
      refine .bind .comma fun mark mark' kin => ?_
      exact .bind (parallel_commaTypes rule.toRulesCore) fun types types' kin' =>
        .pure (kin.append kin')
    rintro _ _ ⟨related,opening,closing,opening',closing'⟩
    rename_i read read'
    obtain ⟨type,rest⟩ := read
    obtain ⟨type',rest'⟩ := read'
    obtain ⟨typed,kin⟩ := related
    have whole : Kin c
        ([⟨.opening .parenthesis,opening⟩] ++ type.tokens ++ rest ++
          [⟨.closing .parenthesis,closing⟩])
        ([⟨.opening .parenthesis,opening'⟩] ++ type'.tokens ++ rest' ++
          [⟨.closing .parenthesis,closing'⟩]) := by
      have inside := (typed.tokens.append kin).wrap .parenthesis opening closing opening' closing'
      simpa using inside
    refine .ifBool (congrArg (!·) kin.isEmpty) (.pure (.other whole)) ?_
    refine .peek (.punct "+" rfl) fun ahead => .ifBool rfl ?_ (.pure (.paren whole))
    have paren := TypeKin.paren whole
    obtain ⟨form,tokens⟩ := type
    obtain ⟨form',tokens'⟩ := type'
    obtain ⟨forms,typed,single⟩ := typed
    cases forms with
    | @path qualified qualified' named =>
      obtain ⟨root,path⟩ := qualified
      obtain ⟨root',path'⟩ := qualified'
      have rooted := named.root.length
      cases root with
      | nil =>
        obtain rfl : root' = [] := List.length_eq_zero_iff.mp rooted.symm
        have group := BoundOf.group (typed.append kin) opening closing opening' closing'
        exact parallel_boundsAfter rule (by simpa using group)
      | cons lexeme root =>
        cases root' with
        | nil => cases rooted
        | cons lexeme' root' => exact .pure paren
    | bounds alone =>
      cases alone with
      | true => exact parallel_boundsAfter rule (.group (single rfl) ..)
      | false => exact .pure paren
    | reference mutable kin => exact .pure paren
    | paren => exact .pure paren
    | other => exact .pure paren

theorem parallel_abi : Parallel c limit place stage .firm (Kin c) abi abi := by
  refine .optionally (.keyword "extern") ?_
  refine .bind (.keyword "extern") fun keyword keyword' kin => ?_
  exact .bind (.optionally .stringLiteral (.nextIf .stringLiteral .stringLiteral))
    fun name name' kin' => .pure (kin.append kin')

private theorem parallel_wordColon : Parallel c limit place stage .solid (Kin c) wordColon wordColon :=
  .bind .word fun _ _ kin => .bind (.punct ":" rfl) fun _ _ kin' => .pure (kin.append kin')

private theorem parallel_functionTypeParameter (core : RulesCore c limit rules rules') (first : Bool) :
    Parallel c limit place .later .solid (Kin c) (functionTypeParameter rules first)
      (functionTypeParameter rules' first) := by
  have self : Blind c (.any [opensName,.keyword "self"]) := .any (by simp)
  have named : Blind c (namedParameter
      (if first then .any [opensName,.keyword "self"] else opensName)) := by
    cases first with
    | true => exact .namedParameter self (.any (by simp))
    | false => exact .namedParameter .opensName .opensName
  have reading (name : View) (blind : Blind c name) : Parallel c limit place .later .solid (Kin c)
      (do return (← optionally name wordColon) ++ (← rules.type true).tokens)
      (do return (← optionally name wordColon) ++ (← rules'.type true).tokens) := by
    refine .bind (.optionally blind parallel_wordColon) fun name name' kin => ?_
    exact .bind (core.type _ true) fun type type' typed => .pure (kin.append typed.tokens)
  refine .peek (.led (by simp) (by simp) (by simp)) fun ahead => .ifBool rfl (.verbatim (R := Kin c) ?_)
    (reading _ named)
  exact .bind (.keyword "mut") fun _ _ _ => (reading _ named).weaken

private theorem parallel_functionType (rule : RulesKin c limit rules rules') :
    Parallel c limit place stage .solid (Kin c) (functionType rules) (functionType rules') := by
  refine .bind (.optionalKeyword "unsafe") fun unsafety unsafety' kin => ?_
  refine .bind parallel_abi fun abi abi' kin' => ?_
  refine .bind (.keyword "fn") fun keyword keyword' kin'' => ?_
  refine .bind (.group .parenthesis (?parameters : Parallel _ _ _ _ _ (Kin c) _ _))
    fun parameters parameters' listed => ?_
  case parameters =>
    refine .loop (fun tokens tokens' kin => ?_) .nil
    refine .peekIfIn (.atEnd nofun) (.pure ⟨kin,rfl⟩) ?_
    rw [kin.isEmpty]
    refine .bind (parallel_attributeTokens rule) fun attributes attributes' kin' => ?_
    refine .peekIf .opensVariadicType ?_ ?_
    · refine .bind (.optionally .opensName parallel_wordColon) fun name name' named => ?_
      refine .bind (.punct "..." rfl) fun dots dots' mark => ?_
      refine .bind (?comma : Parallel _ _ _ _ .loose (Kin c) _ _) fun comma comma' last =>
        .pure ⟨(((kin.append kin').append named).append mark).append last,rfl⟩
      exact .peekIfIn (.comma nofun) Parallel.comma.loosen (.pure .nil)
    · refine .bind (parallel_functionTypeParameter rule.toRulesCore _) fun parameter parameter' typed => ?_
      refine .peekIfIn (.atEnd nofun) (.pure ⟨(kin.append kin').append typed,rfl⟩) ?_
      exact .bind .comma fun comma comma' last =>
        .pure ⟨((kin.append kin').append typed).append last,rfl⟩
  refine .bind (parallel_returnType rule.toRulesCore false) ?_
  rintro ⟨_,output⟩ ⟨_,output'⟩ ⟨_,given⟩
  exact .pure ((((kin.append kin').append kin'').append listed).append given)

private theorem parallel_typePath (rule : RulesKin c limit rules rules') :
    Parallel c limit place stage .solid (QualifiedKin c) (typePath rules) (typePath rules') := by
  refine .bind (parallel_qualifiedPath rule false) fun qualified qualified' kin => ?_
  refine .bind (?rounds : Parallel _ _ _ _ .firm (PathKin c) _ _) fun path path' named =>
    .pure ⟨kin.root,named⟩
  refine .loop (fun path path' named => ?_) kin.path
  rw [named.opensParenthesized]
  refine .peekIf (.opensParenthesized path') ?_ (.pure ⟨named,rfl⟩)
  refine .bind (.optionalPunct "::" rfl) fun _ _ _ => ?_
  refine .bind (parallel_parenthesizedArguments rule.toRulesCore) ?_
  rintro ⟨extensible,arguments⟩ ⟨_,arguments'⟩ ⟨same,given⟩
  cases same
  have named := named.withArguments given
  exact .eitherIf rfl (parallel_moreSegments rule false named) (.value named)
    fun path path' named => .pure ⟨named,rfl⟩

private theorem parallel_plainBounds (rule : RulesKin c limit rules rules') :
    Parallel c limit place stage .firm (SeparatedKin c (BoundOf c false))
      (pathType.plainBounds rules) (pathType.plainBounds rules') := by
  refine .loop (fun bounds bounds' each => ?_) .nil
  refine .bind (parallel_bound rule false false) fun bound bound' kin => ?_
  refine .peekIf (.punct "+" rfl) ?_ (.pure ⟨each.snoc kin .nil,rfl⟩)
  refine .bind (.punct "+" rfl) fun sign sign' mark => ?_
  exact .peek .opensBound fun more => .pure ⟨each.snoc kin mark,rfl⟩

private theorem parallel_pathType (rule : RulesKin c limit rules rules') (plus : Bool)
    {binder binder' : Lexemes} (bare : Bare c binder binder') :
    Parallel c limit place stage .solid (TypeKin c) (pathType rules plus binder)
      (pathType rules' plus binder') := by
  refine .bind (parallel_typePath rule) fun qualified qualified' kin => ?_
  have named : TypeKin c ⟨.path qualified,qualified.tokens⟩ ⟨.path qualified',qualified'.tokens⟩ :=
    .of (.path kin) kin.tokens.toKin nofun
  refine .ifBool kin.isQualified (.pure named) ?_
  refine .peek .opensMacroCall fun called => .ifBool (by rw [kin.path.isPlain]) ?_ ?_
  · exact .bind parallel_macroCall fun call call' tagged =>
      .pure (.other (kin.tokens.toKin.append tagged.2))
  have first : BoundOf c false ⟨.trait,binder ++ qualified.tokens⟩
      ⟨.trait,binder' ++ qualified'.tokens⟩ := by
    have both := bare.appendBare kin.tokens
    exact .trait false both.toKin both.inner
  refine .peek (.punct "+" rfl) fun _ => .ifBool (by rw [bare.isEmpty]) ?_ (.pure named)
  refine .peek (.punct "+" rfl) fun _ => .ifBool rfl ?_ (.pure (.bounds (.cons ⟨first,.nil⟩ .nil)))
  refine .bind (.punct "+" rfl) fun sign sign' mark => ?_
  exact .either .opensBound (parallel_plainBounds rule) (.value .nil) fun rest rest' each =>
    .pure (.bounds (.cons ⟨first,mark⟩ each))

private theorem parallel_pointerType (core : RulesCore c limit rules rules') :
    Parallel c limit place stage .solid (TypeKin c) (pointerType rules) (pointerType rules') := by
  refine .bind (.punct "*" rfl) fun star star' kin => ?_
  refine .either (.keyword "const") (.keyword "const") (.keyword "mut")
    fun mutability mutability' kin' => ?_
  exact .bind (core.type _ false) fun type type' typed =>
    .pure (.other ((kin.append kin').append typed.tokens))

private theorem parallel_referenceType (core : RulesCore c limit rules rules') :
    Parallel c limit place stage .solid (TypeKin c) (referenceType rules)
      (referenceType rules') := by
  refine .bind (.punct "&" rfl) fun ampersand ampersand' kin => ?_
  refine .bind (.optionally .lifetime .lifetime) fun lifetime lifetime' kin' => ?_
  refine .bind (.optionalKeyword "mut") fun mutability mutability' kin'' => ?_
  refine .bind (core.type _ false) fun target target' typed => ?_
  rw [kin''.isEmpty]
  exact .pure (.of (.reference _ typed.form)
    (((kin.append kin').append kin'').append typed.tokens) nofun)

private theorem parallel_bracketedType (core : RulesCore c limit rules rules') :
    Parallel c limit place stage .solid (TypeKin c) (bracketedType rules)
      (bracketedType rules') := by
  refine .bind (.group .bracket ?_) fun tokens tokens' kin => .pure (.other kin)
  refine .bind (core.type _ true) fun element element' typed => ?_
  refine .bind (.optionally (.punct ";" rfl) ?_) fun length length' kin =>
    .pure (typed.tokens.append kin)
  refine .bind (.punct ";" rfl) fun mark mark' kin => ?_
  exact .bind (core.expr _ true) fun value value' kin' => .pure (kin.append kin'.tokens)

private theorem parallel_traitObject (rule : RulesKin c limit rules rules') (plus : Bool) :
    Parallel c limit place stage .solid (TypeKin c) (traitObject rules plus)
      (traitObject rules' plus) := by
  refine .getAt fun before before' state bound => ?_
  refine Parallel.bindAt (.keyword "dyn") state bound
    fun keyword keyword' _ _ kin reached bound taken => ?_
  refine Parallel.bindAt (.optionalPunct "*" rfl) reached bound
    fun star star' _ _ kin' reached bound taken' => ?_
  refine Parallel.bindAt (parallel_traitBounds rule plus false false) reached bound
    fun bounds bounds' rest left each reached bound taken'' => ?_
  have more : c.Taken .solid _ rest := taken'.trans taken''
  rw [kin'.isEmpty]
  cases List.isEmpty star' with
  | true => exact Parallel.pure (.other (kin.append (kin_boundTokens each))) _ _ reached bound
  | false => exact .since state reached (taken.trans more.weaken) fun _ _ kin => .other kin

theorem parallel_typeExpr (rule : RulesKin c limit rules rules') (plus : Bool) :
    Parallel c limit place stage .solid (TypeKin c) (typeExpr rules plus) (typeExpr rules' plus) := by
  have core := rule.toRulesCore
  refine .bind (parallel_optionalBinder rule) fun binder binder' bare => ?_
  refine .guarded (congrArg (!·) bare.isEmpty) .afterBinder ?_
  refine .peekAt (Blind.opening .parenthesis).steady fun first second state bound => ?_
  cases seen : View.opening .parenthesis first with
  | true => exact parallelAt_parenthesizedType rule plus state bound seen
  | false =>
    refine (?choice : Parallel c limit place _ _ _ _ _) first second state bound
    refine .peekIf .opensFunctionType ?_ (.peekIf .opensPathType (parallel_pathType rule plus bare)
      (.peekIf (.keyword "dyn") (parallel_traitObject rule plus)
        (.peekIf (.opening .bracket) (parallel_bracketedType core)
          (.peekIf (.punct "*" rfl) (parallel_pointerType core)
            (.peekIf (.punct "&" rfl) (parallel_referenceType core)
              (.peekIf .opensMacroCall ?_ (.peekIf (.keyword "impl") ?_
                (.peekIf (.keyword "_") ?_ (.peekIf .lifetime ?_ .fail)))))))))
    · exact .bind (parallel_functionType rule) fun tokens tokens' kin =>
        .pure (.other (bare.toKin.append kin))
    · exact .bind (.punct "!" rfl) fun tokens tokens' kin => .pure (.other kin)
    · refine .bind (.keyword "impl") fun keyword keyword' kin => ?_
      exact .bind (parallel_traitBounds rule plus true true) fun bounds bounds' each =>
        .pure (.other (kin.append (kin_boundTokens each)))
    · exact .bind (.keyword "_") fun tokens tokens' kin => .pure (.other kin)
    · exact .bind (parallel_traitBounds rule true false false) fun bounds bounds' each =>
        .pure (.bounds each)

/-! Generic parameters and where clauses. -/

theorem kin_introduced {lead lead' tokens tokens' : Lexemes} (kin : Kin c lead lead')
    (kin' : Kin c tokens tokens') : Kin c (introduced lead tokens) (introduced lead' tokens') := by
  rw [introduced,introduced,kin'.isEmpty]
  split
  · exact .nil
  · exact kin.append kin'

private theorem Steady.endsPredicate (inner : place ≠ .outside) : Steady c place endsPredicate := by
  have colon : Steady c place (View.but (.punct ":") (.punct "::")) :=
    (Blind.but (.punct ":" rfl) (.punct "::" rfl)).steady
  exact .any (by simp [Steady.atEnd inner,Steady.comma inner,colon,Blind.steady])

private theorem parallel_genericParameter (rule : RulesKin c limit rules rules') (inner : place ≠ .outside) :
    Parallel c limit place .later .loose (Tagged c) (genericParameter rules)
      (genericParameter rules') := by
  have atEnd := Steady.atEnd (c := c) inner
  have comma := Steady.comma (c := c) inner
  refine .bind (parallel_attributeTokens rule) fun attributes attributes' kin => ?_
  refine .peekIf .lifetime ?_ (.peekIf .ident ?_ (.peekIf (.keyword "const") ?_ ?_))
  · refine .bind .lifetime fun name name' named => ?_
    refine .peekIf (.punct ":" rfl) ?_ (.pure ⟨rfl,kin.append named⟩)
    refine .bind (.punct ":" rfl) fun colon colon' mark => ?_
    refine .bind (.joined (.any (by simp [atEnd,comma,Blind.steady])) Parallel.lifetime.loosen
      (Blind.punct "+" rfl).steady fun _ => (Parallel.punct "+" rfl).loosen) fun bounds bounds' each => ?_
    exact .pure ⟨rfl,(kin.append named).append (kin_introduced mark each.flat)⟩
  · refine .bind .ident fun name name' named => ?_
    refine .bind (?constraint : Parallel _ _ _ _ .loose (Kin c) _ _)
      fun constraint constraint' kin' => ?_
    case constraint =>
      refine .peekIf (.punct ":" rfl) ?_ (.pure .nil)
      refine .bind (.punct ":" rfl) fun colon colon' mark => ?_
      refine .bind (.joined (.any (by simp [atEnd,comma,Blind.steady]))
        (parallel_bound rule false true).loosen (Blind.punct "+" rfl).steady
        fun _ => (Parallel.punct "+" rfl).loosen) fun bounds bounds' each => ?_
      exact .pure (kin_introduced mark (kin_boundTokens each))
    refine .bind (.optionally (.punct "=" rfl) ?_) fun default default' given =>
      .pure ⟨rfl,((kin.append named).append kin').append given⟩
    refine .bind (.punct "=" rfl) fun equals equals' mark => ?_
    exact .bind (rule.type _ true) fun type type' typed => .pure (mark.append typed.tokens)
  · refine .bind (.keyword "const") fun keyword keyword' kin' => ?_
    refine .bind .ident fun name name' named => ?_
    refine .bind (.punct ":" rfl) fun colon colon' mark => ?_
    refine .bind (rule.type _ true) fun type type' typed => ?_
    refine .bind (.optionally (.punct "=" rfl) ?_) fun default default' given =>
      .pure ⟨rfl,((((kin.append kin').append named).append mark).append typed.tokens).append given⟩
    refine .bind (.punct "=" rfl) fun equals equals' mark => ?_
    exact .bind (parallel_constArgument rule) fun value value' kin => .pure (mark.append kin)
  · exact .bind (.keyword "_") fun name name' named => .pure ⟨rfl,kin.append named⟩

theorem parallel_generics (rule : RulesKin c limit rules rules') :
    Parallel c limit place stage .firm (Kin c) (generics rules) (generics rules') := by
  refine .peekIf (.punct "<" rfl) ?_ (.pure .nil)
  refine .bind (.punct "<" rfl) fun opening opening' kin => ?_
  refine .closing ">" rfl (.separated (Blind.punct ">" rfl).steady
    (parallel_genericParameter rule place.within_inner) fun _ => Parallel.comma.loosen)
    fun parameters parameters' closing closing' each mark => .pure ?_
  rw [each.isEmpty]
  split
  · exact .nil
  · exact (kin.append (kin_lifetimesFirst each)).append mark

private theorem parallel_wherePredicate (rule : RulesKin c limit rules rules') (inner : place ≠ .outside) :
    Parallel c limit place .later .loose (Kin c) (wherePredicate rules) (wherePredicate rules') := by
  have ends := Steady.endsPredicate (c := c) inner
  refine .peekIf (.led (by simp) (by simp) (by simp)) ?_ ?_
  · refine .bind .lifetime fun name name' kin => ?_
    refine .bind (.punct ":" rfl) fun colon colon' mark => ?_
    refine .bind (.joined (.any (by simp [ends,Blind.steady])) Parallel.lifetime.loosen
      (Blind.punct "+" rfl).steady fun _ => (Parallel.punct "+" rfl).loosen) fun bounds bounds' each => ?_
    exact .pure ((kin.append mark).append each.flat)
  · refine .bind (parallel_optionalBinder rule) fun binder binder' kin => ?_
    refine .bind (rule.type _ true) fun type type' typed => ?_
    refine .bind (.punct ":" rfl) fun colon colon' mark => ?_
    refine .bind (.joined ends (parallel_bound rule false true).loosen (Blind.punct "+" rfl).steady
      fun _ => (Parallel.punct "+" rfl).loosen) fun bounds bounds' each => ?_
    exact .pure (((kin.toKin.append typed.tokens).append mark).append (kin_boundTokens each))

theorem parallel_whereClause (rule : RulesKin c limit rules rules') (inner : place ≠ .outside) :
    Parallel c limit place stage .loose (Kin c) (whereClause rules) (whereClause rules') := by
  refine .peekIf (.keyword "where") ?_ (.pure .nil)
  refine .bind (.keyword "where") fun keyword keyword' kin => ?_
  refine .bind (.joined (.endsPredicate inner) (parallel_wherePredicate rule inner) (.comma inner)
    fun _ => Parallel.comma.loosen) fun predicates predicates' each => ?_
  exact .pure (kin_introduced kin each.flat)

end

end CaseSynthesis.Grammar
