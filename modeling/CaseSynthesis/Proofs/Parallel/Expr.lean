import CaseSynthesis.Proofs.Parallel.Pattern

/-! Expressions, read side by side. -/

namespace CaseSynthesis.Grammar

open CaseSynthesis.Grammar.Parser

section

variable {c : Comparison} {limit : Nat} {place : Place} {stage : Stage} {rules rules' : Rules}

/-! Operators. -/

private theorem isSign_of_mem (operator : String × Precedence) (listed : operator ∈ binaryOperators) :
    isSign operator.1 = true := by
  have each : binaryOperators.all (fun operator => isSign operator.1) = true := rfl
  exact List.all_eq_true.mp each operator listed

private theorem isSign_of_operator {input : Lexemes} {text : String} {level : Precedence}
    (found : binaryOperator? input = some (text,level)) : isSign text = true := by
  unfold binaryOperator? at found
  exact isSign_of_mem (text,level) (List.mem_of_find?_eq_some found)

private theorem binaryOperator_sees (first second : Lexemes) (sound : Sound first)
    (sees : c.Sees first second) :
    binaryOperator? first = binaryOperator? second := by
  have each := isSign_of_mem
  unfold binaryOperator?
  generalize binaryOperators = operators at each
  induction operators with
  | nil => rfl
  | cons operator operators ih =>
    have signs := ((isSign_iff _).mp (each operator (by simp))).2
    have head : View.punct operator.1 first = View.punct operator.1 second :=
      Blind.chars (c := c) _ (fun comma => (signs _ comma).1 rfl) first second sound sees
    have rest := ih fun other member => each other (by simp [member])
    simp only [List.find?_cons,head,rest]

@[simp] theorem Blind.opensAssignment : Blind c opensAssignment := .but (.punct "=" rfl) (.punct "=>" rfl)

private theorem nextPrecedence_sees (first second : Lexemes) (sound : Sound first)
    (sees : c.Sees first second) : nextPrecedence first = nextPrecedence second := by
  unfold nextPrecedence
  rw [binaryOperator_sees first second sound sees,Blind.opensAssignment first second sound sees,
    Blind.punct (c := c) ".." rfl first second sound sees,
    Blind.keyword (c := c) "as" first second sound sees]

private theorem ExprKin.isComparison {expr other : Expr} (kin : ExprKin c expr other) :
    expr.isComparison = other.isComparison := by
  obtain ⟨form,tokens⟩ := expr
  obtain ⟨form',tokens'⟩ := other
  obtain ⟨forms,_⟩ := kin
  cases forms <;> rfl

def RoundKin (c : Comparison) (round other : Expr × Bool) : Prop :=
  ExprKin c round.1 other.1 ∧ round.2 = other.2

private theorem parallel_tighter (core : RulesCore c limit rules rules') (structs : Bool)
    (level next : Precedence) {right right' : Expr} (kin : ExprKin c right right') :
    Parallel c limit place .later .firm (RoundKin c) (tighter rules structs level right next)
      (tighter rules' structs level right' next) := by
  refine .ifBool rfl ?_ (.pure ⟨kin,rfl⟩)
  refine .getAt fun before before' state bound => ?_
  refine (core.operators place structs next right right' kin).bindAt state bound
    fun expr expr' rest left kin reached _ taken => ?_
  -- As much has been taken from one stream as from the other.
  refine .pure reached ⟨(expr',rest.length < before.length),⟨kin,rfl⟩,fun compared live => ?_⟩
  have now := live.length compared
  have earlier := (state.live_of_rest taken live).length compared
  congr 2
  exact propext (by omega)

private theorem parallel_rightSide (core : RulesCore c limit rules rules') (structs : Bool)
    (level : Precedence) :
    Parallel c limit place .later .solid (ExprKin c) (rightSide rules structs level)
      (rightSide rules' structs level) := by
  refine .bind (core.operand _ structs) fun first first' kin => ?_
  refine .loop (fun right right' kin => ?_) kin
  exact .getSeen nextPrecedence_sees fun input => parallel_tighter core structs level _ kin

private theorem parallel_rangeSign :
    Parallel c limit place stage .solid (Tagged c) rangeSign rangeSign := by
  refine .peekIf (.punct "..=" rfl) ?_ (.peek (.punct "..." rfl) fun ahead => ?_)
  · exact .bind (.punct "..=" rfl) fun sign sign' kin => .pure ⟨rfl,kin⟩
  · refine .bind (.require rfl) fun _ _ _ => ?_
    exact .bind (.punct ".." rfl) fun sign sign' kin => .pure ⟨rfl,kin⟩

private theorem Steady.lacksRangeEnd (structs : Bool) : Steady c place (lacksRangeEnd structs) := by
  have dot : Blind c (View.but (.punct ".") (.punct "..")) := .but (.punct "." rfl) (.punct ".." rfl)
  have stops : Steady c place (.any [.atEnd,.punct ",",.punct ";",View.but (.punct ".") (.punct ".."),
      .punct "?",.punct "=>",.punct "=",.punct "+",.punct "/",.punct "%",.punct "^",.punct ">",
      .punct "<=",.punct "!=",.punct "-=",.punct "*=",.punct "&=",.punct "|=",.punct "<<=",
      .keyword "as"]) := by
    refine .stops (by simp) (by simp) fun view member => ?_
    rcases List.mem_cons.mp member with rfl | later
    · exact .inl rfl
    rcases List.mem_cons.mp later with rfl | other
    · exact .inr (.inl rfl)
    refine .inr (.inr ?_)
    clear member later
    revert view
    simp [dot]
  intro first second compared sound live
  have brace := Blind.opening (c := c) .brace first second sound (live.sees compared)
  simp only [Grammar.lacksRangeEnd,stops first second compared sound live,brace]

private theorem parallel_rangeRest (core : RulesCore c limit rules rules') (structs : Bool) :
    Parallel c limit place stage .solid (Kin c) (rangeRest rules structs)
      (rangeRest rules' structs) := by
  refine .bind parallel_rangeSign ?_
  rintro ⟨closed,sign⟩ ⟨closed',sign'⟩ ⟨same,kin⟩
  obtain rfl : closed = closed' := same
  refine .peekIn (.lacksRangeEnd structs) fun ahead => .ifBool rfl (.pure kin) ?_
  exact .bind (parallel_rightSide core structs .range) fun right right' kin' =>
    .pure (kin.append kin'.tokens)

private theorem Blind.extendsCast : Blind c extendsCast := by
  have dot : Blind c (View.but (.punct ".") (.punct "..")) := .but (.punct "." rfl) (.punct ".." rfl)
  exact .any (by simp [dot])

private theorem parallel_operator (core : RulesCore c limit rules rules') (structs : Bool)
    (least : Precedence) {left left' : Expr} (kin : ExprKin c left left')
    {found : Option (String × Precedence)} (listed : ∀ operator ∈ found, isSign operator.1 = true) :
    Parallel c limit place stage .firm (RoundKin c) (operator rules structs least left found)
      (operator rules' structs least left' found) := by
  cases found with
  | some found =>
    obtain ⟨text,level⟩ := found
    unfold operator
    by_cases loose : level < least
    · simp only [if_pos loose]
      exact .pure ⟨kin,rfl⟩
    simp only [if_neg loose]
    have sign : isSign text = true := listed (text,level) rfl
    have comparing : (!(decide (level = .comparison) && left.isComparison)) =
        !(decide (level = .comparison) && left'.isComparison) := by
      rw [kin.isComparison]
    refine .bind (.require comparing) fun _ _ _ => ?_
    refine .bind (?sign : Parallel _ _ _ _ .begun (Kin c) _ _) fun sign sign' mark => ?_
    case sign =>
      exact (Parallel.spelled text sign fun _ => rfl).imp fun _ _ spelled => spelled.1
    refine .bind (parallel_rightSide core structs level) fun right right' kin' => ?_
    have tokens := (kin.tokens.append mark).append kin'.tokens
    split
    · exact .pure ⟨⟨.comparison,tokens⟩,rfl⟩
    · exact .pure ⟨⟨.other,tokens⟩,rfl⟩
  | none =>
    refine .peek .opensAssignment fun ahead => .ifBool rfl ?_ ?_
    · refine .bind (.punct "=" rfl) fun sign sign' mark => ?_
      exact .bind (parallel_rightSide core structs .assignment) fun right right' kin' =>
        .pure ⟨.other ((kin.tokens.append mark).append kin'.tokens),rfl⟩
    refine .peek (.punct ".." rfl) fun ahead => .ifBool rfl ?_ (.peekIf (.keyword "as") ?_
      (.pure ⟨kin,rfl⟩))
    · exact .bind (parallel_rangeRest core structs) fun range range' kin' =>
        .pure ⟨⟨.range,kin.tokens.append kin'⟩,rfl⟩
    · refine .bind (.keyword "as") fun keyword keyword' mark => ?_
      refine .bind (core.type _ false) fun type type' typed => ?_
      refine .peek .extendsCast fun ahead => .bind (.require rfl) fun _ _ _ => ?_
      exact .pure ⟨.other ((kin.tokens.append mark).append typed.tokens),rfl⟩

theorem parallel_operators (core : RulesCore c limit rules rules') (structs : Bool)
    (least : Precedence) {left left' : Expr} (kin : ExprKin c left left') :
    Parallel c limit place stage .firm (ExprKin c) (operators rules structs least left)
      (operators rules' structs least left') := by
  refine .loop (fun left left' kin => ?_) kin
  refine .ifBool kin.isRange (.pure ⟨kin,rfl⟩) ?_
  refine .getSeen binaryOperator_sees fun input => parallel_operator core structs least kin ?_
  exact fun operator found => isSign_of_operator found

/-! Jumps, closures and paths. -/

private theorem Blind.opensExpr : Blind c opensExpr := by
  have word : Blind c (View.but .word (.keyword "as")) := .but .word (.keyword "as")
  have minus : Blind c (.any [.punct "-=",.punct "->"]) := .any (by simp)
  have less : Blind c (.any [.punct "<=",.punct "<<="]) := .any (by simp)
  have negated : Blind c (View.but (.punct "-") (.any [.punct "-=",.punct "->"])) :=
    .but (.punct "-" rfl) minus
  have qualified : Blind c (View.but (.punct "<") (.any [.punct "<=",.punct "<<="])) :=
    .but (.punct "<" rfl) less
  exact .any (by simp [word,negated,qualified])

private theorem parallel_jumpValue (core : RulesCore c limit rules rules') :
    Parallel c limit place .later .firm (Kin c) (jumpValue rules) (jumpValue rules') :=
  .optionally .opensExpr (.bind (core.expr _ true) fun _ _ kin => .pure kin.tokens)

private theorem parallel_breakExpr (core : RulesCore c limit rules rules') (structs : Bool) :
    Parallel c limit place stage .solid (ExprKin c) (breakExpr rules structs)
      (breakExpr rules' structs) := by
  refine .bind (.keyword "break") fun keyword keyword' kin => ?_
  refine .bind (.optionally .lifetime .lifetime) fun label label' kin' => ?_
  refine .peek (.punct ":" rfl) fun ahead => ?_
  refine .bind (.require (by rw [kin'.isEmpty])) fun _ _ _ => ?_
  refine .peek (.opening .brace) fun ahead => ?_
  refine .eitherIf rfl (.value .nil) (parallel_jumpValue core) fun value value' kin'' => ?_
  exact .pure (.other ((kin.append kin').append kin''))

private theorem parallel_closureParameter (rule : RulesKin c limit rules rules') :
    Parallel c limit place .later .solid (Kin c) (closureParameter rules)
      (closureParameter rules') := by
  refine .bind (parallel_attributeTokens rule) fun attributes attributes' kin => ?_
  refine .bind (rule.pattern _) fun pattern pattern' kin' => ?_
  refine .peekIf (.punct ":" rfl) ?_ (.pure ?_)
  · refine .bind (.punct ":" rfl) fun colon colon' mark => ?_
    exact .bind (rule.type _ true) fun type type' typed =>
      .pure (((kin.append kin'.tokens).append mark).append typed.tokens)
  · rw [kin'.form]
    refine .append ?_ kin'.tokens
    split
    · exact .nil
    · exact kin

private theorem parallel_closure (rule : RulesKin c limit rules rules') (structs : Bool) :
    Parallel c limit place stage .solid (ExprKin c) (closure rules structs)
      (closure rules' structs) := by
  refine .bind (parallel_optionalBinder rule) fun binder binder' bare => ?_
  refine .bind (.optionalKeyword "const") fun constant constant' kin => ?_
  refine .bind (.optionalKeyword "static") fun static static' kin' => ?_
  refine .bind (.optionalKeyword "async") fun async async' kin'' => ?_
  refine .bind (.optionalKeyword "move") fun moves moves' moved => ?_
  have lead := (((bare.toKin.append kin).append kin').append kin'').append moved
  refine .bind (.punct "|" rfl) fun opening opening' mark => ?_
  refine .closing "|" rfl (.separated (Blind.punct "|" rfl).steady (parallel_closureParameter rule).loosen
    fun _ => Parallel.comma.loosen) fun parameters parameters' closing closing' each mark' => ?_
  have head := ((lead.append mark).append each.flat).append mark'
  have finish {body body' : Lexemes} (inner : Kin c body body') : ExprKin c
      (.other (binder ++ constant ++ static ++ async ++ moves ++ opening ++ flat parameters ++
        closing ++ body)) (.other (binder' ++ constant' ++ static' ++ async' ++ moves' ++ opening' ++
        flat parameters' ++ closing' ++ body')) := .other (head.append inner)
  refine .peekIf (.punct "->" rfl) ?_ ?_
  · refine .bind (.punct "->" rfl) fun arrow arrow' mark => ?_
    refine .bind (rule.type _ true) fun type type' typed => ?_
    refine .bind (parallel_block rule.toRulesCore) fun body body' inner => ?_
    exact .pure (finish ((mark.append typed.tokens).append inner))
  · exact .bind (rule.expr _ structs) fun body body' inner => .pure (finish inner.tokens)

private theorem parallel_fieldValue (rule : RulesKin c limit rules rules') :
    Parallel c limit place stage .solid (Kin c) (fieldValue rules) (fieldValue rules') := by
  refine .bind (parallel_attributeTokens rule) fun attributes attributes' kin => ?_
  refine .bind parallel_member ?_
  rintro ⟨named,name⟩ ⟨named',name'⟩ ⟨same,kin'⟩
  obtain rfl : named = named' := same
  refine .peek (.punct ":" rfl) fun ahead => .ifBool rfl ?_ (.pure (kin.append kin'))
  refine .bind (.punct ":" rfl) fun colon colon' mark => ?_
  exact .bind (rule.expr _ true) fun value value' inner =>
    .pure (((kin.append kin').append mark).append inner.tokens)

private theorem parallel_fieldValues (rule : RulesKin c limit rules rules') :
    Parallel c limit .grouped stage .loose (Kin c) (fieldValues rules) (fieldValues rules') := by
  refine .loop (fun tokens tokens' kin => ?_) .nil
  refine .peekIfIn (.atEnd nofun) (.pure ⟨kin,rfl⟩) (.peekIf (.punct ".." rfl) ?_ ?_)
  · refine .bind (.punct ".." rfl) fun dots dots' mark => ?_
    have before := kin.append mark
    refine .peekIfIn (.atEnd nofun) (.bind (R := Kin c) (.value .nil) fun base base' inner => ?_) ?_
    · exact .pure ⟨before.append inner,rfl⟩
    · exact .bind (rule.expr _ true) fun base base' inner => .pure ⟨before.append inner.tokens,rfl⟩
  · refine .bind (parallel_fieldValue rule) fun field field' more => ?_
    have before := kin.append more
    refine .peekIfIn (.atEnd nofun) (.pure ⟨before,rfl⟩) ?_
    exact .bind .comma fun comma comma' mark => .pure ⟨before.append mark,rfl⟩

private theorem parallel_pathExpr (rule : RulesKin c limit rules rules') (structs : Bool) :
    Parallel c limit place stage .solid (ExprKin c) (pathExpr rules structs)
      (pathExpr rules' structs) := by
  refine .bind (parallel_qualifiedPath rule true) fun path path' kin => ?_
  have tokens := kin.tokens.toKin
  have plain : (!path.isQualified && path.path.isPlain) =
      (!path'.isQualified && path'.path.isPlain) := by
    rw [kin.isQualified,kin.path.isPlain]
  refine .peek .opensMacroCall fun ahead => .ifBool (by rw [plain]) ?_ ?_
  · refine .bind parallel_macroCall ?_
    rintro ⟨braced,call⟩ ⟨braced',call'⟩ ⟨same,kin'⟩
    obtain rfl : braced = braced' := same
    cases braced with
    | true => exact .pure ⟨.bracedMacro,tokens.append kin'⟩
    | false => exact .pure ⟨.other,tokens.append kin'⟩
  · refine .peek (.opening .brace) fun ahead => .ifBool rfl ?_ (.pure (.other tokens))
    exact .bind (.group .brace (parallel_fieldValues rule)) fun fields fields' kin' =>
      .pure (.other (tokens.append kin'))

/-! Groups. -/

private theorem parallel_commaExprs (core : RulesCore c limit rules rules') :
    Parallel c limit .grouped .later .loose (SeparatedKin c (ExprKin c)) (commaExprs rules)
      (commaExprs rules') := .commaSeparated (core.expr _ true)

private theorem kin_exprTokens {exprs exprs' : Separated Expr}
    (each : SeparatedKin c (ExprKin c) exprs exprs') :
    Kin c (exprTokens exprs) (exprTokens exprs') := each.tokens fun _ _ kin => kin.tokens

private theorem kin_elements {exprs exprs' : Separated Expr}
    (each : SeparatedKin c (ExprKin c) exprs exprs') :
    List.Forall₂ (Kin c) (exprs.map fun element => element.1.tokens)
      (exprs'.map fun element => element.1.tokens) :=
  List.forall₂_map_left_iff.mpr (List.forall₂_map_right_iff.mpr
    (each.imp fun _ _ both => both.1.tokens))

private theorem parallel_parenthesizedExpr (core : RulesCore c limit rules rules') :
    Parallel c limit place stage .solid (ExprKin c) (parenthesizedExpr rules)
      (parenthesizedExpr rules') := by
  refine .bind (.enclosed .parenthesis (parallel_commaExprs core)) ?_
  rintro _ _ ⟨each,opening,closing,opening',closing'⟩
  rename_i elements elements'
  have tokens := (kin_exprTokens each).wrap .parenthesis opening closing opening' closing'
  refine .pure ⟨?_,tokens⟩
  have parts := kin_elements each
  match elements, elements', each with
  | [], [], _ => exact .tuple parts
  | (_,[]) :: _, (_,_ :: _) :: _, .cons both _ => cases both.2.length
  | (_,_ :: _) :: _, (_,[]) :: _, .cons both _ => cases both.2.length
  | [(_,[])], [(_,[])], _ => exact .other
  | (_,[]) :: _ :: _, (_,[]) :: _ :: _, _ => exact .tuple parts
  | (_,_ :: _) :: _, (_,_ :: _) :: _, _ => exact .tuple parts

private theorem parallel_arrayExpr (core : RulesCore c limit rules rules') :
    Parallel c limit place stage .solid (ExprKin c) (arrayExpr rules) (arrayExpr rules') := by
  refine .bind (.group .bracket ?_) fun tokens tokens' kin => .pure (.other kin)
  refine .peekIfIn (.atEnd nofun) (.pure .nil) ?_
  refine .bind (core.expr _ true) fun first first' kin => ?_
  refine .peekIf (.punct ";" rfl) ?_ (.peekIfIn (.atEnd nofun) (.pure kin.tokens) ?_)
  · refine .bind (.punct ";" rfl) fun mark mark' kin' => ?_
    exact .bind (core.expr _ true) fun length length' kin'' =>
      .pure ((kin.tokens.append kin').append kin''.tokens)
  · refine .bind .comma fun mark mark' kin' => ?_
    exact .bind (parallel_commaExprs core) fun exprs exprs' each =>
      .pure ((kin.tokens.append kin').append (kin_exprTokens each))

/-! Expressions that start with a keyword. -/

private theorem parallel_letExpr (core : RulesCore c limit rules rules') (structs : Bool) :
    Parallel c limit place stage .solid (ExprKin c) (letExpr rules structs)
      (letExpr rules' structs) := by
  refine .bind (.keyword "let") fun keyword keyword' kin => ?_
  refine .bind (parallel_alternatives core) fun pattern pattern' kin' => ?_
  refine .bind (.punct "=" rfl) fun equals equals' mark => ?_
  refine .bind (core.operand _ structs) fun first first' start => ?_
  refine .bind (core.operators _ structs .comparison first first' start) fun value value' kin'' => ?_
  exact .pure (.other (((kin.append kin'.tokens).append mark).append kin''.tokens))

private theorem parallel_ifExpr (core : RulesCore c limit rules rules') :
    Parallel c limit place stage .solid (Kin c) (ifExpr rules) (ifExpr rules') := by
  refine .loop (fun tokens tokens' kin => ?_) .nil
  refine .bind (.keyword "if") fun keyword keyword' kin' => ?_
  refine .bind (core.expr _ false) fun condition condition' kin'' => ?_
  refine .bind (parallel_block core) fun body body' inner => ?_
  have before := ((kin.append kin').append kin''.tokens).append inner
  refine .peekIf (.keyword "else") ?_ (.pure ⟨before,rfl⟩)
  refine .bind (.keyword "else") fun keyword keyword' kin => ?_
  refine .peekIf (.keyword "if") (.pure ⟨before.append kin,rfl⟩) ?_
  exact .bind (parallel_block core) fun body body' inner =>
    .pure ⟨(before.append kin).append inner,rfl⟩

private theorem parallel_whileExpr (rule : RulesKin c limit rules rules') :
    Parallel c limit place stage .solid (Kin c) (whileExpr rules) (whileExpr rules') := by
  refine .bind (.keyword "while") fun keyword keyword' kin => ?_
  refine .bind (rule.expr _ false) fun condition condition' kin' => ?_
  exact .bind (parallel_attributedBlock rule) fun body body' inner =>
    .pure ((kin.append kin'.tokens).append inner)

private theorem parallel_forExpr (rule : RulesKin c limit rules rules') :
    Parallel c limit place stage .solid (Kin c) (forExpr rules) (forExpr rules') := by
  refine .bind (.keyword "for") fun opening opening' kin => ?_
  refine .bind (parallel_alternatives rule.toRulesCore) fun pattern pattern' kin' => ?_
  refine .bind (.keyword "in") fun middle middle' mark => ?_
  refine .bind (rule.expr _ false) fun source source' kin'' => ?_
  exact .bind (parallel_attributedBlock rule) fun body body' inner =>
    .pure ((((kin.append kin'.tokens).append mark).append kin''.tokens).append inner)

private theorem parallel_loopExpr (rule : RulesKin c limit rules rules') :
    Parallel c limit place stage .solid (Kin c) (loopExpr rules) (loopExpr rules') :=
  .bind (.keyword "loop") fun _ _ kin => .bind (parallel_attributedBlock rule) fun _ _ inner =>
    .pure (kin.append inner)

theorem ExprKin.isBlockLike {expr other : Expr} (kin : ExprKin c expr other) :
    expr.isBlockLike = other.isBlockLike := by
  obtain ⟨form,tokens⟩ := expr
  obtain ⟨form',tokens'⟩ := other
  obtain ⟨forms,_⟩ := kin
  cases forms <;> rfl

private theorem parallel_optionalComma (inner : place ≠ .outside) :
    Parallel c limit place stage .loose (Kin c) (optionalPunct ",") (optionalPunct ",") :=
  .peekIfIn (.comma inner) Parallel.comma.loosen (.pure .nil)

private theorem parallel_matchArm (rule : RulesKin c limit rules rules') :
    Parallel c limit .grouped .later .loose (Kin c) (matchArm rules) (matchArm rules') := by
  refine .bind (parallel_attributeTokens rule) fun attributes attributes' kin => ?_
  refine .bind (parallel_alternatives rule.toRulesCore) fun pattern pattern' kin' => ?_
  refine .bind (.optionally (.keyword "if") (.bind (.keyword "if") fun keyword keyword' mark =>
    .bind (rule.expr _ true) fun value value' inner => .pure (mark.append inner.tokens)))
    fun condition condition' kin'' => ?_
  refine .bind (.punct "=>" rfl) fun arrow arrow' mark => ?_
  refine .bind (rule.boundedExpr _) fun body body' inner => ?_
  have before := (((kin.append kin'.tokens).append kin'').append mark).append inner.tokens
  refine .peekIn (.atEnd nofun) fun ahead => ?_
  refine .eitherIf (by rw [inner.isBlockLike]) (parallel_optionalComma nofun) Parallel.comma.loosen
    fun comma comma' last => .pure (before.append last)

private theorem parallel_matchExpr (rule : RulesKin c limit rules rules') :
    Parallel c limit place stage .solid (Kin c) (matchExpr rules) (matchExpr rules') := by
  refine .bind (.keyword "match") fun keyword keyword' kin => ?_
  refine .bind (rule.expr _ false) fun subject subject' kin' => ?_
  refine .bind (.group .brace ?_) fun arms arms' inner =>
    .pure ((kin.append kin'.tokens).append inner)
  refine .bind (parallel_innerAttributes rule) fun attributes attributes' each => ?_
  refine .bind (.many (.not (.atEnd nofun)) (parallel_matchArm rule)) fun arms arms' inner => ?_
  exact .pure ((kin_attributes each).append (.flatten inner))

private theorem parallel_labeled (rule : RulesKin c limit rules rules') :
    Parallel c limit place stage .solid (Kin c) (labeled rules) (labeled rules') := by
  refine .bind .lifetime fun label label' kin => ?_
  refine .bind (.punct ":" rfl) fun colon colon' mark => ?_
  have finish {p q : Parser Lexemes} (run : Parallel c limit place .later .solid (Kin c) p q) :
      Parallel c limit place .later .firm (Kin c) (p >>= fun body => pure (label ++ colon ++ body))
        (q >>= fun body => pure (label' ++ colon' ++ body)) :=
    .bind run fun body body' inner => .pure ((kin.append mark).append inner)
  refine .peek (.keyword "while") fun onCondition => .peek (.keyword "for") fun overItems =>
    .peek (.keyword "loop") fun endless => ?_
  exact .ifBool rfl (finish (parallel_whileExpr rule)) (.ifBool rfl (finish (parallel_forExpr rule))
    (.ifBool rfl (finish (parallel_loopExpr rule)) (finish (parallel_attributedBlock rule))))

private theorem Blind.opensBinder : Blind c opensBinder := by
  have after : Blind c (.any [.lifetime,.punct ">"]) := .any (by simp)
  exact .ledThird (by simp) (by simp) (by simp) (by simp) after

@[simp] theorem Blind.opensBlockOf (name : String) : Blind c (opensBlockOf name) :=
  .led (by simp) (by simp) (by simp)

@[simp] theorem Blind.opensBlockLike : Blind c opensBlockLike := by
  have beyond : Blind c (View.but (.keyword "for") Grammar.opensBinder) :=
    .but (.keyword "for") .opensBinder
  exact .any (by simp [beyond])

private theorem parallel_blockLike (rule : RulesKin c limit rules rules') :
    Parallel c limit place stage .solid (ExprKin c) (blockLike rules) (blockLike rules') := by
  have core := rule.toRulesCore
  have finish {p q : Parser Lexemes} (run : Parallel c limit place stage .solid (Kin c) p q) :
      Parallel c limit place stage .solid (ExprKin c)
        (p >>= fun tokens => pure ⟨.blockLike,tokens⟩)
        (q >>= fun tokens => pure ⟨.blockLike,tokens⟩) :=
    .bind run fun tokens tokens' kin => .pure ⟨.blockLike,kin⟩
  refine .peek (.keyword "if") fun _ => .peek (.keyword "while") fun _ => .peek (.keyword "for")
    fun _ => .peek (.keyword "loop") fun _ => .peek (.keyword "match") fun _ => .peek (.keyword "try")
    fun _ => .peek (.keyword "unsafe") fun _ => .peek (.keyword "const") fun _ => .peek .lifetime
    fun _ => ?_
  refine .ifBool rfl (finish (parallel_ifExpr core)) (.ifBool rfl (finish (parallel_whileExpr rule))
    (.ifBool rfl (finish (parallel_forExpr rule)) (.ifBool rfl (finish (parallel_loopExpr rule))
      (.ifBool rfl (finish (parallel_matchExpr rule)) (.ifBool rfl ?attempt (.ifBool rfl ?unchecked
        (.ifBool rfl (finish (parallel_constBlock rule)) (.ifBool rfl (finish (parallel_labeled rule))
          (finish (parallel_attributedBlock rule))))))))))
  case attempt =>
    refine .bind (.keyword "try") fun keyword keyword' kin => ?_
    exact .bind (parallel_block core) fun body body' inner => .pure ⟨.blockLike,kin.append inner⟩
  case unchecked =>
    refine .bind (.keyword "unsafe") fun keyword keyword' kin => ?_
    exact .bind (parallel_attributedBlock rule) fun body body' inner =>
      .pure ⟨.blockLike,kin.append inner⟩

/-! Atoms. -/

private theorem Blind.opensAsyncBlock : Blind c opensAsyncBlock := by
  have moved : Near c (.all [.second (.keyword "move"),.third (.opening .brace)]) :=
    .third (by simp) (by simp) (by simp)
  have after : Near c (.any [.second (.opening .brace),
    .all [.second (.keyword "move"),.third (.opening .brace)]]) := .any (by simp [moved])
  exact .led (by simp) (by simp) (by simp [after])

private theorem Blind.opensClosure : Blind c opensClosure := by
  have constant : Blind c (View.but (.keyword "const") (.second (.opening .brace))) :=
    .ledBut (.keyword "const") (.keyword "const") (.second (.opening .brace))
  have after : Blind c (.any [.punct "|",.keyword "move"]) := .any (by simp)
  have async : Blind c (.all [.keyword "async",.second (.any [.punct "|",.keyword "move"])]) :=
    .led (by simp) (by simp) (by simp [after])
  exact .any (by simp [constant,async,Blind.opensBinder])

private theorem Blind.opensPathExpr : Blind c opensPathExpr := by
  have after : Blind c (.any [.punct "!",.punct "::"]) := .any (by simp)
  have attempt : Blind c (.all [.keyword "try",.second (.any [.punct "!",.punct "::"])]) :=
    .led (by simp) (by simp) (by simp [after])
  exact .any (by simp [attempt])

/-- A hash with a name and a group after it is not the start of the tail. -/
private theorem parallel_builtin {p q : Parser Lexemes}
    (next : ∀ place, Parallel c limit place .later .solid (Kin c) p q) :
    Parallel c limit place stage .solid (Kin c) (punct "#" >>= fun _ => ident >>= fun _ => p)
      (punct "#" >>= fun _ => ident >>= fun _ => q) := by
  intro first second state bound
  rcases state.ahead_or with ahead | ⟨open',beyond⟩
  · have hash := ParallelAt.mark "#" rfl '#' rfl (by decide) state ahead
    refine hash.bind state fun _ _ rest left _ _ reached taken => ?_
    refine (?more : Parallel c limit place .later .firm (Kin c) _ _) rest left reached
      (state.within bound taken)
    exact .bind .ident fun _ _ _ => (next place).weaken
  · refine ⟨fun tokens rest read => ?_,fun _ inside _ => absurd inside open'⟩
    rcases beyond with rfl | ⟨rfl,followed⟩
    · cases read
    · exfalso
      rcases c.form with none | ⟨joint,span,comma⟩ | ⟨_,inner,comment,doc⟩
      · exact followed none
      · rw [comma] at read
        cases read
      · unfold Lexer.docTokens at doc
        split at doc
        case isFalse => cases doc
        obtain ⟨⟨token,span⟩,more,split,head,inside⟩ :=
          List.map_eq_cons_iff.mp (Option.some.inj doc).symm
        cases head
        rw [split] at read
        cases inner with
        | false =>
          obtain ⟨⟨token,span⟩,more,rfl,head,_⟩ := List.map_eq_cons_iff.mp inside
          cases head
          cases read
        | true =>
          obtain ⟨⟨token,span⟩,more,rfl,head,_⟩ := List.map_eq_cons_iff.mp inside
          cases head
          cases read

private theorem parallel_atom (rule : RulesKin c limit rules rules') (structs : Bool) :
    Parallel c limit place stage .solid (ExprKin c) (atom rules structs) (atom rules' structs) := by
  have core := rule.toRulesCore
  refine .nextSeen .literal .literal (fun token token' kin => .pure ⟨.literal kin,kin⟩)
    (.peekIf .opensAsyncBlock ?async (.peekIf (.opensBlockOf "try") (parallel_blockLike rule)
      (.peekIf .opensClosure (parallel_closure rule structs) (.peekIf (.led (by simp) (by simp) (by simp)) ?builtin
        (.peekIf .opensPathExpr (parallel_pathExpr rule structs) (.peekIf (.opening .parenthesis)
          (parallel_parenthesizedExpr core) (.peekIf (.keyword "break") (parallel_breakExpr core structs)
            (.peekIf (.keyword "continue") ?continuing (.peekIf (.keyword "return") ?returning
              (.peekIf (.keyword "become") ?becoming (.peekIf (.opening .bracket)
                (parallel_arrayExpr core) (.peekIf (.keyword "let") (parallel_letExpr core structs)
                  (.peekIf (.keyword "yield") ?yielding (.peekIf (.punct ".." rfl) ?range
                    (.peekIf (.keyword "_") ?blank (.peekIf .opensBlockLike (parallel_blockLike rule)
                      .fail))))))))))))))))
  case async =>
    refine .bind (.keyword "async") fun keyword keyword' kin => ?_
    refine .bind (.optionalKeyword "move") fun moved moved' kin' => ?_
    exact .bind (parallel_block core) fun body body' inner =>
      .pure (.other ((kin.append kin').append inner))
  case builtin =>
    refine .bind (.verbatim (R := Kin c) ?_) fun tokens tokens' kin => .pure ⟨.verbatim,kin⟩
    refine .bind (.keyword "builtin") fun _ _ _ => ?_
    exact (parallel_builtin fun _ => .rawGroup .parenthesis).weaken
  case continuing =>
    refine .bind (.keyword "continue") fun keyword keyword' kin => ?_
    exact .bind (.optionally .lifetime .lifetime) fun label label' kin' =>
      .pure (.other (kin.append kin'))
  case returning =>
    refine .bind (.keyword "return") fun keyword keyword' kin => ?_
    exact .bind (parallel_jumpValue core) fun value value' kin' => .pure (.other (kin.append kin'))
  case becoming =>
    refine .bind (.verbatim (R := ExprKin c) ?_) fun tokens tokens' kin => .pure ⟨.verbatim,kin⟩
    exact .bind (.keyword "become") fun _ _ _ => (core.expr _ true).weaken
  case yielding =>
    refine .bind (.keyword "yield") fun keyword keyword' kin => ?_
    exact .bind (parallel_jumpValue core) fun value value' kin' => .pure (.other (kin.append kin'))
  case range =>
    exact .bind (parallel_rangeRest core structs) fun tokens tokens' kin => .pure ⟨.range,kin⟩
  case blank =>
    exact .bind (.keyword "_") fun tokens tokens' kin => .pure (.other kin)

/-! What follows an atom. -/

private theorem kin_point (span span' : Span) :
    Kin c [⟨.punct '.' false,span⟩] [⟨.punct '.' false,span'⟩] := by
  have legible : (Token.punct '.' false).Legible := ⟨rfl,by decide⟩
  exact kin_token legible rfl span span'

private theorem kin_intersperse (numbers : List Nat) (span span' : Span) :
    Kin c ((numbers.map fun value => (⟨.literal (toString value),span⟩ : Lexeme)).intersperse
        ⟨.punct '.' false,span⟩)
      ((numbers.map fun value => (⟨.literal (toString value),span'⟩ : Lexeme)).intersperse
        ⟨.punct '.' false,span'⟩) := by
  have decimal (value : Nat) : Kin c [⟨.literal (toString value),span⟩]
      [⟨.literal (toString value),span'⟩] := kin_token (legible_decimal value) rfl span span'
  induction numbers with
  | nil => exact .nil
  | cons value numbers ih =>
    cases numbers with
    | nil => exact decimal value
    | cons next numbers => exact (decimal value).append ((kin_point span span').append ih)

/-- A number with points in it is taken apart in the same way in both runs. -/
private theorem indexes_kin {lexeme other : Lexeme} (kin : Kin c [lexeme] [other]) :
    (indexes? lexeme = none ∧ indexes? other = none) ∨ ∃ indexes indexes' dangling,
      indexes? lexeme = some (indexes,dangling) ∧ indexes? other = some (indexes',dangling) ∧
        Kin c indexes indexes' := by
  obtain ⟨token,span⟩ := lexeme
  obtain ⟨token',span'⟩ := other
  rcases kin.single_alike with same | ⟨_,sign,one,two⟩
  · cases same
    cases token with
    | literal text =>
      simp only [indexes?]
      split
      case isFalse => exact .inl ⟨rfl,rfl⟩
      generalize ((text.splitOn ".").getLast? == some "") = dangling
      cases List.mapM memberIndex?
          (if dangling = true then (text.splitOn ".").dropLast else text.splitOn ".") with
      | none => exact .inl ⟨rfl,rfl⟩
      | some numbers =>
        refine .inr ⟨_,_,dangling,rfl,rfl,(kin_intersperse numbers span span').append ?_⟩
        split
        · exact kin_point span span'
        · exact .nil
    | _ => exact .inl ⟨rfl,rfl⟩
  · cases one
    cases two
    exact .inl ⟨rfl,rfl⟩

private theorem parallel_callArguments (core : RulesCore c limit rules rules') :
    Parallel c limit place stage .solid (Kin c) (callArguments rules) (callArguments rules') :=
  .group .parenthesis (.bind (parallel_commaExprs core) fun _ _ each => .pure (kin_exprTokens each))

private theorem parallel_afterDot (rule : RulesKin c limit rules rules') :
    Parallel c limit place stage .solid (Kin c) (afterDot rules) (afterDot rules') := by
  refine .peekIf (.keyword "await") (.keyword "await") (.bind parallel_member ?_)
  rintro ⟨named,name⟩ ⟨named',name'⟩ ⟨same,kin⟩
  obtain rfl : named = named' := same
  refine .ifBool rfl ?_ (.pure kin)
  refine .either (.punct "::" rfl) (parallel_angledArguments rule).weaken (.value .none)
    fun arguments arguments' given => ?_
  refine .peek (.opening .parenthesis) fun ahead => .ifBool (by rw [given.isAbsent]) ?_ (.pure kin)
  exact .bind (parallel_callArguments rule.toRulesCore) fun inner inner' kin' =>
    .pure ((kin.append given.tokens).append kin')

theorem Plain.float : Plain opensFloat := by
  rintro ⟨token,span⟩ more seen
  cases token <;> first | rfl | cases seen

private theorem parallel_dotted (rule : RulesKin c limit rules rules') :
    Parallel c limit place stage .solid (Kin c) (dotted rules) (dotted rules') := by
  refine .bind (.punct "." rfl) fun dot dot' mark => ?_
  refine .nextSeen .float .float (fun number number' kin => ?_) ?_
  · rcases indexes_kin kin with ⟨one,two⟩ | ⟨indexes,indexes',dangling,one,two,kin'⟩
    · rw [one,two]
      exact .fail
    · rw [one,two]
      cases dangling with
      | true =>
        exact .bind (parallel_afterDot rule) fun after after' more =>
          .pure ((mark.append kin').append more)
      | false => exact .pure (mark.append kin')
  · exact .bind (parallel_afterDot rule) fun after after' more => .pure (mark.append more)

@[simp] theorem Blind.opensDot : Blind c (View.but (.punct ".") (.punct "..")) :=
  .but (.punct "." rfl) (.punct ".." rfl)

private theorem parallel_trailers (rule : RulesKin c limit rules rules') {subject subject' : Expr}
    (kin : ExprKin c subject subject') :
    Parallel c limit place stage .firm (ExprKin c) (trailers rules subject)
      (trailers rules' subject') := by
  have core := rule.toRulesCore
  refine .loop (fun subject subject' kin => ?_) kin
  refine .peekIf (.opening .parenthesis) ?call (.peek .opensDot fun dot =>
    .ifBool (by rw [kin.isRange]) ?member (.peekIf (.opening .bracket) ?index
      (.peek (.punct "?" rfl) fun mark => .ifBool (by rw [kin.isRange]) ?question (.pure ⟨kin,rfl⟩))))
  case call =>
    exact .bind (parallel_callArguments core) fun more more' kin' =>
      .pure ⟨.other (kin.tokens.append kin'),rfl⟩
  case member =>
    exact .bind (parallel_dotted rule) fun more more' kin' =>
      .pure ⟨.other (kin.tokens.append kin'),rfl⟩
  case index =>
    refine .bind (.group .bracket (.bind (core.expr _ true) fun _ _ inner => .pure inner.tokens))
      fun more more' kin' => .pure ⟨.other (kin.tokens.append kin'),rfl⟩
  case question =>
    exact .bind (.punct "?" rfl) fun more more' kin' => .pure ⟨.other (kin.tokens.append kin'),rfl⟩

private theorem parallel_prefixSign :
    Parallel c limit place stage .solid (Kin c) prefixSign prefixSign :=
  .peekIf (.punct "*" rfl) (.punct "*" rfl) (.peekIf (.punct "!" rfl) (.punct "!" rfl) (.punct "-" rfl))

private theorem ExprKin.prepend {attributes attributes' : Lexemes} {expr expr' : Expr}
    (kin : Kin c attributes attributes') (inner : ExprKin c expr expr') :
    ExprKin c (expr.prepend attributes) (expr'.prepend attributes') :=
  ⟨inner.form,kin.append inner.tokens⟩

theorem parallel_operand (rule : RulesKin c limit rules rules') (structs : Bool) :
    Parallel c limit place stage .solid (ExprKin c) (operand rules structs)
      (operand rules' structs) := by
  have core := rule.toRulesCore
  refine .getAt fun before before' state bound => ?_
  refine (parallel_attributeTokens rule).bindAt state bound
    fun attributes attributes' rest left kin reached bound taken => ?_
  refine .peek (Blind.punct "&" rfl).steady reached ?_
  cases View.punct "&" rest with
  | true =>
    refine (?reference : Parallel c limit place stage .solid (ExprKin c) _ _) rest left reached bound
    have target : Blind c (.any [.keyword "mut",.keyword "const"]) := .any (by simp)
    have raw : Blind c (.all [.keyword "raw",.second (.any [.keyword "mut",.keyword "const"])]) :=
      .led (by simp) (by simp) (by simp [target])
    refine .bind (.punct "&" rfl) fun ampersand ampersand' mark => ?_
    refine .bind (.optionally raw (.keyword "raw")) fun raw raw' kin' => ?_
    refine .bind (.optionalKeyword "mut") fun mutable mutable' kin'' => ?_
    refine .eitherIf (by rw [kin'.isEmpty,kin''.isEmpty]) (Parallel.keyword "const").weaken
      (.value .nil) fun constant constant' more => ?_
    have before := (((kin.append mark).append kin').append kin'').append more
    exact .bind (core.operand _ structs) fun target target' inner =>
      .pure (.other (before.append inner.tokens))
  | false =>
    have signs : Blind c (.any [.punct "*",.punct "!",.punct "-"]) := .any (by simp)
    refine .peek signs.steady reached ?_
    cases View.any [.punct "*",.punct "!",.punct "-"] rest with
    | true =>
      refine (?signed : Parallel c limit place stage .solid (ExprKin c) _ _) rest left reached bound
      refine .bind parallel_prefixSign fun sign sign' mark => ?_
      exact .bind (core.operand _ structs) fun target target' inner =>
        .pure (.other ((kin.append mark).append inner.tokens))
    | false =>
      refine (parallel_atom rule structs).bindAt reached bound
        fun atom atom' _ _ inner reached bound more => ?_
      have taken : c.Taken .solid before _ := taken.trans more
      refine (parallel_trailers rule inner).bindAt reached bound
        fun expr expr' rest left inner reached bound more => ?_
      have taken : c.Taken .solid before _ := taken.trans more
      obtain ⟨form,tokens⟩ := expr
      obtain ⟨form',tokens'⟩ := expr'
      have whole : ParallelAt c place .firm (ExprKin c) rest left
          (pure (Expr.prepend attributes ⟨form,tokens⟩))
          (pure (Expr.prepend attributes' ⟨form',tokens'⟩)) :=
        .pure reached ⟨_,.prepend kin inner,fun _ _ => rfl⟩
      obtain ⟨forms,_⟩ := id inner
      cases forms with
      | verbatim => exact .since state reached taken.weaken fun _ _ kin => ⟨.verbatim,kin⟩
      | range =>
        refine (?range : Parallel c limit place .later .firm (ExprKin c) _ _) rest left reached bound
        exact .bind (.require kin.isEmpty) fun _ _ _ => .pure inner
      | _ => exact whole

theorem parallel_expr (rule : RulesKin c limit rules rules') (structs : Bool) :
    Parallel c limit place stage .solid (ExprKin c) (expr rules structs) (expr rules' structs) :=
  .bind (parallel_operand rule structs) fun _ _ kin =>
    parallel_operators rule.toRulesCore structs .lowest kin

private theorem ExprKin.attributed {attributes attributes' : Lexemes} {expr expr' : Expr}
    (kin : Kin c attributes attributes') (inner : ExprKin c expr expr') :
    ExprKin c (expr.attributed attributes) (expr'.attributed attributes') := by
  obtain ⟨form,tokens⟩ := expr
  obtain ⟨form',tokens'⟩ := expr'
  have whole := ExprKin.prepend kin inner
  obtain ⟨forms,_⟩ := id inner
  cases forms with
  | verbatim => exact inner
  | _ => exact whole

theorem parallel_boundedExpr (rule : RulesKin c limit rules rules') :
    Parallel c limit place stage .solid (ExprKin c) (boundedExpr rules) (boundedExpr rules') := by
  have core := rule.toRulesCore
  refine .bind (parallel_attributeTokens rule) fun attributes attributes' kin => ?_
  refine .peekIf .opensBlockLike ?_ ?_
  · refine .bind (parallel_blockLike rule) fun body body' inner => ?_
    refine .peekIf (.any (by simp)) ?_ (.pure (.attributed kin inner))
    refine .bind (parallel_trailers rule inner) fun subject subject' inner => ?_
    exact parallel_operators core true .lowest (.attributed kin inner)
  · refine .bind (parallel_operand rule true) fun first first' inner => ?_
    exact parallel_operators core true .lowest (.attributed kin inner)

end

end CaseSynthesis.Grammar
