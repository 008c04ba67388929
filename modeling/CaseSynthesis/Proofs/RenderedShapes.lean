import CaseSynthesis.Proofs.SourceTexts
import CaseSynthesis.Proofs.WrittenStrings

/-! Expressions rendered and read back. A node is read as an expression wherever it stands, and it has
the shape of the node unless a tuple has one element: such a tuple is rendered without a comma, and
read as its element in parentheses. -/

namespace CaseSynthesis

open Lexer (balanced)

namespace Expression

inductive Plural : Expression → Prop
  | tuple {elements : List Expression} (many : elements.length ≠ 1)
      (each : ∀ element ∈ elements, Plural element) : Plural (.tuple elements)
  | embedded (text : ExprText) : Plural (.embedded text)
  | stringLiteral (value : String) : Plural (.stringLiteral value)

/-- Induction over a node and the nodes in it. -/
private theorem induct {motive : Expression → Prop}
    (tuple : ∀ elements, (∀ element ∈ elements, motive element) → motive (.tuple elements))
    (embedded : ∀ text, motive (.embedded text))
    (stringLiteral : ∀ value, motive (.stringLiteral value)) : ∀ node, motive node
  | .tuple elements => tuple elements fun element _ => induct tuple embedded stringLiteral element
  | .embedded text => embedded text
  | .stringLiteral value => stringLiteral value

end Expression

def Lexemes.ofTokens (tokens : List Token) : Lexemes := tokens.map fun token => ⟨token,.empty⟩

theorem Lexemes.tokens_ofTokens (tokens : List Token) : (ofTokens tokens).tokens = tokens := by
  simp [ofTokens,Lexemes.tokens,Function.comp_def]

def Lexemes.unplaced (lexemes : Lexemes) : Lexemes := ofTokens lexemes.tokens

theorem Lexemes.tokens_of_unplaced {first second : Lexemes} (same : first.unplaced = second.unplaced) :
    first.tokens = second.tokens := by
  have tokens := congrArg Lexemes.tokens same
  rwa [unplaced,unplaced,tokens_ofTokens,tokens_ofTokens] at tokens

namespace Grammar

open CaseSynthesis.Grammar.Parser

def ExprForm.unplaced : ExprForm → ExprForm
  | .literal lexeme => .literal ⟨lexeme.token,.empty⟩
  | .tuple elements => .tuple (elements.map Lexemes.unplaced)
  | form => form

def Expr.unplaced (expr : Expr) : Expr := ⟨expr.form.unplaced,expr.tokens.unplaced⟩

/-- The tokens of a node, of which `written` stands for the embedded expression, read as an expression
of the shape of the node. -/
inductive ReadsAs (written : List Token) (embedded : Expr) : Expression → Lexemes → Prop
  | tuple {elements : List Expression} {stream : Lexemes} {expr : Expr} {pieces parts : List Lexemes}
      (read : parseExpr stream = some expr) (form : expr.form = .tuple parts)
      (rendered : List.Forall₂ (fun element piece =>
        Lexemes.tokens piece = Rendering.expression written element) elements pieces)
      (same : List.Forall₂ (fun piece part =>
        (parseExpr piece).map (fun inner => inner.tokens.tokens) = some (Lexemes.tokens part))
        pieces parts)
      (each : List.Forall₂ (ReadsAs written embedded) elements pieces) :
      ReadsAs written embedded (.tuple elements) stream
  | embedded (text : ExprText) {stream : Lexemes} {expr : Expr} (read : parseExpr stream = some expr)
      (same : expr.unplaced = embedded.unplaced) : ReadsAs written embedded (.embedded text) stream
  | stringLiteral (value : String) {stream : Lexemes} {expr : Expr}
      (read : parseExpr stream = some expr) (denotes : expr.string? = some value) :
      ReadsAs written embedded (.stringLiteral value) stream

/-! The embedded expression, before a comma or at the end of a group. -/

section

variable {c : Comparison} {stream again output rest : Lexemes} {expr embedded : Expr} {depth depth' : Nat}

private theorem Kin.unplaced {first second : Lexemes} (kin : Kin c first second) (strict : ¬ c.loosened) :
    second.unplaced = first.unplaced := by
  unfold Lexemes.unplaced
  rw [kin.tokens_eq strict]

private theorem ExprFormKin.unplaced {form form' : ExprForm} (kin : ExprFormKin c form form')
    (strict : ¬ c.loosened) : form'.unplaced = form.unplaced := by
  cases kin with
  | literal kin =>
    have same := kin.unplaced strict
    simpa [Lexemes.unplaced,Lexemes.ofTokens,Lexemes.tokens,ExprForm.unplaced] using same
  | @tuple elements elements' each =>
    have same : elements'.map Lexemes.unplaced = elements.map Lexemes.unplaced := by
      induction each with
      | nil => rfl
      | cons head _ ih => rw [List.map_cons,List.map_cons,head.unplaced strict,ih]
    exact congrArg ExprForm.tuple same
  | _ => rfl

private theorem ExprKin.unplaced {other : Expr} (kin : ExprKin c expr other) (strict : ¬ c.loosened) :
    other.unplaced = expr.unplaced := by
  simp only [Expr.unplaced,kin.form.unplaced strict,kin.tokens.unplaced strict]

/-- The expression that a stream is read as is read from a longer one too. -/
private theorem run_expr_beyond (compared : c.compared) (strict : ¬ c.loosened) (bare : c.tail = [])
    (same : c.Matches stream again) (sound : Sound stream) (deep : again.length < depth)
    (deep' : again.length < depth') (read : (nested depth).expr true stream = some (expr,[])) :
    ∃ other, (nested depth').expr true again = some (other,c.beyond) ∧
      other.unplaced = expr.unplaced := by
  have rule : RulesKin c (again.length + 1) (nested depth) (nested depth') := rulesKin_nested deep deep'
  have state : c.State .outside stream again :=
    ⟨sound,.inl ⟨stream,by simp [bare],fun _ => same,nofun,nofun⟩⟩
  obtain ⟨other,left,after,_,kin,second⟩ := (rule.expr .outside true stream again state
    fun _ _ => Nat.lt_succ_self _).1 expr [] read
  have live : c.Live .outside [] left := by
    rcases after.reached with live | ⟨followed,_⟩
    · exact live
    · exact absurd bare followed
  have run := second compared live
  obtain ⟨shared,split,follow,_⟩ := live
  obtain ⟨rfl,_⟩ := List.append_eq_nil_iff.mp split.symm
  have remaining := follow compared
  cases remaining
  exact ⟨other,run,kin.unplaced strict⟩

theorem run_embedded (sound : Sound stream) (read : parseExpr stream = some embedded)
    (same : output.tokens = stream.tokens) (ended : Ended rest)
    (deep : (output ++ rest).length < depth) :
    ∃ expr, (nested depth).expr true (output ++ rest) = some (expr,rest) ∧
      expr.unplaced = embedded.unplaced := by
  have whole : (nested (stream.length + 2)).expr true stream = some (embedded,[]) := whole_eq_some read
  have size : output.length = stream.length := by
    simpa [Lexemes.tokens] using congrArg List.length same
  have long : stream.length < depth := by
    rw [List.length_append] at deep
    omega
  -- The rules may be nested deeper, and then something may follow the expression.
  let even : Comparison := ⟨[],[],True,False,.inl rfl,.inl rfl⟩
  obtain ⟨deeper,run,placed⟩ : ∃ other, (nested depth).expr true stream = some (other,[]) ∧
      other.unplaced = embedded.unplaced :=
    run_expr_beyond (c := even) trivial id rfl (even.matches_of_tokens rfl rfl) sound (by omega) long
      whole
  let longer : Comparison := ⟨[],rest,True,False,.inl rfl,.inr ⟨rfl,ended⟩⟩
  obtain ⟨expr,run',placed'⟩ := run_expr_beyond (c := longer) trivial id rfl
    (longer.matches_beyond same) sound deep deep run
  exact ⟨expr,run',placed'.trans placed⟩

/-- An expression does not start where a group ends. -/
private theorem atEnd_of_read (sound : Sound stream) (read : parseExpr stream = some embedded)
    (same : output.tokens = stream.tokens) (rest : Lexemes) : View.atEnd (output ++ rest) = false := by
  have whole : (nested (stream.length + 2)).expr true stream = some (embedded,[]) := whole_eq_some read
  obtain ⟨_,_,_,⟨taken,split,enclosed,filled,_⟩,_⟩ := ((rulesCore_zero (stream.length + 2) .alone
    (nested (stream.length + 2))).expr .outside true stream [] (alone_state sound) False.elim).1
    embedded [] whole
  rw [List.append_nil] at split
  subst split
  cases output with
  | nil => exact absurd (List.map_eq_nil_iff.mp same.symm) filled
  | cons lexeme output =>
    obtain ⟨token,span⟩ := lexeme
    cases token with
    | closing delimiter =>
      have closed := enclosed [] []
      rw [← same] at closed
      cases closed
    | _ => rfl

end

/-! Nodes. -/

def Shown (embedded : Expr) : Expression → Expr → Prop
  | .tuple elements, expr => if elements.length = 1 then expr.form = .other
    else ∃ parts, expr.form = .tuple parts ∧
      parts.map Lexemes.tokens = elements.map (Rendering.expression embedded.tokens.tokens)
  | .embedded _, expr => expr.unplaced = embedded.unplaced
  | .stringLiteral value, expr => expr.string? = some value

structure Renders (embedded : Expr) (node : Expression) (expr : Expr) : Prop where
  tokens : expr.tokens.tokens = Rendering.expression embedded.tokens.tokens node
  shown : Shown embedded node expr

def Reads (written : List Token) (embedded : Expr) (depth : Nat) (node : Expression) : Prop :=
  ∀ output rest : Lexemes, output.tokens = Rendering.expression written node → Ended rest →
    (output ++ rest).length < depth → View.atEnd (output ++ rest) = false ∧
      ∃ expr, (nested depth).expr true (output ++ rest) = some (expr,rest) ∧ Renders embedded node expr

section

variable {stream : Lexemes} {embedded : Expr} {written : List Token} {depth : Nat}

private theorem reads_embedded (sound : Sound stream) (read : parseExpr stream = some embedded)
    (text : ExprText) : Reads stream.tokens embedded depth (.embedded text) := by
  intro output rest same ended short
  obtain ⟨expr,run,placed⟩ := run_embedded sound read same ended short
  refine ⟨atEnd_of_read sound read same rest,expr,run,?_,placed⟩
  exact Lexemes.tokens_of_unplaced (congrArg Expr.tokens placed)

private theorem reads_stringLiteral (value : String) : Reads written embedded depth (.stringLiteral value) := by
  intro output rest same ended short
  obtain ⟨⟨token,span⟩,rfl,rfl⟩ := List.map_eq_singleton_iff.mp same
  obtain _ | depth := depth
  · cases short
  refine ⟨rfl,_,run_expr_literal (nested depth) true _ span ended,rfl,?_⟩
  exact StringLiteral.value?_literalText value

private theorem elementTokens_cons (written : List Token) (element next : Expression)
    (elements : List Expression) :
    Rendering.elementTokens written (element :: next :: elements) =
      Rendering.expression written element ++
        (.punct ',' false :: Rendering.elementTokens written (next :: elements)) := by
  rw [Rendering.elementTokens]
  · simp [Rendering.sign,Rendering.sign.go]
  · simp

/-- A round that reads an expression and the comma after it. -/
private theorem run_separatedRound_comma {input rest : Lexemes} {expr : Expr} {mark : Span}
    (before : Separated Expr) (ahead : View.atEnd input = false)
    (read : (nested depth).expr true input = some (expr,⟨.punct ',' false,mark⟩ :: rest)) :
    separatedRound .atEnd "," ((nested depth).expr true) before input =
      some ((before ++ [(expr,[⟨.punct ',' false,mark⟩])],true),rest) := by
  rw [run_separatedRound,if_neg (by simp [ahead]),read,Option.bind_some]
  rfl

/-- The elements of a tuple, up to where its group ends. -/
private theorem run_elements (elements : List Expression)
    (each : ∀ element ∈ elements, Reads written embedded depth element) (before : Separated Expr)
    (inside after : Lexemes) (delimiter : Delimiter) (span : Span)
    (same : inside.tokens = Rendering.elementTokens written elements)
    (short : (inside ++ ⟨.closing delimiter,span⟩ :: after).length < depth) :
    ∃ exprs, loop (separatedRound .atEnd "," ((nested depth).expr true)) before
        (inside ++ ⟨.closing delimiter,span⟩ :: after) =
          some (before ++ exprs,⟨.closing delimiter,span⟩ :: after) ∧
      List.Forall₂ (fun element phrase => Renders embedded element phrase.1) elements exprs ∧
      Lexemes.tokens (exprTokens exprs) =
        Rendering.elementTokens embedded.tokens.tokens elements := by
  induction elements generalizing before inside with
  | nil =>
    obtain rfl : inside = [] := List.map_eq_nil_iff.mp same
    refine ⟨[],?_,.nil,rfl⟩
    rw [List.append_nil]
    exact run_loop_stop _ _ _ _ _ (run_separatedRound _ _ _ _ _)
  | cons element elements ih =>
    cases elements with
    | nil =>
      obtain ⟨ahead,expr,read,renders⟩ := each element (by simp) inside _ same
        (.closing delimiter span after) short
      have round := run_separatedRound View.atEnd "," ((nested depth).expr true) before
        (inside ++ ⟨.closing delimiter,span⟩ :: after)
      rw [ahead,read] at round
      refine ⟨[(expr,[])],run_loop_stop _ _ _ _ _ round,.cons renders .nil,?_⟩
      simpa [exprTokens,Separated.tokens,Rendering.elementTokens] using renders.tokens
    | cons next elements =>
      have parts : inside.tokens = Rendering.expression written element ++
          (.punct ',' false :: Rendering.elementTokens written (next :: elements)) := by
        rw [same,elementTokens_cons]
      obtain ⟨output,more,rfl,first,marked⟩ := split_tokens parts
      obtain ⟨⟨token,mark⟩,inside,rfl,rfl,others⟩ := List.map_eq_cons_iff.mp marked
      rw [List.append_assoc] at short ⊢
      obtain ⟨ahead,expr,read,renders⟩ := each element (by simp) output _ first
        (.comma false mark (inside ++ ⟨.closing delimiter,span⟩ :: after)) short
      have round := run_separatedRound_comma before ahead read
      have fewer : (inside ++ ⟨.closing delimiter,span⟩ :: after).length < (output ++
          (⟨.punct ',' false,mark⟩ :: (inside ++ ⟨.closing delimiter,span⟩ :: after))).length := by
        simp only [List.length_append,List.length_cons]
        omega
      obtain ⟨exprs,run,related,tokens⟩ := ih (fun other member => each other (by simp [member]))
        (before ++ [(expr,[⟨.punct ',' false,mark⟩])]) inside others (fewer.trans short)
      refine ⟨(expr,[⟨.punct ',' false,mark⟩]) :: exprs,?_,.cons renders related,?_⟩
      · change loop _ _ (output ++ (⟨.punct ',' false,mark⟩ :: (inside ++
          ⟨.closing delimiter,span⟩ :: after))) = _
        rw [run_loop_more _ _ _ _ _ round fewer,run,List.append_assoc]
        rfl
      · have split : exprTokens ((expr,[⟨.punct ',' false,mark⟩]) :: exprs) =
            expr.tokens ++ ⟨.punct ',' false,mark⟩ :: exprTokens exprs := by
          simp [exprTokens,Separated.tokens]
        rw [split,tokens_append,renders.tokens,elementTokens_cons,← tokens]
        rfl

/-- A group of expressions is a tuple unless it has one element, with no comma after it. -/
def groupForm : Separated Expr → ExprForm
  | [(_,[])] => .other
  | elements => .tuple (elements.map fun element => element.1.tokens)

private theorem run_parenthesized (rules : Rules) (opening closing : Span) (inside rest : Lexemes)
    (elements : Separated Expr)
    (read : commaExprs rules (inside ++ ⟨.closing .parenthesis,closing⟩ :: rest) =
      some (elements,⟨.closing .parenthesis,closing⟩ :: rest)) :
    parenthesizedExpr rules (⟨.opening .parenthesis,opening⟩ ::
        (inside ++ ⟨.closing .parenthesis,closing⟩ :: rest)) =
      some (⟨groupForm elements,⟨.opening .parenthesis,opening⟩ ::
        (exprTokens elements ++ [⟨.closing .parenthesis,closing⟩])⟩,rest) := by
  have closed : closeGroup .parenthesis [⟨.opening .parenthesis,opening⟩] elements
      (⟨.closing .parenthesis,closing⟩ :: rest) =
        some (([⟨.opening .parenthesis,opening⟩],elements,[⟨.closing .parenthesis,closing⟩]),rest) := by
    simp [closeGroup]
  rw [parenthesizedExpr,run_bind,run_enclosed,read,Option.bind_some,closed]
  clear read closed
  rcases elements with _ | ⟨⟨element,_ | ⟨mark,marks⟩⟩,_ | ⟨next,elements⟩⟩ <;> rfl

private theorem parts_of_renders {elements : List Expression} {exprs : Separated Expr}
    (related : List.Forall₂ (fun element phrase => Renders embedded element phrase.1) elements exprs) :
    (exprs.map fun phrase => phrase.1.tokens).map Lexemes.tokens =
      elements.map (Rendering.expression embedded.tokens.tokens) := by
  induction related with
  | nil => rfl
  | cons renders _ ih => exact congrArg₂ List.cons renders.tokens ih

private theorem shown_of_renders {elements : List Expression} {exprs : Separated Expr}
    (related : List.Forall₂ (fun element phrase => Renders embedded element phrase.1) elements exprs)
    (tokens : Lexemes.tokens (exprTokens exprs) =
      Rendering.elementTokens embedded.tokens.tokens elements) (whole : Lexemes) :
    Shown embedded (.tuple elements) ⟨groupForm exprs,whole⟩ := by
  have parts := parts_of_renders related
  cases related with
  | nil => exact ⟨[],rfl,rfl⟩
  | @cons element phrase elements exprs renders others =>
    obtain ⟨expr,mark⟩ := phrase
    cases others with
    | nil =>
      have bare : mark = [] := by
        have all : expr.tokens.tokens ++ Lexemes.tokens mark =
            Rendering.expression embedded.tokens.tokens element := by
          simpa [exprTokens,Separated.tokens,Rendering.elementTokens,tokens_append] using tokens
        rw [← renders.tokens] at all
        exact List.map_eq_nil_iff.mp (List.append_right_eq_self.mp all)
      subst bare
      rfl
    | cons renders' others =>
      refine ⟨_,?_,parts⟩
      cases mark <;> rfl

private theorem reads_tuple (elements : List Expression)
    (each : ∀ element ∈ elements, ∀ depth, Reads written embedded depth element) :
    Reads written embedded depth (.tuple elements) := by
  intro output rest same ended short
  obtain ⟨⟨_,opening⟩,more,rfl,rfl,grouped⟩ := List.map_eq_cons_iff.mp same
  obtain ⟨inside,last,rfl,within,closed⟩ := split_tokens grouped
  obtain ⟨⟨_,closing⟩,rfl,rfl⟩ := List.map_eq_singleton_iff.mp closed
  obtain _ | depth := depth
  · cases short
  have split : (⟨.opening .parenthesis,opening⟩ :: (inside ++ [⟨.closing .parenthesis,closing⟩]) : Lexemes) ++
      rest = ⟨.opening .parenthesis,opening⟩ :: (inside ++ ⟨.closing .parenthesis,closing⟩ :: rest) := by
    simp
  rw [split] at short ⊢
  obtain ⟨exprs,run,related,tokens⟩ := run_elements elements (fun element member => each element member depth)
    [] inside rest .parenthesis closing within (Nat.lt_of_succ_lt_succ short)
  have group := run_parenthesized (nested depth) opening closing inside rest exprs run
  refine ⟨rfl,_,run_expr_atom (nested depth) true ended nofun group ?_,?_,
    shown_of_renders related tokens _⟩
  · unfold groupForm
    split <;> exact ⟨nofun,nofun⟩
  · change .opening .parenthesis :: Lexemes.tokens (exprTokens exprs ++ _) = _
    rw [tokens_append,tokens]
    rfl

/-- Every node is read as an expression, wherever no expression goes on after it. -/
private theorem reads_node (sound : Sound stream) (read : parseExpr stream = some embedded) (node : Expression) :
    ∀ depth, Reads stream.tokens embedded depth node := by
  induction node using Expression.induct with
  | tuple elements each => exact fun depth => reads_tuple elements each
  | embedded text => exact fun depth => reads_embedded sound read text
  | stringLiteral value => exact fun depth => reads_stringLiteral value

private theorem parseExpr_rendered (sound : Sound stream) (read : parseExpr stream = some embedded)
    (node : Expression) (output : Lexemes)
    (rendered : output.tokens = Rendering.expression stream.tokens node) :
    ∃ expr, parseExpr output = some expr ∧ Renders embedded node expr := by
  obtain ⟨_,expr,run,renders⟩ := reads_node sound read node (output.length + 2) output [] rendered .nil
    (by simp)
  rw [List.append_nil] at run
  exact ⟨expr,whole_read _ _ _ run,renders⟩

/-! Shapes. -/

private theorem readsAs_of_plural (sound : Sound stream) (read : parseExpr stream = some embedded)
    {node : Expression} (plural : node.Plural) (output : Lexemes)
    (rendered : output.tokens = Rendering.expression stream.tokens node) :
    ReadsAs stream.tokens embedded node output := by
  induction plural generalizing output with
  | @tuple elements many each ih =>
    obtain ⟨expr,parsed,renders⟩ := parseExpr_rendered sound read _ output rendered
    have shown := renders.shown
    rw [Shown,if_neg many] at shown
    obtain ⟨parts,form,tokens⟩ := shown
    let piece (element : Expression) : Lexemes := .ofTokens (Rendering.expression stream.tokens element)
    have pieces (element : Expression) :
        (piece element).tokens = Rendering.expression stream.tokens element := Lexemes.tokens_ofTokens _
    have written : List.Forall₂ (fun element piece =>
        Lexemes.tokens piece = Rendering.expression stream.tokens element) elements
        (elements.map piece) :=
      List.forall₂_map_right_iff.mpr (List.forall₂_same.mpr fun element _ => pieces element)
    have kept : List.Forall₂ (ReadsAs stream.tokens embedded) elements (elements.map piece) :=
      List.forall₂_map_right_iff.mpr (List.forall₂_same.mpr fun element member =>
        ih element member _ (pieces element))
    have mapped : List.Forall₂ (· = ·) (elements.map (Rendering.expression embedded.tokens.tokens))
        (parts.map Lexemes.tokens) := by
      rw [List.forall₂_eq_eq_eq]
      exact tokens.symm
    have same := List.forall₂_map_left_iff.mp (List.forall₂_map_right_iff.mp mapped)
    refine .tuple parsed form written (List.forall₂_map_left_iff.mpr (same.imp ?_)) kept
    intro element part equal
    obtain ⟨inner,found,renders⟩ := parseExpr_rendered sound read element _ (pieces element)
    rw [found,Option.map_some,renders.tokens,equal]
  | embedded text =>
    obtain ⟨expr,parsed,renders⟩ := parseExpr_rendered sound read _ output rendered
    exact .embedded text parsed renders.shown
  | stringLiteral value =>
    obtain ⟨expr,parsed,renders⟩ := parseExpr_rendered sound read _ output rendered
    exact .stringLiteral value parsed renders.shown

private theorem exists_of_mem_left {α β : Type} {R : α → β → Prop} {firsts : List α} {seconds : List β}
    (related : List.Forall₂ R firsts seconds) {a : α} (member : a ∈ firsts) : ∃ b, R a b := by
  induction related with
  | nil => cases member
  | cons head _ ih =>
    rcases List.mem_cons.mp member with rfl | later
    · exact ⟨_,head⟩
    · exact ih later

private theorem plural_of_readsAs (sound : Sound stream) (read : parseExpr stream = some embedded)
    (node : Expression) (output : Lexemes)
    (rendered : output.tokens = Rendering.expression stream.tokens node)
    (kept : ReadsAs stream.tokens embedded node output) : node.Plural := by
  induction node using Expression.induct generalizing output with
  | tuple elements ih =>
    cases kept with
    | tuple parsed form written same each =>
      refine .tuple (fun single => ?_) fun element member => ?_
      · obtain ⟨expr,found,renders⟩ := parseExpr_rendered sound read _ output rendered
        rw [parsed] at found
        cases found
        have shown := renders.shown
        rw [Shown,if_pos single,form] at shown
        cases shown
      · have both := List.Forall₂.mp (fun _ _ => And.intro) written each
        obtain ⟨piece,written,each⟩ := exists_of_mem_left both member
        exact ih element member piece written each
  | embedded text => exact .embedded text
  | stringLiteral value => exact .stringLiteral value

end

/-- What a node is rendered as is read as an expression, with the tokens of the node. It is of the shape
of the node, with a tuple of as many elements in the same order for each tuple, if and only if no tuple
has exactly one element. -/
theorem rendering_keeps_shape_iff (stream : Lexemes) (embedded : Expr) (sound : Sound stream)
    (read : parseExpr stream = some embedded) (node : Expression) (output : Lexemes)
    (rendered : output.tokens = Rendering.expression stream.tokens node) :
    (∃ expr, parseExpr output = some expr ∧
      expr.tokens.tokens = Rendering.expression embedded.tokens.tokens node) ∧
      (ReadsAs stream.tokens embedded node output ↔ node.Plural) := by
  obtain ⟨expr,parsed,renders⟩ := parseExpr_rendered sound read node output rendered
  exact ⟨⟨expr,parsed,renders.tokens⟩,plural_of_readsAs sound read node output rendered,
    fun plural => readsAs_of_plural sound read plural output rendered⟩

def sum : Lexemes := (Lexer.lex "a+b").getD []

def spread : Expression :=
  .tuple [.embedded ⟨"a+b"⟩,.tuple [],.tuple [.stringLiteral "a+b",.embedded ⟨"a+b"⟩]]

private theorem spread_plural : spread.Plural := by
  refine .tuple (by decide) ?_
  simp only [List.forall_mem_cons]
  refine ⟨.embedded _,.tuple (by decide) nofun,.tuple (by decide) ?_,nofun⟩
  simp only [List.forall_mem_cons]
  exact ⟨.stringLiteral _,.embedded _,nofun⟩

theorem rendering_keeps_shape_iff_spread : ∃ embedded, Sound sum ∧ parseExpr sum = some embedded ∧
    ReadsAs sum.tokens embedded spread (.ofTokens (Rendering.expression sum.tokens spread)) := by
  have facts : Lexer.lex "a+b" = some sum ∧ (parseExpr sum).isSome = true := by decide +kernel
  obtain ⟨lexed,some⟩ := facts
  obtain ⟨embedded,parsed⟩ := Option.isSome_iff_exists.mp some
  have sound := sound_of_lex lexed
  exact ⟨embedded,sound,parsed,(rendering_keeps_shape_iff sum embedded sound parsed spread _
    (Lexemes.tokens_ofTokens _)).2.mpr spread_plural⟩

/-- A tuple of one element is rendered as the element in parentheses, and read as such. -/
theorem single_not_read_as_tuple :
    Rendering.expression [.ident ⟨"a",false⟩] (.tuple [.embedded ⟨"a"⟩]) =
        [.opening .parenthesis,.ident ⟨"a",false⟩,.closing .parenthesis] ∧
      (parseExpr (.ofTokens [.opening .parenthesis,.ident ⟨"a",false⟩,.closing .parenthesis])).isSome = true ∧
      ∀ embedded, ¬ ReadsAs [.ident ⟨"a",false⟩] embedded (.tuple [.embedded ⟨"a"⟩])
        (.ofTokens [.opening .parenthesis,.ident ⟨"a",false⟩,.closing .parenthesis]) := by
  have shape : (parseExpr (.ofTokens [.opening .parenthesis,.ident ⟨"a",false⟩,.closing .parenthesis])).map
      (fun expr => expr.form matches .tuple _) = some false := by decide +kernel
  refine ⟨rfl,?_,fun embedded kept => ?_⟩
  · obtain ⟨expr,parsed,_⟩ := Option.map_eq_some_iff.mp shape
    rw [parsed]
    rfl
  cases kept with
  | tuple parsed form =>
    rw [parsed,Option.map_some,form] at shape
    cases shape

end Grammar

end CaseSynthesis
