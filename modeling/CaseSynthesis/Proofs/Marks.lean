import CaseSynthesis.Command.Run
import CaseSynthesis.Proofs.Rendering
import Mathlib.Data.List.Forall2

/-! Which items of a program are expanded, and in which order. They are those that an attribute calls
for, one after the other as they stand in the program, and the first that cannot be expanded tells
the error. -/

namespace CaseSynthesis

namespace Grammar

def Attribute.lastName? (attr : Attribute) : Option String :=
  attr.path.last?.map fun segment => segment.name.text

def Attribute.Calls (attr : Attribute) (rule : Rule) : Prop :=
  attr.lastName? = some "nullable_enum" ∧ rule = .nullableEnum ∨
    attr.lastName? = some "codable_enum" ∧ rule = .codableEnum

def Attribute.isCall (attr : Attribute) : Bool :=
  attr.lastName? == some "nullable_enum" || attr.lastName? == some "codable_enum"

def FirstCall (attributes : List Attribute) (rule : Rule) (attr : Attribute)
    (others : List Attribute) : Prop :=
  ∃ before after, attributes = before ++ attr :: after ∧ others = before ++ after ∧
    (∀ earlier ∈ before, earlier.isCall = false) ∧ attr.Calls rule

/-- An attribute calls for a rule on this item. On modules, blocks of foreign items and all that is
no declaration, attributes count for nothing. -/
def Item.isCalled : Item → Bool
  | .enum item => item.attributes.any Attribute.isCall
  | .declared _ attributes _ _ _ => attributes.any Attribute.isCall
  | _ => false

/-- The arguments in what stands after the path of an attribute: none, what the delimiters hold, or
the value. -/
inductive AttributeInput.Passes : AttributeInput → Lexemes → Prop
  | empty : Passes .empty []
  | list (opening inside closing : Lexemes) : Passes (.list opening inside closing) inside
  | value (equals tokens : Lexemes) : Passes (.value equals tokens) tokens

inductive Item.Marks : Item → Marked → Prop
  | enum (item : EnumItem) {rule : Rule} {attr : Attribute} {others : List Attribute}
    {arguments : Lexemes} (first : FirstCall item.attributes rule attr others)
    (passed : attr.input.Passes arguments) :
    Marks (.enum item) ⟨rule,arguments,.enum { item with attributes := others }⟩
  | declared (kind : ItemKind) (attributes : List Attribute) (name head tail : Lexemes)
    {rule : Rule} {attr : Attribute} {others : List Attribute} {arguments : Lexemes}
    (first : FirstCall attributes rule attr others) (passed : attr.input.Passes arguments) :
    Marks (.declared kind attributes name head tail)
      ⟨rule,arguments,.declared kind others name head tail⟩

mutual

def Item.leaves : Item → List Item
  | .module _ _ _ items _ => leavesAll items
  | item => [item]

def leavesAll : List Item → List Item
  | [] => []
  | item :: rest => item.leaves ++ leavesAll rest

end

private theorem rule?_cases (attr : Attribute) :
    (∃ rule, attr.rule? = some rule ∧ attr.Calls rule ∧ attr.isCall = true) ∨
      (attr.rule? = none ∧ attr.isCall = false) := by
  unfold Attribute.Calls Attribute.isCall Attribute.lastName? Attribute.rule?
  cases attr.path.last? with
  | none => exact .inr ⟨rfl,rfl⟩
  | some last =>
    by_cases nullable : last.name.text = "nullable_enum"
    · exact .inl ⟨.nullableEnum,by simp [nullable,Rule.ofLabel?,Rule.all,Rule.label]⟩
    · by_cases codable : last.name.text = "codable_enum"
      · exact .inl ⟨.codableEnum,by simp [codable,Rule.ofLabel?,Rule.all,Rule.label]⟩
      · -- The one label left is that of the rule for expressions, which no attribute calls for.
        refine .inr ⟨?_,by simp [nullable,codable]⟩
        by_cases expression : "stringified" = last.name.text
        · simp [← expression,Rule.ofLabel?,Rule.all,Rule.label]
        · simp [Ne.symm nullable,Ne.symm codable,expression,Rule.ofLabel?,Rule.all,Rule.label]

private theorem arguments_passed (attr : Attribute) : attr.input.Passes attr.arguments := by
  unfold Attribute.arguments
  cases attr.input with
  | empty => exact .empty
  | list opening inside closing => exact .list opening inside closing
  | value equals tokens => exact .value equals tokens

/-- The first attribute that calls for a rule is taken, if there is any. -/
private theorem takeRule_cases (attributes : List Attribute) :
    (∃ rule attr others, takeRule attributes = some (rule,attr,others) ∧
      FirstCall attributes rule attr others ∧ attributes.any Attribute.isCall = true) ∨
      (takeRule attributes = none ∧ attributes.any Attribute.isCall = false) := by
  induction attributes with
  | nil => exact .inr ⟨rfl,rfl⟩
  | cons attr attributes ih =>
    rw [takeRule,List.any_cons]
    rcases rule?_cases attr with ⟨rule,found,calls,call⟩ | ⟨missing,quiet⟩
    · rw [found,call]
      exact .inl ⟨rule,attr,attributes,rfl,⟨[],attributes,rfl,rfl,nofun,calls⟩,rfl⟩
    · rw [missing,quiet,Bool.false_or]
      rcases ih with ⟨rule,later,_,found,⟨before,after,rfl,rfl,first,calls⟩,call⟩ | ⟨none,quiets⟩
      · refine .inl ⟨rule,later,attr :: (before ++ after),by rw [found]; rfl,?_,call⟩
        exact ⟨attr :: before,after,rfl,rfl,List.forall_mem_cons.mpr ⟨quiet,first⟩,calls⟩
      · exact .inr ⟨by rw [none]; rfl,quiets⟩

private theorem marked?_marks (item : Item) :
    List.Forall₂ Item.Marks ([item].filter Item.isCalled) item.marked?.toList := by
  cases item with
  | enum item =>
    rcases takeRule_cases item.attributes with ⟨rule,attr,others,found,first,call⟩ | ⟨none,quiet⟩
    · simpa [Item.isCalled,call,Item.marked?,Item.markable?,found] using
        Item.Marks.enum item first (arguments_passed attr)
    · simp [Item.isCalled,quiet,Item.marked?,Item.markable?,none]
  | declared kind attributes name head tail =>
    rcases takeRule_cases attributes with ⟨rule,attr,others,found,first,call⟩ | ⟨none,quiet⟩
    · simpa [Item.isCalled,call,Item.marked?,Item.markable?,found] using
        Item.Marks.declared kind attributes name head tail first (arguments_passed attr)
    · simp [Item.isCalled,quiet,Item.marked?,Item.markable?,none]
  | module | foreign | other => exact .nil

mutual

theorem Item.markedItems_marks : (item : Item) →
    List.Forall₂ Item.Marks (item.leaves.filter Item.isCalled) item.markedItems
  | .module _ _ _ items _ => by
    rw [Item.leaves,Item.markedItems]
    exact markedAll_marks items
  | .enum _ | .declared .. | .foreign .. | .other _ => marked?_marks _

private theorem markedAll_marks : (items : List Item) →
    List.Forall₂ Item.Marks ((leavesAll items).filter Item.isCalled) (markedAll items)
  | [] => .nil
  | item :: rest => by
    rw [leavesAll,List.filter_append,markedAll]
    exact List.rel_append (Item.markedItems_marks item) (markedAll_marks rest)

end

mutual

theorem Item.leaves_tokens : (item : Item) → (item.leaves.flatMap Item.tokens).Sublist item.tokens
  | .module _ _ _ items _ => by
    rw [Item.leaves,Item.tokens]
    exact ((leavesAll_tokens items).trans (List.sublist_append_right _ _)).trans
      (List.sublist_append_left _ _)
  | .enum _ | .declared .. | .foreign .. | .other _ => by simp [Item.leaves]

/-- The items stand in the order of their tokens, and no token belongs to two of them. -/
private theorem leavesAll_tokens : (items : List Item) →
    ((leavesAll items).flatMap Item.tokens).Sublist (Item.tokensAll items)
  | [] => .slnil
  | item :: rest => by
    rw [leavesAll,List.flatMap_append,Item.tokensAll]
    exact (Item.leaves_tokens item).append (leavesAll_tokens rest)

end

private theorem markedAll_append (first second : List Item) :
    markedAll (first ++ second) = markedAll first ++ markedAll second := by
  induction first with
  | nil => rw [List.nil_append,markedAll,List.nil_append]
  | cons item first ih => rw [List.cons_append,markedAll,markedAll,ih,List.append_assoc]

private theorem markedAll_module (attributes : List Attribute) (name : Lexeme) (head : Lexemes)
    (items : List Item) (tail : Lexemes) :
    markedAll [.module attributes name head items tail] = markedAll items := by
  rw [markedAll,Item.markedItems,markedAll,List.append_nil]

end Grammar

theorem mapM_eq_ok_iff {ε α β : Type} (function : α → Except ε β) (items : List α)
    (results : List β) :
    items.mapM function = .ok results ↔
      List.Forall₂ (fun item result => function item = .ok result) items results := by
  induction items generalizing results with
  | nil =>
    rw [List.mapM_nil,List.forall₂_nil_left_iff]
    exact ⟨fun same => (Except.ok.inj same).symm,fun same => congrArg Except.ok same.symm⟩
  | cons item items ih =>
    simp only [List.mapM_cons,bind_eq_ok_iff,ih,List.forall₂_cons_left_iff,pure,Except.pure,
      Except.ok.injEq]
    constructor
    · rintro ⟨result,first,rest,each,rfl⟩
      exact ⟨result,rest,first,each,rfl⟩
    · rintro ⟨result,rest,first,each,rfl⟩
      exact ⟨result,first,rest,each,rfl⟩

/-- The first item that fails tells the error. -/
private theorem mapM_eq_error {ε α β : Type} (function : α → Except ε β) (items : List α) (error : ε)
    (failed : items.mapM function = .error error) :
    ∃ before item after, items = before ++ item :: after ∧
      (∀ earlier ∈ before, (function earlier).isOk = true) ∧ function item = .error error := by
  induction items with
  | nil => contradiction
  | cons item items ih =>
    cases result : function item with
    | error cause =>
      simp only [List.mapM_cons,result,bind,Except.bind,Except.error.injEq] at failed
      exact ⟨[],item,items,rfl,nofun,by rw [result,failed]⟩
    | ok value =>
      cases rest : items.mapM function with
      | ok values => simp [result,rest,bind,Except.bind,pure,Except.pure] at failed
      | error cause =>
        simp only [List.mapM_cons,result,rest,bind,Except.bind,Except.error.injEq] at failed
        obtain ⟨before,found,after,rfl,fine,fails⟩ := ih (rest.trans (congrArg _ failed))
        refine ⟨item :: before,found,after,rfl,List.forall_mem_cons.mpr ⟨?_,fine⟩,fails⟩
        rw [result]
        rfl

def Marked.expanded (settings : Settings) (marked : Marked) : Except ExpandError Expanded :=
  expandItem settings marked.rule marked.arguments marked.item

private theorem report_isOk (settings : Settings) (marked : Marked) :
    (marked.report settings).isOk = (marked.expanded settings).isOk := by
  unfold Marked.report Marked.expanded
  cases expandItem settings marked.rule marked.arguments marked.item <;> rfl

private theorem report_eq_ok (settings : Settings) (marked : Marked) (report : Report)
    (reported : marked.report settings = .ok report) :
    ∃ expanded, marked.expanded settings = .ok expanded ∧
      report = ⟨marked.item.declName,marked.rule,expanded⟩ := by
  unfold Marked.report at reported
  unfold Marked.expanded
  cases result : expandItem settings marked.rule marked.arguments marked.item with
  | error cause => simp [result,Except.mapError,bind,Except.bind] at reported
  | ok expanded =>
    rw [result] at reported
    exact ⟨expanded,rfl,(Except.ok.inj reported).symm⟩

private theorem report_eq_error (settings : Settings) (marked : Marked) (error : ProgramError)
    (failed : marked.report settings = .error error) :
    ∃ cause, marked.expanded settings = .error cause ∧
      error = .item marked.item.declName cause := by
  unfold Marked.report at failed
  unfold Marked.expanded
  cases result : expandItem settings marked.rule marked.arguments marked.item with
  | error cause =>
    rw [result] at failed
    exact ⟨cause,rfl,(Except.error.inj failed).symm⟩
  | ok expanded => simp [result,Except.mapError,bind,Except.bind,pure,Except.pure] at failed

/-- All marked items are expanded in order, or the first that fails gives its error under its name. A
name that cannot be made an identifier stops the program instead of being told. -/
structure ExpandsInOrder (settings : Settings) (marks : List Marked)
    (result : Except ProgramError (List Report)) : Prop where
  succeeds : result.isOk = true ↔ ∀ marked ∈ marks, (marked.expanded settings).isOk = true
  reports : ∀ reports, result = .ok reports →
    List.Forall₂ (fun marked report => ∃ expanded, marked.expanded settings = .ok expanded ∧
      report = ⟨marked.item.declName,marked.rule,expanded⟩) marks reports
  fails : ∀ error, result = .error error →
    ∃ before marked after cause, marks = before ++ marked :: after ∧
      (∀ earlier ∈ before, (earlier.expanded settings).isOk = true) ∧
      marked.expanded settings = .error cause ∧ error = .item marked.item.declName cause ∧
      ((∀ fault, cause ≠ .ident fault) →
        error.message = "`" ++ marked.item.declName ++ "`: " ++ cause.message)

private theorem mapM_report_expandsInOrder (settings : Settings) (marks : List Marked) :
    ExpandsInOrder settings marks (marks.mapM fun marked => marked.report settings) where
  succeeds := by
    rw [isOk_mapM,List.all_eq_true]
    simp only [report_isOk]
  reports reports done :=
    ((mapM_eq_ok_iff _ marks reports).mp done).imp fun marked report => report_eq_ok settings marked report
  fails error failed := by
    obtain ⟨before,marked,after,rfl,fine,fails⟩ := mapM_eq_error _ marks error failed
    obtain ⟨cause,failing,rfl⟩ := report_eq_error settings marked error fails
    simp only [report_isOk] at fine
    exact ⟨before,marked,after,cause,rfl,fine,failing,rfl,fun _ => rfl⟩

/-- The marked items of a program are those that an attribute calls for, in order and each without the
first such attribute, the arguments of which it comes with, however deep in modules they stand. They
are expanded in that order. -/
theorem program_expands_marked_items (settings : Settings) :
    (∀ file : Grammar.File, List.Forall₂ Grammar.Item.Marks
      ((Grammar.leavesAll file.items).filter Grammar.Item.isCalled) file.markedItems) ∧
    (∀ items, ((Grammar.leavesAll items).flatMap Grammar.Item.tokens).Sublist
      (Grammar.Item.tokensAll items)) ∧
    (∀ attributes first second, Grammar.File.markedItems ⟨attributes,first ++ second⟩ =
      Grammar.File.markedItems ⟨attributes,first⟩ ++ Grammar.File.markedItems ⟨attributes,second⟩) ∧
    (∀ attributes before own name head items tail after,
      Grammar.File.markedItems
        ⟨attributes,before ++ .module own name head items tail :: after⟩ =
      Grammar.File.markedItems ⟨attributes,before ++ items ++ after⟩) ∧
    ∀ source file, readProgram source = .ok file →
      ExpandsInOrder settings file.markedItems (expandSource settings source) := by
  refine ⟨fun file => Grammar.markedAll_marks file.items,Grammar.leavesAll_tokens,
    fun _ => Grammar.markedAll_append,?_,?_⟩
  · intro attributes before own name head items tail after
    rw [Grammar.File.markedItems,Grammar.File.markedItems,← List.singleton_append]
    simp only [Grammar.markedAll_append,Grammar.markedAll_module,List.append_assoc]
  · intro source file read
    rw [expandSource,read]
    exact mapM_report_expandsInOrder settings file.markedItems

private theorem ok_of_toOption_map {ε α β : Type} (result : Except ε α) (function : α → β) (image : β)
    (found : result.toOption.map function = some image) :
    ∃ value, result = .ok value ∧ function value = image := by
  cases result with
  | error error => contradiction
  | ok value => exact ⟨value,rfl,Option.some.inj found⟩

def moduleText : String :=
  "mod m \x7b #[cfg(a)] #[b::nullable_enum] #[codable_enum] enum E \x7b A \x7d " ++
    "#[codable_enum(&str)] struct S; #[codable_enum = c] #[d] union U \x7b e: u8 \x7d \x7d"

def Marked.summary (marked : Marked) : Rule × List Token × String :=
  (marked.rule,marked.arguments.tokens,marked.item.declName)

private theorem moduleText_marked :
    ((readProgram moduleText).toOption.map fun file =>
      (file.markedItems.map Marked.summary,
        file.markedItems.all fun marked => (marked.expanded {}).isOk)) =
      some ([(.nullableEnum,[],"E"),
        (.codableEnum,[.punct '&' false,.ident ⟨"str",false⟩],"S"),
        (.codableEnum,[.ident ⟨"c",false⟩],"U")],false) := by decide +kernel

/-- The enum comes with the rule of its first call, and the struct cannot be expanded. -/
theorem program_expands_marked_items_module :
    ∃ file, readProgram moduleText = .ok file ∧
      file.markedItems.map Marked.summary =
        [(.nullableEnum,[],"E"),(.codableEnum,[.punct '&' false,.ident ⟨"str",false⟩],"S"),
          (.codableEnum,[.ident ⟨"c",false⟩],"U")] ∧
      (expandSource {} moduleText).isOk = false := by
  obtain ⟨file,read,evaluated⟩ := ok_of_toOption_map _ _ _ moduleText_marked
  obtain ⟨marks,failing⟩ := Prod.mk.inj evaluated
  obtain ⟨_,_,_,_,expands⟩ := program_expands_marked_items {}
  refine ⟨file,read,marks,?_⟩
  rw [Bool.eq_false_iff,ne_eq,(expands moduleText file read).succeeds,← List.all_eq_true,failing]
  exact Bool.false_ne_true

end CaseSynthesis
