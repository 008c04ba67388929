import CaseSynthesis.Grammar.Entry
import CaseSynthesis.Program.Lowering
import CaseSynthesis.Rule.Basic

/-! Items that an attribute asks to be expanded. -/

namespace CaseSynthesis

/-- A marked item: the rule that its attribute calls for, the arguments of the attribute, and
the item without that attribute. -/
structure Marked where
  rule : Rule
  arguments : Lexemes
  item : Grammar.Item

namespace Grammar

def Attribute.rule? (attr : Attribute) : Option Rule := do
  let last ← attr.path.last?
  match ← Rule.ofLabel? last.name.text with
  | .stringify => none
  | rule => some rule

def Attribute.arguments (attr : Attribute) : Lexemes :=
  match attr.input with
  | .empty => []
  | .list _ inside _ => inside
  | .value _ tokens => tokens

/-- Takes the first attribute out that calls for a rule. -/
def takeRule : List Attribute → Option (Rule × Attribute × List Attribute)
  | [] => none
  | attr :: rest =>
    match attr.rule? with
    | some rule => some (rule, attr, rest)
    | none => (takeRule rest).map fun (rule, found, others) => (rule, found, attr :: others)

def Item.markable? : Item → Option (List Attribute × (List Attribute → Item))
  | .enum item => some (item.attributes, fun attributes => .enum { item with attributes })
  | .declared kind attributes name head tail =>
    some (attributes, fun attributes => .declared kind attributes name head tail)
  | _ => none

def Item.marked? (item : Item) : Option Marked := do
  let (attributes, withAttributes) ← item.markable?
  let (rule, attr, others) ← takeRule attributes
  return ⟨rule, attr.arguments, withAttributes others⟩

mutual

/-- The marked items in an item. Those in a module are looked for, but it is none itself. -/
def Item.markedItems : Item → List Marked
  | .module _ _ _ items _ => markedAll items
  | item => item.marked?.toList

def markedAll : List Item → List Marked
  | [] => []
  | item :: rest => item.markedItems ++ markedAll rest

end

def File.markedItems (file : File) : List Marked := markedAll file.items

end Grammar

end CaseSynthesis
