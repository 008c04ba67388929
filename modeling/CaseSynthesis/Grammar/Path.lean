import CaseSynthesis.Grammar.Phrase

/-! Attributes, visibilities, paths and their generic arguments. -/

namespace CaseSynthesis.Grammar
open CaseSynthesis.Grammar.Parser

def opensPlainSegment : View :=
  .any [.ident, .keyword "super", .keyword "self", .keyword "Self", .keyword "crate"]

def plainPath : Parser Path := do
  let leading ← optionalPunct "::"
  let first ← take opensPlainSegment
  let segments ← loop (fun segments => do
    if ← peek (.punct "::") then
      let separator ← punct "::"
      return (segments ++ [⟨separator, ← take opensPlainSegment, .none⟩], true)
    return (segments, false)) [⟨leading, first, .none⟩]
  return ⟨segments⟩

def opensGroup : View := .any [.opening .parenthesis, .opening .bracket, .opening .brace]

def opensAttribute : View := .all [.punct "#", .second (.opening .bracket)]

def opensInnerAttribute : View := .all [.punct "#", .second (.punct "!")]

def attributeInput (rules : Rules) : Parser AttributeInput := do
  if ← peek opensGroup then
    let tokens ← anyGroup
    return .list (tokens.take 1) (tokens.drop 1).dropLast (tokens.drop (tokens.length - 1))
  else if ← peek (.punct "=") then
    let equals ← punct "="
    require !(← peek opensAttribute)
    return .value equals (← rules.expr true).tokens
  else return .empty

def attribute? (rules : Rules) (inner : Bool) : Parser Attribute := do
  let hash ← punct "#"
  let bang ← if inner then punct "!" else pure []
  let (opening, (path, input), closing) ← enclosed .bracket do
    let path ← if ← peek (.keyword "unsafe") then
        pure ⟨[⟨[], ← next, .none⟩]⟩
      else plainPath
    return (path, ← attributeInput rules)
  return ⟨inner, hash ++ bang ++ opening, path, input, closing⟩

def outerAttributes (rules : Rules) : Parser (List Attribute) :=
  many (.punct "#") (attribute? rules false)

def innerAttributes (rules : Rules) : Parser (List Attribute) :=
  many opensInnerAttribute (attribute? rules true)

def attributeTokens (rules : Rules) : Parser Lexemes :=
  return (← outerAttributes rules).flatMap Attribute.tokens

def opensRestriction : View := .any [.keyword "crate", .keyword "self", .keyword "super"]

/-- The part of a visibility in parentheses, as told by what stands inside them. A tuple field may
start with a parenthesis as well, so what only looks like a restriction is left alone. -/
def restrictionOf (inside : Lexemes) : Parser Lexemes :=
  if opensRestriction inside then
    if View.second .atEnd inside then group .parenthesis word else return []
  else if View.keyword "in" inside then
    group .parenthesis (return (← keyword "in") ++ (← plainPath).tokens)
  else return []

def restriction : Parser Lexemes := fun input => restrictionOf (input.drop 1) input

def visibility : Parser Lexemes :=
  optionally (.keyword "pub") do
    return (← keyword "pub") ++ (← optionally (.opening .parenthesis) restriction)

def block (rules : Rules) : Parser Lexemes := group .brace rules.statements

def attributedBlock (rules : Rules) : Parser Lexemes :=
  group .brace do
    return (← innerAttributes rules).flatMap Attribute.tokens ++ (← rules.statements)

def constArgument (rules : Rules) : Parser Lexemes := do
  if ← peek .literal then literal
  else if ← peek .ident then ident
  else attributedBlock rules

def namesAssociated : TypeForm → Bool
  | .path qualified =>
    !qualified.isQualified && !qualified.path.isGlobal &&
      match qualified.path.segments with
      | [segment] => !segment.arguments.isParenthesized
      | _ => false
  | _ => false

def opensConstArgument : View := .any [.literal, .opening .brace]

def genericArgument (rules : Rules) : Parser (Bool × Lexemes) := do
  if ← peek (View.but .lifetime (.second (.punct "+"))) then
    return (true, ← lifetime)
  if ← peek opensConstArgument then
    return (false, ← constArgument rules)
  let argument ← rules.type true
  if namesAssociated argument.form then
    if ← peek (.punct "=") then
      let equals ← punct "="
      let value ← if ← peek opensConstArgument then constArgument rules
        else pure (← rules.type true).tokens
      return (false, argument.tokens ++ equals ++ value)
    if ← peek (.punct ":") then
      let colon ← punct ":"
      let bounds ← joined (.any [.punct ",", .punct ">"]) "+" (rules.bound false true)
      return (false, argument.tokens ++ colon ++ Separated.tokens Bound.tokens bounds)
  return (false, argument.tokens)

def comma : Lexeme := ⟨.punct ',' false, .empty⟩

def lifetimesFirst (arguments : Separated (Bool × Lexemes)) : Lexemes :=
  let tokens (arguments : Separated (Bool × Lexemes)) := Separated.tokens Prod.snd arguments
  let lifetimes := arguments.filter fun argument => argument.1.1
  let others := arguments.filter fun argument => !argument.1.1
  let separated := lifetimes.getLast?.all fun last => !last.2.isEmpty
  tokens lifetimes ++ (if separated || others.isEmpty then [] else [comma]) ++ tokens others

def angledArguments (rules : Rules) : Parser Arguments := do
  let colons ← optionalPunct "::"
  let opening ← punct "<"
  let arguments ← separated (.punct ">") "," (genericArgument rules)
  let closing ← punct ">"
  return .angled arguments.isEmpty (colons ++ opening ++ lifetimesFirst arguments ++ closing)

/-- Whether generic arguments follow the name of a segment. In an expression only the `::<` form is
read as such, since `<` may be an operator. -/
def opensArguments (inExpr : Bool) : View := fun input =>
  (!inExpr && View.punct "<" input && !View.punct "<=" input && !View.punct "<<=" input) ||
    (View.punct "::" input && View.third (.punct "<") input)

def segment (rules : Rules) (inExpr : Bool) (separator : Lexemes) : Parser Segment := do
  if ← peekAny [.keyword "super", .keyword "self", .keyword "crate", .keyword "try"] then
    return ⟨separator, ← next, .none⟩
  let name ← take (.any [.keyword "Self", .ident])
  if ← peek (opensArguments inExpr) then
    return ⟨separator, name, ← angledArguments rules⟩
  return ⟨separator, name, .none⟩

def moreSegments (rules : Rules) (inExpr : Bool) (path : Path) : Parser Path :=
  loop (fun path => do
    if ← peek (View.but (.punct "::") (.third (.opening .parenthesis))) then
      let separator ← punct "::"
      return (⟨path.segments ++ [← segment rules inExpr separator]⟩, true)
    return (path, false)) path

def path (rules : Rules) (inExpr : Bool) : Parser Path := do
  let leading ← optionalPunct "::"
  moreSegments rules inExpr ⟨[← segment rules inExpr leading]⟩

def qualifiedPath (rules : Rules) (inExpr : Bool) : Parser QualifiedPath := do
  if ← peek (.punct "<") then
    let opening ← punct "<"
    let type ← rules.type true
    let asTrait ← optionally (.keyword "as") do
      return (← keyword "as") ++ (← path rules false).tokens
    let closing ← punct ">"
    let separator ← punct "::"
    let segments ← loop (fun segments => do
      if ← peek (.punct "::") then
        let separator ← punct "::"
        return (segments ++ [← segment rules inExpr separator], true)
      return (segments, false)) [← segment rules inExpr separator]
    return ⟨opening ++ type.tokens ++ asTrait ++ closing, ⟨segments⟩⟩
  return ⟨[], ← path rules inExpr⟩

def macroCall : Parser (Bool × Lexemes) := do
  let bang ← punct "!"
  let braced ← peek (.opening .brace)
  return (braced, bang ++ (← anyGroup))

def opensMacroCall : View := View.but (.punct "!") (.punct "!=")

end CaseSynthesis.Grammar
