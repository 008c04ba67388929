import CaseSynthesis.Grammar.Item

/-! Statements. -/

namespace CaseSynthesis.Grammar
open CaseSynthesis.Grammar.Parser

def opensMacroStatement : View := fun input =>
  match plainPath input with
  | some (_, rest) =>
    View.punct "!" rest && View.second (.opening .brace) rest &&
      !View.third (.any [View.but (.punct ".") (.punct ".."), .punct "?"]) rest
  | none => false

def opensMacroItem : View := fun input =>
  match plainPath input with
  | some (_, rest) => View.punct "!" rest && View.second (.any [.ident, .keyword "try"]) rest
  | none => false

def macroStatement : Parser Lexemes := do
  let path ← plainPath
  let (_, call) ← macroCall
  return path.tokens ++ call ++ (← optionalPunct ";")

def letStatement (rules : Rules) : Parser Lexemes := do
  let keyword ← keyword "let"
  let pattern ← rules.pattern
  let type ← optionally (.punct ":") do
    return (← punct ":") ++ (← rules.type true).tokens
  let value ← optionally (.punct "=") do
    let equals ← punct "="
    let value ← rules.expr true
    let otherwise ← if value.endsInBrace then pure []
      else optionally (.keyword "else") (return (← Parser.keyword "else") ++ (← block rules))
    return equals ++ value.tokens ++ otherwise
  return keyword ++ pattern.tokens ++ type ++ value ++ (← semicolon)

def opensFunctionWord : View := .any [.keyword "unsafe", .keyword "extern", .keyword "fn"]

def opensStaticItem : View :=
  .all [.keyword "static", .second (.any [.keyword "mut", .ident])]

def opensConstItem : View :=
  View.but (.keyword "const") (.any [
    .second (.any [.opening .brace, .keyword "static", .keyword "move", .punct "|"]),
    View.but (.second (.keyword "async")) (.third opensFunctionWord)])

def opensItem : View :=
  .any [.keyword "pub", View.but (.keyword "crate") (.second (.punct "::")), .keyword "extern",
    .keyword "use", opensStaticItem, opensConstItem,
    View.but (.keyword "unsafe") (.second (.opening .brace)),
    .all [.keyword "async", .second opensFunctionWord],
    .keyword "fn", .keyword "mod", .keyword "type", .keyword "struct", .keyword "enum",
    .all [.keyword "union", .second .ident], .all [.keyword "auto", .second (.keyword "trait")],
    .keyword "trait",
    .all [.keyword "default", .second (.any [.keyword "unsafe", .keyword "impl"])],
    .keyword "impl", .keyword "macro", opensMacroItem]

def statement (rules : Rules) : Parser (Bool × Lexemes) := do
  let before ← get
  let attributes ← outerAttributes rules
  let tokens := attributes.flatMap Attribute.tokens
  if ← peek opensMacroStatement then return (true, tokens ++ (← macroStatement))
  else if ← peek (.keyword "let") then return (true, tokens ++ (← letStatement rules))
  else if ← peek opensItem then return (true, (← itemAfter rules before attributes).tokens)
  else
    let expr ← boundedExpr rules
    let mark ← optionalPunct ";"
    let tokens := match expr.form with
      | .verbatim => expr.tokens
      | _ => tokens ++ expr.tokens
    return (!mark.isEmpty || expr.isBlockLike || expr.isBracedMacro, tokens ++ mark)

def statements (rules : Rules) : Parser Lexemes :=
  loop (fun tokens => do
    let marks ← many (.punct ";") semicolon
    let tokens := tokens ++ marks.flatten
    if ← peek .atEnd then return (tokens, false)
    let (closed, statement) ← statement rules
    require (closed || (← peek .atEnd))
    return (tokens ++ statement, true)) []

end CaseSynthesis.Grammar
