import CaseSynthesis.Grammar.Pattern

/-! Expressions. -/

namespace CaseSynthesis.Grammar
open CaseSynthesis.Grammar.Parser

def commaExprs (rules : Rules) : Parser (Separated Expr) := commaSeparated (rules.expr true)

def exprTokens (exprs : Separated Expr) : Lexemes := Separated.tokens Expr.tokens exprs

/-- The binary operators, longer ones before those that they start with. -/
def binaryOperators : List (String × Precedence) :=
  [("+=", .assignment), ("-=", .assignment), ("*=", .assignment), ("/=", .assignment),
    ("%=", .assignment), ("^=", .assignment), ("&=", .assignment), ("|=", .assignment),
    ("<<=", .assignment), (">>=", .assignment), ("&&", .conjunction), ("||", .disjunction),
    ("<<", .shift), (">>", .shift), ("==", .comparison), ("<=", .comparison), ("!=", .comparison),
    (">=", .comparison), ("+", .sum), ("-", .sum), ("*", .product), ("/", .product),
    ("%", .product), ("^", .bitXor), ("&", .bitAnd), ("|", .bitOr), ("<", .comparison),
    (">", .comparison)]

def binaryOperator? (input : Lexemes) : Option (String × Precedence) :=
  binaryOperators.find? fun (text, _) => View.punct text input

def opensAssignment : View := View.but (.punct "=") (.punct "=>")

def nextPrecedence (input : Lexemes) : Precedence :=
  match binaryOperator? input with
  | some (_, level) => level
  | none =>
    if opensAssignment input then .assignment
    else if View.punct ".." input then .range
    else if View.keyword "as" input then .cast
    else .lowest

/-- Adds the operators that bind more tightly than the given level, of which `next` is the next one
ahead, and says whether there were any. Assignments are nested to the right. -/
def tighter (rules : Rules) (structs : Bool) (level : Precedence) (right : Expr)
    (next : Precedence) : Parser (Expr × Bool) := do
  if level < next || (level = .assignment && next = .assignment) then
    let before ← get
    let right ← rules.operators structs next right
    let after ← get
    return (right, after.length < before.length)
  return (right, false)

def rightSide (rules : Rules) (structs : Bool) (level : Precedence) : Parser Expr := do
  let first ← rules.operand structs
  loop (fun right => do tighter rules structs level right (nextPrecedence (← get))) first

def rangeSign : Parser (Bool × Lexemes) := do
  if ← peek (.punct "..=") then return (true, ← punct "..=")
  require !(← peek (.punct "..."))
  return (false, ← punct "..")

def lacksRangeEnd (structs : Bool) : View := fun input =>
  View.any [.atEnd, .punct ",", .punct ";", View.but (.punct ".") (.punct ".."), .punct "?",
    .punct "=>", .punct "=", .punct "+", .punct "/", .punct "%", .punct "^", .punct ">",
    .punct "<=", .punct "!=", .punct "-=", .punct "*=", .punct "&=", .punct "|=", .punct "<<=",
    .keyword "as"] input ||
    (!structs && View.opening .brace input)

def rangeRest (rules : Rules) (structs : Bool) : Parser Lexemes := do
  let (closed, sign) ← rangeSign
  if !closed && (← peek (lacksRangeEnd structs)) then return sign
  return sign ++ (← rightSide rules structs .range).tokens

def extendsCast : View :=
  .any [View.but (.punct ".") (.punct ".."), .punct "?", .opening .bracket, .opening .parenthesis]

def operator (rules : Rules) (structs : Bool) (least : Precedence) (left : Expr) :
    Option (String × Precedence) → Parser (Expr × Bool)
  | some (text, level) => do
    if level < least then return (left, false)
    require !(level = .comparison && left.isComparison)
    let sign ← punct text
    let right ← rightSide rules structs level
    let form := if level = .comparison then .comparison else .other
    return (⟨form, left.tokens ++ sign ++ right.tokens⟩, true)
  | none => do
    if .assignment ≥ least && (← peek opensAssignment) then
      let sign ← punct "="
      let right ← rightSide rules structs .assignment
      return (.other (left.tokens ++ sign ++ right.tokens), true)
    else if .range ≥ least && (← peek (.punct "..")) then
      return (⟨.range, left.tokens ++ (← rangeRest rules structs)⟩, true)
    else if ← peek (.keyword "as") then
      let keyword ← keyword "as"
      let type ← rules.type false
      require !(← peek extendsCast)
      return (.other (left.tokens ++ keyword ++ type.tokens), true)
    else return (left, false)

def operators (rules : Rules) (structs : Bool) (least : Precedence) (left : Expr) : Parser Expr :=
  loop (fun left => do
    if left.isRange then return (left, false)
    operator rules structs least left (binaryOperator? (← get))) left

def opensExpr : View :=
  .any [View.but .word (.keyword "as"), opensGroup, .literal, opensMacroCall,
    View.but (.punct "-") (.any [.punct "-=", .punct "->"]), View.but (.punct "*") (.punct "*="),
    View.but (.punct "|") (.punct "|="), View.but (.punct "&") (.punct "&="), .punct "..",
    View.but (.punct "<") (.any [.punct "<=", .punct "<<="]), .punct "::", .lifetime, .punct "#"]

def jumpValue (rules : Rules) : Parser Lexemes :=
  optionally opensExpr (return (← rules.expr true).tokens)

def breakExpr (rules : Rules) (structs : Bool) : Parser Expr := do
  let keyword ← keyword "break"
  let label ← optionally .lifetime lifetime
  require (label.isEmpty || !(← peek (.punct ":")))
  let value ← if !structs && (← peek (.opening .brace)) then pure [] else jumpValue rules
  return .other (keyword ++ label ++ value)

/-- A parameter of a closure. Attributes before a pattern that is kept as it stands are lost. -/
def closureParameter (rules : Rules) : Parser Lexemes := do
  let attributes ← attributeTokens rules
  let pattern ← rules.pattern
  if ← peek (.punct ":") then
    let colon ← punct ":"
    return attributes ++ pattern.tokens ++ colon ++ (← rules.type true).tokens
  return (if pattern.form = .verbatim then [] else attributes) ++ pattern.tokens

def closure (rules : Rules) (structs : Bool) : Parser Expr := do
  let binder ← optionalBinder rules
  let constant ← optionalKeyword "const"
  let static ← optionalKeyword "static"
  let async ← optionalKeyword "async"
  let moves ← optionalKeyword "move"
  let opening ← punct "|"
  let parameters ← separated (.punct "|") "," (closureParameter rules)
  let closing ← punct "|"
  let body ← if ← peek (.punct "->") then do
      let arrow ← punct "->"
      let type ← rules.type true
      pure (arrow ++ type.tokens ++ (← block rules))
    else pure (← rules.expr structs).tokens
  return .other (binder ++ constant ++ static ++ async ++ moves ++ opening ++ flat parameters ++
    closing ++ body)

def fieldValue (rules : Rules) : Parser Lexemes := do
  let attributes ← attributeTokens rules
  let (named, name) ← member
  if !named || (← peek (.punct ":")) then
    return attributes ++ name ++ (← punct ":") ++ (← rules.expr true).tokens
  return attributes ++ name

def fieldValues (rules : Rules) : Parser Lexemes :=
  loop (fun tokens => do
    if ← peek .atEnd then return (tokens, false)
    if ← peek (.punct "..") then
      let dots ← punct ".."
      let base ← if ← peek .atEnd then pure [] else pure (← rules.expr true).tokens
      return (tokens ++ dots ++ base, false)
    let tokens := tokens ++ (← fieldValue rules)
    if ← peek .atEnd then return (tokens, false)
    return (tokens ++ (← punct ","), true)) []

def pathExpr (rules : Rules) (structs : Bool) : Parser Expr := do
  let path ← qualifiedPath rules true
  let tokens := path.tokens
  if !path.isQualified && path.path.isPlain && (← peek opensMacroCall) then
    let (braced, call) ← macroCall
    return ⟨if braced then .bracedMacro else .other, tokens ++ call⟩
  if structs && (← peek (.opening .brace)) then
    return .other (tokens ++ (← group .brace (fieldValues rules)))
  return .other tokens

def parenthesizedExpr (rules : Rules) : Parser Expr := do
  let (opening, elements, closing) ← enclosed .parenthesis (commaExprs rules)
  let form := match elements with
    | [(_, [])] => .other
    | _ => .tuple (elements.map fun (element, _) => element.tokens)
  return ⟨form, opening ++ exprTokens elements ++ closing⟩

def arrayExpr (rules : Rules) : Parser Expr :=
  return .other (← group .bracket do
    if ← peek .atEnd then return []
    let first ← rules.expr true
    if ← peek (.punct ";") then
      let mark ← punct ";"
      return first.tokens ++ mark ++ (← rules.expr true).tokens
    if ← peek .atEnd then return first.tokens
    let mark ← punct ","
    return first.tokens ++ mark ++ exprTokens (← commaExprs rules))

def letExpr (rules : Rules) (structs : Bool) : Parser Expr := do
  let keyword ← keyword "let"
  let pattern ← alternatives rules
  let equals ← punct "="
  let first ← rules.operand structs
  let value ← rules.operators structs .comparison first
  return .other (keyword ++ pattern.tokens ++ equals ++ value.tokens)

def ifExpr (rules : Rules) : Parser Lexemes :=
  loop (fun tokens => do
    let keyword ← keyword "if"
    let condition ← rules.expr false
    let tokens := tokens ++ keyword ++ condition.tokens ++ (← block rules)
    if ← peek (.keyword "else") then
      let tokens := tokens ++ (← Parser.keyword "else")
      if ← peek (.keyword "if") then return (tokens, true)
      return (tokens ++ (← block rules), false)
    return (tokens, false)) []

def whileExpr (rules : Rules) : Parser Lexemes := do
  let keyword ← keyword "while"
  let condition ← rules.expr false
  return keyword ++ condition.tokens ++ (← attributedBlock rules)

def forExpr (rules : Rules) : Parser Lexemes := do
  let opening ← keyword "for"
  let pattern ← alternatives rules
  let middle ← keyword "in"
  let source ← rules.expr false
  return opening ++ pattern.tokens ++ middle ++ source.tokens ++ (← attributedBlock rules)

def loopExpr (rules : Rules) : Parser Lexemes :=
  return (← keyword "loop") ++ (← attributedBlock rules)

/-- An arm of a match. The comma after it may be missing when its body is a block, or at the end. -/
def matchArm (rules : Rules) : Parser Lexemes := do
  let attributes ← attributeTokens rules
  let pattern ← alternatives rules
  let condition ← optionally (.keyword "if") do
    return (← keyword "if") ++ (← rules.expr true).tokens
  let arrow ← punct "=>"
  let body ← rules.boundedExpr
  let comma ← if body.isBlockLike || (← peek .atEnd) then optionalPunct "," else punct ","
  return attributes ++ pattern.tokens ++ condition ++ arrow ++ body.tokens ++ comma

def matchExpr (rules : Rules) : Parser Lexemes := do
  let keyword ← keyword "match"
  let subject ← rules.expr false
  let arms ← group .brace do
    let attributes ← innerAttributes rules
    let arms ← many (fun input => !View.atEnd input) (matchArm rules)
    return attributes.flatMap Attribute.tokens ++ arms.flatten
  return keyword ++ subject.tokens ++ arms

def labeled (rules : Rules) : Parser Lexemes := do
  let label ← lifetime
  let colon ← punct ":"
  let body ← if ← peek (.keyword "while") then whileExpr rules
    else if ← peek (.keyword "for") then forExpr rules
    else if ← peek (.keyword "loop") then loopExpr rules
    else attributedBlock rules
  return label ++ colon ++ body

def opensBinder : View :=
  .all [.keyword "for", .second (.punct "<"), .third (.any [.lifetime, .punct ">"])]

def opensBlockOf (name : String) : View := .all [.keyword name, .second (.opening .brace)]

def opensBlockLike : View :=
  .any [.keyword "if", .keyword "while", View.but (.keyword "for") opensBinder, .keyword "loop",
    .keyword "match", opensBlockOf "try", .keyword "unsafe", opensBlockOf "const",
    .opening .brace, .lifetime]

def blockLike (rules : Rules) : Parser Expr := do
  let tokens ← if ← peek (.keyword "if") then ifExpr rules
    else if ← peek (.keyword "while") then whileExpr rules
    else if ← peek (.keyword "for") then forExpr rules
    else if ← peek (.keyword "loop") then loopExpr rules
    else if ← peek (.keyword "match") then matchExpr rules
    else if ← peek (.keyword "try") then pure ((← keyword "try") ++ (← block rules))
    else if ← peek (.keyword "unsafe") then pure ((← keyword "unsafe") ++ (← attributedBlock rules))
    else if ← peek (.keyword "const") then constBlock rules
    else if ← peek .lifetime then labeled rules
    else attributedBlock rules
  return ⟨.blockLike, tokens⟩

def opensAsyncBlock : View :=
  .all [.keyword "async",
    .any [.second (.opening .brace),
      .all [.second (.keyword "move"), .third (.opening .brace)]]]

def opensClosure : View :=
  .any [.punct "|", .keyword "move", opensBinder,
    View.but (.keyword "const") (.second (.opening .brace)), .keyword "static",
    .all [.keyword "async", .second (.any [.punct "|", .keyword "move"])]]

def opensPathExpr : View :=
  .any [opensPath, .all [.keyword "try", .second (.any [.punct "!", .punct "::"])]]

def atom (rules : Rules) (structs : Bool) : Parser Expr := do
  if ← peek .literal then
    let literal ← next
    return ⟨.literal literal, [literal]⟩
  else if ← peek opensAsyncBlock then
    let keyword ← keyword "async"
    return .other (keyword ++ (← optionalKeyword "move") ++ (← block rules))
  else if ← peek (opensBlockOf "try") then blockLike rules
  else if ← peek opensClosure then closure rules structs
  else if ← peek (.all [.keyword "builtin", .second (.punct "#")]) then
    return ⟨.verbatim, ← verbatim do
      let _ ← keyword "builtin"
      let _ ← punct "#"
      let _ ← ident
      rawGroup .parenthesis⟩
  else if ← peek opensPathExpr then pathExpr rules structs
  else if ← peek (.opening .parenthesis) then parenthesizedExpr rules
  else if ← peek (.keyword "break") then breakExpr rules structs
  else if ← peek (.keyword "continue") then
    return .other ((← keyword "continue") ++ (← optionally .lifetime lifetime))
  else if ← peek (.keyword "return") then
    return .other ((← keyword "return") ++ (← jumpValue rules))
  else if ← peek (.keyword "become") then
    return ⟨.verbatim, ← verbatim do
      let _ ← keyword "become"
      rules.expr true⟩
  else if ← peek (.opening .bracket) then arrayExpr rules
  else if ← peek (.keyword "let") then letExpr rules structs
  else if ← peek (.keyword "yield") then
    return .other ((← keyword "yield") ++ (← jumpValue rules))
  else if ← peek (.punct "..") then return ⟨.range, ← rangeRest rules structs⟩
  else if ← peek (.keyword "_") then return .other (← keyword "_")
  else if ← peek opensBlockLike then blockLike rules
  else fail

/-- The numbers that a number with a point in it stands for after a dot, as in `pair.0.1`, and
whether it ends with a point. -/
def indexes? (lexeme : Lexeme) : Option (Lexemes × Bool) :=
  match lexeme.token with
  | .literal text =>
    if Number.isFloat text then do
      let parts := text.splitOn "."
      let dangling := parts.getLast? == some ""
      let numbers ← (if dangling then parts.dropLast else parts).mapM memberIndex?
      let tokens := numbers.map fun value =>
        { lexeme with token := .literal (toString value) }
      return (tokens.intersperse { lexeme with token := .punct '.' false } ++
        (if dangling then [{ lexeme with token := .punct '.' false }] else []), dangling)
    else none
  | _ => none

def opensFloat : View
  | ⟨.literal text, _⟩ :: _ => Number.isFloat text
  | _ => false

def callArguments (rules : Rules) : Parser Lexemes :=
  group .parenthesis (return exprTokens (← commaExprs rules))

def afterDot (rules : Rules) : Parser Lexemes := do
  if ← peek (.keyword "await") then return ← keyword "await"
  let (named, name) ← member
  if named then
    let arguments ← if ← peek (.punct "::") then angledArguments rules else pure .none
    if !arguments.isAbsent || (← peek (.opening .parenthesis)) then
      return name ++ arguments.tokens ++ (← callArguments rules)
  return name

def dotted (rules : Rules) : Parser Lexemes := do
  let dot ← punct "."
  if ← peek opensFloat then
    match indexes? (← next) with
    | some (indexes, true) => return dot ++ indexes ++ (← afterDot rules)
    | some (indexes, false) => return dot ++ indexes
    | none => fail
  return dot ++ (← afterDot rules)

def trailers (rules : Rules) (subject : Expr) : Parser Expr :=
  loop (fun subject => do
    if ← peek (.opening .parenthesis) then
      return (.other (subject.tokens ++ (← callArguments rules)), true)
    else if !subject.isRange && (← peek (View.but (.punct ".") (.punct ".."))) then
      return (.other (subject.tokens ++ (← dotted rules)), true)
    else if ← peek (.opening .bracket) then
      let index ← group .bracket (return (← rules.expr true).tokens)
      return (.other (subject.tokens ++ index), true)
    else if !subject.isRange && (← peek (.punct "?")) then
      return (.other (subject.tokens ++ (← punct "?")), true)
    else return (subject, false)) subject

def prefixSign : Parser Lexemes := do
  if ← peek (.punct "*") then punct "*"
  else if ← peek (.punct "!") then punct "!"
  else punct "-"

def operand (rules : Rules) (structs : Bool) : Parser Expr := do
  let before ← get
  let attributes ← attributeTokens rules
  if ← peek (.punct "&") then
    let ampersand ← punct "&"
    let raw ← optionally (.all [.keyword "raw",
      .second (.any [.keyword "mut", .keyword "const"])]) (keyword "raw")
    let mutable ← optionalKeyword "mut"
    let constant ← if !raw.isEmpty && mutable.isEmpty then keyword "const" else pure []
    let target ← rules.operand structs
    return .other (attributes ++ ampersand ++ raw ++ mutable ++ constant ++ target.tokens)
  if ← peekAny [.punct "*", .punct "!", .punct "-"] then
    let sign ← prefixSign
    return .other (attributes ++ sign ++ (← rules.operand structs).tokens)
  let expr ← trailers rules (← atom rules structs)
  match expr.form with
  | .verbatim =>
    let after ← get
    return ⟨.verbatim, before.take (before.length - after.length)⟩
  | .range =>
    require attributes.isEmpty
    return expr
  | _ => return expr.prepend attributes

/-- An expression; `structs` says whether a brace after a path opens a struct literal. -/
def expr (rules : Rules) (structs : Bool) : Parser Expr := do
  operators rules structs .lowest (← operand rules structs)

def Expr.attributed (attributes : Lexemes) (expr : Expr) : Expr :=
  match expr.form with
  | .verbatim => expr
  | _ => expr.prepend attributes

/-- An expression as a statement or the arm of a match, where a block ends it unless a dot or a
question mark follows. -/
def boundedExpr (rules : Rules) : Parser Expr := do
  let attributes ← attributeTokens rules
  if ← peek opensBlockLike then
    let body ← blockLike rules
    if ← peekAny [View.but (.punct ".") (.punct ".."), .punct "?"] then
      operators rules true .lowest ((← trailers rules body).attributed attributes)
    else return body.attributed attributes
  else operators rules true .lowest ((← operand rules true).attributed attributes)

end CaseSynthesis.Grammar
