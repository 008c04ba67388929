import CaseSynthesis.Grammar.Path

/-! Types, the bounds on them, generic parameters and where clauses. -/

namespace CaseSynthesis.Grammar
open CaseSynthesis.Grammar.Parser

def lifetimeBinder (rules : Rules) : Parser Lexemes := do
  let keyword ← keyword "for"
  let opening ← punct "<"
  let lifetimes ← separated (.punct ">") "," do
    return (← attributeTokens rules) ++ (← lifetime)
  return keyword ++ opening ++ flat lifetimes ++ (← punct ">")

def optionalBinder (rules : Rules) : Parser Lexemes :=
  optionally (.keyword "for") (lifetimeBinder rules)

/-- `-> T`, if it is there: whether it leaves a path open to go on, and its tokens. -/
def returnType (rules : Rules) (plus : Bool) : Parser (Bool × Lexemes) := do
  if ← peek (.punct "->") then
    let arrow ← punct "->"
    let type ← rules.type plus
    return (type.form matches .paren, arrow ++ type.tokens)
  return (true, [])

def commaTypes (rules : Rules) : Parser Lexemes :=
  return Separated.tokens TypeExpr.tokens (← commaSeparated (rules.type true))

def parenthesizedArguments (rules : Rules) : Parser (Bool × Arguments) := do
  let inputs ← group .parenthesis (commaTypes rules)
  let (extensible, output) ← returnType rules false
  return (extensible, .parenthesized (inputs ++ output))

def opensParenthesized (path : Path) : View := fun input =>
  (path.last?.any fun last => last.arguments.isEmpty) &&
    (View.opening .parenthesis input ||
      (View.punct "::" input && View.third (.opening .parenthesis) input))

def captures : Parser Lexemes := do
  let keyword ← keyword "use"
  let opening ← punct "<"
  let parameters ← separated (.punct ">") "," do
    if ← peek .lifetime then return (true, ← lifetime)
    return (false, ← nextIf (.any [.ident, .keyword "Self"]))
  return keyword ++ opening ++ lifetimesFirst parameters ++ (← punct ">")

def traitBound (rules : Rules) (constants : Bool) : Parser (Bool × Lexemes) := do
  let binder ← optionalBinder rules
  let constant ← if ← peek (.opening .bracket) then group .bracket (keyword "const")
    else optionalKeyword "const"
  require (constants || constant.isEmpty)
  let maybe ← optionalPunct "?"
  let path ← path rules false
  let path ← if ← peek (opensParenthesized path) then
      let _ ← optionalPunct "::"
      let (_, arguments) ← parenthesizedArguments rules
      pure (path.withArguments arguments)
    else pure path
  require (binder.isEmpty || maybe.isEmpty)
  return (!constant.isEmpty, binder ++ constant ++ maybe ++ path.tokens)

/-- A bound. The parameters that a type captures are listed only where `allowCaptures` says so, and
a `const` modifier stands only where `constants` does. -/
def bound (rules : Rules) (allowCaptures constants : Bool) : Parser Bound := do
  if ← peek .lifetime then
    return ⟨.lifetime, ← lifetime⟩
  if ← peek (.keyword "use") then
    require allowCaptures
    return ⟨.captures, ← captures⟩
  let before ← get
  let (opening, (constant, tokens), closing) ←
    if ← peek (.opening .parenthesis) then enclosed .parenthesis (traitBound rules constants)
    else pure ([], ← traitBound rules constants, [])
  if constant then
    let after ← get
    return ⟨.constant, before.take (before.length - after.length)⟩
  return ⟨.trait, opening ++ tokens ++ closing⟩

def boundTokens (bounds : Separated Bound) : Lexemes := Separated.tokens Bound.tokens bounds

def opensBound : View :=
  .any [.word, .punct "::", .punct "?", .lifetime, .opening .parenthesis]

def bounds (rules : Rules) (plus allowCaptures constants : Bool) : Parser (Separated Bound) :=
  loop (fun bounds => do
    let bound ← bound rules allowCaptures constants
    if plus && (← peek (.punct "+")) then
      let sign ← punct "+"
      return (bounds ++ [(bound, sign)], ← peekAny [opensBound, .opening .bracket])
    return (bounds ++ [(bound, [])], false)) []

def namesTrait (bounds : Separated Bound) : Bool :=
  bounds.any fun (bound, _) => bound.form == .trait || bound.form == .constant

def traitBounds (rules : Rules) (plus allowCaptures constants : Bool) :
    Parser (Separated Bound) := do
  let bounds ← bounds rules plus allowCaptures constants
  require (namesTrait bounds)
  return bounds

def isSingle (bounds : Separated Bound) : Bool :=
  match bounds with
  | [(_, sign)] => sign.isEmpty
  | _ => false

def boundsType (bounds : Separated Bound) : TypeExpr :=
  ⟨.bounds (isSingle bounds), boundTokens bounds⟩

def boundsAfter (rules : Rules) (first : Bound) : Parser TypeExpr := do
  let (bounds, last) ← loop (fun (bounds, last) => do
    if ← peek (.punct "+") then
      let sign ← punct "+"
      return ((bounds ++ [(last, sign)], ← bound rules false false), true)
    return ((bounds, last), false)) (([] : Separated Bound), first)
  return boundsType (bounds ++ [(last, [])])

/-- A bound in parentheses of its own loses them to those around it. -/
def withoutParentheses (tokens : Lexemes) : Lexemes :=
  if View.opening .parenthesis tokens then (tokens.drop 1).dropLast else tokens

/-- A tuple type, a type in parentheses, or bounds whose first is in parentheses, as told by what
stands inside the parentheses. -/
def parenthesizedTypeOf (rules : Rules) (plus : Bool) (inside : Lexemes) : Parser TypeExpr :=
  if View.atEnd inside then
    return ⟨.other, ← group .parenthesis (pure [])⟩
  else if View.lifetime inside then
    return ⟨.paren, ← group .parenthesis do
      return boundTokens (← traitBounds rules true false false)⟩
  else if View.punct "?" inside then do
    let tokens ← group .parenthesis (return (← traitBound rules false).2)
    boundsAfter rules ⟨.trait, tokens⟩
  else do
    let (opening, (first, rest), closing) ← enclosed .parenthesis do
      let first ← rules.type true
      let rest ← optionally (.punct ",") do
        return (← punct ",") ++ (← commaTypes rules)
      return (first, rest)
    let tokens := opening ++ first.tokens ++ rest ++ closing
    if !rest.isEmpty then return ⟨.other, tokens⟩
    if plus && (← peek (.punct "+")) then
      match first.form with
      | .path ⟨[], _⟩ => return ← boundsAfter rules ⟨.trait, tokens⟩
      | .bounds true =>
        return ← boundsAfter rules
          ⟨.trait, opening ++ withoutParentheses first.tokens ++ closing⟩
      | _ => pure ()
    return ⟨.paren, tokens⟩

def parenthesizedType (rules : Rules) (plus : Bool) : Parser TypeExpr := fun input =>
  parenthesizedTypeOf rules plus (input.drop 1) input

def abi : Parser Lexemes :=
  optionally (.keyword "extern") do
    return (← keyword "extern") ++ (← optionally .stringLiteral (nextIf .stringLiteral))

def opensName : View := .any [.ident, .keyword "_"]

def namedParameter (name : View) : View :=
  .all [name, .second (.punct ":"), fun input => !View.second (.punct "::") input]

def wordColon : Parser Lexemes := return (← word) ++ (← punct ":")

def functionTypeParameter (rules : Rules) (first : Bool) : Parser Lexemes := do
  let named : View :=
    namedParameter (if first then .any [opensName, .keyword "self"] else opensName)
  let read : Parser Lexemes := do
    return (← optionally named wordColon) ++ (← rules.type true).tokens
  if first && (← peek (.all [.keyword "mut", .second (.keyword "self")])) then
    verbatim do
      let _ ← keyword "mut"
      read
  else read

def opensVariadicType : View :=
  .any [.punct "...", .all [opensName, .second (.punct ":"), .third (.punct "...")]]

def functionType (rules : Rules) : Parser Lexemes := do
  let unsafety ← optionalKeyword "unsafe"
  let abi ← abi
  let keyword ← keyword "fn"
  let parameters ← group .parenthesis <| loop (fun tokens => do
    if ← peek .atEnd then return (tokens, false)
    let first := tokens.isEmpty
    let attributes ← attributeTokens rules
    let tokens := tokens ++ attributes
    if ← peek opensVariadicType then
      let name ← optionally opensName wordColon
      return (tokens ++ name ++ (← punct "...") ++ (← optionalPunct ","), false)
    let parameter ← functionTypeParameter rules first
    let tokens := tokens ++ parameter
    if ← peek .atEnd then return (tokens, false)
    return (tokens ++ (← punct ","), true)) []
  let (_, output) ← returnType rules false
  return unsafety ++ abi ++ keyword ++ parameters ++ output

def typePath (rules : Rules) : Parser QualifiedPath := do
  let qualified ← qualifiedPath rules false
  let path ← loop (fun path => do
    if ← peek (opensParenthesized path) then
      let _ ← optionalPunct "::"
      let (extensible, arguments) ← parenthesizedArguments rules
      let path := path.withArguments arguments
      return (← if extensible then moreSegments rules false path else pure path, true)
    return (path, false)) qualified.path
  return { qualified with path }

def opensPathType : View :=
  .any [.ident, .keyword "super", .keyword "self", .keyword "Self", .keyword "crate",
    .punct "::", .punct "<"]

def pathType (rules : Rules) (plus : Bool) (binder : Lexemes) : Parser TypeExpr := do
  let qualified ← typePath rules
  let tokens := qualified.tokens
  if qualified.isQualified then return ⟨.path qualified, tokens⟩
  if qualified.path.isPlain && (← peek opensMacroCall) then
    return ⟨.other, tokens ++ (← macroCall).2⟩
  if !binder.isEmpty || (plus && (← peek (.punct "+"))) then
    let first : Bound := ⟨.trait, binder ++ tokens⟩
    if plus && (← peek (.punct "+")) then
      let sign ← punct "+"
      let rest ← if ← peek opensBound then plainBounds else pure []
      return boundsType ((first, sign) :: rest)
    return boundsType [(first, [])]
  return ⟨.path qualified, tokens⟩
where
  plainBounds : Parser (Separated Bound) :=
    loop (fun bounds => do
      let bound ← bound rules false false
      if ← peek (.punct "+") then
        return (bounds ++ [(bound, ← punct "+")], ← peek opensBound)
      return (bounds ++ [(bound, [])], false)) []

def pointerType (rules : Rules) : Parser TypeExpr := do
  let star ← punct "*"
  let mutability ← if ← peek (.keyword "const") then keyword "const" else keyword "mut"
  return ⟨.other, star ++ mutability ++ (← rules.type false).tokens⟩

def referenceType (rules : Rules) : Parser TypeExpr := do
  let ampersand ← punct "&"
  let lifetime ← optionally .lifetime lifetime
  let mutability ← optionalKeyword "mut"
  let target ← rules.type false
  return ⟨.reference (!mutability.isEmpty) target.form,
    ampersand ++ lifetime ++ mutability ++ target.tokens⟩

def bracketedType (rules : Rules) : Parser TypeExpr :=
  return ⟨.other, ← group .bracket do
    let element ← rules.type true
    let length ← optionally (.punct ";") do
      return (← punct ";") ++ (← rules.expr true).tokens
    return element.tokens ++ length⟩

def traitObject (rules : Rules) (plus : Bool) : Parser TypeExpr := do
  let before ← get
  let keyword ← keyword "dyn"
  let star ← optionalPunct "*"
  let bounds ← traitBounds rules plus false false
  if star.isEmpty then return ⟨.other, keyword ++ boundTokens bounds⟩
  let after ← get
  return ⟨.other, before.take (before.length - after.length)⟩

def opensFunctionType : View := .any [.keyword "fn", .keyword "unsafe", .keyword "extern"]

def afterBinder : View :=
  .any [.ident, opensFunctionType, .keyword "super", .keyword "self", .keyword "Self",
    .keyword "crate"]

def typeExpr (rules : Rules) (plus : Bool) : Parser TypeExpr := do
  let binder ← optionalBinder rules
  if !binder.isEmpty then
    require (← peek afterBinder)
  if ← peek (.opening .parenthesis) then parenthesizedType rules plus
  else if ← peek opensFunctionType then
    return ⟨.other, binder ++ (← functionType rules)⟩
  else if ← peek opensPathType then pathType rules plus binder
  else if ← peek (.keyword "dyn") then traitObject rules plus
  else if ← peek (.opening .bracket) then bracketedType rules
  else if ← peek (.punct "*") then pointerType rules
  else if ← peek (.punct "&") then referenceType rules
  else if ← peek opensMacroCall then return ⟨.other, ← punct "!"⟩
  else if ← peek (.keyword "impl") then
    let keyword ← keyword "impl"
    return ⟨.other, keyword ++ boundTokens (← traitBounds rules plus true true)⟩
  else if ← peek (.keyword "_") then return ⟨.other, ← keyword "_"⟩
  else if ← peek .lifetime then
    return boundsType (← traitBounds rules true false false)
  else fail

def introduced (lead tokens : Lexemes) : Lexemes :=
  if tokens.isEmpty then [] else lead ++ tokens

def genericParameter (rules : Rules) : Parser (Bool × Lexemes) := do
  let attributes ← attributeTokens rules
  if ← peek .lifetime then
    let name ← lifetime
    if ← peek (.punct ":") then
      let colon ← punct ":"
      let bounds ← joined (.any [.atEnd, .punct ",", .punct ">"]) "+" lifetime
      return (true, attributes ++ name ++ introduced colon (flat bounds))
    return (true, attributes ++ name)
  else if ← peek .ident then
    let name ← ident
    let constraint ← optionally (.punct ":") do
      let colon ← punct ":"
      let bounds ← joined (.any [.atEnd, .punct ",", .punct ">", .punct "="]) "+"
        (bound rules false true)
      return introduced colon (boundTokens bounds)
    let default ← optionally (.punct "=") do
      return (← punct "=") ++ (← rules.type true).tokens
    return (false, attributes ++ name ++ constraint ++ default)
  else if ← peek (.keyword "const") then
    let keyword ← keyword "const"
    let name ← ident
    let colon ← punct ":"
    let type ← rules.type true
    let default ← optionally (.punct "=") do
      return (← punct "=") ++ (← constArgument rules)
    return (false, attributes ++ keyword ++ name ++ colon ++ type.tokens ++ default)
  else return (false, attributes ++ (← keyword "_"))

def generics (rules : Rules) : Parser Lexemes := do
  if ← peek (.punct "<") then
    let opening ← punct "<"
    let parameters ← separated (.punct ">") "," (genericParameter rules)
    let closing ← punct ">"
    return if parameters.isEmpty then [] else opening ++ lifetimesFirst parameters ++ closing
  return []

def endsPredicate : View :=
  .any [.atEnd, .opening .brace, .punct ",", .punct ";", View.but (.punct ":") (.punct "::"),
    .punct "="]

def wherePredicate (rules : Rules) : Parser Lexemes := do
  if ← peek (.all [.lifetime, .second (.punct ":")]) then
    let name ← lifetime
    let colon ← punct ":"
    let bounds ← joined (.any [endsPredicate, .punct ":"]) "+" lifetime
    return name ++ colon ++ flat bounds
  let binder ← optionalBinder rules
  let type ← rules.type true
  let colon ← punct ":"
  let bounds ← joined endsPredicate "+" (bound rules false true)
  return binder ++ type.tokens ++ colon ++ boundTokens bounds

/-- A where clause, which vanishes when it has no predicates. -/
def whereClause (rules : Rules) : Parser Lexemes := do
  if ← peek (.keyword "where") then
    let keyword ← keyword "where"
    let predicates ← joined endsPredicate "," (wherePredicate rules)
    return introduced keyword (flat predicates)
  return []

end CaseSynthesis.Grammar
