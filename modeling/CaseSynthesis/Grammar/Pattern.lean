import CaseSynthesis.Grammar.Type

/-! Patterns. -/

namespace CaseSynthesis.Grammar
open CaseSynthesis.Grammar.Parser

/-- The value of a member given by number, if it is one: a whole number without suffix that fits
into 32 bits. -/
def memberIndex? (text : String) : Option Nat :=
  match Number.integer? text with
  | some (value, "") => if value < UInt32.size then some value else none
  | _ => none

def indexMember : Parser Lexeme := do
  let lexeme ← take .literal
  match lexeme.token with
  | .literal text =>
    match memberIndex? text with
    | some value => return { lexeme with token := .literal (toString value) }
    | none => fail
  | _ => fail

def member : Parser (Bool × Lexemes) := do
  if ← peek .ident then return (true, ← ident)
  return (false, [← indexMember])

/-- A bar between alternatives, but neither `||` nor `|=`. -/
def opensAlternative : View := View.but (.punct "|") (.any [.punct "||", .punct "|="])

def alternatives (rules : Rules) : Parser Pattern := do
  let leading ← optionalPunct "|"
  let first ← rules.pattern
  let rest ← many opensAlternative do
    return (← punct "|") ++ (← rules.pattern).tokens
  if leading.isEmpty && rest.isEmpty then return first
  return ⟨.other, leading ++ first.tokens ++ rest.flatten⟩

def opensPath : View :=
  .any [.ident, .punct "::", .punct "<", .keyword "self", .keyword "Self", .keyword "super",
    .keyword "crate"]

def endsRange : View :=
  .any [.atEnd, .punct "|", .punct "=", View.but (.punct ":") (.punct "::"), .punct ",",
    .punct ";", .keyword "if"]

def constBlock (rules : Rules) : Parser Lexemes :=
  return (← keyword "const") ++ (← attributedBlock rules)

def rangeBound (rules : Rules) : Parser Lexemes := do
  if ← peek .literal then literal
  else if ← peek opensPath then return (← qualifiedPath rules true).tokens
  else constBlock rules

def optionalRangeBound (rules : Rules) : Parser Lexemes := do
  if ← peek endsRange then return [] else rangeBound rules

/-- The sign of a range: whether it includes its end, and its tokens. The old sign of three dots is
written as `..=`. -/
def patternRangeSign : Parser (Bool × Lexemes) := do
  if ← peek (.punct "..=") then return (true, ← punct "..=")
  if ← peek (.punct "...") then
    let dots ← punct "..."
    return (true, dots.zipWith (fun lexeme token => { lexeme with token })
      [.punct '.' true, .punct '.' true, .punct '=' false])
  return (false, ← punct "..")

def rangeFrom (rules : Rules) (start : Lexemes) : Parser Pattern := do
  let (closed, sign) ← patternRangeSign
  let bound ← optionalRangeBound rules
  require (!closed || !bound.isEmpty)
  return ⟨if bound.isEmpty then .openRange else .other, start ++ sign ++ bound⟩

def fieldPattern (rules : Rules) : Parser Lexemes := do
  let before ← get
  let boxed ← optionalKeyword "box"
  let byRef ← optionalKeyword "ref"
  let mutable ← optionalKeyword "mut"
  let modifiers := boxed ++ byRef ++ mutable
  if modifiers.isEmpty then
    let (named, name) ← member
    if !named || (← peek (.punct ":")) then
      return name ++ (← punct ":") ++ (← alternatives rules).tokens
    return name
  let name ← ident
  if boxed.isEmpty then return modifiers ++ name
  let after ← get
  return before.take (before.length - after.length)

def fieldPatterns (rules : Rules) : Parser Lexemes :=
  loop (fun tokens => do
    if ← peek .atEnd then return (tokens, false)
    let attributes ← attributeTokens rules
    if ← peek (.punct "..") then return (tokens ++ attributes ++ (← punct ".."), false)
    let tokens := tokens ++ attributes ++ (← fieldPattern rules)
    if ← peek .atEnd then return (tokens, false)
    return (tokens ++ (← punct ","), true)) []

def commaPatterns (rules : Rules) : Parser (Separated Pattern) :=
  commaSeparated (alternatives rules)

def patternTokens (patterns : Separated Pattern) : Lexemes :=
  Separated.tokens Pattern.tokens patterns

def pathPattern (rules : Rules) : Parser Pattern := do
  let path ← qualifiedPath rules true
  let tokens := path.tokens
  if !path.isQualified && path.path.isPlain && (← peek opensMacroCall) then
    return ⟨.other, tokens ++ (← macroCall).2⟩
  if ← peek (.opening .brace) then
    return ⟨.other, tokens ++ (← group .brace (fieldPatterns rules))⟩
  if ← peek (.opening .parenthesis) then
    return ⟨.other, tokens ++ (← group .parenthesis (return patternTokens (← commaPatterns rules)))⟩
  if ← peek (.punct "..") then rangeFrom rules tokens
  else return ⟨.other, tokens⟩

def bindingPattern (rules : Rules) : Parser Pattern := do
  let byRef ← optionalKeyword "ref"
  let mutable ← optionalKeyword "mut"
  let name ← if ← peek (.keyword "self") then keyword "self" else ident
  let inner ← optionally (.punct "@") do
    return (← punct "@") ++ (← rules.pattern).tokens
  return ⟨.other, byRef ++ mutable ++ name ++ inner⟩

def restPattern (rules : Rules) : Parser Pattern := do
  let (closed, sign) ← patternRangeSign
  let bound ← optionalRangeBound rules
  if bound.isEmpty then
    require !closed
    return ⟨.rest, sign⟩
  return ⟨.openRange, sign ++ bound⟩

def slicePattern (rules : Rules) : Parser Pattern := do
  let (opening, patterns, closing) ← enclosed .bracket (commaPatterns rules)
  require (patterns.all fun (pattern, _) => pattern.form != .openRange)
  return ⟨.other, opening ++ patternTokens patterns ++ closing⟩

def opensPathPattern : View :=
  .any [
    .all [.ident, .second (.any [.punct "::", .punct "!", .opening .brace, .opening .parenthesis,
      .punct ".."])],
    .all [.keyword "self", .second (.punct "::")],
    .punct "::", .punct "<", .keyword "Self", .keyword "super", .keyword "crate"]

def pattern (rules : Rules) : Parser Pattern := do
  if ← peek opensPathPattern then pathPattern rules
  else if ← peek (.keyword "_") then return ⟨.other, ← keyword "_"⟩
  else if ← peek (.keyword "box") then
    return ⟨.verbatim, ← verbatim do
      let _ ← keyword "box"
      rules.pattern⟩
  else if ← peekAny [.punct "-", .literal, .keyword "const"] then
    let start ← rangeBound rules
    if ← peek (.punct "..") then rangeFrom rules start else return ⟨.other, start⟩
  else if ← peekAny [.keyword "ref", .keyword "mut", .keyword "self", .ident] then
    bindingPattern rules
  else if ← peek (.punct "&") then
    let ampersand ← punct "&"
    let mutable ← optionalKeyword "mut"
    return ⟨.other, ampersand ++ mutable ++ (← rules.pattern).tokens⟩
  else if ← peek (.opening .parenthesis) then
    return ⟨.other, ← group .parenthesis (return patternTokens (← commaPatterns rules))⟩
  else if ← peek (.opening .bracket) then slicePattern rules
  else if ← peek (View.but (.punct "..") (.punct "...")) then restPattern rules
  else fail

end CaseSynthesis.Grammar
