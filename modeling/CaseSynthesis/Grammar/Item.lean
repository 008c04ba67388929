import CaseSynthesis.Grammar.Expr

/-! Items: functions, types, modules, implementations and the like. -/

namespace CaseSynthesis.Grammar
open CaseSynthesis.Grammar.Parser

def ahead {α : Type} (parser : Parser α) : Parser (Option α) := fun input =>
  some ((parser input).map Prod.fst, input)

def since (before : Lexemes) : Parser Lexemes := do
  let after ← get
  return before.take (before.length - after.length)

/-- A phrase after its attributes, or the whole as it stands when the grammar has no form for it. -/
def attributed (rules : Rules) (phrase : Parser (Option Lexemes)) : Parser Lexemes := do
  let before ← get
  let attributes ← attributeTokens rules
  match ← phrase with
  | some tokens => return attributes ++ tokens
  | none => since before

def semicolon : Parser Lexemes := punct ";"

def opensItemMacro : View :=
  .any [.ident, .keyword "self", .keyword "super", .keyword "crate", .punct "::"]

def functionModifiers (safe : Bool) : Parser Lexemes := do
  let constant ← optionalKeyword "const"
  let async ← optionalKeyword "async"
  let safety ← if safe && (← peek (.keyword "safe")) then keyword "safe"
    else optionalKeyword "unsafe"
  return constant ++ async ++ safety ++ (← abi)

def opensFunction (safe : Bool) : View := fun input =>
  match functionModifiers safe input with
  | some (_, rest) => View.keyword "fn" rest
  | none => false

def receiver (rules : Rules) : Parser Lexemes := do
  let reference ← optionally (.punct "&") do
    return (← punct "&") ++ (← optionally .lifetime lifetime)
  let mutable ← optionalKeyword "mut"
  let name ← keyword "self"
  let type ← if reference.isEmpty then optionally (.punct ":") do
        return (← punct ":") ++ (← rules.type true).tokens
    else pure []
  return reference ++ mutable ++ name ++ type

inductive ParameterKind
  | receiver
  | typed
  | variadic
  deriving DecidableEq

def parameter (rules : Rules) : Parser (ParameterKind × Lexemes) := do
  let attributes ← attributeTokens rules
  if ← peek (.punct "...") then return (.variadic, attributes ++ (← punct "..."))
  if (← ahead (receiver rules)).isSome then
    return (.receiver, attributes ++ (← receiver rules))
  if ← peek (.all [.ident, .second (.punct "<")]) then
    let type ← rules.type true
    let span := Lexemes.span (type.tokens.take 1)
    return (.typed, attributes ++
      ⟨.ident ⟨"_", false⟩, span⟩ :: ⟨.punct ':' false, span⟩ :: type.tokens)
  let pattern ← rules.pattern
  let colon ← punct ":"
  if ← peek (.punct "...") then
    return (.variadic, attributes ++ pattern.tokens ++ colon ++ (← punct "..."))
  return (.typed, attributes ++ pattern.tokens ++ colon ++ (← rules.type true).tokens)

def parameters (rules : Rules) : Parser Lexemes :=
  loop (fun tokens => do
    if ← peek .atEnd then return (tokens, false)
    let (kind, parameter) ← parameter rules
    require (kind != .receiver || tokens.isEmpty)
    let tokens := tokens ++ parameter
    if ← peek .atEnd then return (tokens, false)
    return (tokens ++ (← punct ","), kind != .variadic)) []

structure Signature where
  modifiers : Lexemes
  name : Lexeme
  tokens : Lexemes

def Signature.isSafe (signature : Signature) : Bool :=
  signature.modifiers.any fun lexeme => lexeme.token == .ident ⟨"safe", false⟩

def signature (rules : Rules) (safe : Bool) : Parser Signature := do
  let modifiers ← functionModifiers safe
  let keyword ← keyword "fn"
  let name ← take .ident
  let generics ← generics rules
  let parameters ← group .parenthesis (parameters rules)
  let (_, output) ← returnType rules true
  let clause ← whereClause rules
  let tokens := modifiers ++ keyword ++ name :: generics ++ parameters ++ output ++ clause
  return { modifiers, name, tokens }

def body (rules : Rules) (inside : Parser Lexemes) :
    Parser (Lexemes × List Attribute × Lexemes) := do
  let (opening, (attributes, inside), closing) ← enclosed .brace do
    return (← innerAttributes rules, ← inside)
  return (opening, attributes, inside ++ closing)

def functionItem (rules : Rules) : Parser (Option Item) := do
  let visibility ← visibility
  let signature ← signature rules false
  if ← peek (.punct ";") then
    let _ ← semicolon
    return none
  let (opening, attributes, tail) ← body rules rules.statements
  return some (.declared .function attributes [signature.name]
    (visibility ++ signature.tokens ++ opening) tail)

/-- A call of a macro as an item. Only braces make the semicolon after it superfluous. -/
def itemMacro (named : Bool) : Parser Lexemes := do
  let path ← plainPath
  let bang ← punct "!"
  let name ← if named then optionally (.any [.ident, .keyword "try"]) word else pure []
  let braced ← peek (.opening .brace)
  let call ← anyGroup
  let mark ← if braced then pure [] else semicolon
  return path.tokens ++ bang ++ name ++ call ++ mark

def staticHead : Parser (Lexeme × Lexemes) := do
  let keyword ← keyword "static"
  let mutable ← optionalKeyword "mut"
  let name ← take .ident
  return (name, keyword ++ mutable ++ [name])

def optionalValue (rules : Rules) : Parser Lexemes :=
  optionally (.punct "=") do
    return (← punct "=") ++ (← rules.expr true).tokens

def staticItem (rules : Rules) : Parser (Option Item) := do
  let visibility ← visibility
  let (name, head) ← staticHead
  let type ← optionally (.punct ":") do
    return (← punct ":") ++ (← rules.type true).tokens
  let value ← optionalValue rules
  let mark ← semicolon
  if type.isEmpty || value.isEmpty then
    require !(type.isEmpty && value.isEmpty)
    return none
  return some (.declared .static [] [name] (visibility ++ head ++ type ++ value ++ mark) [])

structure ConstantDeclaration where
  name : Lexeme
  /-- Generic parameters or a where clause are there, empty or not. -/
  generic : Bool
  hasValue : Bool
  tokens : Lexemes

def constantDeclaration (rules : Rules) : Parser ConstantDeclaration := do
  let keyword ← keyword "const"
  let name ← take opensName
  let angled ← peek (.punct "<")
  let generics ← generics rules
  let colon ← punct ":"
  let type ← rules.type true
  let value ← optionalValue rules
  let qualified ← peek (.keyword "where")
  let clause ← whereClause rules
  let mark ← semicolon
  return {
    name
    generic := angled || qualified
    hasValue := !value.isEmpty
    tokens := keyword ++ name :: generics ++ colon ++ type.tokens ++ value ++ clause ++ mark }

def constantItem (rules : Rules) : Parser (Option Item) := do
  let visibility ← visibility
  let declaration ← constantDeclaration rules
  if declaration.generic || !declaration.hasValue then return none
  return some (.declared .constant [] [declaration.name] (visibility ++ declaration.tokens) [])

inductive ClausePlace
  | beforeDefinition
  | afterDefinition
  | either
  deriving DecidableEq

structure AliasDeclaration where
  name : Lexeme
  hasColon : Bool
  hasDefinition : Bool
  tokens : Lexemes

def aliasDeclaration (rules : Rules) (place : ClausePlace) : Parser AliasDeclaration := do
  let keyword ← keyword "type"
  let name ← take .ident
  let generics ← generics rules
  let hasColon ← peek (.punct ":")
  let bounds ← optionally (.punct ":") do
    let colon ← punct ":"
    let bounds ← separated (.any [.keyword "where", .punct "=", .punct ";"]) "+"
      (bound rules false true)
    return introduced colon (boundTokens bounds)
  let early ← peek (.keyword "where")
  let before ← if place != .afterDefinition then whereClause rules else pure []
  let definition ← optionally (.punct "=") do
    return (← punct "=") ++ (← rules.type true).tokens
  let late := place = .afterDefinition || (place = .either && !early)
  let after ← if late then whereClause rules else pure []
  let mark ← semicolon
  return {
    name, hasColon
    hasDefinition := !definition.isEmpty
    tokens := keyword ++ name :: generics ++ bounds ++ before ++ definition ++ after ++ mark }

def aliasItem (rules : Rules) : Parser (Option Item) := do
  let visibility ← visibility
  let declaration ← aliasDeclaration rules .beforeDefinition
  if declaration.hasColon || !declaration.hasDefinition then return none
  return some (.declared .typeAlias [] [declaration.name] (visibility ++ declaration.tokens) [])

def externCrate : Parser Item := do
  let visibility ← visibility
  let keywords := (← keyword "extern") ++ (← keyword "crate")
  let name ← if ← peek (.keyword "self") then keyword "self" else ident
  let rename ← optionally (.keyword "as") do
    return (← keyword "as") ++ (← nextIf opensName)
  return .other (visibility ++ keywords ++ name ++ rename ++ (← semicolon))

def method (rules : Rules) (head : Lexemes) : Parser Lexemes := do
  let (opening, attributes, tail) ← body rules rules.statements
  return head ++ opening ++ attributes.flatMap Attribute.tokens ++ tail

def opensForeignStatic : View :=
  .any [.keyword "static",
    .all [.any [.keyword "unsafe", .keyword "safe"], .second (.keyword "static")]]

def foreignItem (rules : Rules) : Parser Lexemes :=
  attributed rules do
    let visibility ← visibility
    if ← peek (opensFunction true) then
      let signature ← signature rules true
      if ← peek (.opening .brace) then
        let _ ← method rules []
        return none
      let mark ← semicolon
      return if signature.isSafe then none else some (visibility ++ signature.tokens ++ mark)
    else if ← peek opensForeignStatic then
      let safety ← optionally (.any [.keyword "unsafe", .keyword "safe"]) word
      let (_, static) ← staticHead
      let colon ← punct ":"
      let type ← rules.type true
      let value ← optionalValue rules
      let mark ← semicolon
      return if safety.isEmpty && value.isEmpty then
          some (visibility ++ static ++ colon ++ type.tokens ++ mark)
        else none
    else if ← peek (.keyword "type") then
      let declaration ← aliasDeclaration rules .either
      return if declaration.hasColon || declaration.hasDefinition then none
        else some (visibility ++ declaration.tokens)
    else
      require (visibility.isEmpty && (← peek opensItemMacro))
      return some (← itemMacro false)

def foreignBlock (rules : Rules) : Parser Item := do
  let unsafety ← optionalKeyword "unsafe"
  require (← peek (.keyword "extern"))
  let abi ← abi
  let (opening, attributes, tail) ← body rules
    (return (← many (fun input => !View.atEnd input) (foreignItem rules)).flatten)
  return .foreign attributes (unsafety ++ abi ++ opening) tail

def useTree (rules : Rules) (rooted : Bool) : Parser (Lexemes × Bool) := do
  if ← peekAny [.ident, .keyword "self", .keyword "super", .keyword "crate", .keyword "try"] then
    let name ← word
    if ← peek (.punct "::") then
      let colons ← punct "::"
      let (tree, _) ← rules.useTree false
      return (name ++ colons ++ tree, false)
    let rename ← optionally (.keyword "as") do
      return (← keyword "as") ++ (← nextIf opensName)
    return (name ++ rename, false)
  else if ← peek (.punct "*") then return (← punct "*", false)
  else
    let (opening, trees, closing) ← enclosed .brace <| commaSeparated do
      let root ← if rooted then optionalPunct "::" else pure []
      let (tree, inner) ← rules.useTree (rooted && root.isEmpty)
      return (root ++ tree, inner || !root.isEmpty)
    return (opening ++ Separated.tokens Prod.fst trees ++ closing,
      trees.any fun ((_, inner), _) => inner)

def useItem (rules : Rules) : Parser (Option Item) := do
  let visibility ← visibility
  let keyword ← keyword "use"
  let root ← optionalPunct "::"
  let (tree, rooted) ← useTree rules root.isEmpty
  let mark ← semicolon
  return if rooted then none
    else some (.other (visibility ++ keyword ++ root ++ tree ++ mark))

def opensAnonymousFields : View :=
  .any [.keyword "struct", .all [.keyword "union", .second (.opening .brace)]]

def namedField (rules : Rules) : Parser Lexemes := do
  let attributes ← attributeTokens rules
  let visibility ← visibility
  let anonymous ← peek (.keyword "_")
  let name ← nextIf opensName
  let colon ← punct ":"
  let type ← if anonymous && (← peek opensAnonymousFields) then
      verbatim do
        let _ ← word
        rules.fields
    else pure (← rules.type true).tokens
  return attributes ++ visibility ++ name ++ colon ++ type

def fields (rules : Rules) : Parser Lexemes :=
  group .brace (return flat (← commaSeparated (namedField rules)))

def unnamedField (rules : Rules) : Parser Lexemes := do
  let attributes ← attributeTokens rules
  let visibility ← visibility
  return attributes ++ visibility ++ (← rules.type true).tokens

def unnamedFields (rules : Rules) : Parser Lexemes :=
  group .parenthesis (return flat (← commaSeparated (unnamedField rules)))

def structItem (rules : Rules) : Parser Item := do
  let visibility ← visibility
  let keyword ← keyword "struct"
  let name ← take .ident
  let generics ← generics rules
  let clause ← peek (.keyword "where")
  let before ← whereClause rules
  let rest ← if !clause && (← peek (.opening .parenthesis)) then do
      let fields ← unnamedFields rules
      let after ← whereClause rules
      pure (fields ++ after ++ (← semicolon))
    else if ← peek (.opening .brace) then fields rules
    else semicolon
  let head := visibility ++ keyword ++ name :: generics ++ before ++ rest
  return .declared .struct [] [name] head []

def unionItem (rules : Rules) : Parser Item := do
  let visibility ← visibility
  let keyword ← keyword "union"
  let name ← take .ident
  let generics ← generics rules
  let clause ← whereClause rules
  let fields ← fields rules
  return .declared .union [] [name]
    (visibility ++ keyword ++ name :: generics ++ clause ++ fields) []

/-- A variant of an enum. A visibility before its name is dropped. -/
def variant (rules : Rules) : Parser Variant := do
  let attributes ← outerAttributes rules
  let _ ← visibility
  let name ← take .ident
  let payload ← if ← peek (.opening .brace) then fields rules
    else if ← peek (.opening .parenthesis) then unnamedFields rules
    else pure []
  let discriminant ← if ← peek (.punct "=") then
      let equals ← punct "="
      pure (some (equals, ← rules.expr true))
    else pure none
  return ⟨attributes, name, payload, discriminant⟩

def enumItem (rules : Rules) : Parser EnumItem := do
  let visibility ← visibility
  let keyword ← keyword "enum"
  let name ← take .ident
  let generics ← generics rules
  let whereClause ← whereClause rules
  let (opening, variants, closing) ← enclosed .brace (commaSeparated (variant rules))
  return {
    attributes := [], visibility, keyword, name, generics, whereClause, opening, variants, closing }

def traitMember (rules : Rules) : Parser Lexemes :=
  attributed rules do
    let visibility ← visibility
    let default ← optionalKeyword "default"
    let plain := visibility.isEmpty && default.isEmpty
    if ← peek (opensFunction false) then
      let signature ← signature rules false
      let tokens ← if ← peek (.punct ";") then pure (signature.tokens ++ (← semicolon))
        else method rules signature.tokens
      return if plain then some tokens else none
    else if ← peek (.keyword "const") then
      let declaration ← constantDeclaration rules
      return if plain && !declaration.generic then some declaration.tokens else none
    else if ← peek (.keyword "type") then
      let declaration ← aliasDeclaration rules .afterDefinition
      return if plain then some declaration.tokens else none
    else
      require (plain && (← peek opensItemMacro))
      return some (← itemMacro false)

def memberBody (rules : Rules) (member : Parser Lexemes) :
    Parser (Lexemes × List Attribute × Lexemes) :=
  body rules (return (← many (fun input => !View.atEnd input) member).flatten)

def traitRest (rules : Rules) (name : Lexeme) (head : Lexemes) : Parser Item := do
  let supertraits ← optionally (.punct ":") do
    let colon ← punct ":"
    let bounds ← separated (.any [.keyword "where", .opening .brace]) "+" (bound rules false true)
    return introduced colon (boundTokens bounds)
  let clause ← whereClause rules
  let (opening, attributes, tail) ← memberBody rules (traitMember rules)
  return .declared .trait attributes [name] (head ++ supertraits ++ clause ++ opening) tail

def modifiedTrait (rules : Rules) : Parser Item := do
  let visibility ← visibility
  let unsafety ← optionalKeyword "unsafe"
  let auto ← optionalKeyword "auto"
  let keyword ← keyword "trait"
  let name ← take .ident
  let generics ← generics rules
  traitRest rules name (visibility ++ unsafety ++ auto ++ keyword ++ name :: generics)

def traitItem (rules : Rules) : Parser Item := do
  let visibility ← visibility
  let keyword ← keyword "trait"
  let name ← take .ident
  let generics ← generics rules
  let head := visibility ++ keyword ++ name :: generics
  if ← peek (.punct "=") then
    let equals ← punct "="
    let bounds ← separated (.any [.keyword "where", .punct ";"]) "+" (bound rules false true)
    let clause ← whereClause rules
    return .other (head ++ equals ++ boundTokens bounds ++ clause ++ (← semicolon))
  else traitRest rules name head

def implMember (rules : Rules) : Parser Lexemes :=
  attributed rules do
    let visibility ← visibility
    let default ← optionally (View.but (.keyword "default") (.second (.punct "!")))
      (keyword "default")
    let head := visibility ++ default
    if ← peek (opensFunction false) then
      let signature ← signature rules false
      if ← peek (.punct ";") then
        let _ ← semicolon
        return none
      return some (← method rules (head ++ signature.tokens))
    else if ← peek (.keyword "const") then
      let declaration ← constantDeclaration rules
      return if declaration.generic || !declaration.hasValue then none
        else some (head ++ declaration.tokens)
    else if ← peek (.keyword "type") then
      let declaration ← aliasDeclaration rules .afterDefinition
      return if declaration.hasColon || !declaration.hasDefinition then none
        else some (head ++ declaration.tokens)
    else
      require (head.isEmpty && (← peek opensItemMacro))
      return some (← itemMacro false)

/-- Generic parameters after `impl`, rather than a type that starts with an angle bracket. -/
def opensImplGenerics : View :=
  .all [.punct "<",
    .any [.second (.any [.punct ">", .punct "#", .keyword "const"]),
      .all [.second (.any [.lifetime, .ident]),
        .third (.any [.punct ">", .punct ",", View.but (.punct ":") (.punct "::"),
          .punct "="])]]]

def implConstness : Parser Lexemes :=
  optionally (.any [.keyword "const", .all [.punct "?", .second (.keyword "const")]]) do
    return (← optionalPunct "?") ++ (← keyword "const")

/-- What an implementation is of: the trait, if there is one, and the type, all as tokens; the type
alone; and whether there is a form for it. -/
def implSubject (rules : Rules) : Parser (Lexemes × Lexemes × Bool) := do
  let before ← get
  let polarity ← optionally (View.but (.punct "!") (.second (.opening .brace))) (punct "!")
  let first ← rules.type true
  if ← peek (.keyword "for") then
    let separator ← keyword "for"
    let subject ← rules.type true
    let plain := match first.form with
      | .path ⟨[], _⟩ => true
      | _ => false
    return (polarity ++ first.tokens ++ separator ++ subject.tokens, subject.tokens, plain)
  let tokens ← if polarity.isEmpty then pure first.tokens else since before
  return (tokens, tokens, true)

/-- An implementation. One with a visibility, a `const` one, and one of what is not a plain path are
kept as they stand. -/
def implItem (rules : Rules) : Parser (Option Item) := do
  let visibility ← visibility
  let default ← optionalKeyword "default"
  let unsafety ← optionalKeyword "unsafe"
  let keyword ← keyword "impl"
  let generics ← optionally opensImplGenerics (generics rules)
  let constant ← implConstness
  let (subject, name, nameable) ← implSubject rules
  let clause ← whereClause rules
  let (opening, attributes, tail) ← memberBody rules (implMember rules)
  if !visibility.isEmpty || !constant.isEmpty || !nameable then return none
  return some (.declared .implementation attributes name
    (default ++ unsafety ++ keyword ++ generics ++ subject ++ clause ++ opening) tail)

def moduleItem (rules : Rules) : Parser Item := do
  let visibility ← visibility
  let unsafety ← optionalKeyword "unsafe"
  let keyword ← keyword "mod"
  let name ← take (.any [.ident, .keyword "try"])
  let head := visibility ++ unsafety ++ keyword ++ [name]
  if ← peek (.punct ";") then
    return .module [] name head [] (← semicolon)
  let (opening, (attributes, items), closing) ← enclosed .brace do
    return (← innerAttributes rules, ← many (fun input => !View.atEnd input) rules.item)
  return .module attributes name (head ++ opening) items closing

def macroDeclaration : Parser Unit := do
  let _ ← visibility
  let _ ← keyword "macro"
  let _ ← ident
  let _ ← optionally (.opening .parenthesis) anyGroup
  let _ ← rawGroup .brace

/-- An item, or nothing when it is to be kept as it stands, as told by what stands after its
visibility; `plain` says whether there is none. -/
def itemOf (rules : Rules) (plain : Bool) (rest : Lexemes) : Parser (Option Item) :=
  let sees (view : View) : Bool := view rest
  if sees (opensFunction false) then functionItem rules
  else if sees (.keyword "extern") then
    if sees (.second (.keyword "crate")) then some <$> externCrate
    else some <$> foreignBlock rules
  else if sees (.keyword "use") then useItem rules
  else if sees (.keyword "static") then staticItem rules
  else if sees (.keyword "const") then constantItem rules
  else if sees (.keyword "unsafe") then
    if sees (.second (.any [.keyword "trait",
        .all [.keyword "auto", .second (.keyword "trait")]])) then some <$> modifiedTrait rules
    else if sees (.second (.keyword "impl")) then implItem rules
    else if sees (.second (.keyword "extern")) then some <$> foreignBlock rules
    else some <$> moduleItem rules
  else if sees (.keyword "mod") then some <$> moduleItem rules
  else if sees (.keyword "type") then aliasItem rules
  else if sees (.keyword "struct") then some <$> structItem rules
  else if sees (.keyword "enum") then (some ∘ .enum) <$> enumItem rules
  else if sees (.all [.keyword "union", .second .ident]) then some <$> unionItem rules
  else if sees (.keyword "trait") then some <$> traitItem rules
  else if sees (.all [.keyword "auto", .second (.keyword "trait")]) then
    some <$> modifiedTrait rules
  else if sees (.any [.keyword "impl",
      View.but (.keyword "default") (.second (.punct "!"))]) then implItem rules
  else if sees (.keyword "macro") then (fun _ => none) <$> macroDeclaration
  else if plain && sees opensItemMacro then (some ∘ .other) <$> itemMacro true
  else fail

def itemRest (rules : Rules) : Parser (Option Item) := fun input => do
  let (visibility, rest) ← visibility input
  itemOf rules visibility.isEmpty rest input

def itemAfter (rules : Rules) (before : Lexemes) (attributes : List Attribute) : Parser Item := do
  match ← itemRest rules with
  | some item => return item.addAttributes attributes
  | none => return .other (← since before)

def item (rules : Rules) : Parser Item := do
  let before ← get
  let attributes ← outerAttributes rules
  itemAfter rules before attributes

def items (rules : Rules) : Parser (List Item) :=
  many (fun input => !View.atEnd input) rules.item

end CaseSynthesis.Grammar
