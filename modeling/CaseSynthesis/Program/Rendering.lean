import CaseSynthesis.Output
import CaseSynthesis.Program.AddedCase
import CaseSynthesis.Program.CaseName
import CaseSynthesis.Program.Reading
import CaseSynthesis.Rule.Codable

/-! Writing what the rules produce as tokens. -/

namespace CaseSynthesis.Rendering

def word (name : String) : List Token := [.ident ⟨name, false⟩]

def sign (text : String) : List Token := go text.toList
where
  go : List Char → List Token
    | [] => []
    | [c] => [.punct c false]
    | c :: rest => .punct c true :: go rest

def lifetime (name : String) : List Token := [.lifetime ⟨name, false⟩]

def group (delimiter : Delimiter) (inside : List Token) : List Token :=
  .opening delimiter :: inside ++ [.closing delimiter]

def parens : List Token → List Token := group .parenthesis

def braces : List Token → List Token := group .brace

def joinedPath (names : List String) : List Token :=
  (sign "::").intercalate (names.map word)

def globalPath (names : List String) : List Token := sign "::" ++ joinedPath names

def applied (head : List Token) (arguments : List (List Token)) : List Token :=
  head ++ sign "<" ++ (sign ",").intercalate arguments ++ sign ">"

def stringLiteral (value : String) : List Token := [.literal (Text.literalText value)]

def nameIdent (name : String) : Except RenderError (List Token) := do
  let ident ← (Ident.ofText name).mapError .ident
  return [.ident ident]

def casePath (name : String) : Except RenderError (List Token) := do
  return word "Self" ++ sign "::" ++ [.ident (← caseIdent name)]

mutual

/-- An expression, where `embedded` stands for the one that the rule was applied to. -/
def expression (embedded : List Token) : Expression → List Token
  | .tuple elements => parens (elementTokens embedded elements)
  | .embedded _ => embedded
  | .stringLiteral value => stringLiteral value

def elementTokens (embedded : List Token) : List Expression → List Token
  | [] => []
  | [element] => expression embedded element
  | element :: rest => expression embedded element ++ sign "," ++ elementTokens embedded rest

end

def decodedName : String := "value"

def subject : Subject → Except RenderError (List Token)
  | .parameter name => nameIdent name
  | .selfValue => .ok (word "self")
  | .decodedString => .ok (word decodedName ++ sign "." ++ word "as_str" ++ parens [])

def pattern : Pattern → Except RenderError (List Token)
  | .str value => .ok (stringLiteral value)
  | .case name => casePath name
  | .rawValueOf name => do
    let path ← casePath name
    return word "raw" ++ word "if" ++ word "raw" ++ sign "==" ++ path ++ sign "." ++
      word Codable.accessorName ++ parens []

def branch : Branch → Except RenderError (List Token)
  | .assignCase name => casePath name
  | .returnStr value => .ok (stringLiteral value)

def arm (arm : Arm) : Except RenderError (List Token) := do
  let pattern ← pattern arm.pattern
  let branch ← branch arm.branch
  return pattern ++ sign "=>" ++ branch ++ sign ","

def switch (switch : Switch) : Except RenderError (List Token) := do
  let subject ← subject switch.subject
  let arms ← switch.arms.mapM arm
  let default ← branch switch.default
  return word "match" ++ subject ++
    braces (arms.flatten ++ word "_" ++ sign "=>" ++ default ++ sign ",")

def initializer (initializer : Initializer) : Except RenderError (List Token) := do
  let name ← nameIdent initializer.name
  let parameter ← nameIdent initializer.parameter
  let body ← switch initializer.body
  return word "pub" ++ word "fn" ++ name ++
    parens (parameter ++ sign ":" ++ sign "&" ++ word "str") ++
    sign "->" ++ word "Self" ++ braces body

def accessor (accessor : Accessor) : Except RenderError (List Token) := do
  let name ← nameIdent accessor.name
  let body ← switch accessor.body
  return word "pub" ++ word "fn" ++ name ++ parens (sign "&" ++ word "self") ++ sign "->" ++
    sign "&" ++ lifetime "static" ++ word "str" ++ braces body

def resultPath : List Token := globalPath ["core", "result", "Result"]

def decoding (serde target body : List Token) : List Token :=
  let inSerde (name : String) := serde ++ sign "::" ++ word name
  word "impl" ++ sign "<" ++ lifetime "de" ++ sign ">" ++
    applied (inSerde "Deserialize") [lifetime "de"] ++ word "for" ++ target ++ braces (
      word "fn" ++ applied (word "deserialize") [word "D"] ++
      parens (word "deserializer" ++ sign ":" ++ word "D") ++ sign "->" ++
      applied resultPath [word "Self", joinedPath ["D", "Error"]] ++
      word "where" ++ word "D" ++ sign ":" ++ applied (inSerde "Deserializer") [lifetime "de"] ++
      sign "," ++ braces (
        word "let" ++ word decodedName ++ sign "=" ++
        sign "<" ++ globalPath ["std", "string", "String"] ++ word "as" ++ inSerde "Deserialize" ++
        sign ">" ++ sign "::" ++ word "deserialize" ++ parens (word "deserializer") ++
        sign "?" ++ sign ";" ++
        resultPath ++ sign "::" ++ word "Ok" ++ parens body))

def encoding (serde target body : List Token) : List Token :=
  let inSerde (name : String) := serde ++ sign "::" ++ word name
  word "impl" ++ inSerde "Serialize" ++ word "for" ++ target ++ braces (
    word "fn" ++ applied (word "serialize") [word "S"] ++
    parens (sign "&" ++ word "self" ++ sign "," ++ word "serializer" ++ sign ":" ++ word "S") ++
    sign "->" ++ applied resultPath [joinedPath ["S", "Ok"], joinedPath ["S", "Error"]] ++
    word "where" ++ word "S" ++ sign ":" ++ inSerde "Serializer" ++ sign "," ++
    braces (word "serializer" ++ sign "." ++ word "serialize_str" ++ parens body))

def typeTokens (type : TypeName) : Except RenderError (List Token) :=
  match readType type.name with
  | .ok found => .ok found.tokens.tokens
  | .error _ => .error (.invalidType type.name)

def pathTokens (path : String) : Except RenderError (List Token) :=
  match readPath path with
  | .ok found => .ok found.tokens.tokens
  | .error _ => .error (.invalidPath path)

def extension (serde : List Token) (extension : Extension) : Except RenderError (List Token) := do
  let target ← typeTokens extension.target
  let body ← switch extension.body
  return match extension.conformance with
    | .decodable => decoding serde target body
    | .encodable => encoding serde target body

structure Additions where
  cases : List Ident := []
  methods : List Token := []
  implementations : List Token := []

namespace Additions

def add (serde : List Token) (additions : Additions) :
    Declaration → Except RenderError Additions
  | .case name => do
    return { additions with cases := additions.cases ++ [← caseIdent name] }
  | .initializer built => do
    return { additions with methods := additions.methods ++ (← initializer built) }
  | .accessor built => do
    return { additions with methods := additions.methods ++ (← accessor built) }
  | .extension built => do
    return { additions with
      implementations := additions.implementations ++ (← extension serde built) }

end Additions

structure Rendered where
  item : Grammar.EnumItem
  implementations : List Token

def Rendered.tokens (rendered : Rendered) : List Token :=
  rendered.item.tokens.tokens ++ rendered.implementations

/-- An enum with all that declarations add to it. The methods stand in one implementation. -/
def enum (settings : Settings) (item : Grammar.EnumItem) (declarations : List Declaration) :
    Except RenderError Rendered := do
  let serde ← pathTokens settings.serdePath
  let additions ← declarations.foldlM (Additions.add serde) {}
  let methods := if additions.methods.isEmpty then []
    else word "impl" ++ [item.name.token] ++ braces additions.methods
  return ⟨item.withCases additions.cases, methods ++ additions.implementations⟩

end CaseSynthesis.Rendering
