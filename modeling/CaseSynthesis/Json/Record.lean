import CaseSynthesis.Json.Reader

/-! Reading the fields of one record from text. Of other fields nothing is kept, so nothing is asked
of them but that they have the shape of values. -/

namespace CaseSynthesis.Json
open Text Text.Reader

/-- The text after a string, from within its quotes. Surrogates need not come in pairs. -/
def skipStringRest : List Char → Option (List Char)
  | [] => none
  | '"' :: rest => some rest
  | '\\' :: 'u' :: a :: b :: c :: d :: rest =>
    if (unit? a b c d).isSome then skipStringRest rest else none
  | '\\' :: c :: rest => if (escaped? c).isSome then skipStringRest rest else none
  | c :: rest => if c.toNat < 0x20 then none else skipStringRest rest

def skipString : Reader Unit := do
  expect "\""
  fun input => (skipStringRest input).map fun rest => ((), rest)

def skipNumeral : Reader Unit := do
  let _ ← accept "-"
  let _ ← wholeDigits
  let _ ← fractionDigits
  let _ ← exponent

def skipNested : Nat → Reader Unit
  | 0 => fail
  | depth + 1 => do
    match ← peek with
    | some '"' => skipString
    | some '[' =>
      let _ ← next
      let _ ← sequence "]" (skipNested depth)
    | some '\x7b' =>
      let _ ← next
      let _ ← sequence "\x7d" do
        skipString
        skipGap
        expect ":"
        skipGap
        skipNested depth
    | some c =>
      if isNumberStart c then skipNumeral
      else if ← accept "null" then return
      else if ← accept "true" then return
      else expect "false"
    | none => fail

/-- A value, however deeply nested: every level takes a character. -/
def skipValue : Reader Unit := fun input => skipNested (input.length + 1) input

def recordField (names : List String) : Reader (Option (String × Json)) := do
  let name ← string
  skipGap
  expect ":"
  skipGap
  if names.contains name then return some (name, ← value (maxDepth - 1))
  skipValue
  return none

/-- The fields of a record, each given once: as an object, or as an array in order. -/
def recordFields (names : List String) : Reader (List (String × Json)) := do
  if ← accept "\x7b" then
    let fields := (← sequence "\x7d" (recordField names)).filterMap id
    require ((fields.map Prod.fst).eraseDups.length == fields.length)
    return fields
  expect "["
  let elements ← sequence "]" (value (maxDepth - 1))
  require (elements.length == names.length)
  return names.zip elements

def parseRecord? (names : List String) (text : String) : Option (List (String × Json)) :=
  whole (do
    skipGap
    let fields ← recordFields names
    skipGap
    return fields) text

end CaseSynthesis.Json
