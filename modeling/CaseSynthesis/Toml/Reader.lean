import CaseSynthesis.Text.Reader
import CaseSynthesis.Toml.Scalar

/-! Reading configuration documents. -/

namespace CaseSynthesis.Toml
open Text Text.Reader

def isGap (c : Char) : Bool := c == ' ' || c == '\t'

def skipGap : Reader Unit := skipWhile isGap

def acceptLineEnd : Reader Bool := do
  if ← accept "\n" then return true
  accept "\r\n"

def isTextChar (c : Char) : Bool := c == '\t' || (0x20 ≤ c.toNat && c.toNat != 0x7F)

def skipComment : Reader Unit := do
  if ← accept "#" then skipWhile isTextChar

def lineRest : Reader Unit := do
  skipGap
  skipComment
  unless ← acceptLineEnd do require (← atEnd)

def codePoint? (digits : List Char) : Option Char := do
  let values ← digits.mapM hexDigit?
  let value := values.foldl (fun value digit => value * 16 + digit) 0
  if value.isValidChar then some (Char.ofNat value) else none

def takeExactly (count : Nat) : Reader (List Char) := fun input =>
  if count ≤ input.length then some (input.take count, input.drop count) else none

def escape : Reader Char := do
  match ← next with
  | 'b' => return '\x08'
  | 'f' => return '\x0c'
  | 'n' => return '\n'
  | 'r' => return '\r'
  | 't' => return '\t'
  | '"' => return '"'
  | '\\' => return '\\'
  | 'u' => fun input => do
    let (digits, rest) ← takeExactly 4 input
    return (← codePoint? digits, rest)
  | 'U' => fun input => do
    let (digits, rest) ← takeExactly 8 input
    return (← codePoint? digits, rest)
  | _ => fail

def basicRest : Reader (List Char) := do
  let reversed ← ReaderOf.loop (fun reversed => do
    match ← next with
    | '"' => return (reversed, false)
    | '\\' => return ((← escape) :: reversed, true)
    | c =>
      require (isTextChar c)
      return (c :: reversed, true)) []
  return reversed.reverse

def literalRest : Reader (List Char) := do
  let text ← takeWhile fun c => c != '\'' && isTextChar c
  expect "'"
  return text

def afterLines : List Char → List Char
  | ' ' :: rest => afterLines rest
  | '\t' :: rest => afterLines rest
  | '\n' :: rest => afterLines rest
  | '\r' :: '\n' :: rest => afterLines rest
  | text => text

def endsLine (input : List Char) : Bool :=
  match input.dropWhile isGap with
  | '\n' :: _ => true
  | '\r' :: '\n' :: _ => true
  | _ => false

/-- Takes three quotes, and up to two more that belong to the string. Gives the number of those. -/
def closing (quote : Char) : Reader (Option Nat) := fun input =>
  let run := (input.takeWhile (· == quote)).length
  if run < 3 then some (none, input)
  else
    let extra := min (run - 3) 2
    some (some extra, input.drop (3 + extra))

/-- A string over several lines, from after its three quotes. A line end right after them does not
count, nor does one after a backslash with the blanks that follow it. -/
def multilineRest (quote : Char) (escapes : Bool) : Reader (List Char) := do
  let _ ← acceptLineEnd
  let reversed ← ReaderOf.loop (fun reversed => do
    match ← closing quote with
    | some extra => return (List.replicate extra quote ++ reversed, false)
    | none =>
      if ← acceptLineEnd then return ('\n' :: reversed, true)
      let c ← next
      if c == '\\' && escapes then
        let rest ← get
        if endsLine rest then
          set (afterLines rest)
          return (reversed, true)
        return ((← escape) :: reversed, true)
      require (isTextChar c)
      return (c :: reversed, true)) []
  return reversed.reverse

def quoted : Reader (List Char) := do
  if ← accept "\"\"\"" then multilineRest '"' true
  else if ← accept "'''" then multilineRest '\'' false
  else if ← accept "\"" then basicRest
  else
    expect "'"
    literalRest

def isKeyChar (c : Char) : Bool := c.isAlphanum || c == '-' || c == '_'

def keyPart : Reader (List Char) := do
  if ← accept "\"" then basicRest
  else if ← accept "'" then literalRest
  else takeSome isKeyChar

/-- How deeply values may be nested, and how many parts a key may have: less than this. -/
def nestingLimit : Nat := 80

def key : Reader (List String × String) := do
  let parts ← ReaderOf.loop (fun parts => do
    skipGap
    let part ← keyPart
    skipGap
    return (parts ++ [String.ofList part], ← accept ".")) []
  require (parts.length < nestingLimit)
  match parts.getLast? with
  | some last => return (parts.dropLast, last)
  | none => fail

def skipLines : Reader Unit :=
  ReaderOf.loop (fun _ => do
    let before ← get
    skipGap
    skipComment
    let _ ← acceptLineEnd
    let after ← get
    return ((), after.length < before.length)) ()

def opensTime : List Char → Bool
  | ' ' :: a :: b :: ':' :: _ => a.isDigit && b.isDigit
  | _ => false

def bare : Reader Toml := do
  let run ← takeSome isBareChar
  let time ← if isDate run && opensTime (← get) then do
      let _ ← next
      pure (' ' :: (← takeWhile isBareChar))
    else pure []
  match bare? (run ++ time) with
  | some value => return value
  | none => fail

def arrayRest (value : Reader Toml) : Reader (List Toml) :=
  ReaderOf.loop (fun elements => do
    skipLines
    if ← accept "]" then return (elements, false)
    let elements := elements ++ [← value]
    skipLines
    if ← accept "]" then return (elements, false)
    expect ","
    return (elements, true)) []

def keyValue (value : Reader Toml) : Reader (List String × String × Toml) := do
  let (path, last) ← key
  expect "="
  skipGap
  return (path, last, ← value)

def insertInline (entries : Entries) (path : List String) (last : String) (value : Toml) :
    Reader Entries :=
  match insertKey path last value .inline entries with
  | some entries => pure entries
  | none => fail

def inlineRest (value : Reader Toml) : Reader Entries := do
  skipGap
  if ← accept "\x7d" then return []
  ReaderOf.loop (fun entries => do
    let (path, last, value) ← keyValue value
    let entries ← insertInline entries path last value
    skipGap
    if ← accept "\x7d" then return (entries, false)
    expect ","
    return (entries, true)) []

/-- A value with less than the given number of arrays and tables around and in it. -/
def value : Nat → Reader Toml
  | 0 => fail
  | depth + 1 => do
    match ← peek with
    | some '"' | some '\'' => return .string (String.ofList (← quoted))
    | some '[' =>
      require (0 < depth)
      let _ ← next
      return .array (← arrayRest (value depth))
    | some '\x7b' =>
      require (0 < depth)
      let _ ← next
      return .table .inline (← inlineRest (value depth))
    | _ => bare

inductive Line
  | header (path : List String) (last : String)
  | element (path : List String) (last : String)
  | entry (path : List String) (last : String) (value : Toml)

def line : Reader Line := do
  if ← accept "[[" then
    let (path, last) ← key
    expect "]]"
    lineRest
    return .element path last
  else if ← accept "[" then
    let (path, last) ← key
    expect "]"
    lineRest
    return .header path last
  else
    let (path, last, value) ← keyValue (value nestingLimit)
    lineRest
    return .entry path last value

/-- A document under construction: all entries so far, and the path of the table being filled. -/
structure Draft where
  entries : Entries := []
  current : List String := []

def Draft.add (draft : Draft) : Line → Option Draft
  | .header path last => do
    return ⟨← openTable path last draft.entries, path ++ [last]⟩
  | .element path last => do
    return ⟨← openElement path last draft.entries, path ++ [last]⟩
  | .entry path last value => do
    let entries ← updateAt false (insertKey path last value) draft.current .header draft.entries
    return { draft with entries }

def document : Reader Entries := do
  let _ ← accept "\ufeff"
  let draft ← ReaderOf.loop (fun (draft : Draft) => do
    skipLines
    if ← atEnd then return (draft, false)
    let line ← line
    match draft.add line with
    | some draft => return (draft, true)
    | none => fail) {}
  return draft.entries

def parse? (text : String) : Option Entries := whole document text

end CaseSynthesis.Toml
