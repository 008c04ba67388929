import CaseSynthesis.Json.Basic
import CaseSynthesis.Text.Decimal
import CaseSynthesis.Text.Hex
import CaseSynthesis.Text.Reader

/-! Reading JSON text. -/

namespace CaseSynthesis.Json
open Text Text.Reader

def isGap (c : Char) : Bool := c == ' ' || c == '\t' || c == '\n' || c == '\r'

def skipGap : Reader Unit := skipWhile isGap

def unit? (a b c d : Char) : Option Nat := do
  return ((← hexDigit? a) * 16 + (← hexDigit? b)) * 256 + (← hexDigit? c) * 16 + (← hexDigit? d)

def isHighSurrogate (unit : Nat) : Bool := 0xD800 ≤ unit && unit < 0xDC00

def isLowSurrogate (unit : Nat) : Bool := 0xDC00 ≤ unit && unit < 0xE000

def escaped? : Char → Option Char
  | '"' => some '"'
  | '\\' => some '\\'
  | '/' => some '/'
  | 'b' => some '\x08'
  | 'f' => some '\x0c'
  | 'n' => some '\n'
  | 'r' => some '\r'
  | 't' => some '\t'
  | _ => none

/-- The rest of a string from within its quotes; `read` holds what was read of it, last first. A
surrogate counts only as one of a pair. -/
def stringRest (read : List Char) : List Char → Option (List Char × List Char)
  | [] => none
  | '"' :: rest => some (read.reverse, rest)
  | '\\' :: 'u' :: a :: b :: c :: d :: rest => do
    let unit ← unit? a b c d
    if isLowSurrogate unit then none
    else if isHighSurrogate unit then
      match rest with
      | '\\' :: 'u' :: e :: f :: g :: h :: rest =>
        let low ← unit? e f g h
        if isLowSurrogate low then
          let point := 0x10000 + (unit - 0xD800) * 0x400 + (low - 0xDC00)
          stringRest (Char.ofNat point :: read) rest
        else none
      | _ => none
    else stringRest (Char.ofNat unit :: read) rest
  | '\\' :: c :: rest => do
    let c ← escaped? c
    stringRest (c :: read) rest
  | c :: rest => if c.toNat < 0x20 then none else stringRest (c :: read) rest

def string : Reader String := do
  expect "\""
  return String.ofList (← stringRest [])

def wholeDigits : Reader (List Char) := do
  let digits ← takeSome Char.isDigit
  require (digits.length == 1 || digits.head? != some '0')
  return digits

def fractionDigits : Reader (List Char) := do
  if ← accept "." then takeSome Char.isDigit else return []

def exponent : Reader (Bool × List Char) := do
  match ← peek with
  | some 'e' | some 'E' =>
    let _ ← next
    let negative ← accept "-"
    let _ ← if negative then pure false else accept "+"
    return (negative, ← takeSome Char.isDigit)
  | _ => return (false, [])

def spelled (reader : Reader Bool) : Reader String := fun input => do
  let (accepted, rest) ← reader input
  if accepted then
    some (String.ofList (input.take (input.length - rest.length)), rest)
  else none

def numeral : Reader String :=
  spelled do
    let _ ← accept "-"
    let whole ← wholeDigits
    let fraction ← fractionDigits
    let (negative, power) ← exponent
    return isFinite whole fraction negative power

def sequence {α : Type} (closing : String) (element : Reader α) : Reader (List α) := do
  skipGap
  if ← accept closing then return []
  let elements ← ReaderOf.loop (fun elements => do
    skipGap
    let elements := (← element) :: elements
    skipGap
    if ← accept closing then return (elements, false)
    expect ","
    return (elements, true)) []
  return elements.reverse

def isNumberStart (c : Char) : Bool := c == '-' || c.isDigit

def value : Nat → Reader Json
  | 0 => fail
  | depth + 1 => do
    match ← peek with
    | some '"' => return .str (← string)
    | some '[' =>
      require (0 < depth)
      let _ ← next
      return .arr (← sequence "]" (value depth))
    | some '\x7b' =>
      require (0 < depth)
      let _ ← next
      return .obj (← sequence "\x7d" do
        let name ← string
        skipGap
        expect ":"
        skipGap
        return (name, ← value depth))
    | some c =>
      if isNumberStart c then return .number (← numeral)
      else if ← accept "null" then return .null
      else if ← accept "true" then return .bool true
      else if ← accept "false" then return .bool false
      else fail
    | none => fail

def maxDepth : Nat := 128

def parse? (text : String) : Option Json :=
  whole (do
    skipGap
    let value ← value maxDepth
    skipGap
    return value) text

end CaseSynthesis.Json
