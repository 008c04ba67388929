import CaseSynthesis.Text.Hex
import CaseSynthesis.Token.Identifier

/-! Numbers in source text: where one ends, and what the spelling of an integer denotes. -/

namespace CaseSynthesis.Number

def isDigitOrUnderscore (c : Char) : Bool := c.isDigit || c == '_'

/-- What follows the exponent of a float, from after its `e`. At most one sign comes before the
first digit, underscores stand anywhere; `none` unless there is a digit. -/
def exponentRest (signed valued : Bool) : List Char → Option (List Char)
  | [] => if valued then some [] else none
  | c :: rest =>
    if c == '+' || c == '-' then
      if valued then some (c :: rest) else if signed then none else exponentRest true false rest
    else if c.isDigit then exponentRest signed true rest
    else if c == '_' then exponentRest signed valued rest
    else if valued then some (c :: rest) else none

def exponent? : List Char → Option (List Char)
  | c :: rest => if c == 'e' || c == 'E' then exponentRest false false rest else none
  | [] => none

def opensWord : List Char → Bool
  | [] => false
  | c :: _ => c == '.' || Text.isIdentifierStart c

/-- What follows the digits of a float. A point that is followed by a name or another point is
not part of the number. -/
def floatDigits : List Char → Option (List Char)
  | [] => none
  | c :: rest =>
    if !c.isDigit then none
    else
      match rest.dropWhile isDigitOrUnderscore with
      | '.' :: fraction =>
        if opensWord fraction then none
        else
          let afterFraction := fraction.dropWhile isDigitOrUnderscore
          some ((exponent? afterFraction).getD afterFraction)
      | afterWhole => exponent? afterWhole

def radix : List Char → Nat × List Char
  | '0' :: 'x' :: rest => (16, rest)
  | '0' :: 'o' :: rest => (8, rest)
  | '0' :: 'b' :: rest => (2, rest)
  | input => (10, input)

/-- What follows the digits of an integer in the given radix. A decimal digit too large for the
radix spoils the number, a letter ends it. -/
def digitsRest (radix : Nat) (empty : Bool) : List Char → Option (List Char)
  | [] => if empty then none else some []
  | c :: rest =>
    if c == '_' then
      if empty && radix == 10 then none else digitsRest radix empty rest
    else
      match Text.hexDigit? c with
      | some digit =>
        if digit < radix then digitsRest radix false rest
        else if c.isDigit || empty then none
        else some (c :: rest)
      | none => if empty then none else some (c :: rest)

def integerDigits (input : List Char) : Option (List Char) :=
  let (radix, digits) := radix input
  digitsRest radix true digits

/-- What follows a suffix such as `u8`; a number may not run into a word otherwise. -/
def afterSuffix (input : List Char) : Option (List Char) :=
  match Ident.scan input with
  | some (_, rest) => some rest
  | none =>
    match input with
    | [] => some []
    | c :: _ => if Text.isIdentifierContinue c then none else some input

def scan (input : List Char) : Option (List Char) :=
  ((floatDigits input).bind afterSuffix).orElse fun _ => (integerDigits input).bind afterSuffix

/-- Digits of an integer literal with the value read so far, underscores skipped. The value comes
with what follows the digits; `none` if there is a digit that the radix does not have. -/
def integerValue (radix : Nat) (value : Option Nat) : List Char → Option (Nat × List Char)
  | [] => value.map (·, [])
  | c :: rest =>
    if c == '_' then integerValue radix value rest
    else
      match Text.hexDigit? c with
      | some digit =>
        if radix ≤ 10 && !c.isDigit then value.map (·, c :: rest)
        else if digit < radix then integerValue radix (some (value.getD 0 * radix + digit)) rest
        else none
      | none => value.map (·, c :: rest)

/-- Whether `e…` after decimal digits is the exponent of a float rather than a suffix. -/
def isExponent (text : List Char) : Bool :=
  match text with
  | c :: rest =>
    if c == 'e' || c == 'E' then
      let afterDigits := rest.dropWhile isDigitOrUnderscore
      let hasDigit := (rest.takeWhile isDigitOrUnderscore).any Char.isDigit
      match afterDigits with
      | [] => hasDigit
      | next :: _ =>
        next == '+' || next == '-' || (hasDigit && Ident.wellFormed (String.ofList afterDigits))
    else false
  | [] => false

def integer? (text : String) : Option (Nat × String) :=
  match text.toList with
  | [] => none
  | c :: rest =>
    if !c.isDigit then none
    else
      let (radix, digits) := radix (c :: rest)
      match integerValue radix none digits with
      | none => none
      | some (value, suffix) =>
        if radix == 10 && (suffix.head? == some '.' || isExponent suffix) then none
        else if suffix.isEmpty || Ident.wellFormed (String.ofList suffix) then
          some (value, String.ofList suffix)
        else none

def isFloat (text : String) : Bool :=
  (text.toList.head?.any Char.isDigit) && (integer? text).isNone

end CaseSynthesis.Number
