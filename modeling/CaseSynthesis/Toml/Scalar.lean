import CaseSynthesis.Text.Decimal
import CaseSynthesis.Text.Hex
import CaseSynthesis.Toml.Basic

/-! Values without delimiters: numbers, truth values, dates and times. -/

namespace CaseSynthesis.Toml
open Text

def isBareChar (c : Char) : Bool := c.isAlphanum || "_+-:.".toList.contains c

def grouped (kind : Char → Bool) : List Char → Bool
  | [] => false
  | [c] => kind c
  | c :: '_' :: rest => kind c && grouped kind rest
  | c :: rest => kind c && grouped kind rest

def withoutUnderscores (text : List Char) : List Char := text.filter (· != '_')

def signed : List Char → Bool × List Char
  | '-' :: rest => (true, rest)
  | '+' :: rest => (false, rest)
  | text => (false, text)

def isDecimal (text : List Char) : Bool :=
  grouped Char.isDigit text && (text.head? != some '0' || text.length == 1)

def valueIn (base : Nat) (digits : List Char) : Nat :=
  (withoutUnderscores digits).foldl (fun value c => value * base + (hexDigit? c).getD 0) 0

def fits (value : Int) : Bool := Int64.minValue.toInt ≤ value && value ≤ Int64.maxValue.toInt

def isDigitIn (base : Nat) (c : Char) : Bool := (hexDigit? c).any (· < base)

def unsignedIn (base : Nat) (digits : List Char) : Option Int :=
  if grouped (isDigitIn base) digits then some (valueIn base digits) else none

def integer? (text : List Char) : Option Int :=
  let value := match text with
    | '0' :: 'x' :: digits => unsignedIn 16 digits
    | '0' :: 'o' :: digits => unsignedIn 8 digits
    | '0' :: 'b' :: digits => unsignedIn 2 digits
    | text =>
      let (negative, digits) := signed text
      if isDecimal digits then
        some (if negative then -(valueIn 10 digits : Int) else valueIn 10 digits)
      else none
  value.filter fits

def splitAtFirst (kind : Char → Bool) (text : List Char) : List Char × Option (List Char) :=
  match text.dropWhile fun c => !kind c with
  | [] => (text, none)
  | _ :: rest => (text.takeWhile fun c => !kind c, some rest)

/-- A number with a fraction or an exponent. A positive one must not be too large. -/
def isFloat (text : List Char) : Bool :=
  let (negative, body) := signed text
  let (mantissa, power) := splitAtFirst (fun c => c == 'e' || c == 'E') body
  let (whole, fraction) := splitAtFirst (· == '.') mantissa
  let (negativePower, powerDigits) := signed (power.getD [])
  isDecimal whole && (fraction.isSome || power.isSome) &&
    fraction.all (grouped Char.isDigit) && (power.isNone || grouped Char.isDigit powerDigits) &&
    (negative || isFinite (withoutUnderscores whole) (withoutUnderscores (fraction.getD []))
      negativePower (withoutUnderscores powerDigits))

def specialFloats : List String := ["inf", "+inf", "-inf", "nan", "+nan", "-nan"]

def exactDigits? (count : Nat) (text : List Char) : Option Nat :=
  if text.length == count && text.all Char.isDigit then some (digitsValue text) else none

def isLeap (year : Nat) : Bool := year % 4 == 0 && (year % 100 != 0 || year % 400 == 0)

def daysIn (year month : Nat) : Nat :=
  if month == 2 then if isLeap year then 29 else 28
  else if [4, 6, 9, 11].contains month then 30
  else 31

def isDate (text : List Char) : Bool :=
  match text with
  | [y1, y2, y3, y4, '-', m1, m2, '-', d1, d2] =>
    match exactDigits? 4 [y1, y2, y3, y4], exactDigits? 2 [m1, m2], exactDigits? 2 [d1, d2] with
    | some year, some month, some day =>
      1 ≤ month && month ≤ 12 && 1 ≤ day && day ≤ daysIn year month
    | _, _, _ => false
  | _ => false

def isAtMost (most : Nat) (text : List Char) : Bool := (exactDigits? 2 text).any (· ≤ most)

/-- `hh:mm:ss`, with or without a fraction. A minute may have a leap second. -/
def isTime (text : List Char) : Bool :=
  match text with
  | h1 :: h2 :: ':' :: m1 :: m2 :: ':' :: s1 :: s2 :: fraction =>
    isAtMost 23 [h1, h2] && isAtMost 59 [m1, m2] && isAtMost 60 [s1, s2] &&
      match fraction with
      | [] => true
      | '.' :: digits => !digits.isEmpty && digits.all Char.isDigit
      | _ => false
  | _ => false

def isOffset (text : List Char) : Bool :=
  match text with
  | ['Z'] | ['z'] => true
  | [sign, h1, h2, ':', m1, m2] =>
    (sign == '+' || sign == '-') && isAtMost 23 [h1, h2] && isAtMost 59 [m1, m2]
  | _ => false

def isOffsetStart (c : Char) : Bool := c == 'Z' || c == 'z' || c == '+' || c == '-'

def isOffsetTime (text : List Char) : Bool :=
  let time := text.takeWhile fun c => !isOffsetStart c
  let offset := text.dropWhile fun c => !isOffsetStart c
  isTime time && (offset.isEmpty || isOffset offset)

def isDatetime (text : List Char) : Bool :=
  isTime text || (isDate (text.take 10) &&
    match text.drop 10 with
    | [] => true
    | delimiter :: time => (delimiter == 'T' || delimiter == 't' || delimiter == ' ') &&
        isOffsetTime time)

def bare? (text : List Char) : Option Toml :=
  let spelling := String.ofList text
  if spelling == "true" then some (.boolean true)
  else if spelling == "false" then some (.boolean false)
  else if specialFloats.contains spelling then some (.float spelling)
  else if isDatetime text then some (.datetime spelling)
  else if isFloat text then some (.float spelling)
  else (integer? text).map .integer

end CaseSynthesis.Toml
