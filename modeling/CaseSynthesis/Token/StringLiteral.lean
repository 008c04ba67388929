import CaseSynthesis.Text.Hex

/-! String literals in source text: reading a body up to its closing quote, which gives both the
text that the literal denotes and what follows it. -/

namespace CaseSynthesis.StringLiteral

inductive Kind
  | text
  | bytes
  | terminated
  deriving DecidableEq, Repr

def Kind.admits : Kind → Char → Bool
  | text, _ => true
  | bytes, c => c.toNat < 0x80
  | terminated, c => c != '\x00'

def Kind.ofHex (kind : Kind) (value : Nat) : Option Char :=
  match kind with
  | text => if value < 0x80 then some (Char.ofNat value) else none
  | bytes => some (Char.ofNat value)
  | terminated => if value == 0 then none else some (Char.ofNat value)

def Kind.ofCodePoint (kind : Kind) (value : Nat) : Option Char :=
  if value.isValidChar then
    match kind with
    | text => some (Char.ofNat value)
    | bytes => none
    | terminated => if value == 0 then none else some (Char.ofNat value)
  else none

inductive Mode
  | plain
  | escape
  | hexHigh
  | hexLow (high : Nat)
  | codePointOpen
  | codePoint (digits value : Nat)
  | continued
  | lineEnd (continued : Bool)
  deriving DecidableEq, Repr

inductive Step
  | fail
  | close
  | emit (char : Char) (mode : Mode)
  | skip (mode : Mode)
  deriving DecidableEq, Repr

def stepPlain (kind : Kind) (c : Char) : Step :=
  if c == '"' then .close
  else if c == '\\' then .skip .escape
  else if c == '\r' then .skip (.lineEnd false)
  else if kind.admits c then .emit c .plain
  else .fail

def stepEscape (kind : Kind) (c : Char) : Step :=
  if c == 'n' then .emit '\n' .plain
  else if c == 'r' then .emit '\r' .plain
  else if c == 't' then .emit '\t' .plain
  else if c == '\\' || c == '\'' || c == '"' then .emit c .plain
  else if c == '0' && kind != .terminated then .emit '\x00' .plain
  else if c == 'x' then .skip .hexHigh
  else if c == 'u' && kind != .bytes then .skip .codePointOpen
  else if c == '\n' then .skip .continued
  else if c == '\r' then .skip (.lineEnd true)
  else .fail

def stepCodePoint (kind : Kind) (digits value : Nat) (c : Char) : Step :=
  match Text.hexDigit? c with
  | some digit => if digits < 6 then .skip (.codePoint (digits + 1) (value * 16 + digit)) else .fail
  | none =>
    if digits == 0 then .fail
    else if c == '_' then .skip (.codePoint digits value)
    else if c == '\x7d' then
      match kind.ofCodePoint value with
      | some char => .emit char .plain
      | none => .fail
    else .fail

def step (kind : Kind) (mode : Mode) (c : Char) : Step :=
  match mode with
  | .plain => stepPlain kind c
  | .escape => stepEscape kind c
  | .hexHigh =>
    match Text.hexDigit? c with
    | some high => .skip (.hexLow high)
    | none => .fail
  | .hexLow high =>
    match (Text.hexDigit? c).bind fun low => kind.ofHex (high * 16 + low) with
    | some char => .emit char .plain
    | none => .fail
  | .codePointOpen => if c == '\x7b' then .skip (.codePoint 0 0) else .fail
  | .codePoint digits value => stepCodePoint kind digits value c
  | .continued =>
    if c == ' ' || c == '\t' || c == '\n' then .skip .continued
    else if c == '\r' then .skip (.lineEnd true)
    else stepPlain kind c
  | .lineEnd continued =>
    if c == '\n' then (if continued then .skip .continued else .emit '\n' .plain) else .fail

def readCooked (kind : Kind) (mode : Mode) : List Char → Option (List Char × List Char)
  | [] => none
  | c :: rest =>
    match step kind mode c with
    | .fail => none
    | .close => some ([], rest)
    | .emit char next => (readCooked kind next rest).map fun (body, after) => (char :: body, after)
    | .skip next => readCooked kind next rest

/-- Reads one escape from within: the character it denotes, and what follows it. Line ends cannot
be escaped here. -/
def readEscape (kind : Kind) (mode : Mode) : List Char → Option (Char × List Char)
  | [] => none
  | c :: rest =>
    match step kind mode c with
    | .emit char _ => some (char, rest)
    | .skip .continued | .skip (.lineEnd _) => none
    | .skip next => readEscape kind next rest
    | _ => none

/-- Reads the body of a raw literal. It ends at a quote followed by as many hashes as opened it. -/
def readRaw (kind : Kind) (hashes : Nat) : List Char → Option (List Char × List Char)
  | [] => none
  | '"' :: rest =>
    if (List.replicate hashes '#').isPrefixOf rest then some ([], rest.drop hashes)
    else (readRaw kind hashes rest).map fun (body, after) => ('"' :: body, after)
  | '\r' :: '\n' :: rest =>
    (readRaw kind hashes rest).map fun (body, after) => ('\r' :: '\n' :: body, after)
  | c :: rest =>
    if c == '\r' || !kind.admits c then none
    else (readRaw kind hashes rest).map fun (body, after) => (c :: body, after)

/-- Reads a raw literal from the hashes that open it. At most 255 of them may. -/
def readHashed (kind : Kind) (input : List Char) : Option (List Char × List Char) :=
  let hashes := (input.takeWhile (· == '#')).length
  match input.drop hashes with
  | '"' :: rest => if hashes ≤ 255 then readRaw kind hashes rest else none
  | _ => none

def value? (text : String) : Option String :=
  match text.toList with
  | '"' :: rest => (readCooked .text .plain rest).map fun (body, _) => String.ofList body
  | 'r' :: rest => (readHashed .text rest).map fun (body, _) => String.ofList body
  | _ => none

end CaseSynthesis.StringLiteral
