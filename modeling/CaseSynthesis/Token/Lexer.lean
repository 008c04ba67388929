import CaseSynthesis.Text.Blank
import CaseSynthesis.Text.Quoted
import CaseSynthesis.Token.Number
import CaseSynthesis.Token.StringLiteral

/-! From source text to tokens. Blanks and comments vanish, and a doc comment becomes the attribute
it stands for. -/

namespace CaseSynthesis.Lexer

def startsWith (text : String) (input : List Char) : Bool := text.toList.isPrefixOf input

def isGap (c : Char) : Bool := Text.isBlank c || c == '\u200e' || c == '\u200f'

def takeLine : List Char → List Char × List Char
  | [] => ([], [])
  | '\n' :: rest => ([], '\n' :: rest)
  | '\r' :: '\n' :: rest => ([], '\n' :: rest)
  | c :: rest =>
    let (line, after) := takeLine rest
    (c :: line, after)

/-- The inside of a block comment from after its first opener, and what follows it. Comments
nest. -/
def takeBlock (depth : Nat) : List Char → Option (List Char × List Char)
  | '*' :: '/' :: rest =>
    match depth with
    | 0 => some ([], rest)
    | outer + 1 => (takeBlock outer rest).map fun (body, after) => ('*' :: '/' :: body, after)
  | '/' :: '*' :: rest =>
    (takeBlock (depth + 1) rest).map fun (body, after) => ('/' :: '*' :: body, after)
  | c :: rest => (takeBlock depth rest).map fun (body, after) => (c :: body, after)
  | [] => none

def noBareReturn : List Char → Bool
  | [] => true
  | '\r' :: '\n' :: rest => noBareReturn rest
  | '\r' :: _ => false
  | _ :: rest => noBareReturn rest

def docTokens (inner : Bool) (comment : List Char) : Option (List Token) :=
  if noBareReturn comment then
    some <| [.punct '#' false] ++ (if inner then [.punct '!' false] else []) ++
      [.opening .bracket, .ident ⟨"doc", false⟩, .punct '=' false,
       .literal (Text.literalText (String.ofList comment)), .closing .bracket]
  else none

def comment (input : List Char) : Option (List Token × List Char) :=
  if startsWith "//!" input then
    let (line, rest) := takeLine (input.drop 3)
    (docTokens true line).map (·, rest)
  else if startsWith "///" input && !startsWith "////" input then
    let (line, rest) := takeLine (input.drop 3)
    (docTokens false line).map (·, rest)
  else if startsWith "//" input then
    some ([], (takeLine input).2)
  else if startsWith "/**/" input then
    some ([], input.drop 4)
  else do
    let (body, rest) ← takeBlock 0 (input.drop 2)
    if startsWith "/*!" input then
      return (← docTokens true (body.drop 1), rest)
    else if startsWith "/**" input && !startsWith "/***" input then
      return (← docTokens false (body.drop 1), rest)
    else
      return ([], rest)

def opensComment (input : List Char) : Bool := startsWith "//" input || startsWith "/*" input

def isPunct (c : Char) : Bool := "~!@#$%^&*-=+|;:,<.>/?'".toList.contains c

def opensPunct : List Char → Bool
  | [] => false
  | c :: rest => isPunct c && !opensComment (c :: rest)

def afterSuffix (input : List Char) : List Char :=
  match Ident.scan input with
  | some (_, rest) => rest
  | none => input

def afterQuote : List Char → Option (List Char)
  | '\'' :: rest => some (afterSuffix rest)
  | _ => none

def afterCharacter (kind : StringLiteral.Kind) (input : List Char) : Option (List Char) := do
  let rest ← match input with
    | '\\' :: rest => (StringLiteral.readEscape kind .escape rest).map Prod.snd
    | c :: rest => if kind.admits c then some rest else none
    | [] => none
  afterQuote rest

def afterQuoted (input : List Char) : Option (List Char) :=
  let cooked (kind : StringLiteral.Kind) (rest : List Char) :=
    (StringLiteral.readCooked kind .plain rest).map fun (_, after) => afterSuffix after
  let raw (kind : StringLiteral.Kind) (rest : List Char) :=
    (StringLiteral.readHashed kind rest).map fun (_, after) => afterSuffix after
  match input with
  | '"' :: rest => cooked .text rest
  | 'b' :: '"' :: rest => cooked .bytes rest
  | 'c' :: '"' :: rest => cooked .terminated rest
  | 'b' :: '\'' :: rest => afterCharacter .bytes rest
  | 'b' :: 'r' :: rest => raw .bytes rest
  | 'c' :: 'r' :: rest => raw .terminated rest
  | 'r' :: rest => raw .text rest
  | '\'' :: rest => afterCharacter .text rest
  | _ => none

def literal (input : List Char) : Option (Token × List Char) :=
  ((afterQuoted input).orElse fun _ => Number.scan input).map fun rest =>
    (.literal (String.ofList (input.take (input.length - rest.length))), rest)

def anyIdent (input : List Char) : Option (Ident × List Char) :=
  match input with
  | 'r' :: '#' :: name => do
    let (name, rest) ← Ident.scan name
    let name := String.ofList name
    if unrawable.contains name then none else some (⟨name, true⟩, rest)
  | _ => (Ident.scan input).map fun (name, rest) => (⟨String.ofList name, false⟩, rest)

/-- Beginnings that are those of a literal, so that no identifier is read there. -/
def literalOpeners : List String :=
  ["r\"", "r#\"", "r##", "b\"", "b'", "br\"", "br#", "c\"", "cr\"", "cr#"]

def ident (input : List Char) : Option (Token × List Char) :=
  if literalOpeners.any (startsWith · input) then none
  else (anyIdent input).map fun (ident, rest) => (.ident ident, rest)

def lifetime (input : List Char) : Option (Token × List Char) := do
  let (ident, rest) ← anyIdent input
  if startsWith "'" rest || (startsWith "#" rest && !startsWith "r#" input) then none
  else some (.lifetime ident, rest)

def punct (input : List Char) : Option (Token × List Char) :=
  match input with
  | '\'' :: rest => lifetime rest
  | c :: rest => if opensPunct input then some (.punct c (opensPunct rest), rest) else none
  | [] => none

def delimiter? : Char → Option Token
  | '(' => some (.opening .parenthesis)
  | ')' => some (.closing .parenthesis)
  | '[' => some (.opening .bracket)
  | ']' => some (.closing .bracket)
  | '\x7b' => some (.opening .brace)
  | '\x7d' => some (.closing .brace)
  | _ => none

def token (input : List Char) : Option (Token × List Char) :=
  ((literal input).orElse fun _ => punct input).orElse fun _ => ident input

/-- One step of the lexer: the tokens that the head of the text stands for, which are none for a
blank or a comment. -/
def step (input : List Char) : Option (List Token × List Char) :=
  match input with
  | [] => none
  | c :: rest =>
    if isGap c then some ([], rest)
    else if opensComment input then comment input
    else
      match delimiter? c with
      | some delimiter => some ([delimiter], rest)
      | none => (token input).map fun (token, rest) => ([token], rest)

def lexemes (position : Position) (input : List Char) : Option Lexemes :=
  if input.isEmpty then some []
  else
    match step input with
    | none => none
    | some (tokens, rest) =>
      if rest.length < input.length then
        let stop := position.advance (input.take (input.length - rest.length))
        (lexemes stop rest).map (tokens.map (fun token => ⟨token, ⟨position, stop⟩⟩) ++ ·)
      else none
termination_by input.length

/-- Whether every delimiter is closed by its counterpart; `pending` holds those still open. -/
def balanced (pending : List Delimiter) : List Token → Bool
  | [] => pending.isEmpty
  | .opening d :: rest => balanced (d :: pending) rest
  | .closing d :: rest =>
    match pending with
    | innermost :: outer => innermost == d && balanced outer rest
    | [] => false
  | _ :: rest => balanced pending rest

/-- The tokens of a source text, `none` if it is not a token stream. A byte order mark at its head
takes up a column and is otherwise skipped. -/
def lex (source : String) : Option Lexemes :=
  let found := match source.toList with
    | '\ufeff' :: rest => lexemes (Position.start.step '\ufeff') rest
    | input => lexemes .start input
  found.filter fun lexemes => balanced [] lexemes.tokens

end CaseSynthesis.Lexer
