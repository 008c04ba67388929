/-! Tokens of Rust source text, and where they stand in it.

A token stream is a flat list in which the delimiters are tokens of their own; streams that come
from the lexer are balanced. -/

namespace CaseSynthesis

inductive Delimiter
  | parenthesis
  | bracket
  | brace
  deriving DecidableEq, Repr

def Delimiter.openingChar : Delimiter → Char
  | parenthesis => '('
  | bracket => '['
  | brace => '\x7b'

def Delimiter.closingChar : Delimiter → Char
  | parenthesis => ')'
  | bracket => ']'
  | brace => '\x7d'

/-- An identifier; a raw one is spelled `r#name` and is never a keyword. -/
structure Ident where
  name : String
  raw : Bool
  deriving DecidableEq, Repr

def Ident.text (ident : Ident) : String :=
  if ident.raw then "r#" ++ ident.name else ident.name

inductive Token
  | ident (ident : Ident)
  | lifetime (ident : Ident)
  /-- One punctuation character; a joint one is written without a space before the next token. -/
  | punct (char : Char) (joint : Bool)
  | literal (text : String)
  | opening (delimiter : Delimiter)
  | closing (delimiter : Delimiter)
  deriving DecidableEq, Repr

namespace Token

def text : Token → String
  | ident i => i.text
  | lifetime i => "'" ++ i.text
  | punct c _ => c.toString
  | literal t => t
  | opening d => d.openingChar.toString
  | closing d => d.closingChar.toString

def spaced (before after : Token) : Bool :=
  let tightAfter := match before with
    | punct _ joint => joint
    | opening d => d != .brace
    | _ => false
  let tightBefore := match after with
    | closing d => d != .brace
    | _ => false
  !tightAfter && !tightBefore

def print : List Token → String
  | [] => ""
  | [token] => token.text
  | token :: next :: rest =>
    token.text ++ (if spaced token next then " " else "") ++ print (next :: rest)

end Token

/-- A place in a text: lines are counted from one, columns from zero in characters. -/
structure Position where
  line : Nat
  column : Nat
  deriving DecidableEq, Repr

namespace Position

def start : Position := ⟨1, 0⟩

def step (position : Position) (c : Char) : Position :=
  if c == '\n' then ⟨position.line + 1, 0⟩ else ⟨position.line, position.column + 1⟩

def advance (position : Position) (text : List Char) : Position := text.foldl step position

end Position

structure Span where
  first : Position
  last : Position
  deriving DecidableEq, Repr

def Span.empty : Span := ⟨.start, .start⟩

structure Lexeme where
  token : Token
  span : Span
  deriving DecidableEq, Repr

abbrev Lexemes := List Lexeme

namespace Lexemes

def tokens (lexemes : Lexemes) : List Token := lexemes.map Lexeme.token

def text (lexemes : Lexemes) : String := Token.print lexemes.tokens

def span (lexemes : Lexemes) : Span :=
  match lexemes.head?, lexemes.getLast? with
  | some first, some last => ⟨first.span.first, last.span.last⟩
  | _, _ => .empty

end Lexemes

end CaseSynthesis
