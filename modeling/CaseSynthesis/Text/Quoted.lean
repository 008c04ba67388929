import CaseSynthesis.Text.Hex
import CaseSynthesis.Text.Printable

/-! Quoted text: how a text is written between double quotes. Two forms are in use. `quoted` is the
form of messages, `literalText` the form of string literals in generated code; they differ only in
how they write the zero character. -/

namespace CaseSynthesis.Text

def codePointEscape (c : Char) : List Char := '\\' :: 'u' :: '\x7b' :: hexText c.toNat ++ ['\x7d']

def escapeChar (c : Char) : List Char :=
  if c == '\x00' then ['\\', '0']
  else if c == '\t' then ['\\', 't']
  else if c == '\r' then ['\\', 'r']
  else if c == '\n' then ['\\', 'n']
  else if c == '\\' then ['\\', '\\']
  else if c == '"' then ['\\', '"']
  else if isCombining c || !isPrintable c then codePointEscape c
  else [c]

def quoted (text : String) : String :=
  String.ofList ('"' :: text.toList.flatMap escapeChar ++ ['"'])

def opensOctal : List Char → Bool
  | [] => false
  | c :: _ => '0' ≤ c && c ≤ '7'

/-- The body of a string literal. A zero before an octal digit is written in hexadecimal, so that
it cannot be taken for the start of an octal escape. -/
def escapeLiteral : List Char → List Char
  | [] => []
  | c :: rest =>
    (if c == '\x00' && opensOctal rest then ['\\', 'x', '0', '0'] else escapeChar c) ++
      escapeLiteral rest

def literalText (text : String) : String :=
  String.ofList ('"' :: escapeLiteral text.toList ++ ['"'])

end CaseSynthesis.Text
