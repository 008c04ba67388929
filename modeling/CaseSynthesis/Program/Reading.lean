import CaseSynthesis.Grammar.Entry
import CaseSynthesis.Node

/-! Reading phrases and whole files from source text. -/

namespace CaseSynthesis

inductive ReadError
  | notTokens
  | notPhrase
  deriving DecidableEq, Repr

def readTokens (text : String) : Except ReadError Lexemes :=
  match Lexer.lex text with
  | some lexemes => .ok lexemes
  | none => .error .notTokens

def readPhrase {α : Type} (parse : Lexemes → Option α) (text : String) : Except ReadError α := do
  match parse (← readTokens text) with
  | some phrase => return phrase
  | none => throw .notPhrase

def readExpr : String → Except ReadError Grammar.Expr := readPhrase Grammar.parseExpr

def readItem : String → Except ReadError Grammar.Item := readPhrase Grammar.parseItem

def readType : String → Except ReadError Grammar.TypeExpr := readPhrase Grammar.parseType

def readPath : String → Except ReadError Grammar.Path := readPhrase Grammar.parsePath

def skipBlanks (input : List Char) : List Char :=
  match Lexer.step input with
  | some ([], rest) => if rest.length < input.length then skipBlanks rest else input
  | _ => input
termination_by input.length

/-- A file without the line at its head that names its interpreter. An attribute looks similar, but
has a bracket. -/
def withoutInterpreter (text : List Char) : List Char :=
  match text with
  | '#' :: '!' :: rest =>
    if (skipBlanks rest).head? == some '[' then text else text.dropWhile (· != '\n')
  | _ => text

def withoutByteOrderMark : List Char → List Char
  | '\ufeff' :: rest => rest
  | text => text

def readProgram (text : String) : Except ReadError Grammar.File :=
  readPhrase Grammar.parseFile
    (String.ofList (withoutInterpreter (withoutByteOrderMark text.toList)))

end CaseSynthesis
