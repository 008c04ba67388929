import CaseSynthesis.Grammar.Statement
import CaseSynthesis.Token.Lexer

/-! The grammar as a whole: the productions supplied to one another, and the phrases that can be
read from a token stream. -/

namespace CaseSynthesis.Grammar
open CaseSynthesis.Grammar.Parser

def nested : Nat → Rules
  | 0 => .none
  | depth + 1 =>
    let rules := nested depth
    { expr := expr rules
      operand := operand rules
      operators := operators rules
      boundedExpr := boundedExpr rules
      type := typeExpr rules
      bound := bound rules
      pattern := pattern rules
      statements := statements rules
      item := item rules
      fields := fields rules
      useTree := useTree rules }

/-- Reads a phrase that the whole token stream makes up. Every production takes a token before it
asks for another one, so that nesting as deep as the stream is long is enough. -/
def whole {α : Type} (phrase : Rules → Parser α) (lexemes : Lexemes) : Option α :=
  match phrase (nested (lexemes.length + 1)) lexemes with
  | some (value, []) => some value
  | _ => none

def parseExpr : Lexemes → Option Expr := whole fun rules => expr rules true

def parseExprs (lexemes : Lexemes) : Option (List Expr) :=
  (whole commaExprs lexemes).map fun exprs => exprs.map Prod.fst

def parseType : Lexemes → Option TypeExpr := whole fun rules => typeExpr rules true

def parsePath : Lexemes → Option Path := whole fun rules => path rules false

def parseItem : Lexemes → Option Item := whole item

def parseIdent : Lexemes → Option Lexeme := whole fun _ => take .ident

structure File where
  attributes : List Attribute
  items : List Item

def parseFile : Lexemes → Option File :=
  whole fun rules => return ⟨← innerAttributes rules, ← items rules⟩

end CaseSynthesis.Grammar
