import CaseSynthesis.Text.IdentifierChar
import CaseSynthesis.Text.Quoted
import CaseSynthesis.Token.Basic

/-! Which texts are identifiers, which of those are keywords, and making an identifier of a text. -/

namespace CaseSynthesis

def Ident.scan : List Char → Option (List Char × List Char)
  | [] => none
  | c :: rest =>
    if Text.isIdentifierStart c then
      some (c :: rest.takeWhile Text.isIdentifierContinue, rest.dropWhile Text.isIdentifierContinue)
    else none

def Ident.wellFormed (name : String) : Bool :=
  match name.toList with
  | [] => false
  | c :: rest => Text.isIdentifierStart c && rest.all Text.isIdentifierContinue

def keywords : List String :=
  ["_", "abstract", "as", "async", "await", "become", "box", "break", "const", "continue",
   "crate", "do", "dyn", "else", "enum", "extern", "false", "final", "fn", "for", "if", "impl",
   "in", "let", "loop", "macro", "match", "mod", "move", "mut", "override", "priv", "pub", "ref",
   "return", "Self", "self", "static", "struct", "super", "trait", "true", "try", "type",
   "typeof", "unsafe", "unsized", "use", "virtual", "where", "while", "yield"]

def unrawable : List String := ["_", "super", "self", "Self", "crate"]

def Ident.isKeyword (ident : Ident) : Bool := !ident.raw && keywords.contains ident.name

inductive IdentFault
  | empty
  | number
  | malformed (name : String)
  | unrawable (name : String)
  deriving DecidableEq, Repr

def IdentFault.message : IdentFault → String
  | empty => "Ident is not allowed to be empty; use Option<Ident>"
  | number => "Ident cannot be a number; use Literal instead"
  | malformed name => s!"{Text.quoted name} is not a valid Ident"
  | unrawable name => s!"`r#{name}` cannot be a raw identifier"

namespace Ident

def ofName (name : String) : Except IdentFault Ident :=
  if name.isEmpty then .error .empty
  else if name.toList.all Char.isDigit then .error .number
  else if wellFormed name then .ok ⟨name, false⟩
  else .error (.malformed name)

def ofRawName (name : String) : Except IdentFault Ident := do
  let ident ← ofName name
  if unrawable.contains name then throw (.unrawable name)
  return { ident with raw := true }

def ofText (text : String) : Except IdentFault Ident :=
  match text.toList with
  | 'r' :: '#' :: name => ofRawName (String.ofList name)
  | _ => ofName text

end Ident

end CaseSynthesis
