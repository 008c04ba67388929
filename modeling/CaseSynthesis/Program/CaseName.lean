import CaseSynthesis.Grammar.Entry
import CaseSynthesis.Text.Numeric

/-! How the name of a case is spelled as an identifier. -/

namespace CaseSynthesis

inductive RenderError
  | invalidType (text : String)
  | invalidPath (text : String)
  | caseName (name : String)
  | ident (fault : IdentFault)
  deriving DecidableEq, Repr

def RenderError.message : RenderError → String
  | invalidType text => "invalid type `" ++ text ++ "`"
  | invalidPath text => "invalid path `" ++ text ++ "`"
  | caseName name => "`" ++ name ++ "` cannot be used as a case name"
  | ident fault => fault.message

def plainIdent? (text : String) : Option Ident := do
  match (← Grammar.parseIdent (← Lexer.lex text)).token with
  | .ident ident => some ident
  | _ => none

def isWord : List Char → Bool
  | [] => false
  | c :: rest =>
    (Text.isAlphabetic c || c == '_') && rest.all fun c => Text.isAlphanumeric c || c == '_'

/-- The identifier of a case. A keyword becomes a raw identifier where it can. -/
def caseIdent (name : String) : Except RenderError Ident :=
  match plainIdent? name with
  | some ident => .ok ident
  | none =>
    if isWord name.toList && !unrawable.contains name then
      (Ident.ofRawName name).mapError .ident
    else .error (.caseName name)

end CaseSynthesis
