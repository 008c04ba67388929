import CaseSynthesis.Program.Marked
import CaseSynthesis.Program.Rendering
import CaseSynthesis.Rule.Request

/-! Expanding a program: from its tokens to the tokens that take their place. -/

namespace CaseSynthesis

structure Diagnostic where
  message : String
  span : Span
  deriving DecidableEq, Repr

inductive ExpandError
  | unreadable (error : ReadError)
  | arguments
  | reported (diagnostic : Diagnostic)
  | ident (fault : IdentFault)
  deriving DecidableEq, Repr

def ExpandError.at {α : Type} (span : Span) (message : String) : Except ExpandError α :=
  .error (.reported ⟨message, span⟩)

def Diagnostic.compileError (diagnostic : Diagnostic) : List Token :=
  Rendering.globalPath ["core", "compile_error"] ++ Rendering.sign "!" ++
    Rendering.braces (Rendering.stringLiteral diagnostic.message)

namespace Stringified

def single (lexemes : Lexemes) : Except ExpandError Grammar.Expr :=
  match Grammar.parseExprs lexemes with
  | none => .error (.unreadable .notPhrase)
  | some [expr] => .ok expr
  | some exprs =>
    ExpandError.at lexemes.span (Rule.stringify.label ++ "! takes exactly one expression, got " ++
      toString exprs.length)

def rendered (expr : Grammar.Expr) (text : String) : List Token :=
  Rendering.expression expr.tokens.tokens (Stringify.pair ⟨text⟩)

def ofTokens (source : String) : Except ExpandError (List Token) := do
  let lexemes ← (readTokens source).mapError .unreadable
  let expr ← single lexemes
  return rendered expr expr.text

/-- A source text without the blanks around it and a comma at its end. -/
def trimmed (source : List Char) : List Char :=
  let text := Text.trim source
  if text.getLast? == some ',' then Text.trimEnd text.dropLast else Text.trimEnd text

def ofSource (source : String) : Except ExpandError (List Token) := do
  let lexemes ← (readTokens source).mapError .unreadable
  let expr ← single lexemes
  return rendered expr (String.ofList (trimmed source.toList))

end Stringified

def rawTypeOfArguments (arguments : Lexemes) : Option (Option Grammar.TypeExpr) :=
  if arguments.isEmpty then some none else (Grammar.parseType arguments).map some

def Grammar.TypeExpr.toName (type : Grammar.TypeExpr) : TypeName := ⟨type.tokens.text⟩

namespace Grammar

def Item.nameTokens? : Item → Option Lexemes
  | .enum item => some [item.name]
  | .declared .implementation .. => none
  | .declared _ _ name _ _ => some name
  | _ => none

/-- The variant that a message about a case is shown at: the last of that name. -/
def EnumItem.variant? (item : EnumItem) (case : String) : Option Variant :=
  ((item.variants.map Prod.fst).filter fun variant => variant.caseName == case).getLast?

/-- The tokens that an error is shown at: the variant it is about, or else the name of the item, or
else the whole item. -/
def Item.culprit (item : Item) (error : SynthesisError) : Lexemes :=
  let variant := match item, error.case? with
    | .enum item, some case => item.variant? case
    | _, _ => none
  match variant with
  | some variant => variant.tokens
  | none => item.nameTokens?.getD item.tokens

end Grammar

structure Expanded where
  rendered : Rendering.Rendered
  declarations : List Declaration

def Expanded.tokens (expanded : Expanded) : List Token := expanded.rendered.tokens

def Rule.itemSites : Rule → List Site
  | codableEnum => [.memberSynthesis, .extensionSynthesis]
  | _ => [.memberSynthesis]

def Rule.rawType (rule : Rule) (arguments : Lexemes) (item : Grammar.Item) :
    Except ExpandError (Option TypeName) :=
  match rule with
  | .nullableEnum =>
    if arguments.isEmpty then .ok none
    else ExpandError.at arguments.span ("#[" ++ rule.label ++ "] takes no arguments")
  | .codableEnum =>
    match rawTypeOfArguments arguments with
    | some type => .ok (type.map Grammar.TypeExpr.toName)
    | none => .error .arguments
  | .stringify =>
    ExpandError.at item.tokens.span (rule.label ++ "! is used as a function-like macro")

def checkGenerics (rule : Rule) : Grammar.Item → Except ExpandError Unit
  | .enum item =>
    if item.generics.isEmpty then .ok ()
    else ExpandError.at item.generics.span
      ("#[" ++ rule.label ++ "] does not support generic enums")
  | _ => .ok ()

def locate {α : Type} (item : Grammar.Item) (result : Except SynthesisError α) :
    Except ExpandError α :=
  result.mapError fun error =>
    .reported ⟨error.message, (item.culprit error).span⟩

def locateRendering {α : Type} (item : Grammar.EnumItem) (result : Except RenderError α) :
    Except ExpandError α :=
  result.mapError fun error =>
    match error with
    | .ident fault => .ident fault
    | error => .reported ⟨error.message, item.name.span⟩

/-- Applies a rule to an item from which the attribute that called for it is gone. -/
def expandItem (settings : Settings) (rule : Rule) (arguments : Lexemes) (item : Grammar.Item) :
    Except ExpandError Expanded := do
  let rawType ← rule.rawType arguments item
  checkGenerics rule item
  let decl := item.toDecl rawType
  let declarations ← locate item <| rule.itemSites.mapM fun site =>
    synthesize settings rule site (.decl decl)
  let declarations := declarations.flatten
  match item with
  | .enum item =>
    let rendered ← locateRendering item (Rendering.enum settings item declarations)
    return { rendered, declarations }
  | item =>
    ExpandError.at item.tokens.span ("#[" ++ rule.label ++ "] can only be applied to an enum")

structure Report where
  item : String
  rule : Rule
  expanded : Expanded

/-- Why a program is not expanded; a failure at a marked item goes with the item's name. -/
inductive ProgramError
  | unreadable
  | item (name : String) (error : ExpandError)
  deriving DecidableEq, Repr

def Marked.report (settings : Settings) (marked : Marked) :
    Except ProgramError Report := do
  let name := marked.item.declName
  let expanded ← (expandItem settings marked.rule marked.arguments marked.item).mapError
    (.item name)
  return ⟨name, marked.rule, expanded⟩

/-- Expands every marked item of a program, up to the first that fails. -/
def expandSource (settings : Settings) (source : String) : Except ProgramError (List Report) := do
  let file ← (readProgram source).mapError fun _ => .unreadable
  file.markedItems.mapM fun marked => marked.report settings

end CaseSynthesis
