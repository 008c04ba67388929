import CaseSynthesis.Grammar.Phrase
import CaseSynthesis.Node
import CaseSynthesis.Token.StringLiteral

/-! Items as declarations: what the rules get to see of a program. -/

namespace CaseSynthesis

namespace Lexeme

def name (lexeme : Lexeme) : String :=
  match lexeme.token with
  | .ident ident => ident.name
  | token => token.text

def text (lexeme : Lexeme) : String := lexeme.token.text

end Lexeme

namespace Grammar

def Expr.text (expr : Expr) : String := expr.tokens.text

def Expr.string? (expr : Expr) : Option String :=
  match expr.form with
  | .literal ⟨.literal text, _⟩ => StringLiteral.value? text
  | _ => none

def Expr.toLiteral (expr : Expr) : Literal :=
  match expr.string? with
  | some value => .str value
  | none => .number expr.text

def Variant.caseName (variant : Variant) : String := variant.name.name

def Variant.toElement (variant : Variant) : CaseElement where
  name := variant.caseName
  rawValue := variant.discriminant.map fun (_, value) => value.toLiteral
  hasPayload := !variant.fields.isEmpty

def EnumItem.toDecl (item : EnumItem) (rawType : Option TypeName) : Decl where
  kind := .enum
  name := item.name.name
  inherited := rawType.toList
  members := item.variants.map fun (variant, _) => .cases [variant.toElement]

def ItemKind.toDeclKind : ItemKind → DeclKind
  | struct => .struct
  | union => .union
  | trait => .trait
  | function => .function
  | constant => .other "const"
  | static => .other "static"
  | typeAlias => .other "type alias"
  | implementation => .other "impl block"

def Item.toDecl (item : Item) (rawType : Option TypeName) : Decl :=
  let plain (kind : DeclKind) (name : String) : Decl := ⟨kind, name, rawType.toList, []⟩
  match item with
  | .enum item => item.toDecl rawType
  | .declared kind _ name _ _ => plain kind.toDeclKind name.text
  | .module _ name _ _ _ => plain (.other "module") name.text
  | .foreign .. | .other .. => plain (.other "item") item.tokens.text

def Item.declName (item : Item) : String := (item.toDecl none).name

end Grammar

def Grammar.Expr.toText (expr : Grammar.Expr) : ExprText := ⟨expr.text⟩

end CaseSynthesis
