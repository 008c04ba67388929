import CaseSynthesis.Proofs.Marks
import CaseSynthesis.Proofs.Parallel.Views
import CaseSynthesis.Proofs.Parsing
import CaseSynthesis.Proofs.Printing
import CaseSynthesis.Proofs.Relowering
import CaseSynthesis.Proofs.WrittenSwitches

/-! Strings in the output. One is written as a single token, which is read as such from its printed
form, and which has the same value again where it stands as the raw value of a variant. -/

namespace CaseSynthesis

namespace Grammar

open CaseSynthesis.Grammar.Parser

private theorem Ended.binaryOperator? {rest : Lexemes} (ended : Ended rest) : binaryOperator? rest = none := by
  have others : binaryOperators.all (fun entry => entry.1.toList.head?.any (· != ',')) = true := rfl
  refine List.find?_eq_none.mpr fun entry listed => ?_
  have other := List.all_eq_true.mp others entry listed
  obtain ⟨c,first,differs⟩ := (Option.any_eq_true _ _).mp other
  obtain ⟨more,spelled⟩ := List.head?_eq_some_iff.mp first
  have missed : View.punct entry.1 rest = false := by
    unfold View.punct
    rw [spelled]
    exact ended.chars c more (by simpa using differs)
  simp [missed]

section

variable (rules : Rules) (structs : Bool)

private theorem run_trailers_ended (subject : Expr) {rest : Lexemes} (ended : Ended rest) :
    trailers rules subject rest = some (subject,rest) := by
  have dot : View.punct "." rest = false := ended.chars '.' [] (by decide)
  have mark : View.punct "?" rest = false := ended.chars '?' [] (by decide)
  refine run_loop_stop _ _ _ _ _ ?_
  simp [ended.opening,View.but,dot,mark]

private theorem run_operators_ended (least : Precedence) (left : Expr) {rest : Lexemes}
    (ended : Ended rest) : operators rules structs least left rest = some (left,rest) := by
  have current : (get : Parser Lexemes) rest = some (rest,rest) := rfl
  have equals : View.punct "=" rest = false := ended.chars '=' [] (by decide)
  have range : View.punct ".." rest = false := ended.chars '.' ['.'] (by decide)
  refine run_loop_stop _ _ _ _ _ ?_
  simp [current,ended.binaryOperator?,operator,opensAssignment,View.but,equals,range,ended.keyword]

/-- An atom before the end of a group or a comma is an expression of its own. -/
theorem run_expr_atom {lexeme : Lexeme} {more rest : Lexemes} {subject : Expr} (ended : Ended rest)
    (unsigned : ∀ sign joint, lexeme.token ≠ .punct sign joint)
    (found : atom rules structs (lexeme :: more) = some (subject,rest))
    (settled : subject.form ≠ .verbatim ∧ subject.form ≠ .range) :
    expr rules structs (lexeme :: more) = some (subject,rest) := by
  have unseen (sign : Char) (signs : List Char) : View.chars (sign :: signs) (lexeme :: more) = false := by
    obtain ⟨token,span⟩ := lexeme
    cases token with
    | punct sign joint => exact absurd rfl (unsigned sign joint)
    | _ => cases signs <;> rfl
  have hash : View.punct "#" (lexeme :: more) = false := unseen '#' []
  have reference : View.punct "&" (lexeme :: more) = false := unseen '&' []
  have star : View.punct "*" (lexeme :: more) = false := unseen '*' []
  have bang : View.punct "!" (lexeme :: more) = false := unseen '!' []
  have minus : View.punct "-" (lexeme :: more) = false := unseen '-' []
  have none : outerAttributes rules (lexeme :: more) = some ([],lexeme :: more) := by
    refine run_loop_stop _ _ _ _ _ ?_
    simp [hash]
  have bare : attributeTokens rules (lexeme :: more) = some ([],lexeme :: more) := by
    rw [attributeTokens,run_bind,none]
    rfl
  have current (input : Lexemes) : (get : Parser Lexemes) input = some (input,input) := rfl
  have read : operand rules structs (lexeme :: more) = some (subject,rest) := by
    simp only [operand,run_bind,current,bare,Option.bind_some,run_peek,run_peekAny,run_ite,reference,
      List.any_cons,List.any_nil,star,bang,minus,Bool.or_false,Bool.false_eq_true,if_false,found,
      run_trailers_ended rules _ ended]
    obtain ⟨form,tokens⟩ := subject
    cases form with
    | verbatim => exact absurd rfl settled.1
    | range => exact absurd rfl settled.2
    | _ => rfl
  rw [expr,run_bind,read,Option.bind_some]
  exact run_operators_ended rules structs _ _ ended

theorem run_expr_literal (text : String) (span : Span) {rest : Lexemes} (ended : Ended rest) :
    expr rules structs (⟨.literal text,span⟩ :: rest) =
      some (⟨.literal ⟨.literal text,span⟩,[⟨.literal text,span⟩]⟩,rest) :=
  run_expr_atom rules structs ended nofun rfl ⟨nofun,nofun⟩

end

/-- A name, an equals sign and a literal are a variant with the literal as its discriminant. -/
private theorem run_variant_literal (depth : Nat) (name : Ident) (plain : name.isKeyword = false)
    (text : String) (first second third : Span) {rest : Lexemes} (ended : Ended rest) :
    variant (nested (depth + 1)) (⟨.ident name,first⟩ :: ⟨.punct '=' false,second⟩ ::
        ⟨.literal text,third⟩ :: rest) =
      some (⟨[],⟨.ident name,first⟩,[],some ([⟨.punct '=' false,second⟩],
        ⟨.literal ⟨.literal text,third⟩,[⟨.literal text,third⟩]⟩)⟩,rest) := by
  have none (input : Lexemes) : outerAttributes (nested (depth + 1)) (⟨.ident name,first⟩ :: input) =
      some ([],⟨.ident name,first⟩ :: input) := run_loop_stop _ _ _ _ _ rfl
  have hidden (input : Lexemes) : visibility (⟨.ident name,first⟩ :: input) =
      some ([],⟨.ident name,first⟩ :: input) := by
    rw [visibility,run_optionally,view_reserved "pub" (by decide) name plain,if_neg (by simp)]
  have named (input : Lexemes) : take View.ident (⟨.ident name,first⟩ :: input) =
      some (⟨.ident name,first⟩,input) := by
    rw [run_take,View.ident,plain]
    rfl
  have value : (nested (depth + 1)).expr true (⟨.literal text,third⟩ :: rest) =
      some (⟨.literal ⟨.literal text,third⟩,[⟨.literal text,third⟩]⟩,rest) :=
    run_expr_literal (nested depth) true text third ended
  have equals : punct "=" (⟨.punct '=' false,second⟩ :: ⟨.literal text,third⟩ :: rest) =
      some ([⟨.punct '=' false,second⟩],⟨.literal text,third⟩ :: rest) := rfl
  have bare (delimiter : Delimiter) (input : Lexemes) :
      View.opening delimiter (⟨.punct '=' false,second⟩ :: input) = false := rfl
  have given (input : Lexemes) : View.punct "=" (⟨.punct '=' false,second⟩ :: input) = true := rfl
  simp only [variant,run_bind,none,hidden,named,Option.bind_some,run_peek,run_ite,bare,given,
    Bool.false_eq_true,if_false,if_true,run_pure,equals,value]

end Grammar

section

open Rendering

def WritesValue (variant : Grammar.Variant) (tokens : List Token) : Prop :=
  ∃ path text, casePath variant.caseName = .ok path ∧
    tokens = path ++ sign "=>" ++ [.literal text] ++ sign "," ∧
    StringLiteral.value? text = some variant.toElement.rawText

def rawValueMethod (arms : List Token) : List Token :=
  word "pub" ++ word "fn" ++ word "raw_value" ++ parens (sign "&" ++ word "self") ++ sign "->" ++
    sign "&" ++ lifetime "static" ++ word "str" ++
    braces (word "match" ++ word "self" ++
      braces (arms ++ word "_" ++ sign "=>" ++ stringLiteral fallbackText ++ sign ","))

private theorem writesValue_of_arm (variant : Grammar.Variant) (tokens : List Token)
    (written : arm ⟨.case variant.toElement.name,.returnStr variant.toElement.rawText⟩ =
      .ok tokens) : WritesValue variant tokens := by
  obtain ⟨path,named,opened⟩ := (bind_eq_ok_iff _ _ _).mp written
  obtain ⟨value,valued,same⟩ := (bind_eq_ok_iff _ _ _).mp opened
  obtain rfl := Except.ok.inj valued
  exact ⟨path,_,named,(Except.ok.inj same).symm,StringLiteral.value?_literalText _⟩

/-- The accessor of raw values has one arm for each variant, in order. -/
private theorem accessor_writes_values (settings : Settings) (item : Grammar.EnumItem)
    (rawType : Option TypeName) (built : Codable.Members) (tokens : List Token)
    (added : Codable.members settings (.decl (item.toDecl rawType)) = .ok built)
    (written : accessor ⟨Codable.accessorName,built.toRaw⟩ = .ok tokens) :
    ∃ arms, List.Forall₂ WritesValue item.ownVariants arms ∧
      tokens = rawValueMethod arms.flatten := by
  obtain ⟨_,rfl⟩ := (Codable.members_eq_ok_iff _ _ _).mp added
  simp only [accessor,switch,bind_eq_ok_iff,pure,Except.pure,Except.ok.injEq] at written
  obtain ⟨_,named,_,⟨_,subject,arms,mapped,_,default,rfl⟩,rfl⟩ := written
  obtain rfl := Except.ok.inj named
  obtain rfl := Except.ok.inj subject
  obtain rfl := Except.ok.inj default
  refine ⟨arms,?_,rfl⟩
  have elements : (Node.decl (item.toDecl rawType)).elements =
      item.ownVariants.map Grammar.Variant.toElement := Grammar.elements_toDecl item rawType
  have each := (mapM_eq_ok_iff _ _ _).mp mapped
  rw [elements,Codable.Members.ofElements,List.map_map,List.forall₂_map_left_iff] at each
  exact each.imp writesValue_of_arm

end

/-- A string is written as one token, in expressions, patterns and branches alike. The printed form
is read as that token, and where it is the discriminant of a variant, the raw value of the variant is
the string. So a raw value comes out of the accessor that is written for the enum as it was given. -/
theorem written_strings_denote :
    (∀ value : String, ∃ text span,
      (∀ embedded, Rendering.expression embedded (.stringLiteral value) = [.literal text]) ∧
      Rendering.pattern (.str value) = .ok [.literal text] ∧
      Rendering.branch (.returnStr value) = .ok [.literal text] ∧
      Lexer.lex (Token.print [.literal text]) = some [⟨.literal text,span⟩] ∧
      text.toList.head? = some '"' ∧ StringLiteral.value? text = some value ∧
      ∀ depth (name : Ident) first second third rest, name.isKeyword = false →
        Grammar.Ended rest →
        ∃ variant, Grammar.variant (Grammar.nested (depth + 1)) (⟨.ident name,first⟩ ::
            ⟨.punct '=' false,second⟩ :: ⟨.literal text,third⟩ :: rest) = some (variant,rest) ∧
          variant.toElement = ⟨name.name,some (.str value),false⟩) ∧
    ∀ settings (item : Grammar.EnumItem) rawType built tokens,
      Codable.members settings (.decl (item.toDecl rawType)) = .ok built →
      Rendering.accessor ⟨Codable.accessorName,built.toRaw⟩ = .ok tokens →
      ∃ arms, List.Forall₂ WritesValue item.ownVariants arms ∧
        tokens = rawValueMethod arms.flatten := by
  refine ⟨fun value => ?_,accessor_writes_values⟩
  have denoted := StringLiteral.value?_literalText value
  have legible : ∀ token ∈ [Token.literal (Text.literalText value)], token.Legible := by
    simpa using Lexer.legible_literalText value
  obtain ⟨found,lexed,same⟩ := Lexer.lex_print legible rfl rfl
  obtain ⟨⟨_,span⟩,rfl,rfl⟩ := List.map_eq_singleton_iff.mp same
  refine ⟨Text.literalText value,span,fun _ => rfl,rfl,rfl,lexed,?_,denoted,?_⟩
  · simp [Text.literalText]
  · intro depth name first second third rest plain ended
    refine ⟨_,Grammar.run_variant_literal depth name plain _ first second third ended,?_⟩
    simp only [Grammar.Variant.toElement,Grammar.Variant.caseName,Lexeme.name,Option.map_some,
      Grammar.Expr.toLiteral,Grammar.Expr.string?,denoted,List.isEmpty_nil,Bool.not_true]

def notes : Grammar.EnumItem :=
  let value : Lexeme := ⟨.literal "\"\\x007\\\"e\\u\x7b301\x7d\"",.empty⟩
  { Grammar.EnumItem.ofIdents ⟨"Note",false⟩ [] with
    variants := Grammar.commaBetween .empty
      [⟨[],⟨.ident ⟨"High",false⟩,.empty⟩,[],some ([⟨.punct '=' false,.empty⟩],⟨.literal value,[value]⟩)⟩,
        ⟨[],⟨.ident ⟨"type",true⟩,.empty⟩,[],none⟩] }

theorem written_strings_denote_notes :
    (∃ text span, Lexer.lex (Token.print [.literal text]) = some [⟨.literal text,span⟩] ∧
      StringLiteral.value? text = some "\x007\"e\u0301" ∧
      ∃ variant, Grammar.variant (Grammar.nested 1) [⟨.ident ⟨"High",false⟩,.empty⟩,
          ⟨.punct '=' false,.empty⟩,⟨.literal text,.empty⟩] = some (variant,[]) ∧
        variant.toElement = ⟨"High",some (.str "\x007\"e\u0301"),false⟩) ∧
    ∃ built tokens arms,
      Codable.members {} (.decl (notes.toDecl (some ⟨"String"⟩))) = .ok built ∧
      Rendering.accessor ⟨Codable.accessorName,built.toRaw⟩ = .ok tokens ∧
      List.Forall₂ WritesValue notes.ownVariants arms ∧ tokens = rawValueMethod arms.flatten := by
  obtain ⟨strings,accessors⟩ := written_strings_denote
  constructor
  · obtain ⟨text,span,_,_,_,lexed,_,denoted,discriminant⟩ := strings "\x007\"e\u0301"
    exact ⟨text,span,lexed,denoted,
      discriminant 0 ⟨"High",false⟩ .empty .empty .empty [] (by decide) .nil⟩
  · have elements : (Node.decl (notes.toDecl (some ⟨"String"⟩))).elements =
        [⟨"High",some (.str "\x007\"e\u0301"),false⟩,⟨"type",none,false⟩] := rfl
    have accepted : Codable.Accepts {} (.decl (notes.toDecl (some ⟨"String"⟩))) := by
      refine ⟨⟨⟨⟨_,rfl,rfl⟩,?_,?_⟩,?_⟩,⟨⟨"String"⟩,rfl,by decide⟩,?_,?_⟩ <;> rw [elements]
      case refine_4 => simp
      all_goals decide
    have added := (Codable.members_eq_ok_iff {} _ _).mpr ⟨accepted,rfl⟩
    have written : (Rendering.accessor ⟨Codable.accessorName,(Codable.Members.ofElements "Unknown"
        (Node.decl (notes.toDecl (some ⟨"String"⟩))).elements).toRaw⟩).isOk = true := by
      have legal : ∀ name ∈ ["High","type"], Ident.isLegal ⟨name,true⟩ = true := by decide
      have writable : ["High","type"].all Rendering.isWritable = true := by
        refine List.all_eq_true.mpr fun name listed => ?_
        rw [Rendering.isWritable,caseIdent_named name ⟨_,legal name listed,rfl⟩]
        rfl
      rw [Rendering.accessor,isOk_bind _ _ _ (fun _ => isOk_bind _ _ true (fun _ => rfl)),
        Rendering.switch_isOk,elements,Bool.and_true]
      exact writable
    obtain ⟨tokens,written⟩ := (isOk_iff _).mp written
    obtain ⟨arms,each,same⟩ := accessors {} notes _ _ tokens added written
    exact ⟨_,tokens,arms,added,written,each,same⟩

end CaseSynthesis
