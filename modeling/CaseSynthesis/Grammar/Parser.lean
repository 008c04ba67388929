import CaseSynthesis.Text.Reader
import CaseSynthesis.Token.Number

/-! The small language in which the grammar is written: looking ahead in a token stream, and parsers
that take a phrase off its head.

A phrase is given back as its canonical tokens: those it was read from, with the spacing of
operators made uniform. A group ends where its closing delimiter stands, so a closing delimiter at
the head counts as the end of the input. -/

namespace CaseSynthesis.Grammar

abbrev Parser := Text.ReaderOf Lexeme

abbrev View := Lexemes → Bool

namespace View

def atEnd : View
  | [] => true
  | lexeme :: _ => lexeme.token matches .closing _

def keyword (name : String) : View
  | [] => false
  | lexeme :: _ => lexeme.token == .ident ⟨name, false⟩

def ident : View
  | ⟨.ident i, _⟩ :: _ => !i.isKeyword
  | _ => false

def word : View
  | ⟨.ident _, _⟩ :: _ => true
  | _ => false

def lifetime : View
  | ⟨.lifetime _, _⟩ :: _ => true
  | _ => false

def opening (delimiter : Delimiter) : View
  | [] => false
  | lexeme :: _ => lexeme.token == .opening delimiter

/-- Punctuation that starts with the given characters, joined to one another. -/
def chars : List Char → View
  | [], _ => true
  | [c], ⟨.punct d _, _⟩ :: _ => c == d
  | c :: rest, ⟨.punct d true, _⟩ :: lexemes => c == d && chars rest lexemes
  | _, _ => false

def punct (text : String) : View := chars text.toList

def isNumber (text : String) : Bool := text.toList.head?.any Char.isDigit

def literal : View
  | ⟨.literal _, _⟩ :: _ => true
  | ⟨.ident i, _⟩ :: _ => i == ⟨"true", false⟩ || i == ⟨"false", false⟩
  | ⟨.punct '-' _, _⟩ :: ⟨.literal text, _⟩ :: _ => isNumber text
  | _ => false

def stringLiteral : View
  | ⟨.literal text, _⟩ :: _ => text.toList.head? == some '"' || text.toList.head? == some 'r'
  | _ => false

/-- What follows the group in whose inside the stream stands, `depth` groups deep. -/
def afterGroup (depth : Nat) : Lexemes → Lexemes
  | [] => []
  | lexeme :: rest =>
    match lexeme.token, depth with
    | .opening _, _ => afterGroup (depth + 1) rest
    | .closing _, 0 => rest
    | .closing _, outer + 1 => afterGroup outer rest
    | _, _ => afterGroup depth rest

def afterTree : Lexemes → Lexemes
  | [] => []
  | lexeme :: rest =>
    match lexeme.token with
    | .opening _ => afterGroup 0 rest
    | .closing _ => lexeme :: rest
    | _ => rest

def second (view : View) : View := view ∘ afterTree

def third (view : View) : View := view ∘ afterTree ∘ afterTree

def any (views : List View) : View := fun input => views.any (· input)

def all (views : List View) : View := fun input => views.all (· input)

def but (view excluded : View) : View := fun input => view input && !excluded input

end View

namespace Parser

def peek (view : View) : Parser Bool := fun input => some (view input, input)

def peekAny (views : List View) : Parser Bool := peek (View.any views)

def fail {α : Type} : Parser α := fun _ => none

def require (condition : Bool) : Parser Unit := if condition then pure () else fail

def next : Parser Lexeme
  | [] => none
  | lexeme :: rest =>
    match lexeme.token with
    | .closing _ => none
    | _ => some (lexeme, rest)

def take (view : View) : Parser Lexeme := do
  require (← peek view)
  next

def nextIf (view : View) : Parser Lexemes := return [← take view]

def keyword (name : String) : Parser Lexemes := nextIf (View.keyword name)

def ident : Parser Lexemes := nextIf View.ident

def word : Parser Lexemes := nextIf View.word

def lifetime : Parser Lexemes := nextIf View.lifetime

/-- Takes the given punctuation, joining its characters to one another and to nothing else. -/
def punctChars : List Char → Parser Lexemes
  | [] => pure []
  | c :: rest => do
    let lexeme ← next
    let lexemes ← punctChars rest
    return { lexeme with token := .punct c !rest.isEmpty } :: lexemes

def punct (text : String) : Parser Lexemes := do
  require (← peek (View.punct text))
  punctChars text.toList

def literal : Parser Lexemes := do
  require (← peek View.literal)
  if ← peek (View.punct "-") then
    return (← punct "-") ++ [← next]
  return [← next]

def optionally (view : View) (parser : Parser Lexemes) : Parser Lexemes := do
  if ← peek view then parser else return []

def optionalKeyword (name : String) : Parser Lexemes :=
  optionally (View.keyword name) (keyword name)

def optionalPunct (text : String) : Parser Lexemes := optionally (View.punct text) (punct text)

def enclosed {α : Type} (delimiter : Delimiter) (inside : Parser α) :
    Parser (Lexemes × α × Lexemes) := do
  let opening ← nextIf (View.opening delimiter)
  let value ← inside
  match ← get with
  | lexeme :: rest =>
    if lexeme.token == .closing delimiter then
      set rest
      return (opening, value, [lexeme])
    else fail
  | [] => fail

def group (delimiter : Delimiter) (inside : Parser Lexemes) : Parser Lexemes := do
  let (opening, inside, closing) ← enclosed delimiter inside
  return opening ++ inside ++ closing

def verbatim {α : Type} (parser : Parser α) : Parser Lexemes := do
  let before ← get
  let _ ← parser
  let after ← get
  return before.take (before.length - after.length)

def anyGroup : Parser Lexemes := fun input =>
  match input with
  | [] => none
  | lexeme :: _ =>
    match lexeme.token with
    | .opening _ =>
      let rest := View.afterTree input
      some (input.take (input.length - rest.length), rest)
    | _ => none

def rawGroup (delimiter : Delimiter) : Parser Lexemes := do
  require (← peek (View.opening delimiter))
  anyGroup

/-- Applies `body` for as long as it asks to go on. Going on without taking a token fails. -/
def loop {α : Type} (body : α → Parser (α × Bool)) (state : α) : Parser α :=
  Text.ReaderOf.loop body state

def many {α : Type} (view : View) (phrase : Parser α) : Parser (List α) :=
  loop (fun phrases => do
    if ← peek view then return (phrases ++ [← phrase], true) else return (phrases, false)) []

abbrev Separated (α : Type) := List (α × Lexemes)

def Separated.tokens {α : Type} (phraseTokens : α → Lexemes) (phrases : Separated α) : Lexemes :=
  phrases.flatMap fun (phrase, separator) => phraseTokens phrase ++ separator

/-- Phrases with separators between them, up to where the view holds. One may follow the last. -/
def separated {α : Type} (stop : View) (separator : String) (phrase : Parser α) :
    Parser (Separated α) :=
  loop (fun phrases => do
    if ← peek stop then return (phrases, false)
    let value ← phrase
    if ← peek stop then return (phrases ++ [(value, [])], false)
    let mark ← punct separator
    return (phrases ++ [(value, mark)], true)) []

/-- Phrases joined by a separator, which decides whether another follows, up to where the view
holds. -/
def joined {α : Type} (stop : View) (separator : String) (phrase : Parser α) :
    Parser (Separated α) :=
  loop (fun phrases => do
    if ← peek stop then return (phrases, false)
    let value ← phrase
    if ← peek (View.punct separator) then
      return (phrases ++ [(value, ← punct separator)], true)
    return (phrases ++ [(value, [])], false)) []

def commaSeparated {α : Type} (phrase : Parser α) : Parser (Separated α) :=
  separated View.atEnd "," phrase

def flat (phrases : Separated Lexemes) : Lexemes := Separated.tokens id phrases

end Parser

end CaseSynthesis.Grammar
