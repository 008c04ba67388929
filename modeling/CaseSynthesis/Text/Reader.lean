/-! Reading from the head of a list, and reading again and again. -/

namespace CaseSynthesis.Text

abbrev ReaderOf (σ : Type) := StateT (List σ) Option

abbrev Reader := ReaderOf Char

namespace ReaderOf

/-- Applies `body` for as long as it asks to go on. Going on without taking anything fails. -/
def loop {σ α : Type} (body : α → ReaderOf σ (α × Bool)) (state : α) : ReaderOf σ α := fun input =>
  match body state input with
  | none => none
  | some ((next, false), rest) => some (next, rest)
  | some ((next, true), rest) =>
    if rest.length < input.length then loop body next rest else none
termination_by input => input.length

end ReaderOf

namespace Reader

def fail {α : Type} : Reader α := fun _ => none

def require (condition : Bool) : Reader Unit := if condition then pure () else fail

def peek : Reader (Option Char) := fun input => some (input.head?, input)

def atEnd : Reader Bool := fun input => some (input.isEmpty, input)

def next : Reader Char
  | [] => none
  | c :: rest => some (c, rest)

def accept (text : String) : Reader Bool := fun input =>
  if text.toList.isPrefixOf input then some (true, input.drop text.length)
  else some (false, input)

def expect (text : String) : Reader Unit := do require (← accept text)

def takeWhile (kind : Char → Bool) : Reader (List Char) := fun input =>
  some (input.takeWhile kind, input.dropWhile kind)

def skipWhile (kind : Char → Bool) : Reader Unit := fun input =>
  some ((), input.dropWhile kind)

def takeSome (kind : Char → Bool) : Reader (List Char) := do
  let run ← takeWhile kind
  require !run.isEmpty
  return run

def whole {α : Type} (reader : Reader α) (text : String) : Option α :=
  match reader text.toList with
  | some (value, []) => some value
  | _ => none

end Reader

end CaseSynthesis.Text
