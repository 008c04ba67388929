import CaseSynthesis.Token.Lexer

/-! Tokens that the lexer reads back from their own text. -/

namespace CaseSynthesis

open Lexer

def isWeak (c : Char) : Bool := isGap c || c == ',' || c == ')' || c == ']'

/-- What may come after the text of a token without running into it. -/
def Apart (rest : List Char) : Prop := ∀ c ∈ rest.head?, isWeak c = true

theorem apart_nil : Apart [] := by
  intro c first
  cases first

def Ident.Legible (ident : Ident) : Prop :=
  Ident.wellFormed ident.name = true ∧ (ident.raw = true → ident.name ∉ unrawable)

namespace Token

def Legible : Token → Prop
  | ident i => i.Legible
  | lifetime i => i.Legible
  | punct c _ => isPunct c = true ∧ c ≠ '\''
  | literal text => ∀ rest, Apart rest → step (text.toList ++ rest) = some ([.literal text],rest)
  | opening _ => True
  | closing _ => True

def opensComment : Token → Bool
  | punct c _ => c == '/' || c == '*'
  | _ => false

/-- Every joint slash is followed by a token, and by none that would make a comment of it. -/
def unslashed : List Token → Bool
  | [] => true
  | [token] => !(token == .punct '/' true)
  | token :: next :: rest =>
    !(token == .punct '/' true && next.opensComment) && unslashed (next :: rest)

def Enclosed (tokens : List Token) : Prop :=
  ∀ pending rest, balanced pending (tokens ++ rest) = balanced pending rest

theorem unslashed_append (first second : List Token) (left : unslashed first = true)
    (right : unslashed second = true) : unslashed (first ++ second) = true := by
  induction first with
  | nil => exact right
  | cons token first ih =>
    cases first with
    | nil =>
      have plain : (token == .punct '/' true) = false := by simpa [unslashed] using left
      cases second with
      | nil => exact left
      | cons next second => simp [unslashed,plain,right]
    | cons next first =>
      simp only [unslashed,Bool.and_eq_true] at left
      simp only [List.cons_append,unslashed,Bool.and_eq_true]
      exact ⟨left.1,ih left.2⟩

theorem unslashed_of_append (first second : List Token)
    (all : unslashed (first ++ second) = true) : unslashed second = true := by
  induction first with
  | nil => exact all
  | cons token first ih =>
    apply ih
    cases rest : first ++ second with
    | nil => rfl
    | cons next more =>
      rw [List.cons_append,rest,unslashed,Bool.and_eq_true] at all
      exact all.2

/-- A first part keeps its slashes apart as long as it does not end in one. -/
theorem unslashed_left (first second : List Token) (all : unslashed (first ++ second) = true)
    (plain : first.getLast? ≠ some (.punct '/' true)) : unslashed first = true := by
  induction first with
  | nil => rfl
  | cons token first ih =>
    cases first with
    | nil => simpa [unslashed] using plain
    | cons next first =>
      simp only [List.cons_append,unslashed,Bool.and_eq_true] at all
      simp only [unslashed,Bool.and_eq_true]
      exact ⟨all.1,ih all.2 (by simpa using plain)⟩

namespace Enclosed

theorem nil : Enclosed [] := fun _ _ => rfl

theorem append {first second : List Token} (left : Enclosed first) (right : Enclosed second) :
    Enclosed (first ++ second) := by
  intro pending rest
  rw [List.append_assoc,left,right]

theorem wrap {tokens : List Token} (inside : Enclosed tokens) (delimiter : Delimiter) :
    Enclosed (.opening delimiter :: (tokens ++ [.closing delimiter])) := by
  intro pending rest
  simp only [List.cons_append,List.append_assoc,balanced]
  rw [inside]
  simp [balanced]

end Enclosed

end Token

end CaseSynthesis
