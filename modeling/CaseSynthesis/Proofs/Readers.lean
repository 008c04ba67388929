import CaseSynthesis.Text.Reader
import Mathlib.Data.List.TakeWhile

/-! Running readers: how they are put together, when a loop goes on, and what readers of text take. -/

namespace CaseSynthesis.Text

namespace ReaderOf

variable {σ α β : Type}

theorem run_pure (value : α) (input : List σ) :
    (pure value : ReaderOf σ α) input = some (value,input) := rfl

theorem run_bind (reader : ReaderOf σ α) (next : α → ReaderOf σ β) (input : List σ) :
    (reader >>= next) input = (reader input).bind fun read => next read.1 read.2 := rfl

theorem run_get (input : List σ) :
    (get : ReaderOf σ (List σ)) input = some (input,input) := rfl

section

variable (body : α → ReaderOf σ (α × Bool)) (state next : α) (input rest : List σ)

theorem loop_stop (ran : body state input = some ((next,false),rest)) :
    loop body state input = some (next,rest) := by
  rw [loop,ran]

theorem loop_more (ran : body state input = some ((next,true),rest))
    (shorter : rest.length < input.length) :
    loop body state input = loop body next rest := by
  rw [loop,ran]
  exact if_pos shorter

theorem loop_stuck (ran : body state input = some ((next,true),rest))
    (stuck : ¬ rest.length < input.length) : loop body state input = none := by
  rw [loop,ran]
  exact if_neg stuck

theorem loop_fail (ran : body state input = none) : loop body state input = none := by
  rw [loop,ran]

end

end ReaderOf

namespace Reader

open ReaderOf

theorem run_require (condition : Bool) (input : List Char) (held : condition = true) :
    require condition input = some ((),input) := by
  rw [held]
  rfl

/-- A text is not there if already its first character is not. -/
theorem accept_other (text : String) (first : Char) (input : List Char)
    (opens : text.toList.head? = some first) (other : input.head? ≠ some first) :
    accept text input = some (false,input) := by
  obtain ⟨rest,spelled⟩ := List.head?_eq_some_iff.mp opens
  have absent : text.toList.isPrefixOf input = false := by
    cases input with
    | nil =>
      rw [spelled]
      rfl
    | cons c input =>
      have apart : first ≠ c := fun same => other (by rw [same]; rfl)
      simp [spelled,List.isPrefixOf,apart]
  rw [accept,absent]
  rfl

/-- The longest run of characters of a kind ends where a character of another kind comes. -/
theorem takeSome_append (kind : Char → Bool) (run rest : List Char) (filled : run ≠ [])
    (taken : ∀ c ∈ run, kind c = true) (edge : ∀ c ∈ rest.head?, kind c = false) :
    takeSome kind (run ++ rest) = some (run,rest) := by
  have stop : rest.takeWhile kind = [] ∧ rest.dropWhile kind = rest := by
    cases rest with
    | nil => exact ⟨rfl,rfl⟩
    | cons c rest => simp [edge c rfl]
  have long : takeWhile kind (run ++ rest) = some (run,rest) := by
    rw [takeWhile,List.takeWhile_append_of_pos taken,List.dropWhile_append_of_pos taken,stop.1,
      stop.2,List.append_nil]
  rw [takeSome,run_bind,long,Option.bind_some,run_bind,run_require _ _ (by simpa using filled)]
  rfl

end Reader

end CaseSynthesis.Text
