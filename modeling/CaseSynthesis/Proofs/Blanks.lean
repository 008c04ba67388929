import CaseSynthesis.Text.Blank
import Mathlib.Data.List.TakeDrop
import Mathlib.Data.List.TakeWhile

/-! Text without the blanks around it. -/

namespace CaseSynthesis.Text

theorem trimStart_of_solid {text : List Char} (opens : ∀ c ∈ text.head?, isBlank c = false) :
    trimStart text = text := by
  cases text with
  | nil => rfl
  | cons c text => exact List.dropWhile_cons_of_neg (by simpa using opens c rfl)

theorem trimEnd_of_solid {text : List Char} (ends : ∀ c ∈ text.getLast?, isBlank c = false) :
    trimEnd text = text := by
  have same : trimStart text.reverse = text.reverse := trimStart_of_solid (by simpa using ends)
  change (trimStart text.reverse).reverse = text
  rw [same,List.reverse_reverse]

theorem trimStart_append {blanks : List Char} (blank : ∀ c ∈ blanks, isBlank c = true)
    (text : List Char) : trimStart (blanks ++ text) = trimStart text :=
  List.dropWhile_append_of_pos blank

theorem exists_blanks (text : List Char) :
    ∃ blanks, text = blanks ++ trimStart text ∧ ∀ c ∈ blanks, isBlank c = true :=
  ⟨text.takeWhile isBlank,(List.takeWhile_append_dropWhile).symm,fun _ => List.mem_takeWhile_imp⟩

theorem solid_trimStart (text : List Char) : ∀ c ∈ (trimStart text).head?, isBlank c = false := by
  intro c first
  have found := List.head?_dropWhile_not isBlank text
  rw [show text.dropWhile isBlank = trimStart text from rfl,first] at found
  simpa using found

/-- A text has one last character that is not blank. -/
theorem split_at_last {before before' blanks blanks' : List Char} {c d : Char}
    (same : before ++ c :: blanks = before' ++ d :: blanks') (solid : isBlank c = false)
    (solid' : isBlank d = false) (blank : ∀ e ∈ blanks, isBlank e = true)
    (blank' : ∀ e ∈ blanks', isBlank e = true) : before = before' ∧ c = d ∧ blanks = blanks' := by
  rcases List.append_eq_append_iff.mp same with ⟨more,rfl,rest⟩ | ⟨more,rfl,rest⟩
  · cases more with
    | nil => simpa using rest
    | cons e more =>
      obtain ⟨rfl,rfl⟩ := List.cons.inj rest
      exact absurd (blank d (by simp)) (by simp [solid'])
  · cases more with
    | nil => simpa [eq_comm] using rest
    | cons e more =>
      obtain ⟨rfl,rfl⟩ := List.cons.inj rest
      exact absurd (blank' c (by simp)) (by simp [solid])

theorem exists_blanks_after (text : List Char) :
    ∃ blanks, text = trimEnd text ++ blanks ∧ ∀ c ∈ blanks, isBlank c = true := by
  obtain ⟨blanks,whole,blank⟩ := exists_blanks text.reverse
  refine ⟨blanks.reverse,?_,by simpa using blank⟩
  have back := congrArg List.reverse whole
  rwa [List.reverse_append,List.reverse_reverse] at back

theorem solid_trimEnd (text : List Char) : ∀ c ∈ (trimEnd text).getLast?, isBlank c = false := by
  intro c last
  rw [trimEnd,List.getLast?_reverse] at last
  exact solid_trimStart text.reverse c last

/-- What is left of a text between the blanks around it. -/
theorem trim_split (text : List Char) : ∃ before after, text = before ++ trim text ++ after ∧
    (∀ c ∈ before, isBlank c = true) ∧ ∀ c ∈ after, isBlank c = true := by
  obtain ⟨before,whole,blank⟩ := exists_blanks text
  obtain ⟨after,rest,blank'⟩ := exists_blanks_after (trimStart text)
  exact ⟨before,after,by rw [List.append_assoc,trim,← rest,← whole],blank,blank'⟩

end CaseSynthesis.Text
