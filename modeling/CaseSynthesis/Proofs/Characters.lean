import CaseSynthesis.Settings.Basic
import CaseSynthesis.Token.Lexer
import Mathlib.Data.List.TakeWhile

/-! The classes of characters against one another. The settings go by letters and numerals, the lexer
by the characters of identifiers, and neither class contains the other: a superscript digit is a
numeral that no identifier has. What both agree on is told apart from gaps and signs here. -/

namespace CaseSynthesis

theorem Settings.isNameChar_of_start (c : Char) (start : isNameStart c = true) :
    isNameChar c = true := by
  unfold isNameStart at start
  unfold isNameChar Text.isAlphanumeric
  rcases Bool.or_eq_true _ _ ▸ start with letter | underscore
  · simp [letter]
  · simp [underscore]

namespace Text

/-- Whether each of the inner ranges lies in one of the outer ones. Both ascend, so that one pass
over the outer ranges is enough. -/
def covers : List (Nat × Nat) → List (Nat × Nat) → Bool
  | [], inner => inner.isEmpty
  | range :: outer, inner =>
    covers outer (inner.dropWhile fun part => range.1 ≤ part.1 && part.2 ≤ range.2)

private theorem covers_sound (outer inner : List (Nat × Nat)) (covered : covers outer inner = true) :
    ∀ part ∈ inner, ∃ range ∈ outer, range.1 ≤ part.1 ∧ part.2 ≤ range.2 := by
  induction outer generalizing inner with
  | nil =>
    intro part member
    rw [covers,List.isEmpty_iff] at covered
    simp [covered] at member
  | cons first outer ih =>
    intro part member
    let inside : Nat × Nat → Bool := fun part => first.1 ≤ part.1 && part.2 ≤ first.2
    rw [← inner.takeWhile_append_dropWhile (p := inside)] at member
    rcases List.mem_append.mp member with taken | left
    · have held : inside part = true := List.mem_takeWhile_imp taken
      exact ⟨first,by simp,by simpa [inside] using held⟩
    · obtain ⟨range,listed,bounds⟩ := ih _ covered part left
      exact ⟨range,List.mem_cons_of_mem _ listed,bounds⟩

theorem inRanges_nil_iff (c : Char) : inRanges [] c = true ↔ False := by simp [inRanges]

theorem inRanges_cons_iff (range : Nat × Nat) (ranges : List (Nat × Nat)) (c : Char) :
    inRanges (range :: ranges) c = true ↔
      (range.1 ≤ c.toNat ∧ c.toNat ≤ range.2) ∨ inRanges ranges c = true := by
  simp [inRanges]

private theorem inRanges_mono (outer inner : List (Nat × Nat)) (covered : covers outer inner = true)
    (c : Char) (found : inRanges inner c = true) : inRanges outer c = true := by
  rw [inRanges_iff] at found ⊢
  obtain ⟨part,member,low,high⟩ := found
  obtain ⟨range,listed,below,above⟩ := covers_sound outer inner covered part member
  exact ⟨range,listed,below.trans low,high.trans above⟩

def solidRanges : List (Nat × Nat) :=
  [(0x86, 0x9F), (0xA1, 0x167F), (0x1681, 0x1FFF), (0x200B, 0x200D), (0x2010, 0x2027),
   (0x202A, 0x202E), (0x2030, 0x205E), (0x2060, 0x2FFF), (0x3001, 0xFEFE), (0xFF00, 0x10FFFF)]

/-- The tables against one another, all in one evaluation. -/
private theorem tables_covered :
    covers identifierContinueRanges identifierStartRanges = true ∧
    covers solidRanges identifierStartRanges = true ∧
    covers solidRanges alphabeticRanges = true ∧ covers solidRanges numericRanges = true := by
  decide +kernel

theorem isIdentifierContinue_of_start (c : Char) (start : isIdentifierStart c = true) :
    isIdentifierContinue c = true := by
  obtain ⟨covered,_⟩ := tables_covered
  unfold isIdentifierStart at start
  unfold isIdentifierContinue
  split at start
  · rename_i ascii
    rw [if_pos ascii]
    rcases Bool.or_eq_true _ _ ▸ start with letter | underscore
    · simp [Char.isAlphanum,letter]
    · simp [underscore]
  · rename_i beyond
    rw [if_neg beyond]
    exact inRanges_mono _ _ covered c start

def isSolid (c : Char) : Bool :=
  if c.toNat < 0x80 then c.isAlpha || c == '_' else inRanges solidRanges c

theorem isSolid_of_start (c : Char) (start : isIdentifierStart c = true) : isSolid c = true := by
  obtain ⟨_,covered,_⟩ := tables_covered
  unfold isIdentifierStart at start
  unfold isSolid
  split at start
  · rename_i ascii
    rwa [if_pos ascii]
  · rename_i beyond
    rw [if_neg beyond]
    exact inRanges_mono _ _ covered c start

theorem isSolid_of_alphabetic (c : Char) (letter : isAlphabetic c = true) : isSolid c = true := by
  obtain ⟨_,_,covered,_⟩ := tables_covered
  unfold isAlphabetic at letter
  unfold isSolid
  split at letter
  · rename_i ascii
    simp [ascii,letter]
  · rename_i beyond
    rw [if_neg beyond]
    exact inRanges_mono _ _ covered c letter

/-- Of the numerals, only those beyond ASCII are solid. -/
theorem isSolid_of_numeric (c : Char) (beyond : ¬ c.toNat < 0x80) (numeral : isNumeric c = true) :
    isSolid c = true := by
  obtain ⟨_,_,_,covered⟩ := tables_covered
  rw [isNumeric,if_neg beyond] at numeral
  rw [isSolid,if_neg beyond]
  exact inRanges_mono _ _ covered c numeral

theorem isSolid_of_nameStart (c : Char) (start : Settings.isNameStart c = true) :
    isSolid c = true := by
  rcases Bool.or_eq_true _ _ ▸ start with letter | underscore
  · exact isSolid_of_alphabetic c letter
  · rw [eq_of_beq underscore]
    rfl

/-- A character that the settings admit in a name and the lexer does not is beyond ASCII. -/
theorem isSolid_of_stray (c : Char) (named : Settings.isNameChar c = true)
    (stray : isIdentifierContinue c = false) : isSolid c = true := by
  have beyond : ¬ c.toNat < 0x80 := by
    intro ascii
    simp only [Settings.isNameChar,isAlphanumeric,isAlphabetic,isNumeric,ascii,if_true] at named
    simp only [isIdentifierContinue,ascii,if_true,Char.isAlphanum] at stray
    rw [named] at stray
    contradiction
  have parts : (isAlphabetic c = true ∨ isNumeric c = true) ∨ c = '_' := by
    simpa [Settings.isNameChar,isAlphanumeric] using named
  rcases parts with (letter | numeral) | rfl
  · exact isSolid_of_alphabetic c letter
  · exact isSolid_of_numeric c beyond numeral
  · rfl

theorem ne_of_solid (c sign : Char) (solid : isSolid c = true) (other : isSolid sign = false) :
    c ≠ sign := by
  rintro rfl
  rw [solid] at other
  contradiction

theorem toNat_of_solid (c : Char) (solid : isSolid c = true) :
    65 ≤ c.toNat ∧ c.toNat ≤ 122 ∨ inRanges solidRanges c = true := by
  unfold isSolid at solid
  split at solid
  · left
    rcases Bool.or_eq_true _ _ ▸ solid with letter | underscore
    · delta Char.isAlpha Char.isUpper Char.isLower at letter
      simp only [Bool.or_eq_true,Bool.and_eq_true,decide_eq_true_eq,ge_iff_le,
        UInt32.le_iff_toNat_le] at letter
      change (65 ≤ c.toNat ∧ c.toNat ≤ 90) ∨ (97 ≤ c.toNat ∧ c.toNat ≤ 122) at letter
      omega
    · rw [eq_of_beq underscore]
      decide
  · exact .inr solid

theorem isGap_of_solid (c : Char) (solid : isSolid c = true) : Lexer.isGap c = false := by
  have marks : c ≠ '\u200e' ∧ c ≠ '\u200f' :=
    ⟨ne_of_solid c _ solid rfl,ne_of_solid c _ solid rfl⟩
  have blank : isBlank c = false := by
    rw [Bool.eq_false_iff]
    intro gap
    have place := toNat_of_solid c solid
    simp only [isBlank,inRanges_cons_iff,inRanges_nil_iff,or_false] at gap
    simp only [solidRanges,inRanges_cons_iff,inRanges_nil_iff,or_false] at place
    omega
  simp [Lexer.isGap,blank,marks]

theorem isDigit_of_solid (c : Char) (solid : isSolid c = true) : c.isDigit = false := by
  rw [Bool.eq_false_iff]
  intro digit
  have place := toNat_of_solid c solid
  simp only [Char.isDigit,ge_iff_le,Bool.and_eq_true,decide_eq_true_eq,
    UInt32.le_iff_toNat_le] at digit
  change 48 ≤ c.toNat ∧ c.toNat ≤ 57 at digit
  simp only [solidRanges,inRanges_cons_iff,inRanges_nil_iff,or_false] at place
  omega

end Text

end CaseSynthesis
