import CaseSynthesis.Text.Quoted
import CaseSynthesis.Token.StringLiteral

/-! String literals denote the text they were written for. Every character is written as itself or as
an escape, and reading takes both back to the character, whatever stands after it. -/

namespace CaseSynthesis.StringLiteral

open Text

private theorem hexDigit?_digitChar (digit : Nat) (small : digit < 16) :
    hexDigit? digit.digitChar = some digit := by
  have digits : ∀ digit < 16, hexDigit? (Nat.digitChar digit) = some digit := by decide
  exact digits digit small

private theorem readCooked_digit (kind : Kind) (digits value digit : Nat) (rest : List Char)
    (small : digit < 16) (room : digits < 6) :
    readCooked kind (.codePoint digits value) (digit.digitChar :: rest) =
      readCooked kind (.codePoint (digits + 1) (value * 16 + digit)) rest := by
  simp only [readCooked,step,stepCodePoint,hexDigit?_digitChar digit small,room,if_true]

/-- A number of at most six digits is read from its digits, the last of which is read onto the number
that those before it make. -/
private theorem readCooked_hexText (kind : Kind) (number : Nat) (rest : List Char)
    (bound : number < 0x1000000) :
    readCooked kind (.codePoint 0 0) (hexText number ++ rest) =
      readCooked kind (.codePoint (hexText number).length number) rest := by
  unfold hexText
  induction number using Nat.strongRecOn generalizing rest with
  | ind number ih =>
    by_cases small : number < 16
    · rw [Nat.toDigits_of_lt_base small,List.singleton_append,
        readCooked_digit kind 0 0 number rest small (by omega)]
      simp
    · have split := Nat.toDigits_of_base_le (b := 16) (n := number) (by omega) (by omega)
      have short : (Nat.toDigits 16 (number / 16)).length ≤ 5 := by
        rw [Nat.length_toDigits_le_iff (by omega) (by omega)]
        omega
      have last : number % 16 < 16 := Nat.mod_lt _ (by omega)
      have whole : number / 16 * 16 + number % 16 = number := by omega
      rw [split,List.append_assoc,ih (number / 16) (by omega) _ (by omega),List.singleton_append,
        readCooked_digit kind _ _ _ rest last (by omega),whole,List.length_append,
        List.length_singleton]

def afterChar (c : Char) (read : Option (List Char × List Char)) : Option (List Char × List Char) :=
  read.map fun (body,after) => (c :: body,after)

private theorem readCooked_codePointEscape (c : Char) (rest : List Char) :
    readCooked .text .plain (codePointEscape c ++ rest) =
      afterChar c (readCooked .text .plain rest) := by
  have valid : c.toNat.isValidChar := c.valid
  have bound : c.toNat < 0x1000000 := by
    rcases valid with low | ⟨_,high⟩ <;> omega
  have opened : readCooked .text .plain (codePointEscape c ++ rest) =
      readCooked .text (.codePoint 0 0) (hexText c.toNat ++ '\x7d' :: rest) := by
    simp [codePointEscape,readCooked,step,stepPlain,stepEscape]
  have closing : hexDigit? '\x7d' = none := by decide
  have filled : hexText c.toNat ≠ [] := Nat.toDigits_ne_nil
  rw [opened,readCooked_hexText .text c.toNat _ bound]
  simp [readCooked,step,stepCodePoint,closing,filled,Kind.ofCodePoint,valid,afterChar]

private theorem readCooked_escapeChar (c : Char) (rest : List Char) :
    readCooked .text .plain (escapeChar c ++ rest) =
      afterChar c (readCooked .text .plain rest) := by
  -- These have an escape of their own, and all others one by code point or none.
  by_cases named : c ∈ ['\x00','\t','\r','\n','\\','"']
  · simp only [List.mem_cons,List.not_mem_nil,or_false] at named
    rcases named with rfl | rfl | rfl | rfl | rfl | rfl <;> rfl
  · simp only [List.mem_cons,List.not_mem_nil,or_false,not_or] at named
    obtain ⟨noZero,noTab,noReturn,noFeed,noBackslash,noQuote⟩ := named
    simp only [escapeChar,beq_iff_eq,noZero,noTab,noReturn,noFeed,noBackslash,noQuote,if_false]
    split
    · exact readCooked_codePointEscape c rest
    · simp [readCooked,step,stepPlain,noReturn,noBackslash,noQuote,Kind.admits,afterChar]

/-- A zero before an octal digit is the one character that is not written on its own. -/
theorem readCooked_escapeLiteral (text rest : List Char) :
    readCooked .text .plain (escapeLiteral text ++ '"' :: rest) = some (text,rest) := by
  induction text with
  | nil => rfl
  | cons c text ih =>
    rw [escapeLiteral,List.append_assoc]
    split
    · rename_i zero
      obtain rfl : c = '\x00' := by simp_all
      change afterChar '\x00' (readCooked .text .plain (escapeLiteral text ++ '"' :: rest)) = _
      rw [ih]
      rfl
    · rw [readCooked_escapeChar,ih]
      rfl

/-- A string literal denotes the text that it was written for. -/
theorem value?_literalText (text : String) : value? (literalText text) = some text := by
  have spelled : (literalText text).toList = '"' :: (escapeLiteral text.toList ++ ['"']) := by
    simp [literalText]
  simp only [value?,spelled,readCooked_escapeLiteral,Option.map_some,String.ofList_toList]

end CaseSynthesis.StringLiteral
