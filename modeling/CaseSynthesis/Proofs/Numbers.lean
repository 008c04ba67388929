import CaseSynthesis.Proofs.Legible
import CaseSynthesis.Proofs.Lexing

/-! Where a number ends. What is written after it does not matter, as long as it is nothing that a
number could go on with. -/

namespace CaseSynthesis

open Lexer

/-! Characters that nothing goes on with. -/

def weakCodes : List Nat :=
  [0x9,0xA,0xB,0xC,0xD,0x20,0x29,0x2C,0x5D,0x85,0xA0,0x1680,0x2000,0x2001,0x2002,0x2003,0x2004,
    0x2005,0x2006,0x2007,0x2008,0x2009,0x200A,0x200E,0x200F,0x2028,0x2029,0x202F,0x205F,0x3000]

private theorem toNat_of_weak (c : Char) (weak : isWeak c = true) : c.toNat ∈ weakCodes := by
  simp only [isWeak,isGap,Text.isBlank,Bool.or_eq_true,beq_iff_eq] at weak
  rcases weak with ((((blank | mark) | mark) | comma) | closing) | closing
  · simp only [Text.inRanges_cons_iff,Text.inRanges_nil_iff,or_false] at blank
    simp only [weakCodes,List.mem_cons,List.not_mem_nil,or_false]
    omega
  all_goals
    subst c
    decide

def isInert (c : Char) : Bool :=
  !Text.isIdentifierContinue c && Text.hexDigit? c == none && !c.isDigit &&
    ['.','+','-','_','e','E','"','\'','#'].all (· != c)

theorem inert_of_weak (c : Char) (weak : isWeak c = true) : isInert c = true := by
  have inert : weakCodes.all (fun code => isInert (Char.ofNat code)) = true := by decide +kernel
  have found := List.all_eq_true.mp inert c.toNat (toNat_of_weak c weak)
  rwa [Char.ofNat_toNat] at found

theorem isIdentifierContinue_of_inert (c : Char) (inert : isInert c = true) :
    Text.isIdentifierContinue c = false := by
  simp only [isInert,Bool.and_eq_true,Bool.not_eq_true'] at inert
  exact inert.1.1.1

private theorem isDigit_of_inert (c : Char) (inert : isInert c = true) : c.isDigit = false := by
  simp only [isInert,Bool.and_eq_true,Bool.not_eq_true'] at inert
  exact inert.1.2

private theorem hexDigit_of_inert (c : Char) (inert : isInert c = true) : Text.hexDigit? c = none := by
  simp only [isInert,Bool.and_eq_true,beq_iff_eq] at inert
  exact inert.1.1.2

private theorem ne_of_inert (c : Char) (inert : isInert c = true) (sign : Char)
    (listed : sign ∈ ['.','+','-','_','e','E','"','\'','#']) : c ≠ sign := by
  rintro rfl
  simp only [isInert,Bool.and_eq_true,List.all_eq_true] at inert
  have other := inert.2 c listed
  simp at other

theorem not_inert_of_continue (c : Char) (letter : Text.isIdentifierContinue c = true) :
    isInert c = false := by
  simp [isInert,letter]

private theorem not_inert_of_isDigit (c : Char) (digit : c.isDigit = true) : isInert c = false := by
  simp [isInert,digit]

theorem not_inert_of_mem (c : Char) (listed : c ∈ ['.','+','-','_','e','E','"','\'','#']) :
    isInert c = false := by
  by_contra inert
  exact ne_of_inert c (by simpa using inert) c listed rfl

def Breaks (tail : List Char) : Prop := ∀ c ∈ tail.head?, Text.isIdentifierContinue c = false

namespace Apart

variable {tail : List Char}

private theorem inert (apart : Apart tail) (c : Char) (first : c ∈ tail.head?) : isInert c = true :=
  inert_of_weak c (apart c first)

theorem breaks (apart : Apart tail) : Breaks tail :=
  fun c first => isIdentifierContinue_of_inert c (apart.inert c first)

theorem ends (apart : Apart tail) : Ends tail := by
  intro c first
  refine ⟨apart.breaks c first,fun listed => ?_⟩
  exact ne_of_inert c (apart.inert c first) c (by simp_all) rfl

end Apart

/-! The end of a word. -/

theorem scan_of_breaks {tail : List Char} (breaks : Breaks tail) : Ident.scan tail = none := by
  cases tail with
  | nil => rfl
  | cons c rest =>
    have stop := breaks c rfl
    have other : Text.isIdentifierStart c ≠ true := fun start => by
      rw [Text.isIdentifierContinue_of_start c start] at stop
      contradiction
    rw [Ident.scan,if_neg other]

theorem dropWhile_of_breaks {tail : List Char} (breaks : Breaks tail) :
    tail.dropWhile Text.isIdentifierContinue = tail := by
  cases tail with
  | nil => rfl
  | cons c rest => exact List.dropWhile_cons_of_neg (by simp [breaks c rfl])

private theorem takeWhile_of_breaks {tail : List Char} (breaks : Breaks tail) :
    tail.takeWhile Text.isIdentifierContinue = [] := by
  cases tail with
  | nil => rfl
  | cons c rest => exact List.takeWhile_cons_of_neg (by simp [breaks c rfl])

theorem scan_breaks (text : List Char) {tail : List Char} (breaks : Breaks tail) :
    Ident.scan (text ++ tail) = (Ident.scan text).map fun read => (read.1,read.2 ++ tail) := by
  cases text with
  | nil => exact scan_of_breaks breaks
  | cons c letters =>
    rw [List.cons_append,Ident.scan,Ident.scan]
    split
    · rw [List.takeWhile_append,List.dropWhile_append,dropWhile_of_breaks breaks,
        takeWhile_of_breaks breaks]
      by_cases whole : letters.dropWhile Text.isIdentifierContinue = []
      · have all : letters.takeWhile Text.isIdentifierContinue = letters := by
          have parts := letters.takeWhile_append_dropWhile (p := Text.isIdentifierContinue)
          rwa [whole,List.append_nil] at parts
        simp [whole,all]
      · have short : (letters.takeWhile Text.isIdentifierContinue).length ≠ letters.length := by
          intro same
          have parts := congrArg List.length
            (letters.takeWhile_append_dropWhile (p := Text.isIdentifierContinue))
          rw [List.length_append,same] at parts
          exact whole (List.length_eq_zero_iff.mp (by omega))
        simp [whole,short]
    · rfl

theorem breaks_dropWhile (text : List Char) : Breaks (text.dropWhile Text.isIdentifierContinue) := by
  intro c first
  have stop := List.head?_dropWhile_not Text.isIdentifierContinue text
  rw [Option.mem_def.mp first] at stop
  simpa using stop

private theorem breaks_of_scan {text name rest : List Char} (read : Ident.scan text = some (name,rest)) :
    Breaks rest := by
  cases text with
  | nil => cases read
  | cons c letters =>
    rw [Ident.scan] at read
    split at read
    · cases read
      exact breaks_dropWhile letters
    · cases read

namespace Number

/-! What is taken off a text. -/

private theorem exponentRest_split (signed valued : Bool) (text rest : List Char)
    (read : exponentRest signed valued text = some rest) :
    ∃ taken, text = taken ++ rest ∧ (valued = false → taken ≠ []) ∧
      ∀ c ∈ taken, isInert c = false := by
  induction text generalizing signed valued with
  | nil =>
    cases valued with
    | false => cases read
    | true =>
      cases read
      exact ⟨[],rfl,by simp,by simp⟩
  | cons c text ih =>
    have onward (signed valued valued' : Bool) (part : isInert c = false)
        (read : exponentRest signed valued text = some rest) :
        ∃ taken, c :: text = taken ++ rest ∧ (valued' = false → taken ≠ []) ∧
          ∀ d ∈ taken, isInert d = false := by
      obtain ⟨taken,rfl,_,parts⟩ := ih signed valued read
      exact ⟨c :: taken,rfl,fun _ => List.cons_ne_nil _ _,List.forall_mem_cons.mpr ⟨part,parts⟩⟩
    rw [exponentRest] at read
    split at read
    case isTrue sign =>
      split at read
      · cases read
        exact ⟨[],rfl,by simp_all,by simp⟩
      · split at read
        · cases read
        · refine onward _ _ _ (not_inert_of_mem c ?_) read
          rcases (Bool.or_eq_true _ _).mp sign with plus | minus <;> simp_all
    case isFalse =>
      split at read
      case isTrue digit => exact onward _ _ _ (not_inert_of_isDigit c digit) read
      case isFalse =>
        split at read
        case isTrue mark => exact onward _ _ _ (not_inert_of_mem c (by simp_all)) read
        case isFalse =>
          split at read
          · cases read
            exact ⟨[],rfl,by simp_all,by simp⟩
          · cases read

private theorem exponent_split (text rest : List Char) (read : exponent? text = some rest) :
    ∃ taken, text = taken ++ rest ∧ taken ≠ [] ∧ ∀ c ∈ taken, isInert c = false := by
  cases text with
  | nil => cases read
  | cons c text =>
    rw [exponent?] at read
    split at read
    case isTrue letter =>
      obtain ⟨taken,rfl,_,parts⟩ := exponentRest_split _ _ _ _ read
      refine ⟨c :: taken,rfl,List.cons_ne_nil _ _,List.forall_mem_cons.mpr ⟨?_,parts⟩⟩
      refine not_inert_of_mem c ?_
      rcases (Bool.or_eq_true _ _).mp letter with small | capital <;> simp_all
    case isFalse => cases read

private theorem isIdentifierContinue_of_hexDigit (c : Char) (digit : Nat)
    (found : Text.hexDigit? c = some digit) : Text.isIdentifierContinue c = true := by
  have small : c.toNat < 0x80 ∧ c.isAlphanum = true := by
    delta Char.isAlphanum Char.isAlpha Char.isUpper Char.isLower Char.isDigit
    simp only [Bool.or_eq_true,Bool.and_eq_true,decide_eq_true_eq,ge_iff_le,
      UInt32.le_iff_toNat_le]
    change c.toNat < 0x80 ∧ (((65 ≤ c.toNat ∧ c.toNat ≤ 90) ∨ (97 ≤ c.toNat ∧ c.toNat ≤ 122)) ∨
      (48 ≤ c.toNat ∧ c.toNat ≤ 57))
    unfold Text.hexDigit? at found
    simp only [Char.le_def,UInt32.le_iff_toNat_le] at found
    change (if 48 ≤ c.toNat ∧ c.toNat ≤ 57 then _ else
      if 97 ≤ c.toNat ∧ c.toNat ≤ 102 then _ else
        if 65 ≤ c.toNat ∧ c.toNat ≤ 70 then _ else _) = _ at found
    split at found
    · omega
    · split at found
      · omega
      · split at found
        · omega
        · cases found
  rw [Text.isIdentifierContinue,if_pos small.1,small.2]
  rfl

private theorem digitsRest_split (radix : Nat) (empty : Bool) (text rest : List Char)
    (read : digitsRest radix empty text = some rest) :
    ∃ taken, text = taken ++ rest ∧ (empty = true → taken ≠ []) ∧
      ∀ c ∈ taken, Text.isIdentifierContinue c = true := by
  induction text generalizing empty with
  | nil =>
    cases empty with
    | true => cases read
    | false =>
      cases read
      exact ⟨[],rfl,nofun,by simp⟩
  | cons c text ih =>
    have onward (letter : Text.isIdentifierContinue c = true) (empty' : Bool)
        (read : digitsRest radix empty' text = some rest) :
        ∃ taken, c :: text = taken ++ rest ∧ (empty = true → taken ≠ []) ∧
          ∀ c ∈ taken, Text.isIdentifierContinue c = true := by
      obtain ⟨taken,rfl,_,letters⟩ := ih empty' read
      refine ⟨c :: taken,rfl,fun _ => List.cons_ne_nil _ _,?_⟩
      simpa [letter] using letters
    rw [digitsRest] at read
    split at read
    case isTrue underscore =>
      split at read
      · cases read
      · rw [eq_of_beq underscore] at onward ⊢
        exact onward (by decide) _ read
    case isFalse =>
      split at read
      case h_1 digit found =>
        split at read
        · exact onward (isIdentifierContinue_of_hexDigit c digit found) _ read
        · split at read
          · cases read
          · cases read
            exact ⟨[],rfl,by simp_all,by simp⟩
      case h_2 =>
        split at read
        · cases read
        · cases read
          exact ⟨[],rfl,by simp_all,by simp⟩

def pointRest : List Char → Option (List Char)
  | '.' :: fraction =>
    if opensWord fraction then none
    else
      let afterFraction := fraction.dropWhile isDigitOrUnderscore
      some ((exponent? afterFraction).getD afterFraction)
  | afterWhole => exponent? afterWhole

private theorem floatDigits_cons (c : Char) (text : List Char) : floatDigits (c :: text) =
    if !c.isDigit then none else pointRest (text.dropWhile isDigitOrUnderscore) := rfl

private theorem pointRest_point (text : List Char) : pointRest ('.' :: text) =
    if opensWord text then none
    else some ((exponent? (text.dropWhile isDigitOrUnderscore)).getD
      (text.dropWhile isDigitOrUnderscore)) := rfl

private theorem pointRest_other (text : List Char) (other : text.head? ≠ some '.') :
    pointRest text = exponent? text := by
  unfold pointRest
  split
  · simp at other
  · rfl

private theorem not_inert_of_digits (first : Char) (part : isInert first = false) (text : List Char) :
    ∀ c ∈ first :: text.takeWhile isDigitOrUnderscore, isInert c = false := by
  intro c member
  rcases List.mem_cons.mp member with rfl | inside
  · exact part
  · have listed : isDigitOrUnderscore c = true := List.mem_takeWhile_imp inside
    rcases (Bool.or_eq_true _ _).mp listed with digit | mark
    · exact not_inert_of_isDigit c digit
    · exact not_inert_of_mem c (by simp_all)

private theorem pointRest_split (text rest : List Char) (read : pointRest text = some rest) :
    ∃ taken, text = taken ++ rest ∧ taken ≠ [] ∧ ∀ c ∈ taken, isInert c = false := by
  by_cases point : text.head? = some '.'
  · obtain ⟨text,rfl⟩ := List.head?_eq_some_iff.mp point
    rw [pointRest_point] at read
    split at read
    · cases read
    · have whole := text.takeWhile_append_dropWhile (p := isDigitOrUnderscore)
      have digits := not_inert_of_digits '.' (not_inert_of_mem '.' (by simp)) text
      cases exponent : exponent? (text.dropWhile isDigitOrUnderscore) with
      | none =>
        rw [exponent,Option.getD_none] at read
        cases read
        exact ⟨'.' :: text.takeWhile isDigitOrUnderscore,by rw [List.cons_append,whole],
          List.cons_ne_nil _ _,digits⟩
      | some after =>
        rw [exponent] at read
        cases read
        obtain ⟨taken,split,_,parts⟩ := exponent_split _ _ exponent
        rw [split] at whole
        exact ⟨'.' :: text.takeWhile isDigitOrUnderscore ++ taken,by simp [whole],
          List.cons_ne_nil _ _,List.forall_mem_append.mpr ⟨digits,parts⟩⟩
  · rw [pointRest_other text point] at read
    exact exponent_split text rest read

theorem floatDigits_split (text rest : List Char) (read : floatDigits text = some rest) :
    ∃ taken, text = taken ++ rest ∧ taken ≠ [] ∧ ∀ c ∈ taken, isInert c = false := by
  cases text with
  | nil => cases read
  | cons c text =>
    rw [floatDigits_cons] at read
    split at read
    case isTrue => cases read
    case isFalse digit =>
      obtain ⟨taken,split,_,parts⟩ := pointRest_split _ _ read
      have whole := text.takeWhile_append_dropWhile (p := isDigitOrUnderscore)
      have digits := not_inert_of_digits c (not_inert_of_isDigit c (by simpa using digit)) text
      rw [split] at whole
      refine ⟨c :: text.takeWhile isDigitOrUnderscore ++ taken,?_,List.cons_ne_nil _ _,
        List.forall_mem_append.mpr ⟨digits,parts⟩⟩
      rw [List.cons_append,List.cons_append,List.append_assoc,whole]

private theorem radix_split (text : List Char) :
    ∃ mark, text = mark ++ (radix text).2 ∧ ∀ c ∈ mark, Text.isIdentifierContinue c = true := by
  have marks : ['0','x','o','b'].all Text.isIdentifierContinue = true := rfl
  unfold radix
  split
  · exact ⟨['0','x'],rfl,fun c member => List.all_eq_true.mp marks c (by grind)⟩
  · exact ⟨['0','o'],rfl,fun c member => List.all_eq_true.mp marks c (by grind)⟩
  · exact ⟨['0','b'],rfl,fun c member => List.all_eq_true.mp marks c (by grind)⟩
  · exact ⟨[],rfl,by simp⟩

theorem integerDigits_split (text rest : List Char) (read : integerDigits text = some rest) :
    ∃ taken, text = taken ++ rest ∧ taken ≠ [] ∧
      ∀ c ∈ taken, Text.isIdentifierContinue c = true := by
  have read : digitsRest (radix text).1 true (radix text).2 = some rest := read
  obtain ⟨mark,whole,marks⟩ := radix_split text
  obtain ⟨taken,split,filled,letters⟩ := digitsRest_split _ _ _ _ read
  refine ⟨mark ++ taken,?_,by simp [filled rfl],?_⟩
  · rw [List.append_assoc,← split,← whole]
  · intro c member
    rcases List.mem_append.mp member with first | second
    · exact marks c first
    · exact letters c second

/-! What follows a part that has been read can be left out. -/

private theorem nil_of_append {taken rest tail : List Char} (whole : tail = taken ++ (rest ++ tail)) :
    taken = [] ∧ rest = [] := by
  have size := congrArg List.length whole
  simp only [List.length_append] at size
  exact ⟨List.length_eq_zero_iff.mp (by omega),List.length_eq_zero_iff.mp (by omega)⟩

private theorem exponentRest_cut (signed valued : Bool) (text tail rest : List Char)
    (read : exponentRest signed valued (text ++ tail) = some (rest ++ tail)) :
    exponentRest signed valued text = some rest := by
  induction text generalizing signed valued with
  | nil =>
    obtain ⟨taken,whole,filled,_⟩ := exponentRest_split _ _ _ _ read
    obtain ⟨rfl,rfl⟩ := nil_of_append whole
    cases valued with
    | false => exact absurd rfl (filled rfl)
    | true => rfl
  | cons c text ih =>
    have stop (same : some (c :: (text ++ tail)) = some (rest ++ tail)) :
        some (c :: text) = some rest :=
      congrArg some (List.append_cancel_right (Option.some.inj same))
    rw [List.cons_append,exponentRest] at read
    rw [exponentRest]
    split_ifs at read ⊢
    · exact stop read
    · exact ih _ _ read
    · exact ih _ _ read
    · exact ih _ _ read
    · exact stop read

private theorem exponent_cut (text tail rest : List Char) (some : text ≠ [])
    (read : exponent? (text ++ tail) = .some (rest ++ tail)) : exponent? text = .some rest := by
  cases text with
  | nil => contradiction
  | cons c text =>
    rw [List.cons_append,exponent?] at read
    rw [exponent?]
    split_ifs at read ⊢
    exact exponentRest_cut _ _ _ _ _ read

private theorem exponentRest_valued (signed : Bool) (text : List Char) :
    exponentRest signed true text ≠ none := by
  induction text with
  | nil => exact nofun
  | cons c text ih =>
    simp only [exponentRest,if_true]
    split_ifs
    · exact nofun
    · exact ih
    · exact ih
    · exact nofun

/-- Once there is a digit, the exponent stands. -/
private theorem exponentRest_extend (signed valued : Bool) (text tail : List Char)
    (read : exponentRest signed valued text ≠ none) :
    exponentRest signed valued (text ++ tail) ≠ none := by
  induction text generalizing signed valued with
  | nil =>
    cases valued with
    | false => exact absurd rfl read
    | true => exact exponentRest_valued signed tail
  | cons c text ih =>
    rw [exponentRest] at read
    rw [List.cons_append,exponentRest]
    split_ifs at read ⊢
    · exact nofun
    · exact read
    · exact ih _ _ read
    · exact ih _ _ read
    · exact ih _ _ read
    · exact nofun
    · exact read

private theorem exponent_extend (text tail : List Char) (read : exponent? text ≠ none) :
    exponent? (text ++ tail) ≠ none := by
  cases text with
  | nil => exact absurd rfl read
  | cons c text =>
    rw [exponent?] at read
    rw [List.cons_append,exponent?]
    split_ifs at read ⊢
    · exact exponentRest_extend _ _ _ _ read
    · exact read

/-- The digits at the head of a text end in the text or go on after it. -/
private theorem dropWhile_cases (p : Char → Bool) (text tail : List Char) :
    (text.dropWhile p = [] ∧ (text ++ tail).dropWhile p = tail.dropWhile p) ∨
      (text.dropWhile p ≠ [] ∧ (text ++ tail).dropWhile p = text.dropWhile p ++ tail) := by
  rw [List.dropWhile_append]
  cases left : text.dropWhile p with
  | nil => exact .inl ⟨rfl,rfl⟩
  | cons c rest => exact .inr ⟨List.cons_ne_nil _ _,rfl⟩

private theorem pointRest_cut (text tail rest : List Char) (filled : text ≠ [])
    (read : pointRest (text ++ tail) = some (rest ++ tail)) : pointRest text = some rest := by
  cases text with
  | nil => contradiction
  | cons c text =>
    by_cases point : c = '.'
    · subst point
      rw [List.cons_append,pointRest_point] at read
      rw [pointRest_point]
      have closed : opensWord text = false := by
        cases text with
        | nil => rfl
        | cons d text =>
          split at read
          · cases read
          · rename_i plain
            exact Bool.eq_false_iff.mpr plain
      rw [if_neg (by simp [closed])]
      split at read
      · cases read
      have read := Option.some.inj read
      -- The exponent, if there is one, does not reach beyond the text.
      rcases dropWhile_cases isDigitOrUnderscore text tail with ⟨none,after⟩ | ⟨some,after⟩
      · rw [after] at read
        have digits := tail.takeWhile_append_dropWhile (p := isDigitOrUnderscore)
        have nothing : rest = [] := by
          cases exponent : exponent? (tail.dropWhile isDigitOrUnderscore) with
          | none =>
            rw [exponent,Option.getD_none] at read
            rw [read] at digits
            exact (nil_of_append digits.symm).2
          | some left =>
            rw [exponent,Option.getD_some] at read
            obtain ⟨taken,split,_⟩ := exponent_split _ _ exponent
            rw [split,read,← List.append_assoc] at digits
            exact (nil_of_append digits.symm).2
        rw [none,nothing]
        rfl
      · rw [after] at read
        cases exponent : exponent? (text.dropWhile isDigitOrUnderscore ++ tail) with
        | none =>
          have missing : exponent? (text.dropWhile isDigitOrUnderscore) = none := by
            by_contra found
            exact exponent_extend _ tail found exponent
          rw [exponent,Option.getD_none] at read
          rw [missing,Option.getD_none,List.append_cancel_right read]
        | some left =>
          rw [exponent,Option.getD_some] at read
          subst read
          rw [exponent_cut _ _ _ some exponent,Option.getD_some]
    · rw [pointRest_other _ (by simpa using point)] at read ⊢
      exact exponent_cut _ _ _ filled read

private theorem floatDigits_cut (text tail rest : List Char)
    (read : floatDigits (text ++ tail) = some (rest ++ tail)) : floatDigits text = some rest := by
  cases text with
  | nil =>
    obtain ⟨taken,whole,filled,_⟩ := floatDigits_split _ _ read
    exact absurd (nil_of_append whole).1 filled
  | cons c text =>
    rw [List.cons_append,floatDigits_cons] at read
    rw [floatDigits_cons]
    split_ifs at read ⊢
    rcases dropWhile_cases isDigitOrUnderscore text tail with ⟨none,after⟩ | ⟨some,after⟩
    · rw [after] at read
      obtain ⟨taken,split,filled,_⟩ := pointRest_split _ _ read
      have digits := tail.takeWhile_append_dropWhile (p := isDigitOrUnderscore)
      rw [split,← List.append_assoc] at digits
      exact absurd (List.append_eq_nil_iff.mp (nil_of_append digits.symm).1).2 filled
    · rw [after] at read
      exact pointRest_cut _ _ _ some read

private theorem digitsRest_cut (radix : Nat) (empty : Bool) (text tail rest : List Char)
    (read : digitsRest radix empty (text ++ tail) = some (rest ++ tail)) :
    digitsRest radix empty text = some rest := by
  induction text generalizing empty with
  | nil =>
    obtain ⟨taken,whole,filled,_⟩ := digitsRest_split _ _ _ _ read
    obtain ⟨rfl,rfl⟩ := nil_of_append whole
    cases empty with
    | true => exact absurd rfl (filled rfl)
    | false => rfl
  | cons c text ih =>
    have stop (same : some (c :: (text ++ tail)) = some (rest ++ tail)) :
        some (c :: text) = some rest :=
      congrArg some (List.append_cancel_right (Option.some.inj same))
    rw [List.cons_append,digitsRest] at read
    rw [digitsRest]
    cases found : Text.hexDigit? c with
    | none =>
      simp only [found] at read ⊢
      split_ifs at read ⊢
      · exact ih _ read
      · exact stop read
    | some digit =>
      simp only [found] at read ⊢
      split_ifs at read ⊢
      · exact ih _ read
      · exact ih _ read
      · exact stop read

private theorem radix_append (text tail : List Char) (filled : text ≠ []) (breaks : Breaks tail) :
    radix (text ++ tail) = ((radix text).1,(radix text).2 ++ tail) := by
  match text with
  | [] => contradiction
  | [c] =>
    have other (sign : Char) (letter : Text.isIdentifierContinue sign = true) (rest : List Char) :
        tail ≠ sign :: rest := by
      rintro rfl
      have stop := breaks sign rfl
      rw [letter] at stop
      contradiction
    have plain : radix ([c] ++ tail) = (10,[c] ++ tail) := by
      unfold radix
      split
      · exact absurd (List.cons.inj ‹_›).2 (other 'x' (by decide) _)
      · exact absurd (List.cons.inj ‹_›).2 (other 'o' (by decide) _)
      · exact absurd (List.cons.inj ‹_›).2 (other 'b' (by decide) _)
      · rfl
    rw [plain]
    unfold radix
    split <;> simp_all
  | a :: b :: text =>
    simp only [List.cons_append]
    unfold radix
    split <;> split <;> simp_all

private theorem integerDigits_cut (text tail rest : List Char) (breaks : Breaks tail)
    (read : integerDigits (text ++ tail) = some (rest ++ tail)) : integerDigits text = some rest := by
  have filled : text ≠ [] := by
    rintro rfl
    obtain ⟨taken,whole,filled,_⟩ := integerDigits_split _ _ read
    exact filled (nil_of_append whole).1
  have digits : digitsRest (radix (text ++ tail)).1 true (radix (text ++ tail)).2 =
    some (rest ++ tail) := read
  rw [radix_append text tail filled breaks] at digits
  exact digitsRest_cut _ _ _ _ _ digits

private theorem afterSuffix_append (text tail : List Char) (breaks : Breaks tail) :
    afterSuffix (text ++ tail) = (afterSuffix text).map (· ++ tail) := by
  unfold afterSuffix
  rw [scan_breaks text breaks]
  cases Ident.scan text with
  | some read => rfl
  | none =>
    cases text with
    | cons c text =>
      simp only [List.cons_append,Option.map_none]
      split_ifs <;> rfl
    | nil =>
      cases tail with
      | nil => rfl
      | cons c tail => simp [breaks c rfl]

private theorem breaks_of_afterSuffix (text rest : List Char) (read : afterSuffix text = some rest) :
    Breaks rest := by
  unfold afterSuffix at read
  split at read
  case h_1 found =>
    cases read
    exact breaks_of_scan found
  case h_2 =>
    split at read
    · cases read
      exact fun c first => by cases first
    · split at read
      · cases read
      · rename_i stop
        cases read
        intro c first
        cases first
        simpa using stop

theorem afterSuffix_split (text rest : List Char) (read : afterSuffix text = some rest) :
    ∃ taken, text = taken ++ rest ∧ ∀ c ∈ taken, Text.isIdentifierContinue c = true := by
  unfold afterSuffix at read
  split at read
  case h_1 name after found =>
    cases read
    cases text with
    | nil => cases found
    | cons c letters =>
      rw [Ident.scan] at found
      split at found
      case isTrue start =>
        cases found
        refine ⟨c :: letters.takeWhile Text.isIdentifierContinue,?_,?_⟩
        · rw [List.cons_append,List.takeWhile_append_dropWhile]
        · intro d member
          rcases List.mem_cons.mp member with rfl | later
          · exact Text.isIdentifierContinue_of_start d start
          · exact List.mem_takeWhile_imp later
      case isFalse => cases found
  case h_2 =>
    split at read
    · cases read
      exact ⟨[],rfl,by simp⟩
    · split at read
      · cases read
      · cases read
        exact ⟨[],rfl,by simp⟩

/-! What may follow a number adds nothing to it. -/

private theorem isIdentifierContinue_of_isDigit (c : Char) (digit : c.isDigit = true) :
    Text.isIdentifierContinue c = true := by
  have decimal : ∃ value, Text.hexDigit? c = some value := by
    unfold Text.hexDigit?
    rw [if_pos (by simpa [Char.isDigit,Char.le_def] using digit)]
    exact ⟨_,rfl⟩
  obtain ⟨value,found⟩ := decimal
  exact isIdentifierContinue_of_hexDigit c value found

private theorem exponentRest_append (signed valued : Bool) (text tail rest : List Char)
    (breaks : Breaks tail) (read : exponentRest signed valued text = some rest) :
    exponentRest signed valued (text ++ tail) = some (rest ++ tail) := by
  induction text generalizing signed valued with
  | nil =>
    cases valued with
    | false => cases read
    | true =>
      cases read
      cases tail with
      | nil => rfl
      | cons c tail =>
        have stop := breaks c rfl
        have digit : c.isDigit = false := by
          by_contra digit
          simp [isIdentifierContinue_of_isDigit c (by simpa using digit)] at stop
        have underscore : c ≠ '_' := by
          rintro rfl
          cases stop
        simp [exponentRest,digit,underscore]
  | cons c text ih =>
    rw [exponentRest] at read
    rw [List.cons_append,exponentRest]
    split_ifs at read ⊢
    · cases read
      rfl
    · exact ih _ _ read
    · exact ih _ _ read
    · exact ih _ _ read
    · cases read
      rfl

private theorem exponentRest_apart (signed valued : Bool) (text tail : List Char) (apart : Apart tail) :
    exponentRest signed valued (text ++ tail) =
      (exponentRest signed valued text).map (· ++ tail) := by
  induction text generalizing signed valued with
  | nil =>
    cases tail with
    | nil => cases valued <;> rfl
    | cons c tail =>
      have inert := apart.inert c rfl
      have other (sign : Char) := ne_of_inert c inert sign
      cases valued <;> simp [exponentRest,isDigit_of_inert c inert,other '+' (by simp),
        other '-' (by simp),other '_' (by simp)]
  | cons c text ih =>
    simp only [List.cons_append,exponentRest]
    split_ifs
    · rfl
    · rfl
    · exact ih _ _
    · exact ih _ _
    · exact ih _ _
    · rfl
    · rfl

private theorem exponent_apart (text tail : List Char) (apart : Apart tail) :
    exponent? (text ++ tail) = (exponent? text).map (· ++ tail) := by
  cases text with
  | nil =>
    cases tail with
    | nil => rfl
    | cons c tail =>
      have other (sign : Char) := ne_of_inert c (apart.inert c rfl) sign
      simp [exponent?,other 'e' (by simp),other 'E' (by simp)]
  | cons c text =>
    simp only [List.cons_append,exponent?]
    split_ifs
    · exact exponentRest_apart _ _ _ _ apart
    · rfl

private theorem dropWhile_apart (tail : List Char) (apart : Apart tail) :
    tail.dropWhile isDigitOrUnderscore = tail := by
  cases tail with
  | nil => rfl
  | cons c tail =>
    have inert := apart.inert c rfl
    apply List.dropWhile_cons_of_neg
    simp [isDigitOrUnderscore,isDigit_of_inert c inert,ne_of_inert c inert '_' (by simp)]

private theorem dropWhile_append_apart (text tail : List Char) (apart : Apart tail) :
    (text ++ tail).dropWhile isDigitOrUnderscore =
      text.dropWhile isDigitOrUnderscore ++ tail := by
  rcases dropWhile_cases isDigitOrUnderscore text tail with ⟨none,after⟩ | ⟨_,after⟩
  · rw [after,none,dropWhile_apart tail apart,List.nil_append]
  · exact after

private theorem opensWord_apart (text tail : List Char) (apart : Apart tail) :
    opensWord (text ++ tail) = opensWord text := by
  cases text with
  | cons c text => rfl
  | nil =>
    cases tail with
    | nil => rfl
    | cons c tail =>
      have point := ne_of_inert c (apart.inert c rfl) '.' (by simp)
      have start : Text.isIdentifierStart c = false := by
        by_contra start
        have stop := apart.breaks c rfl
        rw [Text.isIdentifierContinue_of_start c (by simpa using start)] at stop
        contradiction
      simp [opensWord,point,start]

private theorem pointRest_apart (text tail : List Char) (apart : Apart tail) :
    pointRest (text ++ tail) = (pointRest text).map (· ++ tail) := by
  by_cases point : text.head? = some '.'
  · obtain ⟨text,rfl⟩ := List.head?_eq_some_iff.mp point
    rw [List.cons_append,pointRest_point,pointRest_point,opensWord_apart text tail apart,
      dropWhile_append_apart text tail apart,exponent_apart _ tail apart]
    split
    · rfl
    · cases exponent? (text.dropWhile isDigitOrUnderscore) <;> rfl
  · have other : (text ++ tail).head? ≠ some '.' := by
      cases text with
      | cons c text => exact point
      | nil =>
        intro first
        exact ne_of_inert '.' (apart.inert '.' first) '.' (by simp) rfl
    rw [pointRest_other _ point,pointRest_other _ other,exponent_apart text tail apart]

private theorem floatDigits_apart (text tail : List Char) (apart : Apart tail) :
    floatDigits (text ++ tail) = (floatDigits text).map (· ++ tail) := by
  cases text with
  | nil =>
    cases tail with
    | nil => rfl
    | cons c tail => simp [floatDigits,isDigit_of_inert c (apart.inert c rfl)]
  | cons c text =>
    rw [List.cons_append,floatDigits_cons,floatDigits_cons,dropWhile_append_apart text tail apart]
    split
    · rfl
    · exact pointRest_apart _ tail apart

private theorem digitsRest_apart (radix : Nat) (empty : Bool) (text tail : List Char) (apart : Apart tail) :
    digitsRest radix empty (text ++ tail) = (digitsRest radix empty text).map (· ++ tail) := by
  induction text generalizing empty with
  | nil =>
    cases tail with
    | nil => cases empty <;> rfl
    | cons c tail =>
      have inert := apart.inert c rfl
      cases empty <;> simp [digitsRest,hexDigit_of_inert c inert,ne_of_inert c inert '_' (by simp)]
  | cons c text ih =>
    rw [List.cons_append,digitsRest,digitsRest]
    cases Text.hexDigit? c with
    | none =>
      simp only
      split_ifs
      · rfl
      · exact ih _
      · rfl
      · rfl
    | some digit =>
      simp only
      split_ifs
      · rfl
      · exact ih _
      · exact ih _
      · rfl
      · rfl

private theorem integerDigits_apart (text tail : List Char) (filled : text ≠ []) (apart : Apart tail) :
    integerDigits (text ++ tail) = (integerDigits text).map (· ++ tail) := by
  change digitsRest (radix (text ++ tail)).1 true (radix (text ++ tail)).2 = _
  rw [radix_append text tail filled apart.breaks]
  exact digitsRest_apart _ _ _ _ apart

theorem scan_apart (text tail : List Char) (filled : text ≠ []) (apart : Apart tail) :
    scan (text ++ tail) = (scan text).map (· ++ tail) := by
  have suffix (read : Option (List Char)) : ((read.map (· ++ tail)).bind afterSuffix) =
      (read.bind afterSuffix).map (· ++ tail) := by
    cases read with
    | none => rfl
    | some rest => exact afterSuffix_append rest tail apart.breaks
  rw [scan,scan,floatDigits_apart text tail apart,integerDigits_apart text tail filled apart,suffix,
    suffix]
  cases (floatDigits text).bind afterSuffix <;> rfl

/-! Reading a number again from its own text. -/

private theorem afterSuffix_cut (text tail : List Char) (read : afterSuffix (text ++ tail) = some tail) :
    afterSuffix text = some [] := by
  rw [afterSuffix_append text tail (breaks_of_afterSuffix _ _ read)] at read
  obtain ⟨rest,found,same⟩ := Option.map_eq_some_iff.mp read
  rw [found,List.append_left_eq_self.mp same]

private theorem floatDigits_append (text tail rest : List Char) (breaks : Breaks tail) (plain : '.' ∉ text)
    (read : floatDigits text = some rest) : floatDigits (text ++ tail) = some (rest ++ tail) := by
  cases text with
  | nil => cases read
  | cons c text =>
    rw [floatDigits_cons] at read
    rw [List.cons_append,floatDigits_cons]
    split_ifs at read ⊢
    rcases dropWhile_cases isDigitOrUnderscore text tail with ⟨none,_⟩ | ⟨some,after⟩
    · rw [none] at read
      cases read
    · rw [after]
      cases left : text.dropWhile isDigitOrUnderscore with
      | nil => contradiction
      | cons d digits =>
        have point : d ≠ '.' := by
          rintro rfl
          refine plain (List.mem_cons_of_mem c ?_)
          apply (List.dropWhile_sublist isDigitOrUnderscore).subset
          simp [left]
        rw [left,pointRest_other _ (by simpa using point),exponent?] at read
        rw [List.cons_append,pointRest_other _ (by simpa using point),exponent?]
        split_ifs at read ⊢
        exact exponentRest_append _ _ _ _ _ breaks read

private theorem scan_cut (text tail : List Char) (read : scan (text ++ tail) = some tail) :
    scan text = some [] := by
  unfold scan at read ⊢
  cases float : (floatDigits (text ++ tail)).bind afterSuffix with
  | some found =>
    rw [float] at read
    cases read
    obtain ⟨middle,digits,suffix⟩ := Option.bind_eq_some_iff.mp float
    obtain ⟨word,rfl,_⟩ := afterSuffix_split _ _ suffix
    rw [floatDigits_cut text tail word digits,Option.bind_some,afterSuffix_cut word tail suffix]
    rfl
  | none =>
    rw [float] at read
    obtain ⟨middle,digits,suffix⟩ := Option.bind_eq_some_iff.mp read
    obtain ⟨word,rfl,letters⟩ := afterSuffix_split _ _ suffix
    have breaks := breaks_of_afterSuffix _ _ suffix
    obtain ⟨taken,whole,_,figures⟩ := integerDigits_split _ _ digits
    rw [← List.append_assoc] at whole
    obtain rfl := List.append_cancel_right whole
    have plain : '.' ∉ taken ++ word := by
      intro point
      rcases List.mem_append.mp point with first | second
      · exact absurd (figures _ first) (by decide)
      · exact absurd (letters _ second) (by decide)
    -- Were the text a float, it would have been one before the tail as well.
    have other : (floatDigits (taken ++ word)).bind afterSuffix = none := by
      cases again : (floatDigits (taken ++ word)).bind afterSuffix with
      | none => rfl
      | some rest =>
        obtain ⟨middle,digits,suffix⟩ := Option.bind_eq_some_iff.mp again
        have more := floatDigits_append _ tail middle breaks plain digits
        rw [more,Option.bind_some,afterSuffix_append middle tail breaks,suffix] at float
        cases float
    rw [other,integerDigits_cut _ tail word breaks digits,Option.bind_some,
      afterSuffix_cut word tail suffix]
    rfl

private theorem hexDigit_of_isDigit (c : Char) (digit : c.isDigit = true) :
    ∃ value < 10, Text.hexDigit? c = some value := by
  have range : '0' ≤ c ∧ c ≤ '9' := by simpa [Char.isDigit,Char.le_def] using digit
  refine ⟨c.toNat - '0'.toNat,?_,by rw [Text.hexDigit?,if_pos range]⟩
  have high : c.toNat ≤ 57 := range.2
  change c.toNat - 48 < 10
  omega

private theorem digitsRest_decimal (digits : List Char) (each : ∀ c ∈ digits, c.isDigit = true) :
    digitsRest 10 false digits = some [] := by
  induction digits with
  | nil => rfl
  | cons c digits ih =>
    obtain ⟨value,small,found⟩ := hexDigit_of_isDigit c (each c (by simp))
    have underscore : c ≠ '_' := by
      rintro rfl
      exact absurd (each '_' (by simp)) (by decide)
    rw [digitsRest,if_neg (by simpa using underscore),found]
    simp only [small,if_true]
    exact ih fun d member => each d (by simp [member])

/-- A decimal number is one whatever its digits. -/
private theorem scan_decimal (digits : List Char) (filled : digits ≠ [])
    (each : ∀ c ∈ digits, c.isDigit = true) : scan digits = some [] := by
  cases digits with
  | nil => contradiction
  | cons c digits =>
    have nothing : digits.dropWhile isDigitOrUnderscore = [] := by
      rw [List.dropWhile_eq_nil_iff]
      intro d member
      simp [isDigitOrUnderscore,each d (by simp [member])]
    have float : floatDigits (c :: digits) = none := by
      rw [floatDigits_cons,nothing]
      split_ifs
      · rfl
      · rfl
    have decimal : radix (c :: digits) = (10,c :: digits) := by
      have other (sign : Char) (letter : sign.isDigit = false) (rest : List Char) :
          digits ≠ sign :: rest := by
        rintro rfl
        have digit := each sign (by simp)
        rw [letter] at digit
        contradiction
      unfold radix
      split
      · exact absurd (List.cons.inj ‹_›).2 (other 'x' (by decide) _)
      · exact absurd (List.cons.inj ‹_›).2 (other 'o' (by decide) _)
      · exact absurd (List.cons.inj ‹_›).2 (other 'b' (by decide) _)
      · rfl
    have integer : integerDigits (c :: digits) = some [] := by
      obtain ⟨value,small,found⟩ := hexDigit_of_isDigit c (each c (by simp))
      have underscore : c ≠ '_' := by
        rintro rfl
        exact absurd (each '_' (by simp)) (by decide)
      change digitsRest (radix (c :: digits)).1 true (radix (c :: digits)).2 = _
      rw [decimal,digitsRest,if_neg (by simpa using underscore),found]
      simp only [small,if_true]
      exact digitsRest_decimal digits fun d member => each d (by simp [member])
    rw [scan,float,integer]
    rfl

private theorem isDigit_of_hexDigit (c : Char) (value : Nat) (found : Text.hexDigit? c = some value)
    (small : value < 10) : c.isDigit = true := by
  unfold Text.hexDigit? at found
  split at found
  case isTrue range => simpa [Char.isDigit,Char.le_def] using range
  case isFalse =>
    split at found
    · cases found
      omega
    · split at found
      · cases found
        omega
      · cases found

/-- A number starts with a digit. -/
theorem isDigit_of_scan (c : Char) (text rest : List Char) (read : scan (c :: text) = some rest) :
    c.isDigit = true := by
  by_contra other
  have float : floatDigits (c :: text) = none := by
    rw [floatDigits_cons,if_pos (by simpa using other)]
  have decimal : radix (c :: text) = (10,c :: text) := by
    have zero : c ≠ '0' := by
      rintro rfl
      exact other (by decide)
    simp [radix,zero]
  have integer : integerDigits (c :: text) = none := by
    change digitsRest (radix (c :: text)).1 true (radix (c :: text)).2 = _
    rw [decimal,digitsRest]
    split
    · rfl
    · split
      · rename_i digit found
        have large : ¬ digit < 10 := fun small => other (isDigit_of_hexDigit c digit found small)
        simp [large]
      · rfl
  rw [scan,float,integer] at read
  cases read

end Number

theorem step_of_literal {c : Char} {text rest : List Char} {token : Token} (gap : isGap c = false)
    (slash : c ≠ '/') (delimiter : delimiter? c = none)
    (read : literal (c :: text) = some (token,rest)) :
    step (c :: text) = some ([token],rest) := by
  have comment : opensComment (c :: text) = false := by
    simp [opensComment,startsWith,List.isPrefixOf,slash.symm]
  rw [step,if_neg (by simp [gap]),if_neg (by simp [comment]),delimiter,Lexer.token,read]
  rfl

theorem literal_append {text tail : List Char}
    (read : (afterQuoted (text ++ tail)).orElse (fun _ => Number.scan (text ++ tail)) = some tail) :
    literal (text ++ tail) = some (.literal (String.ofList text),tail) := by
  have size : (text ++ tail).length - tail.length = text.length := by simp
  rw [literal,read,Option.map_some,size,List.take_left]

private theorem step_of_isDigit {c : Char} {text tail : List Char} (digit : c.isDigit = true)
    (read : Number.scan (c :: text ++ tail) = some tail) :
    step (c :: text ++ tail) = some ([.literal (String.ofList (c :: text))],tail) := by
  have other (sign : Char) (plain : sign.isDigit = false) : c ≠ sign := by
    rintro rfl
    rw [digit] at plain
    contradiction
  have gap : isGap c = false := by
    have range : 48 ≤ c.toNat ∧ c.toNat ≤ 57 := by
      simpa [Char.isDigit,UInt32.le_iff_toNat_le] using digit
    have blank : Text.isBlank c = false := by
      rw [Bool.eq_false_iff]
      intro blank
      simp only [Text.isBlank,Text.inRanges_cons_iff,Text.inRanges_nil_iff,or_false] at blank
      omega
    simp [isGap,blank,other '\u200e' (by decide),other '\u200f' (by decide)]
  have delimiter : delimiter? c = none := by
    unfold delimiter?
    split <;> first | rfl | cases digit
  have quoted : afterQuoted (c :: text ++ tail) = none := by
    rw [List.cons_append,afterQuoted.eq_def]
    split <;> first | rfl | exact absurd (List.cons.inj ‹_›).1 (other _ (by decide))
  have number : literal (c :: text ++ tail) = some (.literal (String.ofList (c :: text)),tail) := by
    apply literal_append
    rw [quoted]
    exact read
  exact step_of_literal gap (other '/' (by decide)) delimiter number

theorem legible_number {text tail : List Char} (filled : text ≠ [])
    (read : Number.scan (text ++ tail) = some tail) :
    (Token.literal (String.ofList text)).Legible := by
  intro rest apart
  cases text with
  | nil => contradiction
  | cons c text =>
    have again : Number.scan (c :: text ++ rest) = some rest := by
      rw [Number.scan_apart _ rest filled apart,Number.scan_cut _ tail read]
      rfl
    rw [String.toList_ofList]
    exact step_of_isDigit (Number.isDigit_of_scan c _ _ again) again

theorem legible_decimal (number : Nat) : (Token.literal (toString number)).Legible := by
  have decimal : (toString number).toList = Nat.toDigits 10 number := by simp
  have digits : ∀ c ∈ (toString number).toList, c.isDigit = true := by
    rw [decimal]
    exact fun c member => Nat.isDigit_of_mem_toDigits (by decide) (by decide) member
  have filled : (toString number).toList ≠ [] := by
    rw [decimal]
    exact Nat.toDigits_ne_nil
  have read : Number.scan ((toString number).toList ++ []) = some [] := by
    rw [List.append_nil]
    exact Number.scan_decimal _ filled digits
  have legible := legible_number filled read
  rwa [String.ofList_toList] at legible

end CaseSynthesis
