import CaseSynthesis.Proofs.Escapes
import CaseSynthesis.Proofs.Numbers

/-! Quoted literals: where one ends depends on nothing that comes after it but the characters of its
suffix. -/

namespace CaseSynthesis

namespace StringLiteral

variable {kind : Kind} {mode : Mode} {input body rest : List Char}

private theorem eq_quote_of_close {c : Char} (closed : step kind mode c = .close) : c = '"' := by
  have plain (closed : stepPlain kind c = .close) : c = '"' := by
    unfold stepPlain at closed
    grind
  cases mode with
  | plain => exact plain closed
  | continued =>
    simp only [step] at closed
    split at closed
    · cases closed
    · split at closed
      · cases closed
      · exact plain closed
  | _ =>
    simp only [step,stepEscape,stepCodePoint] at closed
    grind

private theorem readCooked_split (read : readCooked kind mode input = some (body,rest)) :
    ∃ text, input = text ++ '"' :: rest ∧
      ∀ other, readCooked kind mode (text ++ '"' :: other) = some (body,other) := by
  induction input generalizing mode body with
  | nil => cases read
  | cons c input ih =>
    rw [readCooked] at read
    cases stepped : step kind mode c with
    | fail => simp [stepped] at read
    | close =>
      obtain rfl := eq_quote_of_close stepped
      obtain ⟨rfl,rfl⟩ : [] = body ∧ input = rest := by simpa [stepped] using read
      exact ⟨[],rfl,fun other => by simp [readCooked,stepped]⟩
    | emit char next =>
      rw [stepped] at read
      obtain ⟨⟨inner,after⟩,found,same⟩ := Option.map_eq_some_iff.mp read
      cases same
      obtain ⟨text,rfl,again⟩ := ih found
      exact ⟨c :: text,rfl,fun other => by simp [readCooked,stepped,again other]⟩
    | skip next =>
      rw [stepped] at read
      obtain ⟨text,rfl,again⟩ := ih read
      exact ⟨c :: text,rfl,fun other => by simp [readCooked,stepped,again other]⟩

private theorem readEscape_split {char : Char} (read : readEscape kind mode input = some (char,rest)) :
    ∃ text, input = text ++ rest ∧
      ∀ other, readEscape kind mode (text ++ other) = some (char,other) := by
  induction input generalizing mode with
  | nil => cases read
  | cons c input ih =>
    rw [readEscape] at read
    split at read
    case h_1 emitted next stepped =>
      obtain ⟨rfl,rfl⟩ : emitted = char ∧ input = rest := by simpa using read
      exact ⟨[c],rfl,fun other => by simp [readEscape,stepped]⟩
    case h_4 next unlike unlike' stepped =>
      obtain ⟨text,rfl,again⟩ := ih read
      refine ⟨c :: text,rfl,fun other => ?_⟩
      rw [List.cons_append,readEscape,stepped]
      simpa using again other
    all_goals cases read

/-- Whether a text opens with certain marks is settled by as many of its characters. -/
private theorem isPrefixOf_append (marks before after other : List Char)
    (long : marks.length ≤ before.length) :
    marks.isPrefixOf (before ++ after) = marks.isPrefixOf (before ++ other) := by
  have settled (after : List Char) : marks.isPrefixOf (before ++ after) = true ↔ marks <+: before := by
    rw [List.isPrefixOf_iff_prefix]
    refine ⟨fun opens => ?_,fun opens => opens.trans (List.prefix_append _ _)⟩
    exact List.prefix_of_prefix_length_le opens (List.prefix_append _ _) long
  rw [Bool.eq_iff_iff,settled,settled]

private theorem readRaw_split {hashes : Nat} (read : readRaw kind hashes input = some (body,rest)) :
    ∃ text, input = text ++ '"' :: (List.replicate hashes '#' ++ rest) ∧
      ∀ other, readRaw kind hashes (text ++ '"' :: (List.replicate hashes '#' ++ other)) =
        some (body,other) := by
  fun_induction readRaw kind hashes input generalizing body with
  | case1 => cases read
  | case2 input closed =>
    obtain ⟨after,rfl⟩ := List.isPrefixOf_iff_prefix.mp closed
    obtain ⟨rfl,rfl⟩ : [] = body ∧ after = rest := by simpa using read
    exact ⟨[],rfl,fun other => by simp [readRaw]⟩
  | case3 input closed ih =>
    obtain ⟨⟨inner,after⟩,found,same⟩ := Option.map_eq_some_iff.mp read
    cases same
    obtain ⟨text,rfl,again⟩ := ih found
    refine ⟨'"' :: text,rfl,fun other => ?_⟩
    have still := isPrefixOf_append (List.replicate hashes '#')
      (text ++ '"' :: List.replicate hashes '#') other rest (by simp; omega)
    simp only [List.append_assoc,List.cons_append] at still
    rw [List.cons_append,readRaw,still,if_neg closed,again other]
    rfl
  | case4 input ih =>
    obtain ⟨⟨inner,after⟩,found,same⟩ := Option.map_eq_some_iff.mp read
    cases same
    obtain ⟨text,rfl,again⟩ := ih found
    exact ⟨'\r' :: '\n' :: text,rfl,fun other => by simp [readRaw,again other]⟩
  | case5 => cases read
  | case6 c input quote line plain ih =>
    obtain ⟨⟨inner,after⟩,found,same⟩ := Option.map_eq_some_iff.mp read
    cases same
    obtain ⟨text,rfl,again⟩ := ih found
    refine ⟨c :: text,rfl,fun other => ?_⟩
    have noReturn : c ≠ '\r' := by
      rintro rfl
      simp at plain
    rw [List.cons_append,readRaw.eq_4 _ _ _ _ quote fun _ ends => absurd ends noReturn,if_neg plain,
      again other]
    rfl

private theorem readHashed_hashes (hashes : Nat) (few : hashes ≤ 255) (text : List Char) :
    readHashed kind (List.replicate hashes '#' ++ '"' :: text) = readRaw kind hashes text := by
  unfold readHashed
  simp [few]

private theorem readHashed_opens {found : List Char × List Char}
    (read : readHashed kind input = some found) : ∃ hashes text, hashes ≤ 255 ∧
      input = List.replicate hashes '#' ++ '"' :: text ∧ readRaw kind hashes text = some found := by
  have whole := List.takeWhile_append_dropWhile (p := (· == '#')) (l := input)
  have marks : input.takeWhile (· == '#') =
      List.replicate (input.takeWhile (· == '#')).length '#' := by
    refine List.eq_replicate_iff.mpr ⟨rfl,fun c member => ?_⟩
    simpa using List.mem_takeWhile_imp member
  have after : input.drop (input.takeWhile (· == '#')).length = input.dropWhile (· == '#') := by
    have cut : (input.takeWhile (· == '#') ++ input.dropWhile (· == '#')).drop
        (input.takeWhile (· == '#')).length = input.dropWhile (· == '#') := List.drop_left
    rwa [whole] at cut
  simp only [readHashed,after] at read
  generalize (input.takeWhile (· == '#')).length = hashes at *
  split at read
  case h_2 => cases read
  case h_1 text dropped =>
    split at read
    case isFalse => cases read
    case isTrue few =>
      rw [marks,dropped] at whole
      exact ⟨hashes,text,few,whole.symm,read⟩

private theorem readHashed_split (read : readHashed kind input = some (body,rest)) :
    ∃ text last, input = text ++ last :: rest ∧ last ∈ ['"','#'] ∧
      ∀ other, readHashed kind (text ++ last :: other) = some (body,other) := by
  obtain ⟨hashes,text,few,rfl,raw⟩ := readHashed_opens read
  obtain ⟨inner,rfl,again⟩ := readRaw_split raw
  have closed (other : List Char) : readHashed kind (List.replicate hashes '#' ++ '"' ::
      (inner ++ '"' :: (List.replicate hashes '#' ++ other))) = some (body,other) := by
    rw [readHashed_hashes hashes few,again other]
  cases hashes with
  | zero => exact ⟨'"' :: inner,'"',rfl,by simp,closed⟩
  | succ hashes =>
    refine ⟨List.replicate (hashes + 1) '#' ++ '"' :: (inner ++ '"' :: List.replicate hashes '#'),'#',
      ?_,by simp,fun other => ?_⟩
    · simp [List.replicate_succ']
    · rw [← closed other]
      simp [List.replicate_succ']

end StringLiteral

namespace Lexer

def Replaces (other rest : List Char) : Prop := Breaks other ∨ other.head? = rest.head?

private theorem Replaces.scan_none {other rest : List Char} (replaces : Replaces other rest)
    (nameless : Ident.scan rest = none) : Ident.scan other = none := by
  rcases replaces with breaks | same
  · exact scan_of_breaks breaks
  · cases other with
    | nil => rfl
    | cons c other =>
      obtain ⟨rest,rfl⟩ := List.head?_eq_some_iff.mp same.symm
      simpa [Ident.scan] using nameless

private theorem Replaces.breaks {other rest : List Char} (replaces : Replaces other rest)
    (stops : Breaks rest) : Breaks other := by
  rcases replaces with breaks | same
  · exact breaks
  · rwa [Breaks,same]

/-- A suffix is made of letters, and stays the same when another text comes after it. -/
private theorem afterSuffix_split (input : List Char) : ∃ text, input = text ++ afterSuffix input ∧
    (∀ c ∈ text, Text.isIdentifierContinue c = true) ∧
    ∀ other, Replaces other (afterSuffix input) → afterSuffix (text ++ other) = other := by
  unfold afterSuffix
  cases read : Ident.scan input with
  | none =>
    refine ⟨[],rfl,nofun,fun other replaces => ?_⟩
    rw [List.nil_append,replaces.scan_none read]
  | some found =>
    obtain ⟨name,rest⟩ := found
    cases input with
    | nil => cases read
    | cons c input =>
      simp only [Ident.scan] at read
      split at read
      case isFalse => cases read
      case isTrue start =>
        cases read
        have letters : ∀ d ∈ c :: input.takeWhile Text.isIdentifierContinue,
            Text.isIdentifierContinue d = true := by
          intro d member
          rcases List.mem_cons.mp member with rfl | inside
          · exact Text.isIdentifierContinue_of_start d start
          · exact List.mem_takeWhile_imp inside
        refine ⟨c :: input.takeWhile Text.isIdentifierContinue,by simp,letters,
          fun other replaces => ?_⟩
        have breaks := replaces.breaks (breaks_dropWhile input)
        have inside := fun d member => letters d (List.mem_cons_of_mem c member)
        rw [List.cons_append,Ident.scan,if_pos start,List.dropWhile_append_of_pos inside,
          dropWhile_of_breaks breaks]

theorem afterCharacter_split {kind : StringLiteral.Kind} {input rest : List Char}
    (read : afterCharacter kind input = some rest) :
    ∃ text after, input = text ++ '\'' :: after ∧ rest = afterSuffix after ∧
      ∀ other, afterCharacter kind (text ++ '\'' :: other) = some (afterSuffix other) := by
  have closing {after : List Char} (closed : afterQuote after = some rest) :
      ∃ left, after = '\'' :: left ∧ rest = afterSuffix left := by
    unfold afterQuote at closed
    split at closed
    case h_1 left => exact ⟨left,rfl,(Option.some.inj closed).symm⟩
    case h_2 => cases closed
  unfold afterCharacter at read
  simp only at read
  split at read
  case h_1 escape =>
    obtain ⟨after,found,closed⟩ := Option.bind_eq_some_iff.mp read
    obtain ⟨⟨char,_⟩,escaped,rfl⟩ := Option.map_eq_some_iff.mp found
    obtain ⟨left,rfl,rfl⟩ := closing closed
    obtain ⟨text,rfl,again⟩ := StringLiteral.readEscape_split escaped
    exact ⟨'\\' :: text,left,rfl,rfl,fun other => by simp [afterCharacter,afterQuote,again]⟩
  case h_2 c more _ =>
    split at read
    case isFalse => cases read
    case isTrue admitted =>
      obtain ⟨left,rfl,rfl⟩ := closing read
      exact ⟨[c],left,rfl,rfl,fun other => by simp [afterCharacter,afterQuote,admitted]⟩
  case h_3 => cases read

private theorem not_weak_of_continue {c : Char} (letter : Text.isIdentifierContinue c = true) :
    isWeak c = false := by
  by_contra weak
  have inert := inert_of_weak c (by simpa using weak)
  rw [isIdentifierContinue_of_inert c inert] at letter
  cases letter

def Closed (text : List Char) : Prop :=
  ∃ inside mark letters, text = inside ++ mark :: letters ∧ mark ∈ ['"','\'','#'] ∧
    ∀ c ∈ letters, Text.isIdentifierContinue c = true

theorem Closed.last {text : List Char} (closed : Closed text) :
    ∃ init last, text = init ++ [last] ∧ isWeak last = false := by
  obtain ⟨inside,mark,letters,rfl,quote,each⟩ := closed
  rcases List.eq_nil_or_concat letters with rfl | ⟨more,letter,rfl⟩
  · refine ⟨inside,mark,rfl,?_⟩
    simp only [List.mem_cons,List.not_mem_nil,or_false] at quote
    rcases quote with rfl | rfl | rfl <;> rfl
  · exact ⟨inside ++ mark :: more,letter,by simp,not_weak_of_continue (each letter (by simp))⟩

/-- A reader takes the text of a quoted literal off the input, and takes as much when another text
comes after it. -/
def Takes (read : List Char → Option (List Char)) (input rest : List Char) : Prop :=
  ∃ text, input = text ++ rest ∧ Closed text ∧
    ∀ other, Replaces other rest → read (text ++ other) = some other

/-- A closing quote and the suffix after it. -/
private theorem takes_suffix {read : List Char → Option (List Char)} {text after : List Char} {last : Char}
    (quote : last ∈ ['"','\'','#'])
    (closed : ∀ other, read (text ++ last :: other) = some (afterSuffix other)) :
    Takes read (text ++ last :: after) (afterSuffix after) := by
  obtain ⟨suffix,whole,letters,again⟩ := afterSuffix_split after
  refine ⟨text ++ last :: suffix,?_,⟨text,last,suffix,rfl,quote,letters⟩,fun other replaces => ?_⟩
  · rw [List.append_assoc,List.cons_append,← whole]
  · rw [List.append_assoc,List.cons_append,closed,again other replaces]

section

variable {kind : StringLiteral.Kind} {input rest : List Char}

private theorem takes_cooked (opener : List Char) (opens : ∀ text, afterQuoted (opener ++ text) =
      (StringLiteral.readCooked kind .plain text).map fun (_,after) => afterSuffix after)
    (read : afterQuoted (opener ++ input) = some rest) :
    Takes afterQuoted (opener ++ input) rest := by
  rw [opens] at read
  obtain ⟨⟨body,after⟩,found,rfl⟩ := Option.map_eq_some_iff.mp read
  obtain ⟨text,rfl,again⟩ := StringLiteral.readCooked_split found
  rw [← List.append_assoc]
  refine takes_suffix (by simp) fun other => ?_
  rw [List.append_assoc,opens,again]
  rfl

private theorem takes_raw (opener : List Char) (opens : ∀ text, afterQuoted (opener ++ text) =
      (StringLiteral.readHashed kind text).map fun (_,after) => afterSuffix after)
    (read : afterQuoted (opener ++ input) = some rest) :
    Takes afterQuoted (opener ++ input) rest := by
  rw [opens] at read
  obtain ⟨⟨body,after⟩,found,rfl⟩ := Option.map_eq_some_iff.mp read
  obtain ⟨text,last,rfl,mark,again⟩ := StringLiteral.readHashed_split found
  have quote : last ∈ ['"','\'','#'] := by
    simp only [List.mem_cons,List.not_mem_nil,or_false] at mark
    rcases mark with rfl | rfl <;> simp
  rw [← List.append_assoc]
  refine takes_suffix quote fun other => ?_
  rw [List.append_assoc,opens,again]
  rfl

private theorem takes_character (opener : List Char)
    (opens : ∀ text, afterQuoted (opener ++ text) = afterCharacter kind text)
    (read : afterQuoted (opener ++ input) = some rest) :
    Takes afterQuoted (opener ++ input) rest := by
  rw [opens] at read
  obtain ⟨text,after,rfl,rfl,again⟩ := afterCharacter_split read
  rw [← List.append_assoc]
  refine takes_suffix (by simp) fun other => ?_
  rw [List.append_assoc,opens,again]

/-- The openers of quoted literals, one by one. -/
theorem takes_quoted (read : afterQuoted input = some rest) : Takes afterQuoted input rest := by
  have opened := read
  unfold afterQuoted at opened
  split at opened
  case h_1 => exact takes_cooked ['"'] (fun _ => rfl) read
  case h_2 => exact takes_cooked ['b','"'] (fun _ => rfl) read
  case h_3 => exact takes_cooked ['c','"'] (fun _ => rfl) read
  case h_4 => exact takes_character ['b','\''] (fun _ => rfl) read
  case h_5 => exact takes_raw ['b','r'] (fun _ => rfl) read
  case h_6 => exact takes_raw ['c','r'] (fun _ => rfl) read
  case h_7 => exact takes_raw ['r'] (fun _ => rfl) read
  case h_8 => exact takes_character ['\''] (fun _ => rfl) read
  case h_9 => cases opened

theorem head_of_quoted {c : Char} (read : afterQuoted (c :: input) = some rest) :
    c ∈ ['"','b','c','r','\''] := by
  unfold afterQuoted at read
  split at read <;> simp_all

theorem legible_quoted {text tail : List Char} (read : afterQuoted (text ++ tail) = some tail) :
    (Token.literal (String.ofList text)).Legible := by
  obtain ⟨taken,whole,closed,again⟩ := takes_quoted read
  obtain rfl := List.append_cancel_right whole
  intro rest apart
  have found : afterQuoted (text ++ rest) = some rest := again rest (.inl apart.breaks)
  cases text with
  | nil =>
    obtain ⟨_,_,empty,_⟩ := closed.last
    simp at empty
  | cons c text =>
    have opener := head_of_quoted read
    have solid : isGap c = false ∧ c ≠ '/' ∧ delimiter? c = none := by
      simp only [List.mem_cons,List.not_mem_nil,or_false] at opener
      rcases opener with rfl | rfl | rfl | rfl | rfl <;> decide
    rw [String.toList_ofList,List.cons_append]
    refine step_of_literal solid.1 solid.2.1 solid.2.2 ?_
    exact literal_append (by rw [found]; rfl)

end

end Lexer

end CaseSynthesis
