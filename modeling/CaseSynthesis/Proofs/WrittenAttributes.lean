import CaseSynthesis.Proofs.Restoring

/-! Attributes and visibility, written out and read back. The grammar drops or moves a token here and
there in an expression, so that the value of an attribute has to be one that it keeps. -/

namespace CaseSynthesis

def Lexeme.unplaced (lexeme : Lexeme) : Lexeme := ⟨lexeme.token,.empty⟩

theorem Lexemes.unplaced_congr {first second : Lexemes} (same : first.tokens = second.tokens) :
    first.unplaced = second.unplaced := congrArg ofTokens same

namespace Grammar

open CaseSynthesis.Grammar.Parser

def Arguments.unplaced : Arguments → Arguments
  | none => none
  | angled empty tokens => angled empty tokens.unplaced
  | parenthesized tokens => parenthesized tokens.unplaced

def Segment.unplaced (segment : Segment) : Segment :=
  ⟨segment.separator.unplaced,segment.name.unplaced,segment.arguments.unplaced⟩

def Path.unplaced (path : Path) : Path := ⟨path.segments.map Segment.unplaced⟩

def AttributeInput.unplaced : AttributeInput → AttributeInput
  | empty => empty
  | list opening inside closing => list opening.unplaced inside.unplaced closing.unplaced
  | value equals tokens => value equals.unplaced tokens.unplaced

def Attribute.unplaced (attr : Attribute) : Attribute :=
  ⟨attr.inner,attr.opening.unplaced,attr.path.unplaced,attr.input.unplaced,attr.closing.unplaced⟩

/-! Paths of names. -/

structure Segment.Plain (segment : Segment) : Prop where
  named : opensPlainSegment [segment.name.unplaced] = true
  bare : segment.arguments = .none

inductive Path.Plain : Path → Prop
  | mk (first : Segment) (others : List Segment)
      (leading : Colons first.separator ∨ first.separator = []) (plain : first.Plain)
      (each : ∀ segment ∈ others, Colons segment.separator ∧ segment.Plain) : Plain ⟨first :: others⟩

private theorem opensPlainSegment_head (lexeme : Lexeme) (rest : Lexemes) :
    opensPlainSegment (lexeme :: rest) = opensPlainSegment [lexeme.unplaced] := by
  obtain ⟨token,span⟩ := lexeme
  cases token <;> rfl

private theorem exists_ident {lexeme : Lexeme} (named : opensPlainSegment [lexeme.unplaced] = true) :
    ∃ ident, lexeme.token = .ident ident := by
  obtain ⟨token,span⟩ := lexeme
  cases token with
  | ident ident => exact ⟨ident,rfl⟩
  | _ => cases named

def plainRound (segments : List Segment) : Parser (List Segment × Bool) := do
  if ← peek (.punct "::") then
    let separator ← punct "::"
    return (segments ++ [⟨separator,← take opensPlainSegment,.none⟩],true)
  return (segments,false)

private theorem plainPath_eq : plainPath = (do
    let leading ← optionalPunct "::"
    let first ← take opensPlainSegment
    let segments ← loop plainRound [⟨leading,first,.none⟩]
    return ⟨segments⟩) := rfl

private theorem gives_plainName : Gives (take opensPlainSegment) fun lexeme =>
    opensPlainSegment [lexeme.unplaced] = true :=
  gives_take fun lexeme rest seen => by rwa [opensPlainSegment_head] at seen

private theorem gives_plainPath : Gives plainPath Path.Plain := by
  have leading : Gives (optionalPunct "::") fun tokens => Colons tokens ∨ tokens = [] :=
    .optionally (gives_colons.imp fun _ colons => .inl colons) (.inr rfl)
  rw [plainPath_eq]
  refine .bind leading fun leading colons => .bind gives_plainName fun first named => ?_
  refine .bind (.loop (Q := fun segments => Path.Plain ⟨segments⟩) ?_ fun segments plain => ?_)
    fun segments plain => .pure plain
  · exact .mk _ [] colons ⟨named,rfl⟩ nofun
  · refine .peekIf (.bind gives_colons fun separator colons => .bind gives_plainName
      fun name named => ?_) (.pure plain)
    obtain ⟨first,others,leading,plain,each⟩ := plain
    have longer : Path.Plain ⟨first :: (others ++ [⟨separator,name,.none⟩])⟩ := by
      refine .mk first _ leading plain ?_
      exact List.forall_mem_append.mpr ⟨each,List.forall_mem_singleton.mpr ⟨colons,named,rfl⟩⟩
    exact .pure longer

private theorem Path.tokens_of_unplaced {first second : Path} (same : first.unplaced = second.unplaced) :
    first.tokens.tokens = second.tokens.tokens := by
  have segment (segment : Segment) : segment.unplaced.tokens = segment.tokens.unplaced := by
    obtain ⟨separator,name,arguments⟩ := segment
    cases arguments <;> simp [Segment.unplaced,Segment.tokens,Arguments.unplaced,Arguments.tokens,
      Lexemes.unplaced,Lexemes.ofTokens,Lexemes.tokens,Lexeme.unplaced]
  have whole (path : Path) : path.unplaced.tokens = path.tokens.unplaced := by
    simp only [Path.unplaced,Path.tokens,List.flatMap_map,segment]
    simp [Lexemes.unplaced,Lexemes.ofTokens,Lexemes.tokens,List.map_flatMap]
  refine Lexemes.tokens_of_unplaced ?_
  rw [← whole,← whole,same]

def EndsPath (rest : Lexemes) : Prop := View.punct "::" rest = false

private theorem Segment.Plain.tokens_eq {segment : Segment} (plain : segment.Plain) :
    segment.tokens.tokens = segment.separator.tokens ++ [segment.name.token] := by
  rw [Segment.tokens,plain.bare]
  simp [Arguments.tokens,Lexemes.tokens]

private theorem Segment.Plain.unplaced_eq {segment : Segment} (plain : segment.Plain) {separator : Lexemes}
    {name : Lexeme} (colons : separator.tokens = segment.separator.tokens)
    (named : name.token = segment.name.token) :
    Segment.unplaced ⟨separator,name,.none⟩ = segment.unplaced := by
  rw [Segment.unplaced,Segment.unplaced,plain.bare,Lexemes.unplaced_congr colons,Lexeme.unplaced,named]
  rfl

private theorem restores_plainName {depth : Nat} {follows : Lexemes → Prop} {lexeme : Lexeme}
    (named : opensPlainSegment [lexeme.unplaced] = true) :
    Restores depth (take opensPlainSegment) [lexeme.token] (fun found => found.token = lexeme.token)
      follows := by
  obtain ⟨ident,token⟩ := exists_ident named
  refine .take (fun span rest => ?_) (by rw [token]; rfl)
  rw [opensPlainSegment_head]
  exact named

private theorem restores_segments {depth : Nat} (others before : List Segment)
    (each : ∀ segment ∈ others, Colons segment.separator ∧ segment.Plain) :
    Restores depth (loop plainRound before) (Lexemes.tokens (others.flatMap Segment.tokens))
      (fun found => found.map Segment.unplaced = (before ++ others).map Segment.unplaced) EndsPath := by
  have split : Lexemes.tokens (others.flatMap Segment.tokens) =
      others.flatMap fun segment => segment.tokens.tokens := List.map_flatMap
  rw [split]
  refine .rounds others before (fun segment member before => ?_) (fun segment member => ?_) fun before => ?_
  · obtain ⟨colons,plain⟩ := each segment member
    rw [plain.tokens_eq,colons]
    refine .peek true ?_ (.bind (.punct "::") fun separator found =>
      .last (restores_plainName plain.named) fun name named => ⟨?_,rfl⟩)
    · intro output rest same _
      obtain ⟨mark,more,rfl,spelled,_⟩ := split_tokens same
      rw [List.append_assoc]
      exact (chars_signTokens "::".toList mark _ spelled).1
    · simp [plain.unplaced_eq (found.trans colons.symm) named]
  · rw [(each segment member).2.tokens_eq]
    simp
  · refine .peek false ?_ (.pure ⟨rfl,rfl⟩)
    intro output rest same ended
    obtain rfl : output = [] := List.map_eq_nil_iff.mp same
    exact ended

private theorem restores_plainPath {depth : Nat} {path : Path} (plain : path.Plain) :
    Restores depth plainPath path.tokens.tokens (fun found => found.unplaced = path.unplaced)
      EndsPath := by
  obtain ⟨first,others,leading,plain,each⟩ := plain
  obtain ⟨ident,token⟩ := exists_ident plain.named
  have split : (Path.tokens ⟨first :: others⟩).tokens = first.separator.tokens ++
      ([first.name.token] ++ Lexemes.tokens (others.flatMap Segment.tokens)) := by
    rw [Path.tokens,List.flatMap_cons,tokens_append,plain.tokens_eq]
    simp
  have colons : Restores depth (optionalPunct "::") first.separator.tokens
      (fun tokens => tokens.tokens = first.separator.tokens) EndsPath := by
    rcases leading with colons | none
    · rw [colons]
      refine .peek true (fun output rest same _ => ?_) (.punct "::")
      exact (chars_signTokens "::".toList output rest same).1
    · rw [none]
      refine .peek false (fun output rest same ended => ?_) (.pure rfl)
      obtain rfl : output = [] := List.map_eq_nil_iff.mp same
      exact ended
  rw [plainPath_eq,split]
  refine .bindBefore colons ?_ fun separator found => .bind (restores_plainName plain.named)
    fun name named => .last (restores_segments others _ each) fun segments same => ?_
  · intro output rest same _
    obtain ⟨⟨_,span⟩,more,rfl,rfl,_⟩ := List.map_eq_cons_iff.mp same
    simp [EndsPath,View.punct,View.chars,token]
  · rw [Path.unplaced,same,Path.unplaced]
    simp [plain.unplaced_eq found named]

/-! Attributes. -/

inductive AttributeInput.Formed : AttributeInput → Prop
  | empty : Formed .empty
  | list {opening closing : Lexeme} {inside : Lexemes} (delimiter : Delimiter)
      (opens : opening.token = .opening delimiter) (closes : Closes 0 (inside ++ [closing])) :
      Formed (.list [opening] inside [closing])
  | value {equals tokens : Lexemes} (mark : equals.tokens = [.punct '=' false]) (sound : Sound tokens) :
      Formed (.value equals tokens)

structure Attribute.Formed (attr : Attribute) : Prop where
  outer : attr.inner = false
  opening : attr.opening.tokens = [.punct '#' false,.opening .bracket]
  path : attr.path.Plain ∨
    ∃ name, attr.path = ⟨[⟨[],name,.none⟩]⟩ ∧ name.token = .ident ⟨"unsafe",false⟩
  input : attr.input.Formed
  closing : attr.closing.tokens = [.closing .bracket]

private theorem yields_anyGroup : Yields anyGroup fun tokens => ∃ opening delimiter inside closing,
    opening.token = .opening delimiter ∧ tokens = opening :: (inside ++ [closing]) ∧
      Closes 0 (inside ++ [closing]) := by
  intro input tokens rest sound read
  cases input with
  | nil => cases read
  | cons lexeme more =>
    obtain ⟨token,span⟩ := lexeme
    by_cases opens : ∃ delimiter, token = .opening delimiter
    · obtain ⟨delimiter,rfl⟩ := opens
      obtain ⟨pending,closed⟩ := sound.balanced
      obtain ⟨chunk,after,rfl,closes,_⟩ := exists_group more delimiter span pending closed
      rw [run_anyGroup _ _ _ _ closes] at read
      cases read
      have apart : Sound ((⟨.opening delimiter,span⟩ :: chunk) ++ rest) := sound
      rcases chunk.eq_nil_or_concat with rfl | ⟨inside,closing,rfl⟩
      · cases closes
      · rw [List.concat_eq_append] at closes ⊢
        exact ⟨apart.rest,_,delimiter,inside,closing,rfl,rfl,closes⟩
    · rw [run_anyGroup_none opens] at read
      cases read

private theorem Kin.sound {c : Comparison} {first second : Lexemes} (kin : Kin c first second) :
    Sound first := by
  refine ⟨kin.legible,kin.unslashed,[],?_⟩
  have closed := kin.enclosed [] []
  rwa [List.append_nil] at closed

theorem yields_expr (depth : Nat) :
    Yields ((nested depth).expr true) fun expr => Sound expr.tokens := by
  refine (Yields.of_parallel ((rulesKin_alone depth).expr .angled true)).imp ?_
  rintro expr ⟨_,kin⟩
  exact kin.tokens.sound

private theorem yields_attributeInput (depth : Nat) :
    Yields (attributeInput (nested depth)) AttributeInput.Formed := by
  refine .peek fun grouped => .ite (.bind yields_anyGroup ?_)
    (.peek fun valued => .ite ?_ (.pure .empty))
  · rintro _ ⟨opening,delimiter,inside,closing,opens,rfl,closes⟩
    refine .pure ?_
    have formed := AttributeInput.Formed.list delimiter opens closes
    simpa using formed
  · refine .bind (.punct "=") fun equals mark => .peek fun ahead => .bind .require fun _ _ => ?_
    exact .bind (yields_expr depth) fun value sound => .pure (.value mark sound)

private theorem yields_attribute (depth : Nat) :
    Yields (attribute? (nested depth) false) Attribute.Formed := by
  rw [attribute_eq]
  refine .bind (.punct "#") fun hash marked => .given ?_
  refine .bind (.enclosed .bracket (Q := fun body => (body.1.Plain ∨
    ∃ name, body.1 = ⟨[⟨[],name,.none⟩]⟩ ∧ name.token = .ident ⟨"unsafe",false⟩) ∧ body.2.Formed) ?_)
    fun found parts => ?_
  · refine .nextSeen (P := fun name => name.token = .ident ⟨"unsafe",false⟩) ?_
      (fun name unsafe' => ?_) ?_
    · exact fun lexeme rest seen => by simpa [View.keyword] using seen
    · exact .given (.bind (yields_attributeInput depth) fun input formed =>
        .pure ⟨.inr ⟨name,rfl,unsafe'⟩,formed⟩)
    · refine .bind ((Yields.of_parallel parallel_plainPath).and gives_plainPath)
        fun path read => ?_
      exact .bind (yields_attributeInput depth) fun input formed => .pure ⟨.inl read.2,formed⟩
  · obtain ⟨opening,⟨path,input⟩,closing⟩ := parts
    refine .pure ⟨rfl,?_,path,input,closing⟩
    have hash : hash.tokens = [.punct '#' false] := marked
    rw [List.append_nil,tokens_append,hash,opening]
    rfl

theorem yields_outerAttributes (depth : Nat) :
    Yields (outerAttributes (nested depth)) fun attributes => ∀ attr ∈ attributes, attr.Formed :=
  .many (yields_attribute depth)

/-- An expression that is read from the tokens it is written with. -/
def Expr.Stable (expr : Expr) : Prop :=
  ∃ again, parseExpr expr.tokens = some again ∧ again.unplaced = expr.unplaced

def AttributeInput.Stable : AttributeInput → Prop
  | .value _ tokens => View.punct "#" tokens = false ∧
      ∃ again, parseExpr tokens = some again ∧ again.tokens.tokens = tokens.tokens
  | _ => True

private theorem Closes.of_tokens {depth : Nat} {chunk other : Lexemes} (closes : Closes depth chunk)
    (same : other.tokens = chunk.tokens) : Closes depth other := by
  refine closes.alike (c := .alone) ?_
  rw [Lexemes.tokens,Lexemes.tokens,← List.forall₂_eq_eq_eq,List.forall₂_map_left_iff,
    List.forall₂_map_right_iff] at same
  exact same.flip.imp fun _ _ same => .inl same.symm

/-- What the head of a stream is decides about a sign of one character. -/
private theorem punct_head (sign : Char) {output other rest : Lexemes} (same : output.tokens = other.tokens)
    (unseen : View.chars [sign] other = false) (ended : Closing .bracket rest) :
    View.chars [sign] (output ++ rest) = false := by
  cases other with
  | nil =>
    obtain rfl : output = [] := List.map_eq_nil_iff.mp same
    obtain ⟨span,more,rfl⟩ := ended
    rfl
  | cons lexeme other =>
    obtain ⟨⟨token,span⟩,more,rfl,rfl,_⟩ := List.map_eq_cons_iff.mp same
    obtain ⟨token,span'⟩ := lexeme
    cases token <;> exact unseen

private theorem restores_attributeInput {depth : Nat} {input : AttributeInput} (formed : input.Formed)
    (stable : input.Stable) :
    Restores depth (attributeInput (nested depth)) input.tokens.tokens
      (fun found => found.unplaced = input.unplaced) (Closing .bracket) := by
  cases formed with
  | empty =>
    refine .peek false ?_ (.peek false ?_ (.pure rfl))
    all_goals
      rintro output rest same ⟨span,more,rfl⟩
      obtain rfl : output = [] := List.map_eq_nil_iff.mp same
      rfl
  | @list opening closing inside delimiter opens closes =>
    obtain ⟨token,start⟩ := opening
    cases opens
    intro output rest same ended short
    obtain ⟨⟨token,span⟩,more,rfl,rfl,others⟩ := List.map_eq_cons_iff.mp same
    have others : Lexemes.tokens more = inside.tokens ++ [closing.token] := by
      rw [Lexemes.tokens,others]
      simp [Lexemes.tokens]
    obtain ⟨inner,last,rfl,within,closed⟩ := split_tokens others
    obtain ⟨⟨token,stop⟩,rfl,rfl⟩ := List.map_eq_singleton_iff.mp closed
    have closes' : Closes 0 (inner ++ [⟨closing.token,stop⟩]) := by
      refine closes.of_tokens ?_
      rw [tokens_append,tokens_append,within]
      rfl
    have group := run_anyGroup span delimiter (inner ++ [⟨closing.token,stop⟩]) rest closes'
    have seen : opensGroup (⟨.opening delimiter,span⟩ :: (inner ++ [⟨closing.token,stop⟩] ++ rest)) =
        true := by cases delimiter <;> rfl
    refine ⟨.list [⟨.opening delimiter,span⟩] inner [⟨closing.token,stop⟩],?_,?_⟩
    · rw [attributeInput,List.cons_append,run_bind,run_peek,Option.bind_some,seen,run_ite,if_pos rfl,
        run_bind,group]
      simp
    · simp only [AttributeInput.unplaced,Lexemes.unplaced_congr within]
      rfl
  | @value equals tokens mark sound =>
    obtain ⟨bare,again,parsed,kept⟩ := stable
    have split : (AttributeInput.tokens (.value equals tokens)).tokens =
        signTokens "=".toList ++ tokens.tokens := by
      rw [AttributeInput.tokens,tokens_append,mark]
      rfl
    have read : Restores depth ((nested depth).expr true) tokens.tokens
        (fun found => found.tokens.tokens = tokens.tokens) (Closing .bracket) := by
      rintro output _ same ⟨span,rest,rfl⟩ short
      obtain ⟨found,ran,placed⟩ := run_embedded sound parsed same (.closing .bracket span rest) short
      refine ⟨found,ran,?_⟩
      rw [← kept]
      exact Lexemes.tokens_of_unplaced (congrArg Expr.tokens placed)
    rw [split]
    refine .peek false ?_ (.peek true ?_ (.bind (.punct "=") fun found marked =>
      .peek false ?_ (.passed (.last read fun value same => ?_))))
    · intro output rest same ended
      obtain ⟨⟨_,span⟩,more,rfl,rfl,_⟩ := List.map_eq_cons_iff.mp same
      rfl
    · intro output rest same ended
      obtain ⟨⟨_,span⟩,more,rfl,rfl,_⟩ := List.map_eq_cons_iff.mp same
      rfl
    · intro output rest same ended
      have unseen : View.punct "#" (output ++ rest) = false := punct_head '#' same bare ended
      simp [opensAttribute,View.all,unseen]
    · simp only [AttributeInput.unplaced,Lexemes.unplaced_congr same,
        Lexemes.unplaced_congr (marked.trans mark.symm)]

private theorem endsPath_input {input : AttributeInput} (formed : input.Formed) {output rest : Lexemes}
    (same : output.tokens = input.tokens.tokens) (ended : Closing .bracket rest) :
    EndsPath (output ++ rest) := by
  cases formed with
  | empty =>
    obtain rfl : output = [] := List.map_eq_nil_iff.mp same
    obtain ⟨span,more,rfl⟩ := ended
    rfl
  | @list opening closing inside delimiter opens closes =>
    obtain ⟨token,start⟩ := opening
    cases opens
    obtain ⟨⟨_,span⟩,more,rfl,rfl,_⟩ := List.map_eq_cons_iff.mp same
    rfl
  | @value equals tokens mark sound =>
    rw [AttributeInput.tokens,tokens_append,mark] at same
    obtain ⟨⟨_,span⟩,more,rfl,rfl,_⟩ := List.map_eq_cons_iff.mp same
    rfl

private theorem Path.Plain.not_unsafe {path : Path} (plain : path.Plain) {output rest : Lexemes}
    {more : List Token} (same : output.tokens = path.tokens.tokens ++ more) :
    View.keyword "unsafe" (output ++ rest) = false := by
  obtain ⟨⟨separator,name,arguments⟩,others,leading,plain,_⟩ := plain
  rw [Path.tokens,List.flatMap_cons,tokens_append,plain.tokens_eq] at same
  rcases leading with colons | rfl
  · rw [colons] at same
    obtain ⟨⟨_,span⟩,_,rfl,rfl,_⟩ := List.map_eq_cons_iff.mp same
    rfl
  · obtain ⟨⟨_,span⟩,_,rfl,rfl,_⟩ := List.map_eq_cons_iff.mp same
    have named := plain.named
    by_contra seen
    have token : name.token = .ident ⟨"unsafe",false⟩ := by simpa [View.keyword] using seen
    rw [Lexeme.unplaced,token] at named
    contradiction

private theorem restores_attribute {depth : Nat} {attr : Attribute} (formed : attr.Formed)
    (stable : attr.input.Stable) :
    Restores depth (attribute? (nested depth) false) attr.tokens.tokens
      (fun found => found.unplaced = attr.unplaced) Anything := by
  obtain ⟨inner,opening,path,input,closing⟩ := attr
  obtain ⟨outer,opens,formed,given,closes⟩ := formed
  cases outer
  let inside : List Token := path.tokens.tokens ++ input.tokens.tokens
  have split : (Attribute.tokens ⟨false,opening,path,input,closing⟩).tokens = signTokens "#".toList ++
      (.opening .bracket :: (inside ++ [.closing .bracket])) := by
    simp only [Attribute.tokens,tokens_append,opens,closes,inside]
    simp [signTokens]
  have read : Restores depth (attributeInput (nested depth)) input.tokens.tokens _ _ :=
    restores_attributeInput given stable
  have body : Restores depth (do
      let path ← if ← peek (.keyword "unsafe") then pure ⟨[⟨[],← next,.none⟩]⟩ else plainPath
      return (path,← attributeInput (nested depth))) inside
      (fun found => found.1.unplaced = path.unplaced ∧ found.2.unplaced = input.unplaced)
      (Closing .bracket) := by
    rcases formed with plain | ⟨name,rfl,token⟩
    · refine .peek false (fun output rest same _ => plain.not_unsafe same) ?_
      exact .bindBefore (restores_plainPath plain)
        (fun output rest same ended => endsPath_input given same ended)
        fun path' placed => .last read fun input' placed' => ⟨placed,placed'⟩
    · have word : Restores depth next [name.token] (fun found => found.token = name.token)
          Anything := by
        intro output rest same _ _
        obtain ⟨⟨_,span⟩,rfl,rfl⟩ := List.map_eq_singleton_iff.mp same
        exact ⟨⟨name.token,span⟩,next_plain _ _ (by rw [token]; rfl),rfl⟩
      refine .peek true ?_ (.bind word fun name' same => .given ?_)
      · intro output rest same _
        obtain ⟨⟨_,span⟩,more,rfl,rfl,_⟩ := List.map_eq_cons_iff.mp same
        simp [View.keyword,token]
      · refine .last read fun input' placed => ⟨?_,placed⟩
        simp [Path.unplaced,Segment.unplaced,Lexeme.unplaced,same]
  rw [attribute_eq,split]
  refine .bind (.punct "#") fun hash marked => .given ?_
  refine .last (.enclosed .bracket body) fun found parts => ?_
  obtain ⟨opened,⟨same,same'⟩,closed⟩ := parts
  have lead : (hash ++ [] ++ found.1).tokens = opening.tokens := by
    rw [List.append_nil,tokens_append,marked,opened,opens]
    rfl
  simp only [Attribute.unplaced,Lexemes.unplaced_congr lead,same,same',
    Lexemes.unplaced_congr (closed.trans closes.symm)]

theorem Attribute.Formed.opens {attr : Attribute} (formed : attr.Formed) {output : Lexemes}
    {more : List Token} (rest : Lexemes) (same : output.tokens = attr.tokens.tokens ++ more) :
    ∃ span others, output ++ rest = ⟨.punct '#' false,span⟩ :: others := by
  rw [Attribute.tokens,tokens_append,tokens_append,tokens_append,formed.opening] at same
  obtain ⟨⟨_,span⟩,others,rfl,rfl,_⟩ := List.map_eq_cons_iff.mp same
  exact ⟨span,others ++ rest,rfl⟩

def attributeRound (rules : Rules) (attributes : List Attribute) : Parser (List Attribute × Bool) := do
  if ← peek (.punct "#") then return (attributes ++ [← attribute? rules false],true)
  else return (attributes,false)

private theorem outerAttributes_eq (rules : Rules) :
    outerAttributes rules = loop (attributeRound rules) [] := rfl

theorem restores_outerAttributes {depth : Nat} {attributes : List Attribute}
    (formed : ∀ attr ∈ attributes, attr.Formed) (stable : ∀ attr ∈ attributes, attr.input.Stable) :
    Restores depth (outerAttributes (nested depth))
      (Lexemes.tokens (attributes.flatMap Attribute.tokens))
      (fun found => found.map Attribute.unplaced = attributes.map Attribute.unplaced)
      (fun rest => View.punct "#" rest = false) := by
  have split : Lexemes.tokens (attributes.flatMap Attribute.tokens) =
      attributes.flatMap fun attr => attr.tokens.tokens := List.map_flatMap
  rw [split,outerAttributes_eq]
  refine .rounds attributes [] (fun attr member before => ?_) (fun attr member => ?_) fun before => ?_
  · refine .peek true ?_ (.last (restores_attribute (formed attr member) (stable attr member))
      fun found placed => ⟨by simp [placed],rfl⟩)
    intro output rest same _
    obtain ⟨span,others,stream⟩ := (formed attr member).opens rest (same.trans (List.append_nil _).symm)
    rw [stream]
    rfl
  · simp [Attribute.tokens,tokens_append,(formed attr member).opening]
  · refine .peek false ?_ (.pure ⟨rfl,rfl⟩)
    intro output rest same unmarked
    obtain rfl : output = [] := List.map_eq_nil_iff.mp same
    exact unmarked

/-! Visibility. -/

inductive Restricted : List Token → Prop
  | none : Restricted []
  | word {name : String} (listed : name ∈ ["crate","self","super"]) :
      Restricted [.opening .parenthesis,.ident ⟨name,false⟩,.closing .parenthesis]
  | path {path : Path} (plain : path.Plain) : Restricted (.opening .parenthesis ::
      (.ident ⟨"in",false⟩ :: path.tokens.tokens ++ [.closing .parenthesis]))

inductive Visible : List Token → Prop
  | none : Visible []
  | pub {restriction : List Token} (restricted : Restricted restriction) :
      Visible (.ident ⟨"pub",false⟩ :: restriction)

private theorem opensRestriction_head {lexeme : Lexeme} {rest : Lexemes}
    (opens : opensRestriction (lexeme :: rest) = true) :
    ∃ name ∈ ["crate","self","super"], lexeme.token = .ident ⟨name,false⟩ := by
  simpa [opensRestriction,View.any,View.keyword] using opens

private theorem gives_restriction : Gives restriction fun tokens => Restricted tokens.tokens := by
  intro input tokens rest read
  unfold restriction restrictionOf at read
  split at read
  case isTrue opens =>
    split at read
    case isTrue =>
      obtain ⟨opening,more,inner,closing,rfl,within,same⟩ := group_cases read
      cases more with
      | nil => cases within
      | cons lexeme more =>
        obtain ⟨name,listed,token⟩ := opensRestriction_head opens
        obtain ⟨⟨taken,after⟩,ran,whole⟩ := Option.bind_eq_some_iff.mp within
        obtain ⟨_,span⟩ := lexeme
        cases token
        cases ran
        cases whole
        rw [same]
        exact .word listed
    case isFalse =>
      cases read
      exact .none
  case isFalse =>
    split at read
    case isTrue =>
      obtain ⟨opening,more,inner,closing,rfl,within,same⟩ := group_cases read
      have inside : Gives (do return (← keyword "in") ++ (← plainPath).tokens) fun tokens =>
          ∃ path : Path, path.Plain ∧ tokens.tokens = .ident ⟨"in",false⟩ :: path.tokens.tokens :=
        .bind (gives_keyword "in") fun word marked => .bind gives_plainPath fun path plain =>
          .pure ⟨path,plain,by rw [tokens_append,marked]; rfl⟩
      obtain ⟨path,plain,spelled⟩ := inside _ _ _ within
      rw [same,spelled]
      exact .path plain
    case isFalse =>
      cases read
      exact .none

theorem gives_visibility : Gives visibility fun tokens => Visible tokens.tokens := by
  have restricted : Gives (optionally (.opening .parenthesis) restriction) fun tokens =>
      Restricted tokens.tokens := .optionally gives_restriction .none
  refine .optionally (.bind (gives_keyword "pub") fun word marked => .bind restricted
    fun restriction formed => .pure ?_) .none
  rw [tokens_append,marked]
  exact .pub formed

structure Unrestricted (rest : Lexemes) : Prop where
  word : View.keyword "pub" rest = false
  group : View.opening .parenthesis rest = false

private theorem restores_restriction {depth : Nat} {tokens : List Token} (restricted : Restricted tokens) :
    Restores depth (optionally (.opening .parenthesis) restriction) tokens
      (fun found => found.tokens = tokens) Unrestricted := by
  cases restricted with
  | none =>
    refine .peek false (fun output rest same free => ?_) (.pure rfl)
    obtain rfl : output = [] := List.map_eq_nil_iff.mp same
    exact free.group
  | @word name listed =>
    intro output rest same _ _
    obtain ⟨⟨_,opening⟩,more,rfl,rfl,others⟩ := List.map_eq_cons_iff.mp same
    obtain ⟨⟨_,span⟩,last,rfl,rfl,closed⟩ := List.map_eq_cons_iff.mp others
    obtain ⟨⟨_,closing⟩,rfl,rfl⟩ := List.map_eq_singleton_iff.mp closed
    let inside : Lexemes := ⟨.ident ⟨name,false⟩,span⟩ :: ⟨.closing .parenthesis,closing⟩ :: rest
    have opens : opensRestriction inside = true := by
      simpa [inside,opensRestriction,View.any,View.keyword] using listed
    have run : restrictionOf inside (⟨.opening .parenthesis,opening⟩ :: inside) =
        some ([⟨.opening .parenthesis,opening⟩,⟨.ident ⟨name,false⟩,span⟩,
          ⟨.closing .parenthesis,closing⟩],rest) := by
      rw [restrictionOf,if_pos opens]
      rfl
    exact ⟨_,run,rfl⟩
  | @path path plain =>
    have body : Restores depth (do return (← keyword "in") ++ (← plainPath).tokens)
        ([.ident ⟨"in",false⟩] ++ path.tokens.tokens)
        (fun found => found.tokens = .ident ⟨"in",false⟩ :: path.tokens.tokens)
        (Closing .parenthesis) := by
      refine .bind (.keyword "in") fun word marked =>
        .last ((restores_plainPath plain).before ?_) fun found placed => ?_
      · rintro _ ⟨span,more,rfl⟩
        rfl
      · rw [tokens_append,marked,Path.tokens_of_unplaced placed]
        rfl
    let written : List Token := .opening .parenthesis ::
      (.ident ⟨"in",false⟩ :: path.tokens.tokens ++ [.closing .parenthesis])
    have grouped : Restores depth
        (group .parenthesis do return (← keyword "in") ++ (← plainPath).tokens) written
        (fun found => found.tokens = written) Unrestricted := by
      refine .last (.enclosed .parenthesis body) fun found parts => ?_
      obtain ⟨opened,inside,closed⟩ := parts
      rw [tokens_append,tokens_append,opened,inside,closed]
      rfl
    intro output rest same free short
    obtain ⟨found,ran,spelled⟩ := grouped output rest same free short
    refine ⟨found,?_,spelled⟩
    obtain ⟨⟨_,opening⟩,more,rfl,rfl,others⟩ := List.map_eq_cons_iff.mp same
    obtain ⟨⟨_,span⟩,last,rfl,rfl,closed⟩ := List.map_eq_cons_iff.mp others
    rw [← ran]
    rfl

theorem restores_visibility {depth : Nat} {tokens : List Token} (visible : Visible tokens) :
    Restores depth visibility tokens (fun found => found.tokens = tokens) Unrestricted := by
  cases visible with
  | none =>
    refine .peek false (fun output rest same free => ?_) (.pure rfl)
    obtain rfl : output = [] := List.map_eq_nil_iff.mp same
    exact free.word
  | @pub restriction restricted =>
    have split : Token.ident ⟨"pub",false⟩ :: restriction =
        [.ident ⟨"pub",false⟩] ++ restriction := rfl
    rw [split]
    refine .peek true (fun output rest same _ => ?_) (.bind (.keyword "pub") fun word marked =>
      .last (restores_restriction restricted) fun found spelled => ?_)
    · obtain ⟨⟨_,span⟩,more,rfl,rfl,_⟩ := List.map_eq_cons_iff.mp same
      rfl
    · rw [tokens_append,marked,spelled]

theorem Visible.unmarked {tokens more : List Token} (visible : Visible tokens) {name : String}
    {output : Lexemes} (rest : Lexemes)
    (same : output.tokens = tokens ++ (.ident ⟨name,false⟩ :: more)) :
    View.punct "#" (output ++ rest) = false := by
  cases visible with
  | none =>
    obtain ⟨⟨_,span⟩,others,rfl,rfl,_⟩ := List.map_eq_cons_iff.mp same
    rfl
  | pub =>
    obtain ⟨⟨_,span⟩,others,rfl,rfl,_⟩ := List.map_eq_cons_iff.mp same
    rfl

end Grammar

end CaseSynthesis
