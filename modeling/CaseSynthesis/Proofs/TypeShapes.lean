import CaseSynthesis.Proofs.Parallel.Primitives
import CaseSynthesis.Proofs.TypeTexts

/-! The shapes of types that are read: the tokens of a path or of a reference are those that its form
tells, and every other type has a token that no name of a string type has in it. -/

namespace CaseSynthesis.Grammar

open CaseSynthesis.Grammar.Parser

section

variable {α β γ : Type} {p : Parser α} {f : α → Parser β} {P : β → Prop} {Q : α → Prop}

def Gives (p : Parser α) (Q : α → Prop) : Prop :=
  ∀ input value rest, p input = some (value,rest) → Q value

namespace Gives

protected theorem pure {value : α} (holds : Q value) : Gives (pure value) Q := by
  intro input found rest read
  cases read
  exact holds

protected theorem fail : Gives fail Q := by
  intro input found rest read
  cases read

protected theorem bind (first : Gives p Q) (next : ∀ value, Q value → Gives (f value) P) :
    Gives (p >>= f) P := by
  intro input found rest read
  obtain ⟨⟨value,after⟩,one,two⟩ := Option.bind_eq_some_iff.mp read
  exact next value (first input value after one) after found rest two

/-- The rest of a parser, whatever its first part reads. -/
theorem after (next : ∀ value, Gives (f value) P) : Gives (p >>= f) P :=
  Gives.bind (Q := fun _ => True) (fun _ _ _ _ => trivial) fun value _ => next value

theorem imp (gives : Gives p Q) {R : α → Prop} (each : ∀ value, Q value → R value) : Gives p R :=
  fun input value rest read => each value (gives input value rest read)

theorem ite {condition : Prop} [Decidable condition] {first second : Parser α}
    (one : condition → Gives first Q) (two : ¬ condition → Gives second Q) :
    Gives (if condition then first else second) Q := by
  split
  case isTrue holds => exact one holds
  case isFalse fails => exact two fails

/-- A parser that is run only on the tokens that were seen. -/
private theorem seen {view : View} {first second : Parser α}
    (one : ∀ input, view input = true → ∀ value rest, first input = some (value,rest) → Q value)
    (two : Gives second Q) : Gives (do if ← peek view then first else second) Q := by
  intro input value rest read
  rw [run_bind,run_peek,Option.bind_some,run_ite] at read
  split at read
  case isTrue ahead => exact one input ahead value rest read
  case isFalse => exact two input value rest read

theorem peekIf {view : View} {first second : Parser α} (one : Gives first Q) (two : Gives second Q) :
    Gives (do if ← peek view then first else second) Q :=
  seen (fun input _ => one input) two

/-- The same tokens are seen when nothing has been taken since. -/
private theorem peekAgain {view : View} (condition : Bool → Bool) {next : Bool → Parser α} {other : Parser α}
    (one : ∀ ahead, condition ahead = true → Gives (next ahead) Q) (two : Gives other Q) :
    Gives (do if condition (← peek view) then peek view >>= next else other) Q := by
  intro input value rest read
  rw [run_bind,run_peek,Option.bind_some,run_ite] at read
  split at read
  case isTrue holds => exact one _ holds input value rest read
  case isFalse => exact two input value rest read

theorem optionally {view : View} {p : Parser Lexemes} {Q : Lexemes → Prop} (gives : Gives p Q)
    (none : Q []) : Gives (optionally view p) Q :=
  peekIf gives (.pure none)

theorem loop {body : α → Parser (α × Bool)} {state : α} (start : Q state)
    (round : ∀ state, Q state → Gives (body state) fun next => Q next.1) :
    Gives (loop body state) Q := by
  intro input found rest read
  induction size : input.length using Nat.strongRecOn generalizing state input with
  | ind length ih =>
    subst size
    obtain ⟨next,more,after,ran,goesOn⟩ := loop_round read
    have kept := round state start _ _ _ ran
    cases more with
    | false => exact goesOn.1 ▸ kept
    | true => exact ih after.length goesOn.1 kept _ goesOn.2 rfl

end Gives

theorem gives_punct (text : String) :
    Gives (punct text) fun tokens => tokens.tokens = signTokens text.toList := by
  have chars (signs : List Char) :
      Gives (punctChars signs) fun tokens => tokens.tokens = signTokens signs := by
    induction signs with
    | nil => exact .pure rfl
    | cons sign signs ih =>
      refine .after fun lexeme => .bind ih fun tokens same => .pure ?_
      rw [Lexemes.tokens] at same ⊢
      simp [same,signTokens]
  exact .after fun _ => .after fun _ => chars text.toList

theorem gives_nextIf {view : View} {Q : Lexemes → Prop}
    (each : ∀ lexeme rest, view (lexeme :: rest) = true → Q [lexeme]) : Gives (nextIf view) Q := by
  intro input tokens rest read
  obtain ⟨⟨lexeme,after⟩,taken,same⟩ := Option.bind_eq_some_iff.mp read
  cases same
  rw [run_take] at taken
  split at taken
  case isFalse => cases taken
  case isTrue seen =>
    cases input with
    | nil => cases taken
    | cons first input =>
      obtain rfl : lexeme = first := by
        obtain ⟨token,span⟩ := first
        cases token <;> cases taken <;> rfl
      exact each _ _ seen

theorem gives_keyword (name : String) :
    Gives (keyword name) fun tokens => tokens.tokens = [.ident ⟨name,false⟩] :=
  gives_nextIf fun lexeme rest seen => by simpa [View.keyword,Lexemes.tokens] using seen

private theorem gives_lifetime : Gives lifetime fun tokens => ∃ name, tokens.tokens = [.lifetime name] := by
  refine gives_nextIf fun lexeme rest seen => ?_
  obtain ⟨token,span⟩ := lexeme
  cases token with
  | lifetime name => exact ⟨name,rfl⟩
  | _ => cases seen

private theorem gives_enclosed (delimiter : Delimiter) (inside : Parser α) :
    Gives (enclosed delimiter inside) fun found => found.1.tokens = [.opening delimiter] := by
  refine .bind (Q := fun tokens => tokens.tokens = [.opening delimiter])
    (gives_nextIf fun lexeme rest seen => ?_) fun opening same => .after fun value => .after fun ahead => ?_
  · simpa [View.opening,Lexemes.tokens] using seen
  · split
    · exact .ite (fun _ => .after fun _ => .pure same) fun _ => .fail
    · exact .fail

end

def isOdd : Token → Bool
  | .ident ident => Codable.stringNames.all fun name => ident != ⟨name,false⟩
  | .lifetime _ => false
  | .punct c _ => c != '&'
  | _ => true

def Odd (tokens : Lexemes) : Prop := ∃ token ∈ tokens.tokens, isOdd token = true

theorem Odd.left {first : Lexemes} (odd : Odd first) (second : Lexemes) : Odd (first ++ second) := by
  obtain ⟨token,member,odd⟩ := odd
  exact ⟨token,by simp [tokens_append,member],odd⟩

theorem Odd.right {second : Lexemes} (odd : Odd second) (first : Lexemes) : Odd (first ++ second) := by
  obtain ⟨token,member,odd⟩ := odd
  exact ⟨token,by simp [tokens_append,member],odd⟩

theorem Odd.head {tokens : Lexemes} {token : Token} {rest : List Token}
    (same : tokens.tokens = token :: rest) (odd : isOdd token = true) : Odd tokens :=
  ⟨token,by simp [same],odd⟩

private theorem odd_keyword (name : String) (other : name ∉ Codable.stringNames) :
    Gives (keyword name) Odd :=
  (gives_keyword name).imp fun _ same => .head same (by
    simp only [isOdd,List.all_eq_true,bne_iff_ne,ne_eq,Ident.mk.injEq,and_true]
    rintro listed member rfl
    exact other member)

private theorem odd_punct (text : String) (odd : (signTokens text.toList).any isOdd = true) :
    Gives (punct text) Odd := by
  refine (gives_punct text).imp fun tokens same => ?_
  obtain ⟨token,member,odd⟩ := List.any_eq_true.mp odd
  exact ⟨token,by rwa [same],odd⟩

private theorem odd_group (delimiter : Delimiter) (inside : Parser Lexemes) :
    Gives (group delimiter inside) Odd := by
  refine .bind (gives_enclosed delimiter inside) ?_
  rintro ⟨opening,inside,closing⟩ same
  exact .pure (((Odd.head same rfl).left inside).left closing)

/-! Paths. -/

def Colons (separator : Lexemes) : Prop := separator.tokens = [.punct ':' true,.punct ':' false]

/-- Where the last segment of a path stands: after colons, unless it is the whole of it. If it has
arguments, they are in brackets. -/
def Formed (root : Lexemes) (path : Path) : Prop :=
  ∃ front last, path.segments = front ++ [last] ∧
    (Colons last.separator ∨ front = [] ∧ root = [] ∧ last.separator = []) ∧
    (last.arguments.isAbsent = true ∨ Odd last.arguments.tokens)

def Follows (separator : Lexemes) (segment : Segment) : Prop :=
  segment.separator = separator ∧ (segment.arguments.isAbsent = true ∨ Odd segment.arguments.tokens)

theorem gives_colons : Gives (punct "::") Colons := gives_punct "::"

private theorem gives_angledArguments (rules : Rules) :
    Gives (angledArguments rules) fun arguments => Odd arguments.tokens := by
  refine .after fun colons => .bind (odd_punct "<" rfl) fun opening odd => .after fun arguments =>
    .after fun closing => .pure ?_
  exact ((odd.right colons).left _).left _

private theorem gives_segment (rules : Rules) (inExpr : Bool) (separator : Lexemes) :
    Gives (segment rules inExpr separator) (Follows separator) := by
  refine .after fun _ => .ite (fun _ => .after fun _ => .pure ⟨rfl,.inl rfl⟩) fun _ =>
    .after fun name => .peekIf ?_ (.pure ⟨rfl,.inl rfl⟩)
  exact .bind (gives_angledArguments rules) fun arguments odd => .pure ⟨rfl,.inr odd⟩

private theorem Formed.concat {root separator : Lexemes} (segments : List Segment) {segment : Segment}
    (colons : Colons separator) (follows : Follows separator segment) :
    Formed root ⟨segments ++ [segment]⟩ :=
  ⟨segments,segment,rfl,.inl (follows.1 ▸ colons),follows.2⟩

private theorem gives_moreSegments (rules : Rules) (inExpr : Bool) {root : Lexemes} {path : Path}
    (formed : Formed root path) : Gives (moreSegments rules inExpr path) (Formed root) := by
  refine .loop formed fun path formed => .peekIf ?_ (.pure formed)
  exact .bind gives_colons fun separator colons => .bind (gives_segment rules inExpr separator)
    fun segment follows => .pure (.concat _ colons follows)

private theorem gives_path (rules : Rules) (inExpr : Bool) : Gives (path rules inExpr) (Formed []) := by
  have leading : Gives (optionalPunct "::") fun separator => Colons separator ∨ separator = [] :=
    .optionally (gives_colons.imp fun _ => .inl) (.inr rfl)
  refine .bind leading fun separator either => .bind (gives_segment rules inExpr separator)
    fun segment follows => gives_moreSegments rules inExpr ⟨[],segment,rfl,?_,follows.2⟩
  rw [follows.1]
  exact either.imp id fun none => ⟨rfl,rfl,none⟩

private theorem gives_qualifiedPath (rules : Rules) (inExpr : Bool) :
    Gives (qualifiedPath rules inExpr) fun qualified => Formed qualified.root qualified.path := by
  refine .peekIf ?_ (.bind (gives_path rules inExpr) fun path formed => .pure formed)
  refine .after fun opening => .after fun type => .after fun asTrait => .after fun closing =>
    .bind gives_colons fun separator colons => .bind (gives_segment rules inExpr separator)
      fun segment follows => ?_
  refine .bind (Q := fun segments => Formed (opening ++ type.tokens ++ asTrait ++ closing) ⟨segments⟩)
    (.loop (.concat [] colons follows) fun segments formed => .peekIf ?_ (.pure formed))
    fun segments formed => .pure formed
  exact .bind gives_colons fun separator colons => .bind (gives_segment rules inExpr separator)
    fun segment follows => .pure (.concat _ colons follows)

private theorem gives_parenthesizedArguments (rules : Rules) :
    Gives (parenthesizedArguments rules) fun found => Odd found.2.tokens := by
  refine .bind (odd_group .parenthesis _) fun inputs odd => .after fun output => .pure ?_
  exact odd.left _

private theorem Formed.withArguments {root : Lexemes} {path : Path} (formed : Formed root path)
    {arguments : Arguments} (odd : Odd arguments.tokens) : Formed root (path.withArguments arguments) := by
  obtain ⟨front,last,split,placed,_⟩ := formed
  refine ⟨front,{ last with arguments },?_,placed,.inr odd⟩
  simp [Path.withArguments,Path.last?,split]

private theorem gives_typePath (rules : Rules) :
    Gives (typePath rules) fun qualified => Formed qualified.root qualified.path := by
  refine .bind (gives_qualifiedPath rules false) fun qualified formed => ?_
  refine .bind (Q := Formed qualified.root) (.loop formed fun path formed => .peekIf ?_ (.pure formed))
    fun path formed => .pure formed
  refine .after fun _ => .bind (gives_parenthesizedArguments rules) ?_
  rintro ⟨extensible,arguments⟩ odd
  have extended := formed.withArguments odd
  exact .ite (fun _ => .bind (gives_moreSegments rules false extended) fun _ more => .pure more)
    fun _ => .pure extended

/-! Types. -/

def TypeForm.isNamed : TypeForm → Bool
  | .path _ => true
  | .reference _ _ => true
  | _ => false

inductive Shaped : TypeExpr → Prop
  | path {qualified : QualifiedPath} (formed : Formed qualified.root qualified.path) :
      Shaped ⟨.path qualified,qualified.tokens⟩
  | reference {ampersand lifetime mutability : Lexemes} {target : TypeExpr}
      (sign : ampersand.tokens = [.punct '&' false])
      (named : lifetime = [] ∨ ∃ name, lifetime.tokens = [.lifetime name])
      (marked : mutability = [] ∨ Odd mutability) (shaped : Shaped target) :
      Shaped ⟨.reference (!mutability.isEmpty) target.form,
        ampersand ++ lifetime ++ mutability ++ target.tokens⟩
  | other {form : TypeForm} {tokens : Lexemes} (nameless : form.isNamed = false)
      (odd : tokens = [] ∨ Odd tokens) : Shaped ⟨form,tokens⟩

private theorem Shaped.odd {form : TypeForm} {tokens : Lexemes} (nameless : form.isNamed = false)
    (odd : Odd tokens) : Shaped ⟨form,tokens⟩ := .other nameless (.inr odd)

private theorem gives_boundsAfter (rules : Rules) {first : Bound} (odd : Odd first.tokens) :
    Gives (boundsAfter rules first) Shaped := by
  refine .bind (Q := fun found => Odd (boundTokens found.1 ++ found.2.tokens))
    (.loop (by simpa [boundTokens,Separated.tokens] using odd) ?_) ?_
  · rintro ⟨bounds,last⟩ odd
    refine .peekIf (.after fun sign => .after fun bound => .pure ?_) (.pure odd)
    have more := (odd.left sign).left bound.tokens
    simpa [boundTokens,Separated.tokens] using more
  · rintro ⟨bounds,last⟩ odd
    refine .pure (.odd rfl ?_)
    simpa [boundTokens,Separated.tokens] using odd

private theorem gives_parenthesizedType (rules : Rules) (plus : Bool) :
    Gives (parenthesizedType rules plus) Shaped := by
  intro input type rest read
  refine (?_ : Gives (parenthesizedTypeOf rules plus (input.drop 1)) Shaped) input type rest read
  unfold parenthesizedTypeOf
  refine .ite (fun _ => .bind (odd_group .parenthesis _) fun _ odd => .pure (.odd rfl odd)) fun _ =>
    .ite (fun _ => .bind (odd_group .parenthesis _) fun _ odd => .pure (.odd rfl odd)) fun _ =>
    .ite (fun _ => .bind (odd_group .parenthesis _) fun _ odd => gives_boundsAfter rules odd) fun _ => ?_
  refine .bind (gives_enclosed .parenthesis _) ?_
  rintro ⟨opening,⟨first,rest⟩,closing⟩ same
  have odd (inside : Lexemes) : Odd (opening ++ inside ++ closing) :=
    ((Odd.head same rfl).left inside).left closing
  have whole : Odd (opening ++ first.tokens ++ rest ++ closing) := by
    simpa using odd (first.tokens ++ rest)
  refine .ite (fun _ => .pure (.odd rfl whole)) fun _ => .after fun ahead =>
    .ite (fun _ => ?_) fun _ => .pure (.odd rfl whole)
  split
  · exact gives_boundsAfter rules whole
  · exact gives_boundsAfter rules (odd _)
  · exact .pure (.odd rfl whole)

private theorem odd_functionType (rules : Rules) : Gives (functionType rules) Odd := by
  refine .after fun unsafety => .after fun abi => .bind (odd_keyword "fn" (by decide))
    fun keyword odd => .after fun parameters => .after fun output => .pure ?_
  exact ((odd.right (unsafety ++ abi)).left parameters).left output.2

private theorem odd_binder (rules : Rules) : Gives (optionalBinder rules) fun binder => binder = [] ∨ Odd binder := by
  refine .optionally (.bind (odd_keyword "for" (by decide)) fun keyword odd => .after fun opening =>
    .after fun lifetimes => .after fun closing => .pure (.inr ?_)) (.inl rfl)
  exact ((odd.left opening).left _).left closing

private theorem gives_pathType (rules : Rules) (plus : Bool) {binder : Lexemes}
    (bound : binder = [] ∨ Odd binder) : Gives (pathType rules plus binder) Shaped := by
  refine .bind (gives_typePath rules) fun qualified formed => .ite (fun _ => .pure (.path formed)) fun _ =>
    .after fun opens => .ite (fun _ => ?call) fun _ =>
    .peekAgain (fun ahead => !binder.isEmpty || (plus && ahead))
      (fun ahead others => .ite (fun _ => ?more) fun alone => .pure ?single) (.pure (.path formed))
  case call =>
    refine .bind (Q := fun call => Odd call.2) ?_ fun call odd => .pure (Shaped.odd rfl (odd.right _))
    exact .bind (odd_punct "!" rfl) fun bang odd => .after fun _ => .after fun group => .pure (odd.left group)
  case more =>
    refine .bind (odd_punct "+" rfl) fun sign odd => .after fun ahead => ?_
    have first (rest : Separated Bound) :
        Gives (pure (boundsType ((⟨.trait,binder ++ qualified.tokens⟩,sign) :: rest))) Shaped := by
      have more := (odd.right (binder ++ qualified.tokens)).left (boundTokens rest)
      exact .pure (.odd rfl (by simpa [boundTokens,Separated.tokens] using more))
    exact .ite (fun _ => .after first) fun _ => .bind (Q := fun _ => True) (.pure trivial) fun rest _ => first rest
  case single =>
    have filled : binder ≠ [] := by
      rintro rfl
      simp_all
    have odd := (bound.resolve_left filled).left qualified.tokens
    exact .odd rfl (by simpa [boundTokens,Separated.tokens] using odd)

private theorem starts_of_keyword {name : String} {input tokens rest : Lexemes}
    (read : keyword name input = some (tokens,rest)) :
    ∃ lexeme tail, input = lexeme :: tail ∧ lexeme.token = .ident ⟨name,false⟩ := by
  obtain ⟨⟨lexeme,after⟩,taken,same⟩ := Option.bind_eq_some_iff.mp read
  rw [run_take] at taken
  split at taken
  case isFalse => cases taken
  case isTrue seen =>
    cases input with
    | nil => cases seen
    | cons first tail => exact ⟨first,tail,rfl,by simpa [View.keyword] using seen⟩

private theorem gives_traitObject (rules : Rules) (plus : Bool) : Gives (traitObject rules plus) Shaped := by
  intro input type rest read
  obtain ⟨⟨word,after⟩,first,read⟩ := Option.bind_eq_some_iff.mp read
  have odd : Odd word := odd_keyword "dyn" (by decide) _ _ _ first
  have whole (count : Nat) : input.take count = [] ∨ Odd (input.take count) := by
    obtain ⟨lexeme,tail,same,token⟩ := starts_of_keyword first
    subst same
    cases count with
    | zero => exact .inl rfl
    | succ count =>
      exact .inr ⟨.ident ⟨"dyn",false⟩,by simp [Lexemes.tokens,token],rfl⟩
  have body : Gives (do
      let star ← optionalPunct "*"
      let bounds ← traitBounds rules plus false false
      if star.isEmpty then return ⟨.other,word ++ boundTokens bounds⟩
      let after ← get
      return ⟨.other,input.take (input.length - after.length)⟩) Shaped :=
    .after fun star => .after fun bounds => .ite (fun _ => .pure (.odd rfl (odd.left _)))
      fun _ => .after fun after => .pure (.other rfl (whole _))
  exact body after type rest read

private theorem boundTokens_concat (bounds : Separated Bound) (bound : Bound) (sign : Lexemes) :
    boundTokens (bounds ++ [(bound,sign)]) = boundTokens bounds ++ (bound.tokens ++ sign) := by
  simp [boundTokens,Separated.tokens]

/-- What one more bound makes of those before it. -/
private theorem gives_nextBound (bounds : Separated Bound) (bound : Bound) :
    Gives (do
      if true && (← peek (.punct "+")) then
        let sign ← punct "+"
        return (bounds ++ [(bound,sign)],← peekAny [opensBound,.opening .bracket])
      return (bounds ++ [(bound,[])],false)) fun next =>
        Odd (boundTokens next.1) ∨ next = (bounds ++ [(bound,[])],false) := by
  refine .after fun ahead => .ite (fun _ => ?_) fun _ => .pure (.inr rfl)
  refine .bind (odd_punct "+" rfl) fun sign odd => .after fun more => .pure (.inl ?_)
  rw [boundTokens_concat]
  exact (odd.right _).right _

private theorem form_of_lifetime (rules : Rules) {captures constants : Bool} {input rest : Lexemes}
    {found : Bound} (ahead : View.lifetime input = true)
    (read : bound rules captures constants input = some (found,rest)) : found.form = .lifetime := by
  rw [bound,run_bind,run_peek,ahead,Option.bind_some,if_pos rfl] at read
  obtain ⟨⟨name,_⟩,_,same⟩ := Option.bind_eq_some_iff.mp read
  cases same
  rfl

/-- Bounds that start with a lifetime have a sign in them, as one of them is a trait. -/
private theorem odd_lifetimeBounds (rules : Rules) {input rest : Lexemes} {found : Separated Bound}
    (ahead : View.lifetime input = true)
    (read : traitBounds rules true false false input = some (found,rest)) : Odd (boundTokens found) := by
  obtain ⟨⟨listed,after⟩,looped,read⟩ := Option.bind_eq_some_iff.mp read
  obtain ⟨⟨_,_⟩,required,same⟩ := Option.bind_eq_some_iff.mp read
  cases same
  obtain ⟨next,more,after,first,goesOn⟩ := loop_round looped
  obtain ⟨⟨bound,follow⟩,one,two⟩ := Option.bind_eq_some_iff.mp first
  rcases gives_nextBound [] bound follow (next,more) after two with odd | alone
  · have kept : Gives (loop (fun bounds => do
        let bound ← Grammar.bound rules false false
        if true && (← peek (.punct "+")) then
          let sign ← punct "+"
          return (bounds ++ [(bound,sign)],← peekAny [opensBound,.opening .bracket])
        return (bounds ++ [(bound,[])],false)) next) fun bounds => Odd (boundTokens bounds) := by
      refine .loop odd fun bounds odd => .after fun bound => (gives_nextBound bounds bound).imp ?_
      rintro _ (odd' | rfl)
      · exact odd'
      · rw [boundTokens_concat]
        exact odd.left _
    cases more with
    | false => exact goesOn.1 ▸ odd
    | true => exact kept _ _ _ goesOn.2
  · cases alone
    obtain ⟨rfl,_⟩ := goesOn
    -- a lifetime alone is no trait
    have none : namesTrait [(bound,[])] = false := by
      simp [namesTrait,form_of_lifetime rules ahead one]
    rw [List.nil_append,none] at required
    cases required

private theorem gives_bracketedType (rules : Rules) : Gives (bracketedType rules) Shaped :=
  .bind (odd_group .bracket _) fun _ odd => .pure (.odd rfl odd)

private theorem gives_pointerType (rules : Rules) : Gives (pointerType rules) Shaped := by
  refine .bind (odd_punct "*" rfl) fun star odd => ?_
  have target (mutability : Lexemes) :
      Gives (do return ⟨.other,star ++ mutability ++ (← rules.type false).tokens⟩) Shaped :=
    .after fun target => .pure (.odd rfl ((odd.left mutability).left target.tokens))
  exact .peekIf (.after target) (.after target)

private theorem gives_referenceType (rules : Rules) (types : ∀ plus, Gives (rules.type plus) Shaped) :
    Gives (referenceType rules) Shaped := by
  have named : Gives (optionally .lifetime lifetime) fun tokens =>
      tokens = [] ∨ ∃ name, tokens.tokens = [.lifetime name] :=
    .optionally (gives_lifetime.imp fun _ => .inr) (.inl rfl)
  have marked : Gives (optionalKeyword "mut") fun tokens => tokens = [] ∨ Odd tokens :=
    .optionally ((odd_keyword "mut" (by decide)).imp fun _ => .inr) (.inl rfl)
  exact .bind (gives_punct "&") fun ampersand sign => .bind named fun lifetime named =>
    .bind marked fun mutability marked => .bind (types false) fun target shaped =>
    .pure (.reference sign named marked shaped)

private theorem gives_typeExpr (rules : Rules) (plus : Bool) (types : ∀ plus, Gives (rules.type plus) Shaped) :
    Gives (typeExpr rules plus) Shaped := by
  refine .bind (odd_binder rules) fun binder bound => ?_
  have alternatives : Gives (do
      if ← peek (.opening .parenthesis) then parenthesizedType rules plus
      else if ← peek opensFunctionType then
        return ⟨.other,binder ++ (← functionType rules)⟩
      else if ← peek opensPathType then pathType rules plus binder
      else if ← peek (.keyword "dyn") then traitObject rules plus
      else if ← peek (.opening .bracket) then bracketedType rules
      else if ← peek (.punct "*") then pointerType rules
      else if ← peek (.punct "&") then referenceType rules
      else if ← peek opensMacroCall then return ⟨.other,← punct "!"⟩
      else if ← peek (.keyword "impl") then
        let keyword ← keyword "impl"
        return ⟨.other,keyword ++ boundTokens (← traitBounds rules plus true true)⟩
      else if ← peek (.keyword "_") then return ⟨.other,← keyword "_"⟩
      else if ← peek .lifetime then
        return boundsType (← traitBounds rules true false false)
      else fail) Shaped := by
    refine .peekIf (gives_parenthesizedType rules plus) <| .peekIf ?function <|
      .peekIf (gives_pathType rules plus bound) <| .peekIf (gives_traitObject rules plus) <|
      .peekIf (gives_bracketedType rules) <| .peekIf (gives_pointerType rules) <|
      .peekIf (gives_referenceType rules types) <| .peekIf ?never <| .peekIf ?impl <|
      .peekIf ?hole <| .seen ?lifetime .fail
    case function => exact .bind (odd_functionType rules) fun _ odd => .pure (.odd rfl (odd.right _))
    case never => exact .bind (odd_punct "!" rfl) fun _ odd => .pure (.odd rfl odd)
    case impl =>
      exact .bind (odd_keyword "impl" (by decide)) fun _ odd => .after fun _ => .pure (.odd rfl (odd.left _))
    case hole => exact .bind (odd_keyword "_" (by decide)) fun _ odd => .pure (.odd rfl odd)
    case lifetime =>
      intro input ahead type rest read
      obtain ⟨⟨bounds,after⟩,first,same⟩ := Option.bind_eq_some_iff.mp read
      cases same
      exact .odd rfl (odd_lifetimeBounds rules ahead first)
  exact .ite (fun _ => .after fun _ => .after fun _ => alternatives) fun _ => alternatives

theorem gives_type (depth : Nat) (plus : Bool) : Gives ((nested depth).type plus) Shaped := by
  induction depth generalizing plus with
  | zero => exact .fail
  | succ depth ih => exact gives_typeExpr (nested depth) plus ih

end CaseSynthesis.Grammar
