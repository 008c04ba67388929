import CaseSynthesis.Proofs.Parallel.Phrases

/-! Attributes, visibilities, paths and their generic arguments, read side by side. -/

namespace CaseSynthesis.Grammar

open Lexer (balanced docTokens)
open CaseSynthesis.Grammar.Parser

section

variable {c : Comparison} {limit : Nat} {place : Place} {stage : Stage} {rules rules' : Rules}

@[simp] theorem Blind.opensPlainSegment : Blind c opensPlainSegment := .any (by simp)

@[simp] theorem Blind.opensGroup : Blind c opensGroup := .any (by simp)

@[simp] theorem Blind.opensAttribute : Blind c opensAttribute :=
  .led (by simp) (by simp) (by simp)

@[simp] theorem Blind.opensInnerAttribute : Blind c opensInnerAttribute :=
  .led (by simp) (by simp) (by simp)

@[simp] theorem Blind.opensRestriction : Blind c opensRestriction := .any (by simp)

@[simp] theorem Blind.opensConstArgument : Blind c opensConstArgument := .any (by simp)

@[simp] theorem Blind.opensMacroCall : Blind c opensMacroCall := .but (.punct "!" rfl) (.punct "!=" rfl)

private theorem Plain.opensPlainSegment : Plain opensPlainSegment := .any (by simp)

private theorem Blind.opensArguments (inExpr : Bool) : Blind c (opensArguments inExpr) := by
  intro first second sound sees
  have less := Blind.punct (c := c) "<" rfl first second sound sees
  have atMost := Blind.punct (c := c) "<=" rfl first second sound sees
  have shifted := Blind.punct (c := c) "<<=" rfl first second sound sees
  have colons := (Blind.punct (c := c) "<" rfl).colonsThird first second sound sees
  simp only [Grammar.opensArguments,less,atMost,shifted,colons]

/-! Attributes. -/

theorem Spelled.bare {text : String} {first second : Lexemes} (spelled : Spelled c text first second) :
    Bare c first second := by
  obtain ⟨kin,tokens,_⟩ := spelled
  refine ⟨kin,?_⟩
  cases first with
  | nil => rfl
  | cons lexeme first =>
    have member : lexeme.token ∈ signTokens text.toList := by simp [← tokens,Lexemes.tokens]
    obtain ⟨sign,_,joint,token⟩ := mem_signTokens _ _ member
    simp [View.opening,token]

private theorem Spelled.append {text : String} {first second first' second' : Lexemes}
    (spelled : Spelled c text first second) (filled : text.toList ≠ [])
    (right : Kin c first' second') : Bare c (first ++ first') (second ++ second') := by
  refine spelled.bare.append ?_ right
  rintro rfl
  have none : signTokens text.toList = [] := spelled.2.1.symm
  cases signs : text.toList with
  | nil => exact filled signs
  | cons sign rest =>
    rw [signs] at none
    cases none

private theorem parallel_colons :
    Parallel c limit place stage .solid (Bare c) (punct "::") (punct "::") :=
  (Parallel.sign "::" rfl).imp fun _ _ spelled => spelled.bare

private theorem parallel_optionalColons :
    Parallel c limit place stage .firm (Bare c) (optionalPunct "::") (optionalPunct "::") :=
  .peekIf (.punct "::" rfl) parallel_colons.weaken (.pure .nil)

theorem parallel_plainPath :
    Parallel c limit place stage .solid (PathKin c) plainPath plainPath := by
  refine .bind parallel_optionalColons fun leading leading' colons => ?_
  refine .bind (.take .opensPlainSegment .opensPlainSegment) fun name name' kin => ?_
  refine .bind (?rounds : Parallel _ _ _ _ .firm (List.Forall₂ (SegmentKin c)) _ _)
    fun segments segments' each => .pure each
  refine .loop (fun segments segments' each => ?_) (.cons ⟨colons,kin,.none⟩ .nil)
  refine .peekIf (.punct "::" rfl) ?_ (.pure ⟨each,rfl⟩)
  refine .bind parallel_colons fun separator separator' more => ?_
  refine .bind (.take .opensPlainSegment .opensPlainSegment) fun name name' kin => ?_
  exact .pure ⟨List.rel_append each (.cons ⟨more,kin,.none⟩ .nil),rfl⟩

private theorem Kin.pieces {tokens tokens' : Lexemes} (kin : Kin c tokens tokens') :
    Kin c (tokens.take 1 ++ (tokens.drop 1).dropLast ++ tokens.drop (tokens.length - 1))
      (tokens'.take 1 ++ (tokens'.drop 1).dropLast ++ tokens'.drop (tokens'.length - 1)) := by
  have whole (lexeme other : Lexeme) (rest : Lexemes) :
      (lexeme :: other :: rest).take 1 ++ ((lexeme :: other :: rest).drop 1).dropLast ++
        (lexeme :: other :: rest).drop ((lexeme :: other :: rest).length - 1) =
          lexeme :: other :: rest := by
    simp [List.dropLast_eq_take]
  match tokens, tokens', kin, kin.length with
  | [], [], kin, _ => exact .nil
  | [lexeme], [other], kin, _ => exact kin.append kin
  | lexeme :: next :: rest, other :: next' :: rest', kin, _ =>
    rw [whole,whole]
    exact kin

private theorem parallel_attributeInput (core : RulesCore c limit rules rules') :
    Parallel c limit .grouped .later .loose (fun input other => Kin c input.tokens other.tokens)
      (attributeInput rules) (attributeInput rules') := by
  refine .peekIf .opensGroup ?_ (.peekIf (.punct "=" rfl) ?_ (.pure .nil))
  · exact .bind .anyGroup fun tokens tokens' kin => .pure kin.pieces
  · refine .bind (.punct "=" rfl) fun equals equals' kin => ?_
    refine .peek .opensAttribute fun ahead => ?_
    refine .bind (.require rfl) fun _ _ _ => ?_
    exact .bind (core.expr _ true) fun value value' kin' => .pure (kin.append kin'.tokens)

def bracketed (rules : Rules) (inner : Bool) (lead : Lexemes) : Parser Attribute := do
  let (opening, (path, input), closing) ← enclosed .bracket do
    let path ← if ← peek (.keyword "unsafe") then
        pure ⟨[⟨[], ← next, .none⟩]⟩
      else plainPath
    return (path, ← attributeInput rules)
  return ⟨inner, lead ++ opening, path, input, closing⟩

theorem attribute_eq (rules : Rules) (inner : Bool) : attribute? rules inner = (do
    let hash ← punct "#"
    let bang ← if inner then punct "!" else pure []
    bracketed rules inner (hash ++ bang)) := rfl

private theorem parallel_bracketed (core : RulesCore c limit rules rules') (inner : Bool)
    {lead lead' : Lexemes} (kin : Kin c lead lead') :
    Parallel c limit place stage .solid (AttributeKin c) (bracketed rules inner lead)
      (bracketed rules' inner lead') := by
  refine .bind (.enclosed .bracket (?body : Parallel _ _ _ _ _ (fun body body' =>
    PathKin c body.1 body'.1 ∧ Kin c body.2.tokens body'.2.tokens) _ _)) ?_
  case body =>
    refine .nextSeen (.keyword "unsafe") (.keyword "unsafe") (fun name name' kin => ?_) ?_
    · have path : PathKin c ⟨[⟨[],name,.none⟩]⟩ ⟨[⟨[],name',.none⟩]⟩ := .cons ⟨.nil,kin,.none⟩ .nil
      refine .bind (.value path) fun path path' kin => ?_
      exact .bind (parallel_attributeInput core) fun input input' kin' => .pure ⟨kin,kin'⟩
    · refine .bind parallel_plainPath fun path path' kin => ?_
      exact .bind (parallel_attributeInput core) fun input input' kin' => .pure ⟨kin,kin'⟩
  rintro _ _ ⟨⟨paths,inputs⟩,opening,closing,opening',closing'⟩
  have inside := paths.tokens.toKin.append inputs
  have whole := kin.append (inside.wrap .bracket opening closing opening' closing')
  exact .pure ⟨rfl,by simpa [Attribute.tokens] using whole⟩

/-- An attribute that stands before the tail. -/
private theorem parallelAt_attribute (core : RulesCore c limit rules rules') (inner : Bool)
    {first second : Lexemes} (state : c.State place first second)
    (bound : c.compared → c.Live place first second → second.length < stage.bound limit)
    (ahead : ∃ lexeme shared, first = lexeme :: shared ++ c.tail) :
    ParallelAt c place .solid (AttributeKin c) first second (attribute? rules inner)
      (attribute? rules' inner) := by
  have hash := ParallelAt.mark "#" rfl '#' rfl (by decide) state ahead
  refine hash.bind state fun hash hash' rest left _ kin reached taken => ?_
  refine (?more : Parallel c limit place .later .firm (AttributeKin c) _ _) rest left reached
    (state.within bound taken)
  refine .eitherIf rfl (.weaken (.punct "!" rfl)) (.value .nil) fun bang bang' kin' => ?_
  exact (parallel_bracketed core inner (kin.append kin')).weaken

/-- The tail is read as an attribute only as a whole. -/
private theorem rest_of_bracketed (core : RulesCore .alone 0 rules rules) {inner : Bool}
    {lead rest : Lexemes} {attr : Attribute} {text : String} {stream : Lexemes} (sound : Sound stream)
    (shape : stream.tokens = [.opening .bracket,.ident ⟨"doc",false⟩,.punct '=' false,.literal text,
      .closing .bracket]) (kin : Kin .alone lead lead)
    (read : bracketed rules inner lead stream = some (attr,rest)) :
    rest = [] ∧ AttributeKin c attr attr := by
  have state : Comparison.alone.State .outside stream stream :=
    ⟨sound,.inl ⟨stream,by simp [Comparison.alone],nofun,nofun,nofun⟩⟩
  have run : Parallel .alone 0 .outside .later .solid _ _ _ := parallel_bracketed core inner kin
  obtain ⟨other,left,_,⟨taken,split,enclosed,filled,_⟩,related,_⟩ :=
    (run stream stream state nofun).1 attr rest read
  refine ⟨?_,rfl,related.tokens.self⟩
  -- No part of it but the whole has its bracket closed.
  have left := congrArg (List.drop taken.length) shape
  rw [split,tokens_append,List.drop_left' (by simp [Lexemes.tokens])] at left
  have closed := enclosed [] rest.tokens
  rw [← tokens_append,← split,shape] at closed
  have some := List.length_pos_iff.mpr filled
  rcases Nat.lt_or_ge 4 taken.length with long | short
  · rw [List.drop_eq_nil_of_le (show 5 ≤ taken.length from long)] at left
    simpa [Lexemes.tokens] using left
  · obtain one | two | three | four : taken.length = 1 ∨ taken.length = 2 ∨ taken.length = 3 ∨
        taken.length = 4 := by omega
    · simp [left,one,balanced] at closed
    · simp [left,two,balanced] at closed
    · simp [left,three,balanced] at closed
    · simp [left,four,balanced] at closed

private theorem rest_of_attribute (core : RulesCore .alone 0 rules rules) {inner innerDoc : Bool}
    {comment : List Char} {stream rest : Lexemes} {attr : Attribute} (sound : Sound stream)
    (doc : docTokens innerDoc comment = some stream.tokens)
    (read : attribute? rules inner stream = some (attr,rest)) :
    rest = [] ∧ AttributeKin c attr attr := by
  unfold docTokens at doc
  split at doc
  case isFalse => cases doc
  have shape := (Option.some.inj doc).symm
  have mark (sign : Char) (span : Span) (punct : Lexer.isPunct sign = true) (noQuote : sign ≠ '\'') :
      Kin .alone [⟨.punct sign false,span⟩] [⟨.punct sign false,span⟩] := by
    refine .of_tokens rfl rfl ?_ (fun _ _ => rfl) (by simp [Lexemes.tokens,Token.unslashed])
    intro token member
    obtain rfl := List.mem_singleton.mp member
    exact ⟨punct,noQuote⟩
  obtain ⟨⟨token,span⟩,more,rfl,head,inside⟩ := List.map_eq_cons_iff.mp shape
  cases head
  have hash : Parser.punct "#" (⟨.punct '#' false,span⟩ :: more) =
    some ([⟨.punct '#' false,span⟩],more) := rfl
  rw [attribute_eq,run_bind,hash,Option.bind_some] at read
  have sound : Sound ([⟨.punct '#' false,span⟩] ++ more) := sound
  have kin := mark '#' span rfl (by decide)
  cases innerDoc with
  | false =>
    cases inner with
    | false => exact rest_of_bracketed core sound.rest inside (kin.append .nil) read
    | true =>
      obtain ⟨⟨token,span⟩,more,rfl,head,_⟩ := List.map_eq_cons_iff.mp inside
      cases head
      cases read
  | true =>
    obtain ⟨⟨token,span'⟩,more,rfl,head,group⟩ := List.map_eq_cons_iff.mp inside
    cases head
    cases inner with
    | false => cases read
    | true =>
      have sound : Sound ([⟨.punct '!' false,span'⟩] ++ more) := sound.rest
      have kin := kin.append (mark '!' span' rfl (by decide))
      exact rest_of_bracketed core sound.rest group kin read

private theorem parallel_attribute (rule : RulesKin c limit rules rules') (inner : Bool) :
    Parallel c limit place stage .begun (AttributeKin c) (attribute? rules inner)
      (attribute? rules' inner) := by
  intro first second state bound
  rcases state.ahead_or with ahead | ⟨open',beyond⟩
  · have run := parallelAt_attribute rule.toRulesCore inner state bound ahead
    exact run.mono (fun _ taken => taken.weaken) fun _ _ kin => kin
  · refine ⟨fun attr rest read => ?_,fun _ inside _ => absurd inside open'⟩
    rcases beyond with rfl | ⟨rfl,followed⟩
    · cases read
    · suffices whole : rest = [] ∧ AttributeKin c attr attr by
        obtain ⟨rfl,kin⟩ := whole
        have spent := Comparison.Spent.nil followed open'
        refine ⟨attr,second,⟨?_,.inr spent⟩,?_,kin,fun _ live => absurd live spent.not_live⟩
        · have sound : Sound (c.tail ++ []) := by simpa using state.sound
          exact sound.rest
        · exact ⟨c.tail,by simp,c.tail_enclosed,followed⟩
      rcases c.form with none | ⟨joint,span,comma⟩ | ⟨_,innerDoc,comment,doc⟩
      · exact absurd none followed
      · rw [comma] at read
        cases read
      · exact rest_of_attribute rule.alone state.sound doc read

theorem parallel_outerAttributes (rule : RulesKin c limit rules rules') :
    Parallel c limit place stage .loose (List.Forall₂ (AttributeKin c)) (outerAttributes rules)
      (outerAttributes rules') :=
  .many (Blind.punct "#" rfl).steady (parallel_attribute rule false).loosen

theorem parallel_innerAttributes (rule : RulesKin c limit rules rules') :
    Parallel c limit place stage .loose (List.Forall₂ (AttributeKin c)) (innerAttributes rules)
      (innerAttributes rules') :=
  .many Blind.opensInnerAttribute.steady (parallel_attribute rule true).loosen

theorem kin_attributes {attributes attributes' : List Attribute}
    (each : List.Forall₂ (AttributeKin c) attributes attributes') :
    Kin c (attributes.flatMap Attribute.tokens) (attributes'.flatMap Attribute.tokens) :=
  .flatMap each fun _ _ kin => kin.tokens

theorem parallel_attributeTokens (rule : RulesKin c limit rules rules') :
    Parallel c limit place stage .loose (Kin c) (attributeTokens rules) (attributeTokens rules') :=
  .bind (parallel_outerAttributes rule) fun _ _ each => .pure (kin_attributes each)

/-! Visibilities and blocks. -/

private theorem parallelAt_restriction {first second : Lexemes} (state : c.State place first second)
    (bound : c.compared → c.Live place first second → second.length < stage.bound limit)
    (seen : View.opening .parenthesis first = true) :
    ParallelAt c place .firm (Kin c) first second restriction restriction := by
  refine .inside state seen fun inside inside' same => ?_
  refine (?choice : Parallel c limit place stage _ _ _ _) first second state bound
  refine .ifBool (same _ Blind.opensRestriction.steady)
    (.ifBool (same _ (.second (.atEnd nofun))) ?_ (.pure .nil))
    (.ifBool (same _ (Blind.keyword "in").steady) ?_ (.pure .nil))
  · exact (Parallel.group .parenthesis Parallel.word.loosen).weaken
  · refine (Parallel.group .parenthesis ?_).weaken
    refine .bind (.keyword "in") fun keyword keyword' kin => ?_
    exact .bind parallel_plainPath fun path path' kin' => .pure (kin.append kin'.tokens.toKin)

theorem parallel_visibility :
    Parallel c limit place stage .firm (Kin c) visibility visibility := by
  refine .optionally (.keyword "pub") ?_
  refine .bind (.keyword "pub") fun keyword keyword' kin => ?_
  refine .bind (?limited : Parallel _ _ _ _ .firm (Kin c) _ _) fun limited limited' kin' =>
    .pure (kin.append kin')
  refine .peekAt (Blind.opening .parenthesis).steady fun first second state bound => ?_
  cases seen : View.opening .parenthesis first with
  | true => exact parallelAt_restriction state bound seen
  | false => exact Parallel.pure .nil first second state bound

theorem parallel_block (core : RulesCore c limit rules rules') :
    Parallel c limit place stage .solid (Kin c) (block rules) (block rules') :=
  .group .brace core.statements.loosen

theorem parallel_attributedBlock (rule : RulesKin c limit rules rules') :
    Parallel c limit place stage .solid (Kin c) (attributedBlock rules) (attributedBlock rules') := by
  refine .group .brace ?_
  refine .bind (parallel_innerAttributes rule) fun attributes attributes' each => ?_
  exact .bind rule.statements fun tokens tokens' kin => .pure ((kin_attributes each).append kin)

/-! Paths and their arguments. -/

theorem parallel_constArgument (rule : RulesKin c limit rules rules') :
    Parallel c limit place stage .solid (Kin c) (constArgument rules) (constArgument rules') :=
  .peekIf .literal .literal (.peekIf .ident .ident (parallel_attributedBlock rule))

private theorem QualifiedKin.named {qualified other : QualifiedPath} (kin : QualifiedKin c qualified other) :
    namesAssociated (.path qualified) = namesAssociated (.path other) := by
  obtain ⟨root,⟨segments⟩⟩ := qualified
  obtain ⟨root',⟨segments'⟩⟩ := other
  have rooted := kin.isQualified
  have global := kin.path.isGlobal
  have each : List.Forall₂ (SegmentKin c) segments segments' := kin.path
  simp only [namesAssociated,rooted,global]
  congr 1
  match segments, segments', each with
  | [], [], _ => rfl
  | [segment], [segment'], .cons head _ => exact congrArg (!·) head.arguments.isParenthesized
  | _ :: _ :: _, _ :: _ :: _, _ => rfl

private theorem TypeFormKin.named {form form' : TypeForm} (kin : TypeFormKin c form form') :
    namesAssociated form = namesAssociated form' := by
  cases kin with
  | path kin => exact kin.named
  | _ => rfl

private theorem parallel_genericArgument (rule : RulesKin c limit rules rules') (inner : place ≠ .outside) :
    Parallel c limit place .later .loose (Tagged c) (genericArgument rules)
      (genericArgument rules') := by
  have finished {tokens tokens' : Lexemes} (kin : Kin c tokens tokens') :
      Parallel c limit place .later .loose (Tagged c) (pure (false,tokens)) (pure (false,tokens')) :=
    .pure ⟨rfl,kin⟩
  refine .peekIf (.ledBut .lifetime .lifetime (.second (.punct "+" rfl))) ?_ (.peekIf .opensConstArgument ?_ ?_)
  · exact .bind .lifetime fun tokens tokens' kin => .pure ⟨rfl,kin⟩
  · exact .bind (parallel_constArgument rule) fun tokens tokens' kin => finished kin
  refine .bind (rule.type _ true) fun argument argument' kin => ?_
  refine .ifBool kin.form.named ?_ (finished kin.tokens)
  refine .peekIf (.punct "=" rfl) ?_ (.peekIf (.punct ":" rfl) ?_ (finished kin.tokens))
  · refine .bind (.punct "=" rfl) fun equals equals' mark => ?_
    refine .peekIf .opensConstArgument ?_ ?_
    · exact .bind (parallel_constArgument rule) fun value value' kin' =>
        finished ((kin.tokens.append mark).append kin')
    · exact .bind (rule.type _ true) fun value value' kin' =>
        finished ((kin.tokens.append mark).append kin'.tokens)
  · refine .bind (.punct ":" rfl) fun colon colon' mark => ?_
    have stop : Steady c place (.any [.punct ",",.punct ">"]) :=
      .any (by simp [Steady.comma inner,(Blind.punct (c := c) ">" rfl).steady])
    refine .bind (.joined stop (rule.bound _ false true).loosen (Blind.punct "+" rfl).steady
      fun _ => (Parallel.punct "+" rfl).loosen) fun bounds bounds' each => ?_
    exact finished ((kin.tokens.append mark).append (each.tokens fun _ _ kin => kin.tokens))

private theorem kin_comma : Kin c [comma] [comma] := by
  refine .of_tokens rfl rfl ?_ (fun _ _ => rfl) rfl
  intro token member
  obtain rfl := List.mem_singleton.mp member
  exact ⟨rfl,by decide⟩

private theorem Tagged.filter {arguments arguments' : Separated (Bool × Lexemes)}
    (each : SeparatedKin c (Tagged c) arguments arguments') (keep : Bool → Bool) :
    SeparatedKin c (Tagged c) (arguments.filter fun argument => keep argument.1.1)
      (arguments'.filter fun argument => keep argument.1.1) := by
  induction each with
  | nil => exact .nil
  | @cons argument argument' _ _ both _ ih =>
    rw [List.filter_cons,List.filter_cons,both.1.1]
    split
    · exact .cons both ih
    · exact ih

theorem kin_lifetimesFirst {arguments arguments' : Separated (Bool × Lexemes)}
    (each : SeparatedKin c (Tagged c) arguments arguments') :
    Kin c (lifetimesFirst arguments) (lifetimesFirst arguments') := by
  have lifetimes := Tagged.filter each id
  have others := Tagged.filter each (!·)
  have marked := lifetimes.marked
  rw [lifetimesFirst,lifetimesFirst]
  simp only [id] at marked
  simp only [marked,others.isEmpty]
  refine .append (.append (lifetimes.tokens fun _ _ tagged => tagged.2) ?_)
    (others.tokens fun _ _ tagged => tagged.2)
  split
  · exact .nil
  · exact kin_comma

theorem Place.within_inner (place : Place) : place.within ≠ .outside := by
  cases place <;> nofun

theorem parallel_angledArguments (rule : RulesKin c limit rules rules') :
    Parallel c limit place stage .solid (ArgumentsKin c) (angledArguments rules)
      (angledArguments rules') := by
  refine .bind (.optionalPunct "::" rfl) fun colons colons' kin => ?_
  refine .bind (.punct "<" rfl) fun opening opening' kin' => ?_
  refine .closing ">" rfl (.separated (Blind.punct ">" rfl).steady
    (parallel_genericArgument rule place.within_inner) fun _ => Parallel.comma.loosen)
    fun arguments arguments' closing closing' each mark => ?_
  rw [each.isEmpty]
  exact .pure (.angled _ (((kin.append kin').append (kin_lifetimesFirst each)).append mark))

private theorem parallel_segment (rule : RulesKin c limit rules rules') (inExpr : Bool)
    {separator separator' : Lexemes} (kin : Bare c separator separator') :
    Parallel c limit place stage .solid (SegmentKin c) (segment rules inExpr separator)
      (segment rules' inExpr separator') := by
  refine .nextSeen (.any (by simp)) (.any (by simp)) (fun name name' named =>
    .pure ⟨kin,named,.none⟩) ?_
  refine .bind (.take (.any (by simp)) (.any (by simp))) fun name name' named => ?_
  refine .peekIf (.opensArguments inExpr) ?_ (.pure ⟨kin,named,.none⟩)
  exact .bind (parallel_angledArguments rule) fun arguments arguments' given =>
    .pure ⟨kin,named,given⟩

theorem parallel_moreSegments (rule : RulesKin c limit rules rules') (inExpr : Bool)
    {path path' : Path} (kin : PathKin c path path') :
    Parallel c limit place stage .firm (PathKin c) (moreSegments rules inExpr path)
      (moreSegments rules' inExpr path') := by
  refine .loop (fun path path' kin => ?_) kin
  refine .peekIf (.colonsButThird (.opening .parenthesis)) ?_ (.pure ⟨kin,rfl⟩)
  refine .bind parallel_colons fun separator separator' colons => ?_
  exact .bind (parallel_segment rule inExpr colons) fun segment segment' last =>
    .pure ⟨kin.snoc last,rfl⟩

theorem parallel_path (rule : RulesKin c limit rules rules') (inExpr : Bool) :
    Parallel c limit place stage .solid (PathKin c) (path rules inExpr) (path rules' inExpr) := by
  refine .bind parallel_optionalColons fun leading leading' colons => ?_
  refine .bind (parallel_segment rule inExpr colons) fun segment segment' first => ?_
  exact parallel_moreSegments rule inExpr (.cons first .nil)

private theorem bind_pair {α β γ : Type} (p : Parser α) (q : α → Parser β) (f : α → β → Parser γ) :
    (p >>= fun a => q a >>= f a) =
      (p >>= fun a => q a >>= fun b => pure (a,b)) >>= fun both => f both.1 both.2 := by
  funext input
  simp only [run_bind]
  cases p input with
  | none => rfl
  | some read =>
    simp only [Option.bind_some]
    cases q read.1 read.2 <;> rfl

theorem parallel_qualifiedPath (rule : RulesKin c limit rules rules') (inExpr : Bool) :
    Parallel c limit place stage .solid (QualifiedKin c) (qualifiedPath rules inExpr)
      (qualifiedPath rules' inExpr) := by
  refine .peekIf (.punct "<" rfl) ?_ ?_
  · refine .bind (.sign "<" rfl) fun opening opening' spelled => ?_
    rw [bind_pair (rules.type true),bind_pair (rules'.type true)]
    refine .closing ">" rfl (?inside : Parallel _ _ _ _ _ (fun both both' =>
      TypeKin c both.1 both'.1 ∧ Kin c both.2 both'.2) _ _) ?_
    case inside =>
      refine .bind (rule.type _ true) fun type type' typed => ?_
      refine .bind (.optionally (.keyword "as") ?_) fun asTrait asTrait' bounded =>
        .pure ⟨typed,bounded⟩
      refine .bind (.keyword "as") fun keyword keyword' kin => ?_
      exact .bind (parallel_path rule false) fun path path' kin' => .pure (kin.append kin'.tokens.toKin)
    rintro ⟨type,asTrait⟩ ⟨type',asTrait'⟩ closing closing' ⟨typed,bounded⟩ mark
    refine .bind parallel_colons fun separator separator' colons => ?_
    refine .bind (parallel_segment rule inExpr colons) fun segment segment' first => ?_
    refine .bind (?segments : Parallel _ _ _ _ .firm (List.Forall₂ (SegmentKin c)) _ _)
      fun segments segments' each => .pure ⟨?_,each⟩
    case segments =>
      refine .loop (fun segments segments' each => ?_) (.cons first .nil)
      refine .peekIf (.punct "::" rfl) ?_ (.pure ⟨each,rfl⟩)
      refine .bind parallel_colons fun separator separator' colons => ?_
      exact .bind (parallel_segment rule inExpr colons) fun segment segment' last =>
        .pure ⟨List.rel_append each (.cons last .nil),rfl⟩
    have root := spelled.append (by decide) ((typed.tokens.append bounded).append mark)
    simpa using root
  · exact .bind (parallel_path rule inExpr) fun path path' kin => .pure ⟨.nil,kin⟩

theorem parallel_macroCall :
    Parallel c limit place stage .solid (Tagged c) macroCall macroCall := by
  refine .bind (.punct "!" rfl) fun bang bang' kin => ?_
  refine .peek (.opening .brace) fun braced => ?_
  exact .bind .anyGroup fun tokens tokens' kin' => .pure ⟨rfl,kin.append kin'⟩

end

end CaseSynthesis.Grammar
