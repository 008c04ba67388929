import CaseSynthesis.Proofs.Numbers
import CaseSynthesis.Proofs.Parallel.Type

/-! Patterns, read side by side. -/

namespace CaseSynthesis.Grammar

open CaseSynthesis.Grammar.Parser

section

variable {c : Comparison} {limit : Nat} {place : Place} {stage : Stage} {rules rules' : Rules}

@[simp] theorem Blind.opensAlternative : Blind c opensAlternative := by
  have other : Blind c (.any [.punct "||",.punct "|="]) := .any (by simp)
  exact .but (.punct "|" rfl) other

@[simp] theorem Blind.opensPath : Blind c opensPath := .any (by simp)

private theorem Blind.opensPathPattern : Blind c opensPathPattern := by
  have after : Blind c (.any [.punct "::",.punct "!",.opening .brace,.opening .parenthesis,
    .punct ".."]) := .any (by simp)
  have named : Blind c (.all [.ident,.second (.any [.punct "::",.punct "!",.opening .brace,
    .opening .parenthesis,.punct ".."])]) := .led (by simp) (by simp) (by simp [after])
  have self : Blind c (.all [.keyword "self",.second (.punct "::")]) :=
    .led (by simp) (by simp) (by simp)
  exact .any (by simp [named,self])

private theorem Steady.endsRange : Steady c place endsRange := by
  have colon : Blind c (View.but (.punct ":") (.punct "::")) := .but (.punct ":" rfl) (.punct "::" rfl)
  refine .stops (by simp) (by simp) fun view member => ?_
  simp only [List.mem_cons,List.not_mem_nil,or_false] at member
  rcases member with rfl | rfl | rfl | rfl | rfl | rfl | rfl
  · exact .inl rfl
  · exact .inr (.inr (.punct "|" rfl))
  · exact .inr (.inr (.punct "=" rfl))
  · exact .inr (.inr colon)
  · exact .inr (.inl rfl)
  · exact .inr (.inr (.punct ";" rfl))
  · exact .inr (.inr (.keyword "if"))

/-! Members. -/

theorem kin_token {token : Token} (legible : token.Legible)
    (plain : isPlain token = true) (span span' : Span) : Kin c [⟨token,span⟩] [⟨token,span'⟩] := by
  refine .of_tokens rfl rfl ?_ (plain_enclosed ⟨token,span⟩ plain) ?_
  · intro other member
    obtain rfl := List.mem_singleton.mp member
    exact legible
  · have slash := plain_slash plain true
    simpa [Lexemes.tokens,Token.unslashed] using slash

theorem Kin.single_alike {lexeme other : Lexeme} (kin : Kin c [lexeme] [other]) :
    c.Alike lexeme.token other.token := by
  obtain ⟨_,_,resembles,_,same⟩ := List.forall₂_cons_left_iff.mp kin.alike
  cases same
  exact resembles

private theorem parallel_indexMember :
    Parallel c limit place stage .solid (fun lexeme other => Kin c [lexeme] [other]) indexMember
      indexMember := by
  refine .bind (.take .literal .literal) fun lexeme lexeme' kin => ?_
  obtain ⟨token,span⟩ := lexeme
  obtain ⟨token',span'⟩ := lexeme'
  rcases kin.single_alike with same | ⟨_,sign,one,two⟩
  · cases same
    cases token with
    | literal text =>
      cases number : memberIndex? text with
      | some value =>
        simp only [number]
        exact .pure (kin_token (legible_decimal value) rfl span span')
      | none =>
        simp only [number]
        exact .fail
    | _ => exact .fail
  · cases one
    cases two
    exact .fail

theorem parallel_member :
    Parallel c limit place stage .solid (Tagged c) member member := by
  refine .peekIf .ident ?_ ?_
  · exact .bind .ident fun name name' kin => .pure ⟨rfl,kin⟩
  · exact .bind parallel_indexMember fun index index' kin => .pure ⟨rfl,kin⟩

/-! Patterns. -/

private theorem isEmpty_kin {phrases others : List Lexemes} (each : List.Forall₂ (Kin c) phrases others) :
    phrases.isEmpty = others.isEmpty := by
  cases each <;> rfl

theorem parallel_alternatives (core : RulesCore c limit rules rules') :
    Parallel c limit place .later .solid (PatternKin c) (alternatives rules)
      (alternatives rules') := by
  refine .bind (.optionalPunct "|" rfl) fun leading leading' kin => ?_
  refine .bind (core.pattern _) fun first first' kin' => ?_
  refine .bind (.many Blind.opensAlternative.steady (?round : Parallel _ _ _ _ .firm (Kin c) _ _))
    fun rest rest' each => ?_
  case round =>
    refine .bind (.punct "|" rfl) fun bar bar' mark => ?_
    exact .bind (core.pattern _) fun next next' more => .pure (mark.append more.tokens)
  have alone : (leading.isEmpty && rest.isEmpty) = (leading'.isEmpty && rest'.isEmpty) := by
    rw [kin.isEmpty,isEmpty_kin each]
  refine .ifBool alone (.pure kin') (.pure ⟨rfl,?_⟩)
  exact (kin.append kin'.tokens).append (.flatten each)

theorem parallel_constBlock (rule : RulesKin c limit rules rules') :
    Parallel c limit place stage .solid (Kin c) (constBlock rules) (constBlock rules') :=
  .bind (.keyword "const") fun _ _ kin => .bind (parallel_attributedBlock rule) fun _ _ kin' =>
    .pure (kin.append kin')

private theorem parallel_rangeBound (rule : RulesKin c limit rules rules') :
    Parallel c limit place stage .solid (Kin c) (rangeBound rules) (rangeBound rules') := by
  refine .peekIf .literal .literal (.peekIf .opensPath ?_ (parallel_constBlock rule))
  exact .bind (parallel_qualifiedPath rule true) fun path path' kin => .pure kin.tokens.toKin

private theorem parallel_optionalRangeBound (rule : RulesKin c limit rules rules') :
    Parallel c limit place stage .firm (Kin c) (optionalRangeBound rules)
      (optionalRangeBound rules') :=
  .peekIfIn .endsRange (.pure .nil) (parallel_rangeBound rule).weaken

/-- Lexemes that are given other tokens. -/
private theorem tokens_zipWith (lexemes : Lexemes) (tokens : List Token)
    (same : lexemes.length = tokens.length) :
    Lexemes.tokens (lexemes.zipWith (fun lexeme token => { lexeme with token }) tokens) = tokens := by
  induction lexemes generalizing tokens with
  | nil =>
    obtain rfl : tokens = [] := List.length_eq_zero_iff.mp same.symm
    rfl
  | cons lexeme lexemes ih =>
    cases tokens with
    | nil => cases same
    | cons token tokens => exact congrArg _ (ih tokens (by simpa using same))

private theorem Spelled.length {text : String} {first second : Lexemes}
    (spelled : Spelled c text first second) :
    first.length = (signTokens text.toList).length ∧
      second.length = (signTokens text.toList).length := by
  constructor
  · rw [← spelled.2.1]
    simp [Lexemes.tokens]
  · rw [← spelled.2.2]
    simp [Lexemes.tokens]

private theorem parallel_patternRangeSign :
    Parallel c limit place stage .solid (Tagged c) patternRangeSign patternRangeSign := by
  refine .peekIf (.punct "..=" rfl) ?_ (.peekIf (.punct "..." rfl) ?_ ?_)
  · exact .bind (.punct "..=" rfl) fun sign sign' kin => .pure ⟨rfl,kin⟩
  · refine .bind (.sign "..." rfl) fun dots dots' spelled => .pure ⟨rfl,?_⟩
    have respelled := (isSpelling_iff "..=").mp (by decide)
    refine .of_tokens (tokens_zipWith _ _ spelled.length.1) (tokens_zipWith _ _ spelled.length.2) ?_
      (signTokens_enclosed "..=".toList) rfl
    intro token member
    obtain ⟨sign,listed,joint,rfl⟩ := mem_signTokens "..=".toList token member
    exact respelled.2.1 sign listed
  · exact .bind (.punct ".." rfl) fun sign sign' kin => .pure ⟨rfl,kin⟩

private theorem parallel_rangeFrom (rule : RulesKin c limit rules rules') {start start' : Lexemes}
    (kin : Kin c start start') :
    Parallel c limit place stage .solid (PatternKin c) (rangeFrom rules start)
      (rangeFrom rules' start') := by
  refine .bind parallel_patternRangeSign ?_
  rintro ⟨closed,sign⟩ ⟨closed',sign'⟩ ⟨same,mark⟩
  obtain rfl : closed = closed' := same
  refine .bind (parallel_optionalRangeBound rule) fun bound bound' kin' => ?_
  rw [kin'.isEmpty]
  refine .bind (.require rfl) fun _ _ _ => .pure ⟨?_,(kin.append mark).append kin'⟩
  rfl

private theorem parallel_fieldPattern (rule : RulesKin c limit rules rules') :
    Parallel c limit place stage .solid (Kin c) (fieldPattern rules) (fieldPattern rules') := by
  refine .getAt fun before before' state bound => ?_
  refine (Parallel.optionalKeyword "box").bindAt state bound
    fun boxed boxed' _ _ kin reached bound taken => ?_
  refine (Parallel.optionalKeyword "ref").bindAt reached bound
    fun byRef byRef' _ _ kin' reached bound more => ?_
  have taken : c.Taken .firm before _ := taken.trans more
  refine (Parallel.optionalKeyword "mut").bindAt reached bound
    fun mutable mutable' rest left kin'' reached bound more => ?_
  have taken : c.Taken .firm before _ := taken.trans more
  have modifiers := (kin.append kin').append kin''
  simp only [modifiers.isEmpty,kin.isEmpty]
  cases (boxed' ++ byRef' ++ mutable').isEmpty with
  | true =>
    refine (?named : Parallel c limit place stage .solid (Kin c) _ _) rest left reached bound
    refine .bind parallel_member ?_
    rintro ⟨named,name⟩ ⟨named',name'⟩ ⟨same,kin⟩
    obtain rfl : named = named' := same
    refine .peek (.punct ":" rfl) fun ahead => .ifBool rfl ?_ (.pure kin)
    refine .bind (.punct ":" rfl) fun colon colon' mark => ?_
    exact .bind (parallel_alternatives rule.toRulesCore) fun pattern pattern' inner =>
      .pure ((kin.append mark).append inner.tokens)
  | false =>
    refine Parallel.ident.bindAt reached bound fun name name' rest left kin reached bound more => ?_
    cases boxed'.isEmpty with
    | true => exact Parallel.pure (modifiers.append kin) rest left reached bound
    | false => exact .since state reached (taken.trans more.weaken) fun _ _ kin => kin

private theorem parallel_fieldPatterns (rule : RulesKin c limit rules rules') :
    Parallel c limit .grouped stage .loose (Kin c) (fieldPatterns rules) (fieldPatterns rules') := by
  refine .loop (fun tokens tokens' kin => ?_) .nil
  refine .peekIfIn (.atEnd nofun) (.pure ⟨kin,rfl⟩) ?_
  refine .bind (parallel_attributeTokens rule) fun attributes attributes' kin' => ?_
  have before := kin.append kin'
  refine .peekIf (.punct ".." rfl) ?_ ?_
  · exact .bind (.punct ".." rfl) fun dots dots' mark => .pure ⟨before.append mark,rfl⟩
  · refine .bind (parallel_fieldPattern rule) fun field field' more => ?_
    refine .peekIfIn (.atEnd nofun) (.pure ⟨before.append more,rfl⟩) ?_
    exact .bind .comma fun comma comma' mark => .pure ⟨(before.append more).append mark,rfl⟩

private theorem parallel_commaPatterns (core : RulesCore c limit rules rules') :
    Parallel c limit .grouped .later .loose (SeparatedKin c (PatternKin c)) (commaPatterns rules)
      (commaPatterns rules') :=
  .commaSeparated (parallel_alternatives core)

private theorem kin_patternTokens {patterns patterns' : Separated Pattern}
    (each : SeparatedKin c (PatternKin c) patterns patterns') :
    Kin c (patternTokens patterns) (patternTokens patterns') := each.tokens fun _ _ kin => kin.tokens

private theorem parallel_tuplePattern (core : RulesCore c limit rules rules') :
    Parallel c limit place stage .solid (Kin c)
      (group .parenthesis do return patternTokens (← commaPatterns rules))
      (group .parenthesis do return patternTokens (← commaPatterns rules')) :=
  .group .parenthesis (.bind (parallel_commaPatterns core) fun _ _ each =>
    .pure (kin_patternTokens each))

private theorem parallel_pathPattern (rule : RulesKin c limit rules rules') :
    Parallel c limit place stage .solid (PatternKin c) (pathPattern rules) (pathPattern rules') := by
  refine .bind (parallel_qualifiedPath rule true) fun path path' kin => ?_
  have tokens := kin.tokens.toKin
  have plain : (!path.isQualified && path.path.isPlain) =
      (!path'.isQualified && path'.path.isPlain) := by
    rw [kin.isQualified,kin.path.isPlain]
  refine .peek .opensMacroCall fun ahead => .ifBool (by rw [plain]) ?_ ?_
  · refine .bind parallel_macroCall fun call call' tagged => .pure ⟨rfl,tokens.append tagged.2⟩
  refine .peekIf (.opening .brace) ?_ (.peekIf (.opening .parenthesis) ?_
    (.peekIf (.punct ".." rfl) (parallel_rangeFrom rule tokens).weaken (.pure ⟨rfl,tokens⟩)))
  · exact .bind (.group .brace (parallel_fieldPatterns rule)) fun fields fields' kin' =>
      .pure ⟨rfl,tokens.append kin'⟩
  · exact .bind (parallel_tuplePattern rule.toRulesCore) fun fields fields' kin' =>
      .pure ⟨rfl,tokens.append kin'⟩

private theorem parallel_bindingPattern (core : RulesCore c limit rules rules') :
    Parallel c limit place stage .solid (PatternKin c) (bindingPattern rules)
      (bindingPattern rules') := by
  refine .bind (.optionalKeyword "ref") fun byRef byRef' kin => ?_
  refine .bind (.optionalKeyword "mut") fun mutable mutable' kin' => ?_
  refine .either (.keyword "self") (.keyword "self") .ident fun name name' named => ?_
  refine .bind (.optionally (.punct "@" rfl) ?_) fun inner inner' more =>
    .pure ⟨rfl,((kin.append kin').append named).append more⟩
  refine .bind (.punct "@" rfl) fun mark mark' kin => ?_
  exact .bind (core.pattern _) fun pattern pattern' inner => .pure (kin.append inner.tokens)

private theorem parallel_restPattern (rule : RulesKin c limit rules rules') :
    Parallel c limit place stage .solid (PatternKin c) (restPattern rules) (restPattern rules') := by
  refine .bind parallel_patternRangeSign ?_
  rintro ⟨closed,sign⟩ ⟨closed',sign'⟩ ⟨same,kin⟩
  obtain rfl : closed = closed' := same
  refine .bind (parallel_optionalRangeBound rule) fun bound bound' kin' => ?_
  refine .ifBool kin'.isEmpty ?_ (.pure ⟨rfl,kin.append kin'⟩)
  exact .bind (.require rfl) fun _ _ _ => .pure ⟨rfl,kin⟩

private theorem parallel_slicePattern (core : RulesCore c limit rules rules') :
    Parallel c limit place stage .solid (PatternKin c) (slicePattern rules)
      (slicePattern rules') := by
  refine .bind (.enclosed .bracket (parallel_commaPatterns core)) ?_
  rintro _ _ ⟨each,opening,closing,opening',closing'⟩
  rename_i patterns patterns'
  have closed : (patterns.all fun phrase => phrase.1.form != .openRange) =
      patterns'.all fun phrase => phrase.1.form != .openRange := by
    induction each with
    | nil => rfl
    | cons both _ ih => rw [List.all_cons,List.all_cons,ih,both.1.form]
  refine .bind (.require closed) fun _ _ _ => .pure ⟨rfl,?_⟩
  exact (kin_patternTokens each).wrap .bracket opening closing opening' closing'

theorem parallel_pattern (rule : RulesKin c limit rules rules') :
    Parallel c limit place stage .solid (PatternKin c) (pattern rules) (pattern rules') := by
  have core := rule.toRulesCore
  refine .peekIf .opensPathPattern (parallel_pathPattern rule) (.peekIf (.keyword "_") ?_
    (.peekIf (.keyword "box") ?_ (.peekIf (.any (by simp)) ?_ (.peekIf (.any (by simp))
      (parallel_bindingPattern core) (.peekIf (.punct "&" rfl) ?_ (.peekIf (.opening .parenthesis) ?_
        (.peekIf (.opening .bracket) (parallel_slicePattern core)
          (.peekIf (.but (.punct ".." rfl) (.punct "..." rfl)) (parallel_restPattern rule) .fail))))))))
  · exact .bind (.keyword "_") fun name name' kin => .pure ⟨rfl,kin⟩
  · refine .bind (.verbatim (R := PatternKin c) ?_) fun tokens tokens' kin => .pure ⟨rfl,kin⟩
    exact .bind (.keyword "box") fun keyword keyword' _ => (core.pattern _).weaken
  · refine .bind (parallel_rangeBound rule) fun start start' kin => ?_
    exact .peekIf (.punct ".." rfl) (parallel_rangeFrom rule kin).weaken (.pure ⟨rfl,kin⟩)
  · refine .bind (.punct "&" rfl) fun ampersand ampersand' mark => ?_
    refine .bind (.optionalKeyword "mut") fun mutable mutable' kin => ?_
    exact .bind (core.pattern _) fun inner inner' kin' =>
      .pure ⟨rfl,(mark.append kin).append kin'.tokens⟩
  · exact .bind (parallel_tuplePattern core) fun tokens tokens' kin => .pure ⟨rfl,kin⟩

end

end CaseSynthesis.Grammar
