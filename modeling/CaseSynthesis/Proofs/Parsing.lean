import CaseSynthesis.Grammar.Entry
import CaseSynthesis.Proofs.Lexing
import CaseSynthesis.Proofs.Readers
import Mathlib.Tactic.Tauto

/-! Running parsers: what each combinator does to the tokens ahead, and from that what paths and
types are read where the tokens are names and double colons only. -/

namespace CaseSynthesis.Grammar.Parser

variable {α β : Type}

@[simp] theorem run_pure (value : α) (input : Lexemes) :
    (pure value : Parser α) input = some (value,input) := rfl

@[simp] theorem run_bind (parser : Parser α) (next : α → Parser β) (input : Lexemes) :
    (parser >>= next) input = (parser input).bind fun read => next read.1 read.2 := rfl

@[simp] theorem run_peek (view : View) (input : Lexemes) :
    peek view input = some (view input,input) := rfl

@[simp] theorem run_peekAny (views : List View) (input : Lexemes) :
    peekAny views input = some (views.any (· input),input) := rfl

@[simp] theorem run_require (condition : Bool) (input : Lexemes) :
    require condition input = if condition then some ((),input) else none := by
  cases condition <;> rfl

@[simp] theorem run_ite (condition : Prop) [Decidable condition] (first second : Parser α)
    (input : Lexemes) :
    (if condition then first else second) input =
      if condition then first input else second input := by
  split <;> rfl

@[simp] theorem run_take (view : View) (input : Lexemes) :
    take view input = if view input then next input else none := by
  simp only [take,run_bind,run_peek,run_require,Option.bind_some]
  cases view input <;> rfl

@[simp] theorem run_optionally (view : View) (parser : Parser Lexemes) (input : Lexemes) :
    optionally view parser input = if view input then parser input else some ([],input) := by
  simp only [optionally,run_bind,run_peek,Option.bind_some,run_ite,run_pure]

theorem run_loop_stop (body : α → Parser (α × Bool)) (state last : α) (input rest : Lexemes)
    (ran : body state input = some ((last,false),rest)) :
    loop body state input = some (last,rest) :=
  Text.ReaderOf.loop_stop body state last input rest ran

theorem run_loop_more (body : α → Parser (α × Bool)) (state next : α) (input rest : Lexemes)
    (ran : body state input = some ((next,true),rest)) (shorter : rest.length < input.length) :
    loop body state input = loop body next rest :=
  Text.ReaderOf.loop_more body state next input rest ran shorter

theorem run_loop_stuck (body : α → Parser (α × Bool)) (state next : α) (input rest : Lexemes)
    (ran : body state input = some ((next,true),rest)) (stuck : ¬ rest.length < input.length) :
    loop body state input = none :=
  Text.ReaderOf.loop_stuck body state next input rest ran stuck

theorem run_loop_fail (body : α → Parser (α × Bool)) (state : α) (input : Lexemes)
    (ran : body state input = none) : loop body state input = none :=
  Text.ReaderOf.loop_fail body state input ran

/-- The first round of a loop, and what follows it. -/
theorem loop_round {body : α → Parser (α × Bool)} {state found : α} {input rest : Lexemes}
    (read : loop body state input = some (found,rest)) :
    ∃ next more after, body state input = some ((next,more),after) ∧
      if more then after.length < input.length ∧ loop body next after = some (found,rest)
      else found = next ∧ rest = after := by
  cases ran : body state input with
  | none =>
    rw [run_loop_fail _ _ _ ran] at read
    cases read
  | some result =>
    obtain ⟨⟨next,more⟩,after⟩ := result
    refine ⟨next,more,after,rfl,?_⟩
    cases more with
    | false =>
      rw [run_loop_stop _ _ _ _ _ ran] at read
      cases read
      exact ⟨rfl,rfl⟩
    | true =>
      by_cases progress : after.length < input.length
      · rw [run_loop_more _ _ _ _ _ ran progress] at read
        exact ⟨progress,read⟩
      · rw [run_loop_stuck _ _ _ _ _ ran progress] at read
        cases read

end Parser

open CaseSynthesis.Grammar.Parser

theorem whole_read {α : Type} (phrase : Rules → Parser α) (lexemes : Lexemes) (value : α)
    (ran : phrase (nested (lexemes.length + 1)) lexemes = some (value,[])) :
    whole phrase lexemes = some value := by
  rw [whole,ran]

theorem whole_eq_some {α : Type} {phrase : Rules → Parser α} {lexemes : Lexemes} {value : α}
    (read : whole phrase lexemes = some value) :
    phrase (nested (lexemes.length + 1)) lexemes = some (value,[]) := by
  unfold whole at read
  split at read
  case h_1 found ran =>
    cases read
    exact ran
  case h_2 => cases read

private theorem whole_fail {α : Type} (phrase : Rules → Parser α) (lexemes : Lexemes)
    (ran : phrase (nested (lexemes.length + 1)) lexemes = none) : whole phrase lexemes = none := by
  rw [whole,ran]

def pathKeywords : List String := ["super","self","crate","try","Self"]

def isSegment (ident : Ident) : Bool := !ident.isKeyword || pathKeywords.contains ident.name

private theorem view_keyword (name : String) (ident : Ident) (span : Span) (rest : Lexemes) :
    View.keyword name (⟨.ident ident,span⟩ :: rest) = decide (ident = ⟨name,false⟩) := by
  simp [View.keyword,BEq.beq]

private theorem isSegment_iff (ident : Ident) :
    isSegment ident = true ↔
      (ident = ⟨"super",false⟩ ∨ ident = ⟨"self",false⟩ ∨ ident = ⟨"crate",false⟩ ∨
        ident = ⟨"try",false⟩) ∨ ident = ⟨"Self",false⟩ ∨ ident.isKeyword = false := by
  obtain ⟨name,raw⟩ := ident
  cases raw with
  | true => simp [isSegment,Ident.isKeyword]
  | false =>
    have listed : pathKeywords.contains name = true ↔ name = "super" ∨ name = "self" ∨
        name = "crate" ∨ name = "try" ∨ name = "Self" := by simp [pathKeywords]
    simp only [isSegment,Ident.isKeyword,Bool.not_false,Bool.true_and,Bool.or_eq_true,listed,
      Ident.mk.injEq,and_true,Bool.not_eq_true']
    tauto

private theorem run_segment (rules : Rules) (separator : Lexemes) (ident : Ident) (span : Span)
    (rest : Lexemes) (bare : opensArguments false rest = false) :
    segment rules false separator (⟨.ident ident,span⟩ :: rest) =
      if isSegment ident then some (⟨separator,⟨.ident ident,span⟩,.none⟩,rest) else none := by
  simp only [segment,run_bind,run_peekAny,Option.bind_some,run_ite,List.any_cons,List.any_nil,
    view_keyword,run_take,View.any,View.ident,next,run_peek,run_pure,Bool.or_false,Bool.or_eq_true,
    decide_eq_true_eq,Bool.not_eq_true',isSegment_iff]
  split
  · rename_i keyword
    rw [if_pos (.inl keyword)]
  · rename_i other
    split
    · rename_i named
      rw [if_pos (.inr named)]
      simp [bare]
    · rename_i reserved
      rw [if_neg (not_or.mpr ⟨other,reserved⟩)]
      rfl

private theorem run_moreSegments_nil (rules : Rules) (path : Path) :
    moreSegments rules false path [] = some (path,[]) :=
  run_loop_stop _ _ _ _ _ rfl

theorem run_colons (first second : Span) (rest : Lexemes) :
    punct "::" (⟨.punct ':' true,first⟩ :: ⟨.punct ':' false,second⟩ :: rest) =
      some ([⟨.punct ':' true,first⟩,⟨.punct ':' false,second⟩],rest) := rfl

private theorem run_moreSegments_cons (rules : Rules) (path : Path) (ident : Ident)
    (first second span : Span) (rest : Lexemes) (bare : opensArguments false rest = false) :
    moreSegments rules false path
        (⟨.punct ':' true,first⟩ :: ⟨.punct ':' false,second⟩ :: ⟨.ident ident,span⟩ :: rest) =
      if isSegment ident then
        moreSegments rules false ⟨path.segments ++
          [⟨[⟨.punct ':' true,first⟩,⟨.punct ':' false,second⟩],⟨.ident ident,span⟩,.none⟩]⟩ rest
      else none := by
  have ahead : View.but (.punct "::") (.third (.opening .parenthesis))
      (⟨.punct ':' true,first⟩ :: ⟨.punct ':' false,second⟩ :: ⟨.ident ident,span⟩ :: rest) =
        true := rfl
  have read := run_segment rules [⟨.punct ':' true,first⟩,⟨.punct ':' false,second⟩] ident span rest
    bare
  by_cases accepted : isSegment ident = true
  · rw [if_pos accepted] at read ⊢
    apply run_loop_more
    · simp only [run_bind,run_peek,ahead,if_true,Option.bind_some,run_colons,read,run_pure]
    · simp only [List.length_cons]
      omega
  · rw [if_neg accepted] at read ⊢
    apply run_loop_fail
    simp only [run_bind,run_peek,ahead,if_true,Option.bind_some,run_colons,read,Option.bind_none]

private theorem lexemes_of_segments (name : String) (names : List String) (lexemes : Lexemes)
    (ahead : lexemes.tokens = Lexer.segmentTokens (name :: names)) :
    ∃ first second span rest, lexemes = ⟨.punct ':' true,first⟩ :: ⟨.punct ':' false,second⟩ ::
        ⟨.ident ⟨name,false⟩,span⟩ :: rest ∧
      Lexemes.tokens rest = Lexer.segmentTokens names := by
  obtain ⟨⟨_,first⟩,_,rfl,rfl,colon⟩ := List.map_eq_cons_iff.mp ahead
  obtain ⟨⟨_,second⟩,_,rfl,rfl,named⟩ := List.map_eq_cons_iff.mp colon
  obtain ⟨⟨_,span⟩,rest,rfl,rfl,later⟩ := List.map_eq_cons_iff.mp named
  exact ⟨first,second,span,rest,rfl,later⟩

private theorem bare_of_segments (names : List String) (lexemes : Lexemes)
    (ahead : lexemes.tokens = Lexer.segmentTokens names) : opensArguments false lexemes = false := by
  cases names with
  | nil =>
    rw [List.map_eq_nil_iff.mp ahead]
    rfl
  | cons name names =>
    obtain ⟨first,second,span,rest,rfl,_⟩ := lexemes_of_segments name names lexemes ahead
    rfl

def outcome (read : Option (Path × Lexemes)) : Option (List Token × Lexemes) :=
  read.map fun (path,rest) => (path.tokens.tokens,rest)

private theorem outcome_moreSegments (rules : Rules) (names : List String) (lexemes : Lexemes) (path : Path)
    (ahead : lexemes.tokens = Lexer.segmentTokens names) :
    outcome (moreSegments rules false path lexemes) =
      if ∀ name ∈ names, isSegment ⟨name,false⟩ = true then
        some (path.tokens.tokens ++ Lexer.segmentTokens names,[])
      else none := by
  induction names generalizing lexemes path with
  | nil =>
    rw [List.map_eq_nil_iff.mp ahead,run_moreSegments_nil]
    simp [outcome,Lexer.segmentTokens]
  | cons name names ih =>
    obtain ⟨first,second,span,rest,rfl,later⟩ := lexemes_of_segments name names lexemes ahead
    rw [run_moreSegments_cons rules path _ first second span rest (bare_of_segments names rest later)]
    cases accepted : isSegment ⟨name,false⟩ with
    | false => simp [accepted,outcome]
    | true =>
      rw [if_pos rfl,ih rest _ later]
      simp [accepted,Path.tokens,Segment.tokens,Arguments.tokens,Lexemes.tokens,
        Lexer.segmentTokens]

private theorem outcome_firstSegment (rules : Rules) (leading : Lexemes) (first : String)
    (rest : List String) (span : Span) (lexemes : Lexemes)
    (ahead : lexemes.tokens = Lexer.segmentTokens rest) :
    outcome ((segment rules false leading (⟨.ident ⟨first,false⟩,span⟩ :: lexemes)).bind
        fun read => moreSegments rules false ⟨[read.1]⟩ read.2) =
      if ∀ name ∈ first :: rest, isSegment ⟨name,false⟩ = true then
        some (leading.tokens ++ .ident ⟨first,false⟩ :: Lexer.segmentTokens rest,[])
      else none := by
  rw [run_segment rules leading _ span lexemes (bare_of_segments rest lexemes ahead)]
  cases accepted : isSegment ⟨first,false⟩ with
  | false => simp [accepted,outcome]
  | true =>
    rw [if_pos rfl,Option.bind_some,outcome_moreSegments rules rest lexemes _ ahead]
    simp [accepted,Path.tokens,Segment.tokens,Arguments.tokens,Lexemes.tokens]

/-- A path is read from its tokens exactly if each of its names may be a segment. -/
private theorem outcome_path (rules : Rules) (global : Bool) (first : String) (rest : List String)
    (lexemes : Lexemes) (ahead : lexemes.tokens = Lexer.pathTokens global first rest) :
    outcome (path rules false lexemes) =
      if ∀ name ∈ first :: rest, isSegment ⟨name,false⟩ = true then
        some (Lexer.pathTokens global first rest,[])
      else none := by
  cases global with
  | true =>
    obtain ⟨one,two,span,later,rfl,tail⟩ := lexemes_of_segments first rest lexemes ahead
    exact outcome_firstSegment rules [⟨.punct ':' true,one⟩,⟨.punct ':' false,two⟩] first rest span
      later tail
  | false =>
    obtain ⟨⟨_,span⟩,later,rfl,rfl,tail⟩ := List.map_eq_cons_iff.mp ahead
    exact outcome_firstSegment rules [] first rest span later tail

theorem parsePath_tokens (global : Bool) (first : String) (rest : List String)
    (lexemes : Lexemes) (ahead : lexemes.tokens = Lexer.pathTokens global first rest) :
    (parsePath lexemes).map (fun path => path.tokens.tokens) =
      if ∀ name ∈ first :: rest, isSegment ⟨name,false⟩ = true then
        some (Lexer.pathTokens global first rest)
      else none := by
  have read := outcome_path (nested (lexemes.length + 1)) global first rest lexemes ahead
  split at read
  · rename_i accepted
    obtain ⟨⟨path,left⟩,ran,same⟩ := Option.map_eq_some_iff.mp read
    obtain ⟨tokens,rfl⟩ := Prod.mk.inj same
    rw [parsePath,whole_read _ lexemes path ran,if_pos accepted,Option.map_some,tokens]
  · rename_i refused
    have ran : path (nested (lexemes.length + 1)) false lexemes = none :=
      Option.map_eq_none_iff.mp read
    rw [parsePath,whole_fail _ lexemes ran,if_neg refused]
    rfl

theorem view_reserved (name : String) (reserved : name ∈ keywords) (ident : Ident)
    (plain : ident.isKeyword = false) (span : Span) (rest : Lexemes) :
    View.keyword name (⟨.ident ident,span⟩ :: rest) = false := by
  rw [view_keyword,decide_eq_false_iff_not]
  rintro rfl
  simp [Ident.isKeyword,reserved] at plain

private theorem run_typePath_ident (rules : Rules) (ident : Ident) (span : Span)
    (plain : ident.isKeyword = false) :
    typePath rules [⟨.ident ident,span⟩] =
      some (⟨[],⟨[⟨[],⟨.ident ident,span⟩,.none⟩]⟩⟩,[]) := by
  have accepted : isSegment ident = true := (isSegment_iff ident).mpr (.inr (.inr plain))
  have read := run_segment rules [] ident span [] rfl
  rw [if_pos accepted] at read
  have unqualified : View.punct "<" [⟨.ident ident,span⟩] = false := rfl
  have relative : View.punct "::" [⟨.ident ident,span⟩] = false := rfl
  simp only [typePath,qualifiedPath,path,optionalPunct,run_bind,run_peek,run_ite,run_optionally,
    unqualified,relative,Option.bind_some,read,run_moreSegments_nil,run_pure,Bool.false_eq_true,
    if_false]
  rw [run_loop_stop _ _ _ _ _ rfl]
  rfl

/-- One identifier alone is a type. -/
private theorem run_typeExpr_ident (rules : Rules) (ident : Ident) (span : Span)
    (plain : ident.isKeyword = false) :
    ∃ form, typeExpr rules true [⟨.ident ident,span⟩] = some (⟨form,[⟨.ident ident,span⟩]⟩,[]) := by
  have other (name : String) (reserved : name ∈ keywords) :=
    view_reserved name reserved ident plain span []
  have binder := other "for" (by decide)
  have parenthesis : View.opening .parenthesis [⟨.ident ident,span⟩] = false := rfl
  have function : opensFunctionType [⟨.ident ident,span⟩] = false := by
    simp [opensFunctionType,View.any,other "fn" (by decide),other "unsafe" (by decide),
      other "extern" (by decide)]
  have ahead : opensPathType [⟨.ident ident,span⟩] = true := by
    simp [opensPathType,View.any,View.ident,plain]
  simp only [typeExpr,optionalBinder,run_bind,run_optionally,binder,Option.bind_some,run_peek,run_ite,
    parenthesis,function,ahead,Bool.false_eq_true,if_false,List.isEmpty_nil,Bool.not_true,run_pure,
    if_true,pathType,run_typePath_ident rules ident span plain]
  exact ⟨_,rfl⟩

private theorem run_bounds_nil (rules : Rules) (plus captures constants : Bool) :
    bounds rules plus captures constants [] = none := by
  have missing : bound rules captures constants [] = none := by cases constants <;> rfl
  apply run_loop_fail
  rw [run_bind,missing]
  rfl

private theorem run_traitBounds_nil (rules : Rules) (plus captures constants : Bool) :
    traitBounds rules plus captures constants [] = none := by
  rw [traitBounds,run_bind,run_bounds_nil]
  rfl

private theorem run_object_nil (rules : Rules) (span : Span) :
    typeExpr rules true [⟨.ident ⟨"dyn",false⟩,span⟩] = none := by
  change (traitBounds rules true false false []).bind _ = none
  rw [run_traitBounds_nil]
  rfl

private theorem run_abstract_nil (rules : Rules) (span : Span) :
    typeExpr rules true [⟨.ident ⟨"impl",false⟩,span⟩] = none := by
  change (traitBounds rules true true true []).bind _ = none
  rw [run_traitBounds_nil]
  rfl

/-- A keyword alone is no type, whether it opens one or not. Of those without a raw form nothing is
said. -/
private theorem run_typeExpr_keyword (rules : Rules) (name : String) (span : Span)
    (reserved : name ∈ keywords) (escapable : name ∉ unrawable) :
    typeExpr rules true [⟨.ident ⟨name,false⟩,span⟩] = none := by
  -- The six keywords that open a type leave nothing to go on with.
  by_cases opener : name ∈ ["for","fn","unsafe","extern","dyn","impl"]
  · simp only [List.mem_cons,List.not_mem_nil,or_false] at opener
    rcases opener with rfl | rfl | rfl | rfl | rfl | rfl
    · rfl
    · rfl
    · rfl
    · rfl
    · exact run_object_nil rules span
    · exact run_abstract_nil rules span
  · have other (word : String) (apart : name ≠ word) :
        View.keyword word [⟨.ident ⟨name,false⟩,span⟩] = false := by
      rw [view_keyword,decide_eq_false_iff_not]
      simpa using apart
    have unnamed : View.ident [⟨.ident ⟨name,false⟩,span⟩] = false := by
      simp [View.ident,Ident.isKeyword,reserved]
    simp only [unrawable,List.mem_cons,List.not_mem_nil,or_false,not_or] at opener escapable
    obtain ⟨noBinder,noFunction,noUnsafe,noExtern,noObject,noImpl⟩ := opener
    obtain ⟨noBlank,noSuper,noSelf,noSelfType,noCrate⟩ := escapable
    have functions : opensFunctionType [⟨.ident ⟨name,false⟩,span⟩] = false := by
      simp [opensFunctionType,View.any,other,noFunction,noUnsafe,noExtern]
    have paths : opensPathType [⟨.ident ⟨name,false⟩,span⟩] = false := by
      simp only [opensPathType,View.any,List.any_cons,List.any_nil,unnamed,other _ noSuper,
        other _ noSelf,other _ noSelfType,other _ noCrate]
      rfl
    have absent : View.opening .parenthesis [⟨.ident ⟨name,false⟩,span⟩] = false := rfl
    simp only [typeExpr,optionalBinder,run_bind,run_optionally,run_peek,run_ite,Option.bind_some,
      other _ noBinder,functions,paths,other _ noObject,other _ noImpl,other _ noBlank,absent,
      List.isEmpty_nil,Bool.not_true,Bool.false_eq_true,if_false,run_pure]
    rfl

theorem parseType_ident (ident : Ident) (span : Span) (plain : ident.isKeyword = false) :
    ∃ form, parseType [⟨.ident ident,span⟩] = some ⟨form,[⟨.ident ident,span⟩]⟩ :=
  (run_typeExpr_ident _ ident span plain).imp fun _ ran =>
    whole_read (fun rules => typeExpr rules true) _ _ ran

theorem parseType_keyword (name : String) (span : Span) (reserved : name ∈ keywords)
    (escapable : name ∉ unrawable) : parseType [⟨.ident ⟨name,false⟩,span⟩] = none :=
  whole_fail (fun rules => typeExpr rules true) _
    (run_typeExpr_keyword _ name span reserved escapable)

end CaseSynthesis.Grammar
