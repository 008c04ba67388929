import CaseSynthesis.Proofs.Reexpansion
import CaseSynthesis.Proofs.WrittenAttributes

/-! Enums written out and read back. What an expansion writes for an enum is read as that very enum,
wherever the tokens stand. This is asked of the expressions in the enum, and proved of everything else
in it: attributes, visibility, names, commas and braces. -/

namespace CaseSynthesis

namespace Grammar

open CaseSynthesis.Grammar.Parser

def Variant.unplaced (variant : Variant) : Variant :=
  ⟨variant.attributes.map Attribute.unplaced,variant.name.unplaced,variant.fields.unplaced,
    variant.discriminant.map fun (equals,value) => (equals.unplaced,value.unplaced)⟩

def unplacedPhrase (phrase : Variant × Lexemes) : Variant × Lexemes :=
  (phrase.1.unplaced,phrase.2.unplaced)

def EnumItem.unplaced (item : EnumItem) : EnumItem where
  attributes := item.attributes.map Attribute.unplaced
  visibility := item.visibility.unplaced
  keyword := item.keyword.unplaced
  name := item.name.unplaced
  generics := item.generics.unplaced
  whereClause := item.whereClause.unplaced
  opening := item.opening.unplaced
  variants := item.variants.map unplacedPhrase
  closing := item.closing.unplaced

/-! Variants. -/

structure Variant.Formed (variant : Variant) : Prop where
  attributes : ∀ attr ∈ variant.attributes, attr.Formed
  named : variant.Named
  discriminant : ∀ equals value, variant.discriminant = some (equals,value) →
    equals.tokens = [.punct '=' false] ∧ Sound value.tokens

structure Variant.Stable (variant : Variant) : Prop where
  attributes : ∀ attr ∈ variant.attributes, attr.input.Stable
  discriminant : ∀ equals value, variant.discriminant = some (equals,value) → value.Stable

private theorem yields_name : Yields (take .ident) fun name =>
    ∃ ident, name.token = .ident ident ∧ ident.isKeyword = false := by
  refine .take fun lexeme rest seen => ?_
  obtain ⟨token,span⟩ := lexeme
  cases token with
  | ident ident => exact ⟨ident,rfl,by simpa [View.ident] using seen⟩
  | _ => cases seen

private theorem yields_variant (depth : Nat) : Yields (variant (nested depth)) Variant.Formed := by
  have rule := rulesKin_alone depth
  refine .bind (yields_outerAttributes depth) fun attributes formed => ?_
  refine .bind (Yields.of_parallel parallel_visibility) fun _ _ => ?_
  refine .bind yields_name fun name named => ?_
  have last (payload : Lexemes) : Yields (do
      let discriminant ← if ← peek (.punct "=") then
          let equals ← punct "="
          pure (some (equals,← (nested depth).expr true))
        else pure none
      return ⟨attributes,name,payload,discriminant⟩) Variant.Formed := by
    refine .peek fun valued => .ite ?_ (.pure ⟨formed,named,nofun⟩)
    refine .bind (.punct "=") fun equals mark => .bind (yields_expr depth) fun value sound => .pure ?_
    refine ⟨formed,named,?_⟩
    rintro _ _ ⟨⟩
    exact ⟨mark,sound⟩
  refine .peek fun braced => .peek fun tupled => .ite ?_ (.ite ?_ (last []))
  · exact .bind (Yields.of_parallel (parallel_fields rule)) fun payload _ => last payload
  · exact .bind (Yields.of_parallel (parallel_unnamedFields rule)) fun payload _ => last payload

private theorem restores_name {depth : Nat} {follows : Lexemes → Prop} {token : Token}
    (named : ∃ ident, token = .ident ident ∧ ident.isKeyword = false) :
    Restores depth (take .ident) [token] (fun found => found.token = token) follows := by
  obtain ⟨ident,rfl,free⟩ := named
  exact .take (fun span rest => by simp [View.ident,free]) rfl

private theorem unrestricted_name {ident : Ident} (free : ident.isKeyword = false) (span : Span)
    (rest : Lexemes) : Unrestricted (⟨.ident ident,span⟩ :: rest) := by
  refine ⟨?_,rfl⟩
  by_contra seen
  have token : Token.ident ident = .ident ⟨"pub",false⟩ := by simpa [View.keyword] using seen
  cases token
  contradiction

private theorem restores_value {depth : Nat} {expr : Expr} (sound : Sound expr.tokens) (stable : expr.Stable) :
    Restores depth ((nested depth).expr true) expr.tokens.tokens
      (fun found => found.unplaced = expr.unplaced) Ended := by
  obtain ⟨again,parsed,kept⟩ := stable
  intro output rest same ended short
  obtain ⟨found,ran,placed⟩ := run_embedded sound parsed same ended short
  exact ⟨found,ran,placed.trans kept⟩

def Variant.valueTokens (variant : Variant) : List Token :=
  match variant.discriminant with
  | some (equals,value) => equals.tokens ++ value.tokens.tokens
  | none => []

private theorem Variant.Formed.opening_value {variant : Variant} (formed : variant.Formed)
    {output rest : Lexemes} (same : output.tokens = variant.valueTokens) (ended : Ended rest)
    (delimiter : Delimiter) : View.opening delimiter (output ++ rest) = false := by
  unfold valueTokens at same
  split at same
  case h_1 equals value found =>
    rw [(formed.discriminant equals value found).1] at same
    obtain ⟨⟨_,span⟩,more,rfl,rfl,_⟩ := List.map_eq_cons_iff.mp same
    rfl
  case h_2 =>
    obtain rfl : output = [] := List.map_eq_nil_iff.mp same
    cases ended <;> rfl

private theorem restores_discriminant {depth : Nat} {variant : Variant} (formed : variant.Formed)
    (stable : variant.Stable) {attributes : List Attribute} {name : Lexeme}
    (attributed : attributes.map Attribute.unplaced = variant.attributes.map Attribute.unplaced)
    (named : name.token = variant.name.token) (unit : variant.fields = []) :
    Restores depth (do
      let discriminant ← if ← peek (.punct "=") then
          let equals ← punct "="
          pure (some (equals,← (nested depth).expr true))
        else pure none
      return (⟨attributes,name,[],discriminant⟩ : Variant)) variant.valueTokens
      (fun found => found.unplaced = variant.unplaced) Ended := by
  obtain ⟨own,name',_,discriminant⟩ := variant
  cases unit
  have same : name.unplaced = name'.unplaced := congrArg (Lexeme.mk · .empty) named
  cases discriminant with
  | none =>
    refine .peek false ?_ (.pure ?_)
    · intro output rest same ended
      obtain rfl : output = [] := List.map_eq_nil_iff.mp same
      cases ended <;> rfl
    · simp only [Variant.unplaced,attributed,same]
  | some pair =>
    obtain ⟨equals,value⟩ := pair
    obtain ⟨mark,sound⟩ := formed.discriminant equals value rfl
    have split : Variant.valueTokens ⟨own,name',[],some (equals,value)⟩ =
        signTokens "=".toList ++ value.tokens.tokens := by
      simp only [Variant.valueTokens,mark]
      rfl
    have read : Restores depth ((nested depth).expr true) value.tokens.tokens _ Ended :=
      restores_value sound (stable.discriminant equals value rfl)
    rw [split]
    refine .peek true ?_ (.bind (.punct "=") fun equals' marked =>
      .last read fun value' placed => ?_)
    · intro output rest same _
      obtain ⟨⟨_,span⟩,more,rfl,rfl,_⟩ := List.map_eq_cons_iff.mp same
      rfl
    · simp only [Variant.unplaced,attributed,same,Option.map_some,placed,
        Lexemes.unplaced_congr (marked.trans mark.symm)]

private theorem restores_variant {depth : Nat} {variant : Variant} (formed : variant.Formed)
    (stable : variant.Stable) (unit : variant.fields = []) :
    Restores depth (Grammar.variant (nested depth)) variant.tokens.tokens
      (fun found => found.unplaced = variant.unplaced) Ended := by
  obtain ⟨ident,token,free⟩ := formed.named
  have headed {output rest : Lexemes} {more : List Token}
      (same : output.tokens = variant.name.token :: more) :
      ∃ span others, output ++ rest = ⟨.ident ident,span⟩ :: others := by
    obtain ⟨⟨_,span⟩,others,rfl,same,_⟩ := List.map_eq_cons_iff.mp same
    cases same.trans token
    exact ⟨span,_,rfl⟩
  have split : variant.tokens.tokens = Lexemes.tokens (variant.attributes.flatMap Attribute.tokens) ++
      ([] ++ ([variant.name.token] ++ variant.valueTokens)) := by
    rw [Variant.tokens,unit,Variant.valueTokens]
    cases variant.discriminant <;> simp [Lexemes.tokens]
  rw [split]
  refine .bindBefore (restores_outerAttributes formed.attributes stable.attributes) ?_
    fun attributes attributed => .bindBefore (restores_visibility .none) ?_ fun _ _ =>
      .bind (restores_name formed.named) fun name named => ?_
  · intro output rest same _
    obtain ⟨span,others,stream⟩ := headed same
    rw [stream]
    rfl
  · intro output rest same _
    obtain ⟨span,others,stream⟩ := headed same
    rw [stream]
    exact unrestricted_name free span others
  · have last : Restores depth _ variant.valueTokens _ Ended :=
      restores_discriminant formed stable attributed named unit
    refine .peek false ?_ (.peek false ?_ last)
    all_goals exact fun output rest same ended => formed.opening_value same ended _

private theorem Variant.Formed.starts {variant : Variant} (formed : variant.Formed) {output : Lexemes}
    {more : List Token} (rest : Lexemes) (same : output.tokens = variant.tokens.tokens ++ more) :
    View.atEnd (output ++ rest) = false := by
  rw [Variant.tokens] at same
  cases listed : variant.attributes with
  | nil =>
    obtain ⟨ident,token,_⟩ := formed.named
    rw [listed] at same
    obtain ⟨⟨_,span⟩,others,rfl,same,_⟩ := List.map_eq_cons_iff.mp same
    cases same.trans token
    rfl
  | cons attr attributes =>
    have first : attr.Formed := formed.attributes attr (by simp [listed])
    rw [listed,List.flatMap_cons] at same
    simp only [tokens_append,List.append_assoc] at same
    obtain ⟨span,others,stream⟩ := first.opens rest same
    rw [stream]
    rfl

structure Variant.Settled (variant : Variant) : Prop where
  formed : variant.Formed
  stable : variant.Stable
  unit : variant.fields = []

private theorem restores_variants {depth : Nat} (span : Span) (variants : List Variant)
    (settled : ∀ variant ∈ variants, variant.Settled) (before : Separated Variant) :
    Restores depth (loop (separatedRound .atEnd "," (variant (nested depth))) before)
      (Separated.tokens Variant.tokens (commaBetween span variants)).tokens
      (fun found => found.map unplacedPhrase =
        (before ++ commaBetween span variants).map unplacedPhrase) (Closing .brace) := by
  induction variants generalizing before with
  | nil =>
    refine .loopStop (.peek true ?_ (.pure ⟨by simp [commaBetween],rfl⟩))
    rintro output _ same ⟨closing,rest,rfl⟩
    obtain rfl : output = [] := List.map_eq_nil_iff.mp same
    rfl
  | cons variant variants ih =>
    obtain ⟨⟨formed,stable,unit⟩,settled⟩ := List.forall_mem_cons.mp settled
    have read : Restores depth (Grammar.variant (nested depth)) variant.tokens.tokens _ Ended :=
      restores_variant formed stable unit
    cases variants with
    | nil =>
      have split : (Separated.tokens Variant.tokens (commaBetween span [variant])).tokens =
          variant.tokens.tokens ++ [] := by
        simp [commaBetween,Separated.tokens]
      rw [split]
      refine .loopStop (.peek false (fun output rest same _ => formed.starts rest same)
        (.bindBefore read ?_ fun found placed => .peek true ?_ (.pure ⟨?_,rfl⟩)))
      · rintro output _ same ⟨closing,rest,rfl⟩
        obtain rfl : output = [] := List.map_eq_nil_iff.mp same
        exact .closing .brace closing rest
      · rintro output _ same ⟨closing,rest,rfl⟩
        obtain rfl : output = [] := List.map_eq_nil_iff.mp same
        rfl
      · simp [commaBetween,unplacedPhrase,placed]
    | cons next variants =>
      let separator : Lexemes := [⟨.punct ',' false,span⟩]
      let grown (found : Separated Variant) : Prop :=
        found.map unplacedPhrase = (before ++ [(variant,separator)]).map unplacedPhrase
      have comma {output : Lexemes} (same : output.tokens = signTokens ",".toList) :
          ∃ mark, output = [⟨.punct ',' false,mark⟩] := by
        obtain ⟨⟨_,mark⟩,rfl,rfl⟩ := List.map_eq_singleton_iff.mp same
        exact ⟨mark,rfl⟩
      have round : Restores depth (separatedRound .atEnd "," (Grammar.variant (nested depth)) before)
          (variant.tokens.tokens ++ signTokens ",".toList)
          (fun found => grown found.1 ∧ found.2 = true) Anything := by
        refine .peek false (fun output rest same _ => formed.starts rest same)
          (.bindBefore read ?_ fun found placed => .peek false ?_
            (.last (.punct ",") fun mark spelled => ⟨?_,rfl⟩))
        · intro output rest same _
          obtain ⟨mark,rfl⟩ := comma same
          exact .comma false mark rest
        · intro output rest same _
          obtain ⟨mark,rfl⟩ := comma same
          rfl
        · have same : mark.tokens = separator.tokens := spelled
          simp [grown,unplacedPhrase,placed,Lexemes.unplaced_congr same]
      have split : (Separated.tokens Variant.tokens
          (commaBetween span (variant :: next :: variants))).tokens =
          (variant.tokens.tokens ++ signTokens ",".toList) ++
            (Separated.tokens Variant.tokens (commaBetween span (next :: variants))).tokens := by
        simp only [commaBetween,Separated.tokens,List.flatMap_cons,tokens_append]
        rfl
      rw [split]
      refine .loopMore grown round (by simp [signTokens]) (fun _ _ _ _ => trivial) fun found same => ?_
      refine (ih settled found).imp fun all whole => ?_
      rw [whole,List.map_append,same]
      simp [commaBetween,separator]

/-! Enums. -/

structure EnumItem.Settled (item : EnumItem) : Prop where
  attributes : ∀ attr ∈ item.attributes, attr.Formed ∧ attr.input.Stable
  visibility : Visible item.visibility.tokens
  keyword : item.keyword.tokens = [.ident ⟨"enum",false⟩]
  named : ∃ ident, item.name.token = .ident ident ∧ ident.isKeyword = false
  generics : item.generics = []
  whereClause : item.whereClause = []
  opening : item.opening.tokens = [.opening .brace]
  variants : ∃ span variants, item.variants = commaBetween span variants ∧
    ∀ variant ∈ variants, variant.Settled
  closing : item.closing.tokens = [.closing .brace]

def EnumItem.restTokens (item : EnumItem) : List Token :=
  [.ident ⟨"enum",false⟩] ++ ([item.name.token] ++ (.opening .brace ::
    ((Separated.tokens Variant.tokens item.variants).tokens ++ [.closing .brace])))

private theorem EnumItem.Settled.tokens_eq {item : EnumItem} (settled : item.Settled) :
    item.tokens.tokens = Lexemes.tokens (item.attributes.flatMap Attribute.tokens) ++
      (item.visibility.tokens ++ item.restTokens) := by
  have split : item.tokens.tokens = Lexemes.tokens (item.attributes.flatMap Attribute.tokens) ++
      (item.visibility.tokens ++ (item.keyword.tokens ++ (item.name.token :: (item.generics.tokens ++
        (item.whereClause.tokens ++ (item.opening.tokens ++
          ((Separated.tokens Variant.tokens item.variants).tokens ++ item.closing.tokens))))))) := by
    simp [EnumItem.tokens,Lexemes.tokens]
  rw [split,settled.keyword,settled.generics,settled.whereClause,settled.opening,settled.closing]
  rfl

private theorem restores_enumItem {depth : Nat} {item : EnumItem} (settled : item.Settled) :
    Restores depth (enumItem (nested depth)) (item.visibility.tokens ++ item.restTokens)
      (fun found => found.unplaced = EnumItem.unplaced { item with attributes := [] }) Anything := by
  obtain ⟨span,variants,listed,each⟩ := settled.variants
  have read : Restores depth (commaSeparated (variant (nested depth)))
      (Separated.tokens Variant.tokens item.variants).tokens
      (fun found => found.map unplacedPhrase = item.variants.map unplacedPhrase) (Closing .brace) := by
    rw [listed]
    exact restores_variants span variants each []
  let braced (rest : Lexemes) : Prop := ∃ start others, rest = ⟨.opening .brace,start⟩ :: others
  have onward (output rest : Lexemes) (more : List Token)
      (same : output.tokens = .opening .brace :: more) : braced (output ++ rest) := by
    obtain ⟨⟨_,start⟩,others,rfl,rfl,_⟩ := List.map_eq_cons_iff.mp same
    exact ⟨start,others ++ rest,rfl⟩
  have generics : Restores depth (generics (nested depth)) [] (fun tokens => tokens = []) braced := by
    refine .peek false ?_ (.pure rfl)
    rintro output _ same ⟨start,others,rfl⟩
    obtain rfl : output = [] := List.map_eq_nil_iff.mp same
    rfl
  have clause : Restores depth (whereClause (nested depth)) [] (fun tokens => tokens = []) braced := by
    refine .peek false ?_ (.pure rfl)
    rintro output _ same ⟨start,others,rfl⟩
    obtain rfl : output = [] := List.map_eq_nil_iff.mp same
    rfl
  let body : List Token := .opening .brace ::
    ((Separated.tokens Variant.tokens item.variants).tokens ++ [.closing .brace])
  refine .bindBefore (restores_visibility settled.visibility) ?_ fun visibility visible =>
    .bind (.keyword "enum") fun keyword word => .bind (restores_name settled.named) fun name named => ?_
  · intro output rest same _
    obtain ⟨⟨_,start⟩,others,rfl,rfl,_⟩ := List.map_eq_cons_iff.mp same
    exact ⟨rfl,rfl⟩
  · change Restores depth _ ([] ++ ([] ++ body)) _ Anything
    refine .bindBefore generics (fun output rest same _ => onward output rest _ same) fun _ none =>
      .bindBefore clause (fun output rest same _ => onward output rest _ same) fun _ none' =>
        .last (.enclosed .brace read) fun found parts => ?_
    obtain ⟨opened,inside,closed⟩ := parts
    have same : name.unplaced = item.name.unplaced := congrArg (Lexeme.mk · .empty) named
    simp only [EnumItem.unplaced,none,none',settled.generics,settled.whereClause,same,inside,
      Lexemes.unplaced_congr visible,Lexemes.unplaced_congr (word.trans settled.keyword.symm),
      Lexemes.unplaced_congr (opened.trans settled.opening.symm),
      Lexemes.unplaced_congr (closed.trans settled.closing.symm)]

private theorem itemOf_enum (rules : Rules) (plain : Bool) (span : Span) (rest : Lexemes) :
    itemOf rules plain (⟨.ident ⟨"enum",false⟩,span⟩ :: rest) = (some ∘ .enum) <$> enumItem rules := rfl

private theorem restores_itemRest {depth : Nat} {item : EnumItem} (settled : item.Settled) :
    Restores depth (itemRest (nested depth)) (item.visibility.tokens ++ item.restTokens)
      (fun found => ∃ bare, found = some (.enum bare) ∧
        bare.unplaced = EnumItem.unplaced { item with attributes := [] }) Anything := by
  intro output rest same _ short
  obtain ⟨bare,read,placed⟩ := restores_enumItem settled output rest same trivial short
  obtain ⟨leading,more,rfl,lead,tail⟩ := split_tokens same
  obtain ⟨⟨_,span⟩,others,rfl,rfl,_⟩ := List.map_eq_cons_iff.mp tail
  rw [List.append_assoc] at read short ⊢
  -- What stands after the visibility tells which kind of item it is.
  obtain ⟨visibility,seen,_⟩ := restores_visibility settled.visibility leading
    (⟨.ident ⟨"enum",false⟩,span⟩ :: others ++ rest) lead ⟨rfl,rfl⟩ short
  have dispatched : itemRest (nested depth)
      (leading ++ (⟨.ident ⟨"enum",false⟩,span⟩ :: others ++ rest)) = some (some (.enum bare),rest) := by
    unfold itemRest
    rw [seen]
    change itemOf (nested depth) visibility.isEmpty (⟨.ident ⟨"enum",false⟩,span⟩ :: (others ++ rest)) _ = _
    rw [itemOf_enum]
    change (enumItem (nested depth) _).bind _ = _
    rw [read]
    rfl
  exact ⟨_,dispatched,bare,rfl,placed⟩

private theorem restores_item {depth : Nat} {item : EnumItem} (settled : item.Settled) :
    Restores depth (Grammar.item (nested depth)) item.tokens.tokens
      (fun found => ∃ again, found = .enum again ∧ again.unplaced = item.unplaced) Anything := by
  have attributed : Restores depth (outerAttributes (nested depth)) _ _ _ :=
    restores_outerAttributes (fun attr member => (settled.attributes attr member).1)
      fun attr member => (settled.attributes attr member).2
  have after (before : Lexemes) : Restores depth (do
      let attributes ← outerAttributes (nested depth)
      itemAfter (nested depth) before attributes) item.tokens.tokens
      (fun found => ∃ again, found = .enum again ∧ again.unplaced = item.unplaced) Anything := by
    rw [settled.tokens_eq]
    refine .bindBefore attributed ?_ fun attributes placed => ?_
    · exact fun output rest same _ => settled.visibility.unmarked rest same
    · rw [← List.append_nil (_ ++ _)]
      refine .bind (restores_itemRest settled) ?_
      rintro _ ⟨bare,rfl,same⟩
      refine .pure ⟨_,rfl,?_⟩
      have whole := congrArg (fun other : EnumItem =>
        { other with attributes := attributes.map Attribute.unplaced ++ other.attributes }) same
      simpa only [EnumItem.unplaced,List.map_append,placed,List.map_nil,List.append_nil] using whole
  exact fun output rest => after (output ++ rest) output rest

/-- An enum that is written is read as the enum that it is, and nothing of it is left. -/
private theorem EnumItem.Settled.parseItem_eq {item : EnumItem} (settled : item.Settled) {output : Lexemes}
    (same : output.tokens = item.tokens.tokens) :
    ∃ again, parseItem output = some (.enum again) ∧ again.unplaced = item.unplaced := by
  have restored : Restores (output.length + 1) (Grammar.item (nested (output.length + 1))) _ _ _ :=
    restores_item settled
  obtain ⟨_,read,again,rfl,placed⟩ := restored output [] same trivial (by simp)
  rw [List.append_nil] at read
  exact ⟨again,whole_read _ _ _ read,placed⟩

/-! Enums that were read. -/

structure EnumItem.Formed (item : EnumItem) : Prop where
  attributes : ∀ attr ∈ item.attributes, attr.Formed
  visibility : Visible item.visibility.tokens
  keyword : item.keyword.tokens = [.ident ⟨"enum",false⟩]
  named : ∃ ident, item.name.token = .ident ident ∧ ident.isKeyword = false
  opening : item.opening.tokens = [.opening .brace]
  variants : ∀ variant ∈ item.ownVariants, variant.Formed
  closing : item.closing.tokens = [.closing .brace]

/-- The values of attributes and variants are read from the tokens they are written with, and there is
no where clause. -/
structure EnumItem.Stable (item : EnumItem) : Prop where
  attributes : ∀ attr ∈ item.attributes, attr.input.Stable
  variants : ∀ variant ∈ item.ownVariants, variant.Stable
  whereClause : item.whereClause = []

/-- The enum was read from tokens as the lexer makes them, with these and maybe other attributes. -/
def EnumItem.IsRead (item : EnumItem) : Prop :=
  ∃ depth stream rest attributes, Sound stream ∧ item.attributes ⊆ attributes ∧
    Grammar.item (nested depth) stream = some (.enum { item with attributes },rest)

private theorem yields_enumItem (depth : Nat) :
    Yields (enumItem (nested depth)) fun item => item.attributes = [] ∧ item.Formed := by
  have rule := rulesKin_alone depth
  have word : Yields (keyword "enum") fun tokens => tokens.tokens = [.ident ⟨"enum",false⟩] := by
    refine .bind (.take (Q := fun lexeme => lexeme.token = .ident ⟨"enum",false⟩) ?_)
      fun lexeme same => .pure (by simp [Lexemes.tokens,same])
    exact fun lexeme rest seen => by simpa [View.keyword] using seen
  refine .bind ((Yields.of_parallel parallel_visibility).and gives_visibility)
    fun visibility seen => ?_
  refine .bind word fun keyword same => .bind yields_name fun name named => ?_
  refine .bind (Yields.of_parallel (parallel_generics rule)) fun generics _ => ?_
  refine .bind (Yields.of_parallel (parallel_whereClause rule (by decide))) fun clause _ => ?_
  refine .bind (.enclosed .brace (.commaSeparated (yields_variant depth)))
    fun found parts => ?_
  obtain ⟨opening,formed,closing⟩ := parts
  refine .pure ⟨rfl,List.forall_mem_nil _,seen.2,same,named,opening,?_,closing⟩
  intro variant member
  obtain ⟨phrase,listed,rfl⟩ := List.mem_map.mp member
  exact formed phrase listed

private theorem EnumItem.IsRead.formed {item : EnumItem} (read : item.IsRead) : item.Formed := by
  obtain ⟨depth,stream,rest,attributes,sound,kept,read⟩ := read
  obtain ⟨leading,after,bare,attributed,read,same⟩ := item_enum read
  obtain ⟨sound,each⟩ := yields_outerAttributes depth stream leading after sound attributed
  obtain ⟨_,none,formed⟩ := yields_enumItem depth after bare rest sound read
  obtain ⟨_,visibility,keyword,name,generics,clause,opening,variants,closing⟩ := item
  obtain ⟨_,_,_,_,_,_,_,_,_⟩ := bare
  cases none
  cases same
  refine ⟨fun attr member => each attr ?_,formed.visibility,formed.keyword,formed.named,formed.opening,
    formed.variants,formed.closing⟩
  have listed := kept member
  rwa [List.append_nil] at listed

/-! Values that are literals are read as they are written. -/

def AttributeInput.isValueless : AttributeInput → Bool
  | .value _ _ => false
  | _ => true

def Expr.isLiteral : Expr → Bool
  | ⟨.literal ⟨.literal text,_⟩,[⟨token,_⟩]⟩ => token == .literal text
  | _ => false

def Variant.isPlain (variant : Variant) : Bool :=
  variant.attributes.all (·.input.isValueless) && variant.discriminant.all (·.2.isLiteral)

def EnumItem.isPlain (item : EnumItem) : Bool :=
  item.attributes.all (·.input.isValueless) && item.ownVariants.all Variant.isPlain &&
    item.whereClause.isEmpty

private theorem AttributeInput.stable_of_valueless {input : AttributeInput} (none : input.isValueless = true) :
    input.Stable := by
  cases input with
  | empty | list => trivial
  | value => cases none

private theorem Expr.stable_of_literal {expr : Expr} (literal : expr.isLiteral = true) : expr.Stable := by
  unfold isLiteral at literal
  split at literal
  case h_1 text place token span =>
    obtain rfl : token = .literal text := by simpa using literal
    exact ⟨_,whole_read _ _ _ (run_expr_literal _ true text span .nil),rfl⟩
  case h_2 => cases literal

theorem EnumItem.stable_of_plain {item : EnumItem} (plain : item.isPlain = true) : item.Stable := by
  simp only [isPlain,Variant.isPlain,Bool.and_eq_true,List.all_eq_true,List.isEmpty_iff] at plain
  obtain ⟨⟨attributes,variants⟩,clause⟩ := plain
  refine ⟨fun attr member => AttributeInput.stable_of_valueless (attributes attr member),
    fun variant member => ?_,clause⟩
  obtain ⟨own,discriminant⟩ := variants variant member
  refine ⟨fun attr member => AttributeInput.stable_of_valueless (own attr member),
    fun equals value found => ?_⟩
  rw [found] at discriminant
  exact Expr.stable_of_literal discriminant

example : signals.isPlain = true := rfl

/-! What an expansion writes. -/

private theorem Variant.withoutString_settled {variant : Variant} (formed : variant.Formed)
    (stable : variant.Stable) (unit : variant.fields = []) : variant.withoutString.Settled := by
  obtain ⟨attributes,name,fields,removed,retained⟩ := withoutString_kept variant
  by_cases string : variant.HasString
  · have gone := removed string
    refine ⟨⟨attributes ▸ formed.attributes,?_,by simp [gone]⟩,⟨attributes ▸ stable.attributes,
      by simp [gone]⟩,fields.trans unit⟩
    rw [Named,name]
    exact formed.named
  · have same := retained string
    refine ⟨⟨attributes ▸ formed.attributes,?_,same ▸ formed.discriminant⟩,
      ⟨attributes ▸ stable.attributes,same ▸ stable.discriminant⟩,fields.trans unit⟩
    rw [Named,name]
    exact formed.named

private theorem EnumItem.withCases_settled {item : EnumItem} (formed : item.Formed) (stable : item.Stable)
    (plain : item.generics = []) (units : ∀ variant ∈ item.ownVariants, variant.fields = [])
    {ident : Ident} (free : ident.isKeyword = false) : (item.withCases [ident]).Settled where
  attributes := fun attr member => ⟨formed.attributes attr member,stable.attributes attr member⟩
  visibility := formed.visibility
  keyword := formed.keyword
  named := formed.named
  generics := plain
  whereClause := stable.whereClause
  opening := formed.opening
  closing := formed.closing
  variants := by
    refine ⟨item.name.span,_,rfl,List.forall_mem_append.mpr ⟨?_,?_⟩⟩
    · refine List.forall_mem_map.mpr fun variant member => ?_
      exact Variant.withoutString_settled (formed.variants variant member)
        (stable.variants variant member) (units variant member)
    · refine List.forall_mem_singleton.mpr ⟨⟨nofun,⟨ident,rfl,free⟩,nofun⟩,⟨nofun,nofun⟩,rfl⟩

/-! The rules see an enum alike wherever its tokens stand. -/

private theorem Expr.toLiteral_unplaced (expr : Expr) : expr.unplaced.toLiteral = expr.toLiteral := by
  have string : expr.unplaced.string? = expr.string? := by
    obtain ⟨form,tokens⟩ := expr
    cases form with
    | literal lexeme =>
      obtain ⟨token,span⟩ := lexeme
      cases token <;> rfl
    | _ => rfl
  have text : expr.unplaced.text = expr.text := by
    rw [Expr.text,Expr.text,Expr.unplaced,Lexemes.text,Lexemes.text,Lexemes.unplaced,
      Lexemes.tokens_ofTokens]
  rw [Expr.toLiteral,string,text,Expr.toLiteral]

private theorem Variant.toElement_unplaced (variant : Variant) :
    variant.unplaced.toElement = variant.toElement := by
  obtain ⟨attributes,name,fields,discriminant⟩ := variant
  have payload : fields.unplaced.isEmpty = fields.isEmpty := by cases fields <;> rfl
  cases discriminant with
  | none => simp only [toElement,unplaced,caseName,Option.map_none,payload]; rfl
  | some pair =>
    simp only [toElement,unplaced,caseName,Option.map_some,Expr.toLiteral_unplaced,payload]
    rfl

private theorem EnumItem.toDecl_unplaced (item : EnumItem) (rawType : Option TypeName) :
    item.unplaced.toDecl rawType = item.toDecl rawType := by
  have members : (item.unplaced.toDecl rawType).members = (item.toDecl rawType).members := by
    simp only [toDecl,unplaced,List.map_map]
    refine List.map_congr_left fun phrase _ => ?_
    exact congrArg (fun element => Member.cases [element]) phrase.1.toElement_unplaced
  exact congrArg (Decl.mk .enum item.name.name rawType.toList) members

end Grammar

open Grammar Rendering

theorem isRead_of_readItem {source : String} {item : EnumItem}
    (read : readItem source = .ok (.enum item)) : item.IsRead := by
  obtain ⟨stream,sound,parsed⟩ := readItem_eq_ok read
  exact ⟨_,stream,[],item.attributes,sound,List.Subset.refl _,whole_eq_some parsed⟩

/-- The enum that an expansion of an enum from a program writes out has all its parts read as they are
written. -/
private theorem expandItem_settled (settings : Settings) (rule : Rule) (arguments : Lexemes) (item : EnumItem)
    (expanded : Expanded) (valid : settings.validate = .ok ())
    (done : expandItem settings rule arguments (.enum item) = .ok expanded) (read : item.IsRead)
    (stable : item.Stable) : expanded.rendered.item.Settled := by
  obtain ⟨plain,_,rawType,admitted⟩ := expandItem_kept settings rule arguments item expanded valid done
  obtain ⟨_,ident,_,spelled,output⟩ := expandItem_item settings rule arguments item expanded done
  have free : ident.isKeyword = false := by
    rw [caseIdent_fallback settings valid] at spelled
    split at spelled
    · rw [← Except.ok.inj spelled]
      simp [Ident.isKeyword]
    · contradiction
  have units : ∀ variant ∈ item.ownVariants, variant.fields = [] := by
    intro variant member
    have listed : variant.toElement ∈ (item.toDecl rawType).elements := by
      rw [elements_toDecl]
      exact List.mem_map_of_mem member
    have payload := admitted.units variant.toElement listed
    simpa [Variant.toElement] using payload
  rw [output]
  exact EnumItem.withCases_settled read.formed stable (List.isEmpty_iff.mp plain) units free

/-- What an expansion writes for an enum of a program is read again, from any stream of these tokens,
as the enum that was written. The rules see it as the enum from before with the fallback for one more
case, and each of them refuses it. -/
theorem expanded_enum_read_back (settings : Settings) (rule : Rule) (arguments : Lexemes)
    (item : EnumItem) (expanded : Expanded) (valid : settings.validate = .ok ())
    (done : expandItem settings rule arguments (.enum item) = .ok expanded) (read : item.IsRead)
    (stable : item.Stable) (output : Lexemes)
    (same : output.tokens = expanded.rendered.item.tokens.tokens) :
    ∃ again, parseItem output = some (.enum again) ∧
      again.unplaced = expanded.rendered.item.unplaced ∧
      (∀ rawType, again.toDecl rawType = (item.toDecl rawType).withFallback settings.fallbackCase) ∧
      ∀ (other : Rule) (rawType : Option TypeName) (site : Site), other.Typed rawType →
        other.supports site = true → synthesize settings other site (.decl (again.toDecl rawType)) =
          .error (.fallbackCollision settings.fallbackCase) := by
  have settled := expandItem_settled settings rule arguments item expanded valid done read stable
  obtain ⟨_,kept,_,admitted⟩ := expandItem_kept settings rule arguments item expanded valid done
  obtain ⟨again,parsed,placed⟩ := settled.parseItem_eq same
  have seen (rawType : Option TypeName) :
      again.toDecl rawType = expanded.rendered.item.toDecl rawType := by
    rw [← again.toDecl_unplaced,placed,EnumItem.toDecl_unplaced]
  refine ⟨again,parsed,placed,fun rawType => (seen rawType).trans (kept.toDecl_eq rawType),?_⟩
  intro other rawType site typed supported
  have inherited : (Node.decl (expanded.rendered.item.toDecl rawType)).rawType? = rawType := by
    cases rawType <;> rfl
  rw [seen]
  exact synthesize_collides settings other site _ (kept.enumerates admitted rawType)
    (kept.fallback_declared rawType) (inherited.symm ▸ typed) supported

end CaseSynthesis
