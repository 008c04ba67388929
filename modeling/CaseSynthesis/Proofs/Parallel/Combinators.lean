import CaseSynthesis.Proofs.Parallel.Views

/-! Parsers that run side by side, put together from others that do. -/

namespace CaseSynthesis.Grammar

open CaseSynthesis.Grammar.Parser

section

variable {α β γ δ : Type} {c : Comparison} {limit : Nat} {place : Place} {stage : Stage}
  {grip wanted : Grip} {R : α → β → Prop} {Q : γ → δ → Prop} {p : Parser α} {q : Parser β}
  {first second : Lexemes}

namespace ParallelAt

theorem mono {R' : α → β → Prop} (run : ParallelAt c place grip R first second p q)
    (ends : ∀ rest, c.Taken grip first rest → c.Taken wanted first rest)
    (each : ∀ a b, R a b → R' a b) : ParallelAt c place wanted R' first second p q := by
  refine ⟨fun a rest read => ?_,run.2⟩
  obtain ⟨b,left,reached,taken,related,same⟩ := run.1 a rest read
  exact ⟨b,left,reached,ends rest taken,each a b related,same⟩

/-- Only what the parsers do on these streams matters. -/
theorem congr {p' : Parser α} {q' : Parser β} (state : c.State place first second)
    (one : p first = p' first)
    (two : c.compared → c.Live place first second → q second = q' second)
    (run : ParallelAt c place grip R first second p' q') :
    ParallelAt c place grip R first second p q := by
  constructor
  · intro a rest read
    rw [one] at read
    obtain ⟨b,left,reached,taken,related,same⟩ := run.1 a rest read
    refine ⟨b,left,reached,taken,related,fun compared live => ?_⟩
    rw [two compared (state.live_of_rest taken live)]
    exact same compared live
  · rintro compared rfl failed
    rw [two compared state.live_of_grouped]
    exact run.2 compared rfl (one ▸ failed)

theorem bind {f : α → Parser γ} {g : β → Parser δ} (state : c.State place first second)
    (one : ParallelAt c place grip R first second p q)
    (two : ∀ a b rest left, p first = some (a,rest) → R a b → c.State place rest left →
      c.Taken grip first rest →
      ParallelAt c place (grip.after wanted) Q rest left (f a) (g b)) :
    ParallelAt c place wanted Q first second (p >>= f) (q >>= g) := by
  obtain ⟨ran,failed⟩ := one
  constructor
  · intro value rest run
    rw [run_bind] at run
    obtain ⟨⟨a,middle⟩,read,more⟩ := Option.bind_eq_some_iff.mp run
    obtain ⟨b,halfway,reached,taken,related,same⟩ := ran a middle read
    obtain ⟨ran',_⟩ := two a b middle halfway read related reached taken
    obtain ⟨value',left,ended,taken',related',same'⟩ := ran' value rest more
    refine ⟨value',left,ended,taken.trans taken',related',fun compared live => ?_⟩
    rw [run_bind,same compared (reached.live_of_rest taken' live)]
    exact same' compared live
  · intro compared inside none
    subst inside
    rw [run_bind] at none ⊢
    cases read : p first with
    | none => rw [failed compared rfl read]; rfl
    | some result =>
      obtain ⟨a,middle⟩ := result
      obtain ⟨b,halfway,reached,taken,related,same⟩ := ran a middle read
      rw [read] at none
      rw [same compared reached.live_of_grouped]
      exact (two a b middle halfway read related reached taken).2 compared rfl none

/-- Something that is seen of the tokens ahead, by which the rest of both runs is chosen. -/
private theorem seen {ι : Type} {look : Lexemes → ι} {f : ι → Parser γ} {g : ι → Parser δ}
    (same : c.compared → c.Live place first second → look first = look second)
    (state : c.State place first second)
    (run : ParallelAt c place grip Q first second (f (look first)) (g (look first))) :
    ParallelAt c place grip Q first second (get >>= fun input => f (look input))
      (get >>= fun input => g (look input)) := by
  by_cases live : c.compared ∧ c.Live place first second
  · change ParallelAt c place grip Q first second (f (look first)) (g (look second))
    rwa [← same live.1 live.2]
  · constructor
    · intro a rest read
      obtain ⟨b,left,reached,taken,related,_⟩ := run.1 a rest read
      refine ⟨b,left,reached,taken,related,fun compared ahead => ?_⟩
      exact absurd ⟨compared,state.live_of_rest taken ahead⟩ live
    · rintro compared rfl
      exact absurd ⟨compared,state.live_of_grouped⟩ live

theorem look {view : View} {f : Bool → Parser γ} {g : Bool → Parser δ}
    (same : c.compared → c.Live place first second → view first = view second)
    (state : c.State place first second)
    (run : ParallelAt c place grip Q first second (f (view first)) (g (view first))) :
    ParallelAt c place grip Q first second (Parser.peek view >>= f) (Parser.peek view >>= g) :=
  seen same state run

theorem peek {view : View} {f : Bool → Parser γ} {g : Bool → Parser δ}
    (steady : Steady c place view) (state : c.State place first second)
    (run : ParallelAt c place grip Q first second (f (view first)) (g (view first))) :
    ParallelAt c place grip Q first second (Parser.peek view >>= f) (Parser.peek view >>= g) :=
  look (fun compared live => steady first second compared state.sound live) state run

end ParallelAt

/-- What is left of the second stream is within reach, and shorter if a token has been taken. -/
theorem Comparison.State.within {rest left : Lexemes} (state : c.State place first second)
    (bound : c.compared → c.Live place first second → second.length < stage.bound limit)
    (taken : c.Taken grip first rest) (compared : c.compared) (live : c.Live place rest left) :
    left.length < (stage.after grip).bound limit := by
  have started := state.live_of_rest taken live
  have within := bound compared started
  have before := started.length compared
  have after := live.length compared
  obtain ⟨taken,rfl,_,held⟩ := taken
  rw [List.length_append] at before
  cases grip with
  | solid =>
    have filled := List.length_pos_iff.mpr held.1
    cases stage <;> simp only [Stage.after,Stage.bound] at within ⊢ <;> omega
  | begun =>
    have filled := List.length_pos_iff.mpr held
    cases stage <;> simp only [Stage.after,Stage.bound] at within ⊢ <;> omega
  | loose => exact lt_of_le_of_lt (by omega) within
  | firm => exact lt_of_le_of_lt (by omega) within

/-- From both streams as much is taken. -/
private theorem Comparison.State.shorter_iff {rest left : Lexemes} (state : c.State place first second)
    (taken : c.Taken grip first rest) (compared : c.compared) (live : c.Live place rest left) :
    rest.length < first.length ↔ left.length < second.length := by
  have before := (state.live_of_rest taken live).length compared
  have after := live.length compared
  omega

/-- What is taken holds the streams after something that holds them as well. -/
private theorem Comparison.Taken.again {rest : Lexemes} (taken : c.Taken grip first rest) :
    c.Taken (grip.after grip) first rest := by
  cases grip with
  | loose => exact taken
  | begun => exact taken.loosen
  | firm => exact taken
  | solid => exact taken.weaken

namespace Parallel

protected theorem pure {a : α} {b : β} [grip.Light] (related : R a b) :
    Parallel c limit place stage grip R (pure a) (pure b) := by
  intro first second state bound
  refine ⟨fun a' rest run => ?_,fun _ _ failed => ?_⟩
  · cases run
    exact ⟨b,second,state,.none,related,fun _ _ => rfl⟩
  · cases failed

protected theorem fail : Parallel c limit place stage grip R fail fail := by
  intro first second state bound
  exact ⟨fun _ _ run => (by cases run),fun _ _ _ => rfl⟩

/-- The rest of a phrase may depend on where the first part of it started. -/
theorem bindAt {f : α → Parser γ} {g : β → Parser δ}
    (one : Parallel c limit place stage grip R p q) (state : c.State place first second)
    (bound : c.compared → c.Live place first second → second.length < stage.bound limit)
    (two : ∀ a b rest left, R a b → c.State place rest left →
      (c.compared → c.Live place rest left → left.length < (stage.after grip).bound limit) →
      c.Taken grip first rest →
      ParallelAt c place (grip.after wanted) Q rest left (f a) (g b)) :
    ParallelAt c place wanted Q first second (p >>= f) (q >>= g) :=
  (one first second state bound).bind state fun a b rest left _ related reached taken =>
    two a b rest left related reached (state.within bound taken) taken

theorem bind {f : α → Parser γ} {g : β → Parser δ}
    (one : Parallel c limit place stage grip R p q)
    (two : ∀ a b, R a b →
      Parallel c limit place (stage.after grip) (grip.after wanted) Q (f a) (g b)) :
    Parallel c limit place stage wanted Q (p >>= f) (q >>= g) := fun _ _ state bound =>
  one.bindAt state bound fun a b rest left related reached within _ =>
    two a b related rest left reached within

/-- Less may be asked of the end. -/
theorem weaken (run : Parallel c limit place stage .solid R p q) :
    Parallel c limit place stage grip R p q := fun first second state bound =>
  (run first second state bound).mono (fun _ taken => taken.weaken) fun _ _ related => related

theorem loosen (run : Parallel c limit place stage grip R p q) :
    Parallel c limit place stage .loose R p q := fun first second state bound =>
  (run first second state bound).mono (fun _ taken => taken.loosen) fun _ _ related => related

theorem imp {R' : α → β → Prop} (run : Parallel c limit place stage grip R p q)
    (each : ∀ a b, R a b → R' a b) : Parallel c limit place stage grip R' p q :=
  fun first second state bound => (run first second state bound).mono (fun _ taken => taken) each

theorem map {f : α → γ} {g : β → δ} (run : Parallel c limit place stage grip R p q)
    (each : ∀ a b, R a b → Q (f a) (g b)) :
    Parallel c limit place stage grip Q (f <$> p) (g <$> q) := by
  change Parallel c limit place stage grip Q (p >>= fun a => pure (f a)) (q >>= fun b => pure (g b))
  have light : (grip.after grip).Light := by
    cases grip
    · exact .loose
    · exact .loose
    · exact .firm
    · exact .firm
  exact run.bind fun a b related => .pure (each a b related)

/-- What lies ahead of the first run is at hand in the rest of it. -/
theorem getAt {f : Lexemes → Parser γ} {g : Lexemes → Parser δ}
    (each : ∀ first second, c.State place first second →
      (c.compared → c.Live place first second → second.length < stage.bound limit) →
      ParallelAt c place grip Q first second (f first) (g second)) :
    Parallel c limit place stage grip Q (get >>= f) (get >>= g) :=
  fun first second state bound => each first second state bound

theorem getSeen {ι : Type} {look : Lexemes → ι} {f : ι → Parser γ} {g : ι → Parser δ}
    (same : ∀ first second, Sound first → c.Sees first second → look first = look second)
    (each : ∀ input, Parallel c limit place stage grip Q (f (look input)) (g (look input))) :
    Parallel c limit place stage grip Q (get >>= fun input => f (look input))
      (get >>= fun input => g (look input)) := fun first second state bound =>
  .seen (fun compared live => same first second state.sound (live.sees compared)) state
    (each first first second state bound)

theorem peekAt {view : View} {f : Bool → Parser γ} {g : Bool → Parser δ}
    (steady : Steady c place view)
    (each : ∀ first second, c.State place first second →
      (c.compared → c.Live place first second → second.length < stage.bound limit) →
      ParallelAt c place grip Q first second (f (view first)) (g (view first))) :
    Parallel c limit place stage grip Q (peek view >>= f) (peek view >>= g) :=
  fun first second state bound => .peek steady state (each first second state bound)

theorem peekIn {view : View} {f : Bool → Parser γ} {g : Bool → Parser δ}
    (steady : Steady c place view)
    (each : ∀ ahead, Parallel c limit place stage grip Q (f ahead) (g ahead)) :
    Parallel c limit place stage grip Q (peek view >>= f) (peek view >>= g) :=
  peekAt steady fun first second state bound => each (view first) first second state bound

theorem peek {view : View} {f : Bool → Parser γ} {g : Bool → Parser δ} (blind : Blind c view)
    (each : ∀ ahead, Parallel c limit place stage grip Q (f ahead) (g ahead)) :
    Parallel c limit place stage grip Q (peek view >>= f) (peek view >>= g) :=
  peekIn blind.steady each

theorem ifBool {condition other : Bool} {p' : Parser α} {q' : Parser β} (same : condition = other)
    (yes : Parallel c limit place stage grip R p q)
    (no : Parallel c limit place stage grip R p' q') :
    Parallel c limit place stage grip R (if condition = true then p else p')
      (if other = true then q else q') := by
  subst same
  cases condition with
  | true => exact yes
  | false => exact no

theorem peekIfIn {view : View} {p' : Parser α} {q' : Parser β} (steady : Steady c place view)
    (yes : Parallel c limit place stage grip R p q)
    (no : Parallel c limit place stage grip R p' q') :
    Parallel c limit place stage grip R
      (Parser.peek view >>= fun ahead => if ahead = true then p else p')
      (Parser.peek view >>= fun ahead => if ahead = true then q else q') :=
  peekIn steady fun _ => ifBool rfl yes no

theorem peekIf {view : View} {p' : Parser α} {q' : Parser β} (blind : Blind c view)
    (yes : Parallel c limit place stage grip R p q)
    (no : Parallel c limit place stage grip R p' q') :
    Parallel c limit place stage grip R
      (Parser.peek view >>= fun ahead => if ahead = true then p else p')
      (Parser.peek view >>= fun ahead => if ahead = true then q else q') :=
  peekIfIn blind.steady yes no

/-- A value from which a phrase goes on. -/
theorem value {a : α} {b : β} (related : R a b) :
    Parallel c limit place stage .firm R (pure a) (pure b) := .pure related

theorem require {condition other : Bool} (same : condition = other) :
    Parallel c limit place stage .firm (fun _ _ => condition = true) (require condition)
      (require other) := by
  subst same
  cases condition with
  | true => exact .pure rfl
  | false => exact .fail

/-- Two ways to read a part of a phrase, with the rest of it after them. -/
theorem eitherIf {condition other : Bool} {p' : Parser α} {q' : Parser β} {f : α → Parser γ}
    {g : β → Parser δ} (same : condition = other)
    (yes : Parallel c limit place stage grip R p q)
    (no : Parallel c limit place stage grip R p' q')
    (after : ∀ a b, R a b →
      Parallel c limit place (stage.after grip) (grip.after wanted) Q (f a) (g b)) :
    Parallel c limit place stage wanted Q (if condition = true then p >>= f else p' >>= f)
      (if other = true then q >>= g else q' >>= g) :=
  ifBool same (yes.bind after) (no.bind after)

theorem either {view : View} {p' : Parser α} {q' : Parser β} {f : α → Parser γ}
    {g : β → Parser δ} (blind : Blind c view) (yes : Parallel c limit place stage grip R p q)
    (no : Parallel c limit place stage grip R p' q')
    (after : ∀ a b, R a b →
      Parallel c limit place (stage.after grip) (grip.after wanted) Q (f a) (g b)) :
    Parallel c limit place stage wanted Q
      (Parser.peek view >>= fun ahead => if ahead = true then p >>= f else p' >>= f)
      (Parser.peek view >>= fun ahead => if ahead = true then q >>= g else q' >>= g) :=
  peek blind fun _ => eitherIf rfl yes no after

/-- Three ways to read a part of a phrase. -/
theorem oneOf {condition condition' : Bool} {p' p'' : Parser α} {q' q'' : Parser β}
    {f : α → Parser γ} {g : β → Parser δ} (one : Parallel c limit place stage grip R p q)
    (two : Parallel c limit place stage grip R p' q')
    (three : Parallel c limit place stage grip R p'' q'')
    (after : ∀ a b, R a b →
      Parallel c limit place (stage.after grip) (grip.after wanted) Q (f a) (g b)) :
    Parallel c limit place stage wanted Q
      (if condition = true then p >>= f else if condition' = true then p' >>= f else p'' >>= f)
      (if condition = true then q >>= g else if condition' = true then q' >>= g else q'' >>= g) :=
  ifBool rfl (one.bind after) (ifBool rfl (two.bind after) (three.bind after))

/-- What lies ahead may have to be of a kind before a phrase goes on. -/
theorem guarded {condition other : Bool} {view : View} {f : Unit → Parser α} {g : Unit → Parser β}
    (same : condition = other) (blind : Blind c view)
    (after : Parallel c limit place stage grip R (f ()) (g ())) :
    Parallel c limit place stage grip R
      (if condition = true then Parser.peek view >>= fun ahead => Parser.require ahead >>= f else f ())
      (if other = true then Parser.peek view >>= fun ahead => Parser.require ahead >>= g
        else g ()) := by
  refine ifBool same (peek blind fun ahead => ?_) after
  cases ahead with
  | true => exact after
  | false => exact .fail

/-- A loop runs side by side when each round of it does. -/
theorem loop {body : α → Parser (α × Bool)} {body' : β → Parser (β × Bool)} {a : α} {b : β}
    (round : ∀ a b, R a b → Parallel c limit place stage grip
      (fun next next' => R next.1 next'.1 ∧ next.2 = next'.2) (body a) (body' b))
    (related : R a b) :
    Parallel c limit place stage grip R (loop body a) (loop body' b) := by
  intro first second state bound
  generalize size : first.length = length
  induction length using Nat.strongRecOn generalizing a b first second with
  | ind length ih =>
    subst size
    obtain ⟨ran,failed⟩ := round a b related first second state bound
    have reach (rest left : Lexemes) (taken : c.Taken grip first rest) (compared : c.compared)
        (live : c.Live place rest left) : left.length < stage.bound limit := by
      have within := state.within bound taken compared live
      refine lt_of_lt_of_le within ?_
      cases grip <;> cases stage <;> simp [Stage.after,Stage.bound]
    cases read : body a first with
    | none =>
      refine ⟨fun value rest run => ?_,fun compared inside _ => ?_⟩
      · rw [run_loop_fail _ _ _ read] at run
        cases run
      · exact run_loop_fail _ _ _ (failed compared inside read)
    | some result =>
      obtain ⟨⟨next,more⟩,rest⟩ := result
      obtain ⟨⟨next',_⟩,left,reached,taken,⟨kept,rfl⟩,same⟩ := ran _ _ read
      cases more with
      | false =>
        refine ⟨fun value final run => ?_,fun compared inside none => ?_⟩
        · rw [run_loop_stop _ _ _ _ _ read] at run
          cases run
          exact ⟨next',left,reached,taken,kept,fun compared live =>
            run_loop_stop _ _ _ _ _ (same compared live)⟩
        · rw [run_loop_stop _ _ _ _ _ read] at none
          cases none
      | true =>
        by_cases progress : rest.length < first.length
        · have onward := run_loop_more _ _ _ _ _ read progress
          obtain ⟨ran',failed'⟩ := ih rest.length progress kept rest left reached
            (reach rest left taken) rfl
          constructor
          · intro value final run
            rw [onward] at run
            obtain ⟨value',left',ended,taken',kept',same'⟩ := ran' value final run
            refine ⟨value',left',ended,taken.trans taken'.again,kept',
              fun compared live => ?_⟩
            have middle := reached.live_of_rest taken' live
            rw [run_loop_more _ _ _ _ _ (same compared middle)
              ((state.shorter_iff taken compared middle).mp progress)]
            exact same' compared live
          · intro compared inside none
            rw [onward] at none
            subst inside
            have middle := reached.live_of_grouped
            rw [run_loop_more _ _ _ _ _ (same compared middle)
              ((state.shorter_iff taken compared middle).mp progress)]
            exact failed' compared rfl none
        · refine ⟨fun value final run => ?_,fun compared inside _ => ?_⟩
          · rw [run_loop_stuck _ _ _ _ _ read progress] at run
            cases run
          · subst inside
            have middle := reached.live_of_grouped
            exact run_loop_stuck _ _ _ _ _ (same compared middle)
              fun less => progress ((state.shorter_iff taken compared middle).mpr less)

end Parallel

end

end CaseSynthesis.Grammar
