import PoolConsole.Proofs.Run.Discipline

/-!
Actions made of two, one after the other.

* `Action.Passes`: what a step of the whole is, seen from its two parts: the first part still waits,
  or it has ended and the second has begun. `Action.Advances.passes` and `Action.Takes.passes` say
  that a step is one of the two.
* `Action.Still`: a waiting action that leaves a view of the state alone and makes, and has made,
  only some calls.
-/

namespace PoolConsole

namespace Action

variable {σ α β γ : Type} {s t u : σ} {reply : Reply} {issues : List (Issue σ)}
  {x : Action σ β} {f : β → Action σ α} {z : Action σ α}

/-- A step of two actions in sequence, by what the first of them can do in a step. -/
inductive Passes (first : List (Issue σ) → Action σ β → σ → Prop) (f : β → Action σ α) :
    List (Issue σ) → Action σ α → σ → Prop where
  | waits {issues y t} : first issues y t → y.value? = none → Passes first f issues (y.bind f) t
  | ends {issues a u later z t} : first issues (.done a) u → (f a).Advances u later z t →
      Passes first f (issues ++ later) z t

/-- What the first of the two has done may be the last part of something more. -/
theorem Passes.after {first first' : List (Issue σ) → Action σ β → σ → Prop}
    (passes : Passes first f issues z t) (before : List (Issue σ))
    (more : ∀ {issues y t}, first issues y t → first' (before ++ issues) y t) :
    Passes first' f (before ++ issues) z t := by
  cases passes with
  | waits step unfinished => exact .waits (more step) unfinished
  | ends step next =>
    rw [← List.append_assoc]
    exact .ends (more step) next

theorem Advances.passes (h : (x.bind f).Advances s issues z t) :
    Passes (x.Advances s) f issues z t := by
  induction x generalizing s issues z t with
  | done a => exact .ends (Advances.done a s) h
  | get next ih => exact (ih s ((advances_get _).mp h)).after [] .get
  | set v next ih => exact (ih ((advances_set v _).mp h)).after [] .set
  | save place text next ih =>
    cases h with
    | save kept h => exact (ih kept h).after [] (.save kept)
  | call c next =>
    obtain ⟨rfl, rfl, rfl⟩ := (advances_call c _).mp h
    exact .waits (Advances.call c next t) rfl
  | tryAll cs next ih =>
    cases h with
    | tryAll c cs => exact .waits (Advances.tryAll c cs next s) rfl
    | tryNone h => exact (ih _ h).after [] .tryNone
    | tryFails e part tried h => exact (ih _ h).after _ (.tryFails e part tried)
  | both c d onC onD next =>
    cases h
    exact .waits (Advances.both c d onC onD next s) rfl

theorem Takes.passes (unfinished : x.value? = none) (h : (x.bind f).Takes s reply issues z t) :
    Passes (x.Takes s reply) f issues z t := by
  cases x with
  | done => cases unfinished
  | get | set | save => cases h
  | call c next =>
    cases h with
    | call r h => exact h.passes.after [] (.call r)
  | tryAll cs next =>
    cases h with
    | tryFails e mem h => exact h.passes.after [] (.tryFails e mem)
    | tryLast a h => exact h.passes.after [] (.tryLast a)
    | tryPart a more => exact .waits (Takes.tryPart a more) rfl
  | both c d onC onD next =>
    cases h with
    | bothFirst r => exact .waits (Takes.bothFirst r) rfl
    | bothSecond q => exact .waits (Takes.bothSecond q) rfl

/-- An answer comes to a call that has been waited for. -/
theorem Takes.mem_awaited {y : Action σ α} (h : z.Takes s reply issues y t) :
    reply.call ∈ z.awaited := by
  cases h with
  | call | tryLast | bothFirst => exact List.mem_cons_self
  | tryFails e mem => exact mem
  | tryPart a more => exact List.mem_append_right _ List.mem_cons_self
  | bothSecond => exact List.mem_cons_of_mem _ List.mem_cons_self

/-- A waiting action that leaves a view of the state alone and makes only some calls, those that it
waits for among them. -/
structure Still (view : σ → γ) (calls : Call → Prop) (x : Action σ α) (s : σ) : Prop where
  poised : x.Poised (.frame view fun c _ => calls c) (Unchanged view) s
  awaits : ∀ c ∈ x.awaited, calls c

structure Keeps (view : σ → γ) (calls : Call → Prop) (s : σ) (issues : List (Issue σ))
    (y : Action σ α) (t : σ) : Prop where
  same : view t = view s
  asks : ∀ i ∈ issues, calls i.call
  still : y.Still view calls t

variable {view : σ → γ} {calls : Call → Prop} {y : Action σ α}

theorem Still.mono (still : y.Still view calls s) : y.Still view calls t :=
  ⟨still.poised.mono trivial, still.awaits⟩

theorem Still.done (a : α) : (Action.done a : Action σ α).Still view calls s :=
  ⟨trivial, by simp [awaited]⟩

theorem Confined.keeps (h : z.Confined view fun c _ => calls c) (run : z.Advances s issues y t) :
    Keeps view calls s issues y t := by
  have fits := h.poised rfl run
  refine ⟨fits.unchanged, fits.issue, fits.poised, ?_⟩
  intro c mem
  obtain ⟨i, made, rfl⟩ := List.mem_map.mp (run.awaited_sublist.subset mem)
  exact fits.issue i made

theorem Still.keeps (still : z.Still view calls s) (takes : z.Takes s reply issues y t) :
    Keeps view calls s issues y t := by
  have fits := takes.obeys still.poised
  refine ⟨fits.unchanged, fits.issue, fits.poised, ?_⟩
  intro c mem
  rcases List.mem_append.mp (takes.awaited_sublist.subset mem) with waited | asked
  · exact still.awaits c waited
  · obtain ⟨i, made, rfl⟩ := List.mem_map.mp asked
    exact fits.issue i made

/-- What leaves a view alone is answered only what it may ask for. -/
theorem Still.answered (still : z.Still view calls s) (takes : z.Takes s reply issues y t) :
    calls reply.call :=
  still.awaits _ takes.mem_awaited

end Action

end PoolConsole
