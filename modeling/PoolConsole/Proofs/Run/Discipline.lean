import PoolConsole.Proofs.Run.Segment

/-!
What an action keeps to while others change the state during its waits.

* `Discipline`: what may be relied on across a wait, what may be done from one wait to the next, and
  in which states a call may be made.
* `Action.Obeys`, `Action.Poised`: a running and a waiting action keep to a discipline, whatever is
  answered; `Action.Advances.obeys` and `Action.Takes.obeys` say that they then do so step by step.
* `Action.Confined`: the actions that leave a part of the state alone.
-/

namespace PoolConsole

structure Discipline (σ : Type) where
  /-- What the others may do while the action waits. -/
  rely : σ → σ → Prop := fun _ _ => True
  /-- What the action may do from one wait to the next. -/
  step : σ → σ → Prop
  /-- Which calls may be made in a state. -/
  call : Call → σ → Prop := fun _ _ => True
  rely_refl : ∀ s, rely s s := by intros; trivial
  rely_trans : ∀ {s t u}, rely s t → rely t u → rely s u := by intros; trivial
  step_refl : ∀ s, step s s := by intros; rfl

namespace Action

variable {σ α β : Type}

/-- An action that has come from one state to another since its last wait keeps to a discipline,
and what it ends with has to fit the states between which it has made its last step. -/
def Obeys (d : Discipline σ) (post : α → σ → σ → Prop) : Action σ α → σ → σ → Prop
  | .done a, s₀, s => post a s₀ s
  | .get next, s₀, s => (next s).Obeys d post s₀ s
  | .set u next, s₀, _ => next.Obeys d post s₀ u
  | .save _ _ next, s₀, s => ∀ kept, (next kept).Obeys d post s₀ s
  | .call c next, s₀, s =>
    d.call c s ∧ d.step s₀ s ∧ ∀ r t, d.rely s t → (next r).Obeys d post t t
  | .tryAll cs next, s₀, s =>
    (∀ c ∈ cs, d.call c s) ∧ d.step s₀ s ∧ (∀ r t, d.rely s t → (next r).Obeys d post t t) ∧
    (∀ e, (next (.error e)).Obeys d post s₀ s) ∧
    (∀ as, cs = [] → (next (.ok as)).Obeys d post s₀ s)
  | .both c e onC onE next, s₀, s =>
    (d.call c s ∧ d.call e s ∧ d.step s₀ s) ∧ ∀ t, d.rely s t →
      (∀ r, d.step t (onC r t).2 ∧ ∀ u, d.rely (onC r t).2 u → ∀ q,
        (next (onC r t).1 (onE q u).1).Obeys d post u (onE q u).2) ∧
      (∀ q, d.step t (onE q t).2 ∧ ∀ u, d.rely (onE q t).2 u → ∀ r,
        (next (onC r u).1 (onE q t).1).Obeys d post u (onC r u).2)

/-- A waiting action will keep to a discipline, whatever it is answered and whatever the others may
do to the state before. -/
def Poised (d : Discipline σ) (post : α → σ → σ → Prop) : Action σ α → σ → Prop
  | .done _, _ => True
  | .call _ next, s => ∀ r t, d.rely s t → (next r).Obeys d post t t
  | .tryAll _ next, s => ∀ r t, d.rely s t → (next r).Obeys d post t t
  | .both _ _ onC onE next, s => ∀ t, d.rely s t →
    (∀ r, d.step t (onC r t).2 ∧ ∀ u, d.rely (onC r t).2 u → ∀ q,
      (next (onC r t).1 (onE q u).1).Obeys d post u (onE q u).2) ∧
    (∀ q, d.step t (onE q t).2 ∧ ∀ u, d.rely (onE q t).2 u → ∀ r,
      (next (onC r u).1 (onE q t).1).Obeys d post u (onC r u).2)
  | _, _ => False

structure Fits (d : Discipline σ) (post : α → σ → σ → Prop) (s : σ) (issues : List (Issue σ))
    (x : Action σ α) (t : σ) : Prop where
  issue : ∀ i ∈ issues, d.call i.call i.state
  /-- The step is one that may be made, or the action has come to its end with it. -/
  step : x.value?.elim (d.step s t) fun a => post a s t
  poised : x.Poised d post t

variable {d : Discipline σ} {post : α → σ → σ → Prop} {x y : Action σ α} {s₀ s t : σ}
  {issues : List (Issue σ)}

theorem Advances.obeys (h : x.Advances s issues y t) (obeys : x.Obeys d post s₀ s) :
    y.Fits d post s₀ issues t := by
  induction h with
  | done a => exact ⟨by simp, obeys, trivial⟩
  | get _ ih | set _ ih => exact ih obeys
  | save kept _ ih => exact ih (obeys kept)
  | call c next s =>
    obtain ⟨call, step, next⟩ := obeys
    exact ⟨by simpa using call, step, next⟩
  | tryAll c cs next s =>
    obtain ⟨calls, step, next, _⟩ := obeys
    refine ⟨?_, step, next⟩
    intro i hi
    obtain ⟨c', hc', rfl⟩ := List.mem_map.mp hi
    exact calls c' hc'
  | tryNone _ ih => exact ih (obeys.2.2.2.2 () rfl)
  | tryFails e part _ _ ih =>
    obtain ⟨calls, _, _, fails, _⟩ := obeys
    obtain ⟨issue, step, poised⟩ := ih (fails e)
    refine ⟨?_, step, poised⟩
    intro i hi
    rcases List.mem_append.mp hi with hi | hi
    · obtain ⟨c, hc, rfl⟩ := List.mem_map.mp hi
      exact calls c (part.subset hc)
    · exact issue i hi
  | both c e onC onE next s =>
    obtain ⟨⟨first, second, step⟩, next⟩ := obeys
    exact ⟨by simp [first, second], step, next⟩

theorem Takes.obeys {reply : Reply} (h : x.Takes s reply issues y t) (poised : x.Poised d post s) :
    y.Fits d post s issues t := by
  have here := d.rely_refl s
  cases h with
  | call r run => exact run.obeys (poised r s here)
  | tryFails e _ run => exact run.obeys (poised (.error e) s here)
  | tryLast a run => exact run.obeys (poised (.ok (a, ())) s here)
  | tryPart a => exact ⟨by simp, d.step_refl s, fun r t rely => poised _ t rely⟩
  | bothFirst r =>
    obtain ⟨step, next⟩ := (poised s here).1 r
    exact ⟨by simp, step, fun q u rely => next u rely q⟩
  | bothSecond q =>
    obtain ⟨step, next⟩ := (poised s here).2 q
    exact ⟨by simp, step, fun r u rely => next u rely r⟩

/-- What the others may do leaves a waiting action ready to keep to its discipline. -/
theorem Poised.mono (poised : x.Poised d post s) (rely : d.rely s t) : x.Poised d post t := by
  cases x with
  | done => trivial
  | call c next => exact fun r u hu => poised r u (d.rely_trans rely hu)
  | tryAll cs next => exact fun r u hu => poised r u (d.rely_trans rely hu)
  | both c e onC onE next => exact fun u hu => poised u (d.rely_trans rely hu)
  | get | set | save => exact poised

/-! ## Rules -/

/-- A discipline may be relaxed: more may happen in a wait, and more may be done. -/
theorem Obeys.relax {d' : Discipline σ} {post' : α → σ → σ → Prop} (obeys : x.Obeys d post s₀ s)
    (rely : ∀ {u v}, d'.rely u v → d.rely u v) (step : ∀ {u v}, d.step u v → d'.step u v)
    (call : ∀ {c u}, d.call c u → d'.call c u) (ends : ∀ {a u v}, post a u v → post' a u v) :
    x.Obeys d' post' s₀ s := by
  induction x generalizing s₀ s with
  | done => exact ends obeys
  | get _ ih => exact ih _ obeys
  | set _ _ ih => exact ih obeys
  | save _ _ _ ih => exact fun kept => ih kept (obeys kept)
  | call _ _ ih =>
    exact ⟨call obeys.1, step obeys.2.1, fun r t waited => ih r (obeys.2.2 r t (rely waited))⟩
  | tryAll _ _ ih =>
    obtain ⟨calls, done, next, fails, alone⟩ := obeys
    exact ⟨fun c hc => call (calls c hc), step done,
      fun r t waited => ih r (next r t (rely waited)),
      fun e => ih _ (fails e), fun as empty => ih _ (alone as empty)⟩
  | both _ _ _ _ _ ih =>
    obtain ⟨⟨callC, callE, done⟩, next⟩ := obeys
    refine ⟨⟨call callC, call callE, step done⟩, fun t waited => ?_⟩
    obtain ⟨first, second⟩ := next t (rely waited)
    exact ⟨fun r => ⟨step (first r).1, fun u hu q => ih _ _ ((first r).2 u (rely hu) q)⟩,
      fun q => ⟨step (second q).1, fun u hu r => ih _ _ ((second q).2 u (rely hu) r)⟩⟩

theorem Obeys.imp {post' : α → σ → σ → Prop} (obeys : x.Obeys d post s₀ s)
    (ends : ∀ {a u v}, post a u v → post' a u v) : x.Obeys d post' s₀ s :=
  obeys.relax id id id ends

@[simp] theorem obeys_bind (x : Action σ β) (f : β → Action σ α) :
    (x.bind f).Obeys d post s₀ s ↔ x.Obeys d (fun b u v => (f b).Obeys d post u v) s₀ s := by
  induction x generalizing s₀ s <;> simp_all [bind, Obeys]

@[simp] theorem obeys_read (view : σ → α) : (read view).Obeys d post s₀ s ↔ post (view s) s₀ s :=
  Iff.rfl

end Action

/-! ## Leaving a part of the state alone -/

/-- A view of the state is left as it is, and only some calls are made. -/
def Discipline.frame {σ γ : Type} (view : σ → γ) (calls : Call → σ → Prop) : Discipline σ where
  step s t := view t = view s
  call := calls

namespace Action

variable {σ τ α β γ : Type}

/-- What an action that leaves a view alone ends with. -/
abbrev Unchanged (view : σ → γ) : α → σ → σ → Prop :=
  fun _ s t => view t = view s

theorem Fits.unchanged {view : σ → γ} {calls : Call → σ → Prop} {x : Action σ α} {s t : σ}
    {issues : List (Issue σ)} (h : x.Fits (.frame view calls) (Unchanged view) s issues t) :
    view t = view s := by
  have step := h.step
  cases ends : x.value? with
  | none => rwa [ends] at step
  | some a => rwa [ends] at step

structure Confined (view : σ → γ) (calls : Call → σ → Prop) (x : Action σ α) : Prop where
  obeys : ∀ s₀ s, view s = view s₀ → x.Obeys (.frame view calls) (Unchanged view) s₀ s

namespace Confined

variable {view : σ → γ} {calls : Call → σ → Prop}

theorem poised {x : Action σ α} {s₀ s t : σ} {issues : List (Issue σ)}
    (h : x.Confined view calls) (same : view s = view s₀) {y : Action σ α}
    (run : x.Advances s issues y t) :
    y.Fits (.frame view calls) (Unchanged view) s₀ issues t :=
  run.obeys (h.obeys s₀ s same)

theorem done (a : α) : (Action.done a : Action σ α).Confined view calls :=
  ⟨fun _ _ same => same⟩

theorem read (f : σ → α) : (Action.read f).Confined view calls :=
  ⟨fun _ _ same => same⟩

theorem update {change : σ → α × σ} (keeps : ∀ s, view (change s).2 = view s) :
    (Action.update change).Confined view calls :=
  ⟨fun _ s same => (keeps s).trans same⟩

theorem modify {change : σ → σ} (keeps : ∀ s, view (change s) = view s) :
    (Action.modify change).Confined view calls :=
  ⟨fun _ s same => (keeps s).trans same⟩

theorem save (place text : String) :
    (Action.save place text .done : Action σ (Outcome Unit)).Confined view calls :=
  ⟨fun _ _ same _ => same⟩

theorem request {c : Call} (may : ∀ s, calls c s) :
    (Action.request c : Action σ _).Confined view calls :=
  ⟨fun _ s same => ⟨may s, same, fun _ _ _ => rfl⟩⟩

theorem requestAll {cs : List Call} {k : Call → Prop} (may : ∀ c s, k c → calls c s)
    (all : ∀ c ∈ cs, k c) : (Action.requestAll cs : Action σ _).Confined view calls :=
  ⟨fun _ s same =>
    ⟨fun c hc => may c s (all c hc), same, fun _ _ _ => rfl, fun _ => same, fun _ _ => same⟩⟩

theorem bind {x : Action σ β} {f : β → Action σ α} (first : x.Confined view calls)
    (next : ∀ b, (f b).Confined view calls) : (x.bind f).Confined view calls := by
  constructor
  intro s₀ s same
  rw [obeys_bind]
  exact (first.obeys s₀ s same).imp fun {b u v} => (next b).obeys u v

theorem attempt {x : Action σ (Outcome β)} {f : β → Action σ (Outcome α)}
    (first : x.Confined view calls) (next : ∀ b, (f b).Confined view calls) :
    (x.attempt f).Confined view calls := by
  refine first.bind fun r => ?_
  cases r with
  | ok b => exact next b
  | error e => exact done _

theorem ite {p : Prop} [Decidable p] {x y : Action σ α} (hx : x.Confined view calls)
    (hy : y.Confined view calls) : (if p then x else y).Confined view calls := by
  split
  · exact hx
  · exact hy

/-- What is done to one part of a state leaves a view of the other parts alone. -/
theorem onPart {part : σ → τ} {replace : τ → σ → σ} (replaced : ∀ t s, part (replace t s) = t)
    (apart : ∀ t s, view (replace t s) = view s) {x : Action τ α}
    (may : x.Confined (fun _ => ()) fun c _ => ∀ s, calls c s) :
    (x.onPart part replace).Confined view calls := by
  suffices run : ∀ t₀ s₀ s, view s = view s₀ →
      x.Obeys (.frame (fun _ => ()) fun c _ => ∀ s, calls c s) (Unchanged fun _ => ()) t₀ (part s) →
      (x.onPart part replace).Obeys (.frame view calls) (Unchanged view) s₀ s from
    ⟨fun s₀ s same => run (part s) s₀ s same (may.obeys (part s) (part s) rfl)⟩
  clear may
  induction x with
  | done => exact fun _ _ _ same _ => same
  | get _ ih => exact fun t₀ s₀ s same obeys => ih _ t₀ s₀ s same obeys
  | set u _ ih =>
    intro t₀ s₀ s same obeys
    refine ih t₀ s₀ (replace u s) ((apart u s).trans same) ?_
    rw [replaced]
    exact obeys
  | save _ _ _ ih => exact fun t₀ s₀ s same obeys kept => ih kept t₀ s₀ s same (obeys kept)
  | call c _ ih =>
    intro t₀ s₀ s same ⟨may, _, next⟩
    exact ⟨may s, same, fun r t _ => ih r (part t) t t rfl (next r (part t) trivial)⟩
  | tryAll cs _ ih =>
    intro t₀ s₀ s same ⟨may, _, next, fails, alone⟩
    exact ⟨fun c hc => may c hc s, same,
      fun r t _ => ih r (part t) t t rfl (next r (part t) trivial),
      fun e => ih _ t₀ s₀ s same (fails e), fun as empty => ih _ t₀ s₀ s same (alone as empty)⟩
  | both c e onC onE _ ih =>
    intro t₀ s₀ s same ⟨⟨mayC, mayE, _⟩, next⟩
    refine ⟨⟨mayC s, mayE s, same⟩, fun t _ => ?_⟩
    obtain ⟨first, second⟩ := next (part t) trivial
    constructor
    · intro r
      refine ⟨apart _ t, fun u _ q => ih _ _ (part u) u _ (apart _ u) ?_⟩
      rw [replaced]
      exact (first r).2 (part u) trivial q
    · intro q
      refine ⟨apart _ t, fun u _ r => ih _ _ (part u) u _ (apart _ u) ?_⟩
      rw [replaced]
      exact (second q).2 (part u) trivial r

end Confined

end Action

end PoolConsole
