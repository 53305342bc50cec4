import PoolConsole.Action

/-!
Actions from one wait to the next.

* `Action.Advances`: an action runs from a state up to its next wait, or to its end.
* `Action.Takes`: a waiting action is given the answer to one of its calls and runs on, if that is
  what it has been waiting for.
* `Action.exists_advances`, `Action.exists_takes`: neither gets stuck, whatever is answered.
-/

namespace PoolConsole

structure Issue (σ : Type) where
  call : Call
  state : σ

structure Reply where
  call : Call
  outcome : Outcome call.Answer

/-- Puts an answer back between the answers of the calls before and after it. -/
def Call.Answers.insert {c : Call} {after : List Call} :
    (before : List Call) → c.Answer → Call.Answers (before ++ after) →
      Call.Answers (before ++ c :: after)
  | [], a, rest => (a, rest)
  | _ :: before, a, (first, rest) => (first, insert before a rest)

namespace Action

variable {σ α β : Type}

/-- Runs from a state up to the next wait or to the end, with the calls made on the way. Whether a
text is kept, and whether one of several calls fails at once, is up to the world outside. -/
inductive Advances : Action σ α → σ → List (Issue σ) → Action σ α → σ → Prop where
  | done (a : α) (s : σ) : Advances (.done a) s [] (.done a) s
  | get {next : σ → Action σ α} {s t issues x} :
      Advances (next s) s issues x t → Advances (.get next) s issues x t
  | set {u : σ} {next : Action σ α} {s t issues x} :
      Advances next u issues x t → Advances (.set u next) s issues x t
  | save {place text : String} {next : Outcome Unit → Action σ α} {s t issues x}
      (kept : Outcome Unit) :
      Advances (next kept) s issues x t → Advances (.save place text next) s issues x t
  | call (c : Call) (next : Outcome c.Answer → Action σ α) (s : σ) :
      Advances (.call c next) s [⟨c, s⟩] (.call c next) s
  | tryAll (c : Call) (cs : List Call) (next : Outcome (Call.Answers (c :: cs)) → Action σ α)
      (s : σ) :
      Advances (.tryAll (c :: cs) next) s ((c :: cs).map (⟨·, s⟩)) (.tryAll (c :: cs) next) s
  | tryNone {next : Outcome Unit → Action σ α} {s t issues x} :
      Advances (next (.ok ())) s issues x t → Advances (.tryAll [] next) s issues x t
  /-- The last of the calls made has failed at once. -/
  | tryFails {cs made : List Call} {next : Outcome (Call.Answers cs) → Action σ α} {s t issues x}
      (e : PoolError) (part : made <+: cs) (tried : made ≠ []) :
      Advances (next (.error e)) s issues x t →
      Advances (.tryAll cs next) s (made.map (⟨·, s⟩) ++ issues) x t
  | both (c d : Call) (onC : Outcome c.Answer → σ → Outcome LoadOutcome × σ)
      (onD : Outcome d.Answer → σ → Outcome LoadOutcome × σ)
      (next : Outcome LoadOutcome → Outcome LoadOutcome → Action σ α) (s : σ) :
      Advances (.both c d onC onD next) s [⟨c, s⟩, ⟨d, s⟩] (.both c d onC onD next) s

/-- Is given an answer and goes on, if nothing else has to be waited for. -/
inductive Takes : Action σ α → σ → Reply → List (Issue σ) → Action σ α → σ → Prop where
  | call {c : Call} {next : Outcome c.Answer → Action σ α} {s t issues x} (r : Outcome c.Answer) :
      Advances (next r) s issues x t → Takes (.call c next) s ⟨c, r⟩ issues x t
  /-- One of several calls has failed; the answers to the others do not count any more. -/
  | tryFails {cs : List Call} {c : Call} {next : Outcome (Call.Answers cs) → Action σ α}
      {s t issues x} (e : PoolError) (mem : c ∈ cs) :
      Advances (next (.error e)) s issues x t → Takes (.tryAll cs next) s ⟨c, .error e⟩ issues x t
  | tryLast {c : Call} {next : Outcome (Call.Answers [c]) → Action σ α} {s t issues x}
      (a : c.Answer) :
      Advances (next (.ok (a, ()))) s issues x t → Takes (.tryAll [c] next) s ⟨c, .ok a⟩ issues x t
  | tryPart {before after : List Call} {c : Call}
      {next : Outcome (Call.Answers (before ++ c :: after)) → Action σ α} {s : σ} (a : c.Answer)
      (more : before ++ after ≠ []) :
      Takes (.tryAll (before ++ c :: after) next) s ⟨c, .ok a⟩ []
        (.tryAll (before ++ after) fun r => next (r.map (Call.Answers.insert before a))) s
  | bothFirst {c d : Call} {onC : Outcome c.Answer → σ → Outcome LoadOutcome × σ}
      {onD : Outcome d.Answer → σ → Outcome LoadOutcome × σ}
      {next : Outcome LoadOutcome → Outcome LoadOutcome → Action σ α} {s : σ}
      (r : Outcome c.Answer) :
      Takes (.both c d onC onD next) s ⟨c, r⟩ []
        (.call d fun q => .get fun u => .set (onD q u).2 (next (onC r s).1 (onD q u).1)) (onC r s).2
  | bothSecond {c d : Call} {onC : Outcome c.Answer → σ → Outcome LoadOutcome × σ}
      {onD : Outcome d.Answer → σ → Outcome LoadOutcome × σ}
      {next : Outcome LoadOutcome → Outcome LoadOutcome → Action σ α} {s : σ}
      (q : Outcome d.Answer) :
      Takes (.both c d onC onD next) s ⟨d, q⟩ []
        (.call c fun r => .get fun u => .set (onC r u).2 (next (onC r u).1 (onD q s).1)) (onD q s).2

/-- The calls that an action is waiting for. -/
def awaited : Action σ α → List Call
  | .call c _ => [c]
  | .tryAll cs _ => cs
  | .both c d _ _ _ => [c, d]
  | _ => []

def value? : Action σ α → Option α
  | .done a => some a
  | _ => none

theorem exists_advances (x : Action σ α) (s : σ) : ∃ issues y t, x.Advances s issues y t := by
  induction x generalizing s with
  | done a => exact ⟨_, _, _, .done a s⟩
  | get next ih =>
    obtain ⟨issues, y, t, h⟩ := ih s s
    exact ⟨issues, y, t, .get h⟩
  | set u next ih =>
    obtain ⟨issues, y, t, h⟩ := ih u
    exact ⟨issues, y, t, .set h⟩
  | save place text next ih =>
    obtain ⟨issues, y, t, h⟩ := ih (.ok ()) s
    exact ⟨issues, y, t, .save (.ok ()) h⟩
  | call c next => exact ⟨_, _, _, .call c next s⟩
  | tryAll cs next ih =>
    cases cs with
    | nil =>
      obtain ⟨issues, y, t, h⟩ := ih (.ok ()) s
      exact ⟨issues, y, t, .tryNone h⟩
    | cons c cs => exact ⟨_, _, _, .tryAll c cs next s⟩
  | both c d onC onD next => exact ⟨_, _, _, .both c d onC onD next s⟩

/-- Any answer can arrive to any call that is waited for. -/
theorem exists_takes {x : Action σ α} {c : Call} (mem : c ∈ x.awaited) (r : Outcome c.Answer)
    (s : σ) : ∃ issues y t, x.Takes s ⟨c, r⟩ issues y t := by
  cases x with
  | call d next =>
    rw [awaited, List.mem_singleton] at mem
    subst mem
    obtain ⟨issues, y, t, h⟩ := exists_advances (next r) s
    exact ⟨issues, y, t, .call r h⟩
  | tryAll cs next =>
    cases r with
    | error e =>
      obtain ⟨issues, y, t, h⟩ := exists_advances (next (.error e)) s
      exact ⟨issues, y, t, .tryFails e mem h⟩
    | ok a =>
      obtain ⟨before, after, rfl⟩ := List.append_of_mem mem
      by_cases more : before ++ after = []
      · obtain ⟨rfl, rfl⟩ := List.append_eq_nil_iff.mp more
        obtain ⟨issues, y, t, h⟩ := exists_advances (next (.ok (a, ()))) s
        exact ⟨issues, y, t, .tryLast a h⟩
      · exact ⟨_, _, _, .tryPart a more⟩
  | both d e onD onE next =>
    simp only [awaited, List.mem_cons, List.not_mem_nil, or_false] at mem
    rcases mem with rfl | rfl
    · exact ⟨_, _, _, .bothFirst r⟩
    · exact ⟨_, _, _, .bothSecond r⟩
  | done | get | set | save => simp [awaited] at mem

/-- What is waited for has been called. -/
theorem Advances.awaited_sublist {x y : Action σ α} {s t : σ} {issues : List (Issue σ)}
    (h : x.Advances s issues y t) : y.awaited.Sublist (issues.map (·.call)) := by
  induction h with
  | done | call | both => exact List.Sublist.refl _
  | get _ ih | set _ ih | save _ _ ih | tryNone _ ih => exact ih
  | tryAll c cs next s =>
    simp [awaited, List.map_map, Function.comp_def]
  | tryFails e part tried _ ih =>
    rw [List.map_append]
    exact ih.trans (List.sublist_append_right _ _)

/-- What has come to its end takes no answer. -/
theorem Takes.unfinished {x y : Action σ α} {s t : σ} {reply : Reply} {issues : List (Issue σ)}
    (h : x.Takes s reply issues y t) : x.value? = none := by
  cases h <;> rfl

theorem Takes.awaited_sublist {x y : Action σ α} {s t : σ} {reply : Reply}
    {issues : List (Issue σ)} (h : x.Takes s reply issues y t) :
    y.awaited.Sublist (x.awaited ++ issues.map (·.call)) := by
  cases h with
  | call r run => exact run.awaited_sublist.trans (List.sublist_append_right _ _)
  | tryFails e mem run => exact run.awaited_sublist.trans (List.sublist_append_right _ _)
  | tryLast a run => exact run.awaited_sublist.trans (List.sublist_append_right _ _)
  | tryPart a more =>
    rw [List.map_nil, List.append_nil]
    exact (List.sublist_cons_self _ _).append_left _
  | bothFirst r => exact List.sublist_cons_self _ _
  | bothSecond q => exact List.Sublist.cons_cons _ (List.nil_sublist _)

variable {s t : σ} {issues : List (Issue σ)} {x : Action σ α}

@[simp] theorem advances_done (a : α) :
    (Action.done a).Advances s issues x t ↔ issues = [] ∧ x = .done a ∧ t = s := by
  constructor
  · rintro ⟨⟩
    exact ⟨rfl, rfl, rfl⟩
  · rintro ⟨rfl, rfl, rfl⟩
    exact .done a t

@[simp] theorem advances_get (next : σ → Action σ α) :
    (Action.get next).Advances s issues x t ↔ (next s).Advances s issues x t :=
  ⟨fun | .get h => h, .get⟩

@[simp] theorem advances_set (u : σ) (next : Action σ α) :
    (Action.set u next).Advances s issues x t ↔ next.Advances u issues x t :=
  ⟨fun | .set h => h, .set⟩

@[simp] theorem advances_call (c : Call) (next : Outcome c.Answer → Action σ α) :
    (Action.call c next).Advances s issues x t ↔
      issues = [⟨c, s⟩] ∧ x = .call c next ∧ t = s := by
  constructor
  · rintro ⟨⟩
    exact ⟨rfl, rfl, rfl⟩
  · rintro ⟨rfl, rfl, rfl⟩
    exact .call c next t

@[simp] theorem advances_read_bind {β : Type} (view : σ → β) (f : β → Action σ α) :
    ((Action.read view).bind f).Advances s issues x t ↔ (f (view s)).Advances s issues x t := by
  simp [Action.read, bind]

section
variable {τ β : Type} {part : σ → τ} {replace : τ → σ → σ}

@[simp] theorem advances_modify_bind (f : τ → τ) (g : Unit → Action σ α) :
    (((Action.modify f).onPart part replace).bind g).Advances s issues x t ↔
      (g ()).Advances (replace (f (part s)) s) issues x t := by
  simp [modify, onPart, bind]

@[simp] theorem advances_update_bind (f : τ → β × τ) (g : β → Action σ α) :
    (((Action.update f).onPart part replace).bind g).Advances s issues x t ↔
      (g (f (part s)).1).Advances (replace (f (part s)).2 s) issues x t := by
  simp [update, onPart, bind]

end

@[simp] theorem takes_call (c : Call) (next : Outcome c.Answer → Action σ α) (reply : Reply) :
    (Action.call c next).Takes s reply issues x t ↔
      ∃ r, reply = ⟨c, r⟩ ∧ (next r).Advances s issues x t := by
  constructor
  · rintro (⟨r, h⟩)
    exact ⟨r, rfl, h⟩
  · rintro ⟨r, rfl, h⟩
    exact .call r h

@[simp] theorem not_takes_done (a : α) (reply : Reply) :
    ¬ (Action.done a).Takes s reply issues x t :=
  nofun

end Action

end PoolConsole
