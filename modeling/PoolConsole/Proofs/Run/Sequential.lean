import PoolConsole.Interpreter
import PoolConsole.Proofs.Run.History

namespace PoolConsole

namespace Action

variable {σ α : Type}

/-- Is given answers, with nothing else happening meanwhile, and ends with a value and a state. -/
inductive Finishes : Action σ α → σ → α → σ → Prop where
  | done (a : α) (s : σ) : Finishes (.done a) s a s
  | takes {x y : Action σ α} {s t u : σ} {a : α} {reply : Reply} {issues : List (Issue σ)} :
      x.Takes s reply issues y t → Finishes y t a u → Finishes x s a u

/-- Runs to its first wait and finishes from there. -/
def Completes (x : Action σ α) (s : σ) (a : α) (u : σ) : Prop :=
  ∃ issues y t, x.Advances s issues y t ∧ y.Finishes t a u

end Action

namespace Handler

variable {κ σ α : Type}

/-- Several calls that are answered in order end as their first failure, or with all answers. -/
theorem answerAll_finishes (h : Handler (StateM κ)) {calls : List Call} (nonempty : calls ≠ [])
    (next : Outcome (Call.Answers calls) → Action σ α) {s u : σ} {k : κ} {a : α}
    (after : (next (h.answerAll calls k).1).Completes s a u) :
    (Action.tryAll calls next).Finishes s a u := by
  induction calls generalizing k with
  | nil => exact absurd rfl nonempty
  | cons c cs ih =>
    have unfolded : (h.answerAll (c :: cs) k).1 =
        (h.answer c k).1 >>= fun first =>
          (h.answerAll cs (h.answer c k).2).1.map fun rest => (first, rest) := rfl
    rw [unfolded] at after
    cases answered : (h.answer c k).1 with
    | error e =>
      rw [answered] at after
      obtain ⟨issues, y, t, run, finishes⟩ := after
      exact .takes (.tryFails e List.mem_cons_self run) finishes
    | ok first =>
      rw [answered] at after
      cases cs with
      | nil =>
        obtain ⟨issues, y, t, run, finishes⟩ := after
        exact .takes (.tryLast first run) finishes
      | cons d ds =>
        have others : d :: ds ≠ [] := List.cons_ne_nil d ds
        have taken : (Action.tryAll ([] ++ c :: d :: ds) next).Takes s ⟨c, .ok first⟩ [] _ s :=
          .tryPart first others
        exact .takes taken (ih others _ after)

theorem run_completes (h : Handler (StateM κ)) (x : Action σ α) (s : σ) (k : κ) :
    x.Completes s (h.run x s k).1.1 (h.run x s k).1.2 := by
  induction x generalizing s k with
  | done a => exact ⟨_, _, _, .done a s, .done a s⟩
  | get next ih =>
    obtain ⟨issues, y, t, run, finishes⟩ := ih s s k
    exact ⟨issues, y, t, .get run, finishes⟩
  | set v next ih =>
    obtain ⟨issues, y, t, run, finishes⟩ := ih v k
    exact ⟨issues, y, t, .set run, finishes⟩
  | save place text next ih =>
    obtain ⟨issues, y, t, run, finishes⟩ := ih (h.save place text k).1 s (h.save place text k).2
    exact ⟨issues, y, t, .save _ run, finishes⟩
  | call c next ih =>
    obtain ⟨issues, y, t, run, finishes⟩ := ih (h.answer c k).1 s (h.answer c k).2
    exact ⟨_, _, _, .call c next s, .takes (.call _ run) finishes⟩
  | tryAll cs next ih =>
    cases cs with
    | nil =>
      obtain ⟨issues, y, t, run, finishes⟩ := ih (.ok ()) s k
      exact ⟨issues, y, t, .tryNone run, finishes⟩
    | cons c cs =>
      have after := ih (h.answerAll (c :: cs) k).1 s (h.answerAll (c :: cs) k).2
      exact ⟨_, _, _, .tryAll c cs next s, h.answerAll_finishes (List.cons_ne_nil c cs) next after⟩
  | both c d onC onD next ih =>
    let r := (h.answer c k).1
    let q := (h.answer d (h.answer c k).2).1
    let taken := onD q (onC r s).2
    obtain ⟨issues, y, t, run, finishes⟩ :=
      ih (onC r s).1 taken.1 taken.2 (h.answer d (h.answer c k).2).2
    have second : (Action.call d fun q => .get fun v => .set (onD q v).2
        (next (onC r s).1 (onD q v).1)).Takes (onC r s).2 ⟨d, q⟩ issues y t :=
      .call q (.get (.set run))
    exact ⟨_, _, _, .both c d onC onD next s, .takes (.bothFirst r) (.takes second finishes)⟩

end Handler

variable {start : Console} {h : List Moment}

/-- Nothing keeps an activity that waits from being answered to its end. -/
theorem Run.finish {strands : List Strand} {activity : Activity} {s u : Console}
    {rest : Action Console activity.Result} {a : activity.Result} {n : Nat}
    (run : Run start h ⟨s, strands⟩) (there : strands[n]? = some ⟨activity, rest⟩)
    (finishes : rest.Finishes s a u) :
    ∃ later, Run start (later ++ h) ⟨u, strands.set n ⟨activity, .done a⟩⟩ := by
  induction finishes generalizing h strands with
  | done a s =>
    obtain ⟨bound, same⟩ := List.getElem?_eq_some_iff.mp there
    rw [← same, List.set_getElem_self]
    exact ⟨[], run⟩
  | takes takes _ ih =>
    have step := run.next (.answer n _ _ there takes)
    have bound := (List.getElem?_eq_some_iff.mp there).1
    obtain ⟨later, done⟩ := ih step (List.getElem?_set_self bound)
    rw [List.set_set] at done
    exact ⟨later ++ [_], by rwa [List.append_assoc]⟩

/-- An activity that a handler carries out, call by call, continues any run, and its value and the
console that it leaves are those of the handler. -/
theorem Run.carry_out {κ : Type} {w : World} (run : Run start h w) (handler : Handler (StateM κ))
    (activity : Activity) (k : κ) :
    ∃ later, Run start (later ++ h)
      ⟨(handler.run activity.action w.console k).1.2,
        w.strands ++ [⟨activity, .done (handler.run activity.action w.console k).1.1⟩]⟩ := by
  obtain ⟨issues, rest, t, advances, finishes⟩ :=
    handler.run_completes activity.action w.console k
  have begun := run.next (.begin activity advances)
  have there : (w.strands ++ [⟨activity, rest⟩])[w.strands.length]? = some ⟨activity, rest⟩ :=
    List.getElem?_concat_length
  obtain ⟨later, done⟩ := begun.finish there finishes
  rw [List.set_append_right _ _ (Nat.le_refl _), Nat.sub_self] at done
  exact ⟨later ++ [_], by rwa [List.append_assoc]⟩

end PoolConsole
