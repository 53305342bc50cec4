import PoolConsole.Proofs.Run.Past
import PoolConsole.Simulation.Backend

/-!
Runs against a pool in memory.

* `Served`: the answers of a history are those of a pool that begins as given. A call takes effect
  when it is answered; any call may fail instead, and then has none.
* `Served.kept`: what no accepted call changes is still as it was; `Served.read`: so what has been
  read of it is still true.
-/

namespace PoolConsole

/-- The answers of a history, whose latest moment comes first, are those of a pool in memory, and
the pool that they leave. -/
inductive Served (p₀ : MemoryPool) : List Moment → MemoryPool → Prop where
  | start : Served p₀ [] p₀
  | begins {h p m} : Served p₀ h p → m.reply = none → Served p₀ (m :: h) p
  | answers {h m} (b : MemoryBackend) (c : Call) :
      Served p₀ h b.pool → m.reply = some ⟨c, (b.answer c).1⟩ →
        Served p₀ (m :: h) (b.answer c).2.pool

namespace MemoryBackend

/-- An answer is that of the pool, or nothing has been done. -/
theorem answer_cases (b : MemoryBackend) (c : Call) :
    ((b.answer c).1 = (b.pool.perform c).1 ∧ (b.answer c).2.pool = (b.pool.perform c).2) ∨
    (∃ e, (b.answer c).1 = .error e ∧ (b.answer c).2.pool = b.pool) := by
  unfold answer
  split
  next e _ => exact .inr ⟨e, rfl, rfl⟩
  next => exact .inl ⟨rfl, rfl⟩

end MemoryBackend

/-- A call that the pool does not accept changes nothing. -/
theorem MemoryPool.perform_of_error {p : MemoryPool} {c : Call} {e : PoolError}
    (refused : (p.perform c).1 = .error e) : (p.perform c).2 = p := by
  cases c with
  | template name =>
    simp only [perform]
    split
    · rfl
    · rfl
  | resources nodes =>
    simp only [perform]
    split
    · rfl
    · rfl
  | _ => cases refused

/-- The answer to a call tells which pool it leaves. -/
theorem MemoryBackend.pool_of_answer (b : MemoryBackend) {b' : MemoryBackend} {c : Call}
    (pool : b.pool = b'.pool) (same : (b.answer c).1 = (b'.answer c).1) :
    (b.answer c).2.pool = (b'.answer c).2.pool := by
  have refused {b : MemoryBackend} {e : PoolError} (failed : (b.answer c).1 = .error e) :
      (b.answer c).2.pool = b.pool := by
    rcases b.answer_cases c with ⟨outcome, left⟩ | ⟨-, -, left⟩
    · rw [left, MemoryPool.perform_of_error (outcome.symm.trans failed)]
    · exact left
  cases answer : (b.answer c).1 with
  | error e => rw [refused answer, refused (same.symm.trans answer), pool]
  | ok a =>
    have accepted {b : MemoryBackend} (answer : (b.answer c).1 = .ok a) :
        (b.answer c).2.pool = (b.pool.perform c).2 := by
      rcases b.answer_cases c with ⟨-, left⟩ | ⟨e, failed, -⟩
      · exact left
      · rw [failed] at answer
        cases answer
    rw [accepted answer, accepted (same.symm.trans answer), pool]

variable {p₀ p : MemoryPool} {h later earlier : List Moment} {m : Moment}

/-- The pool that an accepted call has been made of. -/
theorem Served.accepted (served : Served p₀ (m :: h) p) {c : Call} {a : c.Answer}
    (reply : m.reply = some ⟨c, .ok a⟩) : ∃ q, Served p₀ h q ∧ q.perform c = (.ok a, p) := by
  cases served with
  | begins _ none =>
    rw [reply] at none
    cases none
  | answers b d served answer =>
    rw [reply, Option.some.injEq] at answer
    obtain ⟨rfl, same⟩ := Reply.mk.inj answer
    refine ⟨b.pool, served, ?_⟩
    rcases b.answer_cases c with ⟨outcome, pool⟩ | ⟨e, failed, -⟩
    · exact Prod.ext (outcome.symm.trans (eq_of_heq same).symm) pool.symm
    · rw [failed] at same
      cases same

/-- A history leaves one pool. -/
theorem Served.unique {q : MemoryPool} (served : Served p₀ h p) (served' : Served p₀ h q) :
    p = q := by
  induction served generalizing q with
  | start =>
    cases served'
    rfl
  | begins _ none ih =>
    cases served' with
    | begins served' _ => exact ih served'
    | answers _ _ _ reply =>
      rw [none] at reply
      cases reply
  | answers b c _ reply ih =>
    cases served' with
    | begins _ none =>
      rw [reply] at none
      cases none
    | answers b' d served' reply' =>
      rw [reply, Option.some.injEq] at reply'
      obtain ⟨rfl, same⟩ := Reply.mk.inj reply'
      exact b.pool_of_answer (ih served') (eq_of_heq same)

/-- What is left alone by calls that are not of a kind is as it was before the moments in which no
call of the kind has been accepted. -/
theorem Served.kept {β : Type} {view : MemoryPool → β} {changes : Call → Bool}
    (keeps : ∀ (p : MemoryPool) (c : Call), changes c = false → view (p.perform c).2 = view p)
    (served : Served p₀ (later ++ h) p) (none : ∀ m ∈ later, ¬ m.Accepts changes) :
    ∃ q, Served p₀ h q ∧ view p = view q := by
  induction later generalizing p with
  | nil => exact ⟨p, served, rfl⟩
  | cons m later ih =>
    have earlier := fun {q : MemoryPool} (served : Served p₀ (later ++ h) q) =>
      ih served fun m mem => none m (List.mem_cons_of_mem _ mem)
    cases served with
    | begins served _ => exact earlier served
    | answers b c served reply =>
      obtain ⟨q, served, same⟩ := earlier served
      refine ⟨q, served, Eq.trans ?_ same⟩
      rcases b.answer_cases c with ⟨outcome, pool⟩ | ⟨e, -, pool⟩
      · rw [pool]
        cases answer : (b.pool.perform c).1 with
        | error e => rw [MemoryPool.perform_of_error answer]
        | ok a =>
          refine keeps b.pool c (Bool.eq_false_iff.mpr fun changes => ?_)
          refine none m List.mem_cons_self ⟨c, a, ?_, changes⟩
          rw [reply, outcome, answer]
      · rw [pool]

/-- The pool that an earlier reply has been read from still looks the same, if nothing that changes
the view has been accepted since. -/
theorem Served.read {β : Type} {view : MemoryPool → β} {changes : Call → Bool}
    (keeps : ∀ (p : MemoryPool) (c : Call), changes c = false → view (p.perform c).2 = view p)
    (served : Served p₀ (later ++ h) p) {n : Nat} {c : Call} {a : c.Answer}
    (reply : ⟨c, .ok a⟩ ∈ repliesTo later n) (harmless : changes c = false)
    (none : ∀ m ∈ later, ¬ m.Accepts changes) :
    ∃ q : MemoryPool, (q.perform c).1 = .ok a ∧ view q = view p := by
  obtain ⟨m, mem, -, answered⟩ := mem_repliesTo.mp reply
  obtain ⟨since, before, rfl⟩ := List.append_of_mem mem
  rw [List.append_assoc] at served
  obtain ⟨q, served, same⟩ :=
    served.kept keeps fun m mem => none m (List.mem_append_left _ mem)
  obtain ⟨r, -, performed⟩ := served.accepted answered
  refine ⟨r, congrArg Prod.fst performed, ?_⟩
  rw [same, ← keeps r c harmless, performed]

end PoolConsole
