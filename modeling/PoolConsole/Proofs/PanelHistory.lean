import PoolConsole.Panel

/-!
What a panel shows is determined by its history.

* `Panel.Run`: a panel reached from a fresh one, with its moves and the tickets that it has issued;
  a completion may present any of these, in any order and more than once.
* `Run.latest_iff_counts`: a ticket carries the latest generation exactly if its load still counts.
* `panel_determined_by_history`: data, error and loading flag, read off the moves alone.
-/

namespace PoolConsole.Panel

variable {α : Type}

/-- What is done with a panel. Loads are numbered in the order in which they begin. -/
inductive Move (α : Type) where
  | begin
  /-- A result arrives with the ticket of a load. -/
  | complete (load : Nat) (result : Outcome α)
  | cancel
  | reset

namespace Move

def isCompletion : Move α → Bool
  | complete _ _ => true
  | _ => false

end Move

/-- A fresh panel after some moves, the latest of which comes first, and the tickets that it has
issued, by number of the load. -/
inductive Run : List (Move α) → List Ticket → Panel α → Prop where
  | fresh : Run [] [] {}
  | begin {h ts p} : Run h ts p → Run (.begin :: h) (ts ++ [p.begin.1]) p.begin.2
  | complete {h ts p} (load : Nat) (ticket : Ticket) (result : Outcome α) :
      Run h ts p → ts[load]? = some ticket →
      Run (.complete load result :: h) ts (p.complete ticket result).2
  | cancel {h ts p} : Run h ts p → Run (.cancel :: h) ts p.cancel
  | reset {h ts p} : Run h ts p → Run (.reset :: h) ts p.reset

/-- How many loads have begun. -/
def loads : List (Move α) → Nat
  | [] => 0
  | .begin :: h => loads h + 1
  | _ :: h => loads h

/-- A load still counts: it is the latest one, and nothing but completions has followed it. -/
def Counts (h : List (Move α)) (load : Nat) : Prop :=
  ∃ later earlier, h = later ++ .begin :: earlier ∧ load = loads earlier ∧
    ∀ m ∈ later, m.isCompletion = true

/-- The load that still counts. -/
def current : List (Move α) → Option Nat
  | [] => none
  | .begin :: h => some (loads h)
  | .complete _ _ :: h => current h
  | .cancel :: _ => none
  | .reset :: _ => none

theorem counts_iff (h : List (Move α)) (load : Nat) : Counts h load ↔ current h = some load := by
  constructor
  · rintro ⟨later, earlier, rfl, rfl, only⟩
    induction later with
    | nil => rfl
    | cons m later ih =>
      have rest := ih fun m hm => only m (List.mem_cons_of_mem _ hm)
      have first := only m List.mem_cons_self
      cases m with
      | complete => exact rest
      | begin | cancel | reset => simp [Move.isCompletion] at first
  · intro hc
    induction h with
    | nil => simp [current] at hc
    | cons m h ih =>
      cases m with
      | begin =>
        simp only [current, Option.some.injEq] at hc
        exact ⟨[], h, rfl, hc.symm, by simp⟩
      | complete n r =>
        obtain ⟨later, earlier, rfl, hl, only⟩ := ih hc
        refine ⟨.complete n r :: later, earlier, rfl, hl, ?_⟩
        intro m hm
        rcases List.mem_cons.mp hm with rfl | hm
        · rfl
        · exact only m hm
      | cancel | reset => simp [current] at hc

instance (h : List (Move α)) (load : Nat) : Decidable (Counts h load) :=
  decidable_of_iff _ (counts_iff h load).symm

/-- The results of the completions since the last reset whose load counted when they arrived, the
latest first. -/
def results : List (Move α) → List (Outcome α)
  | [] => []
  | .complete load result :: h => if Counts h load then result :: results h else results h
  | .reset :: _ => []
  | _ :: h => results h

/-- The load that still counts has not been completed. -/
def Loading (h : List (Move α)) : Prop :=
  ∃ load, Counts h load ∧ ∀ result, .complete load result ∉ h

/-- The wording of the latest result, if that is a failure. -/
def latestError : List (Outcome α) → Option String
  | .error e :: _ => some e.userMessage
  | _ => none

/-! ## Tickets -/

@[simp] theorem counts_begin (h : List (Move α)) (load : Nat) :
    Counts (.begin :: h) load ↔ load = loads h := by
  rw [counts_iff, current, Option.some.injEq]
  exact eq_comm

@[simp] theorem counts_complete (h : List (Move α)) (n : Nat) (result : Outcome α) (load : Nat) :
    Counts (.complete n result :: h) load ↔ Counts h load := by
  rw [counts_iff, counts_iff, current]

@[simp] theorem not_counts_cancel (h : List (Move α)) (load : Nat) :
    ¬ Counts (.cancel :: h) load := by
  simp [counts_iff, current]

@[simp] theorem not_counts_reset (h : List (Move α)) (load : Nat) :
    ¬ Counts (.reset :: h) load := by
  simp [counts_iff, current]

theorem Counts.unique {h : List (Move α)} {m n : Nat} (hm : Counts h m) (hn : Counts h n) :
    m = n := by
  rw [counts_iff] at hm hn
  rw [hm] at hn
  exact Option.some.inj hn

variable {h : List (Move α)} {ts : List Ticket} {p : Panel α}

theorem complete_issued (p : Panel α) (ticket : Ticket) (result : Outcome α) :
    (p.complete ticket result).2.issued = p.issued := by
  unfold Panel.complete
  split
  · rfl
  · cases result <;> rfl

/-- Every load has its ticket. -/
theorem Run.length_tickets (run : Run h ts p) : ts.length = loads h := by
  induction run with
  | fresh => rfl
  | begin _ ih => rw [List.length_append, ih]; rfl
  | complete _ _ _ _ _ ih | cancel _ ih | reset _ ih => exact ih

theorem Run.generation_le (run : Run h ts p) :
    ∀ ticket ∈ ts, ticket.generation ≤ p.issued := by
  induction run with
  | fresh => simp
  | @begin h ts p _ ih =>
    intro ticket ht
    rcases List.mem_append.mp ht with old | new
    · exact Nat.le_succ_of_le (ih ticket old)
    · rw [List.mem_singleton] at new
      subst new
      exact Nat.le_refl _
  | complete load t result _ _ ih =>
    rw [complete_issued]
    exact ih
  | cancel _ ih | reset _ ih =>
    intro ticket ht
    exact Nat.le_succ_of_le (ih ticket ht)

/-- The counter moves past every ticket when a load is begun, cancelled or reset, so the ticket that
carries its value is that of the load which still counts. -/
theorem Run.latest_iff_counts (run : Run h ts p) {load : Nat} {ticket : Ticket}
    (issued : ts[load]? = some ticket) : ticket.generation = p.issued ↔ Counts h load := by
  induction run generalizing load ticket with
  | fresh => simp at issued
  | @begin h ts p run ih =>
    rw [counts_begin, ← run.length_tickets]
    by_cases last : load = ts.length
    · subst last
      rw [List.getElem?_concat_length, Option.some.injEq] at issued
      subst issued
      simp [Panel.begin]
    · have bound : load < ts.length := by
        have := (List.getElem?_eq_some_iff.mp issued).1
        simp only [List.length_append, List.length_singleton] at this
        omega
      rw [List.getElem?_append_left bound] at issued
      have older := run.generation_le ticket (List.mem_of_getElem? issued)
      simp only [Panel.begin, last, iff_false]
      omega
  | complete n t result _ _ ih =>
    rw [complete_issued, counts_complete]
    exact ih issued
  | cancel run ih | reset run ih =>
    have older := run.generation_le ticket (List.mem_of_getElem? issued)
    simp only [not_counts_cancel, not_counts_reset, iff_false]
    exact Nat.ne_of_lt (Nat.lt_succ_of_le older)

/-- Only loads that have begun are completed. -/
theorem Run.load_lt (run : Run h ts p) (load : Nat) (result : Outcome α)
    (mem : Move.complete load result ∈ h) : load < loads h := by
  induction run with
  | fresh => simp at mem
  | begin _ ih => exact Nat.lt_succ_of_lt (ih (by simpa using mem))
  | @complete h ts p n t r run issued ih =>
    change load < loads h
    rcases List.mem_cons.mp mem with eq | mem
    · cases eq
      rw [← run.length_tickets]
      exact (List.getElem?_eq_some_iff.mp issued).1
    · exact ih mem
  | cancel _ ih | reset _ ih => exact ih (by simpa using mem)

/-! ## What is shown -/

/-- A completion whose load no longer counts is told that it is stale and changes nothing. -/
theorem Run.complete_stale (run : Run h ts p) {load : Nat} {ticket : Ticket}
    (issued : ts[load]? = some ticket) (passed : ¬ Counts h load) (result : Outcome α) :
    p.complete ticket result = (.ok .stale, p) := by
  rw [← run.latest_iff_counts issued] at passed
  unfold Panel.complete
  rw [if_pos passed]

/-- A completion whose load still counts is taken over. -/
theorem Run.complete_counts (run : Run h ts p) {load : Nat} {ticket : Ticket}
    (issued : ts[load]? = some ticket) (counts : Counts h load) (result : Outcome α) :
    p.complete ticket result = (result.map fun _ => .applied,
      { p with
        loading := false
        data := result.toOption.or p.data
        error := latestError [result] }) := by
  rw [← run.latest_iff_counts issued] at counts
  unfold Panel.complete
  rw [if_neg (not_not_intro counts)]
  cases result <;> rfl

theorem Run.data_eq (run : Run h ts p) : p.data = (results h).findSome? Except.toOption := by
  induction run with
  | fresh => rfl
  | begin _ ih | cancel _ ih => exact ih
  | @complete h ts p load t result run issued ih =>
    by_cases counts : Counts h load
    · rw [run.complete_counts issued counts, results, if_pos counts, List.findSome?_cons, ← ih]
      cases result <;> rfl
    · rw [run.complete_stale issued counts, results, if_neg counts]
      exact ih
  | reset => rfl

theorem Run.error_eq (run : Run h ts p) : p.error = latestError (results h) := by
  induction run with
  | fresh => rfl
  | begin _ ih | cancel _ ih => exact ih
  | @complete h ts p load t result run issued ih =>
    by_cases counts : Counts h load
    · rw [run.complete_counts issued counts, results, if_pos counts]
      cases result <;> rfl
    · rw [run.complete_stale issued counts, results, if_neg counts]
      exact ih
  | reset => rfl

theorem loading_complete (h : List (Move α)) (load : Nat) (result : Outcome α) :
    Loading (.complete load result :: h) ↔ Loading h ∧ ¬ Counts h load := by
  constructor
  · rintro ⟨n, counts, absent⟩
    rw [counts_complete] at counts
    refine ⟨⟨n, counts, fun r hr => absent r (List.mem_cons_of_mem _ hr)⟩, ?_⟩
    intro same
    have eq := counts.unique same
    subst eq
    exact absent result List.mem_cons_self
  · rintro ⟨⟨n, counts, absent⟩, other⟩
    refine ⟨n, by simpa using counts, ?_⟩
    intro r hr
    rcases List.mem_cons.mp hr with eq | hr
    · cases eq
      exact other counts
    · exact absent r hr

theorem Run.loading_iff (run : Run h ts p) : p.loading = true ↔ Loading h := by
  induction run with
  | fresh => simp [Loading, counts_iff, current]
  | @begin h ts p run ih =>
    refine iff_of_true rfl ⟨loads h, by simp, ?_⟩
    intro result mem
    have := run.load_lt (loads h) result (by simpa using mem)
    omega
  | @complete h ts p load t result run issued ih =>
    rw [loading_complete, ← ih]
    by_cases counts : Counts h load
    · rw [run.complete_counts issued counts]
      simp [counts]
    · rw [run.complete_stale issued counts]
      simp [counts]
  | cancel | reset => simp [Loading, Panel.cancel, Panel.reset]

/-- The history determines the panel: the data is that of the last success that counted since the
last reset, the error that of the last result that counted, and it is loading as long as the latest
load still counts and has not been completed. Whatever no longer counts changes nothing. -/
theorem panel_determined_by_history (run : Run h ts p) :
    p.data = (results h).findSome? Except.toOption ∧
    p.error = latestError (results h) ∧
    (p.loading = true ↔ Loading h) ∧
    ∀ (load : Nat) (ticket : Ticket) (result : Outcome α), ts[load]? = some ticket →
      if Counts h load then (p.complete ticket result).1 = result.map fun _ => .applied
      else p.complete ticket result = (.ok .stale, p) := by
  refine ⟨run.data_eq, run.error_eq, run.loading_iff, ?_⟩
  intro load ticket result issued
  split
  next counts => rw [run.complete_counts issued counts]
  next passed => exact run.complete_stale issued passed result

/-- Two loads overlap and the older one comes back last, with an error. -/
theorem panel_after_overlapping_loads :
    ∃ (ts : List Ticket) (p : Panel Nat),
      Run [.complete 1 (.error (.backend "timeout")), .complete 2 (.ok 8), .begin, .begin,
        .complete 0 (.ok 7), .begin] ts p ∧
      p.data = some 8 ∧ p.error = none ∧ ¬ p.loading = true ∧
      p.complete ⟨2⟩ (.error (.backend "timeout")) = (.ok .stale, p) := by
  have first : Run (α := Nat) [.begin] [⟨1⟩] _ := .begin .fresh
  have loaded := Run.complete 0 _ (.ok 7) first rfl
  have newest := Run.complete 2 _ (.ok 8) (.begin (.begin loaded)) rfl
  have run := Run.complete 1 _ (.error (.backend "timeout")) newest rfl
  obtain ⟨data, error, loading, completions⟩ := panel_determined_by_history run
  refine ⟨_, _, run, data, error, ?_, ?_⟩
  · rw [loading]
    rintro ⟨load, counts, absent⟩
    have newest : load = 2 := by simpa [loads] using counts
    exact absent (.ok 8) (by simp [newest])
  · exact completions 1 ⟨2⟩ _ rfl

end PoolConsole.Panel
