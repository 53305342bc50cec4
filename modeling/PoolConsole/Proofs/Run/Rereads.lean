import PoolConsole.Proofs.Run.Writes

namespace PoolConsole

open PoolConsole.Action Console Operation

variable {h : List Moment} {m : Moment}

/-- A call that changes nothing has failed. -/
def Moment.FailsToRead (m : Moment) (e : PoolError) : Prop :=
  ∃ c, c.writes = false ∧ m.reply = some ⟨c, .error e⟩

/-- Another load of a panel has begun since the activity has begun its own. -/
def Source.Superseded {α : Type} (S : Source α) (h : List Moment) (m : Moment) : Prop :=
  ∃ later own, Last (S.BeginsFor m.strand) h later own ∧ ∃ m' ∈ later, S.Begins m'

section
variable {α β : Type} {S : Source α}

/-- The ticket of a load that has been superseded is not the latest. -/
theorem Source.Standing.superseded_iff {query : S.Query} {ticket : Ticket} {told : List Reply}
    {stage : S.Stage} (stands : S.Standing h m.before m.strand stage)
    (heard : stage.hear? m.reply = .loading query ticket told) :
    S.Superseded h m ↔ ticket.generation ≠ (S.panel m.before).issued := by
  obtain ⟨later, own, last, -, -, latest, -⟩ := stands.loading_of_hear heard
  rw [ne_eq, latest]
  constructor
  · rintro ⟨later', own', last', m', mem, begins⟩ none
    obtain ⟨rfl, rfl⟩ := last.unique last'
    exact none m' mem begins
  · intro some
    obtain ⟨m', still⟩ := Classical.not_forall.mp some
    obtain ⟨mem, begins⟩ := Classical.not_imp.mp still
    exact ⟨later, own, last, m', mem, Classical.not_not.mp begins⟩

/-- Unless it is stale, a load that has been answered is taken over. -/
theorem Panel.data_isSome_complete {p : Panel α} {ticket : Ticket} {result : Outcome α}
    (current : ticket.generation = p.issued) (answered : result.failure? = none) :
    (p.complete ticket result).2.data.isSome = true := by
  cases result with
  | error => cases answered
  | ok data =>
    rw [(Panel.shows_complete current (.ok data)).2.1]
    rfl

/-- The load that an activity has made after an accepted change decides how it ends, unless it has
been superseded. -/
theorem Source.Standing.rereads {query : S.Query} {stage : S.Stage} {r : Outcome β}
    {conclude : Outcome LoadOutcome → Console → Outcome β} {reply : Reply}
    (stands : S.Standing h m.before m.strand stage)
    (rereads : S.Rereads query conclude r (stage.hear? m.reply) m.before m.after)
    (replied : m.reply = some reply) (accepted : acceptedOf S.writes h m.strand ≠ [])
    (kept : (S.panel m.after).issued = (S.panel m.before).issued) :
    ∃ outcome, r = conclude outcome m.after ∧
      (S.Superseded h m → outcome = .ok .stale) ∧
      (¬ S.Superseded h m → outcome.failure? = reply.failure? ∧
        (reply.failure? = none → (S.panel m.after).data.isSome = true)) := by
  generalize heard : stage.hear? m.reply = now at rereads
  cases rereads with
  | refused e =>
    cases stands with
    | ahead =>
      rw [Source.Stage.hear?_ahead, Source.Stage.ahead.injEq, List.append_eq_nil_iff] at heard
      exact absurd heard.2 accepted
    | loading =>
      rw [Source.Stage.hear?_loading] at heard
      cases heard
    | finished =>
      rw [Source.Stage.hear?_finished] at heard
      cases heard
  | loaded loaded =>
    cases loaded with
    | atOnce e failed =>
      rw [failed, Panel.complete_issued] at kept
      exact absurd kept (Nat.succ_ne_self _)
    | @answered ticket told _ _ q answers given taken =>
      have latest := stands.superseded_iff heard
      obtain ⟨later, own, -, -, -, -, rfl⟩ := stands.loading_of_hear heard
      have failure : q.failure? = reply.failure? := by
        obtain ⟨first, head, failed⟩ := answers.latest
        rw [repliesTo_cons, replied] at head
        cases head
        exact failed.symm
      refine ⟨_, rfl, fun superseded => ?_, fun current => ?_⟩
      · exact congrArg Prod.fst (Panel.complete_stale (latest.mp superseded) _)
      · rw [latest, Decidable.not_not] at current
        rw [Panel.complete_latest current, Outcome.failure?_map, Outcome.failure?_map, taken]
        refine ⟨failure, fun answered => Panel.data_isSome_complete current ?_⟩
        rw [Outcome.failure?_map, failure, answered]

end

theorem Moment.failsToRead_iff {reply : Reply} (replied : m.reply = some reply)
    (harmless : reply.call.writes = false) (e : PoolError) :
    m.FailsToRead e ↔ reply.failure? = some e := by
  constructor
  · rintro ⟨c, -, failed⟩
    rw [replied] at failed
    cases failed
    rfl
  · intro failed
    obtain ⟨c, r⟩ := reply
    cases r with
    | ok => cases failed
    | error e' =>
      cases failed
      exact ⟨c, harmless, replied⟩

theorem failure?_shownDetail (node : String) (c : Console) (e : PoolError) :
    (shownDetail node c).failure? = some e ↔
      c.nodes.detail.data = none ∧ e = noSuchNode node := by
  unfold shownDetail
  cases c.nodes.detail.data with
  | none => simp [Outcome.failure?, eq_comm]
  | some detail => simp [Outcome.failure?]

section
variable {reply : Reply} (replied : m.reply = some reply) (harmless : reply.call.writes = false)
include replied harmless

/-- A failed load of the table is reported unless it has been superseded. -/
theorem tableReread_failure {r : Outcome Unit} {stage : nodeTable.Stage}
    (stands : nodeTable.Standing h m.before m.strand stage)
    (reread : tableReread r (stage.hear? m.reply) m.before m.after)
    (accepted : acceptedOf nodeTable.writes h m.strand ≠ [])
    (kept : (nodeTable.panel m.after).issued = (nodeTable.panel m.before).issued) (e : PoolError) :
    r.failure? = some e ↔ m.FailsToRead e ∧ ¬ nodeTable.Superseded h m := by
  obtain ⟨outcome, rfl, overtaken, current⟩ := stands.rereads reread replied accepted kept
  rw [Outcome.failure?_map, Moment.failsToRead_iff replied harmless]
  by_cases superseded : nodeTable.Superseded h m
  · rw [overtaken superseded]
    simp [Outcome.failure?, superseded]
  · rw [(current superseded).1]
    simp [superseded]

/-- So is a failed load of the details; once it has been superseded, there may also be nothing to
give. -/
theorem labelReread_failure {node : String} {r : Outcome NodeDetail} {stage : nodeDetail.Stage}
    (stands : nodeDetail.Standing h m.before m.strand stage)
    (reread : labelReread node r (stage.hear? m.reply) m.before m.after)
    (accepted : acceptedOf nodeDetail.writes h m.strand ≠ [])
    (kept : (nodeDetail.panel m.after).issued = (nodeDetail.panel m.before).issued)
    (e : PoolError) :
    r.failure? = some e ↔ (m.FailsToRead e ∧ ¬ nodeDetail.Superseded h m) ∨
      (nodeDetail.Superseded h m ∧ m.after.nodes.detail.data = none ∧ e = noSuchNode node) := by
  obtain ⟨outcome, rfl, overtaken, current⟩ := stands.rereads reread replied accepted kept
  rw [Moment.failsToRead_iff replied harmless]
  by_cases superseded : nodeDetail.Superseded h m
  · rw [overtaken superseded]
    change (shownDetail node m.after).failure? = some e ↔ _
    rw [failure?_shownDetail]
    simp [superseded]
  · obtain ⟨same, shown⟩ := current superseded
    rw [← same] at shown ⊢
    cases outcome with
    | error e' => simp [Except.bind, Outcome.failure?, superseded]
    | ok o =>
      have shown : m.after.nodes.detail.data.isSome = true := shown rfl
      have shown : m.after.nodes.detail.data ≠ none := Option.isSome_iff_ne_none.mp shown
      change (shownDetail node m.after).failure? = some e ↔ _
      rw [failure?_shownDetail]
      simp [Outcome.failure?, superseded, shown]

end

end PoolConsole
