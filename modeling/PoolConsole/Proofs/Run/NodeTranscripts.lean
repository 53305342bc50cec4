import PoolConsole.Operation.Nodes
import PoolConsole.Proofs.Run.Transcript

namespace PoolConsole

open PoolConsole.Action Console Operation

namespace NodeBoard

/-- The board after a load of the table that nothing has come between. -/
def loaded (b : NodeBoard) (answer : Outcome (List NodeRow)) : NodeBoard :=
  (b.beginTable.2.completeTable b.beginTable.1 answer).2

/-- Whether the row of a node shows it as closed to new work, if there is one. -/
def cordoned? (b : NodeBoard) (node : String) : Option Bool :=
  (b.row? node).map (·.cordoned)

variable (b : NodeBoard)

theorem completeTable_beginTable (answer : Outcome (List NodeRow)) :
    b.beginTable.2.completeTable b.beginTable.1 answer =
      (answer.map fun _ => .applied, b.loaded answer) := by
  cases answer with
  | ok rows => simp [loaded, completeTable, beginTable, Panel.complete, Panel.begin, Except.map]
  | error e => simp [loaded, completeTable, beginTable, Panel.complete, Panel.begin, Except.map]

@[simp] theorem data_loaded (rows : List NodeRow) :
    (b.loaded (.ok rows)).table.data = some rows := by
  simp [loaded, completeTable, beginTable, Panel.complete, Panel.begin]

end NodeBoard

/-- Asks the pool to close a node to new work, or to open it. -/
def turnRequest (node : String) (cordoned : Bool) : Action Console (Outcome Unit) :=
  if cordoned then .request (.cordon [node]) else .request (.uncordon [node])

theorem setCordoned_eq (node : String) (cordoned : Bool) :
    setCordoned node cordoned =
      (turnRequest node cordoned).attempt fun () => loadNodes.attempt fun _ => .done (.ok ()) :=
  rfl

namespace Handler

variable {κ σ α β : Type} (h : Handler (StateM κ))

/-- Several calls have all been answered if the first has been, and the others after it. -/
theorem answerAll_cons_eq_ok_iff {call : Call} {calls : List Call} {k : κ}
    {a : Call.Answers (call :: calls)} :
    (h.answerAll (call :: calls) k).1 = .ok a ↔
      (h.answer call k).1 = .ok a.1 ∧ (h.answerAll calls (h.answer call k).2).1 = .ok a.2 := by
  have unfolded : (h.answerAll (call :: calls) k).1 =
      (h.answer call k).1 >>= fun first =>
        (h.answerAll calls (h.answer call k).2).1.map fun rest => (first, rest) := rfl
  rw [unfolded]
  constructor
  · intro answered
    cases first : (h.answer call k).1 with
    | error e =>
      rw [first] at answered
      cases answered
    | ok _ =>
      cases rest : (h.answerAll calls (h.answer call k).2).1 with
      | error e =>
        rw [first, rest] at answered
        cases answered
      | ok _ =>
        rw [first, rest] at answered
        cases answered
        exact ⟨rfl, rfl⟩
  · rintro ⟨first, rest⟩
    rw [first, rest]
    rfl

/-- What is attempted goes on after its first part if that has succeeded. -/
theorem transcript_attempt {x : Action σ (Outcome α)} (f : α → Action σ (Outcome β)) {s : σ} {k : κ}
    {a : α} (first : (h.transcript x s k).value = .ok a) :
    h.transcript (x.attempt f) s k =
      (h.transcript (f a) (h.transcript x s k).state (h.transcript x s k).left).after
        (h.transcript x s k).replies := by
  unfold attempt
  rw [transcript_bind, first]

/-- What is attempted and ends well has gone on after its first part. -/
theorem attempt_ok {x : Action σ (Outcome α)} {f : α → Action σ (Outcome β)} {s : σ} {k : κ}
    {b : β} (ended : (h.transcript (x.attempt f) s k).value = .ok b) :
    ∃ a, (h.transcript x s k).value = .ok a ∧
      h.transcript (x.attempt f) s k =
        (h.transcript (f a) (h.transcript x s k).state (h.transcript x s k).left).after
          (h.transcript x s k).replies := by
  cases first : (h.transcript x s k).value with
  | error e =>
    unfold attempt at ended
    rw [transcript_bind, first] at ended
    cases ended
  | ok a => exact ⟨a, rfl, h.transcript_attempt f first⟩

variable (c : Console) (k : κ)

theorem transcript_loadNodes :
    h.transcript loadNodes c k =
      let answers := h.answerAll [.devices, .gpus false] k
      let rows := answers.1.map fun a => NodeRow.combine a.1 a.2.1
      { value := rows.map fun _ => .applied
        state := { c with nodes := c.nodes.loaded rows }
        left := answers.2
        replies := h.repliesAll [.devices, .gpus false] k } := by
  let answers := h.answerAll [.devices, .gpus false] k
  let rows := answers.1.map fun a => NodeRow.combine a.1 a.2.1
  have run : h.transcript loadNodes c k =
      let (result, nodes) := c.nodes.beginTable.2.completeTable c.nodes.beginTable.1 rows
      ⟨result, { c with nodes }, answers.2, h.repliesAll [.devices, .gpus false] k⟩ := by
    rfl
  rw [run, NodeBoard.completeTable_beginTable]

variable {c k} {node : String} {cordoned : Bool}

/-- A change of a node that has succeeded has been asked for, and the table was loaded then. -/
theorem setCordoned_ok (ended : (h.transcript (setCordoned node cordoned) c k).value = .ok ()) :
    let turned := h.transcript (turnRequest node cordoned) c k
    let reload := h.transcript loadNodes turned.state turned.left
    turned.value = .ok () ∧ (∃ outcome, reload.value = .ok outcome) ∧
      (h.transcript (setCordoned node cordoned) c k).state = reload.state ∧
      (h.transcript (setCordoned node cordoned) c k).left = reload.left := by
  rw [setCordoned_eq] at ended ⊢
  obtain ⟨⟨⟩, turned, run⟩ := h.attempt_ok ended
  rw [run] at ended
  obtain ⟨outcome, reload, run'⟩ := h.attempt_ok ended
  rw [run, run']
  exact ⟨turned, ⟨outcome, reload⟩, rfl, rfl⟩

/-- To turn a node over is to give it the flag that its row does not show. -/
theorem toggleCordon_ok {b : Bool}
    (ended : (h.transcript (toggleCordon node) c k).value = .ok b) :
    c.nodes.cordoned? node = some !b ∧
      (h.transcript (setCordoned node b) c k).value = .ok () ∧
      (h.transcript (toggleCordon node) c k).state =
        (h.transcript (setCordoned node b) c k).state ∧
      (h.transcript (toggleCordon node) c k).left =
        (h.transcript (setCordoned node b) c k).left := by
  simp only [toggleCordon, bind_eq, transcript_bind, transcript_read] at ended ⊢
  unfold NodeBoard.cordoned?
  cases found : c.nodes.row? node with
  | none =>
    rw [found] at ended
    cases ended
  | some row =>
    rw [found] at ended
    obtain ⟨⟨⟩, set, run⟩ := h.attempt_ok ended
    rw [run] at ended ⊢
    cases ended
    exact ⟨congrArg some (Bool.not_not _).symm, set, rfl, rfl⟩

end Handler

end PoolConsole
