import PoolConsole.Cli.Script
import PoolConsole.Proofs.Run.Frame
import PoolConsole.Proofs.Run.Transcript

namespace PoolConsole

open Operation Cli

namespace Handler

variable {κ α β : Type} (h : Handler (StateM κ)) (t : Terminal) (k : κ)

/-- A script goes on with the terminal that its first part leaves. -/
theorem transcript_script_ok {x : Script α} {f : α → Script β} {a : α}
    (ok : (h.transcript x.run t k).value = .ok a) :
    h.transcript (x >>= f).run t k =
      (h.transcript (f a).run (h.transcript x.run t k).state (h.transcript x.run t k).left).after
        (h.transcript x.run t k).replies := by
  rw [ExceptT.run_bind, Action.bind_eq, transcript_bind, ok]

/-- It ends with its first part if that fails. -/
theorem transcript_script_error {x : Script α} {f : α → Script β} {e : Failure}
    (error : (h.transcript x.run t k).value = .error e) :
    h.transcript (x >>= f).run t k = { h.transcript x.run t k with value := .error e } := by
  rw [ExceptT.run_bind, Action.bind_eq, transcript_bind, error]
  simp [Transcript.after]

/-- What is done with the value of a script changes nothing else about its run. -/
theorem transcript_script_map (x : Script α) (f : α → β) :
    h.transcript (x >>= fun a => pure (f a)).run t k =
      { h.transcript x.run t k with value := (h.transcript x.run t k).value.map f } := by
  cases done : (h.transcript x.run t k).value with
  | ok a =>
    have last (t : Terminal) (k : κ) :
        h.transcript (pure (f a) : Script β).run t k = ⟨.ok (f a), t, k, []⟩ := rfl
    rw [h.transcript_script_ok t k done, last, Transcript.after, List.append_nil]
    rfl
  | error e =>
    rw [h.transcript_script_error t k done]
    rfl

theorem transcript_onConsole (x : Action Console α) :
    h.transcript (Script.onConsole x).run t k =
      let done := h.transcript x t.console k
      { done with value := .ok done.value, state := { t with console := done.state } } := by
  let replace (console : Console) (t : Terminal) : Terminal := { t with console }
  have lifted : (Script.onConsole x).run =
      (x.onPart (·.console) replace).bind fun a => .done (.ok a) := rfl
  have part := h.transcript_onPart (·.console) replace (fun _ _ => rfl) (fun _ _ _ => rfl)
    (fun _ => rfl) x t k
  rw [lifted, transcript_bind, part]
  simp [Transcript.after, replace]

/-- An operation that fails ends the script. -/
theorem transcript_surfaced (x : Action Console (Outcome α)) :
    h.transcript (Script.surfaced x).run t k =
      let done := h.transcript x t.console k
      { done with
        value := done.value.mapError .surface
        state := { t with console := done.state } } := by
  have done := h.transcript_onConsole t k x
  unfold Script.surfaced
  rw [h.transcript_script_ok t k (congrArg Transcript.value done), done]
  obtain ⟨value, state, left, replies⟩ := h.transcript x t.console k
  cases value with
  | ok a => exact congrArg (Transcript.mk _ _ _) (List.append_nil replies)
  | error e => exact congrArg (Transcript.mk _ _ _) (List.append_nil replies)

/-- Only the connection is asked for before the namespace of a command is set. -/
theorem transcript_enterSpaceOrAll (space : Option String) :
    let entered := h.transcript (Script.enterSpaceOrAll space).run t k
    entered.value = .ok () ∧ entered.state.console.jobs = t.console.jobs ∧
      entered.state.console.scope = .ofChoice space ∧
      ∀ reply ∈ entered.replies, reply.call.AboutSession := by
  have parts : Script.enterSpaceOrAll space =
      Script.onConsole loadConnection >>= fun _ =>
        Script.onConsole (selectNamespace space) >>= fun _ => pure () := by
    cases space <;> rfl
  have loads := h.transcript_onConsole t k loadConnection
  have confined : loadConnection.Confined (·.jobs) fun c _ => c.AboutSession :=
    loadConnection_confined (fun _ _ about => about) fun _ _ => rfl
  obtain ⟨kept, asked⟩ := confined.transcript h t.console k
  have selects (t : Terminal) (k : κ) :
      h.transcript (Script.onConsole (selectNamespace space) >>= fun _ => pure ()).run t k =
        ⟨.ok (), { t with console.session := t.console.session.selectNamespace space }, k, []⟩ :=
    rfl
  rw [parts, h.transcript_script_ok t k (congrArg Transcript.value loads), loads, selects]
  refine ⟨rfl, kept, rfl, fun reply mem => ?_⟩
  rw [Transcript.replies_after, List.append_nil] at mem
  obtain ⟨_, about⟩ := asked reply mem
  exact about

end Handler

end PoolConsole
