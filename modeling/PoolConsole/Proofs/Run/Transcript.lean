import PoolConsole.Interpreter
import PoolConsole.Proofs.Run.Discipline

/-!
What is called and answered while a handler carries out an action.

* `Handler.transcript`: the value and the state that a run ends with, and the replies on the way.
  `Handler.run_noted`: these are the replies that a handler sees that notes what it answers.
* `Handler.transcript_bind`, `Handler.transcript_onPart`: the transcript of an action from those of
  its parts.
* `Action.Confined.transcript`: an action that leaves a view of the state alone does so as a whole.
-/

namespace PoolConsole

/-- A run from beginning to end: its value, the state and the handler that it leaves, and the
replies to its calls, first to last. -/
structure Transcript (κ σ α : Type) where
  value : α
  state : σ
  left : κ
  replies : List Reply

namespace Transcript

variable {κ σ α : Type}

/-- A run that comes after some replies. -/
def after (earlier : List Reply) (t : Transcript κ σ α) : Transcript κ σ α :=
  { t with replies := earlier ++ t.replies }

section
variable (earlier later : List Reply) (t : Transcript κ σ α)

@[simp] theorem value_after : (t.after earlier).value = t.value := rfl

@[simp] theorem state_after : (t.after earlier).state = t.state := rfl

@[simp] theorem left_after : (t.after earlier).left = t.left := rfl

@[simp] theorem replies_after : (t.after earlier).replies = earlier ++ t.replies := rfl

def calls : List Call :=
  t.replies.map (·.call)

@[simp] theorem calls_after : (t.after earlier).calls = earlier.map (·.call) ++ t.calls :=
  List.map_append

@[simp] theorem after_nil : t.after [] = t := rfl

@[simp] theorem after_after : (t.after later).after earlier = t.after (earlier ++ later) := by
  simp only [after, List.append_assoc]

end

end Transcript

namespace Handler

variable {κ σ τ α β : Type} (h : Handler (StateM κ))

/-- The replies to several calls, made in order. -/
def repliesAll : List Call → κ → List Reply
  | [], _ => []
  | c :: cs, k => ⟨c, (h.answer c k).1⟩ :: repliesAll cs (h.answer c k).2

theorem call_of_mem_repliesAll {calls : List Call} {k : κ} {reply : Reply}
    (mem : reply ∈ h.repliesAll calls k) : reply.call ∈ calls := by
  induction calls generalizing k with
  | nil => cases mem
  | cons c cs ih =>
    cases mem with
    | head => exact List.mem_cons_self
    | tail _ mem => exact List.mem_cons_of_mem _ (ih mem)

/-- The replies to the calls of an action, made in order. -/
def replies : Action σ α → σ → κ → List Reply
  | .done _, _, _ => []
  | .get next, s, k => replies (next s) s k
  | .set s next, _, k => replies next s k
  | .save place text next, s, k =>
    let (r, k) := h.save place text k
    replies (next r) s k
  | .call c next, s, k =>
    let (r, k) := h.answer c k
    ⟨c, r⟩ :: replies (next r) s k
  | .tryAll cs next, s, k =>
    let (r, left) := h.answerAll cs k
    h.repliesAll cs k ++ replies (next r) s left
  | .both c d onC onD next, s, k =>
    let (a, k) := h.answer c k
    let (b, k) := h.answer d k
    let (r, s) := onC a s
    let (q, s) := onD b s
    ⟨c, a⟩ :: ⟨d, b⟩ :: replies (next r q) s k

def transcript (x : Action σ α) (s : σ) (k : κ) : Transcript κ σ α where
  value := (h.run x s k).1.1
  state := (h.run x s k).1.2
  left := (h.run x s k).2
  replies := h.replies x s k

theorem exists_answer_of_mem_repliesAll {calls : List Call} {k : κ} {reply : Reply}
    (mem : reply ∈ h.repliesAll calls k) : ∃ k, reply.outcome = (h.answer reply.call k).1 := by
  induction calls generalizing k with
  | nil => cases mem
  | cons c cs ih =>
    cases mem with
    | head => exact ⟨k, rfl⟩
    | tail _ mem => exact ih mem

/-- Every reply is an answer of the handler. -/
theorem exists_answer_of_mem_replies {x : Action σ α} {s : σ} {k : κ} {reply : Reply}
    (mem : reply ∈ h.replies x s k) : ∃ k, reply.outcome = (h.answer reply.call k).1 := by
  induction x generalizing s k with
  | done => cases mem
  | get next ih => exact ih s mem
  | set u next ih => exact ih mem
  | save place text next ih => exact ih _ mem
  | call c next ih =>
    cases mem with
    | head => exact ⟨k, rfl⟩
    | tail _ mem => exact ih _ mem
  | tryAll cs next ih =>
    rcases List.mem_append.mp mem with first | mem
    · exact h.exists_answer_of_mem_repliesAll first
    · exact ih _ mem
  | both c d onC onD next ih =>
    cases mem with
    | head => exact ⟨k, rfl⟩
    | tail _ mem =>
      cases mem with
      | head => exact ⟨_, rfl⟩
      | tail _ mem => exact ih _ _ mem

/-! ## Notes -/

def noted : Handler (StateM (κ × List Reply)) where
  answer c := fun (k, told) =>
    let (r, k) := h.answer c k
    (r, k, told ++ [⟨c, r⟩])
  save place text := fun (k, told) =>
    let (r, k) := h.save place text k
    (r, k, told)

theorem answerAll_noted (calls : List Call) (k : κ) (told : List Reply) :
    h.noted.answerAll calls (k, told) =
      ((h.answerAll calls k).1, (h.answerAll calls k).2, told ++ h.repliesAll calls k) := by
  induction calls generalizing k told with
  | nil => exact congrArg (Prod.mk _) (congrArg (Prod.mk k) (List.append_nil told).symm)
  | cons c cs ih =>
    have rest := ih (h.answer c k).2 (told ++ [⟨c, (h.answer c k).1⟩])
    rw [List.append_assoc] at rest
    exact congrArg (fun r : Outcome (Call.Answers cs) × κ × List Reply =>
      ((h.answer c k).1 >>= fun a => r.1.map fun as => (a, as), r.2)) rest

/-- To note the replies changes nothing about a run. -/
theorem run_noted (x : Action σ α) (s : σ) (k : κ) (told : List Reply) :
    h.noted.run x s (k, told) =
      ((h.run x s k).1, (h.run x s k).2, told ++ h.replies x s k) := by
  induction x generalizing s k told with
  | done a => exact congrArg (Prod.mk _) (congrArg (Prod.mk k) (List.append_nil told).symm)
  | get next ih => exact ih s s k told
  | set u next ih => exact ih u k told
  | save place text next ih => exact ih (h.save place text k).1 s (h.save place text k).2 told
  | call c next ih =>
    have rest := ih (h.answer c k).1 s (h.answer c k).2 (told ++ [⟨c, (h.answer c k).1⟩])
    rw [List.append_assoc] at rest
    exact rest
  | tryAll cs next ih =>
    have rest := ih (h.answerAll cs k).1 s (h.answerAll cs k).2 (told ++ h.repliesAll cs k)
    rw [List.append_assoc] at rest
    refine Eq.trans ?_ rest
    exact congrArg (fun r : Outcome (Call.Answers cs) × κ × List Reply =>
      h.noted.run (next r.1) s r.2) (h.answerAll_noted cs k told)
  | both c d onC onD next ih =>
    let first := h.answer c k
    let second := h.answer d first.2
    let taken := onD second.1 (onC first.1 s).2
    have rest := ih (onC first.1 s).1 taken.1 taken.2 second.2
      (told ++ [⟨c, first.1⟩] ++ [⟨d, second.1⟩])
    refine rest.trans (congrArg (Prod.mk _) (congrArg (Prod.mk _) ?_))
    rw [List.append_assoc, List.append_assoc]
    rfl

/-! ## Transcripts -/

section
variable (s : σ) (k : κ)

@[simp] theorem transcript_done (a : α) :
    h.transcript (.done a : Action σ α) s k = ⟨a, s, k, []⟩ := rfl

@[simp] theorem transcript_get (next : σ → Action σ α) :
    h.transcript (.get next) s k = h.transcript (next s) s k := rfl

@[simp] theorem transcript_set (u : σ) (next : Action σ α) :
    h.transcript (.set u next) s k = h.transcript next u k := rfl

@[simp] theorem transcript_call (c : Call) (next : Outcome c.Answer → Action σ α) :
    h.transcript (.call c next) s k =
      (h.transcript (next (h.answer c k).1) s (h.answer c k).2).after [⟨c, (h.answer c k).1⟩] :=
  rfl

theorem transcript_both (c d : Call) (onC : Outcome c.Answer → σ → Outcome LoadOutcome × σ)
    (onD : Outcome d.Answer → σ → Outcome LoadOutcome × σ)
    (next : Outcome LoadOutcome → Outcome LoadOutcome → Action σ α) :
    h.transcript (.both c d onC onD next) s k =
      let first := h.answer c k
      let second := h.answer d first.2
      let taken := onC first.1 s
      let both := onD second.1 taken.2
      (h.transcript (next taken.1 both.1) both.2 second.2).after
        [⟨c, first.1⟩, ⟨d, second.1⟩] :=
  rfl

theorem replies_bind (x : Action σ α) (f : α → Action σ β) :
    h.replies (x.bind f) s k = h.replies x s k ++
      h.replies (f (h.transcript x s k).value) (h.transcript x s k).state
        (h.transcript x s k).left := by
  induction x generalizing s k with
  | done a => rfl
  | get next ih => exact ih s s k
  | set u next ih => exact ih u k
  | save place text next ih => exact ih (h.save place text k).1 s (h.save place text k).2
  | call c next ih => exact congrArg (_ :: ·) (ih (h.answer c k).1 s (h.answer c k).2)
  | tryAll cs next ih =>
    have rest := ih (h.answerAll cs k).1 s (h.answerAll cs k).2
    exact (congrArg (h.repliesAll cs k ++ ·) rest).trans (List.append_assoc _ _ _).symm
  | both c d onC onD next ih =>
    exact congrArg (fun rest => _ :: _ :: rest) (ih _ _ _ _)

/-- An action that follows another one finds the state and the handler that this has left. -/
@[simp] theorem transcript_bind (x : Action σ α) (f : α → Action σ β) :
    h.transcript (x.bind f) s k =
      (h.transcript (f (h.transcript x s k).value) (h.transcript x s k).state
        (h.transcript x s k).left).after (h.transcript x s k).replies := by
  have run : h.run (x.bind f) s k =
      h.run (f (h.transcript x s k).value) (h.transcript x s k).state (h.transcript x s k).left :=
    congrFun (h.run_bind x f s) k
  unfold transcript at run ⊢
  rw [run, replies_bind]
  rfl

theorem calls_bind (x : Action σ α) (f : α → Action σ β) :
    (h.transcript (x.bind f) s k).calls = (h.transcript x s k).calls ++
      (h.transcript (f (h.transcript x s k).value) (h.transcript x s k).state
        (h.transcript x s k).left).calls := by
  rw [transcript_bind, Transcript.calls_after]
  rfl

@[simp] theorem transcript_read (view : σ → α) :
    h.transcript (.read view) s k = ⟨view s, s, k, []⟩ := rfl

@[simp] theorem transcript_update (change : σ → α × σ) :
    h.transcript (.update change) s k = ⟨(change s).1, (change s).2, k, []⟩ := rfl

@[simp] theorem transcript_modify (change : σ → σ) :
    h.transcript (.modify change) s k = ⟨(), change s, k, []⟩ := rfl

@[simp] theorem transcript_request (c : Call) :
    h.transcript (.request c) s k =
      ⟨(h.answer c k).1, s, (h.answer c k).2, [⟨c, (h.answer c k).1⟩]⟩ := rfl

end

/-- What an action does to a part of a state it does to that part only. -/
theorem transcript_onPart (view : τ → σ) (replace : σ → τ → τ)
    (replaced : ∀ s t, view (replace s t) = s)
    (again : ∀ s u t, replace s (replace u t) = replace s t)
    (same : ∀ t, replace (view t) t = t) (x : Action σ α) (t : τ) (k : κ) :
    h.transcript (x.onPart view replace) t k =
      let part := h.transcript x (view t) k
      { part with state := replace part.state t } := by
  induction x generalizing t k with
  | done a => exact congrArg (Transcript.mk a · k []) (same t).symm
  | get next ih => exact ih (view t) t k
  | set u next ih =>
    have rest := ih (replace u t) k
    simp only [replaced, again] at rest
    exact rest
  | save place text next ih => exact ih (h.save place text k).1 t (h.save place text k).2
  | call c next ih =>
    let answer := h.answer c k
    exact congrArg (Transcript.after [⟨c, answer.1⟩]) (ih answer.1 t answer.2)
  | tryAll cs next ih =>
    let answer := h.answerAll cs k
    exact congrArg (Transcript.after (h.repliesAll cs k)) (ih answer.1 t answer.2)
  | both c d onC onD next ih =>
    let first := h.answer c k
    let second := h.answer d first.2
    let taken := onC first.1 (view t)
    let both := onD second.1 taken.2
    have rest := ih taken.1 both.1 (replace both.2 t) second.2
    simp only [replaced, again] at rest
    simp only [Action.onPart, transcript_both, replaced, again]
    exact congrArg (Transcript.after [⟨c, first.1⟩, ⟨d, second.1⟩]) rest

end Handler

namespace Action

variable {κ σ α γ : Type} {view : σ → γ} {calls : Call → σ → Prop} {x : Action σ α}

/-- What a run that keeps to a frame ends with. -/
theorem Obeys.transcript {s₀ s : σ}
    (obeys : x.Obeys (.frame view calls) (Unchanged view) s₀ s) (h : Handler (StateM κ)) (k : κ) :
    view (h.transcript x s k).state = view s₀ ∧
      ∀ reply ∈ (h.transcript x s k).replies, ∃ u, calls reply.call u := by
  induction x generalizing s₀ s k with
  | done a => exact ⟨obeys, fun _ mem => absurd mem List.not_mem_nil⟩
  | get next ih => exact ih s obeys k
  | set u next ih => exact ih obeys k
  | save place text next ih => exact ih _ (obeys _) _
  | call c next ih =>
    obtain ⟨may, step, next⟩ := obeys
    obtain ⟨kept, rest⟩ := ih (h.answer c k).1 (next _ s trivial) (h.answer c k).2
    refine ⟨kept.trans step, ?_⟩
    intro reply mem
    cases mem with
    | head => exact ⟨s, may⟩
    | tail _ mem => exact rest reply mem
  | tryAll cs next ih =>
    obtain ⟨may, step, next, -, -⟩ := obeys
    obtain ⟨kept, rest⟩ := ih (h.answerAll cs k).1 (next _ s trivial) (h.answerAll cs k).2
    refine ⟨kept.trans step, ?_⟩
    intro reply mem
    rcases List.mem_append.mp mem with mem | mem
    · exact ⟨s, may _ (h.call_of_mem_repliesAll mem)⟩
    · exact rest reply mem
  | both c d onC onD next ih =>
    obtain ⟨⟨mayC, mayD, step⟩, next⟩ := obeys
    let first := h.answer c k
    let second := h.answer d first.2
    obtain ⟨taken, next⟩ := (next s trivial).1 first.1
    obtain ⟨kept, rest⟩ := ih _ _ (next _ trivial second.1) second.2
    refine ⟨kept.trans (taken.trans step), ?_⟩
    intro reply mem
    cases mem with
    | head => exact ⟨s, mayC⟩
    | tail _ mem =>
      cases mem with
      | head => exact ⟨s, mayD⟩
      | tail _ mem => exact rest reply mem

/-- An action that leaves a view of the state alone has left it alone in the end, and has made no
other calls than it may. -/
theorem Confined.transcript (confined : x.Confined view calls) (h : Handler (StateM κ)) (s : σ)
    (k : κ) :
    view (h.transcript x s k).state = view s ∧
      ∀ reply ∈ (h.transcript x s k).replies, ∃ u, calls reply.call u :=
  (confined.obeys s s rfl).transcript h k

end Action

end PoolConsole
