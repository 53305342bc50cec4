import PoolConsole.Proofs.Run.Frame
import PoolConsole.Proofs.Run.History

/-!
The namespace filter in every run of the console, whatever overlaps.

* `Kept`: all that an activity does to the filter, apart from an explicit selection, is to let it
  resolve by itself.
* `protocol`: what an activity does and relies on from one wait to the next; `obeys_protocol` says
  that every activity keeps to it, and `Run.guarded` that every moment of a run does.
* `namespace_protocol`: jobs and services are asked for only once the filter is resolved, which it
  stays; by itself it resolves at most once, and never after an explicit selection.
-/

namespace PoolConsole

open PoolConsole.Action Console

/-! ## The filter -/

theorem automatic?_isInitialized {default : Option String} {loaded : Bool} {spaces : List String}
    {scope : Scope} (h : NamespaceFilter.automatic? default loaded spaces = some scope) :
    scope.isInitialized = true := by
  unfold NamespaceFilter.automatic? at h
  split at h
  · cases h
    rfl
  · split at h
    · cases h
      rfl
    · cases h

theorem isInitialized_ofChoice (choice : Option String) :
    (Scope.ofChoice choice).isInitialized = true := by
  cases choice <;> rfl

namespace Console

/-- The filter no longer resolves by itself exactly if it is resolved. -/
def Settled (c : Console) : Prop :=
  c.session.filter.settled = c.scope.isInitialized

/-- The filter has resolved by itself between two states, from the connection as it then was. -/
def Resolved (s t : Console) : Prop :=
  let connection := t.session.connection
  s.session.filter.autoResolve connection.selected connection.loaded connection.spaces =
    (true, t.session.filter)

instance (s t : Console) : Decidable (Resolved s t) :=
  inferInstanceAs (Decidable (_ = _))

/-- The filter has stayed as it was, or it has resolved by itself. -/
def Kept (s t : Console) : Prop :=
  t.session.filter = s.session.filter ∨ Resolved s t

variable {s t : Console}

theorem Resolved.settled_before (h : Resolved s t) : s.session.filter.settled = false := by
  unfold Resolved NamespaceFilter.autoResolve at h
  cases found : s.session.filter.settled with
  | true => simp [found] at h
  | false => rfl

theorem Resolved.after (h : Resolved s t) :
    t.session.filter.settled = true ∧ t.scope.isInitialized = true := by
  have before := h.settled_before
  unfold Resolved NamespaceFilter.autoResolve at h
  simp only [before, Bool.false_eq_true, if_false] at h
  split at h
  next scope found =>
    have eq := (Prod.mk.inj h).2
    rw [Console.scope, ← eq]
    exact ⟨rfl, automatic?_isInitialized found⟩
  next => simp at h

theorem Kept.refl (s : Console) : Kept s s :=
  .inl rfl

/-- An activity other than a selection does not move a filter that is settled. -/
theorem Kept.of_settled (h : Kept s t) (settled : s.session.filter.settled = true) :
    t.session.filter = s.session.filter := by
  rcases h with same | resolved
  · exact same
  · rw [resolved.settled_before] at settled
    cases settled

theorem Kept.settled (h : Kept s t) (settled : s.Settled) : t.Settled := by
  rcases h with same | resolved
  · unfold Settled Console.scope
    rw [same]
    exact settled
  · obtain ⟨done, initialized⟩ := resolved.after
    exact done.trans initialized.symm

theorem Kept.isInitialized (h : Kept s t) (initialized : s.scope.isInitialized = true) :
    t.scope.isInitialized = true := by
  rcases h with same | resolved
  · rw [Console.scope, same]
    exact initialized
  · exact resolved.after.2

end Console

/-- A session lets its filter resolve by itself, if that is due. -/
theorem kept_resolve (s : Console) (session : Session)
    (same : session.filter = s.session.filter) :
    Kept s { s with session := session.resolve } := by
  unfold Kept Resolved Session.resolve NamespaceFilter.autoResolve
  rw [same]
  by_cases settled : s.session.filter.settled = true
  · simp [settled]
  · simp only [settled, Bool.false_eq_true, if_false]
    cases NamespaceFilter.automatic? _ _ _ with
    | none => exact .inl rfl
    | some scope => exact .inr rfl

/-- Once the connection is loaded there is something to resolve to: the namespace selected, or
everything if there is none to select. -/
theorem takeConnection_isInitialized (connected : Bool) (spaces : List String) (s : Session)
    (settled : s.filter.settled = s.filter.scope.isInitialized) :
    (Operation.takeConnection connected spaces s).2.filter.scope.isInitialized = true := by
  let resolved := s.filter.autoResolve (s.connection.selected.or spaces.head?) true spaces
  change resolved.2.scope.isInitialized = true
  unfold resolved NamespaceFilter.autoResolve
  by_cases done : s.filter.settled = true
  · rw [if_pos done]
    exact settled.symm.trans done
  · rw [if_neg done]
    cases s.connection.selected with
    | some space => rfl
    | none => cases spaces <;> rfl

/-! ## What an activity keeps to -/

/-- Jobs are asked for in the scope of that moment, and services once there is one. -/
def Call.Permitted : Call → Console → Prop
  | .jobs space, s => s.scope.toFetch = some space
  | .services, s => s.scope.isInitialized = true
  | _, _ => True

namespace Activity

/-- The namespace that the activity selects explicitly, or the choice of all of them. -/
def selection? : Activity → Option (Option String)
  | .session (.selectNamespace choice) => some choice
  | .jobs (.setNamespace choice) => some choice
  | _ => none

/-- The state from which an activity goes on once it has made its selection, if it makes one. -/
def opened (a : Activity) (s : Console) : Console :=
  match a.selection? with
  | some choice => { s with session := s.session.selectNamespace choice }
  | none => s

/-- Whether the activity has loaded the connection. -/
def connects : (a : Activity) → a.Result → Bool
  | .session .loadConnection, .ok () => true
  | _, _ => false

/-- What an activity ends with. -/
def Ends (a : Activity) (r : a.Result) (s t : Console) : Prop :=
  Kept s t ∧ (a.connects r = true → t.scope.isInitialized = true)

end Activity

/-- The overview is apart: it counts the jobs of the operator's own namespace. -/
def protocol (a : Activity) : Discipline Console where
  rely s t :=
    (s.Settled → t.Settled) ∧ (s.scope.isInitialized = true → t.scope.isInitialized = true)
  step := Kept
  call c s := a = .views .loadOverview ∨ c.Permitted s
  rely_refl _ := ⟨id, id⟩
  rely_trans h k := ⟨k.1 ∘ h.1, k.2 ∘ h.2⟩
  step_refl := Kept.refl

section
variable {a : Activity} {s₀ s : Console}

/-- An activity that leaves the filter alone keeps to the protocol. -/
theorem obeys_of_confined {x : Action Console a.Result}
    (h : x.Confined (·.session.filter) (protocol a).call) (other : ∀ r, a.connects r = false)
    (same : s.session.filter = s₀.session.filter) : x.Obeys (protocol a) a.Ends s₀ s := by
  refine (h.obeys s₀ s same).relax (fun _ => trivial) .inl id ?_
  intro r u v same
  exact ⟨.inl same, by simp [other r]⟩

theorem obeys_loadQuota {post : Unit → Console → Console → Prop} (space : String)
    (kept : Kept s₀ s)
    (ends : ∀ t u, (protocol a).rely s t → u.session.filter = t.session.filter → post () t u) :
    (Operation.loadQuota space).Obeys (protocol a) post s₀ s := by
  refine ⟨.inr trivial, kept, ?_⟩
  intro r t waited
  cases r with
  | ok quota => exact ends t _ waited rfl
  | error e => exact ends t t waited rfl

end

theorem obeys_loadConnection (s : Console) (settled : s.Settled) :
    Operation.loadConnection.Obeys (protocol (.session .loadConnection))
      (Activity.Ends (.session .loadConnection)) s s := by
  have fails (e : PoolError) (t : Console) :
      (Activity.session .loadConnection).Ends (.error e) t
        { t with session.connection.loaded := true } :=
    ⟨.inl rfl, nofun⟩
  refine ⟨?_, .refl s, ?_, fun e => fails e s, nofun⟩
  · intro c mem
    simp only [List.mem_cons, List.not_mem_nil, or_false] at mem
    rcases mem with rfl | rfl
    · exact .inr trivial
    · exact .inr trivial
  · intro r t waited
    cases r with
    | error e => exact fails e t
    | ok answers =>
      obtain ⟨connected, spaces, -⟩ := answers
      -- From here on the filter is resolved, and the others leave it so while the quota is loaded.
      let session := (Operation.takeConnection connected spaces t.session).2
      let u := { t with session }
      have kept : Kept t u := kept_resolve t { t.session with connection := _ } rfl
      have initialized : u.scope.isInitialized = true :=
        takeConnection_isInitialized connected spaces t.session (waited.1 settled)
      let finish : Unit → Action Console (Outcome Unit) := fun _ => .done (.ok ())
      change (((t.session.connection.connect connected spaces).selected.forM
        Operation.loadQuota).bind finish).Obeys _ _ t u
      rw [obeys_bind]
      cases (t.session.connection.connect connected spaces).selected with
      | none => exact ⟨kept, fun _ => initialized⟩
      | some space =>
        refine obeys_loadQuota space kept ?_
        intro v v' waited same
        refine ⟨.inl same, fun _ => ?_⟩
        rw [Console.scope, same]
        exact waited.2 initialized

def Activity.filters : Activity → Bool
  | .session a => a.filters
  | .jobs (.setNamespace _) => true
  | _ => false

theorem permitted_of_about {a : Activity} {k : Call → Prop} (jobs : ∀ space, ¬ k (.jobs space))
    (services : ¬ k .services) (c : Call) (s : Console) (about : k c) :
    (protocol a).call c s := by
  cases c with
  | jobs space => exact absurd about (jobs space)
  | services => exact absurd about services
  | _ => exact .inr trivial

/-- Most activities leave the filter alone. -/
theorem confined_filter (a : Activity) (other : a.filters = false) :
    a.action.Confined (·.session.filter) (protocol a).call := by
  have may {k : Call → Prop} := permitted_of_about (a := a) (k := k)
  have load (space : Option String) (s : Console) (now : s.scope.toFetch = some space) :
      (protocol a).call (.jobs space) s := .inr now
  cases a with
  | session a =>
    refine SessionActivity.confined (may (fun _ => id) id) (fun _ _ => rfl) (fun _ _ => rfl)
      (fun _ _ => rfl) a ?_
    intro moves
    rw [Activity.filters, moves] at other
    cases other
  | jobs a =>
    refine JobActivity.confined (fun _ _ => rfl) load (may (fun _ => id) id) a ?_
    rintro choice rfl
    cases other
  | wizard a =>
    refine WizardActivity.confined (fun _ _ _ => rfl) (may (fun _ => id) id) a fun what _ => ?_
    exact Operation.submission_confined (fun _ _ => rfl) (fun _ _ => rfl) (fun _ _ _ => rfl) load
      (may (fun _ => id) id) what
  | nodes a => exact NodeActivity.confined (fun _ _ => rfl) (may (fun _ => id) id) a
  | views a =>
    refine ViewActivity.confined (fun _ _ => rfl) (fun _ _ => rfl) (fun _ _ => rfl)
      (fun _ _ => rfl) (fun _ now => .inr now) (may (fun _ => id) id) a ?_
    rintro rfl space s
    exact .inl rfl

theorem opened_of_other {a : Activity} (other : a.filters = false) (s : Console) :
    a.opened s = s := by
  cases a with
  | session a => cases a <;> first | rfl | cases other
  | jobs a => cases a <;> first | rfl | cases other
  | wizard | nodes | views => rfl

theorem connects_of_other {a : Activity} (other : a.filters = false) (r : a.Result) :
    a.connects r = false := by
  cases a with
  | session a => cases a <;> first | rfl | cases other
  | jobs | wizard | nodes | views => rfl

/-- Every activity keeps to the protocol, from the state after its selection if it makes one. -/
theorem obeys_protocol (a : Activity) (s : Console) (settled : s.Settled) :
    a.action.Obeys (protocol a) a.Ends (a.opened s) s := by
  cases moves : a.filters with
  | false =>
    rw [opened_of_other moves]
    exact obeys_of_confined (confined_filter a moves) (connects_of_other moves) rfl
  | true =>
    cases a with
    | session a =>
      cases a with
      | loadConnection => exact obeys_loadConnection s settled
      | selectSpace space =>
        refine obeys_loadQuota space (kept_resolve s { s.session with connection := _ } rfl) ?_
        intro t u _ same
        exact ⟨.inl same, nofun⟩
      | selectNamespace choice => exact ⟨.refl _, nofun⟩
      | _ => cases moves
    | jobs a =>
      cases a with
      | setNamespace choice =>
        let s' := (Activity.jobs (.setNamespace choice)).opened s
        change Operation.loadJobs.Obeys (protocol (.jobs (.setNamespace choice))) _ s' s'
        refine obeys_of_confined ?_ (fun _ => rfl) rfl
        exact Operation.loadJobs_confined (fun _ _ _ => rfl) fun _ _ now => .inr now
      | _ => cases moves
    | wizard | nodes | views => cases moves

/-! ## Runs -/

namespace Moment

/-- The explicit selection that is made in the moment. -/
def selection? (m : Moment) : Option (Option String) :=
  if m.begins then m.activity.selection? else none

/-- Whether the filter resolves by itself in the moment. -/
def resolves (m : Moment) : Bool :=
  m.selection?.isNone && decide (Resolved m.before m.after)

/-- The state from which the moment goes on, once a selection has been made. -/
def opened (m : Moment) : Console :=
  match m.selection? with
  | some choice => { m.before with session := m.before.session.selectNamespace choice }
  | none => m.before

structure Guarded (m : Moment) : Prop where
  settled : m.before.Settled
  fits : m.rest.Fits (protocol m.activity) m.activity.Ends m.opened m.issues m.after

variable {m : Moment}

theorem Guarded.kept (h : m.Guarded) : Kept m.opened m.after := by
  have step := h.fits.step
  cases ends : m.rest.value? with
  | none => rwa [ends] at step
  | some r =>
    rw [ends] at step
    exact step.1

theorem opened_of_none (h : m.selection? = none) : m.opened = m.before := by
  rw [opened, h]

theorem filter_opened {choice : Option String} (h : m.selection? = some choice) :
    m.opened.session.filter = ⟨.ofChoice choice, true⟩ := by
  rw [opened, h]
  rfl

/-- A selection sets the filter, whatever it was. -/
theorem Guarded.filter_after (h : m.Guarded) {choice : Option String}
    (selects : m.selection? = some choice) : m.after.session.filter = ⟨.ofChoice choice, true⟩ := by
  have opened := filter_opened selects
  rw [h.kept.of_settled (by rw [opened]), opened]

theorem Guarded.settled_after (h : m.Guarded) : m.after.Settled := by
  cases selects : m.selection? with
  | none =>
    have kept := h.kept
    rw [opened_of_none selects] at kept
    exact kept.settled h.settled
  | some choice =>
    unfold Settled Console.scope
    rw [h.filter_after selects]
    exact (isInitialized_ofChoice choice).symm

theorem Guarded.isInitialized (h : m.Guarded) (initialized : m.before.scope.isInitialized = true) :
    m.after.scope.isInitialized = true := by
  cases selects : m.selection? with
  | none =>
    have kept := h.kept
    rw [opened_of_none selects] at kept
    exact kept.isInitialized initialized
  | some choice =>
    rw [Console.scope, h.filter_after selects]
    exact isInitialized_ofChoice choice

end Moment

variable {start : Console} {h : List Moment} {w : World}

/-- Every moment keeps to the protocol, and so does what waits. -/
theorem Run.guarded (run : Run start h w) (fresh : start.session.filter = {}) :
    w.console.Settled ∧
    (∀ (n : Nat) (strand : Strand), w.strands[n]? = some strand →
      strand.rest.Poised (protocol strand.activity) strand.activity.Ends w.console) ∧
    ∀ m ∈ h, m.Guarded := by
  induction run with
  | start =>
    refine ⟨?_, by simp, by simp⟩
    unfold Settled Console.scope
    rw [fresh]
    rfl
  | @next h m v w run step ih =>
    obtain ⟨settled, poised, all⟩ := ih
    have guarded : m.Guarded := by
      cases step with
      | begin a advances => exact ⟨settled, advances.obeys (obeys_protocol a _ settled)⟩
      | answer n strand reply there takes => exact ⟨settled, takes.obeys (poised n strand there)⟩
    have relied (a : Activity) : (protocol a).rely m.before m.after :=
      ⟨fun _ => guarded.settled_after, guarded.isInitialized⟩
    rw [step.before_eq, step.after_eq] at relied
    refine ⟨step.after_eq ▸ guarded.settled_after, ?_, by simpa using ⟨guarded, all⟩⟩
    intro n strand there
    rcases step.strand_cases there with ⟨-, rfl⟩ | ⟨-, there⟩
    · exact step.after_eq ▸ guarded.fits.poised
    · exact (poised n strand there).mono (relied _)

/-- The filter resolves by itself while it is pending only. -/
theorem Moment.Guarded.of_resolves {m : Moment} (h : m.Guarded) (resolves : m.resolves = true) :
    m.before.scope.isInitialized = false ∧ m.after.scope.isInitialized = true := by
  simp only [Moment.resolves, Bool.and_eq_true, decide_eq_true_eq] at resolves
  have resolved := resolves.2
  refine ⟨?_, resolved.after.2⟩
  rw [← h.settled]
  exact resolved.settled_before

theorem Run.countP_resolves (run : Run start h w) (fresh : start.session.filter = {}) :
    h.countP Moment.resolves ≤ w.console.scope.isInitialized.toNat := by
  induction run with
  | start => simp
  | @next h m v w run step ih =>
    have guarded := (run.next step).guarded fresh |>.2.2 m List.mem_cons_self
    rw [← step.before_eq] at ih
    rw [← step.after_eq]
    cases resolves : m.resolves with
    | true =>
      obtain ⟨pending, initialized⟩ := guarded.of_resolves resolves
      rw [pending] at ih
      rw [List.countP_cons_of_pos resolves, initialized]
      exact Nat.succ_le_succ ih
    | false =>
      rw [List.countP_cons_of_neg (by simp [resolves])]
      cases initialized : m.before.scope.isInitialized with
      | true =>
        rw [initialized] at ih
        rw [guarded.isInitialized initialized]
        exact ih
      | false =>
        rw [initialized] at ih
        exact Nat.le_trans ih (Nat.zero_le _)

theorem Run.stays_initialized {later earlier : List Moment} {m : Moment}
    (run : Run start (later ++ m :: earlier) w) (fresh : start.session.filter = {})
    (initialized : m.after.scope.isInitialized = true) :
    w.console.scope.isInitialized = true ∧ ∀ m' ∈ later, m'.before.scope.isInitialized = true := by
  refine run.stable (p := fun c => c.scope.isInitialized = true) ?_ initialized
  intro m' mem
  exact ((run.guarded fresh).2.2 m' (List.mem_append_left _ mem)).isInitialized

/-- A scope that is there stays the same until something is selected. -/
theorem Run.scope_unmoved {later earlier : List Moment} {m : Moment}
    (run : Run start (later ++ m :: earlier) w) (fresh : start.session.filter = {})
    (others : ∀ m' ∈ later, m'.selection? = none)
    (initialized : m.after.scope.isInitialized = true) :
    w.console.scope = m.after.scope := by
  have guarded := (run.guarded fresh).2.2
  refine (run.stable (p := fun c => c.scope = m.after.scope) ?_ rfl).1
  intro m' mem same
  have guarded := guarded m' (List.mem_append_left _ mem)
  have kept := guarded.kept
  rw [Moment.opened_of_none (others m' mem)] at kept
  rw [Console.scope, kept.of_settled, ← Console.scope, same]
  rw [guarded.settled, same, initialized]

structure NamespaceProtocol (h : List Moment) (w : World) : Prop where
  /-- Whatever else is under way, jobs are asked for in the scope of that moment and services once
  there is one. The overview asks for the jobs of the operator's own namespace. -/
  asks : ∀ m ∈ h, m.activity ≠ .views .loadOverview → ∀ i ∈ m.issues, i.call.Permitted i.state
  /-- A load that begins while the filter is pending is skipped and changes nothing. -/
  skips_jobs : ∀ n before after issues rest,
    ⟨n, .jobs .load, none, before, after, issues, rest⟩ ∈ h → before.scope = .pending →
      issues = [] ∧ rest = .done (.ok .skipped) ∧ after = before
  skips_services : ∀ n before after issues rest,
    ⟨n, .views .loadServices, none, before, after, issues, rest⟩ ∈ h → before.scope = .pending →
      issues = [] ∧ rest = .done (.ok .skipped) ∧ after = before
  stays : ∀ later m earlier, h = later ++ m :: earlier →
    m.after.scope.isInitialized = true → w.console.scope.isInitialized = true
  /-- But for explicit selections the filter only ever resolves by itself. -/
  moves : ∀ m ∈ h, m.selection? = none → m.resolves = false →
    m.after.session.filter = m.before.session.filter
  /-- By itself it resolves once, and not after an explicit selection. -/
  resolves_once : h.countP Moment.resolves ≤ 1
  not_after_selection : ∀ later m earlier, h = later ++ m :: earlier → m.selection?.isSome = true →
    ∀ m' ∈ later, m'.resolves = false
  /-- What is resolved stays the same until something is selected. -/
  unmoved : ∀ later m earlier, h = later ++ m :: earlier → (∀ m' ∈ later, m'.selection? = none) →
    m.after.scope.isInitialized = true → w.console.scope = m.after.scope
  /-- From then on it is the latest selection. -/
  selected : ∀ choice, h.findSome? Moment.selection? = some choice →
    w.console.scope = .ofChoice choice
  /-- With the connection loaded there is a scope. -/
  connected : ∀ n reply before after issues,
    ⟨n, .session .loadConnection, reply, before, after, issues, .done (.ok ())⟩ ∈ h →
      after.scope.isInitialized = true

/-- Nothing is loaded while the filter is pending. -/
theorem advances_loadJobs {s t : Console} {issues x} (pending : s.scope = .pending)
    (h : Operation.loadJobs.Advances s issues x t) :
    issues = [] ∧ x = .done (.ok .skipped) ∧ t = s := by
  simpa [Operation.loadJobs, Action.read, Action.bind, pending, Scope.toFetch] using h

theorem advances_loadServices {s t : Console} {issues x} (pending : s.scope = .pending)
    (h : Operation.loadServices.Advances s issues x t) :
    issues = [] ∧ x = .done (.ok .skipped) ∧ t = s := by
  simpa [Operation.loadServices, Action.read, Action.bind, pending, Scope.isInitialized] using h

theorem namespace_protocol (run : Run start h w) (fresh : start.session.filter = {}) :
    NamespaceProtocol h w := by
  have guarded := (run.guarded fresh).2.2
  constructor
  case asks =>
    intro m mem other i hi
    rcases (guarded m mem).fits.issue i hi with overview | permitted
    · exact absurd overview other
    · exact permitted
  case skips_jobs =>
    intro n before after issues rest mem pending
    exact advances_loadJobs pending (run.advances mem rfl)
  case skips_services =>
    intro n before after issues rest mem pending
    exact advances_loadServices pending (run.advances mem rfl)
  case stays =>
    rintro later m earlier rfl initialized
    exact (run.stays_initialized fresh initialized).1
  case moves =>
    intro m mem other stays
    have kept := (guarded m mem).kept
    rw [Moment.opened_of_none other] at kept
    rcases kept with same | resolved
    · exact same
    · simp [Moment.resolves, other, resolved] at stays
  case resolves_once =>
    exact Nat.le_trans (run.countP_resolves fresh) (Bool.toNat_le _)
  case not_after_selection =>
    rintro later m earlier rfl selects m' mem
    obtain ⟨choice, selects⟩ := Option.isSome_iff_exists.mp selects
    have selected := guarded m (by simp)
    have initialized : m.after.scope.isInitialized = true := by
      rw [Console.scope, selected.filter_after selects]
      exact isInitialized_ofChoice choice
    have before := (run.stays_initialized fresh initialized).2 m' mem
    cases resolves : m'.resolves with
    | false => rfl
    | true =>
      have pending := (guarded m' (List.mem_append_left _ mem)).of_resolves resolves
      rw [before] at pending
      cases pending.1
  case unmoved =>
    rintro later m earlier rfl
    exact run.scope_unmoved fresh
  case selected =>
    intro choice latest
    obtain ⟨later, m, earlier, rfl, selects, others⟩ := List.findSome?_eq_some_iff.mp latest
    have filter := (guarded m (by simp)).filter_after selects
    rw [run.scope_unmoved fresh others, Console.scope, filter]
    rw [Console.scope, filter]
    exact isInitialized_ofChoice choice
  case connected =>
    intro n reply before after issues mem
    exact (guarded _ mem).fits.step.2 rfl

/-- A namespace is selected while the connection is being loaded, and stays selected. -/
theorem scope_selected_while_connecting :
    ∃ h w, Run {} h w ∧ w.console.session.connection.selected = some "a" ∧
      w.console.scope = .only "b" := by
  have asked := Run.next (@Run.start {})
    (.begin (.session .loadConnection) (.tryAll _ _ _ _))
  have chosen := asked.next
    (.begin (.session (.selectNamespace (some "b"))) (.get (.get (.set (.done _ _)))))
  have connected := chosen.next (.answer 0 _ ⟨.connected, .ok true⟩ rfl
    (@Takes.tryPart _ _ [] [.spaces] .connected _ _ true (List.cons_ne_nil _ _)))
  have loaded := connected.next (.answer 0 _ ⟨.spaces, .ok ["a"]⟩ rfl
    (@Takes.tryLast _ _ .spaces _ _ _ _ _ ["a"] (.get (.get (.set (.call _ _ _))))))
  exact ⟨_, _, loaded, rfl, (namespace_protocol loaded rfl).selected (some "b") rfl⟩

end PoolConsole
