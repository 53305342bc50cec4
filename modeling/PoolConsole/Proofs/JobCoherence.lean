import PoolConsole.Proofs.PanelHistory
import PoolConsole.Proofs.Run.History
import PoolConsole.Proofs.Run.JobLoads

/-!
What is shown of the jobs, in every run of the console.

* `latestLoad?`, `loaded?`: which load of the jobs came last in a history, and what a load has been
  answered with.
* `ListingTurn`: what one step can do to what is shown. It is left alone, the next load begins, or
  the answer to the latest load is taken over.
* `Listed`: the invariant; an activity that awaits jobs holds the latest ticket exactly if its load
  came last.
* `jobs_coherent`: the jobs shown are those of the scope that is recorded, answers that came too
  late change nothing, and another scope is shown from its first page on.
-/

namespace PoolConsole

open PoolConsole.Action Console

namespace Scope

theorem toFetch_eq_some {scope : Scope} {space : Option String} :
    scope.toFetch = some space ↔ scope = .ofChoice space := by
  cases scope <;> cases space <;> simp [toFetch, ofChoice]

theorem ofChoice_injective {a b : Option String} (h : ofChoice a = ofChoice b) : a = b := by
  cases a <;> cases b <;> simp_all [ofChoice]

end Scope

/-! ## Loads in a history -/

/-- A load of the jobs: the number of the activity that makes it, and the namespace asked for. -/
structure JobLoad where
  strand : Nat
  space : Option String

def JobLoad.scope (l : JobLoad) : Scope :=
  .ofChoice l.space

namespace Moment

/-- The load that begins in the moment. -/
def load? (m : Moment) : Option JobLoad :=
  if m.activity.countsJobs then none
  else m.issues.findSome? fun i => i.call.listed?.map (⟨m.strand, ·⟩)

/-- The jobs that a load is given in the moment, or why it gets none. -/
def loaded? (l : JobLoad) (m : Moment) : Option (Outcome (List Job)) :=
  match m.reply with
  | some ⟨.jobs space, r⟩ => if m.strand = l.strand ∧ space = l.space then some r else none
  | _ => none

variable {m : Moment} {l : JobLoad}

theorem load?_of_quiet (quiet : ∀ i ∈ m.issues, i.call.listed? = none) : m.load? = none := by
  unfold load?
  split
  · rfl
  · exact List.findSome?_eq_none_iff.mpr fun i mem => by rw [quiet i mem]; rfl

theorem load?_of_counts (counts : m.activity.countsJobs = true) : m.load? = none :=
  if_pos counts

theorem load?_of_begins {quiet : List (Issue Console)} {space : Option String} {u : Console}
    (other : m.activity.countsJobs = false) (issues : m.issues = quiet ++ [⟨.jobs space, u⟩])
    (asks : ∀ i ∈ quiet, i.call.listed? = none) : m.load? = some ⟨m.strand, space⟩ := by
  have before : quiet.findSome? (fun i => i.call.listed?.map (JobLoad.mk m.strand)) = none :=
    List.findSome?_eq_none_iff.mpr fun i mem => by rw [asks i mem]; rfl
  rw [load?, other, issues, List.findSome?_append, before]
  rfl

theorem strand_of_load? (h : m.load? = some l) : l.strand = m.strand := by
  unfold load? at h
  split at h
  · cases h
  · obtain ⟨i, -, found⟩ := List.exists_of_findSome?_eq_some h
    obtain ⟨space, -, rfl⟩ := Option.map_eq_some_iff.mp found
    rfl

theorem quiet_of_load? (lists : m.activity.countsJobs = false) (none : m.load? = none)
    {i : Issue Console} (mem : i ∈ m.issues) : i.call.listed? = .none := by
  rw [load?, lists] at none
  exact Option.map_eq_none_iff.mp (List.findSome?_eq_none_iff.mp none i mem)

theorem counts_of_load? (h : m.load? = some l) : m.activity.countsJobs = false := by
  cases counts : m.activity.countsJobs with
  | false => rfl
  | true =>
    rw [load?_of_counts counts] at h
    cases h

theorem loaded?_of_ne (other : m.strand ≠ l.strand) : m.loaded? l = none := by
  unfold loaded?
  split
  · exact if_neg fun same => other same.1
  · rfl

theorem loaded?_of_begins (begins : m.begins = true) : m.loaded? l = none := by
  unfold loaded?
  rw [Option.isNone_iff_eq_none.mp begins]

theorem loaded?_of_quiet {reply : Reply} (answered : m.reply = some reply)
    (quiet : reply.call.listed? = none) : m.loaded? l = none := by
  unfold loaded?
  rw [answered]
  split
  next eq =>
    cases eq
    cases quiet
  next => rfl

theorem loaded?_of_jobs {space : Option String} {r : Outcome (List Job)}
    (answered : m.reply = some ⟨.jobs space, r⟩) : m.loaded? ⟨m.strand, space⟩ = some r := by
  unfold loaded?
  rw [answered]
  exact if_pos ⟨rfl, rfl⟩

end Moment

/-- The load that came last. -/
def latestLoad? (h : List Moment) : Option JobLoad :=
  h.findSome? Moment.load?

def loaded? (h : List Moment) (l : JobLoad) : Option (Outcome (List Job)) :=
  h.findSome? (Moment.loaded? l)

section
variable {h : List Moment} {m : Moment} {l : JobLoad}

theorem latestLoad?_cons_of_none (none : m.load? = .none) :
    latestLoad? (m :: h) = latestLoad? h := by
  rw [latestLoad?, List.findSome?_cons, none]
  rfl

theorem latestLoad?_cons_of_some (some : m.load? = .some l) : latestLoad? (m :: h) = .some l := by
  rw [latestLoad?, List.findSome?_cons, some]

theorem loaded?_cons_of_none (none : m.loaded? l = .none) : loaded? (m :: h) l = loaded? h l := by
  rw [loaded?, List.findSome?_cons, none]
  rfl

theorem loaded?_cons_of_some {r : Outcome (List Job)} (some : m.loaded? l = .some r) :
    loaded? (m :: h) l = .some r := by
  rw [loaded?, List.findSome?_cons, some]

theorem loaded?_of_absent (absent : ∀ m ∈ h, m.strand ≠ l.strand) : loaded? h l = none :=
  List.findSome?_eq_none_iff.mpr fun m mem => Moment.loaded?_of_ne (absent m mem)

theorem exists_of_latestLoad? (latest : latestLoad? h = some l) : ∃ m ∈ h, m.strand = l.strand := by
  obtain ⟨m, mem, load⟩ := List.exists_of_findSome?_eq_some latest
  exact ⟨m, mem, (Moment.strand_of_load? load).symm⟩

/-- A load of another activity does not become the latest in the moment. -/
theorem latestLoad?_of_ne (other : l.strand ≠ m.strand) (latest : latestLoad? (m :: h) = some l) :
    latestLoad? h = some l := by
  cases load : m.load? with
  | none => rwa [latestLoad?_cons_of_none load] at latest
  | some l' =>
    rw [latestLoad?_cons_of_some load, Option.some.injEq] at latest
    subst latest
    exact absurd (Moment.strand_of_load? load) other

end

/-! ## What is shown -/

namespace Panel

variable {α : Type}

/-- How a panel stands with what its latest load has been answered with. -/
def Shows (p : Panel α) : Option (Outcome α) → Prop
  | none => p.loading = true
  | some (.ok a) => p.loading = false ∧ p.data = some a ∧ p.error = none
  | some (.error e) => p.loading = false ∧ p.error = some e.userMessage

theorem complete_of_old {p : Panel α} {ticket : Ticket} (old : ticket.generation ≠ p.issued)
    (r : Outcome α) : (p.complete ticket r).2 = p := by
  unfold complete
  rw [if_pos old]

theorem shows_complete {p : Panel α} {ticket : Ticket} (latest : ticket.generation = p.issued)
    (r : Outcome α) : (p.complete ticket r).2.Shows (some r) := by
  unfold complete
  rw [if_neg (not_not_intro latest)]
  cases r with
  | ok a => exact ⟨rfl, rfl, rfl⟩
  | error e => exact ⟨rfl, rfl⟩

theorem Shows.loading_iff {p : Panel α} {answer : Option (Outcome α)} (shows : p.Shows answer) :
    p.loading = true ↔ answer = none := by
  cases answer with
  | none => exact iff_of_true shows rfl
  | some r =>
    have loaded : p.loading = false := by
      cases r with
      | ok a => exact shows.1
      | error e => exact shows.1
    simp [loaded]

/-- Data that is shown without an error, and with nothing under way, is the latest answer. -/
theorem Shows.eq_of_data {p : Panel α} {answer : Option (Outcome α)} {a : α}
    (shows : p.Shows answer) (loaded : p.loading = false) (clear : p.error = none)
    (data : p.data = some a) : answer = some (.ok a) := by
  cases answer with
  | none => exact absurd (show p.loading = true from shows) (by simp [loaded])
  | some r =>
    cases r with
    | ok a' =>
      obtain ⟨-, same, -⟩ := shows
      rw [data, Option.some.injEq] at same
      rw [same]
    | error e =>
      obtain ⟨-, failed⟩ := shows
      rw [clear] at failed
      cases failed

end Panel

structure Lists (h : List Moment) (c : Console) : Prop where
  scope : c.jobs.scope = (latestLoad? h).map JobLoad.scope
  blank : latestLoad? h = none → c.jobs.panel = {}
  shows : ∀ l, latestLoad? h = some l → c.jobs.panel.Shows (loaded? h l)

/-! ## What a step does to it -/

/-- What one step can do to what is shown of the jobs. -/
inductive ListingTurn (h : List Moment) (m : Moment) : Prop where
  | kept : m.load? = none → m.after.listing = m.before.listing →
      (∀ l, latestLoad? h = some l → m.loaded? l = none) → ListingTurn h m
  | begins (quiet : List (Issue Console)) (space : Option String) (u : Console) :
      m.load? = some ⟨m.strand, space⟩ → u.listing = m.before.listing →
      u.scope = .ofChoice space → m.after = u.beginJobs →
      m.issues = quiet ++ [⟨.jobs space, u.beginJobs⟩] →
      (∀ i ∈ quiet, i.call.listed? = none) → loaded? (m :: h) ⟨m.strand, space⟩ = none →
      ListingTurn h m
  | taken (ticket : Ticket) (space : Option String) (r : Outcome (List Job)) :
      m.load? = none → m.reply = some ⟨.jobs space, r⟩ → latestLoad? h = some ⟨m.strand, space⟩ →
      ticket.generation = m.before.jobs.panel.issued →
      m.after.listing = (m.before.completeJobs ticket r).listing → ListingTurn h m

namespace ListingTurn

variable {h : List Moment} {m : Moment}

theorem panel_of_listing {s t : Console} (same : t.listing = s.listing) :
    t.jobs.panel = s.jobs.panel :=
  (Prod.mk.inj same).1

theorem scope_of_listing {s t : Console} (same : t.listing = s.listing) :
    t.jobs.scope = s.jobs.scope :=
  (Prod.mk.inj same).2

/-- The counter moves on exactly when a load begins. -/
theorem issued (turn : ListingTurn h m) :
    (m.load? = none ∧ m.after.jobs.panel.issued = m.before.jobs.panel.issued) ∨
    (m.load?.isSome = true ∧ m.after.jobs.panel.issued = m.before.jobs.panel.issued + 1) := by
  cases turn with
  | kept none same => exact .inl ⟨none, congrArg Panel.issued (panel_of_listing same)⟩
  | begins quiet space u load listed _ after =>
    refine .inr ⟨by rw [load]; rfl, ?_⟩
    rw [after, ← panel_of_listing listed]
    rfl
  | taken ticket space r none _ _ _ after =>
    refine .inl ⟨none, ?_⟩
    rw [panel_of_listing after]
    exact Panel.complete_issued _ ticket r

theorem lists (turn : ListingTurn h m) (lists : Lists h m.before) : Lists (m :: h) m.after := by
  cases turn with
  | kept none same unanswered =>
    obtain ⟨scope, blank, shows⟩ := lists
    refine ⟨?_, ?_, ?_⟩
    · rw [latestLoad?_cons_of_none none, scope_of_listing same, scope]
    · rw [latestLoad?_cons_of_none none, panel_of_listing same]
      exact blank
    · intro l latest
      rw [latestLoad?_cons_of_none none] at latest
      rw [loaded?_cons_of_none (unanswered l latest), panel_of_listing same]
      exact shows l latest
  | begins quiet space u load listed scope after _ _ unanswered =>
    have latest := latestLoad?_cons_of_some (h := h) load
    refine ⟨?_, ?_, ?_⟩
    · rw [latest, after]
      exact congrArg some scope
    · rw [latest]
      nofun
    · intro l is
      rw [latest, Option.some.injEq] at is
      subst is
      rw [unanswered, after]
      rfl
  | taken ticket space r none reply latest current after =>
    have latest' := (latestLoad?_cons_of_none (h := h) none).trans latest
    refine ⟨?_, ?_, ?_⟩
    · rw [latest', scope_of_listing after, ← latest]
      exact lists.scope
    · rw [latest']
      nofun
    · intro l is
      rw [latest', Option.some.injEq] at is
      subst is
      rw [loaded?_cons_of_some (Moment.loaded?_of_jobs reply), panel_of_listing after]
      exact Panel.shows_complete current r

end ListingTurn

/-! ## The invariant -/

inductive Fetches (h : List Moment) (c : Console) (n : Nat) : Strand → Prop where
  | counts (a : Activity) (rest : Action Console a.Result) :
      a.countsJobs = true → rest.Poised (.frame listing fun _ _ => True) (Unchanged listing) c →
      Fetches h c n ⟨a, rest⟩
  | past (a : Activity) (rest : Action Console a.Result) :
      a.countsJobs = false → rest.Still listing (·.listed? = none) c →
      (∀ l, latestLoad? h = some l → l.strand = n → loaded? h l ≠ none) → Fetches h c n ⟨a, rest⟩
  | ahead (a : Activity) {β : Type} (x : Action Console β) (f : β → Action Console a.Result) :
      a.countsJobs = false → x.Still listing (·.listed? = none) c → x.value? = none →
      (∀ b, (f b).LoadsOnce) → (∀ space, loaded? h ⟨n, space⟩ = none) →
      (∀ l, latestLoad? h = some l → l.strand ≠ n) → Fetches h c n ⟨a, x.bind f⟩
  | loading (a : Activity) (space : Option String) (ticket : Ticket)
      (k : Outcome LoadOutcome → Action Console a.Result) :
      a.countsJobs = false → (∀ r, (k r).Unlisted) → loaded? h ⟨n, space⟩ = none →
      ticket.generation ≤ c.jobs.panel.issued →
      (ticket.generation = c.jobs.panel.issued → latestLoad? h = some ⟨n, space⟩) →
      (∀ l, latestLoad? h = some l → l.strand = n → ticket.generation = c.jobs.panel.issued) →
      Fetches h c n ⟨a, (Operation.awaitJobs space ticket).bind k⟩

structure Listed (h : List Moment) (w : World) : Prop where
  lists : Lists h w.console
  loader : ∀ l, latestLoad? h = some l →
    ∃ strand, w.strands[l.strand]? = some strand ∧ strand.activity.countsJobs = false
  fetches : ∀ n strand, w.strands[n]? = some strand → Fetches h w.console n strand

variable {start : Console} {h : List Moment} {m : Moment} {v w : World}

/-- A step of another activity leaves an activity where it stands. -/
theorem Fetches.cons {n : Nat} {strand : Strand} (fetches : Fetches h m.before n strand)
    (other : n ≠ m.strand) (turn : ListingTurn h m) : Fetches (m :: h) m.after n strand := by
  have earlier (l : JobLoad) (latest : latestLoad? (m :: h) = some l) (here : l.strand = n) :
      latestLoad? h = some l := latestLoad?_of_ne (here ▸ other) latest
  have loaded (l : JobLoad) (here : l.strand = n) : loaded? (m :: h) l = loaded? h l :=
    loaded?_cons_of_none (Moment.loaded?_of_ne (here ▸ Ne.symm other))
  cases fetches with
  | counts a rest counts poised => exact .counts a rest counts (poised.mono trivial)
  | past a rest lists still answered =>
    refine .past a rest lists still.mono fun l latest here => ?_
    rw [loaded l here]
    exact answered l (earlier l latest here) here
  | ahead a x f lists still unfinished next unanswered foreign =>
    refine .ahead a x f lists still.mono unfinished next ?_ ?_
    · exact fun space => (loaded ⟨n, space⟩ rfl).trans (unanswered space)
    · exact fun l latest here => foreign l (earlier l latest here) here
  | loading a space ticket k lists quiet unanswered le latest current =>
    have unanswered' := (loaded ⟨n, space⟩ rfl).trans unanswered
    rcases turn.issued with ⟨none, same⟩ | ⟨load, next⟩
    · rw [← same] at le latest current
      refine .loading a space ticket k lists quiet unanswered' le ?_ ?_
      · rwa [latestLoad?_cons_of_none none]
      · rwa [latestLoad?_cons_of_none none]
    · obtain ⟨l', load⟩ := Option.isSome_iff_exists.mp load
      refine .loading a space ticket k lists quiet unanswered' (by omega) (by omega) ?_
      intro l is here
      rw [latestLoad?_cons_of_some load, Option.some.injEq] at is
      subst is
      exact absurd (here.symm.trans (Moment.strand_of_load? load)) other

/-- The load that came last is awaited as long as it is unanswered. -/
theorem Fetches.awaits {c : Console} {strand : Strand} {l : JobLoad}
    (fetches : Fetches h c l.strand strand) (lists : strand.activity.countsJobs = false)
    (latest : latestLoad? h = some l) (unanswered : loaded? h l = none) :
    .jobs l.space ∈ strand.rest.awaited := by
  cases fetches with
  | counts a rest counts => exact absurd lists (by simp [counts])
  | past a rest _ _ answered => exact absurd unanswered (answered l latest rfl)
  | ahead a x f _ _ _ _ _ foreign => exact absurd rfl (foreign l latest)
  | loading a space ticket k _ _ _ _ is current =>
    have same := is (current l latest rfl)
    rw [latest, Option.some.injEq] at same
    rw [same]
    exact List.mem_cons_self

/-- What one step has to see to for the invariant. -/
theorem Listed.next (listed : Listed h v) (step : Step v m w) (turn : ListingTurn h m)
    (fetches : Fetches (m :: h) m.after m.strand ⟨m.activity, m.rest⟩) : Listed (m :: h) w := by
  have before := listed.lists
  rw [← step.before_eq] at before
  refine ⟨step.after_eq ▸ turn.lists before, ?_, ?_⟩
  · intro l latest
    cases load : m.load? with
    | none =>
      rw [latestLoad?_cons_of_none load] at latest
      obtain ⟨strand, there, lists⟩ := listed.loader l latest
      obtain ⟨rest, there⟩ := step.strand_kept there
      exact ⟨_, there, lists⟩
    | some l' =>
      rw [latestLoad?_cons_of_some load, Option.some.injEq] at latest
      subst latest
      rw [Moment.strand_of_load? load]
      exact ⟨_, step.strand_after, Moment.counts_of_load? load⟩
  · intro n strand there
    rw [← step.after_eq]
    rcases step.strand_cases there with ⟨rfl, rfl⟩ | ⟨other, there⟩
    · exact fetches
    · have stands := listed.fetches n strand there
      rw [← step.before_eq] at stands
      exact stands.cons other turn

/-- A step in which the load of an activity begins, if it has not begun before. -/
theorem Action.LoadStep.turn (step : LoadStep m.before m.issues m.rest m.after)
    (lists : m.activity.countsJobs = false)
    (unanswered : ∀ space, loaded? (m :: h) ⟨m.strand, space⟩ = none)
    (foreign : ∀ l, latestLoad? h = some l → l.strand ≠ m.strand) :
    ListingTurn h m ∧ Fetches (m :: h) m.after m.strand ⟨m.activity, m.rest⟩ := by
  have kept (quiet : ∀ i ∈ m.issues, i.call.listed? = none)
      (same : m.after.listing = m.before.listing) : ListingTurn h m :=
    .kept (Moment.load?_of_quiet quiet) same fun l latest =>
      Moment.loaded?_of_ne (foreign l latest).symm
  have foreign' (quiet : ∀ i ∈ m.issues, i.call.listed? = none) (l : JobLoad)
      (latest : latestLoad? (m :: h) = some l) : l.strand ≠ m.strand := by
    rw [latestLoad?_cons_of_none (Moment.load?_of_quiet quiet)] at latest
    exact foreign l latest
  generalize issues : m.issues = asked, rest : m.rest = y, after : m.after = t at step kept foreign'
  cases step with
  | past keeps =>
    exact ⟨kept keeps.asks keeps.same, .past _ y lists keeps.still fun l latest here =>
      absurd here (foreign' keeps.asks l latest)⟩
  | @ahead β _ _ x f keeps unfinished next =>
    exact ⟨kept keeps.asks keeps.same,
      .ahead _ x f lists keeps.still unfinished next unanswered (foreign' keeps.asks)⟩
  | @begins quiet space u k asks listed fetch next =>
    have load := Moment.load?_of_begins lists issues asks
    refine ⟨.begins quiet space u load listed (Scope.toFetch_eq_some.mp fetch) after issues asks
      (unanswered space), .loading _ space _ k lists next (unanswered space) (Nat.le_refl _) ?_ ?_⟩
    · exact fun _ => latestLoad?_cons_of_some load
    · exact fun _ _ _ => rfl

/-! ## Steps -/

theorem Run.begin_listing (run : Run start h v) (step : Step v m w)
    (begins : m.begins = true) :
    ListingTurn h m ∧ Fetches (m :: h) m.after m.strand ⟨m.activity, m.rest⟩ := by
  have fresh := run.strand_fresh step begins
  have advances := step.advances begins
  have foreign (l : JobLoad) (latest : latestLoad? h = some l) : l.strand ≠ m.strand := by
    obtain ⟨m', mem, same⟩ := exists_of_latestLoad? latest
    exact same ▸ Nat.ne_of_lt (fresh m' mem)
  cases counts : m.activity.countsJobs with
  | true =>
    have fits := (unlisted_of_counts _ counts).poised rfl advances
    exact ⟨.kept (Moment.load?_of_counts counts) fits.unchanged fun _ _ =>
      Moment.loaded?_of_begins begins, .counts _ m.rest counts fits.poised⟩
  | false =>
    refine ((m.activity.loadsOnce counts).advances advances).turn counts (fun space => ?_) foreign
    rw [loaded?_cons_of_none (Moment.loaded?_of_begins begins)]
    exact loaded?_of_absent fun m' mem => Nat.ne_of_lt (fresh m' mem)

theorem Listed.answer (listed : Listed h v) (step : Step v m w) {reply : Reply}
    (answered : m.reply = some reply) :
    ListingTurn h m ∧ Fetches (m :: h) m.after m.strand ⟨m.activity, m.rest⟩ := by
  obtain ⟨x, there, takes⟩ := step.takes answered
  have stands := listed.fetches _ _ there
  rw [← step.before_eq] at stands
  have latest_cons (quiet : ∀ i ∈ m.issues, i.call.listed? = none) :
      latestLoad? (m :: h) = latestLoad? h :=
    latestLoad?_cons_of_none (Moment.load?_of_quiet quiet)
  cases stands with
  | counts _ _ counts poised =>
    have fits := takes.obeys poised
    refine ⟨.kept (Moment.load?_of_counts counts) fits.unchanged ?_,
      .counts _ m.rest counts fits.poised⟩
    -- The load that came last is of another activity, since this one never makes one.
    intro l latest
    apply Moment.loaded?_of_ne
    intro here
    obtain ⟨strand, there', lists⟩ := listed.loader l latest
    rw [← here, there, Option.some.injEq] at there'
    subst there'
    rw [counts] at lists
    cases lists
  | past _ _ lists still loaded =>
    have keeps := still.keeps takes
    have quiet (l : JobLoad) : m.loaded? l = none :=
      Moment.loaded?_of_quiet answered (still.answered takes)
    refine ⟨.kept (Moment.load?_of_quiet keeps.asks) keeps.same fun l _ => quiet l,
      .past _ m.rest lists keeps.still ?_⟩
    intro l latest here
    rw [latest_cons keeps.asks] at latest
    rw [loaded?_cons_of_none (quiet l)]
    exact loaded l latest here
  | ahead _ y f lists still unfinished next unanswered foreign =>
    obtain ⟨quiet, load⟩ := LoadsOnce.takes next still unfinished takes
    refine load.turn lists (fun space => ?_) foreign
    rw [loaded?_cons_of_none (Moment.loaded?_of_quiet answered quiet)]
    exact unanswered space
  | loading _ space ticket k lists quiet unanswered le latest current =>
    obtain ⟨r, rfl, keeps⟩ := takes_awaitJobs quiet takes
    have none := Moment.load?_of_quiet keeps.asks
    -- No load has begun since exactly if the counter still stands at the ticket.
    by_cases newest : ticket.generation = m.before.jobs.panel.issued
    · have is := latest newest
      refine ⟨.taken ticket space r none answered is newest keeps.same,
        .past _ m.rest lists keeps.still ?_⟩
      intro l latest' here
      rw [latest_cons keeps.asks, is, Option.some.injEq] at latest'
      subst latest'
      rw [loaded?_cons_of_some (Moment.loaded?_of_jobs answered)]
      nofun
    · have foreign (l : JobLoad) (latest : latestLoad? h = some l) : l.strand ≠ m.strand :=
        fun here => newest (current l latest here)
      refine ⟨.kept none (keeps.same.trans ?_) fun l latest =>
        Moment.loaded?_of_ne (foreign l latest).symm, .past _ m.rest lists keeps.still ?_⟩
      · exact Prod.ext (Panel.complete_of_old newest r) rfl
      · intro l latest' here
        rw [latest_cons keeps.asks] at latest'
        exact absurd here (foreign l latest')

theorem Listed.step (listed : Listed h v) (run : Run start h v) (step : Step v m w) :
    ListingTurn h m ∧ Fetches (m :: h) m.after m.strand ⟨m.activity, m.rest⟩ := by
  cases answered : m.reply with
  | none => exact run.begin_listing step (congrArg Option.isNone answered)
  | some reply => exact listed.answer step answered

theorem Run.listed (run : Run start h w) (fresh : start.jobs = {}) : Listed h w := by
  induction run with
  | start =>
    refine ⟨⟨?_, fun _ => ?_, nofun⟩, nofun, by simp⟩
    · rw [fresh]
      rfl
    · rw [fresh]
  | next run step listed =>
    obtain ⟨turn, fetches⟩ := listed.step run step
    exact listed.next step turn fetches

/-! ## What holds in every run -/

structure JobsCoherent (h : List Moment) (w : World) : Prop where
  /-- The scope recorded is that of the load that came last. -/
  scope : w.console.jobs.scope = (latestLoad? h).map JobLoad.scope
  /-- Jobs that are shown, without an error and with nothing under way, are what that load has been
  answered with. -/
  data : ∀ jobs, w.console.jobs.panel.loading = false → w.console.jobs.panel.error = none →
    w.console.jobs.panel.data = some jobs →
    ∃ l, latestLoad? h = some l ∧ loaded? h l = some (.ok jobs)
  loading : w.console.jobs.panel.loading = true →
    ∃ l strand, latestLoad? h = some l ∧ loaded? h l = none ∧
      w.strands[l.strand]? = some strand ∧ .jobs l.space ∈ strand.rest.awaited
  /-- Only the answer to the load that came last is taken over. -/
  applied : ∀ m v, Step w m v → m.load? = none →
    v.console.jobs.panel ≠ w.console.jobs.panel →
    ∃ l r, latestLoad? h = some l ∧ m.strand = l.strand ∧ m.reply = some ⟨.jobs l.space, r⟩
  /-- A load is made for the scope of that moment, and another scope is shown from its first page
  on. -/
  issued : ∀ later m earlier, h = later ++ m :: earlier → m.activity.countsJobs = false →
    ∀ i ∈ m.issues, ∀ space, i.call = .jobs space →
      i.state.scope = .ofChoice space ∧ i.state.jobs.scope = some (.ofChoice space) ∧
      ((latestLoad? earlier).map JobLoad.space ≠ some space → i.state.jobs.page = 1)

theorem jobs_coherent (run : Run start h w) (fresh : start.jobs = {}) : JobsCoherent h w := by
  have listed := run.listed fresh
  constructor
  case scope => exact listed.lists.scope
  case data =>
    intro jobs loaded clear data
    cases latest : latestLoad? h with
    | none =>
      rw [listed.lists.blank latest] at data
      cases data
    | some l => exact ⟨l, rfl, (listed.lists.shows l latest).eq_of_data loaded clear data⟩
  case loading =>
    intro loading
    cases latest : latestLoad? h with
    | none =>
      rw [listed.lists.blank latest] at loading
      cases loading
    | some l =>
      have unanswered := (listed.lists.shows l latest).loading_iff.mp loading
      obtain ⟨strand, there, lists⟩ := listed.loader l latest
      exact ⟨l, strand, rfl, unanswered, there,
        (listed.fetches _ _ there).awaits lists latest unanswered⟩
  case applied =>
    intro m v step none changes
    rw [← step.before_eq, ← step.after_eq] at changes
    cases (listed.step run step).1 with
    | kept _ same => exact absurd (ListingTurn.panel_of_listing same) changes
    | begins _ _ _ load =>
      rw [none] at load
      cases load
    | taken ticket space r _ reply latest => exact ⟨⟨m.strand, space⟩, r, latest, rfl, reply⟩
  case issued =>
    rintro later m earlier rfl lists i asked space is
    obtain ⟨v, v', prior, step⟩ := run.split
    have listed := prior.listed fresh
    have asks (none : m.load? = none) : False := by
      have quiet := Moment.quiet_of_load? lists none asked
      rw [is] at quiet
      cases quiet
    cases (listed.step prior step).1 with
    | kept none => exact (asks none).elim
    | taken _ _ _ none => exact (asks none).elim
    | begins quiet space' u load same scope after issues unlisted =>
      have listing := listed.lists
      rw [← step.before_eq] at listing
      rw [issues] at asked
      rcases List.mem_append.mp asked with other | new
      · have none := unlisted i other
        rw [is] at none
        cases none
      · rw [List.mem_singleton] at new
        subst new
        cases is
        refine ⟨scope, congrArg some scope, fun differs => if_neg fun recorded => differs ?_⟩
        rw [scope, ListingTurn.scope_of_listing same, listing.scope] at recorded
        obtain ⟨l, latest, eq⟩ := Option.map_eq_some_iff.mp recorded
        rw [latest, Option.map_some, Scope.ofChoice_injective eq]

/-- Another namespace is selected while jobs are awaited: those of the first are not taken over. -/
theorem scope_after_overlapping_loads :
    ∃ h w, Run {} h w ∧ w.console.jobs.scope = some (.only "b") ∧
      ∀ m v, Step w m v → m.load? = none → v.console.jobs.panel ≠ w.console.jobs.panel →
        m.strand = 2 := by
  have chosen := Run.next (@Run.start {})
    (.begin (.session (.selectNamespace (some "a"))) (.get (.get (.set (.done _ _)))))
  have first := chosen.next (.begin (.jobs .load) (.get (.get (.get (.set (.call _ _ _))))))
  have second := first.next (.begin (.jobs (.setNamespace (some "b")))
    (.get (.get (.set (.get (.get (.get (.set (.call _ _ _)))))))))
  have coherent := jobs_coherent second rfl
  refine ⟨_, _, second, coherent.scope, fun m v step none changes => ?_⟩
  obtain ⟨l, r, latest, strand, -⟩ := coherent.applied m v step none changes
  rw [strand]
  cases latest
  rfl

end PoolConsole
