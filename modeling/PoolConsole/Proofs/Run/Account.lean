import PoolConsole.Proofs.Run.Past
import PoolConsole.Proofs.Run.Source

/-!
What an activity does, told by what it has been answered.

* `Account`: what may become of an activity from one wait to the next, by all that it has been told
  so far, the calls that it makes, and its value if it ends.
* `Action.Follows`, `Action.Pledged`: a running and a waiting action keep to an account, whatever
  they are told and whatever others do to the state meanwhile; `Action.Advances.follows` and
  `Action.Takes.follows` say that they then do so step by step.
* `Run.accounts`: so every moment of a run is as the account of its activity says.
-/

namespace PoolConsole

/-- What may become of an action from one wait to the next: by the replies to it so far, the latest
first, the calls that it makes, its value if it ends, and the states before and after. -/
abbrev Account (σ α : Type) := List Reply → List Call → Option α → σ → σ → Prop

namespace Action

variable {σ α β γ : Type}

/-- An action that has been told some replies, and has come from one state to another with some
calls since, keeps to an account. -/
def Follows (account : Account σ α) : Action σ α → List Reply → List Call → σ → σ → Prop
  | .done a, told, made, s₀, s => account told made (some a) s₀ s
  | .get next, told, made, s₀, s => (next s).Follows account told made s₀ s
  | .set u next, told, made, s₀, _ => next.Follows account told made s₀ u
  | .save _ _ next, told, made, s₀, s => ∀ kept, (next kept).Follows account told made s₀ s
  | .call c next, told, made, s₀, s =>
    account told (made ++ [c]) none s₀ s ∧
    ∀ r t, (next r).Follows account (⟨c, r⟩ :: told) [] t t
  | .tryAll cs next, told, made, s₀, s =>
    (cs ≠ [] → account told (made ++ cs) none s₀ s) ∧
    ((∀ more t, Heard cs more none → account (more ++ told) [] none t t) ∧
      ∀ r more t, Heard cs more r.failure? → Replied more cs r →
        (next r).Follows account (more ++ told) [] t t) ∧
    (∀ e part, part <+: cs → part ≠ [] →
      (next (.error e)).Follows account told (made ++ part) s₀ s) ∧
    (∀ as, cs = [] → (next (.ok as)).Follows account told made s₀ s)
  | .both c d onC onD next, told, made, s₀, s =>
    account told (made ++ [c, d]) none s₀ s ∧
    (∀ r t, account (⟨c, r⟩ :: told) [] none t (onC r t).2 ∧ ∀ q u,
      (next (onC r t).1 (onD q u).1).Follows account (⟨d, q⟩ :: ⟨c, r⟩ :: told) [] u (onD q u).2) ∧
    (∀ q t, account (⟨d, q⟩ :: told) [] none t (onD q t).2 ∧ ∀ r u,
      (next (onC r u).1 (onD q t).1).Follows account (⟨c, r⟩ :: ⟨d, q⟩ :: told) [] u (onC r u).2)

/-- A waiting action that has been told some replies will keep to an account. -/
def Pledged (account : Account σ α) : Action σ α → List Reply → Prop
  | .done _, _ => True
  | .call c next, told => ∀ r t, (next r).Follows account (⟨c, r⟩ :: told) [] t t
  | .tryAll cs next, told =>
    (∀ more t, Heard cs more none → account (more ++ told) [] none t t) ∧
    ∀ r more t, Heard cs more r.failure? → Replied more cs r →
      (next r).Follows account (more ++ told) [] t t
  | .both c d onC onD next, told =>
    (∀ r t, account (⟨c, r⟩ :: told) [] none t (onC r t).2 ∧ ∀ q u,
      (next (onC r t).1 (onD q u).1).Follows account (⟨d, q⟩ :: ⟨c, r⟩ :: told) [] u (onD q u).2) ∧
    (∀ q t, account (⟨d, q⟩ :: told) [] none t (onD q t).2 ∧ ∀ r u,
      (next (onC r u).1 (onD q t).1).Follows account (⟨c, r⟩ :: ⟨d, q⟩ :: told) [] u (onC r u).2)
  | _, _ => False

variable {account : Account σ α} {x y : Action σ α} {told : List Reply} {made : List Call}
  {s₀ s t : σ} {issues : List (Issue σ)}

theorem Advances.follows (h : x.Advances s issues y t)
    (follows : x.Follows account told made s₀ s) :
    account told (made ++ issues.map (·.call)) y.value? s₀ t ∧ y.Pledged account told := by
  induction h generalizing made with
  | done a =>
    rw [List.map_nil, List.append_nil]
    exact ⟨follows, trivial⟩
  | get _ ih | set _ ih => exact ih follows
  | save kept _ ih => exact ih (follows kept)
  | call c next s => exact follows
  | tryAll c cs next s =>
    obtain ⟨waits, pledged, -⟩ := follows
    have calls : ((c :: cs).map (⟨·, s⟩ : Call → Issue σ)).map (·.call) = c :: cs := by
      simp [Function.comp_def]
    rw [calls]
    exact ⟨waits (List.cons_ne_nil c cs), pledged⟩
  | tryNone _ ih => exact ih (follows.2.2.2 () rfl)
  | @tryFails cs part _ s _ _ _ e within tried _ ih =>
    have made := ih (follows.2.2.1 e part within tried)
    rw [List.map_append, List.map_map, ← List.append_assoc]
    simpa [Function.comp_def] using made
  | both c d onC onD next s => exact follows

/-- An answer to one of several calls comes before those to the others. -/
theorem Pledged.part {before after : List Call} {c : Call}
    {next : Outcome (Call.Answers (before ++ c :: after)) → Action σ α}
    (pledged : (Action.tryAll (before ++ c :: after) next).Pledged account told) (a : c.Answer) :
    (Action.tryAll (before ++ after) fun r => next (r.map (Call.Answers.insert before a))).Pledged
      account (⟨c, .ok a⟩ :: told) := by
  constructor
  · intro more t partly
    have turn := pledged.1 (more ++ [⟨c, .ok a⟩]) t partly.insert
    rwa [List.append_assoc] at turn
  · intro r more t all replied
    rw [← Outcome.failure?_map r (Call.Answers.insert before a)] at all
    have turn := pledged.2 _ _ t all.insert replied.insert
    rwa [List.append_assoc] at turn

theorem Takes.follows {reply : Reply} (h : x.Takes s reply issues y t)
    (pledged : x.Pledged account told) :
    account (reply :: told) (issues.map (·.call)) y.value? s t ∧
      y.Pledged account (reply :: told) := by
  cases h with
  | call r run => exact run.follows (pledged r s)
  | @tryFails _ c _ _ _ _ _ e mem run =>
    exact run.follows (pledged.2 (.error e) [⟨c, .error e⟩] s (.one mem _)
      ⟨c, mem, List.mem_cons_self⟩)
  | @tryLast c _ _ _ _ _ a run =>
    exact run.follows (pledged.2 (.ok (a, ())) [⟨c, .ok a⟩] s (.one List.mem_cons_self _)
      ⟨List.mem_cons_self, trivial⟩)
  | @tryPart before after c next s a more =>
    refine ⟨?_, pledged.part a⟩
    exact pledged.1 [⟨c, .ok a⟩] s (.one (List.mem_append_right _ List.mem_cons_self) (.ok a))
  | bothFirst r =>
    obtain ⟨turn, next⟩ := pledged.1 r s
    exact ⟨turn, next⟩
  | bothSecond q =>
    obtain ⟨turn, next⟩ := pledged.2 q s
    exact ⟨turn, next⟩

/-! ## Rules -/

/-- The account of an action with whose value another one goes on. -/
def followedBy (account : Account σ α) (f : β → Action σ α) : Account σ β :=
  fun told made value s t =>
    value.elim (account told made none s t) fun b => (f b).Follows account told made s t

@[simp] theorem follows_bind (x : Action σ β) (f : β → Action σ α) :
    (x.bind f).Follows account told made s₀ s ↔
      x.Follows (followedBy account f) told made s₀ s := by
  induction x generalizing told made s₀ s <;> simp_all [bind, Follows, followedBy]

@[simp] theorem follows_done (a : α) :
    (Action.done a).Follows account told made s₀ s ↔ account told made (some a) s₀ s :=
  Iff.rfl

@[simp] theorem follows_read (view : σ → α) :
    (read view).Follows account told made s₀ s ↔ account told made (some (view s)) s₀ s :=
  Iff.rfl

@[simp] theorem follows_request {c : Call} {account : Account σ (Outcome c.Answer)} :
    (request c).Follows account told made s₀ s ↔
      account told (made ++ [c]) none s₀ s ∧ ∀ r t, account (⟨c, r⟩ :: told) [] (some r) t t :=
  Iff.rfl

section
variable {τ : Type} {part : σ → τ} {replace : τ → σ → σ}

@[simp] theorem follows_update (f : τ → α × τ) :
    ((Action.update f).onPart part replace).Follows account told made s₀ s ↔
      account told made (some (f (part s)).1) s₀ (replace (f (part s)).2 s) :=
  Iff.rfl

@[simp] theorem follows_modify {account : Account σ Unit} (f : τ → τ) :
    ((Action.modify f).onPart part replace).Follows account told made s₀ s ↔
      account told made (some ()) s₀ (replace (f (part s)) s) :=
  Iff.rfl

end

theorem Follows.imp {account' : Account σ α} (follows : x.Follows account told made s₀ s)
    (more : ∀ {told made value u v}, account told made value u v → account' told made value u v) :
    x.Follows account' told made s₀ s := by
  induction x generalizing told made s₀ s with
  | done => exact more follows
  | get _ ih => exact ih _ follows
  | set _ _ ih => exact ih follows
  | save _ _ _ ih => exact fun kept => ih kept (follows kept)
  | call c _ ih => exact ⟨more follows.1, fun r t => ih r (follows.2 r t)⟩
  | tryAll cs _ ih =>
    obtain ⟨waits, ⟨partly, all⟩, fails, alone⟩ := follows
    exact ⟨fun some => more (waits some),
      ⟨fun told t heard => more (partly told t heard),
        fun r told t heard replied => ih r (all r told t heard replied)⟩,
      fun e part within tried => ih _ (fails e part within tried),
      fun as empty => ih _ (alone as empty)⟩
  | both c d _ _ _ ih =>
    obtain ⟨waits, first, second⟩ := follows
    exact ⟨more waits, fun r t => ⟨more (first r t).1, fun q u => ih _ _ ((first r t).2 q u)⟩,
      fun q t => ⟨more (second q t).1, fun r u => ih _ _ ((second q t).2 r u)⟩⟩

/-- An action keeps to an account that excludes nothing. -/
theorem Follows.any (holds : ∀ told made value u v, account told made value u v) :
    x.Follows account told made s₀ s := by
  induction x generalizing told made s₀ s with
  | done => exact holds ..
  | get _ ih => exact ih _
  | set _ _ ih => exact ih
  | save _ _ _ ih => exact fun kept => ih kept
  | call c _ ih => exact ⟨holds .., fun r t => ih r⟩
  | tryAll cs _ ih =>
    exact ⟨fun _ => holds .., ⟨fun _ _ _ => holds .., fun r _ _ _ _ => ih r⟩,
      fun e _ _ _ => ih _, fun as _ => ih _⟩
  | both c d _ _ _ ih =>
    exact ⟨holds .., fun r t => ⟨holds .., fun q u => ih _ _⟩,
      fun q t => ⟨holds .., fun r u => ih _ _⟩⟩

theorem Follows.bind {x : Action σ β} {f : β → Action σ α} {mid : Account σ β}
    (first : x.Follows mid told made s₀ s)
    (waits : ∀ {told made u v}, mid told made none u v → account told made none u v)
    (next : ∀ {told made b u v}, mid told made (some b) u v → (f b).Follows account told made u v) :
    (x.bind f).Follows account told made s₀ s := by
  rw [follows_bind]
  refine first.imp fun {told made value u v} turn => ?_
  cases value with
  | none => exact waits turn
  | some b => exact next turn

theorem Follows.attempt {x : Action σ (Outcome β)} {f : β → Action σ (Outcome α)}
    {account : Account σ (Outcome α)} {mid : Account σ (Outcome β)}
    (first : x.Follows mid told made s₀ s)
    (waits : ∀ {told made u v}, mid told made none u v → account told made none u v)
    (next : ∀ {told made b u v},
      mid told made (some (.ok b)) u v → (f b).Follows account told made u v)
    (fails : ∀ {told made e u v},
      mid told made (some (.error e)) u v → account told made (some (.error e)) u v) :
    (x.attempt f).Follows account told made s₀ s := by
  refine first.bind waits fun {told made r u v} turn => ?_
  cases r with
  | ok b => exact next turn
  | error e => exact fails turn

/-- A call with whose answer an action goes on, if it has not failed. -/
theorem follows_request_attempt {c : Call} {f : c.Answer → Action σ (Outcome α)}
    {account : Account σ (Outcome α)} (waits : account told (made ++ [c]) none s₀ s)
    (next : ∀ b t, (f b).Follows account (⟨c, .ok b⟩ :: told) [] t t)
    (fails : ∀ e t, account (⟨c, .error e⟩ :: told) [] (some (.error e)) t t) :
    ((request c).attempt f).Follows account told made s₀ s := by
  refine (follows_bind _ _).mpr (follows_request.mpr ⟨waits, fun r t => ?_⟩)
  cases r with
  | ok b => exact next b t
  | error e => exact fails e t

/-- Several calls at once: some have been answered, or all, or one has failed, maybe before the
others were made. -/
theorem follows_requestAll_bind {cs : List Call} (some : cs ≠ [])
    {f : Outcome (Call.Answers cs) → Action σ α} (waits : account told (made ++ cs) none s₀ s)
    (partly : ∀ more t, Heard cs more none → account (more ++ told) [] none t t)
    (all : ∀ r more t, Heard cs more r.failure? → Replied more cs r →
      (f r).Follows account (more ++ told) [] t t)
    (fails : ∀ e part, part <+: cs → part ≠ [] →
      (f (.error e)).Follows account told (made ++ part) s₀ s) :
    ((requestAll cs).bind f).Follows account told made s₀ s :=
  ⟨fun _ => waits, ⟨partly, all⟩, fails, fun _ empty => absurd empty some⟩

/-- The calls of a view that is left alone have been told of since. -/
def Since (calls : Call → Prop) (told now : List Reply) : Prop :=
  ∃ more, now = more ++ told ∧ ∀ reply ∈ more, calls reply.call

theorem Since.append {calls : Call → Prop} {told now : List Reply} (since : Since calls told now)
    {more : List Reply} (may : ∀ reply ∈ more, calls reply.call) :
    Since calls told (more ++ now) := by
  obtain ⟨between, rfl, all⟩ := since
  refine ⟨more ++ between, (List.append_assoc _ _ _).symm, fun reply mem => ?_⟩
  rcases List.mem_append.mp mem with mem | mem
  · exact may reply mem
  · exact all reply mem

theorem Since.cons {calls : Call → Prop} {told now : List Reply} (since : Since calls told now)
    {reply : Reply} (may : calls reply.call) : Since calls told (reply :: now) :=
  @Since.append calls told now since [reply] (by simpa using may)

/-- An action that leaves a view of the state alone and makes only some calls is told only the
answers to those. -/
theorem Confined.follows {view : σ → γ} {calls : Call → Prop}
    (quiet : x.Confined view fun c _ => calls c) (same : view s = view s₀)
    (asked : ∀ c ∈ made, calls c) :
    x.Follows (fun now made _ u v => view v = view u ∧ (∀ c ∈ made, calls c) ∧ Since calls told now)
      told made s₀ s := by
  suffices run : ∀ now made s₀ s,
      x.Obeys (.frame view fun c _ => calls c) (Unchanged view) s₀ s → (∀ c ∈ made, calls c) →
      Since calls told now → x.Follows (fun now made _ u v =>
        view v = view u ∧ (∀ c ∈ made, calls c) ∧ Since calls told now) now made s₀ s from
    run told made s₀ s (quiet.obeys s₀ s same) asked ⟨[], rfl, by simp⟩
  clear quiet same asked
  have nothing : ∀ c ∈ ([] : List Call), calls c := by simp
  have more {made cs : List Call} (asked : ∀ c ∈ made, calls c) (may : ∀ c ∈ cs, calls c) :
      ∀ c ∈ made ++ cs, calls c :=
    List.forall_mem_append.mpr ⟨asked, may⟩
  induction x with
  | done => exact fun _ _ _ _ obeys asked since => ⟨obeys, asked, since⟩
  | get _ ih => exact fun now made s₀ s obeys asked since => ih _ now made s₀ s obeys asked since
  | set u _ ih => exact fun now made s₀ _ obeys asked since => ih now made s₀ u obeys asked since
  | save _ _ _ ih =>
    exact fun now made s₀ s obeys asked since kept =>
      ih kept now made s₀ s (obeys kept) asked since
  | call c _ ih =>
    intro now made s₀ s ⟨(may : calls c), same, next⟩ asked since
    refine ⟨⟨same, more asked (by simpa using may), since⟩, fun r t => ?_⟩
    exact ih r _ [] t t (next r t trivial) nothing (since.cons may)
  | tryAll cs _ ih =>
    intro now made s₀ s ⟨may, same, next, fails, alone⟩ asked since
    have tells {told' : List Reply} {failed : Option PoolError} (heard : Heard cs told' failed) :
        Since calls told (told' ++ now) :=
      since.append fun reply mem => may _ (heard.calls reply mem)
    refine ⟨fun _ => ⟨same, more asked may, since⟩, ⟨fun told t heard => ?_, ?_⟩, ?_, ?_⟩
    · exact ⟨rfl, nothing, tells heard⟩
    · intro r told t heard _
      exact ih r _ [] t t (next r t trivial) nothing (tells heard)
    · intro e part within _
      exact ih _ now _ s₀ s (fails e) (more asked fun c mem => may c (within.subset mem)) since
    · intro as empty
      exact ih _ now made s₀ s (alone as empty) asked since
  | both c d onC onD _ ih =>
    intro now made s₀ s ⟨⟨(mayC : calls c), (mayD : calls d), same⟩, next⟩ asked since
    refine ⟨⟨same, more asked (by simp [mayC, mayD]), since⟩, fun r t => ?_, fun q t => ?_⟩
    · obtain ⟨step, rest⟩ := (next t trivial).1 r
      refine ⟨⟨step, nothing, since.cons mayC⟩, fun q u => ?_⟩
      exact ih _ _ _ [] u _ (rest u trivial q) nothing ((since.cons mayC).cons mayD)
    · obtain ⟨step, rest⟩ := (next t trivial).2 q
      refine ⟨⟨step, nothing, since.cons mayD⟩, fun r u => ?_⟩
      exact ih _ _ _ [] u _ (rest u trivial r) nothing ((since.cons mayD).cons mayC)

-- From here on the rules are used, as for loads.
attribute [irreducible] Follows

end Action

/-! ## Runs -/

variable {start : Console} {h : List Moment} {m : Moment} {w : World}

theorem repliesTo_of_fresh {n : Nat} (fresh : ∀ m ∈ h, m.strand < n) : repliesTo h n = [] := by
  refine List.eq_nil_iff_forall_not_mem.mpr fun reply mem => ?_
  obtain ⟨m, before, rfl, -⟩ := mem_repliesTo.mp mem
  exact Nat.lt_irrefl _ (fresh m before)

/-- The latest reply to an activity is the one that it goes on with. -/
theorem Run.head?_repliesTo (run : Run start (m :: h) w) :
    (repliesTo (m :: h) m.strand).head? = m.reply := by
  rw [repliesTo_cons]
  cases answered : m.reply with
  | some reply => rfl
  | none =>
    cases run with
    | next run step =>
      have begins : m.begins = true := congrArg Option.isNone answered
      rw [repliesTo_of_fresh (run.strand_fresh step begins)]
      rfl

section
variable {account : (a : Activity) → Account Console a.Result}

/-- An activity that keeps to an account when it begins keeps to it until it ends. -/
theorem Run.pledged_of {n : Nat} (run : Run start h w)
    (follows : ∀ m ∈ h, m.strand = n → m.begins = true →
      m.activity.action.Follows (account m.activity) [] [] m.before m.before) :
    (∀ later m earlier, h = later ++ m :: earlier → m.strand = n → account m.activity
      (repliesTo (m :: earlier) n) (m.issues.map (·.call)) m.rest.value? m.before m.after) ∧
    ∀ strand, w.strands[n]? = some strand →
      strand.rest.Pledged (account strand.activity) (repliesTo h n) := by
  induction run with
  | start => simp
  | @next h m v w run step ih =>
    obtain ⟨all, pledged⟩ := ih fun m' mem => follows m' (List.mem_cons_of_mem m mem)
    have here (at' : m.strand = n) : account m.activity (repliesTo (m :: h) n)
        (m.issues.map (·.call)) m.rest.value? m.before m.after ∧
        m.rest.Pledged (account m.activity) (repliesTo (m :: h) n) := by
      subst at'
      rw [repliesTo_cons]
      cases answered : m.reply with
      | none =>
        have begins : m.begins = true := congrArg Option.isNone answered
        rw [repliesTo_of_fresh (run.strand_fresh step begins)]
        exact (step.advances begins).follows (follows m List.mem_cons_self rfl begins)
      | some reply =>
        obtain ⟨x, there, takes⟩ := step.takes answered
        exact takes.follows (pledged _ there)
    constructor
    · intro later m' earlier split at'
      cases later with
      | nil =>
        cases split
        exact (here at').1
      | cons _ later =>
        obtain ⟨rfl, rfl⟩ := List.cons.inj split
        exact all later m' earlier rfl at'
    · intro strand there
      rcases step.strand_cases there with ⟨rfl, rfl⟩ | ⟨other, there⟩
      · exact (here rfl).2
      · rw [repliesTo_cons_of_ne other]
        exact pledged strand there

/-- Every activity that waits will keep to its account. -/
theorem Run.pledged (follows : ∀ (a : Activity) s, a.action.Follows (account a) [] [] s s)
    (run : Run start h w) :
    (∀ later m earlier, h = later ++ m :: earlier → account m.activity
      (repliesTo (m :: earlier) m.strand) (m.issues.map (·.call)) m.rest.value? m.before m.after) ∧
    ∀ (n : Nat) strand, w.strands[n]? = some strand →
      strand.rest.Pledged (account strand.activity) (repliesTo h n) := by
  have each (n : Nat) :=
    @Run.pledged_of _ _ _ account n run fun m _ _ _ => follows m.activity m.before
  exact ⟨fun later m earlier split => (each m.strand).1 later m earlier split rfl,
    fun n => (each n).2⟩

/-- Every moment of a run is as the account of its activity says. -/
theorem Run.accounts (follows : ∀ (a : Activity) s, a.action.Follows (account a) [] [] s s)
    {later earlier : List Moment} (run : Run start (later ++ m :: earlier) w) :
    account m.activity (repliesTo (m :: earlier) m.strand) (m.issues.map (·.call)) m.rest.value?
      m.before m.after :=
  (run.pledged follows).1 later m earlier rfl

end

end PoolConsole
