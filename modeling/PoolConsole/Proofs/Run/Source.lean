import PoolConsole.Proofs.Run.Past
import PoolConsole.Proofs.Run.Sequence

/-!
Where what a panel shows comes from.

* `Source`: what a load of a panel asks for, how it reads the answers, and which accepted calls make
  what is shown out of date.
* `Source.Stage`: how far an activity is with its load. It is a ghost: no action reads it, and
  `Source.Passage` says how it may move from one wait to the next.
* `Action.Loads`, `Action.Awaits`: a running and a waiting action move a panel by one load at most;
  `Action.Advances.loads` and `Action.Takes.loads` say that they then do so step by step.
-/

namespace PoolConsole

/-- What has been answered to some calls is among the replies. -/
def Answered (told : List Reply) : (cs : List Call) → Call.Answers cs → Prop
  | [], _ => True
  | c :: cs, as => ⟨c, .ok as.1⟩ ∈ told ∧ Answered told cs as.2

/-- What some calls together come to, by the replies: their answers, or the failure of one. -/
def Replied (told : List Reply) (cs : List Call) : Outcome (Call.Answers cs) → Prop
  | .ok as => Answered told cs as
  | .error e => ∃ c ∈ cs, ⟨c, .error e⟩ ∈ told

/-- One reply settles one call. -/
theorem Replied.one {c : Call} (r : Outcome c.Answer) :
    Replied [⟨c, r⟩] [c] (r.map fun a => (a, ())) := by
  cases r with
  | ok a => exact ⟨List.mem_cons_self, trivial⟩
  | error e => exact ⟨c, List.mem_cons_self, List.mem_cons_self⟩

theorem Answered.mono {told more : List Reply} (sub : told ⊆ more) {cs : List Call}
    {as : Call.Answers cs} (answered : Answered told cs as) : Answered more cs as := by
  induction cs with
  | nil => trivial
  | cons c cs ih => exact ⟨sub answered.1, ih answered.2⟩

theorem Replied.mono {told more : List Reply} (sub : told ⊆ more) {cs : List Call}
    {r : Outcome (Call.Answers cs)} (replied : Replied told cs r) : Replied more cs r := by
  cases r with
  | ok as => exact Answered.mono sub replied
  | error e =>
    obtain ⟨c, mem, failed⟩ := replied
    exact ⟨c, mem, sub failed⟩

theorem Answered.insert {told : List Reply} {c : Call} {a : c.Answer} (here : ⟨c, .ok a⟩ ∈ told)
    {before after : List Call} {as : Call.Answers (before ++ after)}
    (answered : Answered told (before ++ after) as) :
    Answered told (before ++ c :: after) (Call.Answers.insert before a as) := by
  induction before with
  | nil => exact ⟨here, answered⟩
  | cons b before ih => exact ⟨answered.1, ih answered.2⟩

/-- An answer that has come first completes those of the other calls. -/
theorem Replied.insert {told : List Reply} {c : Call} {a : c.Answer} {before after : List Call}
    {r : Outcome (Call.Answers (before ++ after))} (replied : Replied told (before ++ after) r) :
    Replied (told ++ [⟨c, .ok a⟩]) (before ++ c :: after)
      (r.map (Call.Answers.insert before a)) := by
  cases r with
  | ok as =>
    exact (Answered.mono (List.subset_append_left _ _) replied).insert
      (List.mem_append_right _ List.mem_cons_self)
  | error e =>
    obtain ⟨d, mem, failed⟩ := replied
    refine ⟨d, ?_, List.mem_append_left _ failed⟩
    rw [List.mem_append, List.mem_cons]
    exact (List.mem_append.mp mem).imp_right .inr

def Outcome.failure? {α : Type} : Outcome α → Option PoolError
  | .ok _ => none
  | .error e => some e

theorem Outcome.failure?_map {α β : Type} (r : Outcome α) (f : α → β) :
    Outcome.failure? (r.map f) = r.failure? := by
  cases r with
  | ok | error => rfl

def Reply.failure? (reply : Reply) : Option PoolError :=
  reply.outcome.failure?

/-- Some of the calls have been replied to; only the latest reply, which comes first, may be a
failure. -/
structure Heard (cs : List Call) (told : List Reply) (failed : Option PoolError) : Prop where
  calls : ∀ reply ∈ told, reply.call ∈ cs
  latest : ∃ reply, told.head? = some reply ∧ reply.failure? = failed
  earlier : ∀ reply ∈ told.tail, reply.failure? = none

namespace Heard

variable {cs before after : List Call} {c : Call} {told : List Reply} {failed : Option PoolError}

theorem one (mem : c ∈ cs) (r : Outcome c.Answer) : Heard cs [⟨c, r⟩] r.failure? :=
  ⟨by simpa using mem, ⟨_, rfl, rfl⟩, by simp⟩

theorem ne_nil (heard : Heard cs told failed) : told ≠ [] := by
  obtain ⟨reply, head, -⟩ := heard.latest
  rintro rfl
  cases head

/-- An answer that has come first comes before those to the other calls. -/
theorem insert {a : c.Answer} (heard : Heard (before ++ after) told failed) :
    Heard (before ++ c :: after) (told ++ [⟨c, .ok a⟩]) failed := by
  obtain ⟨latest, head, failed⟩ := heard.latest
  refine ⟨fun reply mem => ?_, ⟨latest, ?_, failed⟩, fun reply mem => ?_⟩
  · rw [List.mem_append, List.mem_singleton] at mem
    rw [List.mem_append, List.mem_cons]
    rcases mem with mem | rfl
    · exact (List.mem_append.mp (heard.calls reply mem)).imp_right .inr
    · exact .inr (.inl rfl)
  · rw [List.head?_append, head]
    rfl
  · rw [List.tail_append_of_ne_nil heard.ne_nil, List.mem_append, List.mem_singleton] at mem
    rcases mem with mem | rfl
    · exact heard.earlier reply mem
    · rfl

end Heard

structure Source (α : Type) where
  panel : Console → Panel α
  /-- What a load asks for. -/
  Query : Type
  calls : Query → List Call
  read : (query : Query) → Call.Answers (calls query) → α
  /-- What a load of an activity may ask for, by what has been accepted before and the state right
  after it has begun. -/
  asks : Activity → Query → List Reply → Console → Prop := fun _ _ _ _ => True
  /-- The calls that make what is shown out of date when they are accepted. -/
  writes : Call → Bool := fun _ => false
  /-- In which states there is nothing to load. -/
  blocked : Console → Prop := fun _ => False

namespace Source

variable {α : Type} (S : Source α)

/-- What a load that asks for something has come to, by the replies. -/
def Given (told : List Reply) (query : S.Query) (result : Outcome α) : Prop :=
  ∃ r, Replied told (S.calls query) r ∧ result = r.map (S.read query)

variable {S} in
theorem Given.mono {told more : List Reply} (sub : told ⊆ more) {query : S.Query}
    {result : Outcome α} (given : S.Given told query result) : S.Given more query result := by
  obtain ⟨r, replied, rfl⟩ := given
  exact ⟨r, replied.mono sub, rfl⟩

inductive Stage where
  /-- It has not begun. It has to, if something has been accepted that makes what is shown out of
  date. -/
  | ahead (accepted : List Reply)
  /-- It has a ticket, and what has been replied to the activity since. -/
  | loading (query : S.Query) (ticket : Ticket) (told : List Reply)
  | finished (query : S.Query) (result : Outcome α)

namespace Stage

variable {S}

def hear (reply : Reply) : S.Stage → S.Stage
  | ahead accepted => ahead (if reply.accepts S.writes then reply :: accepted else accepted)
  | loading query ticket told => loading query ticket (reply :: told)
  | finished query result => finished query result

/-- Replies are heard one by one, the latest of which comes first in the list. -/
def hearAll (told : List Reply) (stage : S.Stage) : S.Stage :=
  told.foldr hear stage

/-- What is shown goes out of date only while the load is ahead. -/
def Admits : S.Stage → Call → Prop
  | ahead _, _ => True
  | _, c => S.writes c = false

/-- No load is under way. -/
def Rests : S.Stage → Prop
  | loading _ _ _ => False
  | _ => True

/-- An activity may have come to its end: no load is under way, and none that it has to make is
ahead, unless there is nothing to load. -/
def Ended : S.Stage → Console → Prop
  | ahead accepted, s => accepted ≠ [] → S.blocked s
  | loading _ _ _, _ => False
  | finished _ _, _ => True

theorem Admits.of_harmless {stage : S.Stage} {c : Call} (harmless : S.writes c = false) :
    stage.Admits c := by
  cases stage with
  | ahead => trivial
  | loading | finished => exact harmless

theorem Admits.hear {stage : S.Stage} {c : Call} (admits : stage.Admits c) (reply : Reply) :
    (stage.hear reply).Admits c := by
  cases stage with
  | ahead => trivial
  | loading | finished => exact admits

theorem Rests.hear {stage : S.Stage} (rests : stage.Rests) {c : Call}
    (harmless : S.writes c = false) (r : Outcome c.Answer) : stage.hear ⟨c, r⟩ = stage := by
  cases stage with
  | ahead accepted =>
    rw [Stage.hear, if_neg (by rw [Reply.accepts_of_harmless harmless r]; nofun)]
  | loading => exact rests.elim
  | finished => rfl

theorem Rests.hearAll {stage : S.Stage} (rests : stage.Rests) {told : List Reply}
    (harmless : ∀ reply ∈ told, S.writes reply.call = false) : stage.hearAll told = stage := by
  induction told with
  | nil => rfl
  | cons reply told ih =>
    have before := ih fun r mem => harmless r (List.mem_cons_of_mem _ mem)
    rw [Stage.hearAll, List.foldr_cons, ← Stage.hearAll, before]
    exact rests.hear (harmless reply List.mem_cons_self) reply.outcome

theorem hearAll_append (told : List Reply) (reply : Reply) (stage : S.Stage) :
    stage.hearAll (told ++ [reply]) = (stage.hear reply).hearAll told := by
  rw [hearAll, List.foldr_append]
  rfl

theorem hearAll_loading (told before : List Reply) (query : S.Query) (ticket : Ticket) :
    (loading query ticket before).hearAll told = loading query ticket (told ++ before) := by
  induction told with
  | nil => rfl
  | cons reply told ih =>
    rw [hearAll, List.foldr_cons, ← hearAll, ih]
    rfl

end Stage

/-- What one activity may do to its load and to the panel from one wait to the next, or to the
end. The calls are those of the wait. -/
inductive Passage (a : Activity) : S.Stage → Console → List Call → Console → S.Stage → Prop where
  | kept {stage s cs t} : S.panel t = S.panel s → Passage a stage s cs t stage
  | begins {accepted s cs t} (query : S.Query) :
      S.panel t = (S.panel s).begin.2 → S.asks a query accepted t → S.calls query ⊆ cs →
      Passage a (.ahead accepted) s cs t (.loading query (S.panel s).begin.1 [])
  | takes {query ticket told s cs t} (result : Outcome α) :
      S.panel t = ((S.panel s).complete ticket result).2 → S.Given told query result →
      Passage a (.loading query ticket told) s cs t (.finished query result)
  /-- Of several calls one may fail before the others are made. -/
  | fails {accepted s cs t} (query : S.Query) (e : PoolError) :
      1 < (S.calls query).length →
      S.panel t = ((S.panel s).begin.2.complete (S.panel s).begin.1 (.error e)).2 →
      Passage a (.ahead accepted) s cs t (.finished query (.error e))

/-- How a load that makes several calls ends: one has failed before the others were made, or what
they have come to is taken over, in time or too late. -/
inductive Loaded (query : S.Query) :
    Outcome LoadOutcome → S.Stage → Console → Console → Prop where
  | atOnce {accepted s t} (e : PoolError) :
      S.panel t = ((S.panel s).begin.2.complete (S.panel s).begin.1 (.error e)).2 →
      Loaded query ((S.panel s).begin.2.complete (S.panel s).begin.1 (.error e)).1
        (.ahead accepted) s t
  | answered {ticket told s t} (r : Outcome (Call.Answers (S.calls query))) :
      Heard (S.calls query) told r.failure? → S.Given told query (r.map (S.read query)) →
      S.panel t = ((S.panel s).complete ticket (r.map (S.read query))).2 →
      Loaded query ((S.panel s).complete ticket (r.map (S.read query))).1
        (.loading query ticket told) s t

/-- How an activity may end. -/
def Ends (a : Activity) (stage : S.Stage) (s t : Console) : Prop :=
  ∃ stage', S.Passage a stage s [] t stage' ∧ stage'.Ended t

variable {S} in
/-- Where no load has begun, only what is shown matters. -/
theorem Passage.move {a : Activity} {stage stage' : S.Stage} {s t u : Console} {cs cs' : List Call}
    (passage : S.Passage a stage s cs t stage') (rests : stage'.Rests)
    (same : S.panel u = S.panel t) : S.Passage a stage s cs' u stage' := by
  cases passage with
  | kept kept => exact .kept (same.trans kept)
  | begins => exact rests.elim
  | takes result taken given => exact .takes result (same.trans taken) given
  | fails query e several failed => exact .fails query e several (same.trans failed)

theorem Stage.Ended.rests {S : Source α} {stage : S.Stage} {s : Console} (ended : stage.Ended s) :
    stage.Rests := by
  cases stage with
  | ahead | finished => trivial
  | loading => exact ended

variable {S} in
/-- An activity may end with its load. -/
theorem Loaded.ends {a : Activity} {query : S.Query} {r : Outcome LoadOutcome} {stage : S.Stage}
    {s t : Console} (several : 1 < (S.calls query).length) (loaded : S.Loaded query r stage s t) :
    S.Ends a stage s t := by
  cases loaded with
  | atOnce e failed => exact ⟨_, .fails query e several failed, trivial⟩
  | answered r _ given taken => exact ⟨_, .takes _ taken given, trivial⟩

variable {S} in
/-- An activity of which nothing has been accepted may end without a load. -/
theorem Ends.of_kept {a : Activity} {s t : Console} (same : S.panel t = S.panel s) :
    S.Ends a (.ahead []) s t :=
  ⟨_, .kept same, fun some => absurd rfl some⟩

/-- What an activity ends with that makes a change and loads the panel afterwards: the change has
failed, or what the load has come to decides. -/
inductive Rereads {β : Type} (query : S.Query)
    (conclude : Outcome LoadOutcome → Console → Outcome β) :
    Outcome β → S.Stage → Console → Console → Prop where
  | refused {s t} (e : PoolError) : S.panel t = S.panel s →
    Rereads query conclude (.error e) (.ahead []) s t
  | loaded {r stage s t} : S.Loaded query r stage s t →
    Rereads query conclude (conclude r t) stage s t

variable {S} in
theorem Rereads.ends {β : Type} {a : Activity} {query : S.Query}
    {conclude : Outcome LoadOutcome → Console → Outcome β} {r : Outcome β} {stage : S.Stage}
    {s t : Console} (several : 1 < (S.calls query).length)
    (rereads : S.Rereads query conclude r stage s t) : S.Ends a stage s t := by
  cases rereads with
  | refused e same => exact .of_kept same
  | loaded loaded => exact loaded.ends several

variable {S} in
/-- An activity may also end with a change of something else. -/
theorem Ends.move {a : Activity} {stage : S.Stage} {s t u : Console} (ends : S.Ends a stage s t)
    (same : S.panel u = S.panel t) (blocked : S.blocked t → S.blocked u) : S.Ends a stage s u := by
  obtain ⟨stage', passage, ended⟩ := ends
  refine ⟨stage', passage.move ended.rests same, ?_⟩
  cases stage' with
  | ahead => exact fun some => blocked (ended some)
  | loading => exact ended
  | finished => trivial

/-! ## Waits -/

section
variable (a : Activity)

/-- What follows an answer follows it from the stage that the answer leads to. -/
def AwaitsOne (c : Call) (next : Outcome c.Answer → S.Stage → Console → Prop)
    (stage : S.Stage) : Prop :=
  stage.Admits c ∧ ∀ r t, next r (stage.hear ⟨c, r⟩) t

def AwaitsAll (cs : List Call) (next : Outcome (Call.Answers cs) → S.Stage → Console → Prop)
    (stage : S.Stage) : Prop :=
  (∀ c ∈ cs, stage.Admits c) ∧ ∀ told r t, Heard cs told r.failure? → Replied told cs r →
    next r (stage.hearAll told) t

/-- The first answer is taken over when it arrives, and the second one ends the wait. -/
def AwaitsBoth (c d : Call) (onC : Outcome c.Answer → Console → Outcome LoadOutcome × Console)
    (onD : Outcome d.Answer → Console → Outcome LoadOutcome × Console)
    (next : Outcome LoadOutcome → Outcome LoadOutcome → S.Stage → Console → Console → Prop)
    (stage : S.Stage) : Prop :=
  (stage.Admits c ∧ stage.Admits d) ∧
  (∀ r t, ∃ stage', S.Passage a (stage.hear ⟨c, r⟩) t [] (onC r t).2 stage' ∧
    S.AwaitsOne d (fun q stage u => next (onC r t).1 (onD q u).1 stage u (onD q u).2) stage') ∧
  ∀ q t, ∃ stage', S.Passage a (stage.hear ⟨d, q⟩) t [] (onD q t).2 stage' ∧
    S.AwaitsOne c (fun r stage u => next (onC r u).1 (onD q t).1 stage u (onC r u).2) stage'

variable {a} {c d : Call} {onC : Outcome c.Answer → Console → Outcome LoadOutcome × Console}
  {onD : Outcome d.Answer → Console → Outcome LoadOutcome × Console}
  {next : Outcome LoadOutcome → Outcome LoadOutcome → S.Stage → Console → Console → Prop}

variable {S} in
theorem AwaitsBoth.swap {stage : S.Stage} (awaits : S.AwaitsBoth a c d onC onD next stage) :
    S.AwaitsBoth a d c onD onC (fun q r => next r q) stage :=
  ⟨awaits.1.symm, awaits.2.2, awaits.2.1⟩

/-- Of two calls one loads the panel and the other leaves it alone, whichever is answered first. -/
theorem awaitsBoth_of_loading {query : S.Query} {ticket : Ticket} (harmlessC : S.writes c = false)
    (harmlessD : S.writes d = false)
    (takes : ∀ r t, ∃ result, S.panel (onC r t).2 = ((S.panel t).complete ticket result).2 ∧
      S.Given [⟨c, r⟩] query result)
    (keeps : ∀ q t, S.panel (onD q t).2 = S.panel t)
    (ends : ∀ {r q stage t u}, S.Ends a stage t u → next r q stage t u) :
    S.AwaitsBoth a c d onC onD next (.loading query ticket []) := by
  refine ⟨⟨.of_harmless harmlessC, .of_harmless harmlessD⟩, fun r t => ?_, fun q t => ?_⟩
  · obtain ⟨result, taken, given⟩ := takes r t
    refine ⟨.finished query result, .takes result taken given, .of_harmless harmlessD,
      fun q u => ?_⟩
    exact ends ⟨_, .kept (keeps q u), trivial⟩
  · refine ⟨_, .kept (keeps q t), .of_harmless harmlessC, fun r u => ?_⟩
    obtain ⟨result, taken, given⟩ := takes r u
    have heard : [⟨c, r⟩] ⊆ ([⟨c, r⟩, ⟨d, q⟩] : List Reply) :=
      List.cons_subset_cons _ (List.nil_subset _)
    exact ends ⟨_, .takes result taken (given.mono heard), trivial⟩

end

end Source

namespace Action

variable {α β γ : Type} {S : Source α} {a : Activity}

/-- An action that has come from one state to another since its last wait, at a stage of its load,
moves the panel by at most one load; what it ends with has to fit the stage and the states between
which it has made its last step. -/
def Loads (S : Source α) (a : Activity) (post : β → S.Stage → Console → Console → Prop) :
    Action Console β → S.Stage → Console → Console → Prop
  | .done b, stage, s₀, s => post b stage s₀ s
  | .get next, stage, s₀, s => (next s).Loads S a post stage s₀ s
  | .set u next, stage, s₀, _ => next.Loads S a post stage s₀ u
  | .save _ _ next, stage, s₀, s => ∀ kept, (next kept).Loads S a post stage s₀ s
  | .call c next, stage, s₀, s =>
    ∃ stage', S.Passage a stage s₀ [c] s stage' ∧
      S.AwaitsOne c (fun r stage t => (next r).Loads S a post stage t t) stage'
  | .tryAll cs next, stage, s₀, s =>
    (∃ stage', S.Passage a stage s₀ cs s stage' ∧
      S.AwaitsAll cs (fun r stage t => (next r).Loads S a post stage t t) stage') ∧
    (∀ e, (next (.error e)).Loads S a post stage s₀ s) ∧
    (∀ as, cs = [] → (next (.ok as)).Loads S a post stage s₀ s)
  | .both c d onC onD next, stage, s₀, s =>
    ∃ stage', S.Passage a stage s₀ [c, d] s stage' ∧
      S.AwaitsBoth a c d onC onD (fun r q stage t u => (next r q).Loads S a post stage t u) stage'

/-- A waiting action will move the panel by at most one load, whatever it is answered. -/
def Awaits (S : Source α) (a : Activity) (post : β → S.Stage → Console → Console → Prop) :
    Action Console β → S.Stage → Prop
  | .done _, _ => True
  | .call c next, stage =>
    S.AwaitsOne c (fun r stage t => (next r).Loads S a post stage t t) stage
  | .tryAll cs next, stage =>
    S.AwaitsAll cs (fun r stage t => (next r).Loads S a post stage t t) stage
  | .both c d onC onD next, stage =>
    S.AwaitsBoth a c d onC onD (fun r q stage t u => (next r q).Loads S a post stage t u) stage
  | _, _ => False

inductive Lands (S : Source α) (a : Activity) (post : β → S.Stage → Console → Console → Prop)
    (stage : S.Stage) (s : Console) (issues : List (Issue Console)) (t : Console) :
    Action Console β → Prop where
  | waits {y} (stage' : S.Stage) (cs : List Call) :
      y.value? = none → S.Passage a stage s cs t stage' → (∀ c ∈ cs, ⟨c, t⟩ ∈ issues) →
      y.Awaits S a post stage' → Lands S a post stage s issues t y
  | ends (b : β) : post b stage s t → Lands S a post stage s issues t (.done b)

variable {post : β → S.Stage → Console → Console → Prop} {x y : Action Console β}
  {stage : S.Stage} {s₀ s t : Console} {issues : List (Issue Console)}

theorem Lands.after (lands : y.Lands S a post stage s issues t) (before : List (Issue Console)) :
    y.Lands S a post stage s (before ++ issues) t := by
  cases lands with
  | waits stage' cs unfinished passage issued awaits =>
    exact .waits stage' cs unfinished passage
      (fun c mem => List.mem_append_right _ (issued c mem)) awaits
  | ends b post => exact .ends b post

theorem Advances.loads (h : x.Advances s issues y t) (loads : x.Loads S a post stage s₀ s) :
    y.Lands S a post stage s₀ issues t := by
  induction h with
  | done b => exact .ends b loads
  | get _ ih | set _ ih => exact ih loads
  | save kept _ ih => exact ih (loads kept)
  | call c next s =>
    obtain ⟨stage', passage, awaits⟩ := loads
    exact .waits stage' [c] rfl passage (by simp) awaits
  | tryAll c cs next s =>
    obtain ⟨⟨stage', passage, awaits⟩, _⟩ := loads
    exact .waits stage' (c :: cs) rfl passage (fun c mem => List.mem_map_of_mem mem) awaits
  | tryNone _ ih => exact ih (loads.2.2 () rfl)
  | tryFails e _ _ _ ih => exact (ih (loads.2.1 e)).after _
  | both c d onC onD next s =>
    obtain ⟨stage', passage, awaits⟩ := loads
    exact .waits stage' [c, d] rfl passage (by simp) awaits

theorem Takes.loads {reply : Reply} (h : x.Takes s reply issues y t)
    (awaits : x.Awaits S a post stage) : y.Lands S a post (stage.hear reply) s issues t := by
  cases h with
  | call r run => exact run.loads (awaits.2 r s)
  | @tryFails _ c _ _ _ _ _ e mem run =>
    exact run.loads (awaits.2 [⟨c, .error e⟩] (.error e) s (.one mem _)
      ⟨c, mem, List.mem_cons_self⟩)
  | @tryLast c _ _ _ _ _ answer run =>
    exact run.loads (awaits.2 [⟨c, .ok answer⟩] (.ok (answer, ())) s (.one List.mem_cons_self _)
      ⟨List.mem_cons_self, trivial⟩)
  | @tryPart before after c next s answer more =>
    have others {d : Call} (mem : d ∈ before ++ after) : d ∈ before ++ c :: after := by
      rw [List.mem_append, List.mem_cons]
      exact (List.mem_append.mp mem).imp_right .inr
    refine .waits _ [] rfl (.kept rfl) (by simp) ⟨fun d mem => ?_, fun told r t heard replied => ?_⟩
    · exact (awaits.1 d (others mem)).hear _
    · -- What the remaining calls come to is put together with the answer that is here already.
      rw [← r.failure?_map (Call.Answers.insert before answer)] at heard
      rw [← Source.Stage.hearAll_append]
      exact awaits.2 _ _ t heard.insert replied.insert
  | bothFirst r =>
    obtain ⟨stage', passage, next⟩ := awaits.2.1 r s
    exact .waits stage' [] rfl passage (by simp) next
  | bothSecond q =>
    obtain ⟨stage', passage, next⟩ := awaits.2.2 q s
    exact .waits stage' [] rfl passage (by simp) next

/-- What makes the panel out of date is awaited only while the load is ahead. -/
theorem Awaits.admits (awaits : x.Awaits S a post stage) {c : Call} (mem : c ∈ x.awaited) :
    stage.Admits c := by
  cases x with
  | done | get | set | save => simp [awaited] at mem
  | call d next =>
    rw [awaited, List.mem_singleton] at mem
    subst mem
    exact awaits.1
  | tryAll cs next => exact awaits.1 c mem
  | both d e onD onE next =>
    simp only [awaited, List.mem_cons, List.not_mem_nil, or_false] at mem
    rcases mem with rfl | rfl
    · exact awaits.1.1
    · exact awaits.1.2

/-! ## Rules -/

@[simp] theorem loads_bind (x : Action Console γ) (f : γ → Action Console β) :
    (x.bind f).Loads S a post stage s₀ s ↔
      x.Loads S a (fun c stage u v => (f c).Loads S a post stage u v) stage s₀ s := by
  induction x generalizing stage s₀ s <;> simp_all [bind, Loads]

@[simp] theorem loads_done (b : β) :
    (Action.done b).Loads S a post stage s₀ s ↔ post b stage s₀ s :=
  Iff.rfl

@[simp] theorem loads_read (view : Console → β) :
    (read view).Loads S a post stage s₀ s ↔ post (view s) stage s₀ s :=
  Iff.rfl

section
variable {τ : Type} {part : Console → τ} {replace : τ → Console → Console}

@[simp] theorem loads_update (f : τ → β × τ) :
    ((Action.update f).onPart part replace).Loads S a post stage s₀ s ↔
      post (f (part s)).1 stage s₀ (replace (f (part s)).2 s) :=
  Iff.rfl

@[simp] theorem loads_modify {post : Unit → S.Stage → Console → Console → Prop} (f : τ → τ) :
    ((Action.modify f).onPart part replace).Loads S a post stage s₀ s ↔
      post () stage s₀ (replace (f (part s)) s) :=
  Iff.rfl

end

/-- A load that makes one call begins. -/
theorem loads_request (query : S.Query) {c : Call} {accepted : List Reply}
    {post : Outcome c.Answer → S.Stage → Console → Console → Prop}
    (begun : S.panel s = (S.panel s₀).begin.2) (asks : S.asks a query accepted s)
    (calls : S.calls query ⊆ [c]) (harmless : S.writes c = false)
    (taken : ∀ r t, post r (.loading query (S.panel s₀).begin.1 [⟨c, r⟩]) t t) :
    (request c).Loads S a post (.ahead accepted) s₀ s :=
  ⟨_, .begins query begun asks calls, .of_harmless harmless, taken⟩

/-- A load that makes several calls begins, one of which may fail at once. -/
theorem loads_requestAll (query : S.Query) {accepted : List Reply}
    {post : Outcome (Call.Answers (S.calls query)) → S.Stage → Console → Console → Prop}
    (begun : S.panel s = (S.panel s₀).begin.2) (asks : S.asks a query accepted s)
    (harmless : ∀ c ∈ S.calls query, S.writes c = false) (some : S.calls query ≠ [])
    (taken : ∀ r told t, Heard (S.calls query) told r.failure? →
      S.Given told query (r.map (S.read query)) →
      post r (.loading query (S.panel s₀).begin.1 told) t t)
    (failed : ∀ e, post (.error e) (.ahead accepted) s₀ s) :
    (requestAll (S.calls query)).Loads S a post (.ahead accepted) s₀ s := by
  refine ⟨⟨_, .begins query begun asks (List.Subset.refl _),
    fun c mem => .of_harmless (harmless c mem), fun told r t heard replied => ?_⟩, failed,
    fun _ empty => absurd empty some⟩
  rw [Source.Stage.hearAll_loading, List.append_nil]
  exact taken r told t heard ⟨r, replied, rfl⟩

/-- A load that makes two calls begins; each is taken over when it is answered. -/
theorem loads_both (query : S.Query) {c d : Call} {accepted : List Reply}
    {onC : Outcome c.Answer → Console → Outcome LoadOutcome × Console}
    {onD : Outcome d.Answer → Console → Outcome LoadOutcome × Console}
    {next : Outcome LoadOutcome → Outcome LoadOutcome → Action Console β}
    (begun : S.panel s = (S.panel s₀).begin.2) (asks : S.asks a query accepted s)
    (calls : S.calls query ⊆ [c, d])
    (awaits : S.AwaitsBoth a c d onC onD (fun r q stage t u => (next r q).Loads S a post stage t u)
      (.loading query (S.panel s₀).begin.1 [])) :
    (Action.both c d onC onD next).Loads S a post (.ahead accepted) s₀ s :=
  ⟨_, .begins query begun asks calls, awaits⟩

theorem Loads.imp {post' : β → S.Stage → Console → Console → Prop}
    (loads : x.Loads S a post stage s₀ s)
    (ends : ∀ {b stage u v}, post b stage u v → post' b stage u v) :
    x.Loads S a post' stage s₀ s := by
  induction x generalizing stage s₀ s with
  | done => exact ends loads
  | get _ ih => exact ih _ loads
  | set _ _ ih => exact ih loads
  | save _ _ _ ih => exact fun kept => ih kept (loads kept)
  | call c _ ih =>
    obtain ⟨stage', passage, admits, next⟩ := loads
    exact ⟨stage', passage, admits, fun r t => ih r (next r t)⟩
  | tryAll cs _ ih =>
    obtain ⟨⟨stage', passage, admits, next⟩, fails, alone⟩ := loads
    exact ⟨⟨stage', passage, admits,
        fun told r t calls replied => ih r (next told r t calls replied)⟩,
      fun e => ih _ (fails e), fun as empty => ih _ (alone as empty)⟩
  | both c d _ _ _ ih =>
    obtain ⟨stage', passage, admits, first, second⟩ := loads
    refine ⟨stage', passage, admits, fun r t => ?_, fun q t => ?_⟩
    · obtain ⟨next, step, admits, rest⟩ := first r t
      exact ⟨next, step, admits, fun q u => ih _ _ (rest q u)⟩
    · obtain ⟨next, step, admits, rest⟩ := second q t
      exact ⟨next, step, admits, fun r u => ih _ _ (rest r u)⟩

theorem Loads.bind {x : Action Console γ} {f : γ → Action Console β}
    {mid : γ → S.Stage → Console → Console → Prop} (first : x.Loads S a mid stage s₀ s)
    (next : ∀ {c stage u v}, mid c stage u v → (f c).Loads S a post stage u v) :
    (x.bind f).Loads S a post stage s₀ s := by
  rw [loads_bind]
  exact first.imp next

theorem Loads.attempt {x : Action Console (Outcome γ)} {f : γ → Action Console (Outcome β)}
    {mid : Outcome γ → S.Stage → Console → Console → Prop}
    {post : Outcome β → S.Stage → Console → Console → Prop}
    (first : x.Loads S a mid stage s₀ s)
    (next : ∀ {c stage u v}, mid (.ok c) stage u v → (f c).Loads S a post stage u v)
    (fails : ∀ {e stage u v}, mid (.error e) stage u v → post (.error e) stage u v) :
    (x.attempt f).Loads S a post stage s₀ s := by
  refine first.bind fun {r stage u v} holds => ?_
  cases r with
  | ok c => exact next holds
  | error e => exact fails holds

/-- What makes the panel out of date may be called for while the load is ahead. -/
theorem loads_write {c : Call} {accepted : List Reply}
    {post : Outcome c.Answer → S.Stage → Console → Console → Prop}
    (same : S.panel s = S.panel s₀) (next : ∀ b t,
      post (.ok b) (.ahead (if S.writes c then ⟨c, .ok b⟩ :: accepted else accepted)) t t)
    (refused : ∀ e t, post (.error e) (.ahead accepted) t t) :
    (request c).Loads S a post (.ahead accepted) s₀ s := by
  refine ⟨.ahead accepted, .kept same, trivial, fun r t => ?_⟩
  cases r with
  | ok b => exact next b t
  | error e => exact refused e t

/-- Once it is accepted the activity goes on. -/
theorem loads_write_attempt {c : Call} {accepted : List Reply}
    {f : c.Answer → Action Console (Outcome β)}
    {post : Outcome β → S.Stage → Console → Console → Prop} (same : S.panel s = S.panel s₀)
    (next : ∀ b t, (f b).Loads S a post
      (.ahead (if S.writes c then ⟨c, .ok b⟩ :: accepted else accepted)) t t)
    (refused : ∀ e t, post (.error e) (.ahead accepted) t t) :
    ((request c).attempt f).Loads S a post (.ahead accepted) s₀ s :=
  (loads_bind _ _).mpr (loads_write same next refused)

/-- What leaves the panel alone and makes nothing out of date leaves the load at its stage. -/
theorem Confined.loads {x : Action Console β}
    (quiet : x.Confined S.panel fun c _ => S.writes c = false) {stage stage' : S.Stage}
    {s₀ s : Console} (passage : S.Passage a stage s₀ [] s stage') (rests : stage'.Rests) :
    x.Loads S a (fun _ stage u v => S.Passage a stage u [] v stage') stage s₀ s := by
  suffices run : ∀ stage s₀ s₁ s,
      x.Obeys (.frame S.panel fun c _ => S.writes c = false) (Unchanged S.panel) s₁ s →
      (∀ u, S.panel u = S.panel s₁ → S.Passage a stage s₀ [] u stage') →
      x.Loads S a (fun _ stage u v => S.Passage a stage u [] v stage') stage s₀ s from
    run stage s₀ s s (quiet.obeys s s rfl) fun u same => passage.move rests same
  clear passage quiet stage s₀ s
  -- From a wait on the load is where the passage has led.
  have here (t u : Console) (same : S.panel u = S.panel t) : S.Passage a stage' t [] u stage' :=
    .kept same
  induction x with
  | done => exact fun stage s₀ s₁ s same passage => passage s same
  | get _ ih => exact fun stage s₀ s₁ s obeys passage => ih _ stage s₀ s₁ s obeys passage
  | set _ _ ih => exact fun stage s₀ s₁ _ obeys passage => ih stage s₀ s₁ _ obeys passage
  | save _ _ _ ih =>
    exact fun stage s₀ s₁ s obeys passage kept => ih kept stage s₀ s₁ s (obeys kept) passage
  | call c _ ih =>
    intro stage s₀ s₁ s ⟨harmless, same, next⟩ passage
    refine ⟨stage', (passage s same).move rests rfl, .of_harmless harmless, fun r t => ?_⟩
    rw [rests.hear harmless r]
    exact ih r stage' t t t (next r t trivial) (here t)
  | tryAll cs _ ih =>
    intro stage s₀ s₁ s ⟨harmless, same, next, fails, alone⟩ passage
    refine ⟨⟨stage', (passage s same).move rests rfl, fun c mem => .of_harmless (harmless c mem),
      fun told r t heard _ => ?_⟩, fun e => ih _ stage s₀ s₁ s (fails e) passage,
      fun as empty => ih _ stage s₀ s₁ s (alone as empty) passage⟩
    rw [rests.hearAll fun reply mem => harmless _ (heard.calls reply mem)]
    exact ih r stage' t t t (next r t trivial) (here t)
  | both c d onC onD _ ih =>
    intro stage s₀ s₁ s ⟨⟨harmlessC, harmlessD, same⟩, next⟩ passage
    refine ⟨stage', (passage s same).move rests rfl,
      ⟨.of_harmless harmlessC, .of_harmless harmlessD⟩, fun r t => ?_, fun q t => ?_⟩
    · obtain ⟨step, rest⟩ := (next t trivial).1 r
      rw [rests.hear harmlessC r]
      refine ⟨stage', here _ _ step, .of_harmless harmlessD, fun q u => ?_⟩
      rw [rests.hear harmlessD q]
      exact ih _ _ stage' u u _ (rest u trivial q) (here u)
    · obtain ⟨step, rest⟩ := (next t trivial).2 q
      rw [rests.hear harmlessD q]
      refine ⟨stage', here _ _ step, .of_harmless harmlessC, fun r u => ?_⟩
      rw [rests.hear harmlessC r]
      exact ih _ _ stage' u u _ (rest u trivial r) (here u)

/-- An activity that leaves the panel alone and makes nothing out of date owes no load. -/
theorem Confined.ends {x : Action Console β}
    (quiet : x.Confined S.panel fun c _ => S.writes c = false) (s : Console) :
    x.Loads S a (fun _ stage u v => S.Ends a stage u v) (.ahead []) s s :=
  (quiet.loads (.kept rfl : S.Passage a _ s [] s (.ahead [])) trivial).imp fun passage =>
    ⟨_, passage, fun some => absurd rfl some⟩

-- From here on the rules are used; to unfold it would be to run the action on an unknown state.
attribute [irreducible] Loads

end Action

end PoolConsole
