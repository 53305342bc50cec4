import PoolConsole.Proofs.Run.Rereads

namespace PoolConsole

open PoolConsole.Action Console Operation

variable {start : Console} {h : List Moment} {m : Moment} {w : World}

/-! ## By the latest reply -/

section
variable {a : Activity} {told more : List Reply} {made : List Call} {ended : Bool}
  {failed : Option PoolError} {s t : Console} {c : Call} {reply : Reply}

/-- A failed read is not reported, or the reads end with the first failure, which may come before
any reply. -/
theorem Activity.ReadsBack.inv (back : a.ReadsBack more ended failed s t) :
    (a.reports = false ∧ failed = none) ∨
      (a.reports = true ∧ more = [] ∧ ended = failed.isSome) ∨
      (a.reports = true ∧ ∃ cs heard, Heard cs more heard ∧
        (ended = false → heard = none ∨ heard = failed)) := by
  have hears {α : Type} {S : Source α} {query : S.Query}
      (back : (more = [] ∧ ended = failed.isSome) ∨ HearsBack S query more ended s t) :
      (more = [] ∧ ended = failed.isSome) ∨ ∃ cs heard, Heard cs more heard ∧
        (ended = false → heard = none ∨ heard = failed) :=
    back.imp_right fun ⟨heard, replies, waits, _⟩ => ⟨_, heard, replies, fun on => .inl (waits on)⟩
  cases a with
  | session a =>
    cases a with
    | pauseAgent | resumeAgent =>
      rcases back with early | heard
      · exact .inr (.inl ⟨rfl, early⟩)
      · exact .inr (.inr ⟨rfl, _, failed, heard, fun _ => .inr rfl⟩)
    | _ => exact .inl ⟨rfl, back⟩
  | nodes a =>
    cases a with
    | setCordoned | delete | addLabel =>
      rcases hears back with early | heard
      · exact .inr (.inl ⟨rfl, early⟩)
      · exact .inr (.inr ⟨rfl, heard⟩)
    | _ => exact .inl ⟨rfl, back⟩
  | jobs | wizard | views => exact .inl ⟨rfl, back⟩

namespace Fate

/-- Before the first reply. -/
theorem beginning (fate : Fate a told made ended failed s t) (fresh : told.head? = none) :
    (∃ e, e.Refuses ∧ made = [] ∧ ended = true ∧ failed = some e ∧ t = s) ∨
      ∃ c, a.Makes c ∧ made = [c] ∧ ended = false := by
  cases fate with
  | refused e refuses => exact .inl ⟨e, refuses, rfl, rfl, rfl, rfl⟩
  | makes c makes => exact .inr ⟨c, makes, rfl, rfl⟩
  | rejected => cases fresh
  | accepted c b more => simp at fresh

/-- After the first reply nothing is changed. -/
theorem harmless (fate : Fate a told made ended failed s t) (some : told ≠ []) :
    ∀ c ∈ made, c.writes = false := by
  cases fate with
  | refused | makes => exact absurd rfl some
  | rejected => simp
  | accepted _ _ _ _ _ reads => exact reads

/-- The change has failed. -/
theorem of_error {e : PoolError} (fate : Fate a told made ended failed s t)
    (head : told.head? = some ⟨c, .error e⟩) (writes : c.writes = true) :
    made = [] ∧ failed = some e := by
  cases fate with
  | refused | makes => cases head
  | rejected =>
    cases head
    exact ⟨rfl, rfl⟩
  | accepted _ b more _ since =>
    cases more with
    | nil => cases head
    | cons reply more =>
      cases head
      rw [since _ List.mem_cons_self] at writes
      cases writes

/-- The change has been accepted. -/
theorem of_ok {b : c.Answer} (fate : Fate a told made ended failed s t)
    (head : told.head? = some ⟨c, .ok b⟩) (writes : c.writes = true) :
    a.ReadsBack [] ended failed s t := by
  cases fate with
  | refused | makes | rejected => cases head
  | accepted _ b more _ since _ back =>
    cases more with
    | nil => exact back
    | cons reply more =>
      cases head
      rw [since _ List.mem_cons_self] at writes
      cases writes

/-- One of the reads has been replied to. -/
theorem of_read (fate : Fate a told made ended failed s t) (head : told.head? = some reply)
    (harmless : reply.call.writes = false) :
    ∃ c b more, told = reply :: more ++ [⟨c, .ok b⟩] ∧ a.Makes c ∧
      a.ReadsBack (reply :: more) ended failed s t := by
  cases fate with
  | refused | makes => cases head
  | rejected c e makes =>
    cases head
    rw [makes.writes] at harmless
    cases harmless
  | accepted c b more makes since _ back =>
    cases more with
    | nil =>
      cases head
      rw [makes.writes] at harmless
      cases harmless
    | cons first more =>
      cases head
      exact ⟨c, b, more, rfl, makes, back⟩

end Fate

/-- In the moment in which a change is accepted the activity ends with a failure only if a read has
failed at once and that is reported. -/
theorem Activity.ReadsBack.atOnce (back : a.ReadsBack [] ended failed s t) :
    failed.isSome = (a.reports && ended) := by
  rcases back.inv with ⟨quiet, rfl⟩ | ⟨reports, -, rfl⟩ | ⟨-, cs, heard, replies, -⟩
  · rw [quiet]
    rfl
  · rw [reports]
    rfl
  · exact absurd rfl replies.ne_nil

/-- An activity that reports a failed read waits for more replies only if none has failed. -/
theorem Activity.ReadsBack.waiting (back : a.ReadsBack (reply :: more) false none s t)
    (reports : a.reports = true) : reply.failure? = none := by
  rcases back.inv with ⟨quiet, -⟩ | ⟨-, empty, -⟩ | ⟨-, cs, heard, replies, waits⟩
  · rw [reports] at quiet
    cases quiet
  · cases empty
  · obtain ⟨first, head, failed⟩ := replies.latest
    cases head
    rw [failed]
    exact (waits rfl).elim id id

/-- An activity that has ended has been refused or its change has failed, or the change has been
accepted. -/
theorem Fate.settled (fate : Fate a told made true failed s t) :
    (failed.isSome = true ∧ told.filter (Reply.accepts Call.writes) = [] ∧
      (told = [] ∨ ∃ c e, a.Makes c ∧ ⟨c, .error e⟩ ∈ told)) ∨
    ((∃ reply, told.head? = some reply ∧ (reply.call.writes = true → reply.failure? = none)) ∧
      ∀ c e, a.Makes c → ⟨c, .error e⟩ ∉ told) := by
  cases fate with
  | refused e => exact .inl ⟨rfl, rfl, .inl rfl⟩
  | rejected c e makes => exact .inl ⟨rfl, rfl, .inr ⟨c, e, makes, List.mem_cons_self⟩⟩
  | accepted c b more makes since _ back =>
    refine .inr ⟨?_, fun d e makes mem => ?_⟩
    · cases more with
      | nil => exact ⟨_, rfl, fun _ => rfl⟩
      | cons reply more =>
        refine ⟨reply, rfl, fun changes => ?_⟩
        rw [since reply List.mem_cons_self] at changes
        cases changes
    · rcases List.mem_append.mp mem with mem | mem
      · have harmless := since _ mem
        rw [makes.writes] at harmless
        cases harmless
      · cases List.mem_singleton.mp mem

end

/-! ## What is reported -/

/-- The error that the activity ends with in the moment, if it is one that makes a change. -/
def Moment.failure? (m : Moment) : Option PoolError :=
  m.rest.value?.bind m.activity.failure?

/-- What is read back after an accepted change makes the activity fail. -/
def Misreports (h : List Moment) (m : Moment) (e : PoolError) (a : Activity) : Prop :=
  match a with
  | .session .pauseAgent | .session .resumeAgent => m.FailsToRead e
  | .nodes (.setCordoned _ _) | .nodes (.delete _) =>
    m.FailsToRead e ∧ ¬ nodeTable.Superseded h m
  | .nodes (.addLabel node _ _) =>
    (m.FailsToRead e ∧ ¬ nodeDetail.Superseded h m) ∨
      (m.ends = true ∧ nodeDetail.Superseded h m ∧ m.after.nodes.detail.data = none ∧
        e = noSuchNode node)
  | _ => False

/-- The activity has been refused before any call, or its change has failed. -/
def WriteFails (h : List Moment) (m : Moment) : Prop :=
  (m.begins = true ∧ m.issues = []) ∨
    ∃ c e, m.activity.Makes c ∧ ⟨c, .error e⟩ ∈ repliesTo h m.strand

/-- The change has been accepted, and a failure of what is read back is reported in its place: of a
read that has failed at once, or by what has been replied to the reads. -/
def Misreported (h : List Moment) (m : Moment) : Prop :=
  m.activity.reports = true ∧ (m.Accepts Call.writes ∨
    ∃ reply e, m.reply = some reply ∧ reply.call.writes = false ∧ Misreports h m e m.activity)

structure WriteFate (h : List Moment) (m : Moment) : Prop where
  begins : m.begins = true →
    (m.issues = [] ∧ m.after = m.before ∧ ∃ e, e.Refuses ∧ m.failure? = some e) ∨
    ∃ c, m.activity.Makes c ∧ m.issues.map (·.call) = [c] ∧ m.ends = false
  /-- No change is made but the first call. -/
  once : m.begins = false → ∀ i ∈ m.issues, i.call.writes = false
  rejected : ∀ c e, c.writes = true → m.reply = some ⟨c, .error e⟩ →
    m.issues = [] ∧ m.failure? = some e
  /-- A read may fail before it has been answered. -/
  accepted : ∀ c b, c.writes = true → m.reply = some ⟨c, .ok b⟩ →
    m.failure?.isSome = (m.activity.reports && m.ends)
  read : ∀ reply, m.reply = some reply → reply.call.writes = false → ∀ e,
    (m.failure? = some e ↔ Misreports h m e m.activity)
  fails_iff : m.ends = true →
    (m.failure?.isSome = true ↔ WriteFails (m :: h) m ∨ Misreported h m)
  /-- Where no failed read is reported, trying again after a failure repeats no change. -/
  unaccepted : m.activity.reports = false → m.failure?.isSome = true →
    acceptedOf Call.writes (m :: h) m.strand = []

/-- An activity that ends with the reply to a read reports it, or not. -/
theorem Run.read_fate (run : Run start (m :: h) w) {a : Activity} {r : a.Result}
    (returns : m.Returns a r) {reply : Reply} {more : List Reply} {c : Call} {b : c.Answer}
    (replied : m.reply = some reply) (harmless : reply.call.writes = false) (makes : a.Makes c)
    (accepted : ⟨c, .ok b⟩ ∈ repliesTo h m.strand)
    (back : a.ReadsBack (reply :: more) true (a.failure? r) m.before m.after) (e : PoolError) :
    a.failure? r = some e ↔ Misreports h m e a := by
  have fails := Moment.failsToRead_iff replied harmless e
  have changed {kind : Call → Bool} (is : kind c = true) : acceptedOf kind h m.strand ≠ [] :=
    acceptedOf_ne_nil accepted is
  have heard {cs : List Call} {failed : Option PoolError} {p : Prop}
      (back : (reply :: more = [] ∧ p) ∨ Heard cs (reply :: more) failed) :
      reply.failure? = failed := by
    rcases back with ⟨none, -⟩ | ⟨-, ⟨first, head, failed⟩, -⟩
    · cases none
    · cases head
      exact failed
  have kept {γ : Type} {S : Source γ} {query : S.Query} {p : Prop}
      (back : (reply :: more = [] ∧ p) ∨ HearsBack S query (reply :: more) true m.before m.after) :
      (S.panel m.after).issued = (S.panel m.before).issued := by
    rcases back with ⟨none, -⟩ | ⟨failed, heard, -, kept⟩
    · cases none
    · exact kept
  cases a with
  | session a =>
    cases a with
    | pauseAgent | resumeAgent =>
      rw [← heard back]
      exact fails.symm
    | _ => simp [Misreports, show _ = none from back]
  | jobs | wizard | views => simp [Misreports, show _ = none from back]
  | nodes a =>
    cases a with
    | setCordoned node cordoned =>
      obtain ⟨stage, stands, reread⟩ := nodeTablePlan.returns run returns
      have is : nodeTable.writes c = true := by
        rw [show c = _ from makes]
        cases cordoned with
        | true | false => rfl
      exact tableReread_failure replied harmless stands reread (changed is) (kept back) e
    | delete node =>
      obtain ⟨stage, stands, reread⟩ := nodeTablePlan.returns run returns
      have is : nodeTable.writes c = true := makes ▸ rfl
      exact tableReread_failure replied harmless stands reread (changed is) (kept back) e
    | addLabel node key value =>
      obtain ⟨stage, stands, reread, -⟩ := nodeDetailPlan.returns run returns
      have is : nodeDetail.writes c = true := makes ▸ rfl
      have ends : m.ends = true := returns.ends
      have fails := labelReread_failure replied harmless stands reread (changed is) (kept back) e
      refine fails.trans ?_
      simp [Misreports, ends]
    | _ => simp [Misreports, show _ = none from back]

/-! ## What holds in every run -/

/-- Only an activity that reports a failed read fails with one, or as it ends. -/
theorem Misreports.reports {a : Activity} {e : PoolError} (misreports : Misreports h m e a) :
    a.reports = true ∧ (m.ends = true ∨ m.FailsToRead e) := by
  cases a with
  | session a =>
    cases a with
    | pauseAgent | resumeAgent => exact ⟨rfl, .inr misreports⟩
    | _ => exact misreports.elim
  | nodes a =>
    cases a with
    | setCordoned | delete => exact ⟨rfl, .inr misreports.1⟩
    | addLabel =>
      rcases misreports with failed | late
      · exact ⟨rfl, .inr failed.1⟩
      · exact ⟨rfl, .inl late.1⟩
    | _ => exact misreports.elim
  | jobs | wizard | views => exact misreports.elim

theorem Moment.failure?_of_waits (m : Moment) (waits : m.ends = false) : m.failure? = none := by
  rw [Moment.ends, Option.isSome_eq_false_iff, Option.isNone_iff_eq_none] at waits
  rw [Moment.failure?, waits]
  rfl

theorem Moment.exists_returns (m : Moment) (ends : m.ends = true) :
    ∃ r, m.Returns m.activity r ∧ m.failure? = m.activity.failure? r := by
  obtain ⟨strand, activity, reply, before, after, issues, rest⟩ := m
  cases rest with
  | done r => exact ⟨r, rfl, rfl⟩
  | _ => cases ends

section
variable (run : Run start (m :: h) w) (writes : m.activity.writes = true)
include run writes

theorem Run.fate :
    Fate m.activity (repliesTo (m :: h) m.strand) (m.issues.map (·.call)) m.ends m.failure? m.before
      m.after :=
  Run.accounts follows_fate (show Run start ([] ++ m :: h) w from run) writes

theorem Run.failure_of_accepted {c : Call} {b : c.Answer} (replied : m.reply = some ⟨c, .ok b⟩)
    (changes : c.writes = true) : m.failure?.isSome = (m.activity.reports && m.ends) := by
  have head := run.head?_repliesTo.trans replied
  exact ((run.fate writes).of_ok head changes).atOnce

theorem Run.failure_of_read {reply : Reply} (replied : m.reply = some reply)
    (harmless : reply.call.writes = false) (e : PoolError) :
    m.failure? = some e ↔ Misreports h m e m.activity := by
  have head := run.head?_repliesTo.trans replied
  obtain ⟨c, b, more, told, makes, back⟩ := (run.fate writes).of_read head harmless
  rw [repliesTo_cons, replied] at told
  have before : repliesTo h m.strand = more ++ [⟨c, .ok b⟩] := (List.cons.inj told).2
  have accepted : ⟨c, .ok b⟩ ∈ repliesTo h m.strand := by
    rw [before]
    exact List.mem_append_right _ List.mem_cons_self
  cases ends : m.ends with
  | true =>
    obtain ⟨r, returns, failure⟩ := m.exists_returns ends
    rw [ends, failure] at back
    rw [failure]
    exact run.read_fate returns replied harmless makes accepted back e
  | false =>
    have none := m.failure?_of_waits ends
    rw [ends, none] at back
    rw [none]
    refine iff_of_false nofun fun misreports => ?_
    obtain ⟨reports, ended | failed⟩ := misreports.reports
    · rw [ends] at ended
      cases ended
    · rw [Moment.failsToRead_iff replied harmless, back.waiting reports] at failed
      cases failed

/-- An activity that has ended has failed with its change, or the change has been accepted. -/
theorem Run.settled (ends : m.ends = true) :
    (m.failure?.isSome = true ∧ acceptedOf Call.writes (m :: h) m.strand = [] ∧
      WriteFails (m :: h) m) ∨
    (¬ WriteFails (m :: h) m ∧ ∃ reply, m.reply = some reply ∧
      (reply.call.writes = true → reply.failure? = none)) := by
  have fate := run.fate writes
  have head := run.head?_repliesTo
  rw [ends] at fate
  rcases fate.settled with ⟨failed, none, fails⟩ | ⟨⟨reply, latest, own⟩, accepted⟩
  · refine .inl ⟨failed, none, fails.imp_left fun first => ?_⟩
    rw [first] at head
    have begins : m.begins = true := congrArg Option.isNone head.symm
    rcases fate.beginning (congrArg List.head? first) with ⟨-, -, made, -⟩ | ⟨-, -, -, on⟩
    · exact ⟨begins, List.map_eq_nil_iff.mp made⟩
    · cases on
  · have replied : m.reply = some reply := head.symm.trans latest
    refine .inr ⟨?_, reply, replied, own⟩
    rintro (⟨begins, -⟩ | ⟨c, e, makes, failed⟩)
    · rw [Moment.begins, replied] at begins
      cases begins
    · exact accepted c e makes failed

/-- An activity fails exactly if it has been refused, its change has failed, or what it has read
back is reported in place of the change. -/
theorem Run.failure_iff (ends : m.ends = true) :
    m.failure?.isSome = true ↔ WriteFails (m :: h) m ∨ Misreported h m := by
  rcases run.settled writes ends with ⟨failed, -, fails⟩ | ⟨not, reply, replied, own⟩
  · exact iff_of_true failed (.inl fails)
  · rw [or_iff_right not]
    cases changes : reply.call.writes with
    | true =>
      obtain ⟨c, r⟩ := reply
      cases r with
      | error => cases own changes
      | ok b =>
        have accepts : m.Accepts Call.writes := ⟨c, b, replied, changes⟩
        rw [run.failure_of_accepted writes replied changes, ends, Bool.and_true]
        exact (and_iff_left (.inl accepts)).symm
    | false =>
      have read := run.failure_of_read writes replied changes
      rw [Option.isSome_iff_exists]
      constructor
      · rintro ⟨e, failed⟩
        have misreports := (read e).mp failed
        exact ⟨misreports.reports.1, .inr ⟨reply, e, replied, changes, misreports⟩⟩
      · rintro ⟨-, accepts | ⟨reply', e, -, -, misreports⟩⟩
        · obtain ⟨c, b, replied', changes'⟩ := accepts
          rw [replied] at replied'
          cases replied'
          rw [changes'] at changes
          cases changes
        · exact ⟨e, (read e).mpr misreports⟩

end

/-- An activity that makes a change is refused before any call, fails with the change, or has it
accepted. After that only reads follow, and some activities report it if these fail. -/
theorem write_fate (run : Run start (m :: h) w) (writes : m.activity.writes = true) :
    WriteFate h m := by
  have head := run.head?_repliesTo
  have fate := run.fate writes
  constructor
  case begins =>
    intro begins
    have fresh := head.trans (Option.isNone_iff_eq_none.mp begins)
    rcases fate.beginning fresh with ⟨e, refuses, made, -, failed, same⟩ | ⟨c, makes, made, on⟩
    · exact .inl ⟨List.map_eq_nil_iff.mp made, same, e, refuses, failed⟩
    · exact .inr ⟨c, makes, made, on⟩
  case once =>
    intro goes i mem
    refine fate.harmless ?_ _ (List.mem_map_of_mem mem)
    intro empty
    rw [empty] at head
    rw [Moment.begins, ← head] at goes
    cases goes
  case rejected =>
    intro c e changes replied
    obtain ⟨made, failed⟩ := fate.of_error (head.trans replied) changes
    exact ⟨List.map_eq_nil_iff.mp made, failed⟩
  case accepted => exact fun c b changes replied => run.failure_of_accepted writes replied changes
  case read => exact fun reply replied harmless => run.failure_of_read writes replied harmless
  case fails_iff => exact run.failure_iff writes
  case unaccepted =>
    intro quiet failed
    have ends : m.ends = true := by
      cases waits : m.ends with
      | true => rfl
      | false =>
        rw [m.failure?_of_waits waits] at failed
        cases failed
    rcases run.settled writes ends with ⟨-, none, -⟩ | ⟨not, -⟩
    · exact none
    · rcases (run.failure_iff writes ends).mp failed with fails | misreported
      · exact absurd fails not
      · rw [misreported.1] at quiet
        cases quiet

/-! ## A change that is reported as a failure -/

/-- A node has been closed, but the table cannot be read back. -/
theorem exists_misreported :
    ∃ m h w, Run (.fresh {} {}) (m :: h) w ∧ m.activity = .nodes (.setCordoned "a" true) ∧
      m.ends = true ∧ m.failure? = some (.backend "timeout") ∧
      repliesTo (m :: h) m.strand =
        [⟨.devices, .error (.backend "timeout")⟩, ⟨.cordon ["a"], .ok ()⟩] := by
  have cordoning := Run.next (@Run.start (.fresh {} {}))
    (.begin (.nodes (.setCordoned "a" true)) (.call _ _ _))
  have accepted := cordoning.next (.answer 0 _ ⟨.cordon ["a"], .ok ()⟩ rfl
    (.call _ (.get (.get (.set (.tryAll _ _ _ _))))))
  have failed := accepted.next (.answer 0 _ ⟨.devices, .error (.backend "timeout")⟩ rfl
    (.tryFails _ List.mem_cons_self (.get (.get (.set (.done _ _))))))
  exact ⟨_, _, _, failed, rfl, rfl, rfl, rfl⟩

theorem fate_of_closed_node :
    ∃ m h w, Run (.fresh {} {}) (m :: h) w ∧ m.activity.writes = true ∧ WriteFate h m ∧
      m.failure? = some (.backend "timeout") ∧
      ⟨.cordon ["a"], .ok ()⟩ ∈ repliesTo (m :: h) m.strand := by
  obtain ⟨m, h, w, run, activity, -, failure, told⟩ := exists_misreported
  have writes : m.activity.writes = true := activity ▸ rfl
  refine ⟨m, h, w, run, writes, write_fate run writes, failure, ?_⟩
  rw [told]
  exact List.mem_cons_of_mem _ List.mem_cons_self

/-- An activity that makes a change fails exactly if it has been refused before any call or its
change has failed. -/
def FatesReported : Prop :=
  ∀ m h w, Run (.fresh {} {}) (m :: h) w → m.activity.writes = true → m.ends = true →
    (m.failure?.isSome = true ↔ WriteFails (m :: h) m)

/-- A change that has been accepted may be reported as a failure. -/
theorem not_fatesReported : ¬ FatesReported := by
  intro reported
  obtain ⟨m, h, w, run, activity, ends, failure, told⟩ := exists_misreported
  have fails := (reported m h w run (activity ▸ rfl) ends).mp (by rw [failure]; rfl)
  have head := run.head?_repliesTo
  rw [told] at head
  rcases fails with ⟨begins, -⟩ | ⟨c, e, makes, failed⟩
  · rw [Moment.begins, ← head] at begins
    cases begins
  · rw [activity] at makes
    obtain rfl : c = .cordon ["a"] := makes
    rw [told] at failed
    simp at failed

end PoolConsole
