import PoolConsole.Proofs.Run.Account

namespace PoolConsole

open PoolConsole.Action Console Operation

/-- What a quota has been answered with, and whose. -/
def Reply.quota? : Reply → Option (String × Outcome (Option Quota))
  | ⟨.quota space, r⟩ => some (space, r)
  | _ => none

def Call.asksQuota : Call → Bool
  | .quota _ => true
  | _ => false

theorem Reply.eq_of_quota? {reply : Reply} {space : String} {answer : Outcome (Option Quota)}
    (is : reply.quota? = some (space, answer)) : reply = ⟨.quota space, answer⟩ := by
  unfold quota? at is
  split at is
  next =>
    cases is
    rfl
  next => cases is

theorem Reply.quota?_of_quiet {reply : Reply} (quiet : reply.call.asksQuota = false) :
    reply.quota? = none := by
  obtain ⟨c, r⟩ := reply
  cases c with
  | quota => cases quiet
  | _ => rfl

/-- The status that an activity has read, if it is one that does and has not failed. -/
def Activity.status? : (a : Activity) → a.Result → Option PoolStatus
  | .session .refreshStatus, .ok status => some status
  | .session .pauseAgent, .ok status => some status
  | .session .resumeAgent, .ok status => some status
  | _, _ => none

inductive Reading where
  | kept
  | selects (space : String)
  | quota (space : String) (answer : Outcome (Option Quota))
  | status (found : PoolStatus)
  | connects

/-- What a moment of an activity is to the connection, by the reply that it goes on with and its
value if it ends. -/
def Reading.of (a : Activity) (reply : Option Reply) (value : Option a.Result) : Reading :=
  match reply.bind Reply.quota? with
  | some (space, answer) => .quota space answer
  | none =>
    match value.bind a.status? with
    | some found => .status found
    | none =>
      match a, reply with
      | .session (.selectSpace space), none => .selects space
      | .session .loadConnection, _ => .connects
      | _, _ => .kept

namespace Connection

/-- Takes over the answer to a quota. A failed one changes nothing. -/
def answerQuota (c : Connection) (space : String) : Outcome (Option Quota) → Connection
  | .ok quota => c.takeQuota space quota
  | .error _ => c

inductive Connects (told : List Reply) (c : Connection) : Connection → Prop where
  | waits : Connects told c c
  | fails : Connects told c { c with loaded := true }
  | answered (connected : Bool) (spaces : List String) :
      Answered told [.connected, .spaces] (connected, spaces, ()) →
      Connects told c (c.connect connected spaces)

end Connection

def Reading.Turns (told : List Reply) : Reading → Connection → Connection → Prop
  | kept, c, c' => c' = c
  | selects space, c, c' => c' = c.select space
  | quota space answer, c, c' => c' = c.answerQuota space answer
  | status found, c, c' => c' = { c with status := found } ∧
      Answered told [.agentRunning, .connected, .isServer]
        (found.agentRunning, found.connected, found.isServer, ())
  | connects, c, c' => c.Connects told c'

def Unasked (told : List Reply) : Prop :=
  ∀ reply ∈ told, reply.call.asksQuota = false

/-- An activity asks for no quota or reads no status, and changes the connection as the reading of
each of its moments says. -/
def connectionAccount (a : Activity) : Account Console a.Result :=
  fun told _ value s t => (Unasked told ∨ ∀ r, a.status? r = none) ∧
    (Reading.of a told.head? value).Turns told s.session.connection t.session.connection

/-! ## Activities that read nothing -/

def Activity.changesConnection : Activity → Bool
  | .session .loadConnection | .session (.selectSpace _) | .session (.setQuota _ _) => true
  | .session .refreshStatus | .session .pauseAgent | .session .resumeAgent => true
  | _ => false

theorem asksQuota_of_about {k : Call → Prop} (quota : ∀ space, ¬ k (.quota space)) {c : Call}
    (about : k c) : c.asksQuota = false := by
  cases c with
  | quota space => exact absurd about (quota space)
  | _ => rfl

theorem confined_connection (a : Activity) (other : a.changesConnection = false) :
    a.action.Confined (·.session.connection) fun c _ => c.asksQuota = false := by
  have may {k : Call → Prop} (quota : ∀ space, ¬ k (.quota space)) (c : Call) (_ : Console)
      (about : k c) : c.asksQuota = false :=
    asksQuota_of_about quota about
  cases a with
  | session a =>
    cases a with
    | loadConnection | selectSpace | setQuota | refreshStatus | pauseAgent | resumeAgent =>
      cases other
    | selectNamespace choice =>
      exact confined_updateSession (f := fun s =>
        ((s.selectNamespace choice).filter.scope, s.selectNamespace choice)) fun _ => rfl
    | authorize key => exact authorize_confined (fun _ _ => rfl) key
    | signOut => exact confined_modifySession (f := Session.signOut) fun _ => rfl
    | setDarkMode darkMode =>
      exact changePreferences_confined (fun _ _ => rfl) fun p => { p with darkMode }
    | setAccessKey accessKey =>
      exact changePreferences_confined (fun _ _ => rfl) fun p => { p with accessKey }
  | jobs a =>
    exact JobActivity.confined (fun _ _ => rfl) (fun _ _ _ => rfl) (may fun _ => id) a
      fun _ _ _ _ => rfl
  | wizard a =>
    exact WizardActivity.confined (fun _ _ _ => rfl) (may fun _ => id) a fun what _ =>
      submission_confined (fun _ _ => rfl) (fun _ _ => rfl) (fun _ _ _ => rfl) (fun _ _ _ => rfl)
        (may fun _ => id) what
  | nodes a => exact NodeActivity.confined (fun _ _ => rfl) (may fun _ => id) a
  | views a =>
    exact ViewActivity.confined (fun _ _ => rfl) (fun _ _ => rfl) (fun _ _ => rfl) (fun _ _ => rfl)
      (fun _ _ => rfl) (may fun _ => id) a fun _ _ _ => rfl

theorem status?_of_other {a : Activity} (other : a.changesConnection = false) (r : a.Result) :
    a.status? r = none := by
  unfold Activity.status?
  split
  next => cases other
  next => cases other
  next => cases other
  next => rfl

/-! ## Activities that read something -/

theorem Unasked.silent {told : List Reply} (unasked : Unasked told) :
    told.head?.bind Reply.quota? = none := by
  cases told with
  | nil => rfl
  | cons reply told => exact Reply.quota?_of_quiet (unasked reply List.mem_cons_self)

theorem Heard.unasked {cs : List Call} {told more : List Reply} {failed : Option PoolError}
    (heard : Heard cs more failed) (quiet : ∀ c ∈ cs, c.asksQuota = false)
    (unasked : Unasked told) : Unasked (more ++ told) :=
  List.forall_mem_append.mpr ⟨fun reply mem => quiet _ (heard.calls reply mem), unasked⟩

theorem Reading.of_kept {a : Activity} {told : List Reply} (unasked : Unasked told)
    {value : Option a.Result} (unread : value.bind a.status? = none)
    (plain : a ≠ .session .loadConnection) (selects : ∀ space, a ≠ .session (.selectSpace space)) :
    Reading.of a told.head? value = .kept := by
  unfold Reading.of
  rw [unasked.silent, unread]
  dsimp only
  split
  next => exact absurd rfl (selects _)
  next => exact absurd rfl plain
  next => rfl

theorem Reading.of_status {a : Activity} {told : List Reply} (unasked : Unasked told)
    {r : a.Result} {found : PoolStatus} (status : a.status? r = some found) :
    Reading.of a told.head? (some r) = .status found := by
  unfold Reading.of
  rw [unasked.silent, Option.bind_some, status]

section
variable {a : Activity} {told : List Reply} {made : List Call} {s₀ s : Console}

/-- A quota is loaded before an activity ends that reads no status. -/
theorem follows_loadQuota {space : String} (plain : ∀ r, a.status? r = none) (v : a.Result)
    (waits : connectionAccount a told (made ++ [.quota space]) none s₀ s) :
    ((loadQuota space).bind fun _ => .done v).Follows (connectionAccount a) told made s₀ s := by
  have answered (r : Outcome (Option Quota)) {t u : Console}
      (taken : u.session.connection = t.session.connection.answerQuota space r) :
      connectionAccount a (⟨.quota space, r⟩ :: told) [] (some v) t u := ⟨.inr plain, taken⟩
  rw [follows_bind, loadQuota, bind_eq, follows_bind, follows_request]
  refine ⟨waits, fun r t => ?_⟩
  cases r with
  | ok quota =>
    refine (follows_modify _).mpr ((follows_done v).mpr ?_)
    exact answered (.ok quota) rfl
  | error e =>
    refine (follows_done ()).mpr ((follows_done v).mpr ?_)
    exact answered (.error e) rfl

theorem follows_selectSpace (space : String) (s : Console) :
    (selectSpace space).Follows (connectionAccount (.session (.selectSpace space))) [] [] s s := by
  rw [selectSpace, bind_eq, follows_bind]
  refine (follows_modify _).mpr ?_
  change (loadQuota space).Follows _ _ _ _ _
  rw [← bind_done (loadQuota space)]
  exact follows_loadQuota (a := .session (.selectSpace space)) (fun _ => rfl) ()
    ⟨.inr fun _ => rfl, rfl⟩

theorem follows_setQuota (space : String) (limits : QuotaLimits) (s : Console) :
    (setQuota space limits).Follows (connectionAccount (.session (.setQuota space limits)))
      [] [] s s := by
  have plain (r : Outcome Unit) :
      (Activity.session (.setQuota space limits)).status? r = none := rfl
  unfold setQuota
  split
  · exact (follows_done _).mpr ⟨.inr plain, rfl⟩
  split
  · exact (follows_done _).mpr ⟨.inr plain, rfl⟩
  refine follows_request_attempt ⟨.inr plain, rfl⟩ (fun _ t => ?_) fun _ _ => ⟨.inr plain, rfl⟩
  refine (follows_bind _ _).mpr ((follows_read _).mpr ?_)
  change (ite _ _ _ : Action Console (Outcome Unit)).Follows _ _ _ _ _
  split
  · exact follows_loadQuota (a := .session (.setQuota space limits)) plain (.ok ())
      ⟨.inr plain, rfl⟩
  · exact (follows_done _).mpr ⟨.inr plain, rfl⟩

theorem Reading.of_loadConnection {told : List Reply} (unasked : Unasked told)
    (value : Option (Outcome Unit)) :
    Reading.of (.session .loadConnection) told.head? value = .connects := by
  unfold Reading.of
  rw [unasked.silent]
  cases value with
  | none => rfl
  | some r => rfl

theorem follows_loadConnection (s : Console) :
    loadConnection.Follows (connectionAccount (.session .loadConnection)) [] [] s s := by
  have connects {told : List Reply} {made : List Call} (unasked : Unasked told)
      (value : Option (Outcome Unit)) {u v : Console}
      (turn : u.session.connection.Connects told v.session.connection) :
      connectionAccount (.session .loadConnection) told made value u v := by
    rw [connectionAccount, Reading.of_loadConnection unasked]
    exact ⟨.inl unasked, turn⟩
  have quiet : ∀ c ∈ [Call.connected, .spaces], c.asksQuota = false := by decide
  have fresh : Unasked [] := by simp [Unasked]
  rw [loadConnection, bind_eq]
  refine follows_requestAll_bind (List.cons_ne_nil _ _) (connects fresh _ .waits) ?_ ?_ ?_
  · intro more t heard
    exact connects (heard.unasked quiet fresh) _ .waits
  · intro r more t heard replied
    have unasked := heard.unasked quiet fresh
    rw [List.append_nil] at unasked ⊢
    cases r with
    | error e =>
      refine (follows_bind _ _).mpr ((follows_modify _).mpr ((follows_done _).mpr ?_))
      exact connects unasked _ .fails
    | ok answers =>
      obtain ⟨connected, spaces, ⟨⟩⟩ := answers
      have turn (u : Console) (taken : u.session.connection =
          t.session.connection.connect connected spaces) :
          t.session.connection.Connects more u.session.connection := by
        rw [taken]
        exact .answered connected spaces replied
      refine (follows_bind _ _).mpr ((follows_update _).mpr ?_)
      change (((takeConnection connected spaces t.session).1.forM loadQuota).bind
        fun _ => .done (.ok ()) : Action Console (Outcome Unit)).Follows _ _ _ _ _
      cases (takeConnection connected spaces t.session).1 with
      | none => exact (follows_done _).mpr (connects unasked _ (turn _ rfl))
      | some space =>
        exact follows_loadQuota (a := .session .loadConnection) (fun _ => rfl) (.ok ())
          (connects unasked _ (turn _ rfl))
  · intro e part _ _
    refine (follows_bind _ _).mpr ((follows_modify _).mpr ((follows_done _).mpr ?_))
    exact connects fresh _ .fails

/-- An account of an activity that reads the status: unless it ends with one, nothing happens to the
connection. -/
structure ReadsStatus (account : Account Console (Outcome PoolStatus)) : Prop where
  kept : ∀ {told made value u v}, Unasked told → (∀ found, value ≠ some (.ok found)) →
    v.session.connection = u.session.connection → account told made value u v
  reads : ∀ {told made found u v}, Unasked told →
    v.session.connection = { u.session.connection with status := found } →
    Answered told [.agentRunning, .connected, .isServer]
      (found.agentRunning, found.connected, found.isServer, ()) →
    account told made (some (.ok found)) u v

theorem follows_refreshStatus {account : Account Console (Outcome PoolStatus)}
    (status : ReadsStatus account) (unasked : Unasked told) (s : Console) :
    refreshStatus.Follows account told made s s := by
  have quiet : ∀ c ∈ [Call.agentRunning, .connected, .isServer], c.asksQuota = false := by decide
  rw [refreshStatus, attempt]
  refine follows_requestAll_bind (List.cons_ne_nil _ _) (status.kept unasked nofun rfl) ?_ ?_ ?_
  · intro more t heard
    exact status.kept (heard.unasked quiet unasked) nofun rfl
  · intro r more t heard replied
    have unasked := heard.unasked quiet unasked
    cases r with
    | error e => exact (follows_done _).mpr (status.kept unasked nofun rfl)
    | ok answers =>
      obtain ⟨agentRunning, connected, isServer, ⟨⟩⟩ := answers
      refine (follows_bind _ _).mpr ((follows_modify _).mpr ((follows_done _).mpr ?_))
      exact status.reads unasked rfl (Answered.mono (List.subset_append_left _ _) replied)
  · intro e part _ _
    exact (follows_done _).mpr (status.kept unasked nofun rfl)

/-- The agent is switched before the status is read. -/
theorem follows_switchAgent {c : Call} {account : Account Console (Outcome PoolStatus)}
    (status : ReadsStatus account) (quiet : c.asksQuota = false)
    {f : c.Answer → Action Console (Outcome PoolStatus)} (refreshes : ∀ b, f b = refreshStatus)
    (s : Console) : ((request c).attempt f).Follows account [] [] s s := by
  have told (r : Outcome c.Answer) : Unasked [⟨c, r⟩] := by simpa [Unasked] using quiet
  refine follows_request_attempt (status.kept (by simp [Unasked]) nofun rfl) (fun b t => ?_)
    fun e t => ?_
  · rw [refreshes]
    exact follows_refreshStatus status (told _) t
  · exact status.kept (told _) nofun rfl

end

/-- An activity that ends with a status has read it, and one that fails has read none. -/
theorem readsStatus (status? : Outcome PoolStatus → Option PoolStatus)
    (failed : ∀ e, status? (.error e) = none) (ok : ∀ found, status? (.ok found) = some found)
    (reading : List Reply → Option (Outcome PoolStatus) → Reading)
    (kept : ∀ {told value}, Unasked told → value.bind status? = none → reading told value = .kept)
    (reads : ∀ {told r found}, Unasked told → status? r = some found →
      reading told (some r) = .status found) :
    ReadsStatus fun told _ value s t => (Unasked told ∨ ∀ r, status? r = none) ∧
      (reading told value).Turns told s.session.connection t.session.connection := by
  constructor
  · intro told made value u v unasked unread same
    have none : value.bind status? = none := by
      cases value with
      | none => rfl
      | some r =>
        cases r with
        | ok found => exact absurd rfl (unread found)
        | error e => exact failed e
    rw [kept unasked none]
    exact ⟨.inl unasked, same⟩
  · intro told made found u v unasked taken answered
    rw [reads unasked (ok found)]
    exact ⟨.inl unasked, taken, answered⟩

theorem follows_connection (a : Activity) (s : Console) :
    a.action.Follows (connectionAccount a) [] [] s s := by
  have fresh : Unasked [] := by simp [Unasked]
  cases other : a.changesConnection with
  | false =>
    refine ((confined_connection a other).follows rfl (by simp)).imp ?_
    rintro told made value u v ⟨same, -, more, rfl, quiet⟩
    have unread : value.bind a.status? = none := by
      cases value with
      | none => rfl
      | some r => exact status?_of_other other r
    rw [List.append_nil, connectionAccount, Reading.of_kept quiet unread]
    · exact ⟨.inl quiet, same⟩
    · rintro rfl
      cases other
    · rintro space rfl
      cases other
  | true =>
    cases a with
    | session a =>
      cases a with
      | loadConnection => exact follows_loadConnection s
      | selectSpace space => exact follows_selectSpace space s
      | setQuota space limits => exact follows_setQuota space limits s
      | refreshStatus =>
        have status : ReadsStatus (connectionAccount (.session .refreshStatus)) :=
          readsStatus (Activity.session .refreshStatus).status? (fun _ => rfl) (fun _ => rfl) _
            (fun unasked unread => Reading.of_kept unasked unread nofun nofun)
            fun unasked found => Reading.of_status unasked found
        exact follows_refreshStatus status fresh s
      | pauseAgent =>
        have status : ReadsStatus (connectionAccount (.session .pauseAgent)) :=
          readsStatus (Activity.session .pauseAgent).status? (fun _ => rfl) (fun _ => rfl) _
            (fun unasked unread => Reading.of_kept unasked unread nofun nofun)
            fun unasked found => Reading.of_status unasked found
        exact follows_switchAgent status rfl (fun _ => rfl) s
      | resumeAgent =>
        have status : ReadsStatus (connectionAccount (.session .resumeAgent)) :=
          readsStatus (Activity.session .resumeAgent).status? (fun _ => rfl) (fun _ => rfl) _
            (fun unasked unread => Reading.of_kept unasked unread nofun nofun)
            fun unasked found => Reading.of_status unasked found
        exact follows_switchAgent status rfl (fun _ => rfl) s
      | _ => cases other
    | _ => cases other

/-! ## Runs -/

variable {start : Console} {h later earlier : List Moment} {m : Moment} {w : World}

def Moment.reading (m : Moment) : Reading :=
  .of m.activity m.reply m.rest.value?

/-- The status that the activity has read, if it ends with one in the moment. -/
def Moment.status? (m : Moment) : Option PoolStatus :=
  m.rest.value?.bind m.activity.status?

/-- What a reading says about the moment itself. -/
def Reading.Says (m : Moment) : Reading → Prop
  | kept => True
  | selects space => m.activity = .session (.selectSpace space) ∧ m.reply = none
  | quota space answer => m.reply = some ⟨.quota space, answer⟩
  | status found => m.status? = some found
  | connects => m.activity = .session .loadConnection

/-- A moment is what its reading says. -/
theorem Moment.says_of_reading {reading : Reading} (is : m.reading = reading) :
    reading.Says m := by
  subst is
  unfold Moment.reading Reading.of
  split
  next found =>
    obtain ⟨reply, answered, quota⟩ := Option.bind_eq_some_iff.mp found
    exact answered.trans (congrArg some (Reply.eq_of_quota? quota))
  next =>
    split
    next status => exact status
    next =>
      split
      next activity none _ => exact ⟨activity, none⟩
      next activity _ => exact activity
      next => trivial

/-- Every moment changes the connection as its reading says. -/
theorem Run.reads (run : Run start (later ++ m :: earlier) w) :
    m.reading.Turns (repliesTo (m :: earlier) m.strand) m.before.session.connection
      m.after.session.connection := by
  have turn := (run.accounts follows_connection).2
  obtain ⟨v, prior⟩ := run.suffix
  rwa [prior.head?_repliesTo] at turn

/-- An activity that ends with a status reads it. -/
theorem Run.reading_of_status (run : Run start (later ++ m :: earlier) w) {found : PoolStatus}
    (status : m.status? = some found) : m.reading = .status found := by
  have silent : m.reply.bind Reply.quota? = none := by
    obtain ⟨v, prior⟩ := run.suffix
    rcases (run.accounts follows_connection).1 with unasked | plain
    · rw [← prior.head?_repliesTo]
      exact unasked.silent
    · obtain ⟨r, -, is⟩ := Option.bind_eq_some_iff.mp status
      rw [plain] at is
      cases is
  have status : m.rest.value?.bind m.activity.status? = some found := status
  unfold Moment.reading Reading.of
  rw [silent, status]

end PoolConsole
