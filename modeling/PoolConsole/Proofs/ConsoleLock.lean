import PoolConsole.Proofs.AccessGate

namespace PoolConsole.Cli

open Operation

/-! ## Locking -/

def lockLine (key : Option String) : String :=
  if key.isSome then "Dashboard locked" else "Dashboard unlocked"

theorem printed_lockLine (key : Option String) :
    "" ++ String.join [lockLine key ++ "\n"] = lockLine key ++ "\n" := by
  unfold lockLine
  split <;> decide

/-- The terminal after the console has been locked with a key, or unlocked. -/
def Terminal.locked (key : Option String) (t : Terminal) : Terminal :=
  { t with
    console.session.preferences.current.accessKey := key
    console.session.auth := if key.isSome then t.console.session.auth else {}
    out := t.out ++ String.join [lockLine key ++ "\n"] }

section

variable {m : Type → Type} [Monad m] (handler : Handler m) (t : Terminal) (now : Instant)

theorem run_lock (key : Option String) {place : String}
    (kept : t.console.session.preferences.place = some place) :
    let p := { t.console.session.preferences.current with accessKey := key }
    handler.run ((Command.lock key).script now).run t = handler.save place p.text >>= fun r =>
      pure (match r with
        | .ok () => (.ok .nothing, t.locked key)
        | .error e =>
          (.error (.ofError e), { t with console.session.preferences.current := p })) := by
  intro p
  obtain ⟨⟨⟨connection, filter, auth, ⟨_, current⟩, ui⟩, _⟩, out, err⟩ := t
  cases kept
  cases key with
  | some key =>
    refine congrArg (handler.save place p.text >>= ·) (funext fun r => ?_)
    cases r <;> rfl
  | none =>
    refine congrArg (handler.save place p.text >>= ·) (funext fun r => ?_)
    cases r <;> rfl

end

namespace MemoryMachine

variable {env : Environment} {args : List String} {mm : MemoryMachine} {invocation : Invocation}
  {config : Config} {client : Http.Client}

/-- Without valid settings the program fails and leaves the machine as it is. -/
theorem run_of_invalid (parsed : parse args = .ok invocation) {e : PoolError}
    (invalid : invocation.settings env mm.files = .error e) :
    (run machine env args).run mm = ((.failed (.ofError e) {}, none), mm) := by
  let withOwn (own : Config) : Outcome (Config × Http.Client) :=
    Http.Client.ofConfig (invocation.override env own).api >>= fun client =>
      .ok (invocation.override env own, client)
  have source : ∃ own : Outcome Config, own >>= withOwn = .error e ∧
      (fileSettings machine env.home invocation.config).run mm = pure (own, mm) := by
    refine ⟨_, invalid, ?_⟩
    obtain ⟨_, path, _⟩ := invocation
    cases path <;> rfl
  obtain ⟨own, invalid, sets⟩ := source
  unfold run
  simp only [parsed, StateT.run_bind, sets, pure_bind]
  cases own with
  | error e' =>
    cases invalid
    rfl
  | ok own =>
    change withOwn own = .error e at invalid
    unfold withOwn at invalid
    cases made : Http.Client.ofConfig (invocation.override env own).api with
    | error e' =>
      rw [made] at invalid
      cases invalid
      dsimp only
      rw [made]
      rfl
    | ok client =>
      rw [made] at invalid
      cases invalid

theorem runScript_lock (client : Http.Client) (now : Instant) {t : Terminal} {key : Option String}
    {given place : String} (kept : t.console.session.preferences.place = some place)
    (granted : t.console.session.preferences.current.grants given = true)
    {r : Outcome Unit} {after : MemoryMachine}
    (saves : save place { t.console.session.preferences.current with accessKey := key }.text mm =
      (r, after)) :
    ∃ failed : Terminal, failed.out = t.out ∧
      (runScript (handler client) ((Command.lock key).guarded now given) t).run mm =
        (match r with
          | .ok () => { code := 0, terminal := (t.tried true).locked key }
          | .error e => .failed (.ofError e) failed, after) := by
  have kept' : (t.tried true).console.session.preferences.place = some place := kept
  let p := { (t.tried true).console.session.preferences.current with accessKey := key }
  have current : p = { t.console.session.preferences.current with accessKey := key } := rfl
  rw [← current] at saves
  have saves' : StateT.run ((handler client).save place p.text) mm = (r, after) := saves
  refine ⟨{ t.tried true with console.session.preferences.current := p }, rfl, ?_⟩
  unfold runScript
  rw [run_guarded _ _ _ _ rfl granted, if_pos rfl, run_lock _ _ _ _ kept', bind_assoc,
    StateT.run_bind, saves']
  cases r with
  | ok => rfl
  | error e => rfl

/-- The preferences kept at a place hold the key, or none. -/
def Keeps (place : String) (key : Option String) (mm : MemoryMachine) : Prop :=
  ∃ p : Preferences, mm.files.read place = .ok p.text ∧ p.accessKey = key

theorem keeps_of_save {place : String} {p : Preferences} {after : MemoryMachine}
    (saves : save place p.text mm = (.ok (), after)) : after.Keeps place p.accessKey := by
  cases kept : mm.files.save place p.text with
  | mk r files =>
    unfold save at saves
    rw [kept] at saves
    cases r with
    | error e => cases saves
    | ok =>
      cases saves
      obtain ⟨written, -⟩ := @FileTree.read_save mm.files files place "" p.text (.ok ()) kept
      exact ⟨p, written rfl, rfl⟩

/-- To lock the console, or to unlock it, keeps the key in the preferences, or fails. -/
theorem run_lock_cases (env : Environment) (args : List String) (mm : MemoryMachine)
    {key : Option String} (parsed : parse args = .ok invocation)
    (locks : invocation.command = .lock key) :
    let ran := (run machine env args).run mm
    (ran.1.1.code = 1 ∧ ran.1.1.terminal.out = "") ∨
      ∃ config client, invocation.settings env mm.files = .ok (config, client) ∧
        ran.1.1.code = 0 ∧ ran.1.1.terminal.out = lockLine key ++ "\n" ∧
        ran.2.Keeps config.preferencesPath key := by
  intro ran
  cases settings : invocation.settings env mm.files with
  | error e =>
    have ended : ran = _ := run_of_invalid parsed settings
    rw [ended]
    exact .inl ⟨rfl, rfl⟩
  | ok valid =>
    obtain ⟨config, client⟩ := valid
    let t : Terminal := { console := .fresh config.ui (.load mm.files config.preferencesPath) }
    have ended : ran = _ := run_eq parsed settings
    rw [locks] at ended
    cases granted : t.console.session.preferences.current.grants
        ((invocation.userKey.or env.userKey).getD "") with
    | false =>
      rw [runScript_locked rfl granted] at ended
      rw [ended]
      exact .inl ⟨rfl, rfl⟩
    | true =>
      let p := { t.console.session.preferences.current with accessKey := key }
      cases saves : save config.preferencesPath p.text mm with
      | mk r after =>
        obtain ⟨failed, told, script⟩ := runScript_lock client env.now rfl granted saves
        rw [script] at ended
        rw [ended]
        cases r with
        | error e => exact .inl ⟨rfl, told⟩
        | ok =>
          exact .inr ⟨config, client, rfl, rfl, printed_lockLine key, keeps_of_save saves⟩

end MemoryMachine

/-! ## Changes of the theme -/

/-- Commands that change the theme are run one after the other, each with the preferences that are
kept at one place, unless its settings are not valid. The file may be one that cannot be opened, but
no write of it breaks off half-way. -/
inductive ThemeRuns (place : String) (mm : MemoryMachine) : MemoryMachine → Prop where
  | none : ThemeRuns place mm mm
  | next {after : MemoryMachine} {env : Environment} {args : List String} {invocation : Invocation}
      {dark : Bool} : ThemeRuns place mm after → parse args = .ok invocation →
      invocation.command = .theme dark →
      (∀ config client, invocation.settings env after.files = .ok (config, client) →
        config.preferencesPath = place) →
      ThemeRuns place mm ((run MemoryMachine.machine env args).run after).2

open MemoryMachine

variable {env : Environment} {args : List String} {mm later : MemoryMachine}
  {invocation : Invocation} {key : Option String} {place : String}

/-- To change the theme leaves the key where it is. -/
theorem keeps_run_theme {dark : Bool} (parsed : parse args = .ok invocation)
    (theme : invocation.command = .theme dark)
    (here : ∀ config client, invocation.settings env mm.files = .ok (config, client) →
      config.preferencesPath = place) (keeps : mm.Keeps place key) :
    ((run machine env args).run mm).2.Keeps place key := by
  cases settings : invocation.settings env mm.files with
  | error e =>
    rw [run_of_invalid parsed settings]
    exact keeps
  | ok valid =>
    obtain ⟨config, client⟩ := valid
    obtain rfl := here config client settings
    obtain ⟨p, reads, holds⟩ := keeps
    rw [run_eq parsed settings, theme, Prod.map_snd, runScript_theme rfl]
    dsimp only [Console.fresh, id]
    rw [PreferenceStore.load_of_read reads]
    generalize saves : mm.files.save config.preferencesPath _ = saved
    obtain ⟨r, after⟩ := saved
    obtain ⟨written, left⟩ := @FileTree.read_save _ _ _ p.text _ _ saves
    by_cases works : r = .ok ()
    · exact ⟨_, written works, holds⟩
    · exact ⟨p, left works reads, holds⟩

/-- No change of the theme moves the key, also one that fails because the file cannot be opened. -/
theorem ThemeRuns.keeps (runs : ThemeRuns place mm later) (keeps : mm.Keeps place key) :
    later.Keeps place key := by
  induction runs with
  | none => exact keeps
  | next _ parsed theme here ih => exact keeps_run_theme parsed theme here ih

/-! ## Who is let in -/

theorem grants_iff {p : Preferences} {given : String} :
    p.grants given = true ↔ ∀ k, p.accessKey = some k → k = "" ∨ given = k := by
  unfold Preferences.grants
  cases p.accessKey with
  | none => exact ⟨fun _ _ none => (nomatch none), fun _ => rfl⟩
  | some k =>
    simp only [Option.some.injEq, forall_eq', Bool.or_eq_true, decide_eq_true_eq, beq_iff_eq]
    exact or_congr_right eq_comm

/-- A console that opens with the preferences kept at a place lets in whoever gives the key that
they hold, and everyone if that is empty or there is none. -/
theorem authorize_iff (keeps : mm.Keeps place key) (ui : UiConfig) (given : String) :
    ((Console.fresh ui (.load mm.files place)).session.authorize given).1 = true ↔
      ∀ k, key = some k → k = "" ∨ given = k := by
  obtain ⟨p, reads, rfl⟩ := keeps
  have loaded : (PreferenceStore.load mm.files place).current = p := by
    rw [PreferenceStore.load_of_read reads]
  change (PreferenceStore.load mm.files place).current.grants given = true ↔ _
  rw [loaded, grants_iff]

/-- Who is let in by consoles that open with the preferences kept at a place, however the theme is
changed before. -/
def Admits (mm : MemoryMachine) (place : String) (admitted : String → Prop) : Prop :=
  ∀ later, ThemeRuns place mm later → ∀ ui given,
    ((Console.fresh ui (.load later.files place)).session.authorize given).1 = true ↔ admitted given

theorem admits_of_keeps {admitted : String → Prop} (keeps : mm.Keeps place key)
    (admits : ∀ given, (∀ k, key = some k → k = "" ∨ given = k) ↔ admitted given) :
    Admits mm place admitted :=
  fun _ runs ui given => (authorize_iff (runs.keeps keeps) ui given).trans (admits given)

/-- Once the console is said to be locked with a key, that key opens it and, if it is not empty, no
other. Once it has been unlocked, every key does. Neither changes with the theme, as long as no
write breaks off half-way. -/
theorem lock_admits (env : Environment) (args : List String) (mm : MemoryMachine)
    (parsed : parse args = .ok invocation) (locks : invocation.command = .lock key) :
    let ran := (run machine env args).run mm
    (∀ k, key = some k → ran.1.1.terminal.out = "Dashboard locked\n" →
      ∃ config client, invocation.settings env mm.files = .ok (config, client) ∧
        Admits ran.2 config.preferencesPath fun given => k = "" ∨ given = k) ∧
    (key = none → ran.1.1.code = 0 →
      ∃ config client, invocation.settings env mm.files = .ok (config, client) ∧
        Admits ran.2 config.preferencesPath fun _ => True) := by
  intro ran
  rcases run_lock_cases env args mm parsed locks with
    ⟨code, silent⟩ | ⟨config, client, settings, -, -, keeps⟩
  · constructor
    · intro k _ told
      exact absurd (silent.symm.trans told) (by decide)
    · intro _ succeeded
      cases code.symm.trans succeeded
  · constructor
    · rintro k rfl -
      refine ⟨config, client, settings, admits_of_keeps keeps fun given => ?_⟩
      simp only [Option.some.injEq, forall_eq']
    · rintro rfl -
      refine ⟨config, client, settings, admits_of_keeps keeps fun given => ?_⟩
      simp only [reduceCtorEq, false_implies, implies_true]

def MemoryMachine.unlocked : MemoryMachine where
  files := freshFiles "/home/op"

def MemoryMachine.operator : Environment where
  home := some "/home/op"
  now := ⟨0, 0⟩

theorem preferencesPath_operator (plain : invocation.config = none) {config : Config}
    {client : Http.Client} (valid : invocation.settings operator mm.files = .ok (config, client)) :
    config.preferencesPath = (Config.default operator.home).preferencesPath := by
  obtain ⟨command, path, api, apiKey, userKey⟩ := invocation
  obtain rfl : path = none := plain
  obtain ⟨own, source, built⟩ := bind_eq_ok.mp valid
  obtain ⟨_, -, same⟩ := bind_eq_ok.mp built
  cases source
  cases same
  rfl

/-- A key that is not empty locks the console, also when the theme is changed afterwards. -/
theorem locked_with_key :
    let locked := (run machine operator ["lock", "k3y"]).run .unlocked
    let later := ((run machine operator ["theme", "light"]).run locked.2).2
    locked.1.1.terminal.out = "Dashboard locked\n" ∧
      ∀ ui given, ((Console.fresh ui (.load later.files
        (Config.default operator.home).preferencesPath)).session.authorize given).1 = true ↔
          given = "k3y" := by
  intro locked later
  have told : locked.1.1.terminal.out = "Dashboard locked\n" := by decide +kernel
  obtain ⟨config, client, valid, admits⟩ :=
    (lock_admits operator ["lock", "k3y"] .unlocked rfl rfl).1 "k3y" rfl told
  have place := preferencesPath_operator rfl valid
  rw [place] at admits
  have themed : ThemeRuns (Config.default operator.home).preferencesPath locked.2 later :=
    .next .none rfl rfl fun _ _ => preferencesPath_operator rfl
  refine ⟨told, fun ui given => (admits later themed ui given).trans ?_⟩
  exact or_iff_right (by decide)

/-- A console that is said to be locked lets in nobody without its key. -/
def LocksOut : Prop :=
  ∀ (env : Environment) (args : List String) (mm : MemoryMachine) (invocation : Invocation)
    (k : String) (config : Config) (client : Http.Client) (ui : UiConfig) (given : String),
    parse args = .ok invocation → invocation.command = .lock (some k) →
    invocation.settings env mm.files = .ok (config, client) →
    ((run machine env args).run mm).1.1.terminal.out = "Dashboard locked\n" →
    (((Console.fresh ui (.load ((run machine env args).run mm).2.files
      config.preferencesPath)).session.authorize given).1 = true ↔ given = k)

/-- The empty key is said to lock the console, and leaves it open to any key. -/
theorem not_locksOut : ¬ LocksOut := by
  intro locksOut
  let locked := (run machine operator ["lock", ""]).run .unlocked
  have told : locked.1.1.terminal.out = "Dashboard locked\n" := by decide +kernel
  rcases run_lock_cases operator ["lock", ""] .unlocked rfl rfl with
    ⟨-, silent⟩ | ⟨config, client, valid, -, -, keeps⟩
  · exact absurd (silent.symm.trans told) (by decide)
  · have law :=
      locksOut operator ["lock", ""] .unlocked _ "" config client {} "guess" rfl rfl valid told
    have admitted := (authorize_iff keeps {} "guess").mpr fun k same =>
      .inl (Option.some.inj same).symm
    exact absurd (law.mp admitted) (by decide)

end PoolConsole.Cli
