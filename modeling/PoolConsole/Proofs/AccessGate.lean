import PoolConsole.Proofs.KeptPreferences
import PoolConsole.Simulation.Machine

/-!
What a console that is locked with a key does for someone without that key.

* `run_guarded`: behind the lock a command does what it does after the key has been tried, or
  nothing at all.
* `run_theme`: the one command that is open to everyone makes no call and keeps the preferences
  otherwise as they are.
* `access_gate`: the program on a machine of which the preferences hold a key. Without that key no
  other command makes a request, changes a file or prints anything.
-/

namespace PoolConsole.Cli

open Operation

section

variable {m : Type → Type} [Monad m] (handler : Handler m) (t : Terminal) {command : Command}
  (now : Instant) (key : String)

def Terminal.tried (granted : Bool) : Terminal :=
  let error := if granted then none else some "Invalid user key"
  { t with console.session.auth := ⟨granted, error⟩ }

theorem run_guarded (closed : command.isOpen = false) {granted : Bool}
    (grants : t.console.session.preferences.current.grants key = granted) :
    handler.run (command.guarded now key).run t =
      if granted then handler.run (command.script now).run (t.tried granted)
      else pure (.error { text := "Invalid user key" }, t.tried granted) := by
  unfold Command.guarded
  simp only [closed, Bool.not_false, if_true]
  -- The key is tried in one step; what is left asks only for the outcome.
  have tried : handler.run (Script.enter key >>= fun _ => command.script now).run t =
      handler.run
        ((if !t.console.session.preferences.current.grants key then (do
            let error ← Script.onConsole (.read fun c => c.session.auth.error)
            Script.fail (error.getD "Invalid user key"))
          else pure () : Script Unit) >>= fun _ => command.script now).run
        (t.tried (t.console.session.preferences.current.grants key)) := rfl
  rw [tried, grants]
  cases granted <;> rfl

theorem run_open (isOpen : command.isOpen = true) :
    handler.run (command.guarded now key).run t = handler.run (command.script now).run t := by
  unfold Command.guarded
  simp only [isOpen]
  rfl

theorem run_theme (dark : Bool) {place : String}
    (kept : t.console.session.preferences.place = some place) :
    let p := { t.console.session.preferences.current with darkMode := dark }
    handler.run ((Command.theme dark).script now).run t = handler.save place p.text >>= fun r =>
      let t := { t with console.session.preferences.current := p }
      let told := "Theme set to " ++ (if dark then "dark" else "light")
      pure (match r with
        | .ok () => (.ok .nothing, { t with out := t.out ++ String.join [told ++ "\n"] })
        | .error e => (.error (.ofError e), t)) := by
  intro p
  obtain ⟨⟨⟨connection, filter, auth, ⟨_, current⟩, ui⟩, _⟩, out, err⟩ := t
  cases kept
  refine congrArg (handler.save place p.text >>= ·) (funext fun r => ?_)
  cases r <;> rfl

end

/-- The settings that a command is carried out with, and the client that they make. -/
def Invocation.settings (invocation : Invocation) (env : Environment) (files : FileTree) :
    Outcome (Config × Http.Client) :=
  let own : Outcome Config := match invocation.config with
    | some path => Config.ofFile env.home (files.read path)
    | none => .ok (Config.default env.home)
  own >>= fun own =>
    let config := invocation.override env own
    Http.Client.ofConfig config.api >>= fun client => .ok (config, client)

namespace MemoryMachine

variable {env : Environment} {args : List String} {mm : MemoryMachine} {invocation : Invocation}
  {config : Config} {client : Http.Client}

/-- With valid settings the program is the script of its command, on a fresh console. -/
theorem run_eq (parsed : parse args = .ok invocation)
    (valid : invocation.settings env mm.files = .ok (config, client)) :
    (run machine env args).run mm =
      Prod.map (·, some (handler client)) id ((runScript (handler client)
        (invocation.command.guarded env.now ((invocation.userKey.or env.userKey).getD ""))
        { console := .fresh config.ui (.load mm.files config.preferencesPath) }).run mm) := by
  obtain ⟨own, source, built⟩ := bind_eq_ok.mp valid
  obtain ⟨_, made, same⟩ := bind_eq_ok.mp built
  cases same
  have sets : (fileSettings machine env.home invocation.config).run mm = pure (.ok own, mm) := by
    obtain ⟨_, path, _⟩ := invocation
    cases path <;> exact congrArg (·, mm) source
  unfold run
  simp only [parsed, StateT.run_bind, sets, pure_bind]
  rw [made]
  rfl

/-- Without the key a closed command leaves the machine as it is. -/
theorem runScript_locked {t : Terminal} {command : Command} {now : Instant} {key : String}
    (closed : command.isOpen = false)
    (refused : t.console.session.preferences.current.grants key = false) :
    (runScript (handler client) (command.guarded now key) t).run mm =
      (.failed { text := "Invalid user key" } (t.tried false), mm) := by
  unfold runScript
  rw [run_guarded _ _ _ _ closed refused]
  rfl

theorem save_files (place text : String) (mm : MemoryMachine) :
    (save place text mm).2 = { mm with files := (mm.files.save place text).2 } := by
  unfold save
  cases mm.files.save place text
  rfl

/-- A change of the theme does no more to the machine than to keep the preferences. -/
theorem runScript_theme {t : Terminal} {dark : Bool} {now : Instant} {key place : String}
    (kept : t.console.session.preferences.place = some place) :
    let p := { t.console.session.preferences.current with darkMode := dark }
    ((runScript (handler client) ((Command.theme dark).guarded now key) t).run mm).2 =
      { mm with files := (mm.files.save place p.text).2 } := by
  intro p
  have saves (text : String) : StateT.run ((handler client).save place text) mm =
      save place text mm := rfl
  unfold runScript
  rw [← save_files, run_open _ _ _ _ rfl, run_theme _ _ _ _ kept, bind_assoc, StateT.run_bind,
    saves]
  cases save place p.text mm with
  | mk r after =>
    cases r with
    | ok => rfl
    | error e => rfl

end MemoryMachine

/-- Only the theme is open to everyone. -/
theorem Command.isOpen_eq_false {command : Command} (other : ∀ dark, command ≠ .theme dark) :
    command.isOpen = false := by
  unfold isOpen
  split
  next dark => exact absurd rfl (other dark)
  next => rfl

/-- Whoever gives no key, or another one, is not let in. -/
theorem grants_eq_false {p : Preferences} {k : String} (kept : p.accessKey = some k)
    (filled : k ≠ "") {given : Option String} (other : given ≠ some k) :
    p.grants (given.getD "") = false := by
  have differs : k ≠ given.getD "" := by
    cases given with
    | none => exact filled
    | some key => exact fun same => other (congrArg some same.symm)
  simp only [Preferences.grants, kept, filled, decide_false, Bool.false_or, beq_eq_false_iff_ne]
  exact differs

/-- On a machine that keeps a key, no command but the theme does anything for someone who does not
give that key, and the theme leaves the key where it is. A command line that is not understood does
nothing either. -/
theorem access_gate (env : Environment) (args : List String) (mm : MemoryMachine) :
    let ran := (run MemoryMachine.machine env args).run mm
    let ending := ran.1.1
    let after := ran.2
    (∀ refusal, parse args = .error refusal →
      after = mm ∧ (refusal = .usage → ending.code = 2 ∧ ending.terminal.out = "")) ∧
    ∀ invocation config client k, parse args = .ok invocation →
      invocation.settings env mm.files = .ok (config, client) →
      (PreferenceStore.load mm.files config.preferencesPath).current.accessKey = some k → k ≠ "" →
      ((∀ dark, invocation.command ≠ .theme dark) → invocation.userKey.or env.userKey ≠ some k →
        after = mm ∧ ending.code = 1 ∧ ending.terminal.out = "" ∧
        ending.terminal.err = "Error: Invalid user key\n" ∧ ending.next = .nothing) ∧
      (∀ dark, invocation.command = .theme dark →
        after.server = mm.server ∧
        (PreferenceStore.load after.files config.preferencesPath).current.accessKey = some k) := by
  dsimp only
  refine ⟨fun refusal refused => ?_, fun invocation config client k parsed valid kept filled => ?_⟩
  · have nothing :
        (run MemoryMachine.machine env args).run mm = ((.refused refusal, none), mm) := by
      unfold run
      rw [refused]
      rfl
    rw [nothing]
    exact ⟨rfl, by rintro rfl; exact ⟨rfl, rfl⟩⟩
  rw [MemoryMachine.run_eq parsed valid]
  refine ⟨fun other unknown => ?_, fun dark theme => ?_⟩
  · rw [MemoryMachine.runScript_locked (Command.isOpen_eq_false other)
      (grants_eq_false kept filled unknown)]
    have told : "" ++ Failure.report { text := "Invalid user key" } =
        "Error: Invalid user key\n" := by decide
    exact ⟨rfl, rfl, rfl, told, rfl⟩
  · rw [theme, Prod.map_snd, MemoryMachine.runScript_theme rfl]
    generalize saves : mm.files.save config.preferencesPath _ = saved
    obtain ⟨r, after⟩ := saved
    refine ⟨rfl, PreferenceStore.accessKey_of_save kept ?_ saves⟩
    exact kept

def MemoryMachine.keyed : MemoryMachine where
  files := { nodes := [
    (["home"], .folder), (["home", "op"], .folder), (["home", "op", ".config"], .folder),
    (["home", "op", ".config", "pooldash"], .folder),
    (["home", "op", ".config", "pooldash", "prefs.json"],
      .file (some "\x7b\"access_key\": \"k3y\"\x7d"))] }

/-- To unlock the console takes the key; to change its theme does not. -/
theorem unlocking_refused :
    ((run MemoryMachine.machine { home := some "/home/op", userKey := some "key", now := ⟨0, 0⟩ }
      ["lock"]).run .keyed).2 = .keyed ∧
    (PreferenceStore.load ((run MemoryMachine.machine { home := some "/home/op", now := ⟨0, 0⟩ }
      ["theme", "light"]).run .keyed).2.files
      (Config.default (some "/home/op")).preferencesPath).current.accessKey = some "k3y" := by
  have kept : (PreferenceStore.load MemoryMachine.keyed.files
      (Config.default (some "/home/op")).preferencesPath).current.accessKey = some "k3y" := by
    decide +kernel
  have unlocking := (access_gate { home := some "/home/op", userKey := some "key", now := ⟨0, 0⟩ }
    ["lock"] .keyed).2 _ (Config.default (some "/home/op")) _ "k3y" rfl rfl kept (by decide)
  have theming := (access_gate { home := some "/home/op", now := ⟨0, 0⟩ } ["theme", "light"]
    .keyed).2 _ (Config.default (some "/home/op")) _ "k3y" rfl rfl kept (by decide)
  exact ⟨(unlocking.1 nofun (by decide)).1, (theming.2 false rfl).2⟩

end PoolConsole.Cli
