import PoolConsole.Proofs.NodeTable
import PoolConsole.Proofs.Run.NodeTranscripts
import PoolConsole.Proofs.Run.Served

/-!
Turning over whether a node is closed to new work, on a pool in memory and with nothing else under
way.

* `NodeRow.cordoned_of_mem_combine`: each row shows the flag of the device of its name.
* `flagOf_cordonDevices`: closing and opening nodes changes the flags of their devices, and a node
  without a device stays open.
* `toggle_restores`: a node with a device is shown as it has been turned, and turned over again it
  is as before. A node that only holds GPUs is said to be closed each time and never is.
-/

namespace PoolConsole

open PoolConsole.Action Console Operation NodeRow MemoryPool

/-! ## Flags of devices -/

/-- Whether the device of a name is closed to new work. What has no device is open. -/
def flagOf (devices : List Device) (name : String) : Bool :=
  ((deviceOf? devices name).map (·.cordoned)).getD false

def Names (devices : List Device) (name : String) : Prop :=
  ∃ d ∈ devices, d.name = name

instance (devices : List Device) (name : String) : Decidable (Names devices name) :=
  inferInstanceAs (Decidable (∃ d ∈ devices, d.name = name))

def MemoryPool.Lists (p : MemoryPool) (name : String) : Prop :=
  Names p.devices name ∨ ∃ gpu ∈ p.gpus, gpu.node = name

section

variable {devices : List Device} {gpus : List GpuNode} {name : String} {d : Device}

theorem flagOf_of_absent (absent : ¬ Names devices name) : flagOf devices name = false := by
  have unknown : deviceOf? devices name = none :=
    deviceOf?_eq_none_iff.mpr fun d mem same => absent ⟨d, mem, same⟩
  rw [flagOf, unknown]
  rfl

/-- Where names are not repeated, every device is the device of its name. -/
theorem deviceOf?_of_mem (distinct : (devices.map (·.name)).Nodup) (mem : d ∈ devices) :
    deviceOf? devices d.name = some d := by
  obtain ⟨before, after, rfl⟩ := List.append_of_mem mem
  refine deviceOf?_eq_some_iff.mpr ⟨rfl, before, after, rfl, fun e later same => ?_⟩
  rw [List.map_append, List.map_cons] at distinct
  have unrepeated := (List.nodup_cons.mp (List.nodup_append.mp distinct).2.1).1
  exact unrepeated (List.mem_map.mpr ⟨e, later, same⟩)

theorem flagOf_of_mem (distinct : (devices.map (·.name)).Nodup) (mem : d ∈ devices) :
    flagOf devices d.name = d.cordoned := by
  rw [flagOf, deviceOf?_of_mem distinct mem]
  rfl

/-- Each row shows the flag of the device of its name. -/
theorem NodeRow.cordoned_of_mem_combine (distinct : (devices.map (·.name)).Nodup) {row : NodeRow}
    (mem : row ∈ combine devices gpus) : row.cordoned = flagOf devices row.node := by
  rw [combine, List.mem_mergeSort, unsorted_eq, List.mem_append, List.mem_map, List.mem_map] at mem
  rcases mem with ⟨gpu, -, rfl⟩ | ⟨d, alone, rfl⟩
  · rfl
  · exact (flagOf_of_mem distinct (mem_devicesAlone.mp alone).1).symm

end

/-! ## Closing and opening nodes -/

/-- The device after nodes have been closed or opened. -/
def Device.turned (nodes : List String) (cordoned : Bool) (d : Device) : Device :=
  if nodes.contains d.name then { d with cordoned } else d

theorem Device.name_turned (nodes : List String) (cordoned : Bool) (d : Device) :
    (d.turned nodes cordoned).name = d.name := by
  unfold turned
  split <;> rfl

theorem Device.turned_turned (nodes : List String) (cordoned again : Bool) (d : Device) :
    (d.turned nodes cordoned).turned nodes again = d.turned nodes again := by
  unfold turned
  by_cases named : nodes.contains d.name
  · simp only [if_pos named]
  · simp only [if_neg named]

namespace MemoryPool

variable (devices : List Device) (nodes : List String) (cordoned : Bool) (name : String)

theorem cordonDevices_eq :
    cordonDevices devices nodes cordoned = devices.map (Device.turned nodes cordoned) := rfl

theorem map_name_cordonDevices :
    (cordonDevices devices nodes cordoned).map (·.name) = devices.map (·.name) := by
  rw [cordonDevices_eq, List.map_map]
  exact List.map_congr_left fun d _ => d.name_turned nodes cordoned

theorem cordonDevices_cordonDevices (again : Bool) :
    cordonDevices (cordonDevices devices nodes cordoned) nodes again =
      cordonDevices devices nodes again := by
  rw [cordonDevices_eq, cordonDevices_eq, List.map_map, cordonDevices_eq]
  exact List.map_congr_left fun d _ => d.turned_turned nodes cordoned again

theorem deviceOf?_cordonDevices :
    deviceOf? (cordonDevices devices nodes cordoned) name =
      (deviceOf? devices name).map (Device.turned nodes cordoned) := by
  rw [deviceOf?, cordonDevices_eq, ← List.map_reverse, List.find?_map]
  simp only [Function.comp_def, Device.name_turned]
  rfl

theorem names_cordonDevices :
    Names (cordonDevices devices nodes cordoned) name ↔ Names devices name := by
  simp only [Names, cordonDevices_eq, List.mem_map, exists_exists_and_eq_and, Device.name_turned]

theorem lists_cordonDevices (p : MemoryPool) :
    { p with devices := cordonDevices p.devices nodes cordoned }.Lists name ↔ p.Lists name :=
  or_congr_left (names_cordonDevices p.devices nodes cordoned name)

/-- The nodes that are closed or opened have the flag, as far as they are devices. -/
theorem flagOf_cordonDevices :
    flagOf (cordonDevices devices nodes cordoned) name =
      if name ∈ nodes ∧ Names devices name then cordoned else flagOf devices name := by
  unfold flagOf
  rw [deviceOf?_cordonDevices]
  cases found : deviceOf? devices name with
  | none =>
    have absent := deviceOf?_eq_none_iff.mp found
    rw [if_neg fun both => both.2.elim fun d there => absent d there.1 there.2]
    rfl
  | some d =>
    obtain ⟨rfl, before, after, rfl, -⟩ := deviceOf?_eq_some_iff.mp found
    have named : Names (before ++ d :: after) d.name := ⟨d, by simp, rfl⟩
    simp only [named, and_true, Device.turned, List.contains_iff_mem, Option.map_some,
      Option.getD_some]
    split <;> rfl

variable {devices nodes cordoned} in
/-- To give devices the flag that they have changes nothing. -/
theorem cordonDevices_eq_self
    (same : ∀ d ∈ devices, d.name ∈ nodes → d.cordoned = cordoned) :
    cordonDevices devices nodes cordoned = devices := by
  rw [cordonDevices_eq]
  refine (List.map_congr_left fun d mem => ?_).trans (List.map_id devices)
  unfold Device.turned
  split
  next named =>
    rw [← same d mem (List.contains_iff_mem.mp named)]
    rfl
  next => rfl

end MemoryPool

/-! ## What the table shows -/

def NodeBoard.Reflects (b : NodeBoard) (p : MemoryPool) : Prop :=
  b.table.data = some (combine p.devices p.gpus)

namespace NodeBoard.Reflects

variable {b : NodeBoard} {p : MemoryPool} {node : String}

theorem rows_eq (reflects : b.Reflects p) : b.rows = combine p.devices p.gpus :=
  congrArg (Option.getD · []) reflects

theorem cordoned?_eq_some_iff (reflects : b.Reflects p)
    (distinct : (p.devices.map (·.name)).Nodup) {flag : Bool} :
    b.cordoned? node = some flag ↔ p.Lists node ∧ flagOf p.devices node = flag := by
  obtain ⟨held, alone, table⟩ := nodes_combined p.devices p.gpus
  unfold NodeBoard.cordoned? NodeBoard.row?
  rw [reflects.rows_eq, Option.map_eq_some_iff]
  constructor
  · rintro ⟨row, found, rfl⟩
    have mem := List.mem_of_find?_eq_some found
    have named : row.node = node := by simpa using List.find?_some found
    subst named
    exact ⟨(table.nodes row.node).mp ⟨row, mem, rfl⟩, (cordoned_of_mem_combine distinct mem).symm⟩
  · rintro ⟨listed, rfl⟩
    obtain ⟨row, mem, named⟩ := (table.nodes node).mpr listed
    have shown : ((combine p.devices p.gpus).find? fun r => r.node = node).isSome :=
      List.find?_isSome.mpr ⟨row, mem, decide_eq_true named⟩
    obtain ⟨row, found⟩ := Option.isSome_iff_exists.mp shown
    have same : row.node = node := by simpa using List.find?_some found
    refine ⟨row, found, ?_⟩
    rw [cordoned_of_mem_combine distinct (List.mem_of_find?_eq_some found), same]

end NodeBoard.Reflects

/-! ## Runs with nothing else under way -/

namespace MemoryBackend

/-- Calls are made one at a time, and each is answered before anything else happens. -/
def handler : Handler (StateM MemoryBackend) where
  answer c b := (b.issue c).2.answer c
  save _ _ b := (.ok (), b)

variable {c : Console} {k : MemoryBackend} {node : String} {cordoned : Bool}

theorem perform_of_answer {call : Call} {a : call.Answer}
    (answered : (handler.answer call k).1 = .ok a) :
    k.pool.perform call = (.ok a, (handler.answer call k).2.pool) := by
  rcases (k.issue call).2.answer_cases call with ⟨outcome, pool⟩ | ⟨e, failed, -⟩
  · exact Prod.ext (outcome.symm.trans answered) pool.symm
  · cases failed.symm.trans answered

theorem devices_of_answer {devices : List Device}
    (answered : (handler.answer .devices k).1 = .ok devices) :
    devices = k.pool.devices ∧ (handler.answer .devices k).2.pool = k.pool := by
  have performed := perform_of_answer answered
  exact ⟨(Except.ok.inj (congrArg Prod.fst performed)).symm, (congrArg Prod.snd performed).symm⟩

theorem gpus_of_answer {gpus : List GpuNode}
    (answered : (handler.answer (.gpus false) k).1 = .ok gpus) :
    gpus = k.pool.gpus ∧ (handler.answer (.gpus false) k).2.pool = k.pool := by
  have performed := perform_of_answer answered
  have listed := Except.ok.inj (congrArg Prod.fst performed)
  have all : (k.pool.gpus.filter fun gpu => !false || 0 < gpu.available) = k.pool.gpus :=
    List.filter_eq_self.mpr fun _ _ => rfl
  exact ⟨listed.symm.trans all, (congrArg Prod.snd performed).symm⟩

/-- A load of the table that has not failed shows the pool, which it leaves alone. -/
theorem reflects_of_load {outcome : LoadOutcome}
    (loaded : (handler.transcript loadNodes c k).value = .ok outcome) :
    (handler.transcript loadNodes c k).state.nodes.Reflects k.pool ∧
      (handler.transcript loadNodes c k).left.pool = k.pool := by
  rw [Handler.transcript_loadNodes] at loaded ⊢
  dsimp only at loaded ⊢
  cases answers : (handler.answerAll [.devices, .gpus false] k).1 with
  | error e =>
    rw [answers] at loaded
    cases loaded
  | ok a =>
    obtain ⟨first, rest⟩ := handler.answerAll_cons_eq_ok_iff.mp answers
    obtain ⟨second, -⟩ := handler.answerAll_cons_eq_ok_iff.mp rest
    obtain ⟨devices, pool⟩ := devices_of_answer first
    obtain ⟨gpus, pool'⟩ := gpus_of_answer second
    rw [pool] at gpus pool'
    refine ⟨?_, pool'⟩
    rw [NodeBoard.Reflects, ← devices, ← gpus]
    exact NodeBoard.data_loaded _ _

/-- A node that has been closed or opened has been so in the pool. -/
theorem pool_of_turn
    (turned : (handler.transcript (turnRequest node cordoned) c k).value = .ok ()) :
    (handler.transcript (turnRequest node cordoned) c k).left.pool =
      { k.pool with devices := cordonDevices k.pool.devices [node] cordoned } := by
  cases cordoned with
  | true =>
    have answered : (handler.answer (.cordon [node]) k).1 = .ok () := turned
    exact (congrArg Prod.snd (perform_of_answer answered)).symm
  | false =>
    have answered : (handler.answer (.uncordon [node]) k).1 = .ok () := turned
    exact (congrArg Prod.snd (perform_of_answer answered)).symm

/-- A node that has been turned over is so in the pool, which the table then shows. -/
theorem pool_of_toggle {b : Bool}
    (toggled : (handler.transcript (toggleCordon node) c k).value = .ok b) :
    (handler.transcript (toggleCordon node) c k).left.pool =
        { k.pool with devices := cordonDevices k.pool.devices [node] b } ∧
      (handler.transcript (toggleCordon node) c k).state.nodes.Reflects
        (handler.transcript (toggleCordon node) c k).left.pool := by
  obtain ⟨-, set, state, left⟩ := handler.toggleCordon_ok toggled
  obtain ⟨turned, ⟨outcome, loaded⟩, state', left'⟩ := handler.setCordoned_ok set
  obtain ⟨reflects, pool⟩ := reflects_of_load loaded
  rw [state, left, state', left', pool, ← pool_of_turn turned]
  exact ⟨rfl, reflects⟩

/-! ### Without failures -/

theorem answer_of_sound (sound : k.failures = ∅) (call : Call) :
    (handler.answer call k).1 = (k.pool.perform call).1 ∧
      (handler.answer call k).2.failures = ∅ := by
  have answered : (k.issue call).2.answer call =
      ((k.pool.perform call).1, { (k.issue call).2 with pool := (k.pool.perform call).2 }) := by
    simp only [answer, issue, settingFor, sound, KeyMap.get?_empty, Option.or_none]
  exact ⟨congrArg Prod.fst answered, (congrArg (·.2.failures) answered).trans sound⟩

theorem load_of_sound (c : Console) (sound : k.failures = ∅) :
    (handler.transcript loadNodes c k).value = .ok .applied ∧
      (handler.transcript loadNodes c k).left.failures = ∅ := by
  obtain ⟨first, sound⟩ := answer_of_sound sound .devices
  obtain ⟨second, sound⟩ := answer_of_sound sound (.gpus false)
  have answers : ∃ a, (handler.answerAll [.devices, .gpus false] k).1 = .ok a :=
    ⟨(_, _, ()), handler.answerAll_cons_eq_ok_iff.mpr
      ⟨first, handler.answerAll_cons_eq_ok_iff.mpr ⟨second, rfl⟩⟩⟩
  obtain ⟨a, answers⟩ := answers
  rw [Handler.transcript_loadNodes]
  refine ⟨?_, sound⟩
  dsimp only
  rw [answers]
  rfl

theorem turn_of_sound (c : Console) (node : String) (cordoned : Bool) (sound : k.failures = ∅) :
    (handler.transcript (turnRequest node cordoned) c k).value = .ok () ∧
      (handler.transcript (turnRequest node cordoned) c k).left.failures = ∅ := by
  cases cordoned with
  | true => exact answer_of_sound sound (.cordon [node])
  | false => exact answer_of_sound sound (.uncordon [node])

theorem set_of_sound (c : Console) (node : String) (cordoned : Bool) (sound : k.failures = ∅) :
    (handler.transcript (setCordoned node cordoned) c k).value = .ok () ∧
      (handler.transcript (setCordoned node cordoned) c k).left.failures = ∅ := by
  obtain ⟨turned, sound⟩ := turn_of_sound c node cordoned sound
  obtain ⟨loaded, sound⟩ :=
    load_of_sound (handler.transcript (turnRequest node cordoned) c k).state sound
  rw [setCordoned_eq, handler.transcript_attempt _ turned, handler.transcript_attempt _ loaded]
  exact ⟨rfl, sound⟩

/-- Without failures a node that is shown is turned over. -/
theorem toggle_of_sound (sound : k.failures = ∅) {b : Bool}
    (shown : c.nodes.cordoned? node = some b) :
    (handler.transcript (toggleCordon node) c k).value = .ok !b ∧
      (handler.transcript (toggleCordon node) c k).left.failures = ∅ := by
  obtain ⟨row, found, rfl⟩ := Option.map_eq_some_iff.mp shown
  obtain ⟨set, sound⟩ := set_of_sound c node (!row.cordoned) sound
  simp only [toggleCordon, bind_eq, Handler.transcript_bind, Handler.transcript_read, found]
  rw [handler.transcript_attempt _ set]
  exact ⟨rfl, sound⟩

end MemoryBackend

open MemoryBackend

/-! ## Turning over and back -/

/-- What the table shows of a node that has been turned over with the value `b`. -/
structure Turned (p : MemoryPool) (node : String) (b : Bool) (before after : NodeBoard) : Prop where
  was : before.cordoned? node = some !b
  device : Names p.devices node → after.cordoned? node = some b
  /-- What only holds GPUs cannot be closed, and is said to be closed. -/
  alone : ¬ Names p.devices node → b = true ∧ after.cordoned? node = some false
  others : ∀ other, other ≠ node → after.cordoned? other = before.cordoned? other

variable {c : Console} {k : MemoryBackend} {node : String} {b b' : Bool}

theorem turned_of_toggle (distinct : (k.pool.devices.map (·.name)).Nodup)
    (reflects : c.nodes.Reflects k.pool)
    (toggled : (handler.transcript (toggleCordon node) c k).value = .ok b) :
    Turned k.pool node b c.nodes (handler.transcript (toggleCordon node) c k).state.nodes := by
  obtain ⟨was, -⟩ := handler.toggleCordon_ok toggled
  obtain ⟨pool, reflects'⟩ := pool_of_toggle toggled
  rw [pool] at reflects'
  have distinct' : ((cordonDevices k.pool.devices [node] b).map (·.name)).Nodup := by
    rwa [map_name_cordonDevices]
  have after : ∀ other flag,
      (handler.transcript (toggleCordon node) c k).state.nodes.cordoned? other = some flag ↔
        k.pool.Lists other ∧ (if other ∈ [node] ∧ Names k.pool.devices other then b
          else flagOf k.pool.devices other) = flag := by
    intro other flag
    rw [reflects'.cordoned?_eq_some_iff distinct', lists_cordonDevices, flagOf_cordonDevices]
  obtain ⟨listed, flag⟩ := (reflects.cordoned?_eq_some_iff distinct).mp was
  constructor
  case was => exact was
  case device =>
    intro device
    exact (after node b).mpr ⟨listed, if_pos ⟨List.mem_singleton_self node, device⟩⟩
  case alone =>
    intro absent
    have opened := flagOf_of_absent absent
    refine ⟨?_, (after node false).mpr ⟨listed, ?_⟩⟩
    · rw [opened] at flag
      simpa using flag.symm
    · rw [if_neg fun both => absent both.2, opened]
  case others =>
    intro other different
    refine Option.ext fun flag => ?_
    have kept : other ∉ [node] := fun mem => different (List.mem_singleton.mp mem)
    rw [after, if_neg fun both => kept both.1, reflects.cordoned?_eq_some_iff distinct]

/-- A node is turned over (`t`) and turned over again (`u`). -/
structure TurnsBack (k : MemoryBackend) (c : Console) (node : String)
    (t u : Transcript MemoryBackend Console (Outcome Bool)) : Prop where
  first : ∀ b, t.value = .ok b → Turned k.pool node b c.nodes t.state.nodes
  again : ∀ b b', t.value = .ok b → u.value = .ok b' →
    Turned k.pool node b' t.state.nodes u.state.nodes
  opposite : ∀ b b', t.value = .ok b → u.value = .ok b' → (b' = !b ↔ Names k.pool.devices node)
  restored : ∀ b b', t.value = .ok b → u.value = .ok b' →
    u.state.nodes.rows = c.nodes.rows ∧ u.left.pool = k.pool
  succeeds : k.failures = ∅ → (∃ row ∈ c.nodes.rows, row.node = node) →
    ∃ b b', t.value = .ok b ∧ u.value = .ok b'

namespace Turned

variable {p : MemoryPool} {before between after : NodeBoard}

theorem shown (turned : Turned p node b before after) :
    ∃ flag, after.cordoned? node = some flag := by
  by_cases device : Names p.devices node
  · exact ⟨b, turned.device device⟩
  · exact ⟨false, (turned.alone device).2⟩

/-- The second value is the opposite of the first one just for a device. -/
theorem eq_not_iff (first : Turned p node b before between)
    (again : Turned p node b' between after) :
    b' = (!b) ↔ Names p.devices node := by
  constructor
  · intro opposite
    by_contra absent
    obtain ⟨rfl, -⟩ := first.alone absent
    obtain ⟨rfl, -⟩ := again.alone absent
    cases opposite
  · intro device
    have shown := Option.some.inj ((first.device device).symm.trans again.was)
    rw [shown, Bool.not_not]

/-- To turn a node over twice leaves the devices as they were. -/
theorem cordonDevices_eq (distinct : (p.devices.map (·.name)).Nodup) (reflects : before.Reflects p)
    (first : Turned p node b before between) (again : Turned p node b' between after) :
    cordonDevices (cordonDevices p.devices [node] b) [node] b' = p.devices := by
  rw [cordonDevices_cordonDevices]
  refine cordonDevices_eq_self fun d mem named => ?_
  obtain rfl := List.mem_singleton.mp named
  obtain ⟨-, flag⟩ := (reflects.cordoned?_eq_some_iff distinct).mp first.was
  rw [← flagOf_of_mem distinct mem, flag, ((first.eq_not_iff again).mpr ⟨d, mem, rfl⟩)]

end Turned

/-- A node that is turned over is shown so if it is a device, and turned over again it is as before,
as is the whole table. What only holds GPUs is said to be closed every time, and stays open. -/
theorem toggle_restores (distinct : (k.pool.devices.map (·.name)).Nodup)
    (reflects : c.nodes.Reflects k.pool) :
    let t := handler.transcript (toggleCordon node) c k
    TurnsBack k c node t (handler.transcript (toggleCordon node) t.state t.left) := by
  intro t
  let u := handler.transcript (toggleCordon node) t.state t.left
  have first {b : Bool} (toggled : t.value = .ok b) := turned_of_toggle distinct reflects toggled
  have again {b b' : Bool} (toggled : t.value = .ok b) (toggled' : u.value = .ok b') :
      Turned k.pool node b' t.state.nodes u.state.nodes := by
    obtain ⟨pool, reflects'⟩ := pool_of_toggle toggled
    have distinct' : (t.left.pool.devices.map (·.name)).Nodup := by
      rw [pool]
      rwa [map_name_cordonDevices]
    have turned := turned_of_toggle distinct' reflects' toggled'
    have names : Names t.left.pool.devices node ↔ Names k.pool.devices node := by
      rw [pool]
      exact names_cordonDevices _ _ _ _
    exact ⟨turned.was, fun device => turned.device (names.mpr device),
      fun absent => turned.alone (mt names.mp absent), turned.others⟩
  constructor
  case first => exact fun b => first
  case again => exact fun b b' => again
  case opposite =>
    intro b b' toggled toggled'
    exact (first toggled).eq_not_iff (again toggled toggled')
  case restored =>
    intro b b' toggled toggled'
    have devices :=
      (first toggled).cordonDevices_eq distinct reflects (again toggled toggled')
    obtain ⟨pool, -⟩ := pool_of_toggle toggled
    obtain ⟨pool', reflects'⟩ := pool_of_toggle toggled'
    have same : u.left.pool = k.pool := by
      rw [pool', pool]
      exact congrArg (fun devices => { k.pool with devices }) devices
    refine ⟨?_, same⟩
    rw [reflects'.rows_eq, same, reflects.rows_eq]
  case succeeds =>
    rintro sound ⟨row, mem, rfl⟩
    rw [reflects.rows_eq] at mem
    obtain ⟨held, alone, table⟩ := nodes_combined k.pool.devices k.pool.gpus
    have listed := (table.nodes row.node).mp ⟨row, mem, rfl⟩
    have shown := (reflects.cordoned?_eq_some_iff distinct).mpr ⟨listed, rfl⟩
    obtain ⟨toggled, sound⟩ := toggle_of_sound sound shown
    obtain ⟨flag, shown'⟩ := (first toggled).shown
    exact ⟨_, _, toggled, (toggle_of_sound sound shown').1⟩

def ghostPool : MemoryPool where
  devices := [{ name := "d" }]
  gpus := [{ node := "g" }]

def ghostConsole : Console where
  nodes := { table := { data := some (combine ghostPool.devices ghostPool.gpus) } }

theorem ghostConsole_open {name : String} (listed : ghostPool.Lists name) :
    ghostConsole.nodes.cordoned? name = some false := by
  have reflects : ghostConsole.nodes.Reflects ghostPool := rfl
  refine (reflects.cordoned?_eq_some_iff (by decide)).mpr ⟨listed, ?_⟩
  by_cases device : Names ghostPool.devices name
  · obtain ⟨d, mem, rfl⟩ := device
    obtain rfl := List.mem_singleton.mp mem
    rfl
  · exact flagOf_of_absent device

/-- A device is closed and opened again. -/
theorem device_closed_and_opened :
    let t := handler.transcript (toggleCordon "d") ghostConsole { pool := ghostPool }
    let u := handler.transcript (toggleCordon "d") t.state t.left
    t.value = .ok true ∧ t.state.nodes.cordoned? "d" = some true ∧
      t.state.nodes.cordoned? "g" = some false ∧ u.value = .ok false ∧
      u.state.nodes.rows = ghostConsole.nodes.rows := by
  intro t u
  have device : Names ghostPool.devices "d" := by decide
  have back : TurnsBack { pool := ghostPool } ghostConsole "d" t u :=
    toggle_restores (by decide) rfl
  have shown : ghostConsole.nodes.cordoned? "d" = some false := ghostConsole_open (.inl device)
  have apart : ghostConsole.nodes.cordoned? "g" = some false :=
    ghostConsole_open (.inr ⟨_, List.mem_cons_self, rfl⟩)
  obtain ⟨row, found, -⟩ := Option.map_eq_some_iff.mp shown
  obtain ⟨b, b', toggled, toggled'⟩ := back.succeeds rfl
    ⟨row, List.mem_of_find?_eq_some found, by simpa using List.find?_some found⟩
  have first := back.first b toggled
  obtain rfl : true = b := by simpa using Option.some.inj (shown.symm.trans first.was)
  obtain rfl := (back.opposite true b' toggled toggled').mpr device
  exact ⟨toggled, first.device device, (first.others "g" (by decide)).trans apart, toggled',
    (back.restored true _ toggled toggled').1⟩

def ShownAsTurned : Prop :=
  ∀ (k : MemoryBackend) (c : Console) (node : String) (b : Bool),
    (k.pool.devices.map (·.name)).Nodup → (k.pool.gpus.map (·.node)).Nodup →
    c.nodes.Reflects k.pool → k.failures = ∅ →
    (handler.transcript (toggleCordon node) c k).value = .ok b →
    (handler.transcript (toggleCordon node) c k).state.nodes.cordoned? node = some b

theorem not_shownAsTurned : ¬ ShownAsTurned := by
  intro shownAsTurned
  have distinct : (ghostPool.devices.map (·.name)).Nodup := by decide
  have reflects : ghostConsole.nodes.Reflects ghostPool := rfl
  have shown : ghostConsole.nodes.cordoned? "g" = some false :=
    ghostConsole_open (.inr ⟨_, List.mem_cons_self, rfl⟩)
  obtain ⟨toggled, -⟩ := toggle_of_sound (k := { pool := ghostPool }) rfl shown
  have closed := shownAsTurned _ _ _ _ distinct (by decide) reflects rfl toggled
  have turned := turned_of_toggle distinct reflects toggled
  obtain ⟨-, still⟩ := turned.alone (by decide)
  cases closed.symm.trans still

end PoolConsole
