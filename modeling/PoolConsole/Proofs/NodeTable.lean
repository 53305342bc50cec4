import Mathlib.Data.List.Forall2
import PoolConsole.Resources.Rows

namespace PoolConsole

/-! ## Sorting by a falling key -/

section

variable {α : Type} {key : α → Nat} {l : List α}

theorem falling_trans (key : α → Nat) (a b c : α) (ab : decide (key b ≤ key a) = true)
    (bc : decide (key c ≤ key b) = true) : decide (key c ≤ key a) = true := by
  simp only [decide_eq_true_eq] at *
  omega

theorem falling_total (key : α → Nat) (a b : α) :
    (decide (key b ≤ key a) || decide (key a ≤ key b)) = true := by
  simp only [Bool.or_eq_true, decide_eq_true_eq]
  omega

theorem pairwise_mergeSort_falling (key : α → Nat) (l : List α) :
    (l.mergeSort fun a b => key b ≤ key a).Pairwise fun a b => key b ≤ key a :=
  (List.pairwise_mergeSort (falling_trans key) (falling_total key) l).imp of_decide_eq_true

/-- The elements of one key keep their order. -/
theorem filter_mergeSort_falling (key : α → Nat) (l : List α) (k : Nat) :
    (l.mergeSort fun a b => key b ≤ key a).filter (fun a => key a = k) =
      l.filter fun a => key a = k := by
  have tied : (l.filter fun a => key a = k).Pairwise fun a b => decide (key b ≤ key a) = true := by
    rw [List.pairwise_filter]
    refine List.pairwise_of_forall fun a b => ?_
    simp only [decide_eq_true_eq]
    omega
  -- what is tied is a sublist of the sorted list, and there are no more of it there
  have kept := (List.sublist_mergeSort (falling_trans key) (falling_total key) tied
    List.filter_sublist).filter fun a => key a = k
  rw [List.filter_filter] at kept
  simp only [Bool.and_self] at kept
  exact (kept.eq_of_length ((List.mergeSort_perm l _).filter _).length_eq.symm).symm

theorem eq_filter_append_filter {n : Nat} (sorted : l.Pairwise fun a b => key b ≤ key a)
    (bounded : ∀ a ∈ l, key a ≤ n) :
    l = (l.filter fun a => key a = n) ++ l.filter fun a => key a < n := by
  induction l with
  | nil => rfl
  | cons a l ih =>
    obtain ⟨above, sorted⟩ := List.pairwise_cons.mp sorted
    obtain ⟨first, bounded⟩ := List.forall_mem_cons.mp bounded
    by_cases top : key a = n
    · have rest := ih sorted bounded
      simp only [List.filter_cons, top, decide_true, Nat.lt_irrefl, decide_false, if_true,
        Bool.false_eq_true, if_false, List.cons_append]
      rw [← rest]
    · have below : ∀ b ∈ a :: l, key b < n := by
        rw [List.forall_mem_cons]
        refine ⟨by omega, fun b mem => ?_⟩
        have := above b mem
        omega
      have none : (a :: l).filter (fun b => key b = n) = [] := by
        rw [List.filter_eq_nil_iff]
        intro b mem
        simpa using Nat.ne_of_lt (below b mem)
      have all : (a :: l).filter (fun b => key b < n) = a :: l := by
        rw [List.filter_eq_self]
        simpa using below
      rw [none, all, List.nil_append]

/-- A list that is sorted by a falling key has the keys one after another. -/
theorem eq_flatMap_filter {n : Nat} (sorted : l.Pairwise fun a b => key b ≤ key a)
    (bounded : ∀ a ∈ l, key a < n) :
    l = (List.range n).reverse.flatMap fun k => l.filter fun a => key a = k := by
  induction n generalizing l with
  | zero =>
    have empty : l = [] :=
      List.eq_nil_iff_forall_not_mem.mpr fun a mem => Nat.not_lt_zero _ (bounded a mem)
    rw [empty]
    rfl
  | succ n ih =>
    have lower : (l.filter fun a => key a < n) =
        (List.range n).reverse.flatMap fun k => l.filter fun a => key a = k := by
      rw [ih (sorted.sublist List.filter_sublist) (by simp)]
      refine List.flatMap_congr fun k mem => ?_
      have small : k < n := by simpa using mem
      rw [List.filter_filter]
      refine List.filter_congr fun a _ => ?_
      simp only [Bool.and_eq_left_iff_imp, decide_eq_true_eq]
      rintro rfl
      exact small
    rw [List.range_succ, List.reverse_concat, List.flatMap_cons, ← lower]
    exact eq_filter_append_filter sorted fun a mem => Nat.le_of_lt_succ (bounded a mem)

end

/-! ## Devices by name -/

/-- The device is the last one of the name. -/
def LastNamed (devices : List Device) (name : String) (d : Device) : Prop :=
  d.name = name ∧ ∃ before after, devices = before ++ d :: after ∧ ∀ e ∈ after, e.name ≠ name

/-- The devices that no GPU entry names. -/
def devicesAlone (devices : List Device) (gpus : List GpuNode) : List Device :=
  devices.filter fun d => ∀ gpu ∈ gpus, gpu.node ≠ d.name

variable {devices : List Device} {gpus : List GpuNode} {name : String} {d : Device}

theorem mem_devicesAlone :
    d ∈ devicesAlone devices gpus ↔ d ∈ devices ∧ ∀ gpu ∈ gpus, gpu.node ≠ d.name := by
  simp [devicesAlone]

namespace NodeRow

theorem deviceOf?_eq_some_iff : deviceOf? devices name = some d ↔ LastNamed devices name d := by
  unfold deviceOf? LastNamed
  rw [List.find?_eq_some_iff_append, decide_eq_true_eq]
  refine and_congr_right fun _ => ⟨?_, ?_⟩
  · rintro ⟨later, earlier, split, others⟩
    refine ⟨earlier.reverse, later.reverse, ?_, fun e mem => ?_⟩
    · simpa using List.reverse_eq_append_iff.mp split
    · simpa using others e (List.mem_reverse.mp mem)
  · rintro ⟨before, after, rfl, others⟩
    refine ⟨after.reverse, before.reverse, by simp, fun e mem => ?_⟩
    simpa using others e (List.mem_reverse.mp mem)

theorem deviceOf?_eq_none_iff : deviceOf? devices name = none ↔ ∀ d ∈ devices, d.name ≠ name := by
  simp [deviceOf?, List.find?_eq_none]

/-! ## Rows -/

def pressures (d : Device) : List String :=
  ([("memory_pressure", d.memoryPressure), ("disk_pressure", d.diskPressure),
    ("pid_pressure", d.pidPressure)].filter (·.2)).map (·.1)

/-- The row shows the entry, with the state of the last device of that name, if there is one. -/
structure ShowsGpus (devices : List Device) (gpu : GpuNode) (row : NodeRow) : Prop where
  node : row.node = gpu.node
  models : row.models = modelsText gpu.models
  used : row.used = usedPercent gpu
  total : row.total = gpu.total
  known : ∀ d, LastNamed devices gpu.node d →
    row.cordoned = d.cordoned ∧ row.ready = d.ready ∧ row.issues = ", ".intercalate (pressures d)
  unknown : (∀ d ∈ devices, d.name ≠ gpu.node) →
    row.cordoned = false ∧ row.ready = gpu.ready ∧ row.issues = ""

structure ShowsDevice (d : Device) (row : NodeRow) : Prop where
  node : row.node = d.name
  models : row.models = "-"
  used : row.used = 0
  total : row.total = 0
  issues : row.issues = ", ".intercalate (pressures d)
  cordoned : row.cordoned = d.cordoned
  ready : row.ready = d.ready

theorem issuesText_eq (d : Device) : issuesText d = ", ".intercalate (pressures d) := by
  obtain ⟨name, ready, cordoned, memory, disk, pid⟩ := d
  cases memory <;> cases disk <;> cases pid <;> rfl

theorem showsGpus_ofGpus (devices : List Device) (gpu : GpuNode) :
    ShowsGpus devices gpu (ofGpus (deviceOf? devices gpu.node) gpu) where
  node := rfl
  models := rfl
  used := rfl
  total := rfl
  known d last := by
    rw [deviceOf?_eq_some_iff.mpr last]
    exact ⟨rfl, rfl, issuesText_eq d⟩
  unknown absent := by
    rw [deviceOf?_eq_none_iff.mpr absent]
    exact ⟨rfl, rfl, rfl⟩

theorem showsDevice_ofDevice (d : Device) : ShowsDevice d (ofDevice d) :=
  ⟨rfl, rfl, rfl, rfl, issuesText_eq d, rfl, rfl⟩

theorem unsorted_eq (devices : List Device) (gpus : List GpuNode) :
    unsorted devices gpus = gpus.map (fun gpu => ofGpus (deviceOf? devices gpu.node) gpu) ++
      (devicesAlone devices gpus).map ofDevice := by
  unfold unsorted devicesAlone
  congr 2
  refine List.filter_congr fun d _ => ?_
  rw [List.not_any_eq_all_not, Bool.eq_iff_iff]
  simp

/-! ## Classes of rows -/

/-- Whether a row is ready and whether it is cordoned. -/
def state (row : NodeRow) : Bool × Bool :=
  (row.ready, row.cordoned)

def states : List (Bool × Bool) :=
  [(false, true), (false, false), (true, true), (true, false)]

def weight : Bool × Bool → Nat
  | (ready, cordoned) => (if ready then 0 else 2) + (if cordoned then 1 else 0)

theorem severity_eq_iff {row : NodeRow} {s : Bool × Bool} :
    row.severity = weight s ↔ row.state = s := by
  obtain ⟨ready, cordoned⟩ := s
  have injective : ∀ a b c d : Bool, weight (a, b) = weight (c, d) ↔ (a, b) = (c, d) := by decide
  exact injective row.ready row.cordoned ready cordoned

theorem severity_lt (row : NodeRow) : row.severity < 4 := by
  unfold severity
  split <;> split <;> decide

theorem map_weight_states : states.map weight = (List.range 4).reverse := by decide

/-- The rows of each state are those of the unsorted table, in its order. -/
theorem combine_eq (devices : List Device) (gpus : List GpuNode) :
    combine devices gpus =
      states.flatMap fun s => (unsorted devices gpus).filter fun row => row.state = s := by
  calc
    combine devices gpus = (List.range 4).reverse.flatMap fun k =>
        (combine devices gpus).filter fun row => row.severity = k :=
      eq_flatMap_filter (pairwise_mergeSort_falling severity _) fun row _ => severity_lt row
    _ = states.flatMap fun s =>
        (unsorted devices gpus).filter fun row => row.severity = weight s := by
      rw [← map_weight_states, List.flatMap_map]
      refine List.flatMap_congr fun s _ => ?_
      exact filter_mergeSort_falling severity _ (weight s)
    _ = states.flatMap fun s => (unsorted devices gpus).filter fun row => row.state = s := by
      simp only [severity_eq_iff]

end NodeRow

open NodeRow

structure NodeTable (devices : List Device) (gpus : List GpuNode) (held alone rows : List NodeRow) :
    Prop where
  entries : List.Forall₂ (ShowsGpus devices) gpus held
  others : List.Forall₂ ShowsDevice (devicesAlone devices gpus) alone
  perm : rows.Perm (held ++ alone)
  /-- Within a state the rows of GPUs come first, and each kind is in the order listed. -/
  ordered : rows = states.flatMap fun s =>
    held.filter (fun row => row.state = s) ++ alone.filter fun row => row.state = s
  nodes : ∀ name, (∃ row ∈ rows, row.node = name) ↔
    (∃ d ∈ devices, d.name = name) ∨ ∃ gpu ∈ gpus, gpu.node = name
  nodup : (devices.map (·.name)).Nodup → (gpus.map (·.node)).Nodup → (rows.map (·.node)).Nodup

/-- The table joins the devices with the GPU entries, one row for each entry and for each device
that no entry names, by state and then as listed. -/
theorem nodes_combined (devices : List Device) (gpus : List GpuNode) :
    ∃ held alone, NodeTable devices gpus held alone (combine devices gpus) := by
  let held := gpus.map fun gpu => ofGpus (deviceOf? devices gpu.node) gpu
  let alone := (devicesAlone devices gpus).map ofDevice
  have perm : (combine devices gpus).Perm (held ++ alone) :=
    unsorted_eq devices gpus ▸ List.mergeSort_perm _ _
  have names : (held ++ alone).map (·.node) =
      gpus.map (·.node) ++ (devicesAlone devices gpus).map (·.name) := by
    simp [held, alone, ofGpus, ofDevice, Function.comp_def]
  refine ⟨held, alone, ?_⟩
  constructor
  case entries =>
    rw [List.forall₂_map_right_iff, List.forall₂_same]
    exact fun gpu _ => showsGpus_ofGpus devices gpu
  case others =>
    rw [List.forall₂_map_right_iff, List.forall₂_same]
    exact fun d _ => showsDevice_ofDevice d
  case perm => exact perm
  case ordered =>
    simp only [combine_eq, unsorted_eq, List.filter_append, held, alone]
  case nodes =>
    intro name
    have listed : (∃ row ∈ combine devices gpus, row.node = name) ↔
        name ∈ gpus.map (·.node) ++ (devicesAlone devices gpus).map (·.name) := by
      rw [← names, ← (perm.map _).mem_iff, List.mem_map]
    rw [listed]
    simp only [List.mem_append, List.mem_map, mem_devicesAlone]
    constructor
    · rintro (gpu | ⟨d, ⟨mem, -⟩, same⟩)
      · exact .inr gpu
      · exact .inl ⟨d, mem, same⟩
    · rintro (⟨d, mem, rfl⟩ | gpu)
      · by_cases entered : ∃ gpu ∈ gpus, gpu.node = d.name
        · exact .inl entered
        · exact .inr ⟨d, ⟨mem, fun gpu there same => entered ⟨gpu, there, same⟩⟩, rfl⟩
      · exact .inl gpu
  case nodup =>
    intro distinctDevices distinctGpus
    rw [(perm.map _).nodup_iff, names, List.nodup_append]
    refine ⟨distinctGpus, distinctDevices.sublist (List.filter_sublist.map _), ?_⟩
    intro name entered _ other same
    obtain ⟨gpu, there, rfl⟩ := List.mem_map.mp entered
    obtain ⟨d, mem, rfl⟩ := List.mem_map.mp other
    exact (mem_devicesAlone.mp mem).2 gpu there same

end PoolConsole
