/-!
Finite maps from texts, listed by key in ascending order of code points. The order is part of the
type, so two maps with the same entries are equal.
-/

namespace PoolConsole

structure KeyMap (α : Type) where
  entries : List (String × α)
  sorted : entries.Pairwise (fun a b => a.1 < b.1)

namespace KeyMap

variable {α β : Type}

theorem ext {a b : KeyMap α} (h : a.entries = b.entries) : a = b := by
  cases a; cases b; cases h; rfl

instance [DecidableEq α] : DecidableEq (KeyMap α) := fun a b =>
  if h : a.entries = b.entries then .isTrue (ext h)
  else .isFalse fun e => h (congrArg KeyMap.entries e)

def empty : KeyMap α := ⟨[], .nil⟩

instance : EmptyCollection (KeyMap α) := ⟨empty⟩
instance : Inhabited (KeyMap α) := ⟨empty⟩

def isEmpty (m : KeyMap α) : Bool := m.entries.isEmpty

def keys (m : KeyMap α) : List String := m.entries.map Prod.fst

def values (m : KeyMap α) : List α := m.entries.map Prod.snd

def get? (m : KeyMap α) (key : String) : Option α := m.entries.lookup key

def contains (m : KeyMap α) (key : String) : Bool := (m.get? key).isSome

/-- Puts an entry at its place, in place of one with the same key. -/
def insertEntry (key : String) (value : α) : List (String × α) → List (String × α)
  | [] => [(key, value)]
  | (k, v) :: rest =>
    if key < k then (key, value) :: (k, v) :: rest
    else if key = k then (key, value) :: rest
    else (k, v) :: insertEntry key value rest

theorem mem_insertEntry {key : String} {value : α} {entries : List (String × α)}
    {e : String × α} (h : e ∈ insertEntry key value entries) : e = (key, value) ∨ e ∈ entries := by
  induction entries with
  | nil => simpa [insertEntry] using h
  | cons a rest ih =>
    simp only [insertEntry] at h
    split at h
    · simpa using h
    · split at h
      · rcases List.mem_cons.1 h with h | h
        · exact .inl h
        · exact .inr (List.mem_cons_of_mem _ h)
      · rcases List.mem_cons.1 h with h | h
        · exact .inr (h ▸ List.mem_cons_self)
        · exact (ih h).imp id (List.mem_cons_of_mem _)

theorem sorted_insertEntry {entries : List (String × α)} (key : String) (value : α)
    (h : entries.Pairwise (fun a b => a.1 < b.1)) :
    (insertEntry key value entries).Pairwise (fun a b => a.1 < b.1) := by
  induction entries with
  | nil => simp [insertEntry]
  | cons a rest ih =>
    obtain ⟨ha, hrest⟩ := List.pairwise_cons.1 h
    simp only [insertEntry]
    split
    next hlt =>
      refine List.pairwise_cons.2 ⟨fun e he => ?_, h⟩
      rcases List.mem_cons.1 he with rfl | he
      · exact hlt
      · exact String.lt_trans hlt (ha e he)
    next hge =>
      split
      next heq => exact List.pairwise_cons.2 ⟨fun e he => heq ▸ ha e he, hrest⟩
      next hne =>
        refine List.pairwise_cons.2 ⟨fun e he => ?_, ih hrest⟩
        rcases mem_insertEntry he with rfl | he
        · rcases Std.lt_trichotomy a.1 key with h | h | h
          · exact h
          · exact absurd h.symm hne
          · exact absurd h hge
        · exact ha e he

theorem lookup_insertEntry (key k : String) (value : α) (entries : List (String × α)) :
    (insertEntry key value entries).lookup k =
      if k = key then some value else entries.lookup k := by
  induction entries with
  | nil =>
    by_cases hk : k = key <;> simp [insertEntry, List.lookup_cons, hk, beq_eq_false_iff_ne.2]
  | cons a rest ih =>
    obtain ⟨first, v⟩ := a
    simp only [insertEntry]
    split
    next => by_cases hk : k = key <;> simp [List.lookup_cons, hk, beq_eq_false_iff_ne.2]
    next =>
      split
      next heq =>
        subst heq
        by_cases hk : k = key <;> simp [List.lookup_cons, hk, beq_eq_false_iff_ne.2]
      next hne =>
        by_cases hk : k = first
        · simp [hk, Ne.symm hne]
        · simp [List.lookup_cons, beq_eq_false_iff_ne.2 hk, ih]

def insert (m : KeyMap α) (key : String) (value : α) : KeyMap α :=
  ⟨insertEntry key value m.entries, sorted_insertEntry key value m.sorted⟩

theorem isEmpty_iff {m : KeyMap α} : m.isEmpty = true ↔ m = ∅ := by
  unfold isEmpty
  rw [List.isEmpty_iff]
  constructor
  · intro none
    exact ext none
  · rintro rfl
    rfl

@[simp] theorem get?_empty (k : String) : (∅ : KeyMap α).get? k = none := rfl

theorem get?_insert (m : KeyMap α) (key k : String) (value : α) :
    (m.insert key value).get? k = if k = key then some value else m.get? k :=
  lookup_insertEntry key k value m.entries

/-- The map of some entries; of two with the same key the later one counts. -/
def ofList (entries : List (String × α)) : KeyMap α :=
  entries.foldl (fun m e => m.insert e.1 e.2) empty

/-- Adds the entries of a second map, which count where both have the key. -/
def union (m n : KeyMap α) : KeyMap α :=
  n.entries.foldl (fun m e => m.insert e.1 e.2) m

theorem get?_union (m n : KeyMap α) (k : String) :
    (m.union n).get? k = (n.get? k).or (m.get? k) := by
  suffices inserted : ∀ (entries : List (String × α)) (m : KeyMap α),
      entries.Pairwise (fun a b => a.1 < b.1) →
      (entries.foldl (fun m e => m.insert e.1 e.2) m).get? k =
        (entries.lookup k).or (m.get? k) from inserted n.entries m n.sorted
  intro entries
  induction entries with
  | nil => exact fun m _ => rfl
  | cons e rest ih =>
    intro m sorted
    obtain ⟨first, sorted⟩ := List.pairwise_cons.1 sorted
    rw [List.foldl_cons, ih _ sorted, get?_insert]
    by_cases here : k = e.1
    · -- The keys ascend, so this one does not come again.
      have absent : rest.lookup k = none := by
        refine List.lookup_eq_none_iff.2 fun e' mem => bne_iff_ne.2 fun same => ?_
        exact String.lt_irrefl _ (here ▸ same ▸ first e' mem)
      rw [absent, if_pos here, List.lookup_cons, here, beq_self_eq_true]
      rfl
    · rw [if_neg here, List.lookup_cons, beq_eq_false_iff_ne.2 here]

theorem get?_eq_some_iff {m : KeyMap α} {key : String} {value : α} :
    m.get? key = some value ↔ (key, value) ∈ m.entries := by
  constructor
  · intro found
    obtain ⟨before, after, split, -⟩ := List.lookup_eq_some_iff.mp found
    rw [split]
    exact List.mem_append_right before List.mem_cons_self
  · intro mem
    obtain ⟨before, after, split⟩ := List.append_of_mem mem
    refine List.lookup_eq_some_iff.mpr ⟨before, after, split, fun e earlier => bne_iff_ne.2 ?_⟩
    -- What stands earlier has a smaller key.
    have sorted := split ▸ m.sorted
    have smaller := (List.pairwise_append.1 sorted).2.2 e earlier (key, value) List.mem_cons_self
    exact fun same => String.lt_irrefl _ (same ▸ smaller)

/-- A map is known by what it holds under each key. -/
theorem ext_get? {m n : KeyMap α} (same : ∀ key, m.get? key = n.get? key) : m = n := by
  have members (e : String × α) : e ∈ m.entries ↔ e ∈ n.entries := by
    obtain ⟨key, value⟩ := e
    rw [← get?_eq_some_iff, ← get?_eq_some_iff, same key]
  have nodup (k : KeyMap α) : k.entries.Nodup := by
    unfold List.Nodup
    apply k.sorted.imp
    rintro a _ smaller rfl
    exact String.lt_irrefl _ smaller
  have perm := (List.perm_ext_iff_of_nodup (nodup m) (nodup n)).2 members
  refine ext (perm.eq_of_pairwise (fun a b _ _ before after => ?_) m.sorted n.sorted)
  exact absurd (String.lt_trans before after) (String.lt_irrefl _)

def filter (m : KeyMap α) (keep : String → α → Bool) : KeyMap α :=
  ⟨m.entries.filter fun e => keep e.1 e.2, m.sorted.filter _⟩

theorem get?_filter (m : KeyMap α) (keep : String → Bool) (k : String) :
    (m.filter fun key _ => keep key).get? k = if keep k then m.get? k else none := by
  change (m.entries.filter fun e => keep e.1).lookup k = if keep k then m.entries.lookup k else none
  induction m.entries with
  | nil => simp
  | cons e rest ih =>
    obtain ⟨first, value⟩ := e
    by_cases here : k = first
    · subst here
      cases kept : keep k with
      | true => simp [kept]
      | false => simpa [kept] using ih
    · have skipped : ((first, value) :: rest).lookup k = rest.lookup k := by
        rw [List.lookup_cons, beq_eq_false_iff_ne.2 here]
      rw [skipped, ← ih, List.filter_cons]
      split
      · rw [List.lookup_cons, beq_eq_false_iff_ne.2 here]
      · rfl

def erase (m : KeyMap α) (key : String) : KeyMap α :=
  m.filter fun k _ => k != key

theorem get?_erase (m : KeyMap α) (key k : String) :
    (m.erase key).get? k = if k = key then none else m.get? k := by
  rw [erase, get?_filter]
  by_cases same : k = key <;> simp [same]

/-- Applies a function to the values, leaving out the entries where it gives nothing. -/
def filterMap (m : KeyMap α) (f : α → Option β) : KeyMap β :=
  ⟨m.entries.filterMap fun e => (f e.2).map (e.1, ·), by
    refine List.Pairwise.filterMap _ ?_ m.sorted
    intro a b hab c hc d hd
    obtain ⟨_, _, rfl⟩ := Option.map_eq_some_iff.1 hc
    obtain ⟨_, _, rfl⟩ := Option.map_eq_some_iff.1 hd
    exact hab⟩

def map (m : KeyMap α) (f : α → β) : KeyMap β :=
  ⟨m.entries.map fun e => (e.1, f e.2), List.Pairwise.map _ (fun _ _ h => h) m.sorted⟩

end KeyMap

end PoolConsole
