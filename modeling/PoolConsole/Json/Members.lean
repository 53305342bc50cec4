import PoolConsole.Json.Basic

namespace PoolConsole

structure Members where
  entries : List (String × Json)
  nodup : (entries.map Prod.fst).Nodup

namespace Members

theorem ext {a b : Members} (h : a.entries = b.entries) : a = b := by
  cases a; cases b; cases h; rfl

def empty : Members := ⟨[], .nil⟩

instance : EmptyCollection Members := ⟨empty⟩
instance : Inhabited Members := ⟨empty⟩

theorem mem_keys_put {key k : String} {value : Json} {entries : List (String × Json)}
    (h : k ∈ (Json.put key value entries).map Prod.fst) : k = key ∨ k ∈ entries.map Prod.fst := by
  induction entries with
  | nil => simpa [Json.put] using h
  | cons a rest ih =>
    simp only [Json.put] at h
    split at h
    · exact .inr (by simpa using h)
    · rcases List.mem_cons.1 h with h | h
      · exact .inr (by simp [h])
      · exact (ih h).imp id (by simp +contextual)

theorem nodup_put {entries : List (String × Json)} (key : String) (value : Json)
    (h : (entries.map Prod.fst).Nodup) : ((Json.put key value entries).map Prod.fst).Nodup := by
  induction entries with
  | nil => simp [Json.put]
  | cons a rest ih =>
    obtain ⟨ha, hrest⟩ := List.nodup_cons.1 h
    simp only [Json.put]
    split
    next heq => exact List.nodup_cons.2 ⟨ha, hrest⟩
    next hne =>
      refine List.nodup_cons.2 ⟨fun hmem => ?_, ih hrest⟩
      rcases mem_keys_put hmem with h | h
      · exact hne h
      · exact ha h

/-- A new key comes last. -/
theorem put_of_new {key : String} {entries : List (String × Json)}
    (new : key ∉ entries.map Prod.fst) (value : Json) :
    Json.put key value entries = entries ++ [(key, value)] := by
  induction entries with
  | nil => rfl
  | cons a rest ih =>
    obtain ⟨other, new⟩ := List.ne_and_not_mem_of_not_mem_cons new
    rw [Json.put, if_neg other.symm, ih new, List.cons_append]

/-- Sets a member: a key that is there keeps its place, a new one comes last. -/
def put (m : Members) (key : String) (value : Json) : Members :=
  ⟨Json.put key value m.entries, nodup_put key value m.nodup⟩

/-- Some members; a repeated key keeps its first place and takes its last value. -/
def ofList (entries : List (String × Json)) : Members :=
  entries.foldl (fun m e => m.put e.1 e.2) empty

def get? (m : Members) (key : String) : Option Json :=
  m.entries.lookup key

def keys (m : Members) : List String :=
  m.entries.map Prod.fst

theorem entries_put {m : Members} {key : String} (new : key ∉ m.keys) (value : Json) :
    (m.put key value).entries = m.entries ++ [(key, value)] :=
  put_of_new new value

/-- Members with different keys are kept as they are. -/
theorem entries_ofList {entries : List (String × Json)}
    (distinct : (entries.map Prod.fst).Nodup) : (ofList entries).entries = entries := by
  suffices ∀ m : Members, (∀ e ∈ entries, e.1 ∉ m.keys) →
      (entries.foldl (fun m e => m.put e.1 e.2) m).entries = m.entries ++ entries from
    this empty (by simp [empty, keys])
  induction entries with
  | nil => simp
  | cons a rest ih =>
    intro m new
    obtain ⟨first, distinct⟩ := List.nodup_cons.mp distinct
    have added := entries_put (new a List.mem_cons_self) a.2
    rw [List.foldl_cons, ih distinct, added, List.append_assoc]
    · rfl
    · intro e mem there
      rw [keys, added, List.map_append, List.mem_append, List.mem_map, List.map_singleton,
        List.mem_singleton] at there
      rcases there with old | same
      · exact new e (List.mem_cons_of_mem _ mem) (List.mem_map.mpr old)
      · exact first (same ▸ List.mem_map_of_mem mem)

theorem get?_of_mem {m : Members} {e : String × Json} (mem : e ∈ m.entries) :
    m.get? e.1 = some e.2 := by
  obtain ⟨entries, distinct⟩ := m
  change entries.lookup e.1 = some e.2
  change e ∈ entries at mem
  induction entries with
  | nil => cases mem
  | cons a rest ih =>
    obtain ⟨first, distinct⟩ := List.nodup_cons.mp distinct
    rw [List.lookup_cons]
    rcases List.mem_cons.mp mem with rfl | mem
    · rw [beq_self_eq_true]
    · have other : (e.1 == a.1) = false :=
        beq_eq_false_iff_ne.mpr fun same => first (same ▸ List.mem_map_of_mem mem)
      rw [other]
      exact ih distinct mem

def toJson (m : Members) : Json :=
  .object m.entries

def ofJson? : Json → Option Members
  | .object entries => some (ofList entries)
  | _ => none

end Members

end PoolConsole
