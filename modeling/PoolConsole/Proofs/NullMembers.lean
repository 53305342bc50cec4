import PoolConsole.Json.Record
import PoolConsole.Reply

namespace PoolConsole.Json

/-- The second members are the first ones and a null under a new name, wherever that stands. -/
inductive NullAdded (name : String) : List (String × Json) → List (String × Json) → Prop
  | intro (before after : List (String × Json)) :
      name ∉ (before ++ after).map Prod.fst →
      NullAdded name (before ++ after) (before ++ (name, .null) :: after)

/-- The second members are the first ones with another value at the place of a name. -/
inductive Replaced (name : String) (old new : Json) :
    List (String × Json) → List (String × Json) → Prop
  | intro (before after : List (String × Json)) :
      name ∉ before.map Prod.fst →
      Replaced name old new (before ++ (name, old) :: after) (before ++ (name, new) :: after)

variable {name other : String} {value old new : Json}
  {before after untold told : List (String × Json)}

theorem lookup_eq_none_iff : before.lookup name = none ↔ name ∉ before.map Prod.fst := by
  rw [List.lookup_eq_none_iff, List.mem_map]
  constructor
  · rintro absent ⟨e, mem, rfl⟩
    exact bne_iff_ne.mp (absent e mem) rfl
  · intro absent e mem
    exact bne_iff_ne.mpr fun same => absent ⟨e, mem, same.symm⟩

/-- A member is found where its name first stands. -/
theorem lookup_member (fresh : name ∉ before.map Prod.fst) :
    (before ++ (name, value) :: after).lookup name = some value := by
  rw [List.lookup_append, lookup_eq_none_iff.mpr fresh, List.lookup_cons_self, Option.none_or]

/-- The other members are found as if it were not there. -/
theorem lookup_other (different : other ≠ name) :
    (before ++ (name, value) :: after).lookup other = (before ++ after).lookup other := by
  rw [List.lookup_append, List.lookup_append, List.lookup_cons, beq_eq_false_iff_ne.mpr different]

namespace NullAdded

variable (added : NullAdded name untold told)
include added

theorem lookup_untold : untold.lookup name = none := by
  obtain ⟨_, _, fresh⟩ := added
  exact lookup_eq_none_iff.mpr fresh

theorem lookup_told : told.lookup name = some .null := by
  obtain ⟨_, _, fresh⟩ := added
  rw [List.map_append, List.mem_append, not_or] at fresh
  exact lookup_member fresh.1

theorem lookup_eq (different : other ≠ name) : told.lookup other = untold.lookup other := by
  cases added
  exact lookup_other different

end NullAdded

namespace Replaced

variable (replaced : Replaced name old new untold told)
include replaced

theorem lookup_untold : untold.lookup name = some old := by
  obtain ⟨_, _, fresh⟩ := replaced
  exact lookup_member fresh

theorem lookup_told : told.lookup name = some new := by
  obtain ⟨_, _, fresh⟩ := replaced
  exact lookup_member fresh

theorem lookup_eq (different : other ≠ name) : told.lookup other = untold.lookup other := by
  cases replaced
  rw [lookup_other different, lookup_other different]

end Replaced

section

variable {α : Type} (other) (read : Json → Option α) (default : α)

/-- A field reads the same with a null added if null reads as nothing there. -/
theorem NullAdded.field_eq (added : NullAdded name untold told)
    (tolerant : other = name → read .null = some default) :
    field (told.lookup ·) other read default = field (untold.lookup ·) other read default := by
  by_cases here : other = name
  · subst here
    simp only [field, added.lookup_told, added.lookup_untold, tolerant rfl]
  · simp only [field, added.lookup_eq here]

/-- A field reads the same from another value that reads the same. -/
theorem Replaced.field_eq (replaced : Replaced name old new untold told)
    (same : other = name → read new = read old) :
    field (told.lookup ·) other read default = field (untold.lookup ·) other read default := by
  by_cases here : other = name
  · subst here
    simp only [field, replaced.lookup_told, replaced.lookup_untold, same rfl]
  · simp only [field, replaced.lookup_eq here]

end

/-- A null error is none. -/
theorem NullAdded.refusal?_eq (added : NullAdded name untold told) :
    Reply.refusal? (.object told) = Reply.refusal? (.object untold) := by
  by_cases error : "error" = name
  · subst error
    simp only [Reply.refusal?, get?, added.lookup_told, added.lookup_untold]
  · simp only [Reply.refusal?, get?, added.lookup_eq error]

theorem Replaced.refusal?_eq (replaced : Replaced name old new untold told)
    (different : "error" ≠ name) :
    Reply.refusal? (.object told) = Reply.refusal? (.object untold) := by
  simp only [Reply.refusal?, get?, replaced.lookup_eq different]

end PoolConsole.Json
