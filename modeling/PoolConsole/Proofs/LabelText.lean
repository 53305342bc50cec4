import Mathlib.Data.List.DropRight
import PoolConsole.Pool.Target

namespace PoolConsole

namespace Text

/-- Neither the first nor the last character is a blank. -/
def Trimmed (s : String) : Prop :=
  (∀ c ∈ s.toList.head?, isBlank c = false) ∧ ∀ c ∈ s.toList.getLast?, isBlank c = false

instance (s : String) : Decidable (Trimmed s) :=
  inferInstanceAs (Decidable (_ ∧ _))

theorem trimChars_eq (cs : List Char) : trimChars cs = (cs.dropWhile isBlank).rdropWhile isBlank :=
  rfl

/-- What is left once a run has been dropped does not start with a character of the run. -/
theorem not_of_head?_dropWhile (p : Char → Bool) (cs : List Char) :
    ∀ c ∈ (cs.dropWhile p).head?, p c = false := by
  intro c first
  have stops := List.head?_dropWhile_not p cs
  rw [Option.mem_def.mp first] at stops
  exact stops

theorem trimmed_trim (s : String) : Trimmed (trim s) := by
  unfold Trimmed trim
  rw [String.toList_ofList, trimChars_eq]
  constructor
  · intro c first
    have same : (s.toList.dropWhile isBlank).head? = some c := by
      obtain ⟨rest, split⟩ := List.rdropWhile_prefix isBlank (s.toList.dropWhile isBlank)
      rw [← split, List.head?_append, first]
      rfl
    exact not_of_head?_dropWhile isBlank _ c same
  · intro c last
    obtain ⟨nonempty, rfl⟩ := List.mem_getLast?_eq_getLast last
    simpa using List.rdropWhile_last_not isBlank _ nonempty

theorem trim_eq_self_iff {s : String} : trim s = s ↔ Trimmed s := by
  constructor
  · intro same
    rw [← same]
    exact trimmed_trim s
  · intro ⟨first, last⟩
    have start : s.toList.dropWhile isBlank = s.toList := by
      cases cs : s.toList with
      | nil => rfl
      | cons c rest =>
        rw [cs] at first
        have word : isBlank c = false := first c rfl
        simp [word]
    have done : s.toList.rdropWhile isBlank = s.toList := by
      rw [List.rdropWhile_eq_self_iff]
      intro nonempty
      simpa using last _ (List.getLast?_eq_some_getLast nonempty)
    rw [trim, trimChars_eq, start, done, String.ofList_toList]

/-- A blank in front is cut off. -/
theorem trim_space_append (s : String) : trim (" " ++ s) = trim s := by
  have chars : (" " ++ s).toList = ' ' :: s.toList := by
    rw [String.toList_append]
    rfl
  rw [trim, trim, chars]
  rfl

theorem mem_of_mem_trim {c : Char} {s : String} (mem : c ∈ (trim s).toList) : c ∈ s.toList := by
  rw [trim, String.toList_ofList, trimChars_eq] at mem
  have kept := (List.rdropWhile_prefix isBlank _).subset mem
  exact (List.dropWhile_suffix isBlank).subset kept

/-- Only blanks are cut off. -/
theorem mem_trim {c : Char} {s : String} (mem : c ∈ s.toList) (word : isBlank c = false) :
    c ∈ (trim s).toList := by
  rw [trim, String.toList_ofList, trimChars, trimEndChars, List.mem_reverse]
  have drops {cs : List Char} (mem : c ∈ cs) : c ∈ cs.dropWhile isBlank := by
    rw [← List.takeWhile_append_dropWhile (p := isBlank) (l := cs), List.mem_append] at mem
    rcases mem with blank | kept
    · have blank := List.mem_takeWhile_imp blank
      rw [word] at blank
      cases blank
    · exact kept
  exact drops (List.mem_reverse.mpr (drops mem))

theorem trim_eq_empty_iff {s : String} : trim s = "" ↔ isBlankText s = true := by
  rw [← String.toList_eq_nil_iff, isBlankText, List.all_eq_true]
  constructor
  · intro none c mem
    by_contra word
    have kept := mem_trim mem (Bool.eq_false_iff.mpr word)
    rw [none] at kept
    cases kept
  · intro blank
    have ends := (trimmed_trim s).1
    cases chars : (trim s).toList with
    | nil => rfl
    | cons c rest =>
      rw [chars] at ends
      have word : isBlank c = false := ends c rfl
      have mem : c ∈ (trim s).toList := chars ▸ List.mem_cons_self
      rw [blank c (mem_of_mem_trim mem)] at word
      cases word

variable {separator : Char} {s a b : String}

theorem splitFirst?_eq_some_iff :
    splitFirst? separator s = some (a, b) ↔
      s.toList = a.toList ++ separator :: b.toList ∧ separator ∉ a.toList := by
  constructor
  · intro split
    unfold splitFirst? at split
    have whole := List.takeWhile_append_dropWhile (p := (· != separator)) (l := s.toList)
    have starts := not_of_head?_dropWhile (· != separator) s.toList
    split at split
    next => cases split
    next c rest found =>
      cases split
      rw [found] at whole starts
      obtain rfl : c = separator := by simpa using starts
      rw [String.toList_ofList, String.toList_ofList]
      refine ⟨whole.symm, fun mem => ?_⟩
      simpa using List.mem_takeWhile_imp mem
  · intro ⟨whole, first⟩
    have before (c : Char) (mem : c ∈ a.toList) : (c != separator) = true := by
      rw [bne_iff_ne]
      rintro rfl
      exact first mem
    unfold splitFirst?
    rw [whole, List.dropWhile_append_of_pos before, List.takeWhile_append_of_pos before]
    simp

/-- What follows the first separator may be followed by more. -/
theorem splitFirst?_append (split : splitFirst? separator s = some (a, b)) (more : String) :
    splitFirst? separator (s ++ more) = some (a, b ++ more) := by
  obtain ⟨whole, first⟩ := splitFirst?_eq_some_iff.mp split
  rw [splitFirst?_eq_some_iff]
  refine ⟨?_, first⟩
  rw [String.toList_append, String.toList_append, whole, List.append_assoc, List.cons_append]

end Text

namespace TargetLabels

open Text

variable {text key value a b : String}

theorem readLabel_eq_ok_iff :
    readLabel text = .ok (key, value) ↔
      key ≠ "" ∧ ∃ a b, splitFirst? ':' text = some (a, b) ∧ key = trim a ∧ value = trim b := by
  unfold readLabel
  cases splitFirst? ':' text with
  | none => simp
  | some sides =>
    obtain ⟨a, b⟩ := sides
    by_cases blank : trim a = ""
    · simp only [if_pos blank, reduceCtorEq, false_iff, not_and, not_exists]
      rintro present _ _ ⟨⟩ rfl
      exact absurd blank present
    · simp only [if_neg blank, Except.ok.injEq, Prod.mk.injEq]
      constructor
      · rintro ⟨rfl, rfl⟩
        exact ⟨blank, a, b, rfl, rfl, rfl⟩
      · rintro ⟨_, _, _, ⟨⟩, rfl, rfl⟩
        exact ⟨rfl, rfl⟩

/-- No key that is read holds a colon. -/
theorem colon_not_mem_key (read : readLabel text = .ok (key, value)) : ':' ∉ key.toList := by
  obtain ⟨-, a, b, split, rfl, -⟩ := readLabel_eq_ok_iff.mp read
  intro mem
  exact (splitFirst?_eq_some_iff.mp split).2 (mem_of_mem_trim mem)

theorem splitFirst?_labelText (free : ':' ∉ key.toList) (value : String) :
    splitFirst? ':' (labelText key value) = some (key, " " ++ value) := by
  rw [splitFirst?_eq_some_iff]
  refine ⟨?_, free⟩
  rw [labelText, String.toList_append, String.toList_append, String.toList_append,
    List.append_assoc]
  rfl

/-- With a colon in its key a label is split there. -/
theorem splitFirst?_labelText_of_colon (colon : splitFirst? ':' key = some (a, b))
    (value : String) : splitFirst? ':' (labelText key value) = some (a, labelText b value) := by
  have whole := splitFirst?_append colon (": " ++ value)
  simpa only [labelText, String.append_assoc] using whole

theorem readLabel_labelText (free : ':' ∉ key.toList) (present : trim key ≠ "") (value : String) :
    readLabel (labelText key value) = .ok (trim key, trim value) := by
  rw [readLabel_eq_ok_iff]
  exact ⟨present, key, " " ++ value, splitFirst?_labelText free value, rfl,
    (trim_space_append value).symm⟩

end TargetLabels

end PoolConsole
