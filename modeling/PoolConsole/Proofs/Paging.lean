import Mathlib.Algebra.Order.Floor.Div
import PoolConsole.Console

/-!
The pages of the list of jobs, for every list, every page size and every page that is asked for.

* `pageCount_le_iff`: so many pages are enough if they hold all jobs, and one there always is.
* `pageNumbers?`: the numbers of a page as they are reckoned where there is a largest number.
  `pageNumbers?_eq`: no step of that goes beyond it, as long as the length of the list does not.
* `flatMap_take_drop`: the pages one after the other are the list from its start.
* `jobs_paged`: what is shown of the jobs.
-/

namespace PoolConsole

namespace JobBoard

variable {size pageSize total stored top n : Nat}

theorem pageCount_eq (size total : Nat) : pageCount size total = max 1 (total ⌈/⌉ size) :=
  rfl

theorem one_le_pageCount (size total : Nat) : 1 ≤ pageCount size total :=
  Nat.le_max_left _ _

theorem pageCount_le_iff (positive : 0 < size) :
    pageCount size total ≤ n ↔ 1 ≤ n ∧ total ≤ n * size := by
  rw [pageCount_eq, Nat.max_le, ceilDiv_le_iff_le_mul positive, Nat.mul_comm]

/-- The pages hold all jobs. -/
theorem le_pageCount_mul (positive : 0 < size) (total : Nat) :
    total ≤ pageCount size total * size :=
  ((pageCount_le_iff positive).mp (Nat.le_refl _)).2

/-- The pages before the last one are full. -/
theorem skipped_lt (positive : 0 < size) (earlier : 1 ≤ n) (more : n < pageCount size total) :
    n * size < total := by
  by_contra beyond
  have enough := (pageCount_le_iff positive).mpr ⟨earlier, Nat.le_of_not_lt beyond⟩
  omega

/-- Before a page there are jobs, all of them in the list, unless it is the first. -/
theorem skipped_cases (positive : 0 < size) (bound : n ≤ pageCount size total) :
    (n - 1) * size = 0 ∨ (n - 1) * size < total := by
  by_cases first : n ≤ 1
  · exact .inl (by rw [Nat.sub_eq_zero_of_le first, Nat.zero_mul])
  · exact .inr (skipped_lt positive (by omega) (by omega))

/-- Rounding up adds a page for what is left behind the last full one. -/
theorem pageCount_eq_ite (positive : 0 < size) :
    pageCount size total =
      max 1 (if total % size = 0 then total / size else total / size + 1) := by
  have split := Nat.div_add_mod total size
  have rest := Nat.mod_lt total positive
  refine congrArg (max 1) (Nat.div_eq_of_lt_le ?_ ?_)
  · split_ifs with even
    · rw [Nat.mul_comm]
      omega
    · rw [Nat.add_mul, Nat.mul_comm]
      omega
  · split_ifs with even
    · rw [Nat.add_mul, Nat.mul_comm]
      omega
    · rw [Nat.add_mul, Nat.add_mul, Nat.mul_comm]
      omega

/-- A number, if it is not beyond the largest one. -/
def within? (top n : Nat) : Option Nat :=
  if n ≤ top then some n else none

def difference? (a b : Nat) : Option Nat :=
  if b ≤ a then some (a - b) else none

def quotient? (a b : Nat) : Option Nat :=
  if b = 0 then none else some (a / b)

/-- A number brought between two others, if these are in order. -/
def clamped? (low high n : Nat) : Option Nat :=
  if low ≤ high then some (min (max low n) high) else none

structure PageNumbers where
  page : Nat
  totalPages : Nat
  skipped : Nat
  deriving DecidableEq, Repr

/-- A quotient, rounded up. -/
def roundedUp? (top a b : Nat) : Option Nat := do
  let full ← quotient? a b
  if a % b = 0 then some full else within? top (full + 1)

/-- The numbers of a page where there is a largest number. A step fails that has no result among
the numbers from zero to that one. -/
def pageNumbers? (top pageSize total stored : Nat) : Option PageNumbers := do
  let size := max 1 pageSize
  let count ← roundedUp? top total size
  let totalPages := max 1 count
  let page ← clamped? 1 totalPages stored
  let earlier ← difference? page 1
  let skipped ← within? top (earlier * size)
  return ⟨page, totalPages, skipped⟩

theorem within?_of_le (bound : n ≤ top) : within? top n = some n :=
  if_pos bound

theorem roundedUp?_eq (positive : 0 < size) (fits : total ≤ top) :
    roundedUp? top total size =
      some (if total % size = 0 then total / size else total / size + 1) := by
  rw [roundedUp?, quotient?, if_neg (Nat.ne_of_gt positive), Option.bind_eq_bind, Option.bind_some]
  split_ifs with even
  · rfl
  · have less : total / size ≤ size * (total / size) := Nat.le_mul_of_pos_left _ positive
    have split := Nat.div_add_mod total size
    exact within?_of_le (by omega)

/-- The page that is shown if one has been stored. -/
def shownPage (size total stored : Nat) : Nat :=
  min (max 1 stored) (pageCount size total)

theorem one_le_shownPage (size total stored : Nat) : 1 ≤ shownPage size total stored :=
  Nat.le_min.mpr ⟨Nat.le_max_left _ _, one_le_pageCount size total⟩

theorem shownPage_le (size total stored : Nat) :
    shownPage size total stored ≤ pageCount size total :=
  Nat.min_le_right _ _

/-- Where the length of the list is a number, all others are. -/
theorem pageNumbers?_eq (fits : total ≤ top) (is : max 1 pageSize = size) (stored : Nat) :
    pageNumbers? top pageSize total stored =
      some ⟨shownPage size total stored, pageCount size total,
        (shownPage size total stored - 1) * size⟩ := by
  have positive : 0 < size := is ▸ Nat.le_max_left 1 pageSize
  have clamped : clamped? 1 (pageCount size total) stored = some (shownPage size total stored) :=
    if_pos (one_le_pageCount size total)
  have earlier : difference? (shownPage size total stored) 1 =
      some (shownPage size total stored - 1) :=
    if_pos (one_le_shownPage size total stored)
  have skipped : within? top ((shownPage size total stored - 1) * size) =
      some ((shownPage size total stored - 1) * size) := by
    rcases skipped_cases positive (shownPage_le size total stored) with none | some
    · exact within?_of_le (none ▸ Nat.zero_le top)
    · exact within?_of_le (Nat.le_trans (Nat.le_of_lt some) fits)
  simp only [pageNumbers?, is, roundedUp?_eq positive fits, Option.bind_eq_bind, Option.bind_some,
    ← pageCount_eq_ite positive, clamped, earlier, skipped, Option.pure_def]

/-- The last page, with a largest number that is just that of the jobs. -/
example : pageNumbers? 5 2 5 9 = some ⟨3, 3, 4⟩ := by decide

end JobBoard

/-- The pages up to one are what they hold of the list. -/
theorem flatMap_take_drop {α : Type} (xs : List α) (size count : Nat) :
    ((List.range count).flatMap fun i => (xs.drop (i * size)).take size) =
      xs.take (count * size) := by
  induction count with
  | zero => simp
  | succ count ih =>
    rw [List.range_succ, List.flatMap_append, ih, Nat.succ_mul, List.take_add]
    simp

namespace Console

/-- The page that is shown once one has been asked for. -/
def pageAt (c : Console) (n : Nat) : JobPage :=
  { c with jobs := c.jobs.setPage n }.jobPage

variable (c : Console) (n : Nat)

/-- How many jobs a page holds: at least one. -/
def pageSize : Nat :=
  max 1 c.session.ui.pageSize

theorem pageAt_totalPages :
    (c.pageAt n).totalPages = JobBoard.pageCount c.pageSize c.jobs.jobs.length :=
  rfl

theorem pageAt_page :
    (c.pageAt n).page = JobBoard.shownPage c.pageSize c.jobs.jobs.length n := by
  have once : max 1 (max 1 n) = max 1 n := by omega
  exact congrArg (min · _) once

theorem pageAt_jobs :
    (c.pageAt n).jobs = (c.jobs.jobs.drop (((c.pageAt n).page - 1) * c.pageSize)).take c.pageSize :=
  rfl

theorem pageSize_pos : 0 < c.pageSize :=
  Nat.le_max_left _ _

structure JobsPaged (c : Console) : Prop where
  counted : ∀ n, (c.pageAt n).totalPages = max 1 (c.jobs.jobs.length ⌈/⌉ c.pageSize)
  within : ∀ n, 1 ≤ (c.pageAt n).page ∧ (c.pageAt n).page ≤ (c.pageAt n).totalPages
  /-- The numbers are reckoned without going beyond any largest number that the length of the list
  does not go beyond. -/
  reckoned : ∀ n top, c.jobs.jobs.length ≤ top → ∃ skipped,
    JobBoard.pageNumbers? top c.session.ui.pageSize c.jobs.jobs.length (c.jobs.setPage n).page =
      some ⟨(c.pageAt n).page, (c.pageAt n).totalPages, skipped⟩ ∧
    (c.pageAt n).jobs = (c.jobs.jobs.drop skipped).take c.pageSize
  few : ∀ n, (c.pageAt n).jobs.length ≤ c.pageSize
  filled : ∀ n, (c.pageAt n).jobs = [] → c.jobs.jobs = []
  /-- The pages in order, one after the other, are the list. -/
  joined : ∀ n, ((List.range (c.pageAt n).totalPages).flatMap fun i => (c.pageAt (i + 1)).jobs) =
    c.jobs.jobs

theorem jobs_paged (c : Console) : JobsPaged c := by
  have positive := c.pageSize_pos
  have within (n : Nat) :
      1 ≤ (c.pageAt n).page ∧ (c.pageAt n).page ≤ (c.pageAt n).totalPages := by
    rw [pageAt_page]
    exact ⟨JobBoard.one_le_shownPage _ _ n, JobBoard.shownPage_le _ _ n⟩
  constructor
  case counted => exact fun _ => JobBoard.pageCount_eq _ _
  case within => exact within
  case reckoned =>
    intro n top fits
    exact ⟨_, JobBoard.pageNumbers?_eq fits rfl _, c.pageAt_jobs n⟩
  case few =>
    intro n
    rw [pageAt_jobs]
    exact List.length_take_le _ _
  case filled =>
    intro n none
    rw [pageAt_jobs, List.take_eq_nil_iff, List.drop_eq_nil_iff] at none
    rcases JobBoard.skipped_cases positive (within n).2 with first | more
    · exact List.eq_nil_of_length_eq_zero (by omega)
    · exact absurd (none.resolve_left (Nat.ne_of_gt positive)) (Nat.not_le.mpr more)
  case joined =>
    intro n
    have shown (i : Nat) (mem : i ∈ List.range (c.pageAt n).totalPages) :
        (c.pageAt (i + 1)).jobs = (c.jobs.jobs.drop (i * c.pageSize)).take c.pageSize := by
      have here : (c.pageAt (i + 1)).page = i + 1 := by
        rw [List.mem_range, pageAt_totalPages] at mem
        rw [pageAt_page, JobBoard.shownPage]
        omega
      rw [pageAt_jobs, here, Nat.add_sub_cancel]
    have all := JobBoard.le_pageCount_mul positive c.jobs.jobs.length
    rw [List.flatMap_congr shown, flatMap_take_drop, pageAt_totalPages,
      List.take_of_length_le all]

end Console

end PoolConsole
