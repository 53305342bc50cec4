import Mathlib.Data.List.Forall2
import PoolConsole.Logs
import PoolConsole.Proofs.NullMembers

namespace PoolConsole

namespace LogView

variable {j : Json} {groups pods before after : List (String × Json)}

theorem ofBlocks_eq_empty_iff {bs : List LogBlock} : ofBlocks bs = .empty ↔ bs = [] := by
  cases bs <;> simp [ofBlocks]

theorem ofBlocks_of_ne {bs : List LogBlock} (some : bs ≠ []) : ofBlocks bs = .blocks bs := by
  cases bs with
  | nil => exact absurd rfl some
  | cons => rfl

theorem ofBlocks_ne_idle (bs : List LogBlock) : ofBlocks bs ≠ .idle := by
  cases bs <;> nofun

theorem ofBlocks_ne_blocks_nil (bs : List LogBlock) : ofBlocks bs ≠ .blocks [] := by
  cases bs <;> nofun

theorem ofBlocks_inj {bs bs' : List LogBlock} : ofBlocks bs = ofBlocks bs' ↔ bs = bs' := by
  cases bs <;> cases bs' <;> simp [ofBlocks]

/-! ## Jobs -/

/-- The pods of some groups: the members of those that are objects, in the order told. -/
inductive Pods : List (String × Json) → List (String × Json) → Prop
  | nil : Pods [] []
  | group {name : String} {own groups pods : List (String × Json)} : Pods groups pods →
      Pods ((name, .object own) :: groups) (own ++ pods)
  | other {name : String} {j : Json} {groups pods : List (String × Json)} :
      (∀ own, j ≠ .object own) → Pods groups pods → Pods ((name, j) :: groups) pods

/-- The block shows the pod: under its name, on no node, with its logs if they are a text. -/
structure ShowsPod (pod : String × Json) (b : LogBlock) : Prop where
  source : b.source = pod.1
  node : b.node = none
  logs : ∀ text, pod.2.get? "logs" = some (.string text) → b.text = text
  missing : (∀ text, pod.2.get? "logs" ≠ some (.string text)) → b.text = "Logs not ready yet"

theorem logText?_eq_some_iff {text : String} :
    logText? j = some text ↔ j.get? "logs" = some (.string text) := by
  unfold logText?
  rw [Option.bind_eq_some_iff]
  constructor
  · rintro ⟨value, told, read⟩
    cases value <;> cases read
    exact told
  · intro told
    exact ⟨_, told, rfl⟩

theorem showsPod_podBlock (pod : String × Json) : ShowsPod pod (podBlock pod) where
  source := rfl
  node := rfl
  logs text told := by
    rw [podBlock, logText?_eq_some_iff.mpr told, Option.getD_some]
  missing absent := by
    have none : logText? pod.2 = none :=
      Option.eq_none_iff_forall_ne_some.mpr fun text told =>
        absent text (logText?_eq_some_iff.mp told)
    rw [podBlock, none, Option.getD_none]

theorem pods_flatMap (groups : List (String × Json)) :
    Pods groups (groups.flatMap fun group => group.2.asObject?.getD []) := by
  induction groups with
  | nil => exact .nil
  | cons group groups ih =>
    obtain ⟨name, j⟩ := group
    rw [List.flatMap_cons]
    cases j with
    | object own => exact .group ih
    | null | bool | number | string | array => exact .other nofun ih

/-- The members of every group that is an object, and nothing else. -/
theorem Pods.mem_iff (flattened : Pods groups pods) {pod : String × Json} :
    pod ∈ pods ↔ ∃ group ∈ groups, ∃ own, group.2 = .object own ∧ pod ∈ own := by
  induction flattened with
  | nil => simp
  | group _ ih => simp [ih]
  | other skipped _ ih => simp [ih, skipped]

theorem Pods.eq_nil_iff (flattened : Pods groups pods) :
    pods = [] ↔ ∀ group ∈ groups, ∀ own, group.2 = .object own → own = [] := by
  simp only [List.eq_nil_iff_forall_not_mem, flattened.mem_iff]
  constructor
  · intro absent group mem own object pod inside
    exact absent pod ⟨group, mem, own, object, inside⟩
  · rintro empty pod ⟨group, mem, own, object, inside⟩
    exact empty group mem own object pod inside

/-- Either the error is shown, or the pods are. -/
theorem ofJobLogs_cases (j : Json) :
    (∃ text, Reply.refusal? j = some text ∧ ofJobLogs j = .error text) ∨
      Reply.refusal? j = none ∧
        ∃ pods, Pods (j.asObject?.getD []) pods ∧ ofJobLogs j = ofBlocks (pods.map podBlock) := by
  cases found : Reply.refusal? j with
  | some text => exact .inl ⟨text, rfl, by simp only [ofJobLogs, found]⟩
  | none =>
    refine .inr ⟨rfl, _, pods_flatMap _, ?_⟩
    simp only [ofJobLogs, found, podBlocks, List.map_flatMap]

end LogView

namespace Reply

variable {j : Json}

theorem check_eq_error_iff {text : String} :
    check j = .error (.backend text) ↔ refusal? j = some text := by
  unfold check
  cases refusal? j <;> simp

theorem check_eq_ok_iff : check j = .ok j ↔ refusal? j = none := by
  unfold check
  cases refusal? j <;> simp

end Reply

open LogView

structure JobLogsShown (j : Json) : Prop where
  refused : ∀ text, ofJobLogs j = .error text ↔ Reply.check j = .error (.backend text)
  /-- An error that is a text is shown as it is, any other one as its compact text. -/
  worded : ∀ text, ofJobLogs j = .error text ↔
    ∃ e, j.get? "error" = some e ∧ e ≠ .null ∧ e.plainText = text
  accepted : (∀ text, ofJobLogs j ≠ .error text) ↔ Reply.check j = .ok j
  /-- Every pod of every group is shown once, in the order told. -/
  shown : Reply.check j = .ok j → ∃ pods, Pods (j.asObject?.getD []) pods ∧
    (pods = [] ∧ ofJobLogs j = .empty ∨
      ∃ bs, bs ≠ [] ∧ ofJobLogs j = .blocks bs ∧ List.Forall₂ ShowsPod pods bs)
  empty_iff : ofJobLogs j = .empty ↔ Reply.check j = .ok j ∧
    ∀ group ∈ j.asObject?.getD [], ∀ own, group.2 = .object own → own = []
  ne_idle : ofJobLogs j ≠ .idle
  ne_blocks_nil : ofJobLogs j ≠ .blocks []

/-- The logs of a job are refused where an answer is, with the same text, and otherwise show the
pods of all groups. -/
theorem job_logs_shown (j : Json) : JobLogsShown j := by
  have refused (text : String) : ofJobLogs j = .error text ↔ Reply.refusal? j = some text :=
    ofJobLogs_eq_error_iff
  constructor
  case refused => exact fun text => (refused text).trans Reply.check_eq_error_iff.symm
  case worded => exact fun text => (refused text).trans Reply.refusal?_eq_some_iff
  case accepted =>
    rw [Reply.check_eq_ok_iff, Option.eq_none_iff_forall_ne_some]
    exact forall_congr' fun text => not_congr (refused text)
  case shown =>
    intro accepted
    rw [Reply.check_eq_ok_iff] at accepted
    rcases ofJobLogs_cases j with ⟨text, found, -⟩ | ⟨-, pods, flattened, view⟩
    · rw [accepted] at found
      cases found
    · refine ⟨pods, flattened, ?_⟩
      by_cases none : pods = []
      · subst none
        exact .inl ⟨rfl, view⟩
      · have some : pods.map podBlock ≠ [] := by simpa using none
        refine .inr ⟨_, some, view.trans (ofBlocks_of_ne some), ?_⟩
        rw [List.forall₂_map_right_iff, List.forall₂_same]
        exact fun pod _ => showsPod_podBlock pod
  case empty_iff =>
    rw [Reply.check_eq_ok_iff]
    rcases ofJobLogs_cases j with ⟨text, found, view⟩ | ⟨found, pods, flattened, view⟩
    · simp [view, found]
    · simp [view, found, ofBlocks_eq_empty_iff, flattened.eq_nil_iff]
  case ne_idle =>
    rcases ofJobLogs_cases j with ⟨text, -, view⟩ | ⟨-, pods, -, view⟩
    · rw [view]
      nofun
    · exact view ▸ ofBlocks_ne_idle _
  case ne_blocks_nil =>
    rcases ofJobLogs_cases j with ⟨text, -, view⟩ | ⟨-, pods, -, view⟩
    · rw [view]
      nofun
    · exact view ▸ ofBlocks_ne_blocks_nil _

/-! ## A null error -/

namespace LogView

theorem ofServiceLogs_of_accepted (accepted : Reply.refusal? j = none) :
    ofServiceLogs j = ofBlocks ((j.asObject?.getD []).map serviceBlock) := by
  simp only [ofServiceLogs, accepted]

/-- What shows an error that is null among the services. -/
def errorBlock : LogBlock where
  source := "error"
  text := "(no log output)"

theorem serviceBlock_null_error : serviceBlock ("error", .null) = errorBlock := rfl

theorem podBlocks_null_error :
    podBlocks (before ++ ("error", .null) :: after) = podBlocks (before ++ after) := by
  simp only [podBlocks, List.flatMap_append, List.flatMap_cons, Json.asObject?, Option.getD_none,
    List.map_nil, List.nil_append]

end LogView

structure NullErrorShown (before after : List (String × Json)) : Prop where
  unrefused : Reply.check (.object (before ++ ("error", .null) :: after)) =
    .ok (.object (before ++ ("error", .null) :: after))
  accepted : Reply.check (.object (before ++ after)) = .ok (.object (before ++ after))
  job : ofJobLogs (.object (before ++ ("error", .null) :: after)) =
    ofJobLogs (.object (before ++ after))
  /-- Services show it as one of them, at its place. -/
  service : ∃ earlier later,
    earlier.map (·.source) = before.map Prod.fst ∧ later.map (·.source) = after.map Prod.fst ∧
    ofServiceLogs (.object (before ++ after)) = .ofBlocks (earlier ++ later) ∧
    ofServiceLogs (.object (before ++ ("error", .null) :: after)) =
      .blocks (earlier ++ errorBlock :: later)
  changed : ofServiceLogs (.object (before ++ ("error", .null) :: after)) ≠
    ofServiceLogs (.object (before ++ after))

/-- A null error changes nothing in the logs of a job, and makes one service more in the logs of
services. -/
theorem null_error_shown {before after : List (String × Json)}
    (fresh : "error" ∉ (before ++ after).map Prod.fst) : NullErrorShown before after := by
  have added := Json.NullAdded.intro before after fresh
  have accepted : Reply.refusal? (.object (before ++ after)) = none := by
    simp only [Reply.refusal?, Json.get?, added.lookup_untold]
  have unrefused := added.refusal?_eq.trans accepted
  have untoldView := ofServiceLogs_of_accepted accepted
  have toldView := ofServiceLogs_of_accepted unrefused
  simp only [Json.asObject?, Option.getD_some, List.map_append, List.map_cons,
    serviceBlock_null_error] at untoldView toldView
  constructor
  case unrefused => exact Reply.check_eq_ok_iff.mpr unrefused
  case accepted => exact Reply.check_eq_ok_iff.mpr accepted
  case job =>
    -- null is no group, so that there are no pods in it
    simp only [ofJobLogs, unrefused, accepted, Json.asObject?, Option.getD_some,
      podBlocks_null_error]
  case service =>
    refine ⟨before.map serviceBlock, after.map serviceBlock, ?_, ?_, untoldView, ?_⟩
    · simp [Function.comp_def, serviceBlock]
    · simp [Function.comp_def, serviceBlock]
    · rw [toldView, ofBlocks_of_ne (by simp)]
  case changed =>
    -- there is one block more
    intro same
    rw [untoldView, toldView, ofBlocks_inj] at same
    have lengths := congrArg List.length same
    simp at lengths

/-- A null error between two services. -/
theorem null_error_between_services :
    let watcher : String × Json := ("a", .object [("logs", .string "x")])
    let agent : String × Json := ("b", .object [])
    "error" ∉ ([watcher] ++ [agent]).map Prod.fst ∧
      ofServiceLogs (.object [watcher, ("error", .null), agent]) ≠
        ofServiceLogs (.object [watcher, agent]) := by
  intro watcher agent
  have fresh : "error" ∉ ([watcher] ++ [agent]).map Prod.fst := by simp [watcher, agent]
  exact ⟨fresh, (null_error_shown fresh).changed⟩

/-- The logs of services show a null error, also where there is nothing else. -/
theorem not_nullErrorUnshown : ¬ ∀ before after : List (String × Json),
    "error" ∉ (before ++ after).map Prod.fst →
    ofServiceLogs (.object (before ++ ("error", .null) :: after)) =
      ofServiceLogs (.object (before ++ after)) := by
  intro all
  have shown : ofServiceLogs (.object [("error", .null)]) = .blocks [errorBlock] := rfl
  have alone := all [] [] (by simp)
  rw [List.nil_append, shown] at alone
  cases alone

end PoolConsole
