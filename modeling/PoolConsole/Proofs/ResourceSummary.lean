import PoolConsole.Http.Client
import PoolConsole.Proofs.FloatRange
import PoolConsole.Proofs.MapEntries

namespace PoolConsole

namespace Snapshot

/-! ## Reading -/

inductive IsSide : Option Json → Prop
  | absent : IsSide none
  | null : IsSide (some .null)
  | object (members : List (String × Json)) : IsSide (some (.object members))

structure IsPayload (members : List (String × Json)) : Prop where
  accepted : members.lookup "error" = none
  total : IsSide (members.lookup "total")
  available : IsSide (members.lookup "available")

/-- What a side tells of the resources. -/
def told (side : String) (members : List (String × Json)) : KeyMap Json :=
  .ofList (Job.membersOf (members.lookup side))

/-- What is read from a payload. -/
def ofMembers (members : List (String × Json)) : Snapshot where
  total := (told "total" members).map Quantity.ofJson
  available := (told "available" members).map Quantity.ofJson

variable {members members' : List (String × Json)} {s s' : Snapshot}

theorem side_read {side : String} (readable : IsSide (members.lookup side)) :
    Json.field (fun name => members.lookup name) side Quantity.mapOfJson? ∅ =
      some ((told side members).map Quantity.ofJson) := by
  simp only [Json.field, told]
  cases is : members.lookup side with
  | none => rfl
  | some j =>
    rw [is] at readable
    cases readable with
    | null => rfl
    | object entries => exact Json.asKeyMap?_some Quantity.ofJson entries

/-- Nothing in an object makes it unreadable. -/
theorem ofJson?_object (payload : IsPayload members) :
    ofJson? (.object members) = some (ofMembers members) := by
  simp only [ofJson?, Json.fields?, Option.bind_eq_bind, Option.bind_some,
    side_read payload.total, side_read payload.available]
  rfl

theorem answerOf_resources (payload : IsPayload members) (nodes : Option (List String)) :
    Http.Client.answerOf (.resources nodes) (.object members) = .ok (ofMembers members) := by
  have accepted : Reply.check (.object members) = .ok (.object members) := by
    simp [Reply.check, Reply.refusal?, Json.get?, payload.accepted]
  change Reply.decode "resources" (Json.nullOr? {} ofJson?) (.object members) = _
  rw [Reply.decode, accepted]
  exact Reply.read_eq_ok_iff.mpr (ofJson?_object payload)

/-! ## What is shown -/

/-- The quantity that is shown of what is told. -/
def amount (told : Option Json) : Float :=
  told.elim 0 Quantity.ofJson

theorem gauge_ofMembers (members : List (String × Json)) (key : String) :
    (ofMembers members).gauge key =
      ⟨amount ((told "available" members).get? key), amount ((told "total" members).get? key)⟩ := by
  have shown (side : String) : (((told side members).map Quantity.ofJson).get? key).getD 0 =
      amount ((told side members).get? key) := by
    rw [KeyMap.get?_map]
    cases (told side members).get? key <;> rfl
  exact congr (congrArg Gauge.mk (shown "available")) (shown "total")

theorem gpus_congr (same : ∀ key ∈ gpuKeys, s.gauge key = s'.gauge key) : s.gpus = s'.gpus := by
  unfold gpus
  rw [List.map_congr_left same]

def summaryKeys : List String := ["cpu", "memory", "n_nodes"] ++ gpuKeys

theorem ofSnapshot_congr (same : ∀ key ∈ summaryKeys, s.gauge key = s'.gauge key) :
    Summary.ofSnapshot s = Summary.ofSnapshot s' := by
  have gpus : s.gpus = s'.gpus :=
    gpus_congr fun key mem => same key (List.mem_append_right _ mem)
  unfold Summary.ofSnapshot
  rw [gpus, same "cpu" (by decide), same "memory" (by decide), same "n_nodes" (by decide)]

/-- Which resources are reported on either side. -/
def reports (s : Snapshot) (key : String) : Bool :=
  s.total.contains key || s.available.contains key

theorem detail_eq (s : Snapshot) :
    s.detail = .ofList ((detailKeys.filter s.reports).map fun key => (key, s.gauge key)) :=
  rfl

theorem detail_congr (same : ∀ key ∈ detailKeys, s.gauge key = s'.gauge key)
    (reported : ∀ key ∈ detailKeys, s.reports key = s'.reports key) : s.detail = s'.detail := by
  rw [detail_eq, detail_eq, List.filter_congr reported]
  refine congrArg KeyMap.ofList (List.map_congr_left fun key mem => ?_)
  rw [same key (List.mem_filter.mp mem).1]

theorem contains_detail (s : Snapshot) (key : String) :
    s.detail.contains key = true ↔ key ∈ detailKeys ∧ s.reports key = true := by
  rw [detail_eq, KeyMap.contains_ofList, List.map_map, ← List.mem_filter]
  exact Iff.of_eq (congrArg (key ∈ ·) (List.map_id _))

theorem reports_ofMembers (members : List (String × Json)) (key : String) :
    (ofMembers members).reports key = true ↔
      ∃ side ∈ ["total", "available"], ((told side members).get? key).isSome = true := by
  have kept (side : String) : ((told side members).map Quantity.ofJson).contains key =
      ((told side members).get? key).isSome := by
    rw [KeyMap.contains, KeyMap.get?_map, Option.isSome_map]
  change (((told "total" members).map Quantity.ofJson).contains key ||
    ((told "available" members).map Quantity.ofJson).contains key) = true ↔ _
  rw [kept, kept]
  simp

/-! ## What counts as zero -/

/-- A number in decimal, which a sign may precede, with blanks around it or without. -/
def IsNumber (text : String) : Prop :=
  ∃ n x, Decimal.Numeral (Decimal.afterSign (Text.trimChars text.toList)) n x

/-- A word for an infinity or for NaN in any case, with a sign and blanks as a number may have. -/
def IsWord (text : String) : Prop :=
  String.ofList (Decimal.foldCase (Decimal.afterSign (Text.trimChars text.toList))) ∈
    ["inf", "infinity", "nan"]

def IsJunk (text : String) : Prop :=
  ¬ IsNumber text ∧ ¬ IsWord text

/-- What counts as nothing: zero, no value at all, null, a nested value, and some texts. -/
inductive Naught (texts : String → Prop) : Option Json → Prop
  | zero {n : Number} : n.toFloat = 0 → Naught texts (some (.number n))
  | absent : Naught texts none
  | null : Naught texts (some .null)
  | array (items : List Json) : Naught texts (some (.array items))
  | object (members : List (String × Json)) : Naught texts (some (.object members))
  | text {text : String} : texts text → Naught texts (some (.string text))

theorem amount_of_naught {found : Option Json} (naught : Naught IsJunk found) :
    amount found = 0 := by
  cases naught with
  | zero is => exact is
  | absent | null | array | object => rfl
  | @text text junk =>
    have unread : Decimal.float? (Text.trimChars text.toList) = none := by
      rw [Decimal.float?_eq_none_iff]
      intro numeric
      cases numeric with
      | word word => exact junk.2 word
      | numeral numeral => exact junk.1 ⟨_, _, numeral⟩
    simp only [amount, Option.elim_some, Quantity.ofJson, unread, Option.getD_none]

theorem isFinite_amount_of_isWord {text : String} (word : IsWord text) :
    (amount (some (.string text))).isFinite = false := by
  obtain ⟨f, read, infinite⟩ := Decimal.exists_float?_of_nonFinite (.word word)
  simp only [amount, Option.elim_some, Quantity.ofJson, read, Option.getD_some, infinite]

/-- The same is told of a resource on both sides. -/
def AgreeOn (keys : List String) (members members' : List (String × Json)) : Prop :=
  ∀ key ∈ keys, ∀ side ∈ ["total", "available"],
    (told side members).get? key = (told side members').get? key

/-- The same is told of a resource on both sides, up to what counts as nothing. -/
def AlikeOn (texts : String → Prop) (keys : List String) (members members' : List (String × Json)) :
    Prop :=
  ∀ key ∈ keys, ∀ side ∈ ["total", "available"],
    (told side members).get? key = (told side members').get? key ∨
      Naught texts ((told side members).get? key) ∧ Naught texts ((told side members').get? key)

theorem AgreeOn.mono {keys more : List String} (agree : AgreeOn more members members')
    (sub : keys ⊆ more) : AgreeOn keys members members' :=
  fun key mem => agree key (sub mem)

theorem AgreeOn.alikeOn {keys : List String} (agree : AgreeOn keys members members') :
    AlikeOn IsJunk keys members members' :=
  fun key mem side on => .inl (agree key mem side on)

theorem AlikeOn.gauge_eq {keys : List String} (alike : AlikeOn IsJunk keys members members') :
    ∀ key ∈ keys, (ofMembers members).gauge key = (ofMembers members').gauge key := by
  intro key mem
  have amounts (side : String) (on : side ∈ ["total", "available"]) :
      amount ((told side members).get? key) = amount ((told side members').get? key) := by
    rcases alike key mem side on with same | ⟨naught, naught'⟩
    · rw [same]
    · rw [amount_of_naught naught, amount_of_naught naught']
  rw [gauge_ofMembers, gauge_ofMembers, amounts "available" (by simp), amounts "total" (by simp)]

theorem AgreeOn.reports_eq {keys : List String} (agree : AgreeOn keys members members') :
    ∀ key ∈ keys, (ofMembers members).reports key = (ofMembers members').reports key := by
  intro key mem
  rw [Bool.eq_iff_iff, reports_ofMembers, reports_ofMembers]
  refine exists_congr fun side => and_congr_right fun on => ?_
  rw [agree key mem side on]

end Snapshot

open Snapshot

/-- A payload of resources can be read whatever its sides have for members. Its summary, its GPUs
and its details depend on the few resources that they are about, whatever else is told and wherever.
What counts as nothing is zero in the summary, but the details list whatever is told on a side. Of
the texts that are no numbers, the words for an infinity and for NaN do not count as nothing. -/
theorem resources_summarized {members : List (String × Json)} (payload : IsPayload members) :
    ∃ s, Snapshot.ofJson? (.object members) = some s ∧
      (∀ nodes, Http.Client.answerOf (.resources nodes) (.object members) = .ok s) ∧
      (∀ key, s.detail.contains key = true ↔ key ∈ detailKeys ∧
        ∃ side ∈ ["total", "available"], ((told side members).get? key).isSome = true) ∧
      (∀ key, s.gauge key =
        ⟨amount ((told "available" members).get? key), amount ((told "total" members).get? key)⟩) ∧
      (∀ text, IsJunk text → amount (some (.string text)) = 0) ∧
      (∀ text, IsWord text → (amount (some (.string text))).isFinite = false) ∧
      ∀ members' s', IsPayload members' → Snapshot.ofJson? (.object members') = some s' →
        (AgreeOn summaryKeys members members' →
          Summary.ofSnapshot s = Summary.ofSnapshot s' ∧ s.gpus = s'.gpus ∧ s.detail = s'.detail) ∧
        (AlikeOn IsJunk summaryKeys members members' →
          Summary.ofSnapshot s = Summary.ofSnapshot s') ∧
        (AlikeOn IsJunk gpuKeys members members' → s.gpus = s'.gpus) ∧
        (AgreeOn detailKeys members members' → s.detail = s'.detail) := by
  refine ⟨ofMembers members, ofJson?_object payload, answerOf_resources payload, fun key => ?_,
    gauge_ofMembers members, fun text junk => amount_of_naught (.text junk),
    fun text => isFinite_amount_of_isWord, ?_⟩
  · rw [contains_detail, reports_ofMembers]
  · intro members' s' payload' read
    rw [ofJson?_object payload', Option.some.injEq] at read
    subst read
    have summary (alike : AlikeOn IsJunk summaryKeys members members') :=
      ofSnapshot_congr alike.gauge_eq
    have gpus (alike : AlikeOn IsJunk gpuKeys members members') := gpus_congr alike.gauge_eq
    have detail (agree : AgreeOn detailKeys members members') :=
      detail_congr agree.alikeOn.gauge_eq agree.reports_eq
    refine ⟨fun agree => ?_, summary, gpus, detail⟩
    exact ⟨summary agree.alikeOn, gpus (agree.mono (by decide)).alikeOn,
      detail (agree.mono (by decide))⟩

/-- A node on which the memory is all in use, with a resource that is shown nowhere. -/
def nodeMembers : List (String × Json) :=
  [("total", .object [("cpu", .number (.unsigned 16)), ("memory", .string "8000000000"),
      ("rdma", .object [("ports", .array [.null])])]),
    ("available", .object [("cpu", .string " 4 "), ("memory", .number (.unsigned 0))])]

/-- The same node, of whose free memory nothing can be read. -/
def plainMembers : List (String × Json) :=
  [("total", .object [("memory", .string "8000000000"), ("cpu", .number (.unsigned 16))]),
    ("available", .object [("cpu", .string " 4 "), ("memory", .array []), ("n_nodes", .null)])]

theorem node_summarized_alike :
    ∃ s s', Snapshot.ofJson? (.object nodeMembers) = some s ∧
      Snapshot.ofJson? (.object plainMembers) = some s' ∧
      Summary.ofSnapshot s = Summary.ofSnapshot s' ∧
      s.detail.contains "memory" = true ∧ ¬ s.detail.contains "nvidia.com/gpu" = true := by
  have payload : IsPayload nodeMembers := ⟨rfl, .object _, .object _⟩
  have payload' : IsPayload plainMembers := ⟨rfl, .object _, .object _⟩
  obtain ⟨s, read, -, listed, -, -, -, others⟩ := resources_summarized payload
  have read' := ofJson?_object payload'
  have alike : AlikeOn IsJunk summaryKeys nodeMembers plainMembers := by
    simp only [AlikeOn, summaryKeys, gpuKeys, List.cons_append, List.nil_append,
      List.forall_mem_cons, List.not_mem_nil, false_imp_iff, implies_true, and_true]
    exact ⟨⟨.inl rfl, .inl rfl⟩, ⟨.inl rfl, .inr ⟨.zero rfl, .array []⟩⟩,
      ⟨.inl rfl, .inr ⟨.absent, .null⟩⟩, ⟨.inl rfl, .inl rfl⟩, .inl rfl, .inl rfl⟩
  refine ⟨s, _, read, read', (others _ _ payload' read').2.1 alike, ?_, ?_⟩
  · exact (listed _).mpr ⟨by decide, "total", by decide, by decide⟩
  · intro lists
    obtain ⟨-, side, on, told⟩ := (listed _).mp lists
    revert side
    decide

theorem not_isNumber_nan : ¬ IsNumber "nan" := by
  rintro ⟨n, x, numeral⟩
  have read := Decimal.magnitude?_eq_some_iff.mpr ⟨n, x, numeral, rfl⟩
  cases read

/-- Not every text that is no number counts as nothing. -/
theorem not_all_summarized_alike : ¬ ∀ members members' s s', IsPayload members →
    IsPayload members' → Snapshot.ofJson? (.object members) = some s →
    Snapshot.ofJson? (.object members') = some s' →
    AlikeOn (¬ IsNumber ·) summaryKeys members members' →
    Summary.ofSnapshot s = Summary.ofSnapshot s' := by
  intro all
  have payload (j : Json) : IsPayload [("total", .object [("cpu", j)])] := ⟨rfl, .object _, .absent⟩
  have alike : AlikeOn (¬ IsNumber ·) summaryKeys [("total", .object [("cpu", .string "nan")])]
      [("total", .object [("cpu", .number (.unsigned 0))])] := by
    simp only [AlikeOn, summaryKeys, gpuKeys, List.cons_append, List.nil_append,
      List.forall_mem_cons, List.not_mem_nil, false_imp_iff, implies_true, and_true]
    exact ⟨⟨.inr ⟨.text not_isNumber_nan, .zero rfl⟩, .inl rfl⟩, ⟨.inl rfl, .inl rfl⟩,
      ⟨.inl rfl, .inl rfl⟩, ⟨.inl rfl, .inl rfl⟩, .inl rfl, .inl rfl⟩
  have same := all _ _ _ _ (payload _) (payload _) (ofJson?_object (payload _))
    (ofJson?_object (payload _)) alike
  have amounts : amount (some (.string "nan")) = amount (some (.number (.unsigned 0))) := by
    have gauges := congrArg (·.cpu.total) same
    simp only [Summary.ofSnapshot, gauge_ofMembers] at gauges
    exact gauges
  have word : IsWord "nan" := by
    unfold IsWord
    decide
  have infinite := isFinite_amount_of_isWord word
  rw [amounts] at infinite
  exact absurd infinite (by decide)

end PoolConsole
