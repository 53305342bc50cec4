import PoolConsole.Proofs.Run.NodeLoads
import PoolConsole.Proofs.Run.Served

namespace PoolConsole

open Console Operation

/-- A load that is the latest and has not failed shows its result. -/
theorem Panel.eq_ok_of_complete {α : Type} {p q : Panel α} {ticket : Ticket} {result : Outcome α}
    {outcome : LoadOutcome} {data : α} (latest : ticket.generation = p.issued)
    (complete : p.complete ticket result = (.ok outcome, q)) (shown : q.data = some data) :
    result = .ok data := by
  cases result with
  | error e =>
    simp [Panel.complete, latest] at complete
  | ok loaded =>
    have taken := (Panel.shows_complete latest (.ok loaded)).2.1
    rw [complete, shown, Option.some.injEq] at taken
    rw [taken]

/-- Sets a label of a node. -/
def Call.setsLabel (node key : String) : Call → Bool
  | .addLabels labelled added => labelled = node && added.contains key
  | _ => false

namespace MemoryPool

def label? (node key : String) (p : MemoryPool) : Option String :=
  (p.labels.get? node).bind (·.get? key)

theorem label?_perform {node key : String} (p : MemoryPool) (c : Call)
    (harmless : c.setsLabel node key = false) :
    (p.perform c).2.label? node key = p.label? node key := by
  cases c with
  | addLabels labelled labels =>
    change ((p.labels.insert labelled _).get? node).bind (·.get? key) = p.label? node key
    rw [KeyMap.get?_insert]
    split
    next here =>
      have absent : labels.get? key = none := by
        simpa [Call.setsLabel, here, KeyMap.contains] using harmless
      rw [← here, Option.bind_some, KeyMap.get?_union, absent, Option.none_or, label?]
      cases p.labels.get? node with
      | none => rfl
      | some labels => rfl
    next => rfl
  | template name | resources nodes =>
    simp only [perform]
    split
    · rfl
    · rfl
  | _ => rfl

theorem label?_labelWrite (p : MemoryPool) (node key value : String) :
    (p.perform (labelWrite node key value)).2.label? node (Text.trim key) =
      some (Text.trim value) := by
  change ((p.labels.insert node _).get? node).bind (·.get? (Text.trim key)) = _
  rw [KeyMap.get?_insert, if_pos rfl, Option.bind_some, KeyMap.get?_union]
  change (((KeyMap.empty.insert _ _).get? _).or _) = _
  rw [KeyMap.get?_insert, if_pos rfl]
  rfl

theorem label?_of_answer {p : MemoryPool} {node key : String} {labels : NodeLabels}
    (answer : (p.perform (.labels [node])).1 = .ok labels) (resources : Snapshot) :
    (detailOf node labels resources).labels.get? key = p.label? node key := by
  cases answer
  change (((p.labels.filter fun n _ => [node].contains n).get? node).getD ∅).get? key = _
  rw [KeyMap.get?_filter, if_pos (by simp), label?]
  cases p.labels.get? node with
  | none => rfl
  | some labels => rfl

end MemoryPool

/-- The details of a node are made of replies. -/
def NodeDetail.From (told : List Reply) (node : String) (detail : NodeDetail) : Prop :=
  ∃ labels resources, ⟨.labels [node], .ok labels⟩ ∈ told ∧
    ⟨.resources (some [node]), .ok resources⟩ ∈ told ∧ detail = detailOf node labels resources

theorem NodeDetail.From.node_eq {told : List Reply} {node : String} {detail : NodeDetail}
    (loaded : detail.From told node) : detail.node = node := by
  obtain ⟨labels, resources, -, -, rfl⟩ := loaded
  rfl

theorem NodeDetail.From.mono {told more : List Reply} (sub : told ⊆ more) {node : String}
    {detail : NodeDetail} (loaded : detail.From told node) : detail.From more node := by
  obtain ⟨labels, resources, answered, answered', eq⟩ := loaded
  exact ⟨labels, resources, sub answered, sub answered', eq⟩

theorem detail_from_given {told : List Reply} {node : String} {detail : NodeDetail}
    (given : nodeDetail.Given told node (.ok detail)) : detail.From told node := by
  obtain ⟨r, replied, same⟩ := given
  cases r with
  | error => cases same
  | ok answers =>
    cases same
    exact ⟨answers.1, answers.2.1, replied.1, replied.2.1, rfl⟩

/-- A label has been accepted in a moment, and in that moment or since the activity has asked for
the details of the node. -/
structure LabelLoad (h since sinceOwn : List Moment) (write own m : Moment)
    (node key value : String) (detail : NodeDetail) : Prop where
  accepted : write.strand = m.strand ∧ write.reply = some ⟨labelWrite node key value, .ok ()⟩
  within : ∃ between, since ++ [write] = sinceOwn ++ own :: between
  asked : own.strand = m.strand ∧ ⟨.labels [node], own.after⟩ ∈ own.issues ∧
    ⟨.resources (some [node]), own.after⟩ ∈ own.issues
  /-- Unless a later load has begun, the activity gives what it has been answered. -/
  current : (∀ m' ∈ sinceOwn, ¬ nodeDetail.Begins m') → detail.From (repliesTo since m.strand) node
  /-- After a later load has begun the answer comes too late, and what is shown stays. -/
  late : ∀ m' ∈ sinceOwn, nodeDetail.Begins m' → m.after.nodes.detail = m.before.nodes.detail
  /-- On a pool in memory, details of the node that have been answered since show the label, if no
  other has been accepted in its place. -/
  pool : ∀ p₀ p, Served p₀ h p →
    (∀ m' ∈ since, ¬ m'.Accepts (Call.setsLabel node (Text.trim key))) →
    ∀ n, detail.From (repliesTo since n) node →
      detail.labels.get? (Text.trim key) = some (Text.trim value)

structure LabelRead (start : Console) (h : List Moment) (m : Moment) (node key value : String)
    (detail : NodeDetail) : Prop where
  shown : m.after.nodes.detail.data = some detail
  origin : start.nodes.detail.data = some detail ∨ ∃ n, detail.From (repliesTo h n) detail.node
  load : ∃ since write earlier sinceOwn own, h = since ++ write :: earlier ∧
    LabelLoad h since sinceOwn write own m node key value detail

variable {start : Console} {h since earlier : List Moment} {m write : Moment} {w : World}
  {node key value : String} {detail : NodeDetail}

theorem label_in_pool {p₀ p : MemoryPool} (served : Served p₀ (since ++ write :: earlier) p)
    (reply : write.reply = some ⟨labelWrite node key value, .ok ()⟩)
    (unchanged : ∀ m' ∈ since, ¬ m'.Accepts (Call.setsLabel node (Text.trim key))) {n : Nat}
    (loaded : detail.From (repliesTo since n) node) :
    detail.labels.get? (Text.trim key) = some (Text.trim value) := by
  obtain ⟨labels, resources, answered, -, rfl⟩ := loaded
  obtain ⟨q, answer, same⟩ :=
    served.read MemoryPool.label?_perform answered rfl unchanged
  obtain ⟨labelled, before, same'⟩ := served.kept MemoryPool.label?_perform unchanged
  obtain ⟨q', -, performed⟩ := before.accepted reply
  have added := q'.label?_labelWrite node key value
  rw [performed] at added
  rw [MemoryPool.label?_of_answer answer resources, same, same', added]

theorem subset_of_within {later between : List Moment} {own : Moment}
    (within : since ++ [write] = later ++ own :: between) : later ⊆ since := by
  rcases List.prefix_concat_iff.mp ⟨_, within.symm⟩ with all | part
  · rw [all] at within
    exact absurd (List.self_eq_append_right.mp within) (List.cons_ne_nil _ _)
  · exact part.subset

/-- The label has been accepted before the activity has made its own load. -/
theorem exists_write {n : Nat} {later : List Moment} {own : Moment}
    (last : Last (nodeDetail.BeginsFor n) h later own)
    (asked : nodeDetail.Asked own (acceptedOf nodeDetail.writes h n) node)
    (clear : ∀ m' ∈ later, m'.strand = n → ¬ m'.Accepts nodeDetail.writes)
    (activity : own.activity = .nodes (.addLabel node key value)) :
    ∃ since write earlier, h = since ++ write :: earlier ∧
      (write.strand = n ∧ write.reply = some ⟨labelWrite node key value, .ok ()⟩) ∧
      ∃ between, since ++ [write] = later ++ own :: between := by
  rcases asked.asks with loads | ⟨key', value', adds, accepted⟩
  · rw [activity] at loads
    cases loads
  · rw [activity] at adds
    cases adds
    have heard : ⟨labelWrite node key value, .ok ()⟩ ∈ acceptedOf nodeDetail.writes h n := by
      rw [accepted]
      exact List.mem_cons_self
    obtain ⟨⟨write, mem, here, reply⟩, -⟩ := mem_acceptedOf.mp heard
    obtain ⟨since, earlier, split⟩ := List.append_of_mem mem
    exact ⟨since, write, earlier, split, ⟨here, reply⟩,
      last.before_split (q := fun m => m.strand = n ∧ m.Accepts nodeDetail.writes)
        (fun m' mem both => clear m' mem both.1 both.2) split ⟨here, _, _, reply, rfl⟩⟩

/-- The load of an activity that is given its last answer and ends without an error. -/
theorem label_load (run : Run start (m :: h) w)
    (activity : m.activity = .nodes (.addLabel node key value)) {stage : nodeDetail.Stage}
    (stands : nodeDetail.Standing h m.before m.strand stage)
    (labelled : Labelled node detail (stage.hear? m.reply) m.before m.after) :
    ∃ since write earlier sinceOwn own, m :: h = since ++ write :: earlier ∧
      LabelLoad (m :: h) since sinceOwn write own m node key value detail := by
  obtain ⟨shown, ticket, told, result, outcome, heard, given, complete⟩ := labelled
  obtain ⟨later, own, last, asked, clear, latest, rfl⟩ := stands.loading_of_hear heard
  have mem := List.mem_cons_of_mem m last.mem
  have same := run.activity_eq List.mem_cons_self mem last.holds.1
  obtain ⟨since, write, earlier, rfl, accepted, between, within⟩ :=
    exists_write last asked clear (same.trans activity)
  have sub : m :: later ⊆ m :: since := List.cons_subset_cons m (subset_of_within within)
  have still : ¬ nodeDetail.Begins m := by
    have issued := Panel.complete_issued m.before.nodes.detail ticket result
    rw [complete] at issued
    exact not_not_intro issued
  refine ⟨m :: since, write, earlier, m :: later, own, rfl, accepted,
    ⟨between, congrArg _ within⟩, ⟨last.holds.1, asked.calls _ List.mem_cons_self,
      asked.calls _ (List.mem_cons_of_mem _ List.mem_cons_self)⟩, fun none => ?_,
    fun m' mem begins => ?_, fun p₀ p served unchanged n =>
      label_in_pool served accepted.2 unchanged⟩
  · have current := latest.mpr fun m' mem => none m' (List.mem_cons_of_mem _ mem)
    rw [Panel.eq_ok_of_complete current complete shown] at given
    exact (detail_from_given given).mono (repliesTo_mono sub _)
  · have old : ticket.generation ≠ m.before.nodes.detail.issued := fun current => by
      rcases List.mem_cons.mp mem with rfl | mem
      · exact still begins
      · exact latest.mp current m' mem begins
    rw [← Panel.complete_of_old old result, complete]

/-- An activity that adds a label gives the details that are shown as it ends. Those of its node are
asked for once the label has been accepted, but a later load may have replaced them. -/
theorem label_read_back (run : Run start (m :: h) w)
    (returns : m.Returns (.nodes (.addLabel node key value)) (.ok detail)) :
    LabelRead start (m :: h) m node key value detail := by
  obtain ⟨stage, stands, -, labelled⟩ := nodeDetailPlan.returns run returns
  have labelled := labelled detail rfl
  have shown : w.console.nodes.detail.data = some detail := by
    rw [← run.after_eq]
    exact labelled.1
  refine ⟨labelled.1, ?_, label_load run (congrArg Strand.activity returns) stands labelled⟩
  refine ((Source.tracked nodeDetailPlan run).origin detail shown).imp_right ?_
  rintro ⟨n, query, given⟩
  have loaded := detail_from_given given
  exact ⟨n, loaded.node_eq ▸ loaded⟩

/-- A label is added and read back while an older load for another node is still under way. -/
theorem label_read_during_load :
    ∃ m h w detail, Run (.fresh {} {}) (m :: h) w ∧
      m.Returns (.nodes (.addLabel "a" "zone" "eu")) (.ok detail) ∧
      LabelRead (.fresh {} {}) (m :: h) m "a" "zone" "eu" detail := by
  have loading := Run.next (@Run.start (.fresh {} {}))
    (.begin (.nodes (.loadDetail "b")) (.get (.get (.set (.tryAll _ _ _ _)))))
  have adding := loading.next (.begin (.nodes (.addLabel "a" "zone" "eu")) (.call _ _ _))
  have accepted := adding.next (.answer 1 _ ⟨.addLabels _ _, .ok ()⟩ rfl
    (.call _ (.get (.get (.set (.tryAll _ _ _ _))))))
  have labels := accepted.next
    (.answer 1 _ ⟨.labels _, .ok (.ofList [("a", .ofList [("zone", "eu")])])⟩ rfl
      (@Action.Takes.tryPart _ _ [] [_] (.labels _) _ _ _ (List.cons_ne_nil _ _)))
  have ended := labels.next (.answer 1 _ ⟨.resources _, .ok {}⟩ rfl
    (@Action.Takes.tryLast _ _ (.resources _) _ _ _ _ _ {} (.get (.get (.set (.get (.done _ _)))))))
  exact ⟨_, _, _, _, ended, rfl, label_read_back ended rfl⟩

/-- Whatever loads of details overlap with it, an activity that adds a label gives the details of
its node, and on a pool in memory they show the label unless another has been accepted in its
place. -/
def LabelsGiven : Prop :=
  ∀ m h w, Run (.fresh {} {}) (m :: h) w →
    (∀ m' ∈ m :: h, (∃ node, m'.activity = .nodes (.loadDetail node)) ∨
      ∃ node key value, m'.activity = .nodes (.addLabel node key value)) →
    ∀ node key value detail, m.Returns (.nodes (.addLabel node key value)) (.ok detail) →
      detail.node = node ∧ ∀ p₀ p, Served p₀ (m :: h) p → ∀ since write earlier,
        m :: h = since ++ write :: earlier → write.strand = m.strand →
        write.reply = some ⟨labelWrite node key value, .ok ()⟩ →
        (∀ m' ∈ since, ¬ m'.Accepts (Call.setsLabel node (Text.trim key))) →
        detail.labels.get? (Text.trim key) = some (Text.trim value)

/-- While a label is added to one node, the details of another are loaded and shown. -/
theorem not_labelsGiven : ¬ LabelsGiven := by
  intro given
  have adding := Run.next (@Run.start (.fresh {} {}))
    (.begin (.nodes (.addLabel "a" "zone" "eu")) (.call _ _ _))
  have accepted := adding.next (.answer 0 _ ⟨.addLabels _ _, .ok ()⟩ rfl
    (.call _ (.get (.get (.set (.tryAll _ _ _ _))))))
  have loading := accepted.next
    (.begin (.nodes (.loadDetail "b")) (.get (.get (.set (.tryAll _ _ _ _)))))
  have labels := loading.next (.answer 1 _ ⟨.labels _, .ok ∅⟩ rfl
    (@Action.Takes.tryPart _ _ [] [_] (.labels _) _ _ ∅ (List.cons_ne_nil _ _)))
  have shown := labels.next (.answer 1 _ ⟨.resources _, .ok {}⟩ rfl
    (@Action.Takes.tryLast _ _ (.resources _) _ _ _ _ _ {} (.get (.get (.set (.done _ _))))))
  have ownLabels := shown.next (.answer 0 _ ⟨.labels _, .ok ∅⟩ rfl
    (@Action.Takes.tryPart _ _ [] [_] (.labels _) _ _ ∅ (List.cons_ne_nil _ _)))
  have ended := ownLabels.next (.answer 0 _ ⟨.resources _, .ok {}⟩ rfl
    (@Action.Takes.tryLast _ _ (.resources _) _ _ _ _ _ {} (.get (.get (.set (.get (.done _ _)))))))
  have own := (given _ _ _ ended ?_ "a" "zone" "eu" _ rfl).1
  · exact absurd own (by decide)
  · simp

end PoolConsole
