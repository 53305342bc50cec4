import PoolConsole.Proofs.Run.Frame
import PoolConsole.Proofs.Run.Loading

namespace PoolConsole

open PoolConsole.Action Console Operation

def Call.changesNodes : Call → Bool
  | .cordon _ | .uncordon _ | .deleteNodes _ => true
  | _ => false

def Call.addsLabels : Call → Bool
  | .addLabels _ _ => true
  | _ => false

def nodeTable : Source (List NodeRow) where
  panel c := c.nodes.table
  Query := Unit
  calls _ := [.devices, .gpus false]
  read _ answers := NodeRow.combine answers.1 answers.2.1
  writes := Call.changesNodes

/-- The call that adds a label to a node. -/
def labelWrite (node key value : String) : Call :=
  .addLabels node (.ofList [(Text.trim key, Text.trim value)])

def nodeDetail : Source NodeDetail where
  panel c := c.nodes.detail
  Query := String
  calls node := [.labels [node], .resources (some [node])]
  read node answers := detailOf node answers.1 answers.2.1
  asks a node accepted _ :=
    a = .nodes (.loadDetail node) ∨ ∃ key value, a = .nodes (.addLabel node key value) ∧
      accepted = [⟨labelWrite node key value, .ok ()⟩]
  writes := Call.addsLabels

theorem harmless_of_about {k : Call → Prop} (cordon : ∀ nodes, ¬ k (.cordon nodes))
    (uncordon : ∀ nodes, ¬ k (.uncordon nodes)) (delete : ∀ nodes, ¬ k (.deleteNodes nodes))
    (label : ∀ node labels, ¬ k (.addLabels node labels)) {c : Call} (about : k c) :
    c.changesNodes = false ∧ c.addsLabels = false := by
  cases c with
  | cordon nodes => exact absurd about (cordon nodes)
  | uncordon nodes => exact absurd about (uncordon nodes)
  | deleteNodes nodes => exact absurd about (delete nodes)
  | addLabels node labels => exact absurd about (label node labels)
  | _ => exact ⟨rfl, rfl⟩

/-- The activities of the other parts leave a view of the nodes alone and change none. -/
theorem confined_of_otherNodes {γ : Type} {view : Console → γ} {calls : Call → Console → Prop}
    (nodes : ∀ c c', c.nodes = c'.nodes → view c = view c')
    (harmless : ∀ c s, c.changesNodes = false ∧ c.addsLabels = false → calls c s) (a : Activity)
    (other : ∀ b, a ≠ .nodes b) : a.action.Confined view calls := by
  have may {k : Call → Prop} (cordon : ∀ nodes, ¬ k (.cordon nodes))
      (uncordon : ∀ nodes, ¬ k (.uncordon nodes)) (delete : ∀ nodes, ¬ k (.deleteNodes nodes))
      (label : ∀ node labels, ¬ k (.addLabels node labels)) (c : Call) (s : Console)
      (about : k c) : calls c s :=
    harmless c s (harmless_of_about cordon uncordon delete label about)
  cases a with
  | session a =>
    exact SessionActivity.confined (may (fun _ => id) (fun _ => id) (fun _ => id) fun _ _ => id)
      (fun _ _ => nodes _ _ rfl) (fun _ _ => nodes _ _ rfl) (fun _ _ => nodes _ _ rfl) a
      fun _ _ _ => nodes _ _ rfl
  | jobs a =>
    exact JobActivity.confined (fun _ _ => nodes _ _ rfl) (fun _ s _ => harmless _ s ⟨rfl, rfl⟩)
      (may (fun _ => id) (fun _ => id) (fun _ => id) fun _ _ => id) a fun _ _ _ _ => nodes _ _ rfl
  | wizard a =>
    exact WizardActivity.confined (fun _ _ _ => nodes _ _ rfl)
      (may (fun _ => id) (fun _ => id) (fun _ => id) fun _ _ => id) a fun what _ =>
      submission_confined (fun _ _ => nodes _ _ rfl) (fun _ _ => nodes _ _ rfl)
        (fun _ _ _ => nodes _ _ rfl) (fun _ s _ => harmless _ s ⟨rfl, rfl⟩)
        (may (fun _ => id) (fun _ => id) (fun _ => id) fun _ _ => id) what
  | nodes a => exact absurd rfl (other a)
  | views a =>
    exact ViewActivity.confined (fun _ _ => nodes _ _ rfl) (fun _ _ => nodes _ _ rfl)
      (fun _ _ => nodes _ _ rfl) (fun _ _ => nodes _ _ rfl) (fun s _ => harmless _ s ⟨rfl, rfl⟩)
      (may (fun _ => id) (fun _ => id) (fun _ => id) fun _ _ => id) a
      fun _ _ s => harmless _ s ⟨rfl, rfl⟩

/-! ## The table -/

section
variable {a : Activity} {accepted : List Reply} {s₀ s : Console}

/-- A load of the table, if none has begun before. -/
theorem loads_loadNodes (accepted : List Reply) (s : Console) :
    loadNodes.Loads nodeTable a (nodeTable.Loaded ()) (.ahead accepted) s s := by
  simp only [loadNodes, bind_eq, onNodes, loads_bind, loads_update]
  refine loads_requestAll () rfl trivial (by decide) (by decide) ?_ fun e => ?_
  · exact fun r told t heard given => .answered r heard given rfl
  · exact .atOnce e rfl

/-- What an activity that changes a node ends with: a failed load of the table is reported. -/
def tableReread : Outcome Unit → nodeTable.Stage → Console → Console → Prop :=
  nodeTable.Rereads () fun r _ => r.map fun _ => ()

theorem loads_reread (accepted : List Reply) (s : Console) :
    (loadNodes.attempt fun _ => .done (.ok ())).Loads nodeTable a tableReread (.ahead accepted)
      s s :=
  (loads_loadNodes accepted s).attempt (fun loaded => (loads_done _).mpr (.loaded loaded))
    fun loaded => .loaded loaded

theorem loads_setCordoned (node : String) (cordoned : Bool) (s : Console) :
    (setCordoned node cordoned).Loads nodeTable a tableReread (.ahead []) s s := by
  cases cordoned with
  | true => exact loads_write_attempt rfl (fun _ t => loads_reread _ t) fun e _ => .refused e rfl
  | false => exact loads_write_attempt rfl (fun _ t => loads_reread _ t) fun e _ => .refused e rfl

end

theorem confined_loadDetail (node : String) :
    (loadDetail node).Confined nodeTable.panel fun c _ => nodeTable.writes c = false :=
  .bind ⟨fun _ _ same => same⟩ fun _ =>
    .bind (.requestAll (fun _ _ => id) (by simp [nodeTable, Call.changesNodes])) fun _ =>
      ⟨fun _ _ same => same⟩

theorem confined_addLabel (node key value : String) :
    (addLabel node key value).Confined nodeTable.panel fun c _ => nodeTable.writes c = false := by
  refine .ite (.done _) (.attempt (.request fun _ => rfl) fun () => ?_)
  refine .attempt (confined_loadDetail node) fun _ => .bind (.read _) fun detail => ?_
  cases detail with
  | none => exact .done _
  | some detail => exact .done _

/-- What an activity ends with, as far as the table is concerned. -/
def tablePost : (a : Activity) → a.Result → nodeTable.Stage → Console → Console → Prop
  | .nodes (.setCordoned _ _), r, stage, u, v => tableReread r stage u v
  | .nodes (.delete _), r, stage, u, v => tableReread r stage u v
  | a, _, stage, u, v => nodeTable.Ends a stage u v

def nodeTablePlan : nodeTable.Plan where
  post := tablePost
  ends {a b stage s t} post := by
    have reread {a : Activity} {r : Outcome Unit} (post : tableReread r stage s t) :
        nodeTable.Ends a stage s t :=
      Source.Rereads.ends (by decide) post
    cases a with
    | nodes a =>
      cases a with
      | setCordoned | delete => exact reread post
      | _ => exact post
    | _ => exact post
  loads a s := by
    cases a with
    | nodes b =>
      cases b with
      | load => exact (loads_loadNodes [] s).imp fun loaded => loaded.ends (by decide)
      | setCordoned node cordoned => exact loads_setCordoned node cordoned s
      | toggleCordon node =>
        refine (loads_bind _ _).mpr ((loads_read _).mpr ?_)
        cases s.nodes.row? node with
        | none => exact (loads_done _).mpr (.of_kept rfl)
        | some row =>
          have ends {r : Outcome Unit} {stage : nodeTable.Stage} {u v : Console}
              (post : tableReread r stage u v) :
              nodeTable.Ends (.nodes (.toggleCordon node)) stage u v :=
            Source.Rereads.ends (by decide) post
          refine (loads_setCordoned node _ s).attempt ?_ ends
          exact fun post => (loads_done _).mpr (ends post)
      | delete node =>
        exact loads_write_attempt rfl (fun _ t => loads_reread _ t) fun e _ => .refused e rfl
      | loadDetail node => exact (confined_loadDetail node).ends s
      | addLabel node key value => exact (confined_addLabel node key value).ends s
    | session | jobs | wizard | views =>
      refine Confined.ends ?_ s
      refine confined_of_otherNodes (fun _ _ same => ?_) (fun _ _ => And.left) _ ?_
      · exact congrArg NodeBoard.table same
      · nofun

/-! ## The details -/

theorem confined_loadNodes :
    loadNodes.Confined nodeDetail.panel fun c _ => nodeDetail.writes c = false :=
  .bind ⟨fun _ _ same => same⟩ fun _ =>
    .bind (.requestAll (fun _ _ => id) (by simp [nodeDetail, Call.addsLabels])) fun _ =>
      ⟨fun _ _ same => same⟩

theorem confined_setCordoned (node : String) (cordoned : Bool) :
    (setCordoned node cordoned).Confined nodeDetail.panel fun c _ => nodeDetail.writes c = false :=
  .attempt (.ite (.request fun _ => rfl) (.request fun _ => rfl)) fun () =>
    .attempt confined_loadNodes fun _ => .done _

theorem confined_deleteNode (node : String) :
    (deleteNode node).Confined nodeDetail.panel fun c _ => nodeDetail.writes c = false :=
  .attempt (.request fun _ => rfl) fun () => .attempt confined_loadNodes fun _ => .done _

theorem confined_toggleCordon (node : String) :
    (toggleCordon node).Confined nodeDetail.panel fun c _ => nodeDetail.writes c = false := by
  refine .bind (.read _) fun row => ?_
  cases row with
  | none => exact .done _
  | some row => exact .attempt (confined_setCordoned node _) fun () => .done _

/-- What an activity that adds a label gives is what is shown after its own load, which has been
taken over or has come too late. -/
def Labelled (node : String) (detail : NodeDetail) (stage : nodeDetail.Stage) (u v : Console) :
    Prop :=
  v.nodes.detail.data = some detail ∧ ∃ ticket told result outcome,
    stage = .loading node ticket told ∧ nodeDetail.Given told node result ∧
    u.nodes.detail.complete ticket result = (.ok outcome, v.nodes.detail)

/-- The details that are shown, as those of a node. -/
def shownDetail (node : String) (c : Console) : Outcome NodeDetail :=
  match c.nodes.detail.data with
  | some detail => .ok detail
  | none => .error (noSuchNode node)

theorem data_of_shownDetail {node : String} {c : Console} {detail : NodeDetail}
    (shown : shownDetail node c = .ok detail) : c.nodes.detail.data = some detail := by
  unfold shownDetail at shown
  split at shown
  next data =>
    cases shown
    exact data
  next => cases shown

/-- What an activity that adds a label ends with: a failed load of the details is reported, and
otherwise what is shown then is given. -/
def labelReread (node : String) :
    Outcome NodeDetail → nodeDetail.Stage → Console → Console → Prop :=
  nodeDetail.Rereads node fun r c => r.bind fun _ => shownDetail node c

theorem labelled_of_reread {node : String} {detail : NodeDetail} {stage : nodeDetail.Stage}
    {u v : Console} (reread : labelReread node (.ok detail) stage u v) :
    Labelled node detail stage u v := by
  generalize gives : (Except.ok detail : Outcome NodeDetail) = r at reread
  cases reread with
  | refused => cases gives
  | loaded loaded =>
    cases loaded with
    | atOnce e =>
      simp [Panel.complete, Panel.begin, Except.bind] at gives
    | @answered ticket told _ _ r _ given taken =>
      generalize complete : (nodeDetail.panel u).complete ticket (r.map (nodeDetail.read node)) = p
        at gives taken
      obtain ⟨outcome, panel⟩ := p
      cases outcome with
      | error => cases gives
      | ok outcome =>
        obtain rfl : v.nodes.detail = panel := taken
        exact ⟨data_of_shownDetail gives.symm, ticket, told, _, outcome, rfl, given, complete⟩

/-- What an activity ends with, as far as the details are concerned. -/
def detailPost : (a : Activity) → a.Result → nodeDetail.Stage → Console → Console → Prop
  | .nodes (.addLabel node _ _), r, stage, u, v =>
    labelReread node r stage u v ∧ ∀ detail, r = .ok detail → Labelled node detail stage u v
  | a, _, stage, u, v => nodeDetail.Ends a stage u v

/-- A load of the details, if none has begun before. -/
theorem loads_loadDetail {a : Activity} {node : String} {accepted : List Reply} {s : Console}
    (asks : ∀ t, nodeDetail.asks a node accepted t) :
    (loadDetail node).Loads nodeDetail a (nodeDetail.Loaded node) (.ahead accepted) s s := by
  simp only [loadDetail, bind_eq, onNodes, loads_bind, loads_update]
  refine loads_requestAll (S := nodeDetail) node rfl (asks _) ?_ (List.cons_ne_nil _ _) ?_
    fun e => ?_
  · simp [nodeDetail, Call.addsLabels]
  · exact fun r told t heard given => .answered r heard given rfl
  · exact .atOnce e rfl

/-- An activity that adds a label ends with what is shown after its own load. -/
theorem loads_addLabel (node key value : String) (s : Console) :
    (addLabel node key value).Loads nodeDetail (.nodes (.addLabel node key value))
      (labelReread node) (.ahead []) s s := by
  unfold addLabel
  split
  · exact (loads_done _).mpr (.refused _ rfl)
  · refine loads_write_attempt rfl (fun _ t => ?_) fun e _ => .refused e rfl
    refine (loads_loadDetail fun _ => .inr ⟨key, value, rfl, rfl⟩).attempt ?_ ?_
    · intro outcome stage u v loaded
      have reread : labelReread node (shownDetail node v) stage u v := .loaded loaded
      refine (loads_bind _ _).mpr ((loads_read _).mpr ?_)
      unfold shownDetail at reread
      cases shown : v.nodes.detail.data with
      | none | some detail =>
        rw [shown] at reread
        exact (loads_done _).mpr reread
    · exact fun loaded => .loaded loaded

def nodeDetailPlan : nodeDetail.Plan where
  post := detailPost
  ends {a b stage s t} post := by
    cases a with
    | nodes a =>
      cases a with
      | addLabel => exact Source.Rereads.ends (Nat.lt_succ_self 1) post.1
      | _ => exact post
    | _ => exact post
  loads a s := by
    cases a with
    | nodes b =>
      cases b with
      | load => exact confined_loadNodes.ends s
      | setCordoned node cordoned => exact (confined_setCordoned node cordoned).ends s
      | toggleCordon node => exact (confined_toggleCordon node).ends s
      | delete node => exact (confined_deleteNode node).ends s
      | loadDetail node =>
        exact (loads_loadDetail fun _ => .inl rfl).imp fun loaded =>
          loaded.ends (Nat.lt_succ_self 1)
      | addLabel node key value =>
        exact (loads_addLabel node key value s).imp fun reread =>
          ⟨reread, fun _ ok => labelled_of_reread (ok ▸ reread)⟩
    | session | jobs | wizard | views =>
      refine Confined.ends ?_ s
      refine confined_of_otherNodes (fun _ _ same => ?_) (fun _ _ => And.right) _ ?_
      · exact congrArg NodeBoard.detail same
      · nofun

end PoolConsole
