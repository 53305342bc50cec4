import PoolConsole.Proofs.Run.Opening
import PoolConsole.Proofs.Run.Sequence

/-!
What the wizard offers to choose from, in every run of the console.

* `offered`: the templates and labels that an opening of the wizard has found.
* `completed?`, `opened?`: which opening came to its end last, and which began last.
* `Offering`: the invariant; the wizard offers what the opening that came to its end last has found.
* `catalogue_offered`: what openings do to the wizard, in whatever order they are answered. An
  opening that is overtaken by a later one is not held back.
-/

namespace PoolConsole

open PoolConsole.Action Console Operation

/-! ## Openings in a history -/

namespace Reply

def templates? : Reply → Option (List TemplateSummary)
  | ⟨.templates, .ok templates⟩ => some templates
  | _ => none

def labels? : Reply → Option (List String)
  | ⟨.labels _, .ok labels⟩ => some labels.catalogue
  | _ => none

end Reply

/-- What the activity of a number has been told. -/
def found {α : Type} (read : Reply → Option α) (h : List Moment) (n : Nat) : Option α :=
  h.findSome? fun m => if m.strand = n then m.reply.bind read else none

/-- The templates and labels that the opening of a number has found; what it could not load it has
not found. -/
def offered (h : List Moment) (n : Nat) : List TemplateSummary × List String :=
  ((found Reply.templates? h n).getD [], (found Reply.labels? h n).getD [])

/-- What becomes of the choices in the moment: an opening begins, with nothing to choose from, or
the opening of the number comes to its end. -/
def Moment.opening? (m : Moment) : Option (Option Nat) :=
  if m.activity.opens then
    if m.begins then some none else if m.ends then some (some m.strand) else none
  else none

namespace Moment

variable {m : Moment}

theorem opens_of_opening? (h : m.opening? = some none) : m.Opens := by
  unfold opening? at h
  split at h
  next opens =>
    split at h
    next begins => exact ⟨begins, opens⟩
    next => split at h <;> cases h
  next => cases h

theorem ends_of_opening? {n : Nat} (h : m.opening? = some (some n)) :
    n = m.strand ∧ m.ends = true := by
  unfold opening? at h
  split at h
  next =>
    split at h
    next => cases h
    next =>
      split at h
      next ends =>
        cases h
        exact ⟨rfl, ends⟩
      next => cases h
  next => cases h

/-- An opening that neither begins nor comes to its end is under way. -/
theorem ends_of_opening?_none (opens : m.activity.opens = true) (h : m.opening? = none) :
    m.ends = false := by
  rw [opening?, opens] at h
  cases ends : m.ends with
  | false => rfl
  | true =>
    rw [ends] at h
    cases begins : m.begins <;> simp [begins] at h

end Moment

/-- The opening that came to its end last, unless another one has begun since. -/
def completed? (h : List Moment) : Option Nat :=
  (h.findSome? Moment.opening?).join

/-- The opening that began last. -/
def opened? (h : List Moment) : Option Nat :=
  h.findSome? fun m => if m.activity.opens && m.begins then some m.strand else none

def World.Opened (w : World) : Prop :=
  ∀ s ∈ w.strands, s.activity.opens = true → s.rest.value?.isSome = true

namespace Wizard

/-- What an answer on the way makes of the wizard: that the templates cannot be had is shown. -/
def told (w : Wizard) : Reply → Wizard
  | ⟨.templates, .error e⟩ => w.failTemplates e
  | _ => w

theorem catalogue_told (w : Wizard) (reply : Reply) : (w.told reply).catalogue = w.catalogue := by
  unfold told
  split <;> rfl

/-- What an opening makes of the wizard in a moment, with the choices that it has found so far. -/
def afterOpening (w : Wizard) (m : Moment) (choices : List TemplateSummary × List String) :
    Wizard :=
  match m.reply with
  | none => w.reopen
  | some reply => if m.ends then w.offer choices else w.told reply

end Wizard

section
variable {α : Type} {read : Reply → Option α} {h : List Moment} {m : Moment} {n : Nat}

theorem found_cons_of_ne (other : m.strand ≠ n) : found read (m :: h) n = found read h n := by
  rw [found, List.findSome?_cons, if_neg other]
  rfl

theorem found_cons_self {reply : Reply} (answered : m.reply = some reply) :
    found read (m :: h) m.strand = (read reply).or (found read h m.strand) := by
  rw [found, List.findSome?_cons, if_pos rfl, answered, Option.bind_some]
  cases read reply <;> rfl

theorem found_of_absent (absent : ∀ m ∈ h, m.strand ≠ n) : found read h n = none :=
  List.findSome?_eq_none_iff.mpr fun m mem => if_neg (absent m mem)

theorem found_of_begins (begins : m.begins = true) (absent : ∀ m' ∈ h, m'.strand ≠ m.strand) :
    found read (m :: h) m.strand = none := by
  rw [found, List.findSome?_cons, if_pos rfl, Option.isNone_iff_eq_none.mp begins]
  exact found_of_absent absent

theorem offered_cons_of_ne (other : m.strand ≠ n) : offered (m :: h) n = offered h n := by
  rw [offered, found_cons_of_ne other, found_cons_of_ne other]
  rfl

theorem completed?_cons_of_none (none : m.opening? = .none) :
    completed? (m :: h) = completed? h := by
  rw [completed?, List.findSome?_cons, none]
  rfl

theorem completed?_cons_of_some {c : Option Nat} (some : m.opening? = .some c) :
    completed? (m :: h) = c := by
  rw [completed?, List.findSome?_cons, some]
  rfl

end

/-! ## The invariant -/

inductive Finding (h : List Moment) (c : Console) (n : Nat) : Strand → Prop where
  | asking : found Reply.templates? h n = none → found Reply.labels? h n = none →
      Finding h c n ⟨.wizard .reopen, loadChoices⟩
  | labelling (templates : List TemplateSummary) :
      (found Reply.templates? h n).getD [] = templates → found Reply.labels? h n = none →
      Finding h c n ⟨.wizard .reopen, labelling templates⟩
  | naming (templates : List TemplateSummary) (nodes : List String) :
      (found Reply.templates? h n).getD [] = templates → found Reply.labels? h n = none →
      Finding h c n ⟨.wizard .reopen, naming templates nodes⟩
  | ended : Finding h c n ⟨.wizard .reopen, .done ()⟩
  | other (a : Activity) (rest : Action Console a.Result) :
      a.opens = false → rest.Still (·.wizard.catalogue) (fun _ => True) c → Finding h c n ⟨a, rest⟩

structure Offering (h : List Moment) (w : World) : Prop where
  offers : w.console.wizard.catalogue = (completed? h).elim ([], []) (offered h)
  completed : ∀ n, completed? h = some n → w.Ended n
  /-- An opening that has begun after all others came to their end is under way. -/
  pending : h.findSome? Moment.opening? = some none →
    ∃ s ∈ w.strands, s.activity.opens = true ∧ s.rest.value? = none
  finding : ∀ n strand, w.strands[n]? = some strand → Finding h w.console n strand

variable {start : Console} {h : List Moment} {m : Moment} {v w : World}

theorem Finding.cons {c d : Console} {n : Nat} {strand : Strand} (finding : Finding h c n strand)
    (other : m.strand ≠ n) : Finding (m :: h) d n strand := by
  cases finding with
  | asking templates labels =>
    exact .asking ((found_cons_of_ne other).trans templates) ((found_cons_of_ne other).trans labels)
  | labelling ts templates labels =>
    exact .labelling ts (by rwa [found_cons_of_ne other]) ((found_cons_of_ne other).trans labels)
  | naming ts nodes templates labels =>
    exact .naming ts nodes (by rwa [found_cons_of_ne other]) ((found_cons_of_ne other).trans labels)
  | ended => exact .ended
  | other a rest apart still => exact .other a rest apart still.mono

structure Opens (h : List Moment) (m : Moment) : Prop where
  changes : m.activity.opens = true →
    m.after.wizard = m.before.wizard.afterOpening m (offered (m :: h) m.strand)
  keeps : m.activity.opens = false → m.after.wizard.catalogue = m.before.wizard.catalogue
  /-- An opening does not come to its end as it begins. -/
  waits : m.activity.opens = true → m.begins = true → m.rest.value? = none

theorem Activity.eq_of_opens {a : Activity} (opens : a.opens = true) : a = .wizard .reopen := by
  cases a with
  | wizard a =>
    cases a with
    | reopen => rfl
    | _ => cases opens
  | _ => cases opens

theorem Opens.of_other (other : m.activity.opens = false)
    (same : m.after.wizard.catalogue = m.before.wizard.catalogue) : Opens h m :=
  ⟨fun opens => (nomatch other.symm.trans opens), fun _ => same,
    fun opens => nomatch other.symm.trans opens⟩

theorem Run.begin_opens (run : Run start h v) (step : Step v m w) (begins : m.begins = true) :
    Opens h m ∧ Finding (m :: h) m.after m.strand ⟨m.activity, m.rest⟩ := by
  have advances := step.advances begins
  have absent (m' : Moment) (mem : m' ∈ h) : m'.strand ≠ m.strand :=
    Nat.ne_of_lt (run.strand_fresh step begins m' mem)
  cases opens : m.activity.opens with
  | false =>
    have keeps := (confined_catalogue _ opens).keeps advances
    exact ⟨.of_other opens keeps.same, .other _ m.rest opens keeps.still⟩
  | true =>
    obtain ⟨n, a, reply, before, after, issues, rest⟩ := m
    cases Activity.eq_of_opens opens
    cases Option.isNone_iff_eq_none.mp begins
    dsimp only at advances
    obtain ⟨rfl, rfl⟩ := advances_loadChoices (advances_openWizard advances)
    exact ⟨⟨fun _ => rfl, fun other => (nomatch other), fun _ _ => rfl⟩,
      .asking (found_of_begins begins absent) (found_of_begins begins absent)⟩

theorem Offering.answer (offering : Offering h v) (step : Step v m w) {reply : Reply}
    (answered : m.reply = some reply) :
    Opens h m ∧ Finding (m :: h) m.after m.strand ⟨m.activity, m.rest⟩ := by
  obtain ⟨x, there, takes⟩ := step.takes answered
  have stands := offering.finding _ _ there
  rw [← step.before_eq] at stands
  have told {α : Type} {read : Reply → Option α} :
      found read (m :: h) m.strand = (read reply).or (found read h m.strand) :=
    found_cons_self answered
  obtain ⟨n, a, _, before, after, issues, rest⟩ := m
  cases answered
  dsimp only at there takes stands told ⊢
  cases stands with
  | asking templates labels =>
    obtain ⟨r, rfl, rfl, wizard⟩ := takes_loadChoices takes
    refine ⟨⟨fun _ => ?_, nofun, nofun⟩, .labelling _ ?_ ?_⟩
    · cases r with
      | ok => exact wizard
      | error e => exact wizard
    · rw [told, templates]
      cases r <;> rfl
    · rw [told, labels]
      rfl
  | labelling ts templates labels =>
    obtain ⟨r, rfl, ⟨nodes, rfl, rfl⟩ | ⟨rfl, rfl⟩⟩ := takes_labelling takes
    · refine ⟨⟨fun _ => rfl, nofun, nofun⟩, .naming ts nodes ?_ ?_⟩
      · rw [told]
        exact templates
      · rw [told, labels]
        rfl
    · refine ⟨⟨fun _ => ?_, nofun, nofun⟩, .ended⟩
      rw [offered, told, told, labels, ← templates]
      rfl
  | naming ts nodes templates labels =>
    obtain ⟨r, rfl, rfl, rfl⟩ := takes_naming takes
    refine ⟨⟨fun _ => ?_, nofun, nofun⟩, .ended⟩
    rw [offered, told, told, labels, ← templates]
    cases r <;> rfl
  | ended => exact absurd takes (not_takes_done _ _)
  | other _ _ other still =>
    have keeps := still.keeps takes
    exact ⟨.of_other other keeps.same, .other _ rest other keeps.still⟩

/-- What a step makes of the choices, by what it means for the openings. -/
theorem Opens.catalogue (opens : Opens h m) :
    m.after.wizard.catalogue = match m.opening? with
      | none => m.before.wizard.catalogue
      | some none => ([], [])
      | some (some n) => offered (m :: h) n := by
  cases is : m.activity.opens with
  | false =>
    rw [Moment.opening?, is]
    exact opens.keeps is
  | true =>
    rw [Moment.opening?, is, opens.changes is, Wizard.afterOpening, Moment.begins]
    cases m.reply with
    | none => rfl
    | some reply =>
      cases m.ends with
      | true => rfl
      | false => exact Wizard.catalogue_told _ reply

theorem Offering.offers_next (offering : Offering h v) (step : Step v m w) (opens : Opens h m) :
    w.console.wizard.catalogue = (completed? (m :: h)).elim ([], []) (offered (m :: h)) := by
  have catalogue := opens.catalogue
  rw [step.after_eq, step.before_eq] at catalogue
  rw [catalogue]
  cases is : m.opening? with
  | some c =>
    rw [completed?_cons_of_some is]
    cases c <;> rfl
  | none =>
    rw [completed?_cons_of_none is, offering.offers]
    cases done : completed? h with
    | none => rfl
    | some n =>
      -- What has come to its end takes no step, and so finds nothing more.
      have other := (step.ended (offering.completed n done)).1
      exact (offered_cons_of_ne other.symm).symm

theorem Offering.completed_next (offering : Offering h v) (step : Step v m w) {n : Nat}
    (done : completed? (m :: h) = some n) : w.Ended n := by
  cases is : m.opening? with
  | some c =>
    rw [completed?_cons_of_some is] at done
    subst done
    obtain ⟨rfl, ends⟩ := Moment.ends_of_opening? is
    exact step.ended_here ends
  | none =>
    rw [completed?_cons_of_none is] at done
    exact (step.ended (offering.completed n done)).2

theorem Offering.pending_next (offering : Offering h v) (step : Step v m w) (opens : Opens h m)
    (begun : (m :: h).findSome? Moment.opening? = some none) :
    ∃ s ∈ w.strands, s.activity.opens = true ∧ s.rest.value? = none := by
  rw [List.findSome?_cons] at begun
  cases is : m.opening? with
  | some c =>
    rw [is] at begun
    cases begun
    obtain ⟨begins, opening⟩ := Moment.opens_of_opening? is
    exact ⟨_, List.mem_of_getElem? step.strand_after, opening, opens.waits opening begins⟩
  | none =>
    rw [is] at begun
    obtain ⟨s, mem, opening, waits⟩ := offering.pending begun
    obtain ⟨n, there⟩ := List.mem_iff_getElem?.mp mem
    -- The opening under way may be the one that steps, which has not come to its end then.
    by_cases here : n = m.strand
    · subst here
      obtain ⟨rest, kept⟩ := step.strand_kept there
      have same := congrArg Strand.activity (Option.some.inj (step.strand_after.symm.trans kept))
      have opening' : m.activity.opens = true := (congrArg Activity.opens same).trans opening
      refine ⟨_, List.mem_of_getElem? step.strand_after, opening', ?_⟩
      exact Option.isNone_iff_eq_none.mp
        (Option.isSome_eq_false_iff.mp (Moment.ends_of_opening?_none opening' is))
    · exact ⟨s, List.mem_of_getElem? (step.strand_left here there), opening, waits⟩

theorem Offering.next (offering : Offering h v) (run : Run start h v) (step : Step v m w) :
    Offering (m :: h) w ∧ Opens h m := by
  have here : Opens h m ∧ Finding (m :: h) m.after m.strand ⟨m.activity, m.rest⟩ := by
    cases answered : m.reply with
    | none => exact run.begin_opens step (congrArg Option.isNone answered)
    | some reply => exact offering.answer step answered
  obtain ⟨opens, finding⟩ := here
  refine ⟨⟨offering.offers_next step opens, fun n => offering.completed_next step,
    offering.pending_next step opens, ?_⟩, opens⟩
  intro n strand there
  rw [← step.after_eq]
  rcases step.strand_cases there with ⟨rfl, rfl⟩ | ⟨other, there⟩
  · exact finding
  · exact (offering.finding n strand there).cons other.symm

theorem Run.offering (run : Run start h w) (fresh : start.wizard = {}) : Offering h w := by
  induction run with
  | start =>
    refine ⟨?_, nofun, nofun, by simp⟩
    rw [fresh]
    rfl
  | next run step offering => exact (offering.next run step).1

/-! ## What holds in every run -/

/-- Once all openings have come to their end, the choices are those that the opening which began
last has found. -/
def LatestOffered (h : List Moment) (w : World) : Prop :=
  w.Opened → ∀ n, opened? h = some n → w.console.wizard.catalogue = offered h n

/-- Once the wizard has been opened afresh, the answers to earlier openings leave what it shows
alone. -/
def EarlierSilent (h : List Moment) : Prop :=
  ∀ later m earlier, h = later ++ m :: earlier → m.activity.opens = true → m.begins = false →
    Reopened earlier m.strand → m.after.wizard.view = m.before.wizard.view

theorem findSome?_opening?_of_opened? {n : Nat} (begun : opened? h = some n) :
    ∃ c, h.findSome? Moment.opening? = some c := by
  obtain ⟨m, mem, is⟩ := List.exists_of_findSome?_eq_some begun
  cases none : h.findSome? Moment.opening? with
  | some c => exact ⟨c, rfl⟩
  | none =>
    have quiet := List.findSome?_eq_none_iff.mp none m mem
    unfold Moment.opening? at quiet
    cases opens : m.activity.opens <;> cases begins : m.begins <;> simp_all

structure CatalogueOffered (h : List Moment) (w : World) : Prop where
  /-- The wizard offers nothing while no opening has come to its end since the last one began, and
  otherwise what the opening that came to its end last has found. -/
  offers : w.console.wizard.catalogue = (completed? h).elim ([], []) (offered h)
  completed : w.Opened → ∀ n, opened? h = some n →
    ∃ k, completed? h = some k ∧ w.console.wizard.catalogue = offered h k
  /-- The opening that began last counts only where the one that came to its end last has found the
  same. -/
  latest_iff : LatestOffered h w ↔ (w.Opened → ∀ n k, opened? h = some n → completed? h = some k →
    offered h k = offered h n)
  /-- Whether or not the wizard has been opened afresh since, an answer to an opening is taken over
  into what is shown. -/
  changes : ∀ later m earlier, h = later ++ m :: earlier → m.activity.opens = true →
    m.after.wizard = m.before.wizard.afterOpening m (offered (m :: earlier) m.strand)

theorem catalogue_offered (run : Run start h w) (fresh : start.wizard = {}) :
    CatalogueOffered h w := by
  have offering := run.offering fresh
  have completed (all : w.Opened) (n : Nat) (begun : opened? h = some n) :
      ∃ k, completed? h = some k ∧ w.console.wizard.catalogue = offered h k := by
    obtain ⟨c, is⟩ := findSome?_opening?_of_opened? begun
    cases c with
    | none =>
      obtain ⟨s, mem, opens, waits⟩ := offering.pending is
      have ended := all s mem opens
      rw [waits] at ended
      cases ended
    | some k =>
      have done : completed? h = some k := by
        rw [completed?, is]
        rfl
      refine ⟨k, done, ?_⟩
      rw [offering.offers, done]
      rfl
  refine ⟨offering.offers, completed, ⟨?_, ?_⟩, ?_⟩
  · intro latest all n k begun done
    obtain ⟨k', done', choices⟩ := completed all n begun
    rw [done, Option.some.injEq] at done'
    subst done'
    rw [← choices, latest all n begun]
  · intro same all n begun
    obtain ⟨k, done, choices⟩ := completed all n begun
    rw [choices, same all n k begun done]
  · rintro later m earlier rfl opens
    obtain ⟨v, v', prior, step⟩ := run.split
    exact ((prior.offering fresh).next prior step).2.changes opens

/-- Of two openings the first is answered last, and what it has found is offered. -/
theorem catalogue_after_overtaking :
    ∃ h w, Run {} h w ∧ opened? h = some 1 ∧
      w.console.wizard.catalogue = ([{ name := "a" }], []) := by
  have opening {h w} (run : Run {} h w) := run.next (.begin (.wizard .reopen)
    (.get (.get (.set (.call _ _ _)))))
  have second := (opening (opening .start)).next
    (.answer 1 _ ⟨.templates, .ok [{ name := "b" }]⟩ rfl (.call _ (.call _ _ _)))
  have secondDone := second.next (.answer 1 _ ⟨.devices, .ok []⟩ rfl
    (.call _ (.get (.get (.set (.done _ _))))))
  have first := secondDone.next
    (.answer 0 _ ⟨.templates, .ok [{ name := "a" }]⟩ rfl (.call _ (.call _ _ _)))
  have firstDone := first.next (.answer 0 _ ⟨.devices, .ok []⟩ rfl
    (.call _ (.get (.get (.set (.done _ _))))))
  exact ⟨_, _, firstDone, rfl, (catalogue_offered firstDone rfl).offers⟩

/-- Of two openings the first is answered last, and fails: what the second has found is offered no
more, and the failure is shown. -/
theorem earlier_opening_shown :
    ∃ h w, Run {} h w ∧ ¬ LatestOffered h w ∧ ¬ EarlierSilent h ∧
      w.console.wizard.view.error = some "Failed to load templates: timeout" := by
  have opening {h w} (run : Run {} h w) := run.next (.begin (.wizard .reopen)
    (.get (.get (.set (.call _ _ _)))))
  have second := (opening (opening .start)).next
    (.answer 1 _ ⟨.templates, .ok [{ name := "b" }]⟩ rfl (.call _ (.call _ _ _)))
  have secondDone := second.next (.answer 1 _ ⟨.devices, .ok []⟩ rfl
    (.call _ (.get (.get (.set (.done _ _))))))
  have first := secondDone.next (.answer 0 _ ⟨.templates, .error (.backend "timeout")⟩ rfl
    (.call _ (.get (.get (.set (.call _ _ _))))))
  have firstDone := first.next (.answer 0 _ ⟨.devices, .ok []⟩ rfl
    (.call _ (.get (.get (.set (.done _ _))))))
  refine ⟨_, _, firstDone, ?_, ?_, rfl⟩
  · intro latest
    have same := latest (List.forall_mem_cons.mpr ⟨fun _ => rfl, List.forall_mem_singleton.mpr
      fun _ => rfl⟩) 1 rfl
    exact absurd (congrArg (fun choices => choices.1.length) same) (by decide)
  · intro silent
    have same := silent [_] _ _ rfl rfl rfl ⟨_, .tail _ (.tail _ (.head _)), ⟨rfl, rfl⟩, by decide⟩
    exact absurd (congrArg WizardView.error same) (by decide)

end PoolConsole
