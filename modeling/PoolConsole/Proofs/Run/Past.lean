import PoolConsole.Proofs.Run.History

/-!
Looking back on a history.

* `Last`: the last moment that is such and such, and the moments since.
* `repliesTo`, `callsOf`: what an activity has been answered, and what it has called.
* `Moment.Accepts`: the pool has accepted a call of a kind.
* `World.Quiet`: nothing is under way any more; `Moment.Returns`: an activity comes to its end.
-/

namespace PoolConsole

/-- Every activity that has begun has come to its end. -/
def World.Quiet (w : World) : Prop :=
  ∀ strand ∈ w.strands, strand.rest.value?.isSome = true

theorem World.Quiet.ended {start : Console} {h : List Moment} {w : World} (quiet : w.Quiet)
    (run : Run start h w) {m : Moment} (mem : m ∈ h) : w.Ended m.strand := by
  have there := List.getElem?_eq_getElem (run.strand_lt m mem)
  exact ⟨_, there, quiet _ (List.mem_of_getElem? there)⟩

/-- The activity comes to its end in the moment, with a result. -/
def Moment.Returns (m : Moment) (a : Activity) (r : a.Result) : Prop :=
  (⟨m.activity, m.rest⟩ : Strand) = ⟨a, .done r⟩

theorem Moment.Returns.elim {m : Moment} {a : Activity} {r : a.Result}
    {p : (a : Activity) → a.Result → Prop} (returns : m.Returns a r)
    (holds : ∀ b, m.rest = .done b → p m.activity b) : p a r := by
  obtain ⟨same, rest⟩ := Strand.mk.inj returns
  subst same
  exact holds r (eq_of_heq rest)

theorem Moment.Returns.ends {m : Moment} {a : Activity} {r : a.Result} (returns : m.Returns a r) :
    m.ends = true := by
  refine returns.elim (p := fun _ _ => m.ends = true) fun b rest => ?_
  rw [Moment.ends, rest]
  rfl

/-- The last moment of a history that is such, and the moments since. -/
inductive Last (p : Moment → Prop) : List Moment → List Moment → Moment → Prop where
  | here {h m} : p m → Last p (m :: h) [] m
  | since {h later m m'} : ¬ p m' → Last p h later m → Last p (m' :: h) (m' :: later) m

namespace Last

variable {p q : Moment → Prop} {h later later' : List Moment} {m m' : Moment}

theorem split (last : Last p h later m) : ∃ earlier, h = later ++ m :: earlier := by
  induction last with
  | here => exact ⟨_, rfl⟩
  | since _ _ ih =>
    obtain ⟨earlier, rfl⟩ := ih
    exact ⟨earlier, rfl⟩

theorem holds (last : Last p h later m) : p m := by
  induction last with
  | here holds => exact holds
  | since _ _ ih => exact ih

theorem not_later (last : Last p h later m) : ∀ m' ∈ later, ¬ p m' := by
  induction last with
  | here => simp
  | since not _ ih =>
    intro m' mem
    rcases List.mem_cons.mp mem with rfl | mem
    · exact not
    · exact ih m' mem

theorem mem (last : Last p h later m) : m ∈ h := by
  obtain ⟨earlier, rfl⟩ := last.split
  exact List.mem_append_right _ List.mem_cons_self

theorem unique (first : Last p h later m) (second : Last p h later' m') :
    later = later' ∧ m = m' := by
  induction first generalizing later' m' with
  | here holds =>
    cases second with
    | here => exact ⟨rfl, rfl⟩
    | since not _ => exact absurd holds not
  | since not _ ih =>
    cases second with
    | here holds => exact absurd holds not
    | since _ second =>
      obtain ⟨rfl, rfl⟩ := ih second
      exact ⟨rfl, rfl⟩

/-- The last moment of one kind is the last of a wider kind, if there is none of that since. -/
theorem widen (last : Last p h later m) (wider : p m → q m) (none : ∀ m' ∈ later, ¬ q m') :
    Last q h later m := by
  induction last with
  | here holds => exact .here (wider holds)
  | since _ _ ih =>
    refine .since (none _ List.mem_cons_self) (ih wider fun m' mem => ?_)
    exact none m' (List.mem_cons_of_mem _ mem)

/-- The last moment of a kind is the last of a narrower kind, if it is one. -/
theorem narrow (last : Last p h later m) (narrower : ∀ m, q m → p m) (holds : q m) :
    Last q h later m := by
  induction last with
  | here => exact .here holds
  | since not _ ih => exact .since (fun is => not (narrower _ is)) (ih holds)

theorem exists_of_mem (mem : m ∈ h) (holds : p m) : ∃ later m', Last p h later m' := by
  induction h with
  | nil => simp at mem
  | cons m' h ih =>
    by_cases here : p m'
    · exact ⟨_, _, .here here⟩
    · rcases List.mem_cons.mp mem with rfl | mem
      · exact absurd holds here
      · obtain ⟨later, m'', last⟩ := ih mem
        exact ⟨_, _, .since here last⟩

/-- What has not happened since has happened in that moment or before. -/
theorem before_split (last : Last p h later m) (none : ∀ m' ∈ later, ¬ q m')
    {since earlier : List Moment} (split : h = since ++ m' :: earlier) (holds : q m') :
    ∃ between, since ++ [m'] = later ++ m :: between := by
  induction last generalizing since with
  | here =>
    cases since with
    | nil =>
      cases split
      exact ⟨[], rfl⟩
    | cons _ since =>
      cases split
      exact ⟨since ++ [m'], rfl⟩
  | since _ _ ih =>
    cases since with
    | nil =>
      cases split
      exact absurd holds (none _ List.mem_cons_self)
    | cons _ since =>
      obtain ⟨rfl, rest⟩ := List.cons.inj split
      obtain ⟨between, eq⟩ := ih (fun m mem => none m (List.mem_cons_of_mem _ mem)) rest
      exact ⟨between, congrArg _ eq⟩

end Last

/-- The reply accepts a call of a kind. -/
def Reply.accepts (changes : Call → Bool) : Reply → Bool
  | ⟨c, .ok _⟩ => changes c
  | ⟨_, .error _⟩ => false

theorem Reply.accepts_of_harmless {changes : Call → Bool} {c : Call} (harmless : changes c = false)
    (r : Outcome c.Answer) : Reply.accepts changes ⟨c, r⟩ = false := by
  cases r with
  | ok => exact harmless
  | error => rfl

/-- What has been replied to an activity, the latest first. -/
def repliesTo (h : List Moment) (n : Nat) : List Reply :=
  h.filterMap fun m => if m.strand = n then m.reply else none

theorem repliesTo_cons_of_ne {h : List Moment} {m : Moment} {n : Nat} (other : n ≠ m.strand) :
    repliesTo (m :: h) n = repliesTo h n := by
  rw [repliesTo, List.filterMap_cons, if_neg (Ne.symm other)]
  rfl

theorem repliesTo_cons (h : List Moment) (m : Moment) :
    repliesTo (m :: h) m.strand = m.reply.toList ++ repliesTo h m.strand := by
  rw [repliesTo, List.filterMap_cons, if_pos rfl]
  cases m.reply with
  | none => rfl
  | some reply => rfl

/-- What an activity has called, in order. -/
def callsOf : List Moment → Nat → List Call
  | [], _ => []
  | m :: h, n => callsOf h n ++ if m.strand = n then m.issues.map (·.call) else []

theorem callsOf_cons_of_ne {h : List Moment} {m : Moment} {n : Nat} (other : n ≠ m.strand) :
    callsOf (m :: h) n = callsOf h n := by
  rw [callsOf, if_neg (Ne.symm other), List.append_nil]

theorem callsOf_cons (h : List Moment) (m : Moment) :
    callsOf (m :: h) m.strand = callsOf h m.strand ++ m.issues.map (·.call) := by
  rw [callsOf, if_pos rfl]

theorem callsOf_of_fresh {h : List Moment} {n : Nat} (fresh : ∀ m ∈ h, m.strand < n) :
    callsOf h n = [] := by
  induction h with
  | nil => rfl
  | cons m h ih =>
    rw [callsOf_cons_of_ne (Nat.ne_of_gt (fresh m List.mem_cons_self))]
    exact ih fun m' mem => fresh m' (List.mem_cons_of_mem m mem)

/-- What has been accepted of an activity, the latest first. -/
def acceptedOf (changes : Call → Bool) (h : List Moment) (n : Nat) : List Reply :=
  (repliesTo h n).filter (Reply.accepts changes)

theorem mem_repliesTo {h : List Moment} {n : Nat} {reply : Reply} :
    reply ∈ repliesTo h n ↔ ∃ m ∈ h, m.strand = n ∧ m.reply = some reply := by
  rw [repliesTo, List.mem_filterMap]
  constructor
  · rintro ⟨m, mem, found⟩
    split at found
    next here => exact ⟨m, mem, here, found⟩
    next => cases found
  · rintro ⟨m, mem, here, found⟩
    exact ⟨m, mem, by rw [if_pos here, found]⟩

namespace Moment

/-- The pool has accepted a call of a kind. -/
def Accepts (changes : Call → Bool) (m : Moment) : Prop :=
  ∃ (c : Call) (a : c.Answer), m.reply = some ⟨c, .ok a⟩ ∧ changes c = true

variable {changes : Call → Bool} {m : Moment}

theorem accepts_iff : m.Accepts changes ↔ m.reply.any (Reply.accepts changes) = true := by
  constructor
  · rintro ⟨c, a, reply, accepted⟩
    rw [reply]
    exact accepted
  · intro accepted
    cases reply : m.reply with
    | none =>
      rw [reply] at accepted
      cases accepted
    | some answer =>
      rw [reply] at accepted
      obtain ⟨c, r⟩ := answer
      cases r with
      | ok a => exact ⟨c, a, reply, accepted⟩
      | error => cases accepted

theorem not_accepts (harmless : ∀ reply, m.reply = some reply → changes reply.call = false) :
    ¬ m.Accepts changes := by
  rintro ⟨c, a, reply, accepted⟩
  rw [harmless _ reply] at accepted
  cases accepted

end Moment

theorem repliesTo_mono {h h' : List Moment} (sub : h ⊆ h') (n : Nat) :
    repliesTo h n ⊆ repliesTo h' n := by
  intro reply mem
  obtain ⟨m, mem, here, answered⟩ := mem_repliesTo.mp mem
  exact mem_repliesTo.mpr ⟨m, sub mem, here, answered⟩

section
variable {changes : Call → Bool} {h : List Moment} {m : Moment} {n : Nat}

theorem acceptedOf_cons_of_ne (other : n ≠ m.strand) :
    acceptedOf changes (m :: h) n = acceptedOf changes h n := by
  rw [acceptedOf, repliesTo_cons_of_ne other, acceptedOf]

theorem acceptedOf_cons :
    acceptedOf changes (m :: h) m.strand =
      m.reply.toList.filter (Reply.accepts changes) ++ acceptedOf changes h m.strand := by
  rw [acceptedOf, repliesTo_cons, List.filter_append, acceptedOf]

theorem acceptedOf_cons_of_not (none : ¬ m.Accepts changes) :
    acceptedOf changes (m :: h) n = acceptedOf changes h n := by
  by_cases here : n = m.strand
  · subst here
    rw [Moment.accepts_iff] at none
    rw [acceptedOf_cons]
    cases answered : m.reply with
    | none => rfl
    | some reply =>
      rw [answered, Option.any_some] at none
      rw [Option.toList_some, List.filter_cons_of_neg none]
      rfl
  · exact acceptedOf_cons_of_ne here

theorem mem_acceptedOf {reply : Reply} :
    reply ∈ acceptedOf changes h n ↔
      (∃ m ∈ h, m.strand = n ∧ m.reply = some reply) ∧ reply.accepts changes = true := by
  rw [acceptedOf, List.mem_filter, mem_repliesTo]

theorem acceptedOf_ne_nil {c : Call} {b : c.Answer}
    (told : ⟨c, .ok b⟩ ∈ repliesTo h n) (changed : changes c = true) :
    acceptedOf changes h n ≠ [] :=
  List.ne_nil_of_mem (mem_acceptedOf.mpr ⟨mem_repliesTo.mp told, changed⟩)

end

end PoolConsole
