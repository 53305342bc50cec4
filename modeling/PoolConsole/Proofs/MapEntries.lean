import PoolConsole.Proofs.JobRecords

namespace PoolConsole

namespace KeyMap

variable {α β : Type} {R : α → β → Prop} {xs : List (String × α)} {ys : List (String × β)}
  {key : String} {a : α} {b : β}

theorem forall₂_insertEntry (held : R a b)
    (related : List.Forall₂ (fun x y => x.1 = y.1 ∧ R x.2 y.2) xs ys) :
    List.Forall₂ (fun x y => x.1 = y.1 ∧ R x.2 y.2) (insertEntry key a xs)
      (insertEntry key b ys) := by
  induction related with
  | nil => exact .cons ⟨rfl, held⟩ .nil
  | @cons x y xs ys first rest ih =>
    obtain ⟨k, v⟩ := x
    obtain ⟨_, w⟩ := y
    obtain ⟨rfl, same⟩ := first
    simp only [insertEntry]
    split
    · exact .cons ⟨rfl, held⟩ (.cons ⟨rfl, same⟩ rest)
    · split
      · exact .cons ⟨rfl, held⟩ rest
      · exact .cons ⟨rfl, same⟩ ih

/-- Entries with the same keys and related values give maps that are so. -/
theorem forall₂_ofList (related : List.Forall₂ (fun x y => x.1 = y.1 ∧ R x.2 y.2) xs ys) :
    List.Forall₂ (fun x y => x.1 = y.1 ∧ R x.2 y.2) (ofList xs).entries (ofList ys).entries := by
  suffices added : ∀ (m : KeyMap α) (n : KeyMap β),
      List.Forall₂ (fun x y => x.1 = y.1 ∧ R x.2 y.2) m.entries n.entries →
      List.Forall₂ (fun x y => x.1 = y.1 ∧ R x.2 y.2)
        (xs.foldl (fun m e => m.insert e.1 e.2) m).entries
        (ys.foldl (fun n e => n.insert e.1 e.2) n).entries from added empty empty .nil
  induction related with
  | nil => exact fun m n same => same
  | @cons x y xs ys first rest ih =>
    intro m n same
    obtain ⟨k, v⟩ := x
    obtain ⟨_, w⟩ := y
    obtain ⟨rfl, held⟩ := first
    exact ih _ _ (forall₂_insertEntry held same)

/-- What is found under a key is related as the entries with the key are. -/
theorem rel_lookup {S : String → α → β → Prop}
    (related : List.Forall₂ (fun x y => x.1 = y.1 ∧ S x.1 x.2 y.2) xs ys) (key : String) :
    Option.Rel (S key) (xs.lookup key) (ys.lookup key) := by
  induction related with
  | nil => exact .none
  | @cons x y xs ys first _ ih =>
    obtain ⟨k, v⟩ := x
    obtain ⟨_, w⟩ := y
    obtain ⟨rfl, held⟩ := first
    by_cases here : key = k
    · subst here
      rw [List.lookup_cons_self, List.lookup_cons_self]
      exact .some held
    · have other := beq_eq_false_iff_ne.mpr here
      rw [List.lookup_cons, List.lookup_cons, other]
      exact ih

theorem perm_insertEntry (new : key ∉ xs.map Prod.fst) :
    (insertEntry key a xs).Perm ((key, a) :: xs) := by
  induction xs with
  | nil => exact .refl _
  | cons x xs ih =>
    obtain ⟨k, v⟩ := x
    obtain ⟨other, new⟩ := List.ne_and_not_mem_of_not_mem_cons new
    simp only [insertEntry, if_neg other]
    split
    · exact .refl _
    · exact ((ih new).cons _).trans (.swap _ _ _)

/-- Where no key is repeated, a map has the entries given, in ascending order. -/
theorem perm_entries_ofList (distinct : (xs.map Prod.fst).Nodup) : (ofList xs).entries.Perm xs := by
  induction xs using List.reverseRec with
  | nil => exact .refl _
  | append_singleton xs x ih =>
    rw [List.map_append, List.nodup_append] at distinct
    obtain ⟨earlier, -, apart⟩ := distinct
    have kept := ih earlier
    have new : x.1 ∉ (ofList xs).entries.map Prod.fst := fun mem =>
      apart x.1 ((kept.map Prod.fst).mem_iff.mp mem) x.1 List.mem_cons_self rfl
    rw [ofList_concat]
    exact (perm_insertEntry new).trans ((kept.cons x).trans (List.perm_append_singleton x xs).symm)

theorem nodup_keys (m : KeyMap α) : m.keys.Nodup := by
  unfold keys List.Nodup
  rw [List.pairwise_map]
  refine m.sorted.imp ?_
  intro a b smaller same
  rw [same] at smaller
  exact String.lt_irrefl _ smaller

end KeyMap

namespace Json

variable {α : Type} {read? : Json → Option α} {members : List (String × Json)} {m : KeyMap α}
  {j : Json}

/-- A map that is read from an object has the keys of its members, each with what is read from its
value. -/
theorem entries_of_asKeyMap? (read : asKeyMap? read? (.object members) = some m) :
    List.Forall₂ (fun e a => e.1 = a.1 ∧ read? e.2 = some a.2) (KeyMap.ofList members).entries
      m.entries := by
  obtain ⟨entries, related, rfl⟩ := Job.asKeyMap?_object.mp read
  refine KeyMap.forall₂_ofList (R := fun e a => read? e = some a) (related.imp ?_)
  rintro e a ⟨value, name⟩
  exact ⟨name.symm, value⟩

theorem rel_get?_of_asKeyMap? (read : asKeyMap? read? (.object members) = some m) (key : String) :
    Option.Rel (fun e a => read? e = some a) ((KeyMap.ofList members).get? key) (m.get? key) :=
  KeyMap.rel_lookup (S := fun _ e a => read? e = some a) (entries_of_asKeyMap? read) key

/-- Where every value can be read, so can every object. -/
theorem asKeyMap?_some (f : Json → α) (members : List (String × Json)) :
    asKeyMap? (fun j => some (f j)) (.object members) = some ((KeyMap.ofList members).map f) := by
  have read : asKeyMap? (fun j => some (f j)) (.object members) =
      some (.ofList (members.map fun e => (e.1, f e.2))) :=
    Job.asKeyMap?_object.mpr ⟨_, List.forall₂_map_right_iff.mpr
      (List.forall₂_same.mpr fun _ _ => ⟨rfl, rfl⟩), rfl⟩
  generalize KeyMap.ofList (members.map fun e => (e.1, f e.2)) = m at read
  rw [read]
  refine congrArg some (KeyMap.ext_get? fun key => ?_)
  have one := rel_get?_of_asKeyMap? read key
  rw [KeyMap.get?_map]
  generalize (KeyMap.ofList members).get? key = told, m.get? key = held at one ⊢
  cases one with
  | none => rfl
  | some value => exact value.symm

/-- Only an object is read as a map. -/
theorem exists_members_of_asKeyMap? (read : asKeyMap? read? j = some m) :
    ∃ members, j = .object members := by
  cases j with
  | object members => exact ⟨members, rfl⟩
  | null | bool | number | string | array => cases read

end Json

end PoolConsole
