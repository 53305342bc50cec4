import Mathlib.Data.List.Forall2
import PoolConsole.Http.Client
import PoolConsole.Proofs.MapEntries
import PoolConsole.Proofs.Run.ServiceLoads

namespace PoolConsole

/-! ## Labelled groups -/

section
variable {α : Type} {label : α → String} {groups : List (String × List α)}

/-- What has a label is the group with the label. -/
theorem filter_flatMap_eq_lookup (own : ∀ g ∈ groups, ∀ a ∈ g.2, label a = g.1)
    (distinct : (groups.map Prod.fst).Nodup) (key : String) :
    (groups.flatMap Prod.snd).filter (fun a => key == label a) =
      (groups.lookup key).getD [] := by
  induction groups with
  | nil => rfl
  | cons g groups ih =>
    obtain ⟨first, items⟩ := g
    obtain ⟨here, own⟩ := List.forall_mem_cons.mp own
    obtain ⟨new, distinct⟩ := List.nodup_cons.mp distinct
    have rest := ih own distinct
    rw [List.flatMap_cons, List.filter_append, rest, List.lookup_cons]
    by_cases same : key = first
    · subst same
      have none : groups.lookup key = none := List.lookup_eq_none_iff.mpr fun g mem =>
        bne_iff_ne.mpr fun again => new (List.mem_map.mpr ⟨g, mem, again.symm⟩)
      have all : items.filter (fun a => key == label a) = items :=
        List.filter_eq_self.mpr fun a mem => beq_iff_eq.mpr (here a mem).symm
      rw [none, all, beq_self_eq_true]
      exact List.append_nil items
    · have none : items.filter (fun a => key == label a) = [] :=
        List.filter_eq_nil_iff.mpr fun a mem again =>
          same ((beq_iff_eq.mp again).trans (here a mem))
      rw [none, beq_eq_false_iff_ne.mpr same]
      rfl

theorem lookup_of_mem (distinct : (groups.map Prod.fst).Nodup) {g : String × List α}
    (mem : g ∈ groups) : groups.lookup g.1 = some g.2 := by
  induction groups with
  | nil => cases mem
  | cons first groups ih =>
    obtain ⟨new, distinct⟩ := List.nodup_cons.mp distinct
    rw [List.lookup_cons]
    rcases List.mem_cons.mp mem with rfl | mem
    · rw [beq_self_eq_true]
    · have other : g.1 ≠ first.1 := fun same => new (same ▸ List.mem_map_of_mem mem)
      rw [beq_eq_false_iff_ne.mpr other]
      exact ih distinct mem

/-- Label by label, the groups make up the list of all. -/
theorem flatMap_filter_flatMap (own : ∀ g ∈ groups, ∀ a ∈ g.2, label a = g.1)
    (distinct : (groups.map Prod.fst).Nodup) :
    (groups.map Prod.fst).flatMap (fun key =>
      (groups.flatMap Prod.snd).filter (fun a => key == label a)) = groups.flatMap Prod.snd := by
  rw [List.flatMap_map]
  refine List.flatMap_congr fun g mem => ?_
  rw [filter_flatMap_eq_lookup own distinct, lookup_of_mem distinct mem]
  rfl

end

namespace KeyMap

theorem get?_filterMap {α β : Type} (m : KeyMap α) (f : α → Option β) (key : String) :
    (m.filterMap f).get? key = (m.get? key).bind f := by
  ext b
  simp only [Option.bind_eq_some_iff, get?_eq_some_iff, filterMap, List.mem_filterMap,
    Option.map_eq_some_iff]
  constructor
  · rintro ⟨e, mem, _, value, ⟨⟩⟩
    exact ⟨e.2, mem, value⟩
  · rintro ⟨a, mem, value⟩
    exact ⟨(key, a), mem, b, value, rfl⟩

end KeyMap

namespace Service

/-! ## Entries -/

/-- What an entry has under a name. -/
def entryField? (entry : Json) (name : String) : Option Json :=
  (entry.fields? ["name", "endpoints"]).bind fun fields => fields name

def endpointsOf (entry : Json) : List (String × Json) :=
  Job.membersOf (entryField? entry "endpoints")

/-- What an endpoint has under a name. -/
def endpointField? (endpoint : Json) (name : String) : Option Json :=
  (endpoint.fields? ["internal", "external"]).bind fun fields => fields name

/-- A text, which is empty where there is none. -/
def textOr (found : Option Json) : String :=
  (found.bind Json.asString?).getD ""

/-- What is shown of an entry of a namespace: all its endpoints with their inner addresses, and URLs
for those whose outer address is a text that is not empty. -/
structure Shows (space : String) (entry : Json) (s : Service) : Prop where
  space : s.space = space
  name : s.name = textOr (entryField? entry "name")
  names : ∀ key, s.inside.contains key = true ↔ key ∈ (endpointsOf entry).map Prod.fst
  inside : ∀ key, s.inside.get? key = ((KeyMap.ofList (endpointsOf entry)).get? key).map
    fun endpoint => textOr (endpointField? endpoint "internal")
  outside : ∀ key url, s.outside.get? key = some url ↔
    ∃ endpoint address, (KeyMap.ofList (endpointsOf entry)).get? key = some endpoint ∧
      endpointField? endpoint "external" = some (.string address) ∧ address ≠ "" ∧
      url = "http://" ++ address

variable {space : String} {entry endpoint : Json} {s : Service}

theorem textOr_of_field {fields : String → Option Json} {name text : String}
    (read : Json.field fields name Json.asString? "" = some text) :
    text = textOr (fields name) := by
  unfold Json.field at read
  unfold textOr
  cases told : fields name with
  | none =>
    rw [told] at read
    exact (Option.some.inj read).symm
  | some j =>
    rw [told] at read
    exact (congrArg (Option.getD · "") read).symm

/-- An outer address counts where it is a text that is not empty. -/
theorem outsideUrl?_of_field {fields : String → Option Json} {name url : String}
    {address : Option String}
    (read : Json.field fields name (Json.asOption? Json.asString?) none = some address) :
    outsideUrl? address = some url ↔
      ∃ text, fields name = some (.string text) ∧ text ≠ "" ∧ url = "http://" ++ text := by
  unfold Json.field at read
  cases told : fields name with
  | none =>
    rw [told] at read
    cases read
    simp [outsideUrl?]
  | some j =>
    rw [told] at read
    cases j with
    | null =>
      cases read
      simp [outsideUrl?]
    | string text =>
      cases read
      by_cases empty : text = "" <;> simp [outsideUrl?, Option.filter, empty, eq_comm]
    | bool | number | array | object => cases read

theorem address_of_endpointOfJson? {address : String × Option String}
    (read : endpointOfJson? endpoint = some address) :
    address.1 = textOr (endpointField? endpoint "internal") ∧ ∀ url,
      outsideUrl? address.2 = some url ↔
        ∃ text, endpointField? endpoint "external" = some (.string text) ∧
          text ≠ "" ∧ url = "http://" ++ text := by
  simp only [endpointOfJson?, Option.bind_eq_bind, Option.bind_eq_some_iff, Option.pure_def,
    Option.some.injEq] at read
  obtain ⟨fields, told, inner, within, outer, beyond, rfl⟩ := read
  have field (name : String) : endpointField? endpoint name = fields name := by
    rw [endpointField?, told]
    rfl
  rw [field, field]
  exact ⟨textOr_of_field within, fun url => outsideUrl?_of_field beyond⟩

/-- The endpoints of an entry are read one by one. -/
theorem endpoints_of_field {fields : String → Option Json}
    {endpoints : KeyMap (String × Option String)}
    (read : Json.field fields "endpoints" (Json.asKeyMap? endpointOfJson?) ∅ = some endpoints)
    (key : String) :
    Option.Rel (fun endpoint address => endpointOfJson? endpoint = some address)
      ((KeyMap.ofList (Job.membersOf (fields "endpoints"))).get? key) (endpoints.get? key) := by
  unfold Json.field at read
  cases told : fields "endpoints" with
  | none =>
    rw [told] at read
    cases read
    exact .none
  | some j =>
    rw [told] at read
    obtain ⟨members, rfl⟩ := Json.exists_members_of_asKeyMap? read
    exact Json.rel_get?_of_asKeyMap? read key

theorem shows_of_entryOfJson? (read : entryOfJson? space entry = some s) :
    Shows space entry s := by
  simp only [entryOfJson?, Option.bind_eq_bind, Option.bind_eq_some_iff, Option.pure_def,
    Option.some.injEq] at read
  obtain ⟨fields, told, name, named, endpoints, found, rfl⟩ := read
  have field (name : String) : entryField? entry name = fields name := by
    rw [entryField?, told]
    rfl
  have each (key : String) := endpoints_of_field found key
  rw [← field] at each
  change ∀ key, Option.Rel _ ((KeyMap.ofList (endpointsOf entry)).get? key) _ at each
  have inside (key : String) : (endpoints.map Prod.fst).get? key =
      ((KeyMap.ofList (endpointsOf entry)).get? key).map
        fun endpoint => textOr (endpointField? endpoint "internal") := by
    rw [KeyMap.get?_map]
    have one := each key
    generalize (KeyMap.ofList (endpointsOf entry)).get? key = told, endpoints.get? key = shown
      at one ⊢
    cases one with
    | none => rfl
    | some read => exact congrArg some (address_of_endpointOfJson? read).1
  refine ⟨rfl, ?_, fun key => ?_, inside, fun key url => ?_⟩
  · rw [field]
    exact textOr_of_field named
  · rw [← KeyMap.contains_ofList, KeyMap.contains, inside, Option.isSome_map, KeyMap.contains]
  · rw [KeyMap.get?_filterMap]
    have one := each key
    generalize (KeyMap.ofList (endpointsOf entry)).get? key = told, endpoints.get? key = shown
      at one ⊢
    cases one with
    | none => simp
    | some read => simpa using (address_of_endpointOfJson? read).2 url

/-! ## The listing -/

/-- The namespaces that are listed, in ascending order, with their entries. -/
def groupsOf (j : Json) : KeyMap Json :=
  .ofList (j.asObject?.getD [])

def entriesOf (group : Json) : List Json :=
  group.asArray?.getD []

/-- Everything that is listed: the namespaces in ascending order, the entries of each as they
come. -/
def listed (j : Json) : List (String × Json) :=
  (groupsOf j).entries.flatMap fun g => (entriesOf g.2).map (g.1, ·)

variable {j : Json} {services : List Service}

theorem entriesOf_of_asList? {group : Json} {entries : List Json}
    (read : Json.asList? some group = some entries) : entriesOf group = entries := by
  cases group with
  | array items =>
    have same := mapM_eq_some_iff.mp read
    simp only [Option.some.injEq] at same
    rwa [List.forall₂_eq_eq_eq] at same
  | null | bool | number | string | object => cases read

/-- What is read item by item keeps the keys of the items. -/
theorem exists_groups {α β γ : Type} {f : String × β → Option γ} {R : α → β → Prop}
    {xs : List (String × α)} {ys : List (String × β)} {items : List γ}
    (related : List.Forall₂ (fun x y => x.1 = y.1 ∧ R x.2 y.2) xs ys)
    (read : List.Forall₂ (fun y item => f y = some item) ys items) :
    ∃ groups : List (String × γ), items = groups.map Prod.snd ∧
      List.Forall₂ (fun x group => x.1 = group.1 ∧ ∃ b, R x.2 b ∧ f (x.1, b) = some group.2)
        xs groups := by
  induction related generalizing items with
  | nil =>
    cases read
    exact ⟨[], rfl, .nil⟩
  | @cons x y xs ys first _ ih =>
    obtain ⟨_, b⟩ := y
    obtain ⟨rfl, held⟩ := first
    cases read with
    | @cons _ item _ items one read =>
      obtain ⟨groups, rfl, rest⟩ := ih read
      exact ⟨(x.1, item) :: groups, rfl, .cons ⟨rfl, b, held, one⟩ rest⟩

/-- What is read is made up of one group of services for each namespace. -/
theorem groups_of_listOfJson? (read : listOfJson? j = some services) :
    ∃ groups : List (String × List Service), services = groups.flatMap Prod.snd ∧
      List.Forall₂ (fun g group => g.1 = group.1 ∧
        List.Forall₂ (Shows g.1) (entriesOf g.2) group.2) (groupsOf j).entries groups := by
  cases j with
  | null =>
    cases read
    exact ⟨[], rfl, .nil⟩
  | object members =>
    simp only [listOfJson?, Option.bind_eq_bind, Option.bind_eq_some_iff, Option.pure_def,
      Option.some.injEq] at read
    obtain ⟨m, keyed, blocks, read, rfl⟩ := read
    obtain ⟨groups, rfl, related⟩ := exists_groups
      (R := fun group items => Json.asList? some group = some items)
      (Json.entries_of_asKeyMap? keyed) (mapM_eq_some_iff.mp read)
    refine ⟨groups, (List.flatMap_def ..).symm, related.imp ?_⟩
    rintro g group ⟨same, items, held, all⟩
    rw [entriesOf_of_asList? held]
    exact ⟨same, (mapM_eq_some_iff.mp all).imp fun _ _ => shows_of_entryOfJson?⟩
  | bool | number | string | array => cases read

/-- What is listed under a namespace. -/
def listedIn (space : String) (j : Json) : List Json :=
  ((groupsOf j).get? space).elim [] entriesOf

/-- Every entry that is listed gives one service, in the order of the listing. -/
theorem shows_listed (read : listOfJson? j = some services) :
    List.Forall₂ (fun e s => Shows e.1 e.2 s) (listed j) services := by
  obtain ⟨groups, rfl, related⟩ := groups_of_listOfJson? read
  refine List.rel_flatMap related fun g group ⟨_, shown⟩ => ?_
  exact List.forall₂_map_left_iff.mpr shown

end Service

namespace ServiceBoard

variable {b : ServiceBoard} {j : Json} {services : List Service}

/-- A board shows what is listed: under a namespace the services listed under it, in order, under
all of them all, which the namespaces make up in ascending order. -/
structure ShowsListed (b : ServiceBoard) (j : Json) (services : List Service) : Prop where
  all : b.visible .all = services
  only : ∀ space, List.Forall₂ (Service.Shows space) (Service.listedIn space j)
    (b.visible (.only space))
  together : (Service.groupsOf j).keys.flatMap (fun space => b.visible (.only space)) =
    b.visible .all

theorem data_of_applied {ticket : Ticket}
    (applied : (b.complete ticket (.ok services)).1 = .ok .applied) :
    (b.complete ticket (.ok services)).2.panel.data = some services := by
  simp only [complete, Panel.complete] at applied ⊢
  split at applied
  next => cases applied
  next latest => rw [if_neg latest]

theorem showsListed (read : Service.listOfJson? j = some services)
    (held : b.panel.data = some services) : b.ShowsListed j services := by
  have all : b.visible .all = services := by
    rw [visible, held]
    exact List.filter_eq_self.mpr fun _ _ => rfl
  have only (space : String) : b.visible (.only space) =
      services.filter fun s => space == s.space := by
    rw [visible, held]
    rfl
  obtain ⟨groups, rfl, related⟩ := Service.groups_of_listOfJson? read
  have own : ∀ g ∈ groups, ∀ s ∈ g.2, s.space = g.1 := by
    intro g mem s within
    obtain ⟨_, -, same, shown⟩ := exists_mem_of_forall₂ related mem
    obtain ⟨_, -, shows⟩ := exists_mem_of_forall₂ shown within
    exact shows.space.trans same
  have keys : (Service.groupsOf j).keys = groups.map Prod.fst :=
    KeyMap.keys_eq_of_forall₂ (related.imp fun _ _ same => same.1)
  have distinct := keys ▸ (Service.groupsOf j).nodup_keys
  refine ⟨all, fun space => ?_, ?_⟩
  · rw [only, filter_flatMap_eq_lookup own distinct]
    have one : Option.Rel _ ((Service.groupsOf j).get? space) (groups.lookup space) :=
      KeyMap.rel_lookup (S := fun space group services =>
        List.Forall₂ (Service.Shows space) (Service.entriesOf group) services) related space
    unfold Service.listedIn
    generalize (Service.groupsOf j).get? space = told, groups.lookup space = found at one
    cases one with
    | none => exact .nil
    | some shown => exact shown
  · rw [all, keys, ← flatMap_filter_flatMap own distinct]
    exact List.flatMap_congr fun space _ => only space

end ServiceBoard

/-- A listing that can be read gives one service for each entry, by the rules of `Service.Shows`:
the namespaces in ascending order, none of them lost, the entries of each as they come. Any board
that takes it over shows just what is listed, and so do later moments of a run, whatever else happens
and whichever filter is chosen, until another load is taken over. -/
theorem services_shown_as_listed {j : Json} {services : List Service}
    (read : Service.listOfJson? j = some services) :
    List.Forall₂ (fun e s => Service.Shows e.1 e.2 s) (Service.listed j) services ∧
    (((j.asObject?.getD []).map Prod.fst).Nodup →
      (Service.groupsOf j).entries.Perm (j.asObject?.getD [])) ∧
    (Reply.refusal? j = none → Http.Client.answerOf .services j = .ok services) ∧
    (∀ (b : ServiceBoard) ticket, (b.complete ticket (.ok services)).1 = .ok .applied →
      (b.complete ticket (.ok services)).2.ShowsListed j services) ∧
    ∀ start later m earlier w, Run start (later ++ m :: earlier) w → m.appliesServices = true →
      ⟨.services, .ok services⟩ ∈ repliesTo (m :: earlier) m.strand →
      (∀ m' ∈ later, m'.appliesServices = false) →
      w.console.services.ShowsListed j services := by
  refine ⟨Service.shows_listed read, KeyMap.perm_entries_ofList, ?answer, ?board, ?run⟩
  case answer =>
    intro accepted
    change Reply.decode "services" Service.listOfJson? j = _
    rw [Reply.decode, Reply.check, accepted]
    exact Reply.read_eq_ok_iff.mpr read
  case board =>
    intro b ticket applied
    exact ServiceBoard.showsListed read (ServiceBoard.data_of_applied applied)
  case run =>
    intro start later m earlier w run applies told last
    exact ServiceBoard.showsListed read (run.services_after applies last told)

/-- Two namespaces, of which the second one is reported first. -/
def twoSpaces : Json :=
  .object [
    ("kalavai", .array [
      .object [("name", .string "watcher"),
        ("endpoints", .object [
          ("api", .object [("internal", .string "watcher:8000"),
            ("external", .string "10.0.0.1:30080")])])]]),
    ("alice", .array [
      .object [("name", .string "litellm"),
        ("endpoints", .object [("http", .object [("internal", .string "litellm:4000")])])]])]

def twoServices : List Service :=
  [{ space := "alice", name := "litellm", inside := .ofList [("http", "litellm:4000")],
     outside := ∅ },
   { space := "kalavai", name := "watcher", inside := .ofList [("api", "watcher:8000")],
     outside := .ofList [("api", "http://10.0.0.1:30080")] }]

/-- The services are loaded while everything is shown; then a namespace is chosen. -/
theorem services_after_narrowing :
    ∃ h w, Run { Console.fresh {} {} with session.filter := ⟨.all, true⟩ } h w ∧
      w.console.scope = .only "alice" ∧ w.console.visibleServices.map (·.name) = ["litellm"] ∧
      w.console.services.visible .all = twoServices := by
  have begun := Run.next (@Run.start { Console.fresh {} {} with session.filter := ⟨.all, true⟩ })
    (.begin (.views .loadServices) (.get (.get (.get (.set (.call _ _ _))))))
  have loaded := begun.next (.answer 0 _ ⟨.services, .ok twoServices⟩ rfl
    (.call _ (.get (.get (.set (.done _ _))))))
  have narrowed := loaded.next (.begin (.session (.selectNamespace (some "alice")))
    (.get (.get (.set (.done _ _)))))
  have read : Service.listOfJson? twoSpaces = some twoServices := by decide
  obtain ⟨-, -, -, -, shown⟩ := services_shown_as_listed read
  have held := shown _ [_] _ _ _ narrowed rfl List.mem_cons_self (by simp; rfl)
  exact ⟨_, _, narrowed, rfl, rfl, held.all⟩

end PoolConsole
