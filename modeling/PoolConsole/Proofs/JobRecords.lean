import Mathlib.Data.List.Forall2
import Mathlib.Data.List.Induction
import PoolConsole.Pool.Job
import PoolConsole.Reply

namespace PoolConsole

/-! ## Reading item by item -/

section

variable {α β : Type}

theorem exists_forall₂_iff {R : α → β → Prop} {xs : List α} :
    (∃ ys, List.Forall₂ R xs ys) ↔ ∀ x ∈ xs, ∃ y, R x y := by
  induction xs with
  | nil => simp
  | cons x xs ih =>
    rw [List.forall_mem_cons, ← ih]
    constructor
    · rintro ⟨ys, related⟩
      cases related with
      | cons first rest => exact ⟨⟨_, first⟩, _, rest⟩
    · rintro ⟨⟨y, first⟩, ys, rest⟩
      exact ⟨y :: ys, .cons first rest⟩

theorem exists_mem_of_forall₂ {R : α → β → Prop} {xs : List α} {ys : List β} {y : β}
    (related : List.Forall₂ R xs ys) (mem : y ∈ ys) : ∃ x ∈ xs, R x y := by
  induction related with
  | nil => cases mem
  | cons first _ ih =>
    rcases List.mem_cons.mp mem with rfl | mem
    · exact ⟨_, List.mem_cons_self, first⟩
    · obtain ⟨x, there, rest⟩ := ih mem
      exact ⟨x, List.mem_cons_of_mem _ there, rest⟩

theorem mapM_eq_some_iff {f : α → Option β} {xs : List α} {ys : List β} :
    xs.mapM f = some ys ↔ List.Forall₂ (fun x y => f x = some y) xs ys := by
  induction xs generalizing ys with
  | nil => cases ys <;> simp
  | cons x xs ih =>
    rw [List.mapM_cons, List.forall₂_cons_left_iff]
    simp only [Option.bind_eq_bind, Option.bind_eq_some_iff, Option.pure_def, Option.some.injEq, ih]
    constructor
    · rintro ⟨y, first, rest, others, rfl⟩
      exact ⟨y, rest, first, others, rfl⟩
    · rintro ⟨y, rest, first, others, rfl⟩
      exact ⟨y, first, rest, others, rfl⟩

end

namespace Reply

variable {α : Type} {what : String} {read? : Json → Option α} {items : List Json} {as : List α}

theorem read_eq_ok_iff {j : Json} {a : α} : read what read? j = .ok a ↔ read? j = some a := by
  unfold read
  cases read? j <;> simp

theorem mapM_read_eq_ok_iff :
    items.mapM (read what read?) = .ok as ↔
      List.Forall₂ (fun item a => read? item = some a) items as := by
  induction items generalizing as with
  | nil => cases as <;> simp [pure, Except.pure]
  | cons item items ih =>
    rw [List.mapM_cons, List.forall₂_cons_left_iff]
    simp only [bind_eq_ok, read_eq_ok_iff, ih, pure, Except.pure, Except.ok.injEq]
    constructor
    · rintro ⟨a, first, rest, others, rfl⟩
      exact ⟨a, rest, first, others, rfl⟩
    · rintro ⟨a, rest, first, others, rfl⟩
      exact ⟨a, first, rest, others, rfl⟩

/-- An array is no refusal, so that its items are what is read. -/
theorem decodeList_array :
    decodeList what read? (.array items) = items.mapM (read what read?) := rfl

end Reply

/-! ## Maps of entries -/

namespace KeyMap

variable {α β : Type} {entries : List (String × α)} {key : String} {value : α}

theorem ofList_concat (entries : List (String × α)) (e : String × α) :
    ofList (entries ++ [e]) = (ofList entries).insert e.1 e.2 := by
  unfold ofList
  rw [List.foldl_concat]

/-- A map has the keys of its entries. -/
theorem contains_ofList : (ofList entries).contains key = true ↔ key ∈ entries.map Prod.fst := by
  unfold contains
  induction entries using List.reverseRec with
  | nil => exact iff_of_false nofun nofun
  | append_singleton entries e ih =>
    rw [ofList_concat, get?_insert, List.map_append, List.mem_append, ← ih]
    by_cases here : key = e.1
    · simp [here]
    · simp [here]

/-- What a map has under a key is one of the entries with that key. -/
theorem mem_of_get?_ofList (found : (ofList entries).get? key = some value) :
    (key, value) ∈ entries := by
  induction entries using List.reverseRec with
  | nil => cases found
  | append_singleton entries e ih =>
    rw [ofList_concat, get?_insert] at found
    rw [List.mem_append, List.mem_singleton]
    by_cases here : key = e.1
    · rw [if_pos here, Option.some.injEq] at found
      exact .inr (Prod.ext here found.symm)
    · rw [if_neg here] at found
      exact .inl (ih found)

theorem keys_eq_of_forall₂ {xs : List (String × α)} {ys : List (String × β)}
    (related : List.Forall₂ (fun x y => x.1 = y.1) xs ys) :
    xs.map Prod.fst = ys.map Prod.fst := by
  induction related with
  | nil => rfl
  | cons first _ ih => rw [List.map_cons, List.map_cons, first, ih]

theorem get?_map (m : KeyMap α) (f : α → β) (key : String) :
    (m.map f).get? key = (m.get? key).map f := by
  change (m.entries.map fun e => (e.1, f e.2)).lookup key = (m.entries.lookup key).map f
  induction m.entries with
  | nil => rfl
  | cons e rest ih =>
    rw [List.map_cons, List.lookup_cons, List.lookup_cons, ih]
    split <;> rfl

end KeyMap

/-! ## Endpoints -/

namespace Endpoint

/-- The value describes an endpoint with the URL: the URL itself, or an address with a port, which
is a text or a whole number of 64 bits. -/
inductive Describes : Json → String → Prop
  | url (text : String) : Describes (.string text) text
  | named {members : List (String × Json)} {host port : String} :
      members.lookup "address" = some (.string host) →
      members.lookup "port" = some (.string port) →
      Describes (.object members) ("http://" ++ host ++ ":" ++ port)
  | numbered {members : List (String × Json)} {host : String} {n : UInt64} :
      members.lookup "address" = some (.string host) →
      members.lookup "port" = some (.number (.unsigned n)) →
      Describes (.object members) ("http://" ++ host ++ ":" ++ Text.natural n.toNat)

variable {j : Json} {url : String}

theorem asString?_eq_some_iff {s : String} : j.asString? = some s ↔ j = .string s := by
  cases j <;> simp [Json.asString?]

theorem portText?_eq_some_iff {port : String} :
    portText? j = some port ↔
      j = .string port ∨ ∃ n, j = .number (.unsigned n) ∧ Text.natural n.toNat = port := by
  cases j with
  | string s => simp [portText?]
  | number n => cases n <;> simp [portText?, Json.asUInt64?, Number.toUInt64?]
  | null | bool | array | object => simp [portText?, Json.asUInt64?]

theorem describes_iff : Describes j url ↔ ∃ e, ofJson? j = some e ∧ e.toUrl = url := by
  constructor
  · intro describes
    cases describes with
    | url => exact ⟨_, rfl, rfl⟩
    | named host port =>
      refine ⟨.address _ _, ?_, rfl⟩
      simp [ofJson?, host, port, Json.asString?, portText?]
    | numbered host port =>
      refine ⟨.address _ _, ?_, rfl⟩
      simp [ofJson?, host, port, Json.asString?, portText?, Json.asUInt64?, Number.toUInt64?]
  · rintro ⟨e, read, rfl⟩
    cases j with
    | string s =>
      cases read
      exact .url s
    | object members =>
      simp only [ofJson?, Option.bind_eq_bind, Option.bind_eq_some_iff, Option.pure_def,
        Option.some.injEq, asString?_eq_some_iff, portText?_eq_some_iff] at read
      obtain ⟨host, ⟨_, hostHeld, rfl⟩, port, ⟨_, portHeld, kind⟩, rfl⟩ := read
      rcases kind with rfl | ⟨n, rfl, rfl⟩
      · exact .named hostHeld portHeld
      · exact .numbered hostHeld portHeld
    | null | bool | number | array => cases read

end Endpoint

namespace Job

def readEndpoints? (found : Option Json) : Option (KeyMap Endpoint) :=
  match found with
  | none => some ∅
  | some j => Json.nullOr? ∅ (Json.asKeyMap? Endpoint.ofJson?) j

/-- The members of an object, where there is one. -/
def membersOf (found : Option Json) : List (String × Json) :=
  (found.bind Json.asObject?).getD []

/-- Endpoints can be read from nothing, from null, and from an object of which every member
describes one. -/
inductive EndpointsReadable : Option Json → Prop
  | absent : EndpointsReadable none
  | null : EndpointsReadable (some .null)
  | object {members : List (String × Json)} :
      (∀ e ∈ members, ∃ url, Endpoint.Describes e.2 url) →
      EndpointsReadable (some (.object members))

variable {found : Option Json} {endpoints : KeyMap Endpoint} {members : List (String × Json)}

/-- An object is read as a map of entries, one for each member. -/
theorem asKeyMap?_object {α : Type} {read? : Json → Option α} {m : KeyMap α} :
    Json.asKeyMap? read? (.object members) = some m ↔
      ∃ entries, List.Forall₂ (fun e a => read? e.2 = some a.2 ∧ a.1 = e.1) members entries ∧
        m = .ofList entries := by
  have each (e : String × Json) (a : String × α) :
      (read? e.2).map (e.1, ·) = some a ↔ read? e.2 = some a.2 ∧ a.1 = e.1 := by
    rw [Option.map_eq_some_iff]
    constructor
    · rintro ⟨value, read, rfl⟩
      exact ⟨read, rfl⟩
    · rintro ⟨read, same⟩
      exact ⟨a.2, read, by rw [← same]⟩
  simp only [Json.asKeyMap?, Option.map_eq_some_iff, mapM_eq_some_iff, each]
  constructor
  · rintro ⟨entries, related, rfl⟩
    exact ⟨entries, related, rfl⟩
  · rintro ⟨entries, related, rfl⟩
    exact ⟨entries, related, rfl⟩

theorem exists_readEndpoints?_iff :
    (∃ endpoints, readEndpoints? found = some endpoints) ↔ EndpointsReadable found := by
  constructor
  · rintro ⟨endpoints, read⟩
    cases found with
    | none => exact .absent
    | some j =>
      cases j with
      | null => exact .null
      | object members =>
        obtain ⟨entries, related, -⟩ := asKeyMap?_object.mp read
        refine .object fun e mem => ?_
        obtain ⟨a, parsed, -⟩ := exists_forall₂_iff.mp ⟨entries, related⟩ e mem
        exact ⟨_, Endpoint.describes_iff.mpr ⟨a.2, parsed, rfl⟩⟩
      | bool | number | string | array => cases read
  · intro readable
    cases readable with
    | absent => exact ⟨_, rfl⟩
    | null => exact ⟨_, rfl⟩
    | @object members described =>
      have each : ∀ e ∈ members, ∃ a : String × Endpoint,
          Endpoint.ofJson? e.2 = some a.2 ∧ a.1 = e.1 := by
        intro e mem
        obtain ⟨url, describes⟩ := described e mem
        obtain ⟨endpoint, parsed, -⟩ := Endpoint.describes_iff.mp describes
        exact ⟨(e.1, endpoint), parsed, rfl⟩
      obtain ⟨entries, related⟩ := exists_forall₂_iff.mpr each
      exact ⟨_, asKeyMap?_object.mpr ⟨entries, related, rfl⟩⟩

/-- Each URL is that of a member that describes an endpoint, under the name of the member. -/
structure UrlsOf (members : List (String × Json)) (urls : KeyMap String) : Prop where
  names : ∀ name, urls.contains name = true ↔ name ∈ members.map Prod.fst
  described : ∀ name url, urls.get? name = some url →
    ∃ value, (name, value) ∈ members ∧ Endpoint.Describes value url

theorem urlsOf_nil : UrlsOf [] ((∅ : KeyMap Endpoint).map Endpoint.toUrl) where
  names _ := iff_of_false nofun nofun
  described := nofun

theorem urlsOf_ofList {entries : List (String × Endpoint)}
    (related : List.Forall₂ (fun e a => Endpoint.ofJson? e.2 = some a.2 ∧ a.1 = e.1)
      members entries) : UrlsOf members ((KeyMap.ofList entries).map Endpoint.toUrl) := by
  constructor
  case names =>
    intro name
    have keys : members.map Prod.fst = entries.map Prod.fst :=
      KeyMap.keys_eq_of_forall₂ (related.imp fun _ _ first => first.2.symm)
    rw [KeyMap.contains, KeyMap.get?_map, Option.isSome_map]
    change (KeyMap.ofList entries).contains name = true ↔ _
    rw [KeyMap.contains_ofList, keys]
  case described =>
    intro name url held
    rw [KeyMap.get?_map, Option.map_eq_some_iff] at held
    obtain ⟨endpoint, held, rfl⟩ := held
    obtain ⟨⟨_, value⟩, mem, parsed, rfl⟩ :=
      exists_mem_of_forall₂ related (KeyMap.mem_of_get?_ofList held)
    exact ⟨value, mem, Endpoint.describes_iff.mpr ⟨endpoint, parsed, rfl⟩⟩

theorem urlsOf_readEndpoints? (read : readEndpoints? found = some endpoints) :
    UrlsOf (membersOf found) (endpoints.map Endpoint.toUrl) := by
  cases found with
  | none =>
    cases read
    exact urlsOf_nil
  | some j =>
    cases j with
    | null =>
      cases read
      exact urlsOf_nil
    | object members =>
      obtain ⟨entries, related, rfl⟩ := asKeyMap?_object.mp read
      exact urlsOf_ofList related
    | bool | number | string | array => cases read

/-! ## Jobs -/

/-- What is read from a text of a job: the empty text from nothing and from null, a string as it is,
and any other value as its compact text. -/
inductive TextOf : Option Json → String → Prop
  | absent : TextOf none ""
  | null : TextOf (some .null) ""
  | string (s : String) : TextOf (some (.string s)) s
  | other {j : Json} : j ≠ .null → (∀ s, j ≠ .string s) → TextOf (some j) j.compact

theorem textOf_lenientText (found : Option Json) :
    TextOf found ((found.map lenientText).getD "") := by
  cases found with
  | none => exact .absent
  | some j =>
    cases j with
    | null => exact .null
    | string s => exact .string s
    | bool | number | array | object => exact .other nofun nofun

def texts (job : Job) : List (String × String) :=
  [("job_id", job.id), ("name", job.name), ("owner", job.owner), ("status", job.status),
    ("workers", job.workers), ("host_nodes", job.hostNodes)]

/-- A value that is kept as it was reported, unless that is nothing or null. -/
def Kept (found kept : Option Json) : Prop :=
  (kept = none ↔ found = none ∨ found = some .null) ∧ ∀ j, kept = some j → found = some j

theorem kept_filter (found : Option Json) : Kept found (found.filter fun j => !j.isNull) := by
  cases found with
  | none => exact ⟨by simp, nofun⟩
  | some j =>
    cases j with
    | null => exact ⟨by simp [Option.filter, Json.isNull], by simp [Option.filter, Json.isNull]⟩
    | bool | string | number | array | object =>
      exact ⟨iff_of_false (by simp [Option.filter, Json.isNull]) (by simp), fun _ same => same⟩

structure ReadFrom (members : List (String × Json)) (job : Job) : Prop where
  texts : ∀ text ∈ job.texts, TextOf (members.lookup text.1) text.2
  endpoints : UrlsOf (membersOf (members.lookup "endpoint")) job.endpoints
  spec : Kept (members.lookup "spec") job.spec
  conditions : Kept (members.lookup "conditions") job.conditions

/-- The job of an object whose endpoints have been read. -/
def ofMembers (members : List (String × Json)) (endpoints : KeyMap Endpoint) : Job :=
  let text (name : String) : String := ((members.lookup name).map lenientText).getD ""
  let present (name : String) : Option Json := (members.lookup name).filter fun j => !j.isNull
  { id := text "job_id"
    name := text "name"
    owner := text "owner"
    status := text "status"
    workers := text "workers"
    hostNodes := text "host_nodes"
    endpoints := endpoints.map Endpoint.toUrl
    spec := present "spec"
    conditions := present "conditions" }

theorem ofJson?_object (members : List (String × Json)) :
    ofJson? (.object members) =
      (readEndpoints? (members.lookup "endpoint")).map (ofMembers members) := by
  have field : Json.field (fun name => members.lookup name) "endpoint"
      (Json.nullOr? ∅ (Json.asKeyMap? Endpoint.ofJson?)) ∅ =
      readEndpoints? (members.lookup "endpoint") := rfl
  simp only [ofJson?, Json.fields?, Option.bind_eq_bind, Option.bind_some, field]
  cases readEndpoints? (members.lookup "endpoint") <;> rfl

/-- Only the endpoints can make a job unreadable. -/
theorem exists_ofJson?_iff :
    (∃ job, ofJson? (.object members) = some job) ↔
      EndpointsReadable (members.lookup "endpoint") := by
  rw [← exists_readEndpoints?_iff, ofJson?_object]
  simp [Option.map_eq_some_iff]

theorem readFrom_of_ofJson? {job : Job} (read : ofJson? (.object members) = some job) :
    ReadFrom members job := by
  rw [ofJson?_object, Option.map_eq_some_iff] at read
  obtain ⟨endpoints, read, rfl⟩ := read
  constructor
  case texts =>
    intro text mem
    simp only [Job.texts, List.mem_cons, List.not_mem_nil, or_false] at mem
    rcases mem with rfl | rfl | rfl | rfl | rfl | rfl <;> exact textOf_lenientText _
  case endpoints => exact urlsOf_readEndpoints? read
  case spec => exact kept_filter _
  case conditions => exact kept_filter _

end Job

/-- A list of objects is read as a list of jobs if the endpoints of every object can be read, and
then has one job for each object, in order. -/
theorem jobs_decoded (objects : List (List (String × Json))) :
    ((∃ jobs, Reply.decodeList "a job" Job.ofJson? (.array (objects.map .object)) = .ok jobs) ↔
      ∀ members ∈ objects, Job.EndpointsReadable (members.lookup "endpoint")) ∧
    ∀ jobs, Reply.decodeList "a job" Job.ofJson? (.array (objects.map .object)) = .ok jobs →
      List.Forall₂ Job.ReadFrom objects jobs := by
  simp only [Reply.decodeList_array, Reply.mapM_read_eq_ok_iff, List.forall₂_map_left_iff]
  constructor
  · rw [exists_forall₂_iff]
    simp only [Job.exists_ofJson?_iff]
  · intro jobs related
    exact related.imp fun members job read => Job.readFrom_of_ofJson? read

end PoolConsole
