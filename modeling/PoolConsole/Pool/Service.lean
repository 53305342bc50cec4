import PoolConsole.Json.Record

namespace PoolConsole

structure Service where
  space : String
  name : String
  /-- Addresses inside the pool, by endpoint name. -/
  inside : KeyMap String
  /-- URLs from outside, for the endpoints that have one. -/
  outside : KeyMap String
  deriving DecidableEq

namespace Service

/-- The inner address of an endpoint and its outer one, if any. -/
def endpointOfJson? (j : Json) : Option (String × Option String) := do
  let fields ← j.fields? ["internal", "external"]
  let inner ← Json.field fields "internal" Json.asString? ""
  let outer ← Json.field fields "external" (Json.asOption? Json.asString?) none
  return (inner, outer)

/-- An outer address as a URL; an empty one does not count. -/
def outsideUrl? (address : Option String) : Option String :=
  (address.filter (· ≠ "")).map ("http://" ++ ·)

/-- One entry of a namespace. -/
def entryOfJson? (space : String) (j : Json) : Option Service := do
  let fields ← j.fields? ["name", "endpoints"]
  let name ← Json.field fields "name" Json.asString? ""
  let endpoints ← Json.field fields "endpoints" (Json.asKeyMap? endpointOfJson?) ∅
  return {
    space, name
    inside := endpoints.map Prod.fst
    outside := endpoints.filterMap fun e => outsideUrl? e.2 }

/-- All services: the namespaces in ascending order, the entries of each as listed. -/
def listOfJson? : Json → Option (List Service)
  | .null => some []
  | j => do
    let groups ← j.asKeyMap? (Json.asList? some)
    let listed ← groups.entries.mapM fun g => g.2.mapM (entryOfJson? g.1)
    return listed.flatten

end Service

end PoolConsole
