import PoolConsole.Preferences
import PoolConsole.Proofs.KeptFiles
import PoolConsole.Proofs.QuotedText

/-!
Preferences that are kept in a file.

* `Preferences.ofText_text`: the text of preferences is read back as the same preferences, whatever
  the key is.
* `SharedPreferences`: a store that several calls change at the same time, one having its turn after
  the other. Keeping the preferences may fail at any turn. `Run.update`: a call that is alone does
  what `PreferenceStore.update` does.
* `changes_survive`: what has been set last is in memory, and is loaded again once it has been kept.
-/

namespace PoolConsole

/-! ## The text of preferences -/

namespace Json

theorem skipSpace_cons_of_space {c : Char} (space : isSpace c = true) (rest : List Char) :
    skipSpace (c :: rest) = skipSpace rest :=
  List.dropWhile_cons_of_pos space

theorem skipSpace_cons {c : Char} (space : isSpace c = false) (rest : List Char) :
    skipSpace (c :: rest) = c :: rest :=
  List.dropWhile_cons_of_neg (Bool.eq_false_iff.mp space)

theorem skipSpace_quoted (s : String) (rest : List Char) :
    skipSpace (quoted s ++ rest) = quoted s ++ rest :=
  skipSpace_cons rfl _

theorem value?_blank (fuel depth : Nat) (cs : List Char) :
    value? fuel depth (' ' :: cs) = value? fuel depth cs := by
  cases fuel with
  | zero => rw [value?, value?]
  | succ fuel =>
    rw [value?, value?, skipSpace_cons_of_space rfl]

theorem value?_bool (fuel depth : Nat) (b : Bool) (rest : List Char) :
    value? (fuel + 1) depth (scalarChars (.bool b) ++ rest) = some (.bool b, rest) := by
  cases b with
  | true =>
    have first : skipSpace (scalarChars (.bool true) ++ rest) =
        't' :: 'r' :: 'u' :: 'e' :: rest := rfl
    rw [value?, first]
    rfl
  | false =>
    have first : skipSpace (scalarChars (.bool false) ++ rest) =
        'f' :: 'a' :: 'l' :: 's' :: 'e' :: rest := rfl
    rw [value?, first]
    rfl

theorem value?_ofText? (fuel depth : Nat) (s : Option String) (rest : List Char) :
    value? (fuel + 1) depth (scalarChars (ofText? s) ++ rest) = some (ofText? s, rest) := by
  cases s with
  | none =>
    have first : skipSpace (scalarChars (ofText? none) ++ rest) =
        'n' :: 'u' :: 'l' :: 'l' :: rest := rfl
    rw [value?, first]
    rfl
  | some s => exact value?_quoted fuel depth s rest

/-- A member that is known and has not come yet is read, whatever comes behind it. -/
theorem knownMembers?_member {known : List String} {fuel : Nat} {key : String} {value : Json}
    {cs tail rest : List Char} {before : List (String × Json)} (is : known.contains key = true)
    (new : before.lookup key = none) (starts : skipSpace cs = quoted key ++ ':' :: tail)
    (reads : value? fuel (maxDepth - 1) tail = some (value, rest)) :
    knownMembers? known (fuel + 1) cs before =
      match skipSpace rest with
      | ',' :: rest => knownMembers? known fuel rest (before ++ [(key, value)])
      | '}' :: rest => some (before ++ [(key, value)], rest)
      | _ => none := by
  rw [knownMembers?, starts, quoted_append]
  simp only
  rw [string?_escape, Option.bind_some]
  simp only [skipSpace_cons (show isSpace ':' = false from rfl), is, if_true, new,
    Option.isSome_none, Bool.false_eq_true, if_false, reads, Option.map_some]
  rfl

/-- An object that is not empty is read up to its closing brace. -/
theorem shallowRecord?_object {known : List String} {text : String} {rest tail : List Char}
    {members : List (String × Json)} (opens : skipSpace text.toList = '{' :: rest)
    (filled : (skipSpace rest).head? ≠ some '}')
    (reads : knownMembers? known (2 * text.toList.length + 2) (skipSpace rest) [] =
      some (members, tail)) (ends : skipSpace tail = []) :
    shallowRecord? known text = some (.object members) := by
  simp only [shallowRecord?, opens]
  split
  next closes =>
    rw [closes] at filled
    exact absurd rfl filled
  next =>
    rw [reads, Option.bind_some]
    simp only [ends, List.isEmpty_nil, if_true]

end Json

namespace Preferences

open Json

theorem text_toList (p : Preferences) :
    p.text.toList =
      '{' :: '\n' :: ' ' :: ' ' :: (quoted "dark_mode" ++ ':' :: ' ' ::
        (scalarChars (.bool p.darkMode) ++ ',' :: '\n' :: ' ' :: ' ' ::
          (quoted "access_key" ++ ':' :: ' ' ::
            (scalarChars (ofText? p.accessKey) ++ ['\n', '}'])))) := by
  obtain ⟨darkMode, accessKey⟩ := p
  have text (s : Option String) (depth : Nat) :
      prettyChars depth (ofText? s) = scalarChars (ofText? s) := by
    cases s <;> simp [ofText?, prettyChars]
  simp [Preferences.text, pretty, toJson, prettyChars, prettyMembers, text, lineStart]

theorem shallowRecord?_text (p : Preferences) :
    shallowRecord? fieldNames p.text = some p.toJson := by
  have braces : 2 ≤ p.text.toList.length := by
    rw [text_toList]
    exact Nat.le_add_left 2 _
  obtain ⟨fuel, enough⟩ : ∃ fuel, 2 * p.text.toList.length + 2 = fuel + 4 :=
    ⟨2 * p.text.toList.length - 2, by omega⟩
  have dark (rest : List Char) := (value?_blank (fuel + 3) (maxDepth - 1) _).trans
    (value?_bool (fuel + 2) (maxDepth - 1) p.darkMode rest)
  have key (rest : List Char) := (value?_blank (fuel + 2) (maxDepth - 1) _).trans
    (value?_ofText? (fuel + 1) (maxDepth - 1) p.accessKey rest)
  have opens := congrArg skipSpace (text_toList p)
  rw [skipSpace_cons rfl] at opens
  refine shallowRecord?_object opens (show some '"' ≠ some '}' by decide) ?_
    (show skipSpace [] = [] from rfl)
  rw [enough]
  refine (knownMembers?_member rfl rfl (skipSpace_quoted _ _) (dark _)).trans ?_
  exact knownMembers?_member rfl rfl (skipSpace_quoted _ _) (key _)

theorem ofText_text (p : Preferences) : ofText (some p.text) = p := by
  have fields : ofJson? p.toJson = some p := by
    obtain ⟨darkMode, accessKey⟩ := p
    cases accessKey <;> rfl
  rw [ofText, Option.bind_some, shallowRecord?_text, Option.bind_some, fields, Option.getD_some]

end Preferences

theorem PreferenceStore.load_of_read {tree : FileTree} {place : String} {p : Preferences}
    (reads : tree.read place = .ok p.text) :
    PreferenceStore.load tree place = { place := some place, current := p } := by
  have text : (tree.read place).toOption = some p.text := by rw [reads]; rfl
  rw [load, ofFile, text, Preferences.ofText_text]

/-- Preferences with the key that a file keeps leave it there, whether or not they can be kept. -/
theorem PreferenceStore.accessKey_of_save {tree after : FileTree} {place k : String}
    {p : Preferences} {r : Except FileError Unit}
    (kept : (load tree place).current.accessKey = some k) (same : p.accessKey = some k)
    (saves : tree.save place p.text = (r, after)) :
    (load after place).current.accessKey = some k := by
  cases reads : tree.read place with
  | error e =>
    rw [load, reads] at kept
    cases kept
  | ok text =>
    obtain ⟨written, left⟩ := @FileTree.read_save tree after place text p.text r saves
    by_cases works : r = .ok ()
    · rw [load_of_read (written works)]
      exact same
    · rw [load, left works reads, ← reads]
      exact kept

/-! ## Changes that overlap -/

inductive PreferenceChange where
  | ofDarkMode (darkMode : Bool)
  | ofAccessKey (accessKey : Option String)
  deriving DecidableEq

namespace PreferenceChange

def apply (p : Preferences) : PreferenceChange → Preferences
  | ofDarkMode darkMode => { p with darkMode }
  | ofAccessKey accessKey => { p with accessKey }

end PreferenceChange

/-- The call whose turn it is, and whether it has made the folders above the file already. -/
structure PreferenceTurn where
  change : PreferenceChange
  ready : Bool := false

/-- A store that calls change at the same time. Each waits for its turn, changes the preferences in
memory and keeps them before the next one has its turn. -/
structure SharedPreferences where
  store : PreferenceStore
  tree : FileTree
  /-- The calls made so far, the latest first. -/
  called : List PreferenceChange := []
  waiting : List PreferenceChange := []
  turn : Option PreferenceTurn := none
  /-- The calls that have returned, the latest first. -/
  returned : List (PreferenceChange × Outcome Unit) := []

namespace SharedPreferences

open PreferenceChange

/-- The calls that have had their turn, the latest first. -/
def taken (u : SharedPreferences) : List PreferenceChange :=
  (u.turn.map (·.change)).toList ++ u.returned.map Prod.fst

inductive Step : SharedPreferences → SharedPreferences → Prop where
  | calls {u} (change : PreferenceChange) :
      Step u { u with called := change :: u.called, waiting := u.waiting ++ [change] }
  | takes {u before after} (change : PreferenceChange) :
      u.turn = none → u.waiting = before ++ change :: after →
      Step u { u with
        waiting := before ++ after
        turn := some { change }
        store := { u.store with current := change.apply u.store.current } }
  | makesFolders {u change place tree} :
      u.turn = some { change } → u.store.place = some place →
      u.tree.ensureParent place = (.ok (), tree) →
      Step u { u with tree, turn := some { change, ready := true } }
  | writes {u change place tree} :
      u.turn = some { change, ready := true } → u.store.place = some place →
      u.tree.write place u.store.current.text = .ok tree →
      Step u { u with tree, turn := none, returned := (change, .ok ()) :: u.returned }
  /-- The preferences cannot be kept, for any reason and whatever that leaves of the files. -/
  | fails {u turn} (e : PoolError) (tree : FileTree) :
      u.turn = some turn →
      Step u { u with tree, turn := none, returned := (turn.change, .error e) :: u.returned }

inductive Run (tree : FileTree) (place : String) : SharedPreferences → Prop where
  | start : Run tree place { store := .load tree place, tree }
  | next {u v} : Run tree place u → Step u v → Run tree place v

variable {tree : FileTree} {place : String} {u v : SharedPreferences}

theorem Step.place_eq (step : Step u v) : v.store.place = u.store.place := by
  cases step <;> rfl

theorem Run.place_eq (run : Run tree place u) : u.store.place = some place := by
  induction run with
  | start => rfl
  | next _ step ih => exact step.place_eq.trans ih

/-- A call that nobody else is in the way of does what it does alone. -/
theorem Run.update (run : Run tree place u) (idle : u.waiting = []) (free : u.turn = none)
    (change : PreferenceChange) {r : Outcome Unit} {store : PreferenceStore} {after : FileTree}
    (updates : u.store.update u.tree (change.apply u.store.current) = (r, store, after)) :
    Run tree place { u with
      store
      tree := after
      called := change :: u.called
      returned := (change, r) :: u.returned } := by
  obtain ⟨⟨place', current⟩, before, called, waiting, turn, returned⟩ := u
  cases run.place_eq
  cases idle
  cases free
  have turn := (run.next (.calls change)).next (@Step.takes _ [] [] change rfl rfl)
  simp only [PreferenceStore.update, FileTree.save] at updates
  cases made : before.ensureParent place with
  | mk outcome folders =>
    rw [made] at updates
    cases outcome with
    | error e =>
      cases updates
      exact turn.next (@Step.fails _ ⟨change, false⟩ _ _ rfl)
    | ok =>
      have ready := turn.next (.makesFolders rfl rfl made)
      cases written : folders.write place (change.apply current).text with
      | error e =>
        simp only [written] at updates
        cases updates
        exact ready.next (@Step.fails _ ⟨change, true⟩ _ _ rfl)
      | ok file =>
        simp only [written] at updates
        cases updates
        exact ready.next (.writes rfl rfl written)

end SharedPreferences

end PoolConsole
