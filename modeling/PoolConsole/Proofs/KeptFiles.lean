import PoolConsole.Error
import PoolConsole.Storage.FileTree

namespace PoolConsole.FileTree

variable {tree after : FileTree} {way : Way} {node : FileNode} {path : String}

theorem node?_put {w : Way} (below : way ≠ []) :
    (tree.put way node).node? w = if w = way then some node else tree.node? w := by
  unfold node?
  by_cases root : w = []
  · rw [if_pos root, if_pos root, if_neg (root ▸ below.symm)]
  · rw [if_neg root, if_neg root]
    by_cases here : w = way
    · rw [if_pos here, here, put, List.lookup_cons, beq_self_eq_true]
    · rw [if_neg here, put, List.lookup_cons, beq_eq_false_iff_ne.mpr here]
      induction tree.nodes with
      | nil => rfl
      | cons n rest ih =>
        by_cases same : n.1 = way
        · rw [List.filter_cons_of_neg (by simpa using same), ih]
          have other : (w == n.1) = false := beq_eq_false_iff_ne.mpr (same ▸ here)
          rw [List.lookup_cons, other]
        · rw [List.filter_cons_of_pos (by simpa using same), List.lookup_cons, List.lookup_cons]
          exact congrArg (fun found => match w == n.1 with
            | true => some n.2
            | false => found) ih

/-- A node that takes the place of none, or of a file. -/
def Apart (tree : FileTree) (way : Way) : Prop :=
  way ≠ [] ∧ tree.node? way ≠ some .folder

theorem entry?_put {folder : Way} {name : String} {found : Option FileNode} (apart : way ≠ [])
    (entry : tree.entry? folder name = .ok found) :
    entry? (tree.put way node) folder name =
      .ok (if folder ++ [name] = way then some node else found) := by
  unfold entry? at entry ⊢
  split at entry
  next => cases entry
  next fits =>
    obtain rfl := Except.ok.inj entry
    rw [if_neg fits, node?_put apart]

theorem walk_put {here there : Way} {names : List String} (apart : tree.Apart way)
    (walks : tree.walk here names = .ok there) :
    (tree.put way node).walk here names = .ok there := by
  induction names generalizing here with
  | nil => exact walks
  | cons name names ih =>
    unfold walk at walks ⊢
    split at walks
    next still =>
      rw [if_pos still]
      exact ih walks
    next moves =>
    rw [if_neg moves]
    split at walks
    next up =>
      rw [if_pos up]
      exact ih walks
    next down =>
    rw [if_neg down]
    split at walks
    next entry =>
      have other : here ++ [name] ≠ way := by
        rintro rfl
        unfold entry? at entry
        split at entry
        next => cases entry
        next => exact apart.2 (Except.ok.inj entry)
      rw [entry?_put apart.1 entry, if_neg other]
      exact ih walks
    next => cases walks
    next => cases walks
    next => cases walks

theorem locate_put {place : PathEnd} (apart : tree.Apart way)
    (leads : tree.locate path = .ok place) :
    (tree.put way node).locate path = .ok place := by
  have walks {start : Way} {names : List String} {make : Way → PathEnd}
      (found : (tree.walk start names).map make = .ok place) :
      ((tree.put way node).walk start names).map make = .ok place := by
    cases there : tree.walk start names with
    | error e =>
      rw [there] at found
      cases found
    | ok folder =>
      rw [there] at found
      rw [walk_put apart there]
      exact found
  have begins : (tree.put way node).workingFolder = tree.workingFolder := rfl
  simp only [locate, begins] at leads ⊢
  generalize (if Path.isAbsolute path = true then [] else tree.workingFolder) = start at leads ⊢
  split at leads
  next => cases leads
  next text =>
  split at leads
  next => cases leads
  next named =>
  split at leads
  next => cases leads
  next fits =>
  rw [if_neg text, if_neg named, if_neg fits]
  split at leads
  next => exact walks leads
  next => exact walks leads
  next => exact walks leads
  next => exact walks leads

theorem entry?_eq_ok {folder : Way} {name : String} {found : Option FileNode} :
    tree.entry? folder name = .ok found ↔
      ¬ maxNameBytes < name.utf8ByteSize ∧ tree.node? (folder ++ [name]) = found := by
  unfold entry?
  split
  next long => simp [long]
  next fits => simp [fits]

/-- A text is read where the path leads to a file that holds it. -/
theorem read_eq_ok {text : String} :
    tree.read path = .ok text ↔
      ∃ folder name, tree.locate path = .ok (.entry folder name) ∧
        tree.entry? folder name = .ok (some (.file (some text))) ∧ path.endsWith "/" = false := by
  constructor
  · intro reads
    obtain ⟨place, leads, reads⟩ := bind_eq_ok.mp reads
    cases place with
    | folder => cases reads
    | entry folder name =>
      obtain ⟨found, entry, reads⟩ := bind_eq_ok.mp reads
      cases found with
      | none => cases reads
      | some node =>
        cases node with
        | folder => cases reads
        | file held =>
          cases slash : path.endsWith "/" with
          | true =>
            simp only [slash] at reads
            cases reads
          | false =>
            simp only [slash] at reads
            cases held with
            | none => cases reads
            | some held =>
              cases reads
              exact ⟨folder, name, leads, entry, rfl⟩
  · rintro ⟨folder, name, leads, entry, slash⟩
    refine bind_eq_ok.mpr ⟨_, leads, bind_eq_ok.mpr ⟨_, entry, ?_⟩⟩
    simp only [slash]
    rfl

theorem makeFolder_eq_ok (makes : tree.makeFolder path = .ok after) :
    ∃ way, way ≠ [] ∧ tree.node? way = none ∧ after = tree.put way .folder := by
  obtain ⟨place, leads, makes⟩ := bind_eq_ok.mp makes
  cases place with
  | folder => cases makes
  | entry folder name =>
    obtain ⟨found, entry, makes⟩ := bind_eq_ok.mp makes
    cases found with
    | some => cases makes
    | none =>
      cases makes
      exact ⟨_, List.append_ne_nil_of_right_ne_nil _ (List.cons_ne_nil _ _),
        (entry?_eq_ok.mp entry).2, rfl⟩

/-- A text that has been written is read back. -/
theorem read_write {text : String} (writes : tree.write path text = .ok after) :
    after.read path = .ok text := by
  obtain ⟨place, leads, writes⟩ := bind_eq_ok.mp writes
  cases place with
  | folder => cases writes
  | entry folder name =>
    cases slash : path.endsWith "/" with
    | true =>
      simp only [slash] at writes
      cases writes
    | false =>
      simp only [slash] at writes
      obtain ⟨found, entry, writes⟩ := bind_eq_ok.mp writes
      have below : folder ++ [name] ≠ [] :=
        List.append_ne_nil_of_right_ne_nil _ (List.cons_ne_nil _ _)
      have reads (apart : found ≠ some .folder) :
          (tree.put (folder ++ [name]) (.file (some text))).read path = .ok text := by
        obtain ⟨-, node⟩ := entry?_eq_ok.mp entry
        refine read_eq_ok.mpr ⟨folder, name, locate_put ⟨below, node ▸ apart⟩ leads, ?_, slash⟩
        rw [entry?_put below entry, if_pos rfl]
      cases found with
      | none =>
        cases writes
        exact reads nofun
      | some node =>
        cases node with
        | folder => cases writes
        | file held =>
          cases writes
          exact reads nofun

/-- A new node where nothing has been leaves what can be read as it is. -/
theorem read_put {text : String} (below : way ≠ []) (free : tree.node? way = none)
    (reads : tree.read path = .ok text) : (tree.put way node).read path = .ok text := by
  obtain ⟨folder, name, leads, entry, slash⟩ := read_eq_ok.mp reads
  have apart : tree.Apart way := ⟨below, by rw [free]; nofun⟩
  refine read_eq_ok.mpr ⟨folder, name, locate_put apart leads, ?_, slash⟩
  have other : folder ++ [name] ≠ way := by
    rintro rfl
    rw [(entry?_eq_ok.mp entry).2] at free
    cases free
  rw [entry?_put below entry, if_neg other]

variable {text : String}

theorem read_ensureFolder (folder : String) (reads : tree.read path = .ok text) :
    (tree.ensureFolder folder).2.read path = .ok text := by
  unfold ensureFolder
  split
  next made =>
    obtain ⟨way, below, free, rfl⟩ := makeFolder_eq_ok made
    exact read_put below free reads
  next => exact reads

theorem read_ensureFolders (folders : List String) (reads : tree.read path = .ok text) :
    (tree.ensureFolders folders).2.read path = .ok text := by
  induction folders generalizing tree with
  | nil => exact reads
  | cons folder above ih =>
    have kept := read_ensureFolder folder reads
    unfold ensureFolders
    split
    next tried first =>
      rw [first] at kept
      have deeper := ih kept
      split
      next made rest =>
        rw [rest] at deeper
        exact read_ensureFolder folder deeper
      next => exact deeper
    next => exact kept

theorem read_ensureParent (other : String) (reads : tree.read path = .ok text) :
    (tree.ensureParent other).2.read path = .ok text :=
  read_ensureFolders _ reads

/-- What has been saved is read back, and what could be read can be read still if it has not. -/
theorem read_save {new : String} {r : Except FileError Unit}
    (saves : tree.save path new = (r, after)) :
    (r = .ok () → after.read path = .ok new) ∧
      (r ≠ .ok () → tree.read path = .ok text → after.read path = .ok text) := by
  unfold save at saves
  split at saves
  next e left made =>
    cases saves
    refine ⟨nofun, fun _ reads => ?_⟩
    have kept := read_ensureParent path reads
    rwa [made] at kept
  next left made =>
    split at saves
    next e failed =>
      cases saves
      refine ⟨nofun, fun _ reads => ?_⟩
      have kept := read_ensureParent path reads
      rwa [made] at kept
    next written =>
      cases saves
      exact ⟨fun _ => read_write written, fun not => absurd rfl not⟩

end PoolConsole.FileTree
