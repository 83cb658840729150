import Mathlib.Data.List.Induction
import StreamGate.Proofs.Storage.Paths

/-!
# Places in a file system

What a path leads to, and what the operations on files change, in terms of the places
where the names are.

* `FileSystem.walk_append`: walking on from a directory.
* `FileSystem.Sound`: no two names lead to one file, and no file has the next number.
* `Sound.walk_below`, `Sound.walk_blocked`: where ordinary names lead.
* `removeFile_spec`, `create_spec`, `rename_spec`, `makeAllAt_below`: what the operations change.
-/

namespace StreamGate.FileSystem

variable {fs fs' : FileSystem} {path : String} {place : Place}

/-! ## What is at a place -/

@[simp] theorem node?_nil (fs : FileSystem) : fs.node? [] = some .directory := rfl

theorem node?_of_ne_nil (below : place ≠ []) : fs.node? place = fs.nodes.get? place :=
  if_neg (by simpa using below)

theorem ne_nil_of_file {n : Nat} (found : fs.node? place = some (.file n)) : place ≠ [] := by
  rintro rfl
  cases found

@[simp] theorem node?_setContent (fs : FileSystem) (n : Nat) (bytes : Bytes) (place : Place) :
    (fs.setContent n bytes).node? place = fs.node? place := rfl

theorem content_of_contents (same : fs'.contents = fs.contents) (n : Nat) :
    fs'.content n = fs.content n := by
  rw [content, same, content]

theorem content_setContent (fs : FileSystem) (n m : Nat) (bytes : Bytes) :
    (fs.setContent n bytes).content m = if n = m then bytes else fs.content m := by
  unfold setContent content
  rw [Table.get?_insert]
  split <;> rfl

theorem node?_insert (fs : FileSystem) (below : place ≠ []) (node : Node) (other : Place) :
    ({ fs with nodes := fs.nodes.insert place node } : FileSystem).node? other =
      if place = other then some node else fs.node? other := by
  by_cases root : other = []
  · subst root
    rw [if_neg below]
    rfl
  · rw [node?_of_ne_nil root, node?_of_ne_nil root, Table.get?_insert]

/-- The content of the file at a place. -/
def contentAt? (fs : FileSystem) (place : Place) : Option Bytes :=
  match fs.node? place with
  | some (.file n) => some (fs.content n)
  | _ => none

theorem contentAt?_of_file {n : Nat} (file : fs.node? place = some (.file n)) :
    fs.contentAt? place = some (fs.content n) := by
  rw [contentAt?, file]

theorem contentAt?_congr (files : ∀ n, fs'.node? place = some (.file n) ↔
      fs.node? place = some (.file n))
    (contents : ∀ n, fs.node? place = some (.file n) → fs'.content n = fs.content n) :
    fs'.contentAt? place = fs.contentAt? place := by
  by_cases file : ∃ n, fs.node? place = some (.file n)
  · obtain ⟨n, there⟩ := file
    rw [contentAt?_of_file there, contentAt?_of_file ((files n).2 there), contents n there]
  · have none : ∀ fs : FileSystem, (¬ ∃ n, fs.node? place = some (.file n)) →
        fs.contentAt? place = none := fun fs none => by
      unfold contentAt?
      split
      · rename_i n there
        exact absurd ⟨n, there⟩ none
      · rfl
    rw [none fs file, none fs' fun ⟨n, there⟩ => file ⟨n, (files n).1 there⟩]

/-- What is written behind the end of a file is added to it. -/
theorem overwrite_of_length {bytes : Bytes} {position : Nat} (reached : bytes.length = position)
    (more : Bytes) : overwrite bytes position more = bytes ++ more := by
  subst reached
  simp [overwrite]

/-! ## Walking -/

theorem walk_singleton (fs : FileSystem) (here : Place) (name : String) :
    fs.walk here [name] =
      if name = ".." then .ok here.dropLast
      else if maxName < name.utf8ByteSize then .error .nameTooLong
      else .ok (here ++ [name]) := by
  rw [walk]

theorem walk_cons {here : Place} {name : String} {rest : List String} (more : rest ≠ []) :
    fs.walk here (name :: rest) =
      if name = ".." then fs.walk here.dropLast rest
      else if maxName < name.utf8ByteSize then .error .nameTooLong
      else match fs.node? (here ++ [name]) with
        | none => .error .notFound
        | some (.file _) => .error .notDirectory
        | some .directory => fs.walk (here ++ [name]) rest := by
  cases rest with
  | nil => exact absurd rfl more
  | cons next rest => exact walk.eq_3 fs here name (next :: rest) nofun

/-- A walk goes on from the directory it has reached. -/
theorem walk_append {here mid : Place} {names rest : List String}
    (reached : fs.walk here names = .ok mid) (directory : fs.node? mid = some .directory)
    (more : rest ≠ []) : fs.walk here (names ++ rest) = fs.walk mid rest := by
  induction names generalizing here with
  | nil =>
    rw [walk] at reached
    cases reached
    rfl
  | cons name names ih =>
    rw [List.cons_append, walk_cons (by simp [more])]
    by_cases last : names = []
    · subst last
      rw [walk_singleton] at reached
      split at reached
      · cases reached
        rename_i up
        rw [if_pos up, List.nil_append]
      · split at reached
        · cases reached
        · rename_i down short
          cases reached
          rw [if_neg down, if_neg short, directory, List.nil_append]
    · rw [walk_cons last] at reached
      split at reached
      · rename_i up
        rw [if_pos up, ih reached]
      · split at reached
        · cases reached
        · rename_i down short
          rw [if_neg down, if_neg short]
          split at reached
          · cases reached
          · cases reached
          · exact ih reached

/-- Directories that stay keep a walk going. -/
theorem walk_mono {here : Place} {names : List String}
    (keeps : ∀ place, fs.node? place = some .directory → fs'.node? place = some .directory)
    (reached : fs.walk here names = .ok place) : fs'.walk here names = .ok place := by
  induction names generalizing here with
  | nil =>
    rw [walk] at reached ⊢
    exact reached
  | cons name names ih =>
    by_cases last : names = []
    · subst last
      rw [walk_singleton] at reached ⊢
      exact reached
    · rw [walk_cons last] at reached ⊢
      split at reached
      · rename_i up
        rw [if_pos up, ih reached]
      · split at reached
        · cases reached
        · rename_i down short
          rw [if_neg down, if_neg short]
          split at reached
          · cases reached
          · cases reached
          · rename_i there
            rw [keeps _ there]
            exact ih reached

/-- An ordinary name leads one step down. -/
theorem walk_component {here : Place} {name : String} (component : Path.IsComponent name) :
    fs.walk here [name] = .ok (here ++ [name]) := by
  rw [walk_singleton, if_neg component.notUp, if_neg (Nat.not_lt.2 component.short)]

theorem walk_component_cons {here : Place} {name : String} {rest : List String}
    (component : Path.IsComponent name) (more : rest ≠ []) :
    fs.walk here (name :: rest) = match fs.node? (here ++ [name]) with
      | none => .error .notFound
      | some (.file _) => .error .notDirectory
      | some .directory => fs.walk (here ++ [name]) rest := by
  rw [walk_cons more, if_neg component.notUp, if_neg (Nat.not_lt.2 component.short)]

/-! ## Trees that hang together -/

/-- Names are in directories, no two of them lead to one file, and the next number is new. -/
structure Sound (fs : FileSystem) : Prop where
  closed : ∀ {dir : Place} {name : String} {node : Node},
    fs.node? (dir ++ [name]) = some node → fs.node? dir = some .directory
  single : ∀ {place other : Place} {n : Nat},
    fs.node? place = some (.file n) → fs.node? other = some (.file n) → place = other
  fresh : ∀ {place : Place} {n : Nat}, fs.node? place = some (.file n) → n < fs.fresh

/-- Nothing is below a place that is no directory. -/
theorem Sound.nothing_below (sound : fs.Sound) (none : fs.node? place ≠ some .directory)
    {names : List String} (some : names ≠ []) : fs.node? (place ++ names) = .none := by
  induction names using List.reverseRecOn with
  | nil => exact absurd rfl some
  | append_singleton front last ih =>
    cases found : fs.node? (place ++ (front ++ [last])) with
    | none => rfl
    | some node =>
      rw [← List.append_assoc] at found
      have above := sound.closed found
      by_cases first : front = []
      · subst first
        rw [List.append_nil] at above
        exact absurd above none
      · rw [ih first] at above
        cases above

theorem Sound.directory_above (sound : fs.Sound) {names : List String} {node : Node}
    (some : names ≠ []) (found : fs.node? (place ++ names) = .some node) :
    fs.node? place = .some .directory := by
  by_cases there : fs.node? place = .some .directory
  · exact there
  · rw [sound.nothing_below there some] at found
    cases found

/-- No file is in the way along names. -/
def Clear (fs : FileSystem) (base : Place) (names : List String) : Prop :=
  ∀ front, front <+: names → ∀ n, fs.node? (base ++ front) ≠ some (.file n)

theorem Clear.left {base : Place} {front back : List String}
    (clear : fs.Clear base (front ++ back)) : fs.Clear base front := fun before le =>
  clear before (le.trans (List.prefix_append front back))

/-- Ordinary names lead to the place below, if the directory for the last one is there. -/
theorem Sound.walk_below (sound : fs.Sound) {base : Place}
    (directory : fs.node? base = some .directory) {front : List String} {last : String}
    (components : ∀ name ∈ front ++ [last], Path.IsComponent name) (clear : fs.Clear base front) :
    fs.walk base (front ++ [last]) =
      if fs.node? (base ++ front) = some .directory then .ok (base ++ (front ++ [last]))
      else .error .notFound := by
  induction front generalizing base with
  | nil =>
    rw [List.append_nil, if_pos directory]
    exact walk_component (components last List.mem_cons_self)
  | cons name front ih =>
    rw [List.cons_append, walk_component_cons (components name List.mem_cons_self) (by simp)]
    have split : base ++ name :: front = base ++ [name] ++ front := List.append_cons ..
    cases found : fs.node? (base ++ [name]) with
    | none =>
      have below : fs.node? (base ++ name :: front) = none := by
        rw [split]
        by_cases first : front = []
        · rw [first, List.append_nil, found]
        · exact sound.nothing_below (by simp [found]) first
      rw [below, if_neg nofun]
    | some node =>
      cases node with
      | file n => exact absurd found (clear [name] (List.prefix_append [name] front) n)
      | directory =>
        have rest : fs.Clear (base ++ [name]) front := fun before le n => by
          rw [List.append_assoc]
          exact clear (name :: before) (List.cons_prefix_cons.2 ⟨rfl, le⟩) n
        have walked := ih found (fun name mem => components name (List.mem_cons_of_mem _ mem)) rest
        rw [split, List.append_cons base name (front ++ [last])]
        exact walked

/-- A file in the way stops a walk. -/
theorem Sound.walk_blocked (sound : fs.Sound) {base : Place}
    (directory : fs.node? base = some .directory) {front : List String} {last : String}
    (components : ∀ name ∈ front ++ [last], Path.IsComponent name)
    (blocked : ¬ fs.Clear base front) : fs.walk base (front ++ [last]) = .error .notDirectory := by
  induction front generalizing base with
  | nil =>
    refine absurd (fun before le n file => ?_) blocked
    rw [List.prefix_nil.1 le, List.append_nil, directory] at file
    cases file
  | cons name front ih =>
    rw [List.cons_append, walk_component_cons (components name List.mem_cons_self) (by simp)]
    have onward (stays : ∀ n, fs.node? (base ++ [name]) ≠ some (.file n)) :
        ¬ fs.Clear (base ++ [name]) front := by
      refine fun clear => blocked fun before le n => ?_
      rcases List.prefix_cons_iff.1 le with rfl | ⟨behind, rfl, inside⟩
      · rw [List.append_nil, directory]
        nofun
      · rw [List.append_cons]
        exact clear behind inside n
    cases found : fs.node? (base ++ [name]) with
    | none =>
      refine absurd (fun before le n file => ?_) (onward (by simp [found]))
      by_cases first : before = []
      · rw [first, List.append_nil, found] at file
        cases file
      · rw [sound.nothing_below (by simp [found]) first] at file
        cases file
    | some node =>
      cases node with
      | file n => rfl
      | directory =>
        exact ih found (fun name mem => components name (List.mem_cons_of_mem _ mem))
          (onward (by simp [found]))

/-- Where ordinary names lead, if they lead anywhere. -/
theorem walk_ok_below {base : Place} (directory : fs.node? base = some .directory)
    {front : List String} {last : String}
    (components : ∀ name ∈ front ++ [last], Path.IsComponent name)
    (walked : fs.walk base (front ++ [last]) = .ok place) :
    place = base ++ (front ++ [last]) ∧ fs.node? (base ++ front) = some .directory := by
  induction front generalizing base with
  | nil =>
    rw [List.nil_append, walk_component (components last List.mem_cons_self)] at walked
    cases walked
    rw [List.append_nil]
    exact ⟨rfl, directory⟩
  | cons name front ih =>
    rw [List.cons_append, walk_component_cons (components name List.mem_cons_self) (by simp)]
      at walked
    split at walked
    · cases walked
    · cases walked
    · rename_i there
      obtain ⟨rfl, above⟩ :=
        ih there (fun name mem => components name (List.mem_cons_of_mem _ mem)) walked
      rw [List.append_cons base name front, List.cons_append, ← List.append_cons]
      exact ⟨rfl, above⟩

/-- The same behind a walk that has reached the directory. -/
theorem Sound.walk_on (sound : fs.Sound) {start base : Place} {above front : List String}
    {last : String} (walked : fs.walk start above = .ok base)
    (directory : fs.node? base = some .directory)
    (components : ∀ name ∈ front ++ [last], Path.IsComponent name) (clear : fs.Clear base front) :
    fs.walk start (above ++ (front ++ [last])) =
      if fs.node? (base ++ front) = some .directory then .ok (base ++ (front ++ [last]))
      else .error .notFound := by
  rw [walk_append walked directory (by simp)]
  exact sound.walk_below directory components clear

/-! ## What keeps a tree together -/

theorem Sound.of_nodes (sound : fs.Sound) (same : ∀ p, fs'.node? p = fs.node? p)
    (fresh : fs.fresh ≤ fs'.fresh) : fs'.Sound where
  closed found := by
    rw [same] at found ⊢
    exact sound.closed found
  single found found' := by
    rw [same] at found found'
    exact sound.single found found'
  fresh found := by
    rw [same] at found
    exact Nat.lt_of_lt_of_le (sound.fresh found) fresh

/-- A name in a directory may come to lead to what no other name leads to, unless a directory
becomes a file. -/
theorem Sound.set (sound : fs.Sound) {dir : Place} {name : String} {node : Node}
    (set : ∀ p, fs'.node? p = if dir ++ [name] = p then some node else fs.node? p)
    (parent : fs.node? dir = some .directory)
    (kept : fs.node? (dir ++ [name]) = some .directory → node = .directory)
    (own : ∀ n, node = .file n →
      n < fs'.fresh ∧ ∀ p, fs.node? p = some (.file n) → p = dir ++ [name])
    (fresh : fs.fresh ≤ fs'.fresh) : fs'.Sound where
  closed {above name' below} found := by
    rw [set] at found ⊢
    by_cases here : dir ++ [name] = above
    · subst here
      rw [if_pos rfl]
      rw [if_neg (by simp)] at found
      rw [kept (sound.closed found)]
    · rw [if_neg here]
      split at found
      · rename_i same
        rw [← (List.append_inj' same rfl).1, parent]
      · exact sound.closed found
  single {place other n} found found' := by
    rw [set] at found found'
    split at found <;> split at found'
    · rename_i here there
      rw [← here, there]
    · rename_i here _
      rw [← here, (own n (Option.some.inj found)).2 other found']
    · rename_i _ there
      rw [← there, (own n (Option.some.inj found')).2 place found]
    · exact sound.single found found'
  fresh {place n} found := by
    rw [set] at found
    split at found
    · exact (own n (Option.some.inj found)).1
    · exact Nat.lt_of_lt_of_le (sound.fresh found) fresh

/-- A name that leads to a file may go. -/
theorem Sound.unset (sound : fs.Sound) {here : Place} {n : Nat}
    (unset : ∀ p, fs'.node? p = if here = p then none else fs.node? p)
    (file : fs.node? here = some (.file n)) (fresh : fs.fresh ≤ fs'.fresh) : fs'.Sound where
  closed {dir name node} found := by
    rw [unset] at found ⊢
    split at found
    · cases found
    · have above := sound.closed found
      rw [if_neg ?_, above]
      rintro rfl
      rw [above] at file
      cases file
  single found found' := by
    rw [unset] at found found'
    split at found
    · cases found
    · split at found'
      · cases found'
      · exact sound.single found found'
  fresh found := by
    rw [unset] at found
    split at found
    · cases found
    · exact Nat.lt_of_lt_of_le (sound.fresh found) fresh

/-! ## What the operations change -/

/-- What all changes have in common. -/
structure Onward (fs fs' : FileSystem) : Prop where
  sound : fs'.Sound
  fresh : fs.fresh ≤ fs'.fresh
  working : fs'.workingDirectory = fs.workingDirectory

theorem node?_of_find {node : Node} (found : fs.find path = .ok node)
    (located : fs.locate path = .ok place) : fs.node? place = some node := by
  unfold find at found
  rw [located] at found
  dsimp only [bind, Except.bind] at found
  split at found
  · cases found
  · rename_i there
    cases found
    exact there
  · rename_i there
    split at found
    · cases found
    · cases found
      exact there

/-- What is found is at some place. -/
theorem locate_of_find {node : Node} (found : fs.find path = .ok node) :
    ∃ place, fs.locate path = .ok place ∧ fs.node? place = some node := by
  cases located : fs.locate path with
  | error e =>
    unfold find at found
    rw [located] at found
    cases found
  | ok place => exact ⟨place, rfl, node?_of_find found located⟩

/-- Files can be removed, and nothing else can. -/
theorem isFile_of_removeFile (fs : FileSystem) (path : String) :
    fs.isFile path = (fs.removeFile path).toBool := by
  unfold isFile removeFile
  cases found : fs.find path with
  | error e => rfl
  | ok node =>
    cases node with
    | directory => rfl
    | file n =>
      cases located : fs.locate path with
      | ok place => rfl
      | error e =>
        unfold find at found
        rw [located] at found
        cases found

/-- Removing a file takes away one name, the one its path leads to. -/
theorem removeFile_spec (removed : fs.removeFile path = .ok fs') :
    ∃ place n, fs.locate path = .ok place ∧ fs.node? place = some (.file n) ∧
      (∀ p, fs'.node? p = if place = p then none else fs.node? p) ∧ fs'.contents = fs.contents ∧
      fs'.workingDirectory = fs.workingDirectory := by
  unfold removeFile at removed
  cases found : fs.find path with
  | error e =>
    rw [found] at removed
    cases removed
  | ok node =>
    cases located : fs.locate path with
    | error e =>
      unfold find at found
      rw [located] at found
      cases found
    | ok place =>
      rw [found, located] at removed
      cases node with
      | directory => cases removed
      | file n =>
        cases removed
        refine ⟨place, n, rfl, node?_of_find found located, fun p => ?_, rfl, rfl⟩
        by_cases root : p = []
        · subst root
          rw [if_neg (ne_nil_of_file (node?_of_find found located))]
          rfl
        · rw [node?_of_ne_nil root, node?_of_ne_nil root, Table.get?_erase]

/-- A path leads to a place as long as there are the directories on the way. -/
theorem locate_mono
    (keeps : ∀ place, fs.node? place = some .directory → fs'.node? place = some .directory)
    (working : fs'.workingDirectory = fs.workingDirectory) (located : fs.locate path = .ok place) :
    fs'.locate path = .ok place := by
  unfold locate at located ⊢
  rw [working]
  split at located
  · cases located
  · split at located
    · cases located
    · split at located
      · cases located
      · rename_i noNul some short
        rw [if_neg noNul, if_neg some, if_neg short]
        exact walk_mono keeps located

theorem isFile_iff (fs : FileSystem) (path : String) : fs.isFile path = true ↔
    ∃ place n, fs.locate path = .ok place ∧ fs.node? place = some (.file n) ∧
      (Path.parse path).endsInDirectory = false := by
  unfold isFile find
  cases fs.locate path with
  | error e => exact ⟨nofun, fun ⟨_, _, located, _⟩ => by cases located⟩
  | ok place =>
    dsimp only [bind, Except.bind]
    cases there : fs.node? place with
    | none => exact ⟨nofun, fun ⟨_, _, located, file, _⟩ => by cases located; simp [there] at file⟩
    | some node =>
      cases node with
      | directory =>
        exact ⟨nofun, fun ⟨_, _, located, file, _⟩ => by cases located; simp [there] at file⟩
      | file n => cases (Path.parse path).endsInDirectory <;> simp [there]

/-- A file is gone if its path leads where the path of the removed file did. -/
theorem isFile_of_removeFile_ok (removed : fs.removeFile path = .ok fs') (other : String) :
    fs'.isFile other = true ↔ fs.isFile other = true ∧ fs.locate other ≠ fs.locate path := by
  obtain ⟨here, n, located, file, nodes, -, working⟩ := removeFile_spec removed
  have gone (p : Place) (there : fs.node? p = some .directory) :
      fs'.node? p = some .directory := by
    rw [nodes, if_neg, there]
    rintro rfl
    rw [file] at there
    cases there
  have back (p : Place) (there : fs'.node? p = some .directory) :
      fs.node? p = some .directory := by
    rw [nodes] at there
    split at there
    · cases there
    · exact there
  rw [isFile_iff, isFile_iff, located]
  constructor
  · rintro ⟨place, m, leads, there, named⟩
    have before := locate_mono back working.symm leads
    rw [nodes] at there
    split at there
    · cases there
    · rename_i apart
      refine ⟨⟨place, m, before, there, named⟩, ?_⟩
      rw [before]
      rintro ⟨⟩
      exact apart rfl
  · rintro ⟨⟨place, m, leads, there, named⟩, apart⟩
    refine ⟨place, m, locate_mono gone working leads, ?_, named⟩
    rw [nodes, if_neg, there]
    rintro rfl
    exact apart leads

/-- A file that was opened for writing, empty. -/
structure Created (fs fs' : FileSystem) (place : Place) (n : Nat) : Prop extends Onward fs fs' where
  nodes : ∀ p, fs'.node? p = if place = p then some (.file n) else fs.node? p
  content : ∀ m, fs'.content m = if n = m then [] else fs.content m
  number : fs.node? place = some (.file n) ∨ fs.node? place = none ∧ n = fs.fresh
  below : n < fs'.fresh

/-- What was opened for writing is no directory. -/
theorem not_directory_of_create {h : FileHandle} (created : fs.create path = .ok (h, fs')) :
    ∃ place, fs.locate path = .ok place ∧ fs.node? place ≠ some .directory := by
  unfold create at created
  cases located : fs.locate path with
  | error e =>
    rw [located] at created
    cases created
  | ok place =>
    refine ⟨place, rfl, fun directory => ?_⟩
    rw [located] at created
    dsimp only [bind, Except.bind] at created
    rw [directory] at created
    cases created

/-- Opening for writing keeps the number of the file that is there, or takes a new one. -/
theorem create_spec (sound : fs.Sound) {dir : Place} {name : String}
    (located : fs.locate path = .ok (dir ++ [name])) (parent : fs.node? dir = some .directory)
    (file : (Path.parse path).endsInDirectory = false ∧ (Path.parse path).endsInDot = false)
    (free : fs.node? (dir ++ [name]) ≠ some .directory) :
    ∃ n fs', fs.create path = .ok (⟨.file n, 0⟩, fs') ∧ fs.Created fs' (dir ++ [name]) n := by
  have below : dir ++ [name] ≠ [] := by simp
  unfold create
  rw [located]
  cases found : fs.node? (dir ++ [name]) with
  | none =>
    let after : FileSystem :=
      { fs.setContent fs.fresh [] with
        nodes := fs.nodes.insert (dir ++ [name]) (.file fs.fresh), fresh := fs.fresh + 1 }
    have nodes : ∀ p, after.node? p = _ :=
      node?_insert (fs.setContent fs.fresh []) below (.file fs.fresh)
    refine ⟨fs.fresh, after, ?_, ⟨?_, Nat.le_succ _, rfl⟩, nodes, ?_, .inr ⟨found, rfl⟩,
      Nat.lt_succ_self _⟩
    · dsimp only [bind, Except.bind]
      rw [found]
      simp only [file]
      rfl
    · refine sound.set nodes parent (by simp [found]) (fun n same => ?_) (Nat.le_succ _)
      cases same
      exact ⟨Nat.lt_succ_self _, fun p there => absurd (sound.fresh there) (Nat.lt_irrefl _)⟩
    · exact fun m => content_setContent ..
  | some node =>
    cases node with
    | directory => exact absurd found free
    | file n =>
      refine ⟨n, fs.setContent n [], ?_, ⟨sound.of_nodes (fun _ => rfl) (Nat.le_refl _),
        Nat.le_refl _, rfl⟩, fun p => ?_, fun m => content_setContent .., .inl found,
        sound.fresh found⟩
      · dsimp only [bind, Except.bind]
        rw [found]
        simp only [file]
        rfl
      · rw [node?_setContent]
        split
        · rename_i here
          rw [← here, found]
        · rfl

/-- A file that has a new name. -/
structure Renamed (fs fs' : FileSystem) (here there : Place) (n : Nat) : Prop
    extends Onward fs fs' where
  nodes : ∀ p, fs'.node? p =
    if there = p then some (.file n) else if here = p then none else fs.node? p
  contents : fs'.contents = fs.contents

/-- What was renamed is a file, and its new name is not that of a directory. -/
theorem file_of_rename {source target : String} (renamed : fs.rename source target = .ok fs') :
    ∃ n here there, fs.find source = .ok (.file n) ∧ fs.locate source = .ok here ∧
      fs.locate target = .ok there ∧ fs.node? there ≠ some .directory := by
  unfold rename at renamed
  cases found : fs.find source with
  | error e =>
    rw [found] at renamed
    cases renamed
  | ok node =>
    cases origin : fs.locate source with
    | error e =>
      rw [found, origin] at renamed
      cases renamed
    | ok here =>
      cases located : fs.locate target with
      | error e =>
        rw [found, origin, located] at renamed
        cases renamed
      | ok there =>
        rw [found, origin, located] at renamed
        dsimp only [bind, Except.bind] at renamed
        cases node with
        | directory => cases renamed
        | file n =>
          refine ⟨n, here, there, rfl, rfl, rfl, fun directory => ?_⟩
          rw [directory] at renamed
          cases renamed

/-- A file goes where it is renamed to.  The old name is taken away first, so a path may be
renamed to itself. -/
theorem rename_spec (sound : fs.Sound) {source target : String} {here dir : Place} {name : String}
    {n : Nat} (found : fs.find source = .ok (.file n)) (origin : fs.locate source = .ok here)
    (located : fs.locate target = .ok (dir ++ [name])) (parent : fs.node? dir = some .directory)
    (free : fs.node? (dir ++ [name]) ≠ some .directory) :
    ∃ fs', fs.rename source target = .ok fs' ∧ fs.Renamed fs' here (dir ++ [name]) n := by
  have file := node?_of_find found origin
  have below : dir ++ [name] ≠ [] := by simp
  let mid : FileSystem := { fs with nodes := fs.nodes.erase here }
  have gone : ∀ p, mid.node? p = if here = p then none else fs.node? p := fun p => by
    by_cases root : p = []
    · subst root
      rw [if_neg (ne_nil_of_file file)]
      rfl
    · rw [node?_of_ne_nil root, node?_of_ne_nil root, Table.get?_erase]
  let after : FileSystem := { mid with nodes := mid.nodes.insert (dir ++ [name]) (.file n) }
  have nodes : ∀ p, after.node? p = _ := node?_insert mid below (.file n)
  have stays : here ≠ dir := by
    rintro rfl
    rw [parent] at file
    cases file
  refine ⟨after, ?_, ⟨?_, Nat.le_refl _, rfl⟩, fun p => ?_, rfl⟩
  · unfold rename
    rw [found, origin, located]
    dsimp only [bind, Except.bind]
    split
    · contradiction
    · rename_i there
      exact absurd there free
    · rename_i same _
      cases same
      rfl
  · refine (sound.unset gone file (Nat.le_refl _)).set nodes ?_ ?_ (fun m same => ?_)
      (Nat.le_refl _)
    · rw [gone, if_neg stays, parent]
    · intro directory
      rw [gone] at directory
      split at directory
      · cases directory
      · exact absurd directory free
    · cases same
      refine ⟨sound.fresh file, fun p led => ?_⟩
      rw [gone] at led
      split at led
      · cases led
      · rename_i other
        exact absurd (sound.single file led) other
  · rw [nodes, gone]

/-! ## Making directories -/

variable {base : Place} {front : List String} {last : String}

/-- Directories that are there, down to the last of some names. -/
structure Made (fs fs' : FileSystem) (base : Place) (names : List String) : Prop
    extends Onward fs fs' where
  made : ∀ front, front <+: names → fs'.node? (base ++ front) = some .directory
  rest : ∀ p, (∀ front, front <+: names → base ++ front ≠ p) → fs'.node? p = fs.node? p
  contents : fs'.contents = fs.contents

theorem Made.refl (sound : fs.Sound) {names : List String}
    (there : fs.node? (base ++ names) = some .directory) : fs.Made fs base names where
  sound := sound
  fresh := Nat.le_refl _
  working := rfl
  made front le := by
    obtain ⟨back, rfl⟩ := le
    by_cases whole : back = []
    · rw [whole, List.append_nil] at there
      exact there
    · rw [← List.append_assoc] at there
      exact sound.directory_above whole there
  rest _ _ := rfl
  contents := rfl

theorem Made.directories {names : List String} (made : fs.Made fs' base names) (place : Place)
    (there : fs.node? place = some .directory) : fs'.node? place = some .directory := by
  by_cases inside : ∃ front, front <+: names ∧ base ++ front = place
  · obtain ⟨front, le, rfl⟩ := inside
    exact made.made front le
  · rw [made.rest place fun front le same => inside ⟨front, le, same⟩, there]

theorem Made.file_iff {names : List String} (made : fs.Made fs' base names)
    (clear : fs.Clear base names) (p : Place) (n : Nat) :
    fs'.node? p = some (.file n) ↔ fs.node? p = some (.file n) := by
  by_cases inside : ∃ front, front <+: names ∧ base ++ front = p
  · obtain ⟨front, le, rfl⟩ := inside
    rw [made.made front le]
    exact ⟨nofun, fun file => absurd file (clear front le n)⟩
  · rw [made.rest p fun front le same => inside ⟨front, le, same⟩]

/-- One more directory. -/
theorem Made.insert (made : fs.Made fs' base front) (last : String) :
    fs.Made { fs' with nodes := fs'.nodes.insert (base ++ (front ++ [last])) .directory } base
      (front ++ [last]) := by
  have below : base ++ (front ++ [last]) ≠ [] := by simp
  have nodes := node?_insert fs' below .directory
  refine ⟨⟨?_, made.fresh, made.working⟩, fun before le => ?_, fun p outside => ?_, made.contents⟩
  · rw [← List.append_assoc] at nodes ⊢
    exact made.sound.set nodes (made.made front (List.prefix_refl front)) (fun _ => rfl) nofun
      (Nat.le_refl _)
  · rw [nodes]
    split
    · rfl
    · rename_i other
      rcases List.prefix_concat_iff.1 le with whole | shorter
      · exact absurd (by rw [whole]) other
      · exact made.made before shorter
  · rw [nodes, if_neg (outside _ (List.prefix_refl _))]
    exact made.rest p fun before le => outside before (le.trans (List.prefix_append front [last]))

theorem makeAllAt_of_directory {start : Place} {names : List String}
    (walked : fs.walk start names = .ok place) (there : fs.node? place = some .directory) :
    fs.makeAllAt start names.reverse = (.ok (), fs) := by
  cases backwards : names.reverse with
  | nil => rfl
  | cons name above =>
    have forwards : (name :: above).reverse = names := by rw [← backwards, List.reverse_reverse]
    have known : fs.makeAt start names = .error .alreadyExists := by
      unfold makeAt
      rw [walked]
      dsimp only [bind, Except.bind]
      rw [there]
    have directory : fs.isDirectoryAt start names = true := by
      unfold isDirectoryAt
      rw [walked]
      exact decide_eq_true there
    unfold makeAllAt
    simp only [forwards, known, directory, ↓reduceIte]

/-- The last directory can be made once those above it are there. -/
theorem Made.makeAt_below {fs₁ : FileSystem} (made : fs.Made fs₁ base front) {start : Place}
    {above : List String} (walked : fs.walk start above = .ok base)
    (directory : fs.node? base = some .directory)
    (components : ∀ name ∈ front ++ [last], Path.IsComponent name)
    (new : fs.node? (base ++ (front ++ [last])) = none) :
    ∃ fs', fs₁.makeAt start (above ++ (front ++ [last])) = .ok fs' ∧
      fs.Made fs' base (front ++ [last]) := by
  have clear : fs₁.Clear base front := fun before le n file => by
    rw [made.made before le] at file
    cases file
  have new' : fs₁.node? (base ++ (front ++ [last])) = none := by
    rw [made.rest _ fun before le same => ?_, new]
    have := le.length_le
    have := congrArg List.length (List.append_cancel_left same)
    simp at this
    omega
  have there := made.sound.walk_on (walk_mono made.directories walked)
    (made.directories base directory) components clear
  rw [if_pos (made.made front (List.prefix_refl front))] at there
  refine ⟨_, ?_, made.insert last⟩
  unfold makeAt
  rw [there]
  dsimp only [bind, Except.bind]
  rw [new']

/-- What is missing is made, whatever is there already. -/
theorem makeAllAt_below (sound : fs.Sound) {start : Place} {above names : List String}
    (walked : fs.walk start above = .ok base) (directory : fs.node? base = some .directory)
    (components : ∀ name ∈ names, Path.IsComponent name) (clear : fs.Clear base names) :
    ∃ fs', fs.makeAllAt start (above ++ names).reverse = (.ok (), fs') ∧
      fs.Made fs' base names := by
  induction names using List.reverseRecOn with
  | nil =>
    rw [List.append_nil]
    refine ⟨fs, makeAllAt_of_directory walked directory, .refl sound ?_⟩
    rw [List.append_nil, directory]
  | append_singleton front last ih =>
    have here := sound.walk_on walked directory components clear.left
    cases found : fs.node? (base ++ (front ++ [last])) with
    | some node =>
      have up : fs.node? (base ++ front) = some .directory := by
        rw [← List.append_assoc] at found
        exact sound.closed found
      cases node with
      | file n => exact absurd found (clear _ (List.prefix_refl _) n)
      | directory =>
        rw [if_pos up] at here
        exact ⟨fs, makeAllAt_of_directory here found, .refl sound found⟩
    | none =>
      have backwards : (above ++ (front ++ [last])).reverse = last :: (above ++ front).reverse := by
        simp
      have forwards : (last :: (above ++ front).reverse).reverse = above ++ (front ++ [last]) := by
        simp
      rw [backwards, makeAllAt, forwards]
      by_cases up : fs.node? (base ++ front) = some .directory
      · obtain ⟨fs', stepped, made⟩ :=
          (Made.refl sound up).makeAt_below walked directory components found
        exact ⟨fs', by rw [stepped], made⟩
      · obtain ⟨fs₁, ran, made⟩ :=
          ih (fun name mem => components name (List.mem_append_left _ mem)) clear.left
        obtain ⟨fs', stepped, made⟩ := made.makeAt_below walked directory components found
        have missing : fs.makeAt start (above ++ (front ++ [last])) = .error .notFound := by
          unfold makeAt
          rw [here, if_neg up]
          rfl
        exact ⟨fs', by simp only [missing, ran, stepped], made⟩

end StreamGate.FileSystem
