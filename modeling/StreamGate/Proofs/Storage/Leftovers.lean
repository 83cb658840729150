import StreamGate.Proofs.Storage.Roots

/-!
# What is left behind

A change to a tree that makes directories along some names and touches nothing else but a few
names at their end.  Every other path leads to what it led to.

* `FileSystem.Spilled`: all that changed.
* `Made.spilled`, `Created.spilled`, `spilled_setContent`, `Renamed.spilled`: what the operations
  leave behind.
* `Spilled.find_eq`: other paths lead to the same.
* `Approach.spilled_makeAt`: directories are made where the names say.
-/

namespace StreamGate.FileSystem

variable {fs fs' fs₁ : FileSystem} {path : String} {start base place : Place}
  {above trail names names' rest front : List String} {last : String}

/-! ## What is left behind -/

/-- A place that is none of some names at the end of a trail. -/
def Outside (base : Place) (trail names : List String) (p : Place) : Prop :=
  ∀ name ∈ names, base ++ (trail ++ [name]) ≠ p

/-- All that changed: directories were made along a trail, and files have come or gone, or have
other content, under some names at the end of it. -/
structure Spilled (base : Place) (trail names : List String) (fs fs' : FileSystem) : Prop
    extends fs.Onward fs' where
  directories : ∀ p, fs.node? p = some .directory → fs'.node? p = some .directory
  nodes : ∀ p, Outside base trail names p → fs'.node? p = fs.node? p ∨
    fs.node? p = none ∧ fs'.node? p = some .directory ∧ ∃ front, front <+: trail ∧ base ++ front = p
  free : ∀ name, fs.node? (base ++ (trail ++ [name])) ≠ some .directory →
    fs'.node? (base ++ (trail ++ [name])) ≠ some .directory
  contents : ∀ p n, Outside base trail names p → fs.node? p = some (.file n) →
    fs'.content n = fs.content n

/-- What is not further down than the trail is not under names at its end. -/
theorem outside_of_length_le (base : Place) (names : List String)
    (short : front.length ≤ trail.length) : Outside base trail names (base ++ front) := by
  intro name _ same
  have length := congrArg List.length (List.append_cancel_left same)
  simp only [List.length_append, List.length_singleton] at length
  omega

theorem not_on_trail (base : Place) (short : trail.length ≤ names.length) (name : String) :
    ¬ ∃ front, front <+: trail ∧ base ++ front = base ++ (names ++ [name]) := by
  rintro ⟨front, le, same⟩
  have length := congrArg List.length (List.append_cancel_left same)
  have := le.length_le
  simp only [List.length_append, List.length_singleton] at length
  omega

theorem Spilled.refl (sound : fs.Sound) : Spilled base trail names fs fs where
  sound := sound
  fresh := Nat.le_refl _
  working := rfl
  directories _ there := there
  nodes _ _ := .inl rfl
  free _ free := free
  contents _ _ _ _ := rfl

theorem Spilled.file_iff (spilled : Spilled base trail names fs fs')
    (outside : Outside base trail names place) (n : Nat) :
    fs'.node? place = some (.file n) ↔ fs.node? place = some (.file n) := by
  rcases spilled.nodes place outside with same | ⟨none, directory, -⟩
  · rw [same]
  · rw [none, directory]
    exact ⟨nofun, nofun⟩

theorem Spilled.trans (first : Spilled base trail names fs fs₁)
    (second : Spilled base trail names fs₁ fs') : Spilled base trail names fs fs' where
  sound := second.sound
  fresh := Nat.le_trans first.fresh second.fresh
  working := second.working.trans first.working
  directories p there := second.directories p (first.directories p there)
  nodes p outside := by
    rcases second.nodes p outside with same | ⟨none, directory, on⟩
    · rw [same]
      exact first.nodes p outside
    · rcases first.nodes p outside with before | ⟨-, between, -⟩
      · exact .inr ⟨before ▸ none, directory, on⟩
      · rw [none] at between
        cases between
  free name free := second.free name (first.free name free)
  contents p n outside file := by
    rw [second.contents p n outside ((first.file_iff outside n).2 file),
      first.contents p n outside file]

/-- The changes may be under more names. -/
theorem Spilled.mono (spilled : Spilled base trail names fs fs') (more : names ⊆ names') :
    Spilled base trail names' fs fs' where
  toOnward := spilled.toOnward
  directories := spilled.directories
  nodes p outside := spilled.nodes p fun name mem => outside name (more mem)
  free := spilled.free
  contents p n outside := spilled.contents p n fun name mem => outside name (more mem)

/-- No file is in the way of what was reached in the end. -/
theorem Spilled.clear_of_directory (spilled : Spilled base trail names fs fs')
    (there : fs'.node? (base ++ trail) = some .directory) : fs.Clear base trail := by
  intro front le n file
  have kept := (spilled.file_iff (outside_of_length_le base names le.length_le) n).2 file
  obtain ⟨back, rfl⟩ := le
  by_cases whole : back = []
  · rw [whole, List.append_nil, kept] at there
    cases there
  · rw [← List.append_assoc] at there
    rw [spilled.sound.directory_above whole there] at kept
    cases kept

/-- Files are in the way exactly where they were. -/
theorem Spilled.clear_iff (spilled : Spilled base trail names fs fs')
    (short : rest.length ≤ trail.length) : fs'.Clear base rest ↔ fs.Clear base rest := by
  have same {front : List String} (le : front <+: rest) (n : Nat) :=
    spilled.file_iff (outside_of_length_le base names (Nat.le_trans le.length_le short)) n
  constructor
  · exact fun clear front le n file => clear front le n ((same le n).2 file)
  · exact fun clear front le n file => clear front le n ((same le n).1 file)

/-! ## Steps -/

/-- One more directory on the trail. -/
theorem spilled_insert (sound : fs.Sound) (le : front ++ [last] <+: trail)
    (parent : fs.node? (base ++ front) = some .directory)
    (new : fs.node? (base ++ (front ++ [last])) = none) :
    Spilled base trail names fs
      { fs with nodes := fs.nodes.insert (base ++ (front ++ [last])) .directory } := by
  have below : base ++ (front ++ [last]) ≠ [] := by simp
  have nodes := node?_insert fs below .directory
  refine ⟨⟨?_, Nat.le_refl _, rfl⟩, fun p there => ?_, fun p _ => ?_, fun name free => ?_,
    fun _ _ _ _ => rfl⟩
  · rw [← List.append_assoc] at nodes ⊢
    exact sound.set nodes parent (fun _ => rfl) nofun (Nat.le_refl _)
  · rw [nodes]
    split
    · rfl
    · exact there
  · rw [nodes]
    split
    · rename_i here
      exact .inr ⟨here ▸ new, rfl, _, le, here⟩
    · exact .inl rfl
  · rw [nodes, if_neg]
    · exact free
    · exact fun same => not_on_trail base (Nat.le_refl _) name ⟨_, le, same⟩

theorem Made.spilled (clear : fs.Clear base trail) (made : fs.Made fs' base trail) :
    Spilled base trail names fs fs' where
  toOnward := made.toOnward
  directories := made.directories
  nodes p _ := by
    by_cases inside : ∃ front, front <+: trail ∧ base ++ front = p
    · obtain ⟨front, le, rfl⟩ := inside
      have there := made.made front le
      cases before : fs.node? (base ++ front) with
      | none => exact .inr ⟨rfl, there, front, le, rfl⟩
      | some node =>
        cases node with
        | directory => exact .inl there
        | file n => exact absurd before (clear front le n)
    · exact .inl (made.rest p fun front le same => inside ⟨front, le, same⟩)
  free name free := by
    rwa [made.rest _ fun front le same => not_on_trail base (Nat.le_refl _) name ⟨front, le, same⟩]
  contents p n _ _ := content_of_contents made.contents n

theorem Created.spilled {name : String} {n : Nat} (sound : fs.Sound)
    (created : fs.Created fs' (base ++ (trail ++ [name])) n) (mem : name ∈ names) :
    Spilled base trail names fs fs' := by
  refine ⟨created.toOnward, fun p there => ?_, fun p outside => ?_, fun other free => ?_,
    fun p m outside file => ?_⟩
  · rw [created.nodes, if_neg, there]
    rintro rfl
    rcases created.number with file | ⟨none, -⟩
    · rw [there] at file
      cases file
    · rw [there] at none
      cases none
  · rw [created.nodes, if_neg (outside name mem)]
    exact .inl rfl
  · rw [created.nodes]
    split
    · nofun
    · exact free
  · rw [created.content, if_neg]
    rintro rfl
    rcases created.number with own | ⟨-, new⟩
    · exact outside name mem (sound.single own file)
    · exact absurd (sound.fresh file) (by omega)

/-- Only the content of a file under one of the names changes. -/
theorem spilled_setContent {name : String} {n : Nat} (sound : fs.Sound) (mem : name ∈ names)
    (held : fs.node? (base ++ (trail ++ [name])) = some (.file n)) (bytes : Bytes) :
    Spilled base trail names fs (fs.setContent n bytes) := by
  refine ⟨⟨sound.of_nodes (fun _ => rfl) (Nat.le_refl _), Nat.le_refl _, rfl⟩,
    fun _ there => there, fun _ _ => .inl rfl, fun _ free => free, fun p m outside file => ?_⟩
  rw [content_setContent, if_neg]
  rintro rfl
  exact outside name mem (sound.single held file)

theorem Renamed.spilled {name name' : String} {n : Nat}
    (renamed : fs.Renamed fs' (base ++ (trail ++ [name])) (base ++ (trail ++ [name'])) n)
    (held : fs.node? (base ++ (trail ++ [name])) = some (.file n))
    (free : fs.node? (base ++ (trail ++ [name'])) ≠ some .directory) (mem : name ∈ names)
    (mem' : name' ∈ names) : Spilled base trail names fs fs' := by
  refine ⟨renamed.toOnward, fun p there => ?_, fun p outside => ?_, fun other free => ?_,
    fun p m _ _ => content_of_contents renamed.contents m⟩
  · rw [renamed.nodes, if_neg, if_neg, there]
    · rintro rfl
      rw [held] at there
      cases there
    · rintro rfl
      exact free there
  · rw [renamed.nodes, if_neg (outside name' mem'), if_neg (outside name mem)]
    exact .inl rfl
  · rw [renamed.nodes]
    split
    · nofun
    · split
      · nofun
      · exact free

/-! ## Other paths -/

/-- A path leads to what it led to if it leads as far down as the names that were touched, and
to none of them. -/
theorem Spilled.find_eq (spilled : Spilled base trail names fs fs')
    (leads : fs.Leads path base rest) (sound : fs.Sound)
    (components : ∀ name ∈ front ++ [last], Path.IsComponent name)
    (level : (rest ++ front).length = trail.length)
    (outside : Outside base trail names (base ++ ((rest ++ front) ++ [last]))) :
    fs'.find ((front ++ [last]).foldl Path.join path) =
      fs.find ((front ++ [last]).foldl Path.join path) := by
  have named : (Path.parse ((front ++ [last]).foldl Path.join path)).endsInDirectory = false := by
    rw [parse_below components]
  have leads' := leads.mono spilled.directories spilled.working
  cases fine : refused? ((front ++ [last]).foldl Path.join path) with
  | some e =>
    rw [find_eq_of_named named, find_eq_of_named named, leads'.locate_eq components,
      leads.locate_eq components, fine]
  | none =>
    by_cases clear : fs.Clear base (rest ++ front)
    · have clear' := (spilled.clear_iff (Nat.le_of_eq level)).2 clear
      rw [leads'.find_clear components spilled.sound clear' fine,
        leads.find_clear components sound clear fine]
      rcases spilled.nodes _ outside with same | ⟨-, -, on⟩
      · rw [same]
      · exact absurd on (not_on_trail base (Nat.le_of_eq level.symm) last)
    · have blocked := mt (spilled.clear_iff (Nat.le_of_eq level)).1 clear
      rw [leads'.find_blocked components spilled.sound blocked fine,
        leads.find_blocked components sound clear fine]

/-! ## Making directories -/

/-- A walk to a directory, and ordinary names before it. -/
structure Approach (start : Place) (above : List String) (base : Place) (trail : List String)
    (fs : FileSystem) : Prop where
  sound : fs.Sound
  origin : fs.node? start = some .directory
  walked : fs.walk start above = .ok base
  directory : fs.node? base = some .directory
  components : ∀ name ∈ trail, Path.IsComponent name

theorem Approach.onward (approach : Approach start above base trail fs)
    (spilled : Spilled base trail names fs fs') : Approach start above base trail fs' where
  sound := spilled.sound
  origin := spilled.directories _ approach.origin
  walked := walk_mono spilled.directories approach.walked
  directory := spilled.directories _ approach.directory
  components := approach.components

theorem Sound.directory_dropLast (sound : fs.Sound) (there : fs.node? place = some .directory) :
    fs.node? place.dropLast = some .directory := by
  rcases List.eq_nil_or_concat place with rfl | ⟨dir, name, rfl⟩
  · exact there
  · rw [List.concat_eq_append] at there ⊢
    rw [List.dropLast_concat]
    exact sound.closed there

/-- A walk that goes on has come through directories only. -/
theorem Sound.walk_through (sound : fs.Sound) (origin : fs.node? start = some .directory)
    (more : rest ≠ []) (walked : fs.walk start (above ++ rest) = .ok place) :
    ∃ mid, fs.walk start above = .ok mid ∧ fs.node? mid = some .directory := by
  induction above generalizing start with
  | nil => exact ⟨start, by rw [walk], origin⟩
  | cons name above ih =>
    rw [List.cons_append, walk_cons (by simp [more])] at walked
    have step {next : Place} (moved : ∀ behind, behind ≠ [] →
          fs.walk start (name :: behind) = fs.walk next behind)
        (single : fs.walk start [name] = .ok next) (there : fs.node? next = some .directory)
        (onward : fs.walk next (above ++ rest) = .ok place) :
        ∃ mid, fs.walk start (name :: above) = .ok mid ∧ fs.node? mid = some .directory := by
      by_cases first : above = []
      · exact ⟨next, by rw [first, single], there⟩
      · rw [moved above first]
        exact ih there onward
    by_cases up : name = ".."
    · rw [if_pos up] at walked
      refine step (fun behind some => ?_) ?_ (sound.directory_dropLast origin) walked
      · rw [walk_cons some, if_pos up]
      · rw [walk_singleton, if_pos up]
    · rw [if_neg up] at walked
      split at walked
      · cases walked
      · rename_i short
        split at walked
        · cases walked
        · cases walked
        · rename_i there
          refine step (fun behind some => ?_) ?_ there walked
          · rw [walk_cons some, if_neg up, if_neg short, there]
          · rw [walk_singleton, if_neg up, if_neg short]

/-- A directory is made only where the names of the trail say. -/
theorem Approach.spilled_makeAt (approach : Approach start above base trail fs)
    (le : rest <+: above ++ trail) (made : fs.makeAt start rest = .ok fs') :
    Spilled base trail names fs fs' := by
  obtain ⟨sound, origin, walked, directory, components⟩ := approach
  unfold makeAt at made
  cases reached : fs.walk start rest with
  | error e =>
    rw [reached] at made
    cases made
  | ok place =>
    rw [reached] at made
    dsimp only [bind, Except.bind] at made
    split at made
    · cases made
    · rename_i new
      cases made
      rcases List.prefix_or_prefix_of_prefix le (List.prefix_append above trail) with
        ⟨more, rfl⟩ | ⟨front, rfl⟩
      · by_cases whole : more = []
        · rw [whole, List.append_nil, reached] at walked
          cases walked
          rw [directory] at new
          cases new
        · obtain ⟨mid, same, there⟩ := sound.walk_through origin whole walked
          rw [reached] at same
          cases same
          rw [there] at new
          cases new
      · have le : front <+: trail := (List.prefix_append_right_inj above).1 le
        rcases List.eq_nil_or_concat front with rfl | ⟨before, last, rfl⟩
        · rw [List.append_nil, walked] at reached
          cases reached
          rw [directory] at new
          cases new
        · rw [List.concat_eq_append] at le reached
          rw [walk_append walked directory (by simp)] at reached
          obtain ⟨rfl, parent⟩ := walk_ok_below directory
            (fun name mem => components name (le.subset mem)) reached
          exact spilled_insert sound le parent new

end StreamGate.FileSystem
