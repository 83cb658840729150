import StreamGate.Proofs.Storage.Places

/-!
# Paths below a directory

A directory that has a path need not be there yet.  As long as its path says ordinary names
from some place on, those names say where it will be, and every path below it is known to
lead there.

* `FileSystem.Leads`: where the directory of a path is, or will be.
* `FileSystem.EndsAt`: a path that ends at a directory, so names may follow.
* `Leads.locate_eq`, `Leads.find_clear`, `Leads.find_blocked`: what a path below it leads to.
* `Leads.makeDirectories_below`: directories are made, unless a file is in the way.
-/

namespace StreamGate.FileSystem

variable {fs fs' : FileSystem} {path : String} {base place : Place}
  {rest front names : List String} {last : String}

/-! ## Names behind a path -/

theorem foldl_join_append (path : String) (front : List String) (last : String) :
    (front ++ [last]).foldl Path.join path = Path.join (front.foldl Path.join path) last := by
  rw [List.foldl_append]
  rfl

/-- What a path says with names behind it. -/
theorem parse_below (components : ∀ name ∈ front ++ [last], Path.IsComponent name) :
    Path.parse ((front ++ [last]).foldl Path.join path) =
      ⟨(Path.parse path).absolute, (Path.parse path).names ++ (front ++ [last]), false, false⟩ := by
  obtain ⟨absolute, names⟩ :=
    Path.parse_foldl_join (fun name mem => components name (List.mem_append_left _ mem)) path
  rw [foldl_join_append, Path.parse_join (components last (by simp)), absolute, names,
    List.append_assoc]

/-- The directory that a path starts from. -/
def startOf (fs : FileSystem) (path : String) : Place :=
  if (Path.parse path).absolute then [] else fs.workingDirectory

/-- The errors that a path means by itself, wherever it would lead. -/
def refused? (path : String) : Option IoError :=
  if path.toList.contains '\x00' then some .nulInPath
  else if path = "" then some .notFound
  else if maxPath < path.utf8ByteSize then some .nameTooLong
  else none

theorem locate_eq (fs : FileSystem) (path : String) : fs.locate path =
    match refused? path with
    | some e => .error e
    | none => fs.walk (fs.startOf path) (Path.parse path).names := by
  unfold locate refused?
  by_cases nul : path.toList.contains '\x00'
  · simp only [nul, if_true]
  · by_cases empty : path = ""
    · simp only [empty, if_true]
      rfl
    · by_cases long : maxPath < path.utf8ByteSize
      · simp only [nul, empty, long, if_true, if_false, Bool.false_eq_true]
      · simp only [nul, empty, long, if_false, Bool.false_eq_true]
        rfl

/-- A path that ends in a name leads to whatever is at its place. -/
theorem find_eq_of_named (named : (Path.parse path).endsInDirectory = false) (fs : FileSystem) :
    fs.find path =
      match fs.locate path with
      | .error e => .error e
      | .ok place =>
        match fs.node? place with
        | none => .error .notFound
        | some node => .ok node := by
  unfold find
  cases fs.locate path with
  | error e => rfl
  | ok place =>
    dsimp only [bind, Except.bind]
    cases fs.node? place with
    | none => rfl
    | some node =>
      cases node with
      | directory => rfl
      | file n => rw [named]; rfl

/-! ## Where directories will be -/

/-- Where the directory of a path is, or will be when it is made: up to `base` it is there,
and from there on the path says ordinary names. -/
structure Leads (fs : FileSystem) (path : String) (base : Place) (rest : List String) : Prop where
  walked : ∃ above, (Path.parse path).names = above ++ rest ∧
    fs.walk (fs.startOf path) above = .ok base
  directory : fs.node? base = some .directory
  components : ∀ name ∈ rest, Path.IsComponent name

theorem Leads.mono (leads : fs.Leads path base rest)
    (keeps : ∀ place, fs.node? place = some .directory → fs'.node? place = some .directory)
    (working : fs'.workingDirectory = fs.workingDirectory) : fs'.Leads path base rest where
  walked := by
    obtain ⟨above, said, walked⟩ := leads.walked
    have start : fs'.startOf path = fs.startOf path := by rw [startOf, working, startOf]
    exact ⟨above, said, start ▸ walk_mono keeps walked⟩
  directory := keeps base leads.directory
  components := leads.components

section Below

variable (leads : fs.Leads path base rest)
  (components : ∀ name ∈ front ++ [last], Path.IsComponent name)

include leads components

theorem Leads.all_components : ∀ name ∈ (rest ++ front) ++ [last], Path.IsComponent name := by
  intro name mem
  rw [List.append_assoc, List.mem_append] at mem
  exact mem.elim (leads.components name) (components name)

/-- The walk to a place below. -/
theorem Leads.locate_eq : fs.locate ((front ++ [last]).foldl Path.join path) =
    match refused? ((front ++ [last]).foldl Path.join path) with
    | some e => .error e
    | none => fs.walk base ((rest ++ front) ++ [last]) := by
  obtain ⟨above, said, walked⟩ := leads.walked
  rw [FileSystem.locate_eq, startOf, parse_below components]
  have more : (rest ++ front) ++ [last] ≠ [] := by simp
  have onward := walk_append walked leads.directory more
  rw [said, List.append_assoc, ← List.append_assoc rest, ← onward]
  rfl

/-- What a path below leads to, with no file in the way. -/
theorem Leads.find_clear (sound : fs.Sound) (clear : fs.Clear base (rest ++ front))
    (fine : refused? ((front ++ [last]).foldl Path.join path) = none) :
    fs.find ((front ++ [last]).foldl Path.join path) =
      match fs.node? (base ++ ((rest ++ front) ++ [last])) with
      | none => .error .notFound
      | some node => .ok node := by
  rw [find_eq_of_named (by rw [parse_below components]), leads.locate_eq components, fine]
  dsimp only
  rw [sound.walk_below leads.directory (leads.all_components components) clear]
  by_cases there : fs.node? (base ++ (rest ++ front)) = some .directory
  · rw [if_pos there]
  · have below : fs.node? (base ++ ((rest ++ front) ++ [last])) = none := by
      rw [← List.append_assoc]
      exact sound.nothing_below there (by simp)
    rw [if_neg there, below]

/-- With a file in the way, a path below leads nowhere, whatever is there. -/
theorem Leads.find_blocked (sound : fs.Sound) (blocked : ¬ fs.Clear base (rest ++ front))
    (fine : refused? ((front ++ [last]).foldl Path.join path) = none) :
    fs.find ((front ++ [last]).foldl Path.join path) = .error .notDirectory := by
  rw [find_eq_of_named (by rw [parse_below components]), leads.locate_eq components, fine]
  dsimp only
  rw [sound.walk_blocked leads.directory (leads.all_components components) blocked]

/-- A place below that is found is where the names say, in a directory. -/
theorem Leads.locate_ok
    (located : fs.locate ((front ++ [last]).foldl Path.join path) = .ok place) :
    place = base ++ ((rest ++ front) ++ [last]) ∧
      fs.node? (base ++ (rest ++ front)) = some .directory ∧
      refused? ((front ++ [last]).foldl Path.join path) = none := by
  rw [leads.locate_eq components] at located
  split at located
  · cases located
  · rename_i fine
    obtain ⟨here, above⟩ :=
      walk_ok_below leads.directory (leads.all_components components) located
    exact ⟨here, above, fine⟩

theorem Leads.locate_clear (sound : fs.Sound) (clear : fs.Clear base (rest ++ front))
    (fine : refused? ((front ++ [last]).foldl Path.join path) = none)
    (there : fs.node? (base ++ (rest ++ front)) = some .directory) :
    fs.locate ((front ++ [last]).foldl Path.join path) =
      .ok (base ++ ((rest ++ front) ++ [last])) := by
  rw [leads.locate_eq components, fine]
  dsimp only
  rw [sound.walk_below leads.directory (leads.all_components components) clear, if_pos there]

/-- Directories are made, whatever is there already, unless a file is in the way. -/
theorem Leads.makeDirectories_below (sound : fs.Sound)
    (clear : fs.Clear base (rest ++ (front ++ [last])))
    (fine : refused? ((front ++ [last]).foldl Path.join path) = none) :
    ∃ fs', fs.makeDirectories ((front ++ [last]).foldl Path.join path) = (.ok (), fs') ∧
      fs.Made fs' base (rest ++ (front ++ [last])) := by
  obtain ⟨above, said, walked⟩ := leads.walked
  have ordinary : ∀ name ∈ rest ++ (front ++ [last]), Path.IsComponent name := by
    rw [← List.append_assoc]
    exact leads.all_components components
  obtain ⟨fs', ran, made⟩ := makeAllAt_below sound walked leads.directory ordinary clear
  refine ⟨fs', ?_, made⟩
  unfold refused? at fine
  unfold makeDirectories
  rw [parse_below components]
  split at fine
  · cases fine
  · rename_i noNul
    split at fine
    · cases fine
    · split at fine
      · cases fine
      · rename_i short
        simp only [noNul, short, Bool.false_eq_true, if_false]
        rw [said, List.append_assoc]
        exact ran

end Below

/-! ## Directories that are there -/

/-- A path ends at a directory, so names may follow. -/
structure EndsAt (fs : FileSystem) (path : String) (base : Place) : Prop where
  noNul : '\x00' ∉ path.toList
  walked : fs.walk (if (Path.parse path).absolute then [] else fs.workingDirectory)
    (Path.parse path).names = .ok base
  directory : fs.node? base = some .directory

theorem EndsAt.mono (ends : fs.EndsAt path base)
    (keeps : ∀ place, fs.node? place = some .directory → fs'.node? place = some .directory)
    (working : fs'.workingDirectory = fs.workingDirectory) : fs'.EndsAt path base where
  noNul := ends.noNul
  walked := by
    rw [working]
    exact walk_mono keeps ends.walked
  directory := keeps base ends.directory

theorem EndsAt.leads (ends : fs.EndsAt path base) : fs.Leads path base [] where
  walked := ⟨_, (List.append_nil _).symm, ends.walked⟩
  directory := ends.directory
  components := by simp

/-- A path that is made of ordinary names and not too long. -/
theorem EndsAt.refused?_eq_none (ends : fs.EndsAt path base)
    (components : ∀ name ∈ front ++ [last], Path.IsComponent name)
    (fits : ((front ++ [last]).foldl Path.join path).utf8ByteSize ≤ maxPath) :
    refused? ((front ++ [last]).foldl Path.join path) = none := by
  have noNul := Path.noNul_foldl_join components ends.noNul
  have some : (front ++ [last]).foldl Path.join path ≠ "" := by
    rw [foldl_join_append]
    exact Path.join_ne_empty (components last (by simp)) _
  unfold refused?
  simp only [List.contains_eq_mem, noNul, decide_false, Bool.false_eq_true, if_false, some,
    Nat.not_lt.2 fits]

end StreamGate.FileSystem
