import StreamGate.Proofs.Storage.Leftovers
import StreamGate.Proofs.Storage.Outages
import StreamGate.Proofs.Storage.Serving

/-!
# Puts that break off

Wherever a put breaks off, it leaves no more behind than directories and a temporary file.
Neither is where any block is looked for, so nobody can tell, and the next put of the block
finds nothing in its way.

* `Directory.SameAnswers`, `Directory.Shows`: what can be told of a block.
* `Directory.putUnder_spec`: what a put comes to, whichever of its calls fail.
* `Directory.put_ok_iff`: when a put goes well.
* `Directory.unseen_until_renamed`: a put that breaks off is not seen.
* `Directory.seen_in_other_blocks`: where it could be seen.
-/

namespace StreamGate

namespace System

variable {out : Outages} {s : System} {start base : Place} {above trail exempt : List String}

/-- A change that is tried is made, or the files stay as they are. -/
theorem call_attempt (out : Outages) (change : FileSystem → Except IoError FileSystem)
    (s : System) :
    (∃ e, s.call out (FileSystem.attempt change) = (.error e, s.next s.files)) ∨
      ∃ fs, change s.files = .ok fs ∧
        s.call out (FileSystem.attempt change) = (.ok (), s.next fs) := by
  unfold call FileSystem.attempt
  cases out s.calls with
  | some e => exact .inl ⟨e, rfl⟩
  | none =>
    cases changed : change s.files with
    | error e => exact .inl ⟨e, rfl⟩
    | ok fs => exact .inr ⟨fs, rfl, rfl⟩

theorem files_unlessThere (out : Outages) (start : Place) (names : List String) (e : IoError)
    (s : System) : (s.unlessThere out start names e).2.files = s.files := by
  have asked : (s.call out fun fs => (.ok (fs.isDirectoryAt start names), fs)).2.files =
      s.files := by
    unfold call
    cases out s.calls <;> rfl
  unfold unlessThere
  split
  · rename_i told
    rw [told] at asked
    exact asked
  · rename_i told
    rw [told] at asked
    exact asked

/-- Whichever calls fail, directories are made along the trail only. -/
theorem makeAll_spilled {names : List String} (le : names.reverse <+: above ++ trail)
    (approach : s.files.Approach start above base trail) :
    s.files.Spilled base trail exempt (s.makeAll out start names).2.files := by
  induction names generalizing s with
  | nil => exact .refl approach.sound
  | cons name up ih =>
    have le' : up.reverse <+: above ++ trail := by
      rw [List.reverse_cons] at le
      exact (List.prefix_append ..).trans le
    unfold makeAll
    dsimp only
    rcases s.call_attempt out fun fs => fs.makeAt start (name :: up).reverse with
      ⟨e, ran⟩ | ⟨fs, made, ran⟩
    · rw [ran]
      cases e with
      | notFound =>
        dsimp only
        have first := ih le' (s := s.next s.files) approach
        generalize (s.next s.files).makeAll out start up = ended at first ⊢
        obtain ⟨e | done, s₁⟩ := ended
        · exact first
        · dsimp only at first ⊢
          rcases s₁.call_attempt out fun fs => fs.makeAt start (name :: up).reverse with
            ⟨e, ran⟩ | ⟨fs, made, ran⟩
          · rw [ran]
            dsimp only
            rw [files_unlessThere]
            exact first
          · rw [ran]
            exact first.trans ((approach.onward first).spilled_makeAt le made)
      | _ =>
        dsimp only
        rw [files_unlessThere]
        exact .refl approach.sound
    · rw [ran]
      exact approach.spilled_makeAt le made

theorem makeDirectories_spilled (out : Outages) {path : String}
    (said : (Path.parse path).names = above ++ trail)
    (approach : s.files.Approach (s.files.startOf path) above base trail) :
    s.files.Spilled base trail exempt (s.makeDirectories out path).2.files := by
  unfold makeDirectories
  split
  · exact .refl approach.sound
  · split
    · exact .refl approach.sound
    · have le : (Path.parse path).names.reverse.reverse <+: above ++ trail := by
        simp only [List.reverse_reverse, said, List.prefix_rfl]
      exact makeAll_spilled le approach

/-- Directories are made for paths that mean no error by themselves. -/
theorem refused?_of_makeDirectories {path : String} (some : path ≠ "")
    (made : (s.makeDirectories out path).1 = .ok ()) : FileSystem.refused? path = none := by
  unfold makeDirectories at made
  unfold FileSystem.refused?
  split at made
  · cases made
  · rename_i noNul
    split at made
    · cases made
    · rename_i short
      rw [if_neg noNul, if_neg some, if_neg short]

end System

namespace Directory

variable {d : Directory} {base : Place} {rest : List String} {ref ref' : StoreRef}
  {id id' : BlockId} {fs fs' fs₀ : FileSystem}

/-! ## What can be told of a block -/

/-- Whatever is asked about a block is answered as before. -/
structure SameAnswers (d : Directory) (ref : StoreRef) (id : BlockId) (fs fs' : FileSystem) :
    Prop where
  stat : (d.store.stat ref id fs').1 = (d.store.stat ref id fs).1
  contains : (d.store.contains ref id fs').1 = (d.store.contains ref id fs).1
  openBlock : (d.store.openBlock ref id fs').1 = (d.store.openBlock ref id fs).1
  readFile : fs'.readFile (d.blockPath ref id) = fs.readFile (d.blockPath ref id)

/-- A block is there, with all its data and nothing else. -/
structure Shows (d : Directory) (ref : StoreRef) (id : BlockId) (data : Bytes) (fs : FileSystem) :
    Prop where
  stat : (d.store.stat ref id fs).1 = .ok data.length
  contains : (d.store.contains ref id fs).1 = .ok true
  openBlock : ∃ h, (d.store.openBlock ref id fs).1 = .ok h ∧ d.store.size h = data.length
  readFile : fs.readFile (d.blockPath ref id) = .ok data

theorem SameAnswers.trans {fs₁ : FileSystem} (first : d.SameAnswers ref id fs fs₁)
    (second : d.SameAnswers ref id fs₁ fs') : d.SameAnswers ref id fs fs' where
  stat := second.stat.trans first.stat
  contains := second.contains.trans first.contains
  openBlock := second.openBlock.trans first.openBlock
  readFile := second.readFile.trans first.readFile

theorem contains_eq (d : Directory) (ref : StoreRef) (id : BlockId) (fs : FileSystem) :
    (d.store.contains ref id fs).1 = match (d.store.stat ref id fs).1 with
      | .ok _ => .ok true
      | .error e => if e.isNotFound then .ok false else .error e := by
  unfold BlockStore.contains
  generalize d.store.stat ref id fs = answer
  obtain ⟨e | size, w⟩ := answer <;> rfl

/-- All that is told of a block comes from what its path leads to. -/
theorem sameAnswers_of_find
    (found : fs'.find (d.blockPath ref id) = fs.find (d.blockPath ref id))
    (contents : ∀ n, fs.find (d.blockPath ref id) = .ok (.file n) →
      fs'.content n = fs.content n) : d.SameAnswers ref id fs fs' := by
  have sizes : ∀ node, fs.find (d.blockPath ref id) = .ok node →
      fs'.nodeSize node = fs.nodeSize node := by
    rintro (_ | n) leads
    · rfl
    · rw [FileSystem.nodeSize, FileSystem.nodeSize, contents n leads]
  have stat : (d.store.stat ref id fs').1 = (d.store.stat ref id fs).1 := by
    simp only [store, FileSystem.size]
    rw [found]
    cases leads : fs.find (d.blockPath ref id) with
    | error e => rfl
    | ok node =>
      simp only [Except.map]
      rw [sizes node leads]
  refine ⟨stat, ?_, ?_, ?_⟩
  · rw [contains_eq, contains_eq, stat]
  · simp only [store, FileSystem.openFile]
    rw [found]
    cases leads : fs.find (d.blockPath ref id) with
    | error e => rfl
    | ok node =>
      simp only [Except.map]
      rw [sizes node leads]
  · unfold FileSystem.readFile
    rw [found]
    cases leads : fs.find (d.blockPath ref id) with
    | error e => rfl
    | ok node =>
      cases node with
      | directory => rfl
      | file n =>
        show Except.ok _ = Except.ok _
        rw [contents n leads]

theorem shows_of_find {n : Nat} (found : fs.find (d.blockPath ref id) = .ok (.file n)) :
    d.Shows ref id (fs.content n) fs := by
  have stat : (d.store.stat ref id fs).1 = .ok (fs.content n).length := by
    simp only [store, FileSystem.size]
    rw [found]
    rfl
  refine ⟨stat, ?_, ⟨⟨⟨.file n, 0⟩, id, (fs.content n).length⟩, ?_, rfl⟩, ?_⟩
  · rw [contains_eq, stat]
  · simp only [store, FileSystem.openFile]
    rw [found]
    rfl
  · unfold FileSystem.readFile
    rw [found]
    rfl

/-- Whatever is asked about a block is answered as before if nothing changed at its place. -/
theorem sameAnswers_of_spilled {names : List String} (leads : fs.Leads d.root base rest)
    (sound : fs.Sound) (component : Path.IsComponent ref'.storeId)
    (spilled : fs.Spilled base (trail rest ref id) names fs')
    (outside : FileSystem.Outside base (trail rest ref id) names
      (base ++ (trail rest ref' id' ++ [id'.member]))) : d.SameAnswers ref' id' fs fs' := by
  have components := components_of component id' id'.isComponent_member
  have path : d.blockPath ref' id' =
      ([ref'.storeId, id'.group] ++ [id'.member]).foldl Path.join d.root := join_groupPath ..
  have level : (trail rest ref' id').length = (trail rest ref id).length := by simp [trail]
  have found := spilled.find_eq leads sound components level outside
  rw [← path] at found
  refine sameAnswers_of_find found fun n leadsTo => spilled.contents _ n outside ?_
  obtain ⟨place, located, file⟩ := FileSystem.locate_of_find leadsTo
  rw [path] at located
  obtain ⟨here, -⟩ := leads.locate_ok components located
  obtain rfl : place = base ++ (trail rest ref' id' ++ [id'.member]) := here
  exact file

/-! ## Whichever calls fail -/

section Calls

variable (leads : fs.Leads d.root base rest) (sound : fs.Sound)
  (component : Path.IsComponent ref.storeId)

include leads component in
/-- The names on the way to a group's directory. -/
theorem approach_group (sound : fs.Sound)
    (inside : fs.node? fs.workingDirectory = some .directory) (id : BlockId) :
    ∃ above, (Path.parse (d.groupPath ref id)).names = above ++ trail rest ref id ∧
      fs.Approach (fs.startOf (d.groupPath ref id)) above base (trail rest ref id) := by
  obtain ⟨above, said, walked⟩ := leads.walked
  have components : ∀ name ∈ [ref.storeId] ++ [id.group], Path.IsComponent name :=
    fun name mem => components_of component id id.isComponent_group name
      (List.mem_append_left [id.group] mem)
  have start : fs.startOf (d.groupPath ref id) = fs.startOf d.root := by
    rw [FileSystem.startOf, FileSystem.startOf, groupPath_eq, FileSystem.parse_below components]
  refine ⟨above, ?_, ?_⟩
  · rw [groupPath_eq, FileSystem.parse_below components, said, List.append_assoc]
    rfl
  · rw [start]
    refine ⟨sound, ?_, walked, leads.directory, fun name mem => ?_⟩
    · unfold FileSystem.startOf
      split
      · rfl
      · exact inside
    · exact (List.mem_append.1 mem).elim (leads.components name) (components name)

include leads sound component

/-- A temporary file is made where it is looked for. -/
theorem createTemporary_ok {h : FileHandle}
    (created : fs.create (d.temporaryPath ref id) = .ok (h, fs')) :
    FileSystem.refused? (d.temporaryPath ref id) = none ∧
      fs.node? (base ++ trail rest ref id) = some .directory ∧
      fs.node? (base ++ (trail rest ref id ++ [id.temporary])) ≠ some .directory ∧
      ∃ n, h = ⟨.file n, 0⟩ ∧ fs.Created fs' (base ++ (trail rest ref id ++ [id.temporary])) n := by
  have path : d.temporaryPath ref id =
      ([ref.storeId, id.group] ++ [id.temporary]).foldl Path.join d.root := join_groupPath ..
  have components := components_of component id id.isComponent_temporary
  obtain ⟨place, located, free⟩ := FileSystem.not_directory_of_create created
  have plain : (Path.parse (d.temporaryPath ref id)).endsInDirectory = false ∧
      (Path.parse (d.temporaryPath ref id)).endsInDot = false := by
    rw [path, FileSystem.parse_below components]
    exact ⟨rfl, rfl⟩
  have located' := located
  rw [path] at located'
  obtain ⟨here, parent, fine⟩ := leads.locate_ok components located'
  obtain rfl : place = base ++ (trail rest ref id ++ [id.temporary]) := here
  rw [← List.append_assoc] at located free
  obtain ⟨n, fs₁, again, spec⟩ := FileSystem.create_spec sound located parent plain free
  rw [created] at again
  cases again
  rw [List.append_assoc] at spec free
  exact ⟨path ▸ fine, parent, free, n, rfl, spec⟩

/-- The temporary file gets the name that the block is looked for by. -/
theorem publish_ok {n : Nat}
    (held : fs.node? (base ++ (trail rest ref id ++ [id.temporary])) = some (.file n))
    (renamed : fs.rename (d.temporaryPath ref id) (d.blockPath ref id) = .ok fs') :
    FileSystem.refused? (d.blockPath ref id) = none ∧
      fs.node? (base ++ (trail rest ref id ++ [id.member])) ≠ some .directory ∧
      fs.Renamed fs' (base ++ (trail rest ref id ++ [id.temporary]))
        (base ++ (trail rest ref id ++ [id.member])) n := by
  have source : d.temporaryPath ref id =
      ([ref.storeId, id.group] ++ [id.temporary]).foldl Path.join d.root := join_groupPath ..
  have target : d.blockPath ref id =
      ([ref.storeId, id.group] ++ [id.member]).foldl Path.join d.root := join_groupPath ..
  obtain ⟨m, here, there, found, origin, located, free⟩ := FileSystem.file_of_rename renamed
  have origin' := origin
  have located' := located
  rw [source] at origin'
  rw [target] at located'
  obtain ⟨old, parent, -⟩ :=
    leads.locate_ok (components_of component id id.isComponent_temporary) origin'
  obtain ⟨new, -, fine⟩ :=
    leads.locate_ok (components_of component id id.isComponent_member) located'
  obtain rfl : here = base ++ (trail rest ref id ++ [id.temporary]) := old
  obtain rfl : there = base ++ (trail rest ref id ++ [id.member]) := new
  obtain rfl : n = m := by
    have file := FileSystem.node?_of_find found origin
    rw [held] at file
    cases file
    rfl
  rw [← List.append_assoc] at located free
  obtain ⟨fs₁, again, spec⟩ := FileSystem.rename_spec sound found origin located parent free
  rw [renamed] at again
  cases again
  rw [List.append_assoc base _ [id.member]] at spec free
  exact ⟨target ▸ fine, free, spec⟩

end Calls

/-! ## What a put comes to -/

/-- A put that has its temporary file open and has written some of its data to it. -/
structure Holding (d : Directory) (base : Place) (rest : List String) (ref : StoreRef)
    (id : BlockId) (fs₀ fs : FileSystem) (n : Nat) (done : Bytes) : Prop where
  spilled : fs₀.Spilled base (trail rest ref id) [id.temporary] fs
  held : fs.node? (base ++ (trail rest ref id ++ [id.temporary])) = some (.file n)
  content : fs.content n = done
  fine : FileSystem.refused? (d.groupPath ref id) = none ∧
    FileSystem.refused? (d.temporaryPath ref id) = none
  free : fs₀.node? (base ++ (trail rest ref id ++ [id.temporary])) ≠ some .directory

/-- A put that has given its file the block's name.  There was room for the block. -/
structure Published (d : Directory) (base : Place) (rest : List String) (ref : StoreRef)
    (id : BlockId) (fs₀ fs : FileSystem) (data : Bytes) : Prop where
  room : d.Room base rest ref id fs₀
  spilled : fs₀.Spilled base (trail rest ref id) [id.temporary, id.member] fs
  file : ∃ n, fs.node? (base ++ (trail rest ref id ++ [id.member])) = some (.file n) ∧
    fs.content n = data

/-- What a put comes to: it is done, or it has left nothing but directories and a temporary
file. -/
def Comes (d : Directory) (base : Place) (rest : List String) (ref : StoreRef) (id : BlockId)
    (fs₀ : FileSystem) (data : Bytes) : Except IoError Unit → FileSystem → Prop
  | .error _, fs => fs₀.Spilled base (trail rest ref id) [id.temporary] fs
  | .ok (), fs => d.Published base rest ref id fs₀ fs data

/-- However a put ends, it has left little behind. -/
theorem Comes.spilled {data : Bytes} {r : Except IoError Unit}
    (comes : d.Comes base rest ref id fs data r fs') :
    fs.Spilled base (trail rest ref id) [id.temporary, id.member] fs' := by
  cases r with
  | error e => exact FileSystem.Spilled.mono comes (by simp)
  | ok done => exact Published.spilled comes

section Run

variable {out : Outages} {s : System} {n : Nat} {done : Bytes}

/-- A step other than making the directories changes no file if it fails. -/
theorem files_of_step_failed {p : BlockWrite} {step : BlockWrite.Step} {e : IoError}
    (single : step ≠ .makeGroup) (failed : (p.step fs step).1 = .error e) :
    (p.step fs step).2.2 = fs := by
  cases step with
  | makeGroup => exact absurd rfl single
  | sync => rfl
  | createTemporary =>
    simp only [BlockWrite.step] at failed ⊢
    cases created : fs.create p.temporary with
    | error e => rfl
    | ok opened =>
      rw [created] at failed
      cases failed
  | append bytes =>
    simp only [BlockWrite.step] at failed
    cases opened : p.file with
    | none =>
      rw [opened] at failed
      cases failed
    | some h =>
      rw [opened] at failed
      cases failed
  | publish =>
    simp only [BlockWrite.step] at failed ⊢
    cases renamed : fs.rename p.temporary p.target with
    | error e => rfl
    | ok fs' =>
      rw [renamed] at failed
      cases failed

/-- A put ends with the files as they are, or the step goes well and the put goes on. -/
theorem runUnder_cons {p : BlockWrite} {step : BlockWrite.Step} {steps : List BlockWrite.Step}
    {r : Except IoError Unit} {s' : System} (ran : p.runUnder out s (step :: steps) = (r, s'))
    (single : step ≠ .makeGroup) :
    (∃ e, r = .error e ∧ s'.files = s.files) ∨
      ∃ p' fs', p.step s.files step = (.ok (), p', fs') ∧
        p'.runUnder out (s.next fs') steps = (r, s') := by
  have called : (∃ e, p.stepUnder out s step = (.error e, p, s.next s.files)) ∨
      p.stepUnder out s step = ((p.step s.files step).1, (p.step s.files step).2.1,
        s.next (p.step s.files step).2.2) := by
    cases step with
    | makeGroup => exact absurd rfl single
    | _ =>
      unfold BlockWrite.stepUnder
      cases out s.calls with
      | some e => exact .inl ⟨e, rfl⟩
      | none => exact .inr rfl
  have unchanged : ∀ e, (p.step s.files step).1 = .error e → (p.step s.files step).2.2 = s.files :=
    fun e => files_of_step_failed single
  unfold BlockWrite.runUnder at ran
  rcases called with ⟨e, stepped⟩ | stepped
  · rw [stepped] at ran
    cases ran
    exact .inl ⟨e, rfl, rfl⟩
  · rw [stepped] at ran
    generalize p.step s.files step = did at ran unchanged ⊢
    obtain ⟨e | done, p', fs'⟩ := did
    · cases ran
      exact .inl ⟨e, rfl, unchanged e rfl⟩
    · exact .inr ⟨p', fs', rfl, ran⟩

/-- Opening the temporary file leaves it open. -/
theorem create_of_step {file : Option FileHandle} {p' : BlockWrite}
    (stepped : (d.writing ref id file).step fs .createTemporary = (.ok (), p', fs')) :
    ∃ h, fs.create (d.temporaryPath ref id) = .ok (h, fs') ∧ p' = d.writing ref id (some h) := by
  simp only [BlockWrite.step, writing, beginWrite] at stepped ⊢
  split at stepped
  · rename_i h fs₁ created
    cases stepped
    exact ⟨h, created, rfl⟩
  · cases stepped

theorem rename_of_step {file : Option FileHandle} {p' : BlockWrite}
    (stepped : (d.writing ref id file).step fs .publish = (.ok (), p', fs')) :
    fs.rename (d.temporaryPath ref id) (d.blockPath ref id) = .ok fs' := by
  simp only [BlockWrite.step, writing, beginWrite] at stepped
  split at stepped
  · rename_i fs₁ renamed
    cases stepped
    exact renamed
  · cases stepped

theorem Holding.publish (leads : fs₀.Leads d.root base rest) (sound : fs₀.Sound)
    (component : Path.IsComponent ref.storeId)
    (holding : d.Holding base rest ref id fs₀ fs n done)
    (renamed : fs.rename (d.temporaryPath ref id) (d.blockPath ref id) = .ok fs') :
    d.Published base rest ref id fs₀ fs' done := by
  have spilled := holding.spilled
  obtain ⟨fine, free, spec⟩ := publish_ok (leads.mono spilled.directories spilled.working)
    spilled.sound component holding.held renamed
  have there : fs.node? (base ++ trail rest ref id) = some .directory := by
    have held := holding.held
    rw [← List.append_assoc] at held
    exact spilled.sound.closed held
  refine ⟨⟨leads, sound, component, ?_, spilled.clear_of_directory there, ?_⟩, ?_, n, ?_, ?_⟩
  · simp only [List.forall_mem_cons, List.not_mem_nil, false_imp_iff, implies_true, and_true]
    exact ⟨holding.fine.1, holding.fine.2, fine⟩
  · simp only [List.forall_mem_cons, List.not_mem_nil, false_imp_iff, implies_true, and_true]
    exact ⟨holding.free, fun directory => free (spilled.directories _ directory)⟩
  · exact (spilled.mono (by simp)).trans
      (spec.spilled holding.held free (by simp) (by simp))
  · rw [spec.nodes, if_pos rfl]
  · rw [FileSystem.content_of_contents spec.contents, holding.content]

/-- A put that is writing, whichever of its calls fail from there on. -/
theorem Holding.comes (leads : fs₀.Leads d.root base rest) (sound : fs₀.Sound)
    (component : Path.IsComponent ref.storeId) (pieces : List Bytes)
    (holding : d.Holding base rest ref id fs₀ s.files n done) {r : Except IoError Unit}
    {s' : System}
    (ran : (d.writing ref id (some ⟨.file n, done.length⟩)).runUnder out s
      (pieces.map .append ++ [.sync, .publish]) = (r, s')) :
    d.Comes base rest ref id fs₀ (done ++ pieces.flatten) r s'.files := by
  induction pieces generalizing s done with
  | nil =>
    rw [List.map_nil, List.nil_append] at ran
    rcases runUnder_cons ran nofun with ⟨e, rfl, same⟩ | ⟨p₁, fs₁, synced, ran⟩
    · rw [same]
      exact holding.spilled
    · rw [sync_spec] at synced
      cases synced
      rcases runUnder_cons ran nofun with ⟨e, rfl, same⟩ | ⟨p₂, fs₂, stepped, ended⟩
      · rw [same]
        exact holding.spilled
      · cases ended
        rw [List.flatten_nil, List.append_nil]
        exact holding.publish leads sound component (rename_of_step stepped)
  | cons bytes pieces ih =>
    rw [List.map_cons, List.cons_append] at ran
    rcases runUnder_cons ran nofun with ⟨e, rfl, same⟩ | ⟨p₁, fs₁, stepped, ran⟩
    · rw [same]
      exact holding.spilled
    · rw [append_spec, holding.content, FileSystem.overwrite_of_length rfl,
        ← List.length_append] at stepped
      cases stepped
      rw [List.flatten_cons, ← List.append_assoc]
      have written : d.Holding base rest ref id fs₀ (s.files.setContent n (done ++ bytes)) n
          (done ++ bytes) := by
        refine ⟨?_, holding.held, ?_, holding.fine, holding.free⟩
        · exact holding.spilled.trans
            (FileSystem.spilled_setContent holding.spilled.sound (by simp) holding.held _)
        · rw [FileSystem.content_setContent, if_pos rfl]
      exact ih (s := s.next _) written ran

/-- A put whose group's directory is there, whichever of its calls fail from there on. -/
theorem comes_of_grouped (leads : fs.Leads d.root base rest) (sound : fs.Sound)
    (component : Path.IsComponent ref.storeId)
    (grouped : fs.Spilled base (trail rest ref id) [id.temporary] s.files)
    (fine : FileSystem.refused? (d.groupPath ref id) = none) (pieces : List Bytes)
    {r : Except IoError Unit} {s' : System}
    (ran : (d.writing ref id none).runUnder out s
      (.createTemporary :: (pieces.map .append ++ [.sync, .publish])) = (r, s')) :
    d.Comes base rest ref id fs pieces.flatten r s'.files := by
  rcases runUnder_cons ran nofun with ⟨e, rfl, same⟩ | ⟨p₁, fs₁, stepped, ran⟩
  · rw [same]
    exact grouped
  · obtain ⟨h, created, rfl⟩ := create_of_step stepped
    obtain ⟨fine', -, free, n, rfl, spec⟩ :=
      createTemporary_ok (leads.mono grouped.directories grouped.working) grouped.sound component
        created
    have holding : d.Holding base rest ref id fs fs₁ n [] := by
      refine ⟨grouped.trans (spec.spilled grouped.sound (by simp)), ?_, ?_, ⟨fine, fine'⟩,
        fun directory => free (grouped.directories _ directory)⟩
      · rw [spec.nodes, if_pos rfl]
      · rw [spec.content, if_pos rfl]
    exact holding.comes (s := s.next fs₁) leads sound component pieces ran

/-- What a put comes to, whichever of its calls fail. -/
theorem putUnder_spec (leads : fs.Leads d.root base rest) (sound : fs.Sound)
    (component : Path.IsComponent ref.storeId)
    (inside : fs.node? fs.workingDirectory = some .directory) (id : BlockId) (pieces : List Bytes)
    (out : Outages) :
    ∃ r, (d.putUnder out ref id pieces fs).1 = r.mapError (fun e => .io e.message) ∧
      d.Comes base rest ref id fs pieces.flatten r (d.putUnder out ref id pieces fs).2 := by
  obtain ⟨above, said, approach⟩ := approach_group leads component sound inside id
  have grouped : fs.Spilled base (trail rest ref id) [id.temporary]
      (System.makeDirectories out (d.groupPath ref id) ⟨fs, 0⟩).2.files :=
    System.makeDirectories_spilled (s := ⟨fs, 0⟩) out said approach
  have fine : (System.makeDirectories out (d.groupPath ref id) ⟨fs, 0⟩).1 = .ok () →
      FileSystem.refused? (d.groupPath ref id) = none := by
    refine System.refused?_of_makeDirectories ?_
    rw [groupPath]
    exact Path.join_ne_empty id.isComponent_group _
  unfold putUnder
  generalize ran : (d.beginWrite ref id).runUnder out ⟨fs, 0⟩ (BlockWrite.steps pieces) = ended
  obtain ⟨r, s'⟩ := ended
  refine ⟨r, rfl, ?_⟩
  rw [BlockWrite.steps, ← writing_none, BlockWrite.runUnder] at ran
  have grouping : (d.writing ref id none).stepUnder out ⟨fs, 0⟩ .makeGroup =
      ((System.makeDirectories out (d.groupPath ref id) ⟨fs, 0⟩).1, d.writing ref id none,
        (System.makeDirectories out (d.groupPath ref id) ⟨fs, 0⟩).2) := by
    simp only [BlockWrite.stepUnder, writing, beginWrite]
  rw [grouping] at ran
  generalize System.makeDirectories out (d.groupPath ref id) ⟨fs, 0⟩ = made at ran grouped fine
  obtain ⟨e | done, s⟩ := made
  · cases ran
    exact grouped
  · exact comes_of_grouped leads sound component grouped (fine rfl) pieces ran

/-! ## Puts that go well -/

/-- What is there for a block stays there for it. -/
theorem Room.onward {names : List String} (room : d.Room base rest ref id fs)
    (spilled : fs.Spilled base (trail rest ref id) names fs') : d.Room base rest ref id fs' where
  leads := room.leads.mono spilled.directories spilled.working
  sound := spilled.sound
  component := room.component
  fine := room.fine
  clear := (spilled.clear_iff (Nat.le_refl _)).2 room.clear
  free name mem := spilled.free name (room.free name mem)

/-- With room for a block, a put none of whose calls fails goes well. -/
theorem Room.put_ok (room : d.Room base rest ref id fs) (data : Bytes) :
    (d.put ref id data fs).1 = .ok () := by
  obtain ⟨fs₁, grouped, made⟩ := room.makeGroup
  have first : fs.Spilled base (trail rest ref id) [id.temporary] fs₁ := made.spilled room.clear
  have room₁ := room.onward first
  obtain ⟨n, fs₂, opened, created⟩ := room₁.createTemporary (made.made _ (List.prefix_refl _))
  have second : fs₁.Spilled base (trail rest ref id) [id.temporary] fs₂ :=
    created.spilled room₁.sound (by simp)
  have room₂ := room₁.onward second
  have held : fs₂.node? (base ++ (trail rest ref id ++ [id.temporary])) = some (.file n) := by
    rw [created.nodes, if_pos rfl]
  let fs₃ := fs₂.setContent n (FileSystem.overwrite (fs₂.content n) 0 data)
  have third : fs₂.Spilled base (trail rest ref id) [id.temporary] fs₃ :=
    FileSystem.spilled_setContent room₂.sound (by simp) held _
  obtain ⟨fs₄, published, -⟩ := (room₂.onward third).publish held
  have grouping : (d.writing ref id none).step fs .makeGroup =
      (.ok (), d.writing ref id none, fs₁) := by
    simp only [BlockWrite.step, writing, beginWrite, grouped]
  have opening : (d.writing ref id none).step fs₁ .createTemporary =
      (.ok (), d.writing ref id (some ⟨.file n, 0⟩), fs₂) := by
    simp only [BlockWrite.step, writing, beginWrite, opened]
  have publishing : (d.writing ref id (some ⟨.file n, 0 + data.length⟩)).step fs₃ .publish =
      (.ok (), d.writing ref id (some ⟨.file n, 0 + data.length⟩), fs₄) := by
    simp only [BlockWrite.step, writing, beginWrite, published]
  have ran : (d.beginWrite ref id).run fs (BlockWrite.steps [data]) = (.ok (), fs₄) := by
    rw [BlockWrite.steps, List.map_singleton, List.singleton_append, ← writing_none,
      run_of_step grouping, run_of_step opening, run_of_step (append_spec ..),
      run_of_step (sync_spec ..), run_of_step publishing, BlockWrite.run]
  unfold put
  rw [ran]
  rfl

/-- What a put comes to. -/
theorem put_comes (leads : fs.Leads d.root base rest) (sound : fs.Sound)
    (component : Path.IsComponent ref.storeId)
    (inside : fs.node? fs.workingDirectory = some .directory) {data : Bytes}
    (well : (d.put ref id data fs).1 = .ok ()) :
    d.Published base rest ref id fs (d.put ref id data fs).2 data := by
  rw [put_eq_putUnder] at well ⊢
  obtain ⟨r, answer, comes⟩ := putUnder_spec leads sound component inside id [data] .never
  rw [answer] at well
  cases r with
  | error e => cases well
  | ok done =>
    rw [List.flatten_singleton] at comes
    exact comes

/-- A put none of whose calls fails goes well exactly if there is room for the block. -/
theorem put_ok_iff (leads : fs.Leads d.root base rest) (sound : fs.Sound)
    (component : Path.IsComponent ref.storeId)
    (inside : fs.node? fs.workingDirectory = some .directory) (id : BlockId) (data : Bytes) :
    (d.put ref id data fs).1 = .ok () ↔ d.Room base rest ref id fs :=
  ⟨fun well => (put_comes leads sound component inside well).room, fun room => room.put_ok data⟩

/-! ## What is seen of a put -/

/-- Only temporary files are under the name of one. -/
theorem outside_temporary (base : Place) (rest : List String) (ref ref' : StoreRef)
    (id id' : BlockId) :
    FileSystem.Outside base (trail rest ref id) [id.temporary]
      (base ++ (trail rest ref' id' ++ [id'.member])) := by
  intro name mem same
  rw [List.mem_singleton.1 mem] at same
  have names := List.append_inj_right' (List.append_cancel_left same) rfl
  exact id'.member_ne_temporary id (List.singleton_inj.1 names).symm

/-- Every other block is under another name, or in another group. -/
theorem outside_block (base : Place) (rest : List String)
    (other : (ref'.storeId, id') ≠ (ref.storeId, id)) :
    FileSystem.Outside base (trail rest ref id) [id.temporary, id.member]
      (base ++ (trail rest ref' id' ++ [id'.member])) := by
  intro name mem same
  rcases List.mem_cons.1 mem with rfl | mem
  · exact outside_temporary base rest ref ref' id id' _ (List.mem_singleton.2 rfl) same
  · rw [List.mem_singleton.1 mem] at same
    have names := List.append_cancel_left same
    simp only [trail, List.append_assoc, List.append_cancel_left_eq, List.cons_append,
      List.nil_append, List.cons.injEq, and_true] at names
    obtain ⟨store, group, member⟩ := names
    exact other (Prod.ext store.symm (BlockId.ext_of_parts group.symm member.symm))

/-- A put that is done shows the block, with all its data. -/
theorem Published.shows {data : Bytes} (published : d.Published base rest ref id fs fs' data) :
    d.Shows ref id data fs' := by
  obtain ⟨n, file, rfl⟩ := published.file
  have room := published.room.onward published.spilled
  refine shows_of_find ?_
  rw [blockPath, room.find_member id.isComponent_member (room.fine (d.blockPath ref id) (by simp)),
    file]

/-- A put, whichever of its calls fail: its own block can be seen only when it is done, and
then it has all the data; nobody can tell any other block from what it was.

* A put that fails, or is cut off, is not seen at all.
* One that goes well is seen in its own block, which has exactly its data.
* Whatever was left behind, another put of the block goes well afterwards if it would have
  before, and then the block has exactly its data.

The directory of the stores is at the end of the root's path; where that does not lead yet, the
names that are missing are ordinary. -/
theorem unseen_until_renamed (sound : fs.Sound)
    (inside : fs.node? fs.workingDirectory = some .directory)
    (leads : fs.Leads d.root base rest) (component : Path.IsComponent ref.storeId)
    (id : BlockId) (pieces : List Bytes) (out : Outages) :
    let after := (d.putUnder out ref id pieces fs).2
    (∀ e, (d.putUnder out ref id pieces fs).1 = .error e →
      ∀ ref' id', Path.IsComponent ref'.storeId → d.SameAnswers ref' id' fs after) ∧
    ((d.putUnder out ref id pieces fs).1 = .ok () →
      d.Shows ref id pieces.flatten after ∧
      ∀ ref' id', Path.IsComponent ref'.storeId → (ref'.storeId, id') ≠ (ref.storeId, id) →
        d.SameAnswers ref' id' fs after) ∧
    ∀ data, (d.put ref id data fs).1 = .ok () →
      (d.put ref id data after).1 = .ok () ∧ d.Shows ref id data (d.put ref id data after).2 ∧
      ∀ ref' id', Path.IsComponent ref'.storeId → (ref'.storeId, id') ≠ (ref.storeId, id) →
        d.SameAnswers ref' id' fs (d.put ref id data after).2 := by
  have ended := putUnder_spec leads sound component inside id pieces out
  generalize d.putUnder out ref id pieces fs = answer at ended ⊢
  obtain ⟨answer, after⟩ := answer
  obtain ⟨r, rfl, comes⟩ := ended
  dsimp only at comes ⊢
  have spilled := comes.spilled
  have others {ref' : StoreRef} {id' : BlockId} (component' : Path.IsComponent ref'.storeId)
      (other : (ref'.storeId, id') ≠ (ref.storeId, id)) : d.SameAnswers ref' id' fs after :=
    sameAnswers_of_spilled leads sound component' spilled (outside_block base rest other)
  refine ⟨fun e failed ref' id' component' => ?_, fun well => ?_, fun data could => ?_⟩
  · cases r with
    | ok done => cases failed
    | error e =>
      exact sameAnswers_of_spilled leads sound component' comes
        (outside_temporary base rest ref ref' id id')
  · cases r with
    | error e => cases well
    | ok done => exact ⟨comes.shows, fun ref' id' component' other => others component' other⟩
  · have room := (put_comes leads sound component inside could).room.onward spilled
    have inside' : after.node? after.workingDirectory = some .directory := by
      rw [spilled.working]
      exact spilled.directories _ inside
    have well := room.put_ok data
    have again := put_comes room.leads room.sound component inside' well
    refine ⟨well, again.shows, fun ref' id' component' other => ?_⟩
    exact (others component' other).trans (sameAnswers_of_spilled room.leads room.sound component'
      again.spilled (outside_block base rest other))

end Run

/-- A put that is cut off when half of its data is written, and another one afterwards. -/
theorem unseen_until_renamed_of_half :
    let id : BlockId := .uniform '1' (by decide)
    let d : Directory := ⟨"/"⟩
    let out : Outages := fun n => if n < 5 then none else some .permissionDenied
    let after := (d.putUnder out ⟨"s", 1⟩ id [[7], [8]] {}).2
    after.readFile (d.temporaryPath ⟨"s", 1⟩ id) = .ok [7] ∧
      d.SameAnswers ⟨"s", 1⟩ id {} after ∧
      (d.put ⟨"s", 1⟩ id [9] after).1 = .ok () ∧
      d.Shows ⟨"s", 1⟩ id [9] (d.put ⟨"s", 1⟩ id [9] after).2 := by
  intro id d out after
  have component : Path.IsComponent (StoreRef.mk "s" 1).storeId := takes_root.component
  have failed : (d.putUnder out ⟨"s", 1⟩ id [[7], [8]] {}).1 =
      .error (.io IoError.permissionDenied.message) := by decide +kernel
  have could : (d.put ⟨"s", 1⟩ id [9] {}).1 = .ok () := by decide +kernel
  obtain ⟨unseen, -, later⟩ := unseen_until_renamed blank_root.sound rfl blank_root.ends.leads
    component id [[7], [8]] out
  obtain ⟨well, shows, -⟩ := later [9] could
  exact ⟨by decide +kernel, unseen _ failed ⟨"s", 1⟩ id component, well, shows⟩

/-- A put can be seen in other blocks: through store ids that are no ordinary names, through one
that leads by the directory that is made and, though the put fails, through one that leads by the
temporary file; and in plain stores too, if the temporary file is also another block's file, or
if the root leads by a directory that is not there. -/
theorem seen_in_other_blocks :
    let one : BlockId := .uniform '1' (by decide)
    let two : BlockId := .uniform '2' (by decide)
    let d : Directory := ⟨"/"⟩
    let stat (d : Directory) (storeId : String) (id : BlockId) (fs : FileSystem) :=
      (d.store.stat ⟨storeId, 1⟩ id fs).1
    let having (nodes : List (Place × Node)) : FileSystem :=
      { nodes := ⟨nodes⟩, contents := ⟨[(0, [7, 8])]⟩, fresh := 1 }
    let filled := having [(["t"], .directory), (["t", one.group], .directory),
      (["t", one.group, one.member], .file 0)]
    let blocked := having [(["u"], .directory), (["u", one.group], .directory),
      (["u", one.group, one.member], .directory)]
    let linked := having [(["s"], .directory), (["s", one.group], .directory),
      (["s", two.group], .directory), (["s", one.group, one.temporary], .file 0),
      (["s", two.group, two.member], .file 0)]
    let aside := d.put ⟨"s", 1⟩ two [10] filled
    let below := s!"u/{one.group}/{one.temporary}"
    let failed := d.put ⟨"u", 1⟩ one [10] blocked
    let cut := d.putUnder (fun n => if n = 3 then some .permissionDenied else none) ⟨"s", 1⟩ one
      [[10]] linked
    let elsewhere : Directory := ⟨"/s/.."⟩
    (stat d "s/../t" one filled = .error (.blockNotFound "s/../t" one.text) ∧
        aside.1 = .ok () ∧ stat d "s/../t" one aside.2 = .ok 2) ∧
      (stat d below two blocked = .error (.blockNotFound below two.text) ∧
        failed.1 = .error (.io IoError.isDirectory.message) ∧
        stat d below two failed.2 = .error (.blockRead two.text IoError.notDirectory.message)) ∧
      (stat d "s" two linked = .ok 2 ∧ cut.1 = .error (.io IoError.permissionDenied.message) ∧
        stat d "s" two cut.2 = .ok 0) ∧
      stat elsewhere "t" one filled = .error (.blockNotFound "t" one.text) ∧
        stat elsewhere "t" one (elsewhere.put ⟨"s", 1⟩ two [10] filled).2 = .ok 2 := by
  decide +kernel

end Directory

end StreamGate
