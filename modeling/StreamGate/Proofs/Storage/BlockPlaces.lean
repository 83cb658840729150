import StreamGate.Proofs.Storage.Roots
import StreamGate.Storage.Directory

/-!
# Where blocks are

A directory of blocks is a part of a file system: three names lead from its root to a
block, the store id among them.  If the store id is an ordinary name, every block has a
place of its own, and so has every temporary file.

* `BlockId.ext_of_parts`: the group and the member of an id are the whole id.
* `Directory.Layout`: a tree where nothing is in the way of blocks.
* `Directory.Room`: a tree where nothing is in the way of one block.
* `Directory.find_block`: a block's path leads to what is at its place.
* `makeGroup_spec`, `createTemporary_spec`, `publish_spec`: what the steps of a put change.
* `Directory.put_spec`: what a whole put changes.
-/

namespace StreamGate

/-! ## The names of a block -/

namespace BlockId

/-- The name of the file a block is written to before it gets its own. -/
def temporary (id : BlockId) : String := id.member ++ ".tmp"

variable (id : BlockId)

theorem mem_group {c : Char} (mem : c ∈ id.group.toList) : c ∈ Hex.lowerDigits := by
  rw [group, String.toList_ofList] at mem
  exact id.canonical.lowerDigits c (List.mem_of_mem_take mem)

theorem mem_member {c : Char} (mem : c ∈ id.member.toList) : c ∈ Hex.lowerDigits := by
  rw [member, String.toList_ofList] at mem
  exact id.canonical.lowerDigits c (List.mem_of_mem_drop mem)

theorem length_group : id.group.toList.length = 2 := by
  rw [group, String.toList_ofList, List.length_take]
  rcases id.canonical.length_eq with length | length <;> omega

theorem length_member : 0 < id.member.toList.length ∧ id.member.toList.length ≤ 62 := by
  rw [member, String.toList_ofList, List.length_drop]
  rcases id.canonical.length_eq with length | length <;> omega

/-- The group and the member of an id are the whole id. -/
theorem ext_of_parts {id id' : BlockId} (group : id.group = id'.group)
    (member : id.member = id'.member) : id = id' := by
  have front := congrArg String.toList group
  have back := congrArg String.toList member
  simp only [BlockId.group, BlockId.member, String.toList_ofList] at front back
  refine ext (String.toList_injective ?_)
  rw [← List.take_append_drop 2 id.text.toList, front, back, List.take_append_drop]

/-- Digits need one byte each. -/
theorem utf8ByteSize_of_digits {name : String} (digits : ∀ c ∈ name.toList, c ∈ Hex.lowerDigits) :
    name.utf8ByteSize = name.toList.length := by
  have size := Bytes.utf8ByteSize_ofList fun c mem =>
    Hex.utf8Size_of_mem_allDigits (List.mem_append_left _ (digits c mem))
  rwa [String.ofList_toList] at size

theorem utf8ByteSize_group : id.group.utf8ByteSize = 2 := by
  rw [utf8ByteSize_of_digits fun _ => id.mem_group, id.length_group]

theorem utf8ByteSize_member : id.member.utf8ByteSize ≤ 62 := by
  rw [utf8ByteSize_of_digits fun _ => id.mem_member]
  exact id.length_member.2

theorem utf8ByteSize_temporary : id.temporary.utf8ByteSize ≤ 66 := by
  have member := id.utf8ByteSize_member
  rw [temporary, String.utf8ByteSize_append]
  show _ + 4 ≤ 66
  omega

theorem mem_temporary {c : Char} (mem : c ∈ id.temporary.toList) :
    c ∈ Hex.lowerDigits ∨ c ∈ ['.', 't', 'm', 'p'] := by
  rw [temporary, String.toList_append, List.mem_append] at mem
  exact mem.imp_left id.mem_member

theorem ending_mem_temporary : 't' ∈ id.temporary.toList := by
  rw [temporary, String.toList_append]
  exact List.mem_append_right _ (by decide)

theorem isComponent_group : Path.IsComponent id.group where
  noSlash mem := absurd (id.mem_group mem) (by decide)
  noNul mem := absurd (id.mem_group mem) (by decide)
  notEmpty empty := by simpa [empty] using id.length_group
  notDot dot := absurd (id.mem_group (c := '.') (by simp [dot])) (by decide)
  notUp up := absurd (id.mem_group (c := '.') (by simp [up])) (by decide)
  short := by
    rw [id.utf8ByteSize_group]
    decide

theorem isComponent_member : Path.IsComponent id.member where
  noSlash mem := absurd (id.mem_member mem) (by decide)
  noNul mem := absurd (id.mem_member mem) (by decide)
  notEmpty empty := by simpa [empty] using id.length_member.1
  notDot dot := absurd (id.mem_member (c := '.') (by simp [dot])) (by decide)
  notUp up := absurd (id.mem_member (c := '.') (by simp [up])) (by decide)
  short := Nat.le_trans id.utf8ByteSize_member (by decide)

theorem isComponent_temporary : Path.IsComponent id.temporary where
  noSlash mem := (id.mem_temporary mem).elim (fun digit => absurd digit (by decide))
    (fun other => absurd other (by decide))
  noNul mem := (id.mem_temporary mem).elim (fun digit => absurd digit (by decide))
    (fun other => absurd other (by decide))
  notEmpty empty := absurd (empty ▸ id.ending_mem_temporary) (by decide)
  notDot dot := absurd (dot ▸ id.ending_mem_temporary) (by decide)
  notUp up := absurd (up ▸ id.ending_mem_temporary) (by decide)
  short := Nat.le_trans id.utf8ByteSize_temporary (by decide)

theorem temporary_inj {id id' : BlockId} (same : id.temporary = id'.temporary) :
    id.member = id'.member := by
  have chars := congrArg String.toList same
  simp only [temporary, String.toList_append] at chars
  exact String.toList_injective (List.append_cancel_right chars)

/-- No block is named like a temporary file. -/
theorem member_ne_temporary (id id' : BlockId) : id.member ≠ id'.temporary := by
  intro same
  have ending := id'.ending_mem_temporary
  rw [← same] at ending
  exact absurd (id.mem_member ending) (by decide)

end BlockId

/-! ## The places of blocks -/

namespace Directory

/-- The place of a block's group. -/
def groupAt (base : Place) (k : String × BlockId) : Place := base ++ [k.1, k.2.group]

/-- The place of a block. -/
def blockAt (base : Place) (k : String × BlockId) : Place :=
  base ++ [k.1, k.2.group, k.2.member]

/-- The place of the file a block is written to before it gets its own. -/
def temporaryAt (base : Place) (k : String × BlockId) : Place :=
  base ++ [k.1, k.2.group, k.2.temporary]

variable {d : Directory} {base : Place} {k k' : String × BlockId} {stores : String → Prop}
  {fs fs' : FileSystem}

theorem blockAt_inj : blockAt base k = blockAt base k' ↔ k = k' := by
  refine ⟨fun same => ?_, fun same => same ▸ rfl⟩
  have names := List.append_cancel_left same
  simp only [List.cons.injEq, and_true] at names
  exact Prod.ext names.1 (BlockId.ext_of_parts names.2.1 names.2.2)

theorem temporaryAt_inj : temporaryAt base k = temporaryAt base k' ↔ k = k' := by
  refine ⟨fun same => ?_, fun same => same ▸ rfl⟩
  have names := List.append_cancel_left same
  simp only [List.cons.injEq, and_true] at names
  exact Prod.ext names.1 (BlockId.ext_of_parts names.2.1 (BlockId.temporary_inj names.2.2))

theorem blockAt_ne_temporaryAt (k k' : String × BlockId) :
    blockAt base k ≠ temporaryAt base k' := by
  intro same
  have names := List.append_cancel_left same
  simp only [List.cons.injEq, and_true] at names
  exact BlockId.member_ne_temporary k.2 k'.2 names.2.2

/-- A store id that leads one step down, in paths that are not too long. -/
structure Takes (d : Directory) (storeId : String) : Prop where
  component : Path.IsComponent storeId
  fits : d.root.utf8ByteSize + storeId.utf8ByteSize + 71 ≤ FileSystem.maxPath

/-- A tree in which nothing is in the way of blocks of some stores. -/
structure Layout (d : Directory) (base : Place) (stores : String → Prop) (fs : FileSystem) :
    Prop where
  ends : fs.EndsAt d.root base
  sound : fs.Sound
  takes : ∀ {s}, stores s → d.Takes s
  store : ∀ {s}, stores s → ∀ n, fs.node? (base ++ [s]) ≠ some (.file n)
  group : ∀ {k : String × BlockId}, stores k.1 → ∀ n, fs.node? (groupAt base k) ≠ some (.file n)
  block : ∀ {k : String × BlockId}, stores k.1 → fs.node? (blockAt base k) ≠ some .directory
  temporary : ∀ {k : String × BlockId}, stores k.1 →
    fs.node? (temporaryAt base k) ≠ some .directory

/-- A change keeps blocks out of the way of each other if it makes directories above them and
files where they are. -/
theorem Layout.onward (layout : d.Layout base stores fs) (onward : fs.Onward fs')
    (keeps : ∀ p, fs.node? p = some .directory → fs'.node? p = some .directory)
    (directories : ∀ p, fs'.node? p = some .directory →
      fs.node? p = some .directory ∨ p.length < base.length + 3)
    (files : ∀ p n, fs'.node? p = some (.file n) →
      fs.node? p = some (.file n) ∨ base.length + 3 ≤ p.length) : d.Layout base stores fs' where
  ends := layout.ends.mono keeps onward.working
  sound := onward.sound
  takes := layout.takes
  store mem n file := (files _ n file).elim (layout.store mem n) (by simp)
  group mem n file := (files _ n file).elim (layout.group mem n) (by simp [groupAt])
  block mem there := (directories _ there).elim (layout.block mem) (by simp [blockAt])
  temporary mem there := (directories _ there).elim (layout.temporary mem) (by simp [temporaryAt])

/-- A directory that nothing is in. -/
structure Blank (d : Directory) (base : Place) (fs : FileSystem) : Prop where
  ends : fs.EndsAt d.root base
  sound : fs.Sound
  empty : ∀ name rest, fs.node? (base ++ name :: rest) = none

theorem Blank.layout (blank : d.Blank base fs) (takes : ∀ {s}, stores s → d.Takes s) :
    d.Layout base stores fs where
  ends := blank.ends
  sound := blank.sound
  takes := takes
  store {s} _ n := by simp [blank.empty s []]
  group {k} _ n := by simp [groupAt, blank.empty k.1 _]
  block {k} _ := by simp [blockAt, blank.empty k.1 _]
  temporary {k} _ := by simp [temporaryAt, blank.empty k.1 _]

/-- The root of a file system in which nothing is yet. -/
theorem blank_root : Blank ⟨"/"⟩ [] {} := by
  have nodes : ∀ place, ({} : FileSystem).node? place =
      if place = [] then some .directory else none := fun place => by
    cases place <;> rfl
  refine ⟨⟨by decide, by decide, rfl⟩, ⟨fun found => ?_, fun found => ?_, fun found => ?_⟩,
    fun name rest => rfl⟩
  all_goals rw [nodes] at found
  · simp at found
  all_goals
    split at found
    all_goals cases found

theorem takes_root : Takes ⟨"/"⟩ "s" where
  component := ⟨by decide, by decide, by decide, by decide, by decide, by decide⟩
  fits := by decide

/-! ## Changes that keep the layout -/

theorem Layout.made (layout : d.Layout base stores fs)
    (made : fs.Made fs' base [k.1, k.2.group]) : d.Layout base stores fs' := by
  refine layout.onward made.toOnward made.directories (fun p there => ?_) fun p n file => ?_
  all_goals by_cases inside : ∃ front, front <+: [k.1, k.2.group] ∧ base ++ front = p
  · obtain ⟨front, le, rfl⟩ := inside
    have short := le.length_le
    rw [List.length_append]
    simp only [List.length_cons, List.length_nil] at short
    omega
  · rw [made.rest p fun front le same => inside ⟨front, le, same⟩] at there
    exact .inl there
  · obtain ⟨front, le, rfl⟩ := inside
    rw [made.made front le] at file
    cases file
  · rw [made.rest p fun front le same => inside ⟨front, le, same⟩] at file
    exact .inl file

theorem Layout.created (layout : d.Layout base stores fs) (mem : stores k.1) {n : Nat}
    (created : fs.Created fs' (temporaryAt base k) n) : d.Layout base stores fs' := by
  refine layout.onward created.toOnward (fun p directory => ?_) (fun p directory => ?_)
    fun p m file => ?_
  · rw [created.nodes, if_neg, directory]
    rintro rfl
    exact layout.temporary mem directory
  · rw [created.nodes] at directory
    split at directory
    · cases directory
    · exact .inl directory
  · rw [created.nodes] at file
    split at file
    · rename_i here
      subst here
      exact .inr (by simp [temporaryAt])
    · exact .inl file

theorem Layout.setContent (layout : d.Layout base stores fs) (n : Nat) (bytes : Bytes) :
    d.Layout base stores (fs.setContent n bytes) :=
  layout.onward ⟨layout.sound.of_nodes (fun _ => rfl) (Nat.le_refl _), Nat.le_refl _, rfl⟩
    (fun _ there => there) (fun _ there => .inl there) fun _ _ there => .inl there

theorem Layout.renamed (layout : d.Layout base stores fs) (mem : stores k.1) {n : Nat}
    (renamed : fs.Renamed fs' (temporaryAt base k) (blockAt base k) n) :
    d.Layout base stores fs' := by
  refine layout.onward renamed.toOnward (fun p directory => ?_) (fun p directory => ?_)
    fun p m file => ?_
  · rw [renamed.nodes, if_neg, if_neg, directory]
    · rintro rfl
      exact layout.temporary mem directory
    · rintro rfl
      exact layout.block mem directory
  · rw [renamed.nodes] at directory
    split at directory
    · cases directory
    · split at directory
      · cases directory
      · exact .inl directory
  · rw [renamed.nodes] at file
    split at file
    · rename_i here
      subst here
      exact .inr (by simp [blockAt])
    · split at file
      · cases file
      · exact .inl file

section Paths

variable {ref : StoreRef} {id : BlockId}

theorem Layout.clear (layout : d.Layout base stores fs) (mem : stores ref.storeId) (id : BlockId) :
    fs.Clear base [ref.storeId, id.group] := by
  intro front le n
  have cases : front = [] ∨ front = [ref.storeId] ∨ front = [ref.storeId, id.group] := by
    rw [List.prefix_cons_iff] at le
    rcases le with rfl | ⟨rest, rfl, le⟩
    · exact .inl rfl
    · rw [List.prefix_cons_iff] at le
      rcases le with rfl | ⟨rest, rfl, le⟩
      · exact .inr (.inl rfl)
      · rw [List.prefix_nil.1 le]
        exact .inr (.inr rfl)
  rcases cases with rfl | rfl | rfl
  · rw [List.append_nil, layout.ends.directory]
    nofun
  · exact layout.store mem n
  · exact layout.group (k := (ref.storeId, id)) mem n

theorem Takes.fits_group (takes : d.Takes ref.storeId) (id : BlockId) :
    (d.groupPath ref id).utf8ByteSize ≤ d.root.utf8ByteSize + ref.storeId.utf8ByteSize + 4 := by
  have store := Path.utf8ByteSize_join_le takes.component d.root
  have group := Path.utf8ByteSize_join_le id.isComponent_group (Path.join d.root ref.storeId)
  rw [id.utf8ByteSize_group] at group
  unfold groupPath
  omega

theorem Takes.fits_join (takes : d.Takes ref.storeId) (id : BlockId) {last : String}
    (component : Path.IsComponent last) (short : last.utf8ByteSize ≤ 66) :
    (Path.join (d.groupPath ref id) last).utf8ByteSize ≤ FileSystem.maxPath := by
  have group := takes.fits_group id
  have whole := Path.utf8ByteSize_join_le component (d.groupPath ref id)
  have fits := takes.fits
  omega

theorem groupPath_eq (d : Directory) (ref : StoreRef) (id : BlockId) :
    d.groupPath ref id = ([ref.storeId] ++ [id.group]).foldl Path.join d.root := by
  simp only [groupPath, List.cons_append, List.nil_append, List.foldl_cons, List.foldl_nil]

theorem join_groupPath (d : Directory) (ref : StoreRef) (id : BlockId) (last : String) :
    Path.join (d.groupPath ref id) last =
      ([ref.storeId, id.group] ++ [last]).foldl Path.join d.root := by
  simp only [groupPath, List.cons_append, List.nil_append, List.foldl_cons, List.foldl_nil]

/-! ### Room for one block -/

/-- The names that lead down to a block's group, when the last names of the root are still to
come. -/
def trail (rest : List String) (ref : StoreRef) (id : BlockId) : List String :=
  rest ++ [ref.storeId, id.group]

/-- Nothing is in the way of a block.  The root need not be there. -/
structure Room (d : Directory) (base : Place) (rest : List String) (ref : StoreRef) (id : BlockId)
    (fs : FileSystem) : Prop where
  leads : fs.Leads d.root base rest
  sound : fs.Sound
  component : Path.IsComponent ref.storeId
  fine : ∀ path ∈ [d.groupPath ref id, d.temporaryPath ref id, d.blockPath ref id],
    FileSystem.refused? path = none
  clear : fs.Clear base (trail rest ref id)
  free : ∀ name ∈ [id.temporary, id.member],
    fs.node? (base ++ (trail rest ref id ++ [name])) ≠ some .directory

theorem components_of (component : Path.IsComponent ref.storeId) (id : BlockId) {last : String}
    (named : Path.IsComponent last) :
    ∀ name ∈ [ref.storeId, id.group] ++ [last], Path.IsComponent name := by
  intro name mem
  rcases List.mem_cons.1 mem with rfl | mem
  · exact component
  · rcases List.mem_cons.1 mem with rfl | mem
    · exact id.isComponent_group
    · rw [List.mem_singleton.1 mem]
      exact named

theorem Layout.refused?_group (layout : d.Layout base stores fs) (mem : stores ref.storeId)
    (id : BlockId) : FileSystem.refused? (d.groupPath ref id) = none := by
  have takes := layout.takes mem
  have fits := Nat.le_trans (takes.fits_group id) (Nat.le_trans (by omega) takes.fits)
  have components : ∀ name ∈ [ref.storeId] ++ [id.group], Path.IsComponent name :=
    fun name named => components_of takes.component id id.isComponent_group name
      (List.mem_append_left [id.group] named)
  rw [groupPath_eq] at fits ⊢
  exact layout.ends.refused?_eq_none components fits

theorem Layout.refused?_member (layout : d.Layout base stores fs) (mem : stores ref.storeId)
    (id : BlockId) {last : String} (component : Path.IsComponent last)
    (short : last.utf8ByteSize ≤ 66) :
    FileSystem.refused? (Path.join (d.groupPath ref id) last) = none := by
  have fits := (layout.takes mem).fits_join id component short
  rw [join_groupPath] at fits ⊢
  exact layout.ends.refused?_eq_none (components_of (layout.takes mem).component id component) fits

/-- In a tree where nothing is in the way of blocks there is room for each. -/
theorem Layout.room (layout : d.Layout base stores fs) (mem : stores ref.storeId) (id : BlockId) :
    d.Room base [] ref id fs where
  leads := layout.ends.leads
  sound := layout.sound
  component := (layout.takes mem).component
  fine path listed := by
    rcases List.mem_cons.1 listed with rfl | listed
    · exact layout.refused?_group mem id
    · rcases List.mem_cons.1 listed with rfl | listed
      · exact layout.refused?_member mem id id.isComponent_temporary id.utf8ByteSize_temporary
      · rw [List.mem_singleton.1 listed]
        exact layout.refused?_member mem id id.isComponent_member
          (Nat.le_trans id.utf8ByteSize_member (by decide))
  clear := layout.clear mem id
  free name listed := by
    rcases List.mem_cons.1 listed with rfl | listed
    · exact layout.temporary (k := (ref.storeId, id)) mem
    · rw [List.mem_singleton.1 listed]
      exact layout.block (k := (ref.storeId, id)) mem

section Room

variable {rest : List String} (room : d.Room base rest ref id fs)

include room

/-- A name in a group's directory leads to what is at its place. -/
theorem Room.find_member {last : String} (named : Path.IsComponent last)
    (fine : FileSystem.refused? (Path.join (d.groupPath ref id) last) = none) :
    fs.find (Path.join (d.groupPath ref id) last) =
      match fs.node? (base ++ (trail rest ref id ++ [last])) with
      | none => .error .notFound
      | some node => .ok node := by
  rw [join_groupPath] at fine ⊢
  rw [room.leads.find_clear (components_of room.component id named) room.sound room.clear fine]
  rfl

theorem Room.locate_member {last : String} (named : Path.IsComponent last)
    (fine : FileSystem.refused? (Path.join (d.groupPath ref id) last) = none)
    (there : fs.node? (base ++ trail rest ref id) = some .directory) :
    fs.locate (Path.join (d.groupPath ref id) last) =
      .ok (base ++ (trail rest ref id ++ [last])) := by
  rw [join_groupPath] at fine ⊢
  exact room.leads.locate_clear (components_of room.component id named) room.sound room.clear fine
    there

/-- The directory of the group can be made, whatever is there already. -/
theorem Room.makeGroup : ∃ fs', fs.makeDirectories (d.groupPath ref id) = (.ok (), fs') ∧
    fs.Made fs' base (trail rest ref id) := by
  have components : ∀ name ∈ [ref.storeId] ++ [id.group], Path.IsComponent name :=
    fun name mem => components_of room.component id id.isComponent_group name
      (List.mem_append_left [id.group] mem)
  have fine := room.fine (d.groupPath ref id) (by simp)
  rw [groupPath_eq] at fine ⊢
  exact room.leads.makeDirectories_below components room.sound room.clear fine

/-- The temporary file keeps the number that one left there has, or takes a new one. -/
theorem Room.createTemporary (there : fs.node? (base ++ trail rest ref id) = some .directory) :
    ∃ n fs', fs.create (d.temporaryPath ref id) = .ok (⟨.file n, 0⟩, fs') ∧
      fs.Created fs' (base ++ (trail rest ref id ++ [id.temporary])) n := by
  have located := room.locate_member id.isComponent_temporary
    (room.fine (d.temporaryPath ref id) (by simp)) there
  have free := room.free id.temporary (by simp)
  have said : Path.parse (d.temporaryPath ref id) = _ :=
    Path.parse_join id.isComponent_temporary (d.groupPath ref id)
  rw [← List.append_assoc] at located free ⊢
  exact FileSystem.create_spec room.sound located there
    (by rw [said]; exact ⟨rfl, rfl⟩) free

/-- The file at the temporary name, whoever made it, gets the block's name. -/
theorem Room.publish {n : Nat}
    (held : fs.node? (base ++ (trail rest ref id ++ [id.temporary])) = some (.file n)) :
    ∃ fs', fs.rename (d.temporaryPath ref id) (d.blockPath ref id) = .ok fs' ∧
      fs.Renamed fs' (base ++ (trail rest ref id ++ [id.temporary]))
        (base ++ (trail rest ref id ++ [id.member])) n := by
  have there : fs.node? (base ++ trail rest ref id) = some .directory := by
    rw [← List.append_assoc] at held
    exact room.sound.closed held
  have fine := room.fine (d.temporaryPath ref id) (by simp)
  have found := room.find_member id.isComponent_temporary fine
  rw [held] at found
  have origin := room.locate_member id.isComponent_temporary fine there
  have target := room.locate_member id.isComponent_member
    (room.fine (d.blockPath ref id) (by simp)) there
  have free := room.free id.member (by simp)
  rw [← List.append_assoc base _ [id.member]] at target free ⊢
  exact FileSystem.rename_spec room.sound found origin target there free

end Room

/-! ### Paths of blocks -/

/-- A name in a group's directory leads to what is at its place. -/
theorem find_member (layout : d.Layout base stores fs) (mem : stores ref.storeId) (id : BlockId)
    {last : String} (component : Path.IsComponent last) (short : last.utf8ByteSize ≤ 66) :
    fs.find (Path.join (d.groupPath ref id) last) =
      match fs.node? (base ++ [ref.storeId, id.group, last]) with
      | none => .error .notFound
      | some node => .ok node := by
  rw [(layout.room mem id).find_member component (layout.refused?_member mem id component short)]
  rfl

/-- A block's path leads to what is at its place. -/
theorem find_block (layout : d.Layout base stores fs) (mem : stores ref.storeId) (id : BlockId) :
    fs.find (d.blockPath ref id) =
      match fs.node? (blockAt base (ref.storeId, id)) with
      | none => .error .notFound
      | some node => .ok node :=
  find_member layout mem id id.isComponent_member
    (Nat.le_trans id.utf8ByteSize_member (by decide))

/-- What reading a block's file comes to. -/
theorem readFile_block (layout : d.Layout base stores fs) (mem : stores ref.storeId)
    (id : BlockId) : fs.readFile (d.blockPath ref id) =
      match fs.contentAt? (blockAt base (ref.storeId, id)) with
      | none => .error .notFound
      | some bytes => .ok bytes := by
  have free := layout.block (k := (ref.storeId, id)) mem
  unfold FileSystem.readFile FileSystem.contentAt?
  rw [find_block layout mem id]
  cases there : fs.node? (blockAt base (ref.storeId, id)) with
  | none => rfl
  | some node =>
    cases node with
    | directory => exact absurd there free
    | file n => rfl

end Paths

/-! ## The steps of a put -/

section Steps

variable {ref : StoreRef} {id : BlockId}

/-- A put of a block, with the file that it has open. -/
def writing (d : Directory) (ref : StoreRef) (id : BlockId) (file : Option FileHandle) :
    BlockWrite := { d.beginWrite ref id with file }

theorem writing_none (d : Directory) (ref : StoreRef) (id : BlockId) :
    d.writing ref id none = d.beginWrite ref id := by
  simp only [writing, beginWrite]

/-- The directory of the group is made, whatever is there already. -/
theorem makeGroup_spec (layout : d.Layout base stores fs) (mem : stores ref.storeId)
    (id : BlockId) (file : Option FileHandle) :
    ∃ fs', (d.writing ref id file).step fs .makeGroup = (.ok (), d.writing ref id file, fs') ∧
      fs.Made fs' base [ref.storeId, id.group] := by
  obtain ⟨fs', ran, made⟩ := (layout.room mem id).makeGroup
  exact ⟨fs', by simp only [BlockWrite.step, writing, beginWrite, ran], made⟩

/-- The temporary file keeps the number that one left there has, or takes a new one. -/
theorem createTemporary_spec (layout : d.Layout base stores fs) (mem : stores ref.storeId)
    (there : fs.node? (groupAt base (ref.storeId, id)) = some .directory)
    (file : Option FileHandle) :
    ∃ n fs', (d.writing ref id file).step fs .createTemporary =
        (.ok (), d.writing ref id (some ⟨.file n, 0⟩), fs') ∧
      fs.Created fs' (temporaryAt base (ref.storeId, id)) n := by
  obtain ⟨n, fs', ran, created⟩ := (layout.room mem id).createTemporary there
  exact ⟨n, fs', by simp only [BlockWrite.step, writing, beginWrite, ran], created⟩

/-- What is written goes to the file that is open, whatever names it has. -/
theorem append_spec (d : Directory) (ref : StoreRef) (id : BlockId) (fs : FileSystem) (n : Nat)
    (position : Nat) (bytes : Bytes) :
    (d.writing ref id (some ⟨.file n, position⟩)).step fs (.append bytes) =
      (.ok (), d.writing ref id (some ⟨.file n, position + bytes.length⟩),
        fs.setContent n (FileSystem.overwrite (fs.content n) position bytes)) := by
  simp only [BlockWrite.step, writing, beginWrite, FileSystem.write]

theorem sync_spec (d : Directory) (ref : StoreRef) (id : BlockId) (file : Option FileHandle)
    (fs : FileSystem) :
    (d.writing ref id file).step fs .sync = (.ok (), d.writing ref id file, fs) := by
  simp only [BlockWrite.step]

/-- The file at the temporary name, whoever made it, gets the block's name. -/
theorem publish_spec (layout : d.Layout base stores fs) (mem : stores ref.storeId) {n : Nat}
    (held : fs.node? (temporaryAt base (ref.storeId, id)) = some (.file n))
    (file : Option FileHandle) :
    ∃ fs', (d.writing ref id file).step fs .publish = (.ok (), d.writing ref id file, fs') ∧
      fs.Renamed fs' (temporaryAt base (ref.storeId, id)) (blockAt base (ref.storeId, id)) n := by
  obtain ⟨fs', ran, renamed⟩ := (layout.room mem id).publish held
  exact ⟨fs', by simp only [BlockWrite.step, writing, beginWrite, ran], renamed⟩

/-- Without a temporary file there is nothing to rename. -/
theorem publish_missing (layout : d.Layout base stores fs) (mem : stores ref.storeId)
    (gone : fs.node? (temporaryAt base (ref.storeId, id)) = none) (file : Option FileHandle) :
    (d.writing ref id file).step fs .publish =
      (.error .notFound, d.writing ref id file, fs) := by
  have found := find_member layout mem id id.isComponent_temporary id.utf8ByteSize_temporary
  change fs.find (d.temporaryPath ref id) =
    match fs.node? (temporaryAt base (ref.storeId, id)) with | none => _ | some node => _ at found
  rw [gone] at found
  have failed : fs.rename (d.temporaryPath ref id) (d.blockPath ref id) = .error .notFound := by
    unfold FileSystem.rename
    rw [found]
    rfl
  simp only [BlockWrite.step, writing, beginWrite, failed]

/-- A block that was put, and nothing else that changed. -/
structure Stored (base : Place) (k : String × BlockId) (fs fs' : FileSystem) (n : Nat)
    (data : Bytes) : Prop extends fs.Onward fs' where
  files : ∀ p m, fs'.node? p = some (.file m) ↔ (p = blockAt base k ∧ m = n) ∨
    (p ≠ blockAt base k ∧ p ≠ temporaryAt base k ∧ fs.node? p = some (.file m))
  content : ∀ m, fs'.content m = if n = m then data else fs.content m
  number : fs.node? (temporaryAt base k) = some (.file n) ∨ fs.fresh ≤ n

theorem run_of_step {p p' : BlockWrite} {step : BlockWrite.Step}
    (stepped : p.step fs step = (.ok (), p', fs')) (rest : List BlockWrite.Step) :
    p.run fs (step :: rest) = p'.run fs' rest := by
  rw [BlockWrite.run, stepped]

/-- A put whose steps nobody comes between goes well. -/
theorem put_spec (layout : d.Layout base stores fs) (mem : stores ref.storeId) (id : BlockId)
    (data : Bytes) :
    ∃ n fs', d.put ref id data fs = (.ok (), fs') ∧ d.Layout base stores fs' ∧
      Stored base (ref.storeId, id) fs fs' n data := by
  obtain ⟨fs₁, grouped, made⟩ := makeGroup_spec layout mem id none
  have layout₁ := layout.made (k := (ref.storeId, id)) made
  have there := made.made [ref.storeId, id.group] (List.prefix_refl _)
  obtain ⟨n, fs₂, opened, created⟩ := createTemporary_spec layout₁ mem there none
  have layout₂ := layout₁.created mem created
  have held : fs₂.node? (temporaryAt base (ref.storeId, id)) = some (.file n) := by
    rw [created.nodes, if_pos rfl]
  have written := append_spec d ref id fs₂ n 0 data
  have layout₃ := layout₂.setContent n (FileSystem.overwrite (fs₂.content n) 0 data)
  obtain ⟨fs₄, published, renamed⟩ :=
    publish_spec layout₃ mem held (some ⟨.file n, 0 + data.length⟩)
  have same := made.file_iff (layout.clear mem id)
  refine ⟨n, fs₄, ?_, layout₃.renamed mem renamed, ⟨renamed.sound, ?_, ?_⟩, fun p m => ?_,
    fun m => ?_, ?_⟩
  · have ran : (d.beginWrite ref id).run fs (BlockWrite.steps [data]) = (.ok (), fs₄) := by
      rw [BlockWrite.steps, List.map_singleton, List.singleton_append, ← writing_none,
        run_of_step grouped, run_of_step opened, run_of_step written, run_of_step (sync_spec ..),
        run_of_step published, BlockWrite.run]
    unfold put
    rw [ran]
    rfl
  · exact Nat.le_trans made.fresh (Nat.le_trans created.fresh renamed.fresh)
  · rw [renamed.working, ← made.working, ← created.working]
    rfl
  · rw [renamed.nodes, FileSystem.node?_setContent, created.nodes, ← same]
    by_cases block : blockAt base (ref.storeId, id) = p
    · simp [block, eq_comm]
    · by_cases temporary : temporaryAt base (ref.storeId, id) = p
      · simp [block, temporary, Ne.symm block]
      · simp [block, temporary, Ne.symm block, Ne.symm temporary]
  · rw [FileSystem.content_of_contents renamed.contents, FileSystem.content_setContent,
      created.content m, created.content n, if_pos rfl,
      FileSystem.content_of_contents made.contents]
    split
    · exact FileSystem.overwrite_of_length rfl data
    · rfl
  · rcases created.number with old | ⟨-, new⟩
    · exact .inl ((same _ n).1 old)
    · exact .inr (new ▸ made.fresh)

end Steps

end Directory

end StreamGate
