import Mathlib.Logic.Function.Basic
import StreamGate.Proofs.Storage.BlockPlaces
import StreamGate.Proofs.Storage.Serving
import StreamGate.Storage.Memory

/-!
# Directories answer as tables in memory

Puts, look-ups and handles by name on a store of blocks, in any order.  A directory that
nothing was in answers them as a table in memory does.

* `WritableStore.run`: moves on a store, with their answers.
* `Directory.Kept`: a file that no put writes to any more.
* `Directory.InStep`: a directory that holds what a table holds, with handles on the same
  content.
* `Directory.InStep.move`: a move keeps a directory and a table in step and is answered alike.
* `Directory.answers_as_memory`: the answers to all moves, and what they say about handles,
  other blocks and versions.
-/

namespace StreamGate

/-! ## Moves on a store -/

/-- A store that blocks can be put into. -/
structure WritableStore (World Handle : Type) extends BlockStore World Handle where
  put : StoreRef → BlockId → Bytes → World → Except Failure Unit × World

def Directory.writable (d : Directory) : WritableStore FileSystem DirectoryHandle :=
  { d.store with put := d.put }

def MemoryBlocks.writable : WritableStore MemoryBlocks MemoryHandle :=
  { MemoryBlocks.store with put := fun ref id data m => (.ok (), m.put ref id data) }

/-- Something that is done with a store. -/
inductive StoreMove where
  | put (ref : StoreRef) (id : BlockId) (data : Bytes)
  | stat (ref : StoreRef) (id : BlockId)
  | contains (ref : StoreRef) (id : BlockId)
  /-- Opens a block; the new handle takes the place of one that had the name. -/
  | openBlock (name : String) (ref : StoreRef) (id : BlockId)
  | read (name : String) (want : Nat)
  | size (name : String)
  | close (name : String)

namespace StoreMove

/-- The store that a move is about. -/
def ref? : StoreMove → Option StoreRef
  | put ref _ _ | stat ref _ | contains ref _ | openBlock _ ref _ => some ref
  | read _ _ | size _ | close _ => none

/-- The move with another version of its store. -/
def withVersion (version : UInt32) : StoreMove → StoreMove
  | put ref id data => put { ref with version } id data
  | stat ref id => stat { ref with version } id
  | contains ref id => contains { ref with version } id
  | openBlock name ref id => openBlock name { ref with version } id
  | read name want => read name want
  | size name => size name
  | close name => close name

/-- The move leaves the handle of a name in place. -/
def Spares (name : String) : StoreMove → Prop
  | openBlock other _ _ | close other => other ≠ name
  | _ => True

end StoreMove

/-- What a move is answered. -/
inductive StoreAnswer where
  | put (result : Except Failure Unit)
  | stat (result : Except Failure Nat)
  | contains (result : Except Failure Bool)
  | opened (result : Except Failure Unit)
  | bytes (result : Except Failure Bytes)
  | size (bytes : Nat)
  | closed
  /-- No handle has the name. -/
  | noHandle

/-- A store in use: its world and the open handles under their names. -/
structure InUse (World Handle : Type) where
  world : World
  handles : String → Option Handle := fun _ => none

namespace WritableStore

variable {World Handle : Type}

/-- Makes a move. -/
def move (bs : WritableStore World Handle) (s : InUse World Handle) :
    StoreMove → StoreAnswer × InUse World Handle
  | .put ref id data =>
    let (r, world) := bs.put ref id data s.world
    (.put r, { s with world })
  | .stat ref id =>
    let (r, world) := bs.stat ref id s.world
    (.stat r, { s with world })
  | .contains ref id =>
    let (r, world) := bs.toBlockStore.contains ref id s.world
    (.contains r, { s with world })
  | .openBlock name ref id =>
    match bs.openBlock ref id s.world with
    | (.ok h, world) => (.opened (.ok ()), ⟨world, Function.update s.handles name (some h)⟩)
    | (.error e, world) => (.opened (.error e), { s with world })
  | .read name want =>
    match s.handles name with
    | none => (.noHandle, s)
    | some h =>
      let (r, h, world) := bs.read h want s.world
      (.bytes (r.map (·.val)), ⟨world, Function.update s.handles name (some h)⟩)
  | .size name =>
    match s.handles name with
    | none => (.noHandle, s)
    | some h => (.size (bs.size h), s)
  | .close name =>
    match s.handles name with
    | none => (.noHandle, s)
    | some h => (.closed, ⟨bs.close h s.world, Function.update s.handles name none⟩)

/-- Makes moves one after another and keeps the answers. -/
def run (bs : WritableStore World Handle) :
    List StoreMove → InUse World Handle → List StoreAnswer × InUse World Handle
  | [], s => ([], s)
  | m :: rest, s =>
    let answers := bs.run rest (bs.move s m).2
    ((bs.move s m).1 :: answers.1, answers.2)

theorem run_cons (bs : WritableStore World Handle) (m : StoreMove) (rest : List StoreMove)
    (s : InUse World Handle) : bs.run (m :: rest) s =
      ((bs.move s m).1 :: (bs.run rest (bs.move s m).2).1, (bs.run rest (bs.move s m).2).2) := rfl

end WritableStore

/-- What a move and its answer read under a name. -/
def bytesOf (name : String) : StoreMove → StoreAnswer → Bytes
  | .read other _, .bytes (.ok bytes) => if other = name then bytes else []
  | _, _ => []

/-- All that was read under a name. -/
def bytesRead (name : String) (moves : List StoreMove) (answers : List StoreAnswer) : Bytes :=
  (List.zipWith (bytesOf name) moves answers).flatten

theorem bytesRead_cons (name : String) (move : StoreMove) (moves : List StoreMove)
    (answer : StoreAnswer) (answers : List StoreAnswer) :
    bytesRead name (move :: moves) (answer :: answers) =
      bytesOf name move answer ++ bytesRead name moves answers := rfl

/-! ## Tables -/

/-- Looking a block up leaves the blocks alone. -/
theorem MemoryBlocks.blocks_contains (m : MemoryBlocks) (ref : StoreRef) (id : BlockId) :
    (store.contains ref id m).2.blocks = m.blocks := by
  have stat : store.stat ref id m =
      ((m.lookup ref id).map List.length, { m with stats := m.stats + 1 }) := rfl
  unfold BlockStore.contains
  rw [stat]
  cases (m.lookup ref id).map List.length <;> rfl

/-- A handle on a table loses what is read from it and nothing else. -/
theorem MemoryBlocks.rest_of_move {t : InUse MemoryBlocks MemoryHandle} {name : String}
    {move : StoreMove} (spares : move.Spares name) {h : MemoryHandle}
    (opened : t.handles name = some h) :
    ∃ after, (writable.move t move).2.handles name = some after ∧
      h.rest = bytesOf name move (writable.move t move).1 ++ after.rest := by
  cases move with
  | put | stat | contains => exact ⟨h, opened, rfl⟩
  | openBlock other ref id =>
    refine ⟨h, ?_, rfl⟩
    simp only [WritableStore.move]
    split
    · show Function.update t.handles other _ name = _
      rw [Function.update_of_ne (Ne.symm spares), opened]
    · exact opened
  | read other want =>
    by_cases mine : other = name
    · subst mine
      simp only [WritableStore.move, opened]
      refine ⟨_, Function.update_self .., ?_⟩
      show h.rest = (if other = other then h.rest.take want else []) ++ h.rest.drop want
      rw [if_pos rfl, List.take_append_drop]
    · refine ⟨h, ?_, ?_⟩
      · simp only [WritableStore.move]
        split
        · exact opened
        · show Function.update t.handles other _ name = _
          rw [Function.update_of_ne (Ne.symm mine), opened]
      · unfold bytesOf
        split
        · rename_i same _
          cases same
          rw [if_neg mine, List.nil_append]
        · rfl
  | size other =>
    refine ⟨h, ?_, rfl⟩
    simp only [WritableStore.move]
    split <;> exact opened
  | close other =>
    refine ⟨h, ?_, rfl⟩
    simp only [WritableStore.move]
    split
    · exact opened
    · show Function.update t.handles other none name = _
      rw [Function.update_of_ne (Ne.symm spares), opened]

theorem MemoryBlocks.rest_of_run {t : InUse MemoryBlocks MemoryHandle} {name : String}
    {moves : List StoreMove} (spares : ∀ move ∈ moves, move.Spares name) {h : MemoryHandle}
    (opened : t.handles name = some h) :
    ∃ after, (writable.run moves t).2.handles name = some after ∧
      h.rest = bytesRead name moves (writable.run moves t).1 ++ after.rest := by
  induction moves generalizing t h with
  | nil => exact ⟨h, opened, rfl⟩
  | cons move moves ih =>
    obtain ⟨next, there, first⟩ := rest_of_move (spares move List.mem_cons_self) opened
    obtain ⟨after, last, more⟩ :=
      ih (fun move mem => spares move (List.mem_cons_of_mem _ mem)) there
    refine ⟨after, last, ?_⟩
    rw [first, more, WritableStore.run_cons, bytesRead_cons, List.append_assoc]

/-! ## Versions -/

section Blind

variable (d : Directory) (version : UInt32) (ref : StoreRef) (id : BlockId)

theorem Directory.blockPath_withVersion :
    d.blockPath { ref with version } id = d.blockPath ref id := rfl

theorem Directory.failure_withVersion :
    Directory.failure { ref with version } id = Directory.failure ref id := by
  funext e
  cases e <;> rfl

theorem Directory.put_withVersion (data : Bytes) (fs : FileSystem) :
    d.put { ref with version } id data fs = d.put ref id data fs := by
  have begun : d.beginWrite { ref with version } id = d.beginWrite ref id := rfl
  unfold put
  rw [begun]

theorem Directory.stat_withVersion (fs : FileSystem) :
    d.store.stat { ref with version } id fs = d.store.stat ref id fs := by
  simp only [store, blockPath_withVersion, failure_withVersion]

theorem Directory.openBlock_withVersion (fs : FileSystem) :
    d.store.openBlock { ref with version } id fs = d.store.openBlock ref id fs := by
  simp only [store, blockPath_withVersion, failure_withVersion]

/-- The version of a store is no part of a block's identity on disk. -/
theorem Directory.move_withVersion (s : InUse FileSystem DirectoryHandle) (move : StoreMove) :
    d.writable.move s (move.withVersion version) = d.writable.move s move := by
  cases move with
  | put => simp only [StoreMove.withVersion, WritableStore.move, writable, put_withVersion]
  | stat => simp only [StoreMove.withVersion, WritableStore.move, writable, stat_withVersion]
  | contains =>
    simp only [StoreMove.withVersion, WritableStore.move, writable, BlockStore.contains,
      stat_withVersion]
  | openBlock =>
    simp only [StoreMove.withVersion, WritableStore.move, writable, openBlock_withVersion]
  | read | size | close => rfl

end Blind

/-- The version of a store is no part of a block's identity in memory. -/
theorem MemoryBlocks.move_withVersion (version : UInt32) (t : InUse MemoryBlocks MemoryHandle)
    (move : StoreMove) :
    writable.move t (move.withVersion version) = writable.move t move := by
  cases move <;> rfl

/-- Moves that differ in versions only are answered alike if each move is. -/
theorem WritableStore.run_withVersion {World Handle : Type} {bs : WritableStore World Handle}
    (blind : ∀ version s move, bs.move s (move.withVersion version) = bs.move s move)
    (version : UInt32) (moves : List StoreMove) (s : InUse World Handle) :
    bs.run (moves.map (·.withVersion version)) s = bs.run moves s := by
  induction moves generalizing s with
  | nil => rfl
  | cons move moves ih => rw [List.map_cons, run_cons, run_cons, blind, ih]

/-! ## In step -/

namespace Directory

variable {d : Directory} {base : Place} {fs fs' : FileSystem} {m m' : MemoryBlocks}
  {k : String × BlockId} {n : Nat} {data : Bytes}

/-- A file that no put writes to any more. -/
structure Kept (d : Directory) (base : Place) (fs : FileSystem) (n : Nat) : Prop where
  below : n < fs.fresh
  apart : ∀ {k : String × BlockId}, d.Takes k.1 →
    fs.node? (temporaryAt base k) ≠ some (.file n)

/-- The file of a block is kept. -/
theorem Layout.kept (layout : d.Layout base d.Takes fs)
    (file : fs.node? (blockAt base k) = some (.file n)) : d.Kept base fs n where
  below := layout.sound.fresh file
  apart {k'} _ held := blockAt_ne_temporaryAt k k' (layout.sound.single file held)

theorem Kept.number_ne (kept : d.Kept base fs n) (mem : d.Takes k.1) {m : Nat}
    (stored : Stored base k fs fs' m data) : m ≠ n := by
  rintro rfl
  rcases stored.number with old | new
  · exact kept.apart mem old
  · exact absurd kept.below (Nat.not_lt.2 new)

theorem Kept.stored (kept : d.Kept base fs n) (mem : d.Takes k.1) {m : Nat}
    (stored : Stored base k fs fs' m data) :
    d.Kept base fs' n ∧ fs'.content n = fs.content n := by
  have other := kept.number_ne mem stored
  refine ⟨⟨Nat.lt_of_lt_of_le kept.below stored.fresh, fun {k'} takes held => ?_⟩, ?_⟩
  · rcases (stored.files _ n).1 held with ⟨here, -⟩ | ⟨-, -, held⟩
    · exact blockAt_ne_temporaryAt k k' here.symm
    · exact kept.apart takes held
  · rw [stored.content, if_neg other]

/-- A directory and a table that hold the same blocks. -/
structure SameBlocks (d : Directory) (base : Place) (fs : FileSystem) (m : MemoryBlocks) :
    Prop where
  layout : d.Layout base d.Takes fs
  blocks : ∀ {k}, d.Takes k.1 → fs.contentAt? (blockAt base k) = m.blocks.get? k

/-- A put changes what a block holds and nothing else. -/
theorem Layout.contentAt?_stored (layout : d.Layout base d.Takes fs) (mem : d.Takes k.1)
    (stored : Stored base k fs fs' n data) {k' : String × BlockId} :
    fs'.contentAt? (blockAt base k') =
      if k = k' then some data else fs.contentAt? (blockAt base k') := by
  split
  · rename_i same
    subst same
    have named := (stored.files (blockAt base k) n).2 (.inl ⟨rfl, rfl⟩)
    rw [FileSystem.contentAt?_of_file named, stored.content, if_pos rfl]
  · rename_i other
    have block : blockAt base k' ≠ blockAt base k := fun same => other (blockAt_inj.1 same).symm
    refine FileSystem.contentAt?_congr (fun m => ?_) fun m named => ?_
    · rw [stored.files]
      simp [block, blockAt_ne_temporaryAt k' k]
    · exact ((layout.kept named).stored mem stored).2

/-- A handle on a file that is kept and one on the same content, read as far as each other. -/
structure SameHandle (d : Directory) (base : Place) (fs : FileSystem) (h : DirectoryHandle)
    (h' : MemoryHandle) : Prop where
  file : ∃ n position, h.file = ⟨.file n, position⟩ ∧ d.Kept base fs n ∧
    (fs.content n).drop position = h'.rest
  size : h.size = h'.size

theorem SameHandle.stored {h : DirectoryHandle} {h' : MemoryHandle}
    (same : d.SameHandle base fs h h') (mem : d.Takes k.1)
    (stored : Stored base k fs fs' n data) : d.SameHandle base fs' h h' := by
  obtain ⟨⟨m, position, file, kept, rest⟩, size⟩ := same
  obtain ⟨kept', content⟩ := kept.stored mem stored
  exact ⟨⟨m, position, file, kept', content ▸ rest⟩, size⟩

section Operations

variable {ref : StoreRef} {id : BlockId}

/-- What a directory finds under a block's path is what a table has under its key. -/
theorem SameBlocks.find (same : d.SameBlocks base fs m) (mem : d.Takes ref.storeId)
    (id : BlockId) :
    (m.get? ref id = none ∧ fs.find (d.blockPath ref id) = .error .notFound) ∨
      ∃ n, m.get? ref id = some (fs.content n) ∧ fs.find (d.blockPath ref id) = .ok (.file n) ∧
        d.Kept base fs n := by
  have found := find_block same.layout mem id
  have blocks := same.blocks (k := (ref.storeId, id)) mem
  have free := same.layout.block (k := (ref.storeId, id)) mem
  cases there : fs.node? (blockAt base (ref.storeId, id)) with
  | none =>
    rw [there] at found
    rw [FileSystem.contentAt?, there] at blocks
    exact .inl ⟨blocks.symm, found⟩
  | some node =>
    cases node with
    | directory => exact absurd there free
    | file n =>
      rw [there] at found
      rw [FileSystem.contentAt?_of_file there] at blocks
      exact .inr ⟨n, blocks.symm, found, same.layout.kept there⟩

theorem SameBlocks.stat (same : d.SameBlocks base fs m) (mem : d.Takes ref.storeId)
    (id : BlockId) : d.store.stat ref id fs = ((MemoryBlocks.store.stat ref id m).1, fs) := by
  simp only [store, FileSystem.size, MemoryBlocks.store, MemoryBlocks.lookup]
  rcases same.find mem id with ⟨lacks, found⟩ | ⟨n, holds, found, -⟩
  · rw [lacks, found]
    rfl
  · rw [holds, found]
    rfl

/-- Looking does not change a table's blocks. -/
theorem SameBlocks.of_blocks (same : d.SameBlocks base fs m) (blocks : m'.blocks = m.blocks) :
    d.SameBlocks base fs m' where
  layout := same.layout
  blocks takes := blocks ▸ same.blocks takes

theorem SameBlocks.contains (same : d.SameBlocks base fs m) (mem : d.Takes ref.storeId)
    (id : BlockId) :
    d.store.contains ref id fs = ((MemoryBlocks.store.contains ref id m).1, fs) := by
  unfold BlockStore.contains
  rw [same.stat mem id]
  generalize MemoryBlocks.store.stat ref id m = out
  obtain ⟨result, after⟩ := out
  cases result <;> rfl

/-- Opening finds the same content or fails for the same reason. -/
theorem SameBlocks.openBlock (same : d.SameBlocks base fs m) (mem : d.Takes ref.storeId)
    (id : BlockId) :
    (∃ h h', d.store.openBlock ref id fs = (.ok h, fs) ∧ d.SameHandle base fs h h' ∧
      MemoryBlocks.store.openBlock ref id m = (.ok h', { m with opens := m.opens + 1 }) ∧
      m.get? ref id = some h'.rest) ∨
    ∃ e, d.store.openBlock ref id fs = (.error e, fs) ∧
      MemoryBlocks.store.openBlock ref id m = (.error e, m) := by
  simp only [store, FileSystem.openFile, MemoryBlocks.store, MemoryBlocks.lookup]
  rcases same.find mem id with ⟨lacks, found⟩ | ⟨n, holds, found, kept⟩
  · rw [lacks, found]
    exact .inr ⟨_, rfl, rfl⟩
  · rw [holds, found]
    exact .inl ⟨⟨⟨.file n, 0⟩, id, (fs.content n).length⟩,
      ⟨(fs.content n).length, fs.content n⟩, rfl, ⟨⟨n, 0, rfl, kept, rfl⟩, rfl⟩, rfl, rfl⟩

theorem SameBlocks.put (same : d.SameBlocks base fs m) (mem : d.Takes ref.storeId) (id : BlockId)
    (data : Bytes) :
    ∃ n fs', d.put ref id data fs = (.ok (), fs') ∧ Stored base (ref.storeId, id) fs fs' n data ∧
      d.SameBlocks base fs' (m.put ref id data) := by
  obtain ⟨n, fs', put, layout, stored⟩ := put_spec same.layout mem id data
  refine ⟨n, fs', put, stored, layout, fun {k} takes => ?_⟩
  rw [same.layout.contentAt?_stored (k := (ref.storeId, id)) mem stored, same.blocks takes]
  exact (Table.get?_insert ..).symm

theorem SameHandle.read {h : DirectoryHandle} {h' : MemoryHandle}
    (same : d.SameHandle base fs h h') (want : Nat) (m : MemoryBlocks) :
    ∃ after, d.store.read h want fs = ((MemoryBlocks.store.read h' want m).1, after, fs) ∧
      d.SameHandle base fs after (MemoryBlocks.store.read h' want m).2.1 := by
  obtain ⟨file, id, bytes⟩ := h
  obtain ⟨⟨n, position, file, kept, rest⟩, size⟩ := same
  subst file
  refine ⟨⟨⟨.file n, position + ((fs.content n).drop position |>.take want).length⟩, id, bytes⟩,
    ?_, ⟨n, _, rfl, kept, ?_⟩, size⟩
  · simp only [store, FileSystem.read, MemoryBlocks.store, ← rest]
    rfl
  · show _ = h'.rest.drop want
    rw [← rest, ← List.drop_drop, List.length_take, List.drop_eq_drop_iff]
    omega

end Operations

/-- The handles under a name: none in either, or two on the same content. -/
def SameOption (d : Directory) (base : Place) (fs : FileSystem) (h : Option DirectoryHandle)
    (h' : Option MemoryHandle) : Prop :=
  (h = none ∧ h' = none) ∨ ∃ a a', h = some a ∧ h' = some a' ∧ d.SameHandle base fs a a'

theorem SameOption.update {f : String → Option DirectoryHandle} {g : String → Option MemoryHandle}
    (same : ∀ name, d.SameOption base fs (f name) (g name)) {h : Option DirectoryHandle}
    {h' : Option MemoryHandle} (new : d.SameOption base fs h h') (name other : String) :
    d.SameOption base fs (Function.update f name h other) (Function.update g name h' other) := by
  by_cases here : other = name
  · subst here
    rw [Function.update_self, Function.update_self]
    exact new
  · rw [Function.update_of_ne here, Function.update_of_ne here]
    exact same other

/-- A directory and a table in use that are in step. -/
structure InStep (d : Directory) (base : Place) (s : InUse FileSystem DirectoryHandle)
    (t : InUse MemoryBlocks MemoryHandle) : Prop where
  worlds : d.SameBlocks base s.world t.world
  handles : ∀ name, d.SameOption base s.world (s.handles name) (t.handles name)

variable {s : InUse FileSystem DirectoryHandle} {t : InUse MemoryBlocks MemoryHandle}

/-- A move keeps a directory and a table in step and is answered alike. -/
theorem InStep.move (inStep : d.InStep base s t) (move : StoreMove)
    (takes : ∀ ref, move.ref? = some ref → d.Takes ref.storeId) :
    (d.writable.move s move).1 = (MemoryBlocks.writable.move t move).1 ∧
      d.InStep base (d.writable.move s move).2 (MemoryBlocks.writable.move t move).2 := by
  obtain ⟨worlds, handles⟩ := inStep
  cases move with
  | put ref id data =>
    obtain ⟨n, fs', put, stored, after⟩ := worlds.put (takes ref rfl) id data
    have moved : d.writable.move s (.put ref id data) =
        (.put (.ok ()), { s with world := fs' }) := by
      simp only [WritableStore.move, Directory.writable, put]
    rw [moved]
    refine ⟨rfl, after, fun name => ?_⟩
    rcases handles name with none | ⟨h, h', opened, opened', same⟩
    · exact .inl none
    · exact .inr ⟨h, h', opened, opened',
        same.stored (k := (ref.storeId, id)) (takes ref rfl) stored⟩
  | stat ref id =>
    have moved : d.writable.move s (.stat ref id) =
        (.stat (MemoryBlocks.store.stat ref id t.world).1, s) := by
      simp only [WritableStore.move, Directory.writable, worlds.stat (takes ref rfl) id]
    rw [moved]
    exact ⟨rfl, worlds.of_blocks rfl, handles⟩
  | contains ref id =>
    have moved : d.writable.move s (.contains ref id) =
        (.contains (MemoryBlocks.store.contains ref id t.world).1, s) := by
      simp only [WritableStore.move, Directory.writable, worlds.contains (takes ref rfl) id]
    rw [moved]
    exact ⟨rfl, worlds.of_blocks (MemoryBlocks.blocks_contains t.world ref id), handles⟩
  | openBlock name ref id =>
    rcases worlds.openBlock (takes ref rfl) id with
      ⟨h, h', opened, same, opened', -⟩ | ⟨e, failed, failed'⟩
    · have moved : d.writable.move s (.openBlock name ref id) =
          (.opened (.ok ()), ⟨s.world, Function.update s.handles name (some h)⟩) := by
        simp only [WritableStore.move, Directory.writable, opened]
      have moved' : MemoryBlocks.writable.move t (.openBlock name ref id) =
          (.opened (.ok ()), ⟨{ t.world with opens := t.world.opens + 1 },
            Function.update t.handles name (some h')⟩) := by
        simp only [WritableStore.move, MemoryBlocks.writable, opened']
      rw [moved, moved']
      exact ⟨rfl, worlds.of_blocks rfl,
        SameOption.update handles (.inr ⟨h, h', rfl, rfl, same⟩) name⟩
    · have moved : d.writable.move s (.openBlock name ref id) = (.opened (.error e), s) := by
        simp only [WritableStore.move, Directory.writable, failed]
      have moved' : MemoryBlocks.writable.move t (.openBlock name ref id) =
          (.opened (.error e), t) := by
        simp only [WritableStore.move, MemoryBlocks.writable, failed']
      rw [moved, moved']
      exact ⟨rfl, worlds, handles⟩
  | read name want =>
    rcases handles name with ⟨none, none'⟩ | ⟨h, h', opened, opened', same⟩
    · simp only [WritableStore.move, none, none', true_and]
      exact ⟨worlds, handles⟩
    · obtain ⟨after, read, beside⟩ := same.read want t.world
      have moved : d.writable.move s (.read name want) =
          (.bytes ((MemoryBlocks.store.read h' want t.world).1.map (·.val)),
            ⟨s.world, Function.update s.handles name (some after)⟩) := by
        simp only [WritableStore.move, opened, Directory.writable, read]
      have moved' : MemoryBlocks.writable.move t (.read name want) =
          (.bytes ((MemoryBlocks.store.read h' want t.world).1.map (·.val)),
            ⟨t.world, Function.update t.handles name
              (some (MemoryBlocks.store.read h' want t.world).2.1)⟩) := by
        simp only [WritableStore.move, opened']
        rfl
      rw [moved, moved']
      exact ⟨rfl, worlds, SameOption.update handles (.inr ⟨after, _, rfl, rfl, beside⟩) name⟩
  | size name =>
    rcases handles name with ⟨none, none'⟩ | ⟨h, h', opened, opened', same⟩
    · simp only [WritableStore.move, none, none', true_and]
      exact ⟨worlds, handles⟩
    · simp only [WritableStore.move, opened, opened']
      exact ⟨congrArg _ same.size, worlds, handles⟩
  | close name =>
    rcases handles name with ⟨none, none'⟩ | ⟨h, h', opened, opened', same⟩
    · simp only [WritableStore.move, none, none', true_and]
      exact ⟨worlds, handles⟩
    · simp only [WritableStore.move, opened, opened', true_and]
      exact ⟨worlds, SameOption.update handles (.inl ⟨rfl, rfl⟩) name⟩

/-- Moves are answered alike. -/
theorem InStep.run (inStep : d.InStep base s t) {moves : List StoreMove}
    (takes : ∀ move ∈ moves, ∀ ref, move.ref? = some ref → d.Takes ref.storeId) :
    (d.writable.run moves s).1 = (MemoryBlocks.writable.run moves t).1 ∧
      d.InStep base (d.writable.run moves s).2 (MemoryBlocks.writable.run moves t).2 := by
  induction moves generalizing s t with
  | nil => exact ⟨rfl, inStep⟩
  | cons move moves ih =>
    obtain ⟨answer, inStep'⟩ := inStep.move move (takes move List.mem_cons_self)
    obtain ⟨answers, after⟩ :=
      ih inStep' fun move mem => takes move (List.mem_cons_of_mem _ mem)
    rw [WritableStore.run_cons, WritableStore.run_cons, answer, answers]
    exact ⟨rfl, after⟩

/-- Before anything was put, a directory and a table are in step. -/
theorem Blank.inStep (blank : d.Blank base fs) :
    d.InStep base ⟨fs, fun _ => none⟩ ⟨{}, fun _ => none⟩ where
  worlds := by
    refine ⟨blank.layout id, fun {k} _ => ?_⟩
    unfold FileSystem.contentAt? blockAt
    rw [blank.empty]
    rfl
  handles _ := .inl ⟨rfl, rfl⟩

/-- A handle reads on from where it stands. -/
theorem InStep.read (inStep : d.InStep base s t) {name : String} {h' : MemoryHandle}
    (opened : t.handles name = some h') (want : Nat) :
    (d.writable.move s (.read name want)).1 = .bytes (.ok (h'.rest.take want)) := by
  rw [(inStep.move (.read name want) nofun).1]
  simp only [WritableStore.move, opened]
  rfl

/-- A handle hands out what its block held when it was opened, whatever is put afterwards. -/
theorem InStep.handle (inStep : d.InStep base s t) {ref : StoreRef} {id : BlockId}
    (known : d.Takes ref.storeId) (holds : s.world.readFile (d.blockPath ref id) = .ok data)
    {name : String} {moves : List StoreMove} (spares : ∀ move ∈ moves, move.Spares name)
    (takes : ∀ move ∈ moves, ∀ ref, move.ref? = some ref → d.Takes ref.storeId) :
    ∃ rest, data = bytesRead name moves
        (d.writable.run moves (d.writable.move s (.openBlock name ref id)).2).1 ++ rest ∧
      ∀ want, (d.writable.move (d.writable.run moves
          (d.writable.move s (.openBlock name ref id)).2).2 (.read name want)).1 =
        .bytes (.ok (rest.take want)) := by
  have held : t.world.get? ref id = some data := by
    rcases inStep.worlds.find known id with ⟨-, found⟩ | ⟨n, there, found, -⟩
    · rw [FileSystem.readFile, found] at holds
      cases holds
    · rw [FileSystem.readFile, found] at holds
      cases holds
      exact there
  have opened : (MemoryBlocks.writable.move t (.openBlock name ref id)).2.handles name =
      some ⟨data.length, data⟩ := by
    simp only [WritableStore.move, MemoryBlocks.writable, MemoryBlocks.store,
      MemoryBlocks.lookup, held]
    exact Function.update_self ..
  obtain ⟨-, begun⟩ := inStep.move (.openBlock name ref id) fun other same => by
    cases same
    exact known
  obtain ⟨answers, after⟩ := begun.run takes
  obtain ⟨h', last, read⟩ := MemoryBlocks.rest_of_run spares opened
  rw [← answers] at read
  exact ⟨h'.rest, read, after.read last⟩

/-- A directory that nothing was in answers all moves as a table in memory does.  A handle hands
out what its block held when it was opened, a put changes no other block, and versions change
nothing. -/
theorem answers_as_memory {d : Directory} {base : Place} {fs : FileSystem}
    (blank : d.Blank base fs) {moves : List StoreMove}
    (takes : ∀ move ∈ moves, ∀ ref, move.ref? = some ref → d.Takes ref.storeId) :
    let s : InUse FileSystem DirectoryHandle := ⟨fs, fun _ => none⟩
    let t : InUse MemoryBlocks MemoryHandle := ⟨{}, fun _ => none⟩
    (d.writable.run moves s).1 = (MemoryBlocks.writable.run moves t).1 ∧
    (∀ before name ref id after data, moves = before ++ .openBlock name ref id :: after →
      (∀ move ∈ after, move.Spares name) →
      (d.writable.run before s).2.world.readFile (d.blockPath ref id) = .ok data →
      let opened := (d.writable.move (d.writable.run before s).2 (.openBlock name ref id)).2
      ∃ rest, data = bytesRead name after (d.writable.run after opened).1 ++ rest ∧
        ∀ want, (d.writable.move (d.writable.run after opened).2 (.read name want)).1 =
          .bytes (.ok (rest.take want))) ∧
    (∀ ref id data ref' id', d.Takes ref.storeId → d.Takes ref'.storeId →
      (ref.storeId, id) ≠ (ref'.storeId, id') →
      let files := (d.writable.run moves s).2.world
      (d.put ref id data files).2.readFile (d.blockPath ref' id') =
        files.readFile (d.blockPath ref' id')) ∧
    ∀ moves', moves'.map (·.withVersion 0) = moves.map (·.withVersion 0) →
      (d.writable.run moves' s).1 = (d.writable.run moves s).1 ∧
        (MemoryBlocks.writable.run moves' t).1 = (MemoryBlocks.writable.run moves t).1 := by
  intro s t
  obtain ⟨answers, inStep⟩ := blank.inStep.run takes
  refine ⟨answers, ?_, ?_, fun moves' same => ⟨?_, ?_⟩⟩
  · rintro before name ref id after data rfl spares holds opened
    exact (blank.inStep.run fun move mem => takes move (List.mem_append_left _ mem)).2.handle
      (takes (.openBlock name ref id) (by simp) ref rfl) holds spares
      fun move mem => takes move (by simp [mem])
  · intro ref id data ref' id' known known' other files
    obtain ⟨n, fs', put, stored, after⟩ := inStep.worlds.put known id data
    rw [put, readFile_block after.layout known', readFile_block inStep.worlds.layout known',
      inStep.worlds.layout.contentAt?_stored (k := (ref.storeId, id)) known stored, if_neg other]
  · rw [← WritableStore.run_withVersion d.move_withVersion 0, same,
      WritableStore.run_withVersion d.move_withVersion]
  · rw [← WritableStore.run_withVersion MemoryBlocks.move_withVersion 0, same,
      WritableStore.run_withVersion MemoryBlocks.move_withVersion]

/-- A handle on a block that is put again, by the name of another version. -/
theorem answers_as_memory_of_overwritten :
    let id : BlockId := .uniform '1' (by decide)
    let moves : List StoreMove := [.put ⟨"s", 1⟩ id [10], .openBlock "h" ⟨"s", 1⟩ id,
      .put ⟨"s", 2⟩ id [11, 12], .read "h" 8, .stat ⟨"s", 1⟩ id]
    (writable ⟨"/"⟩ |>.run moves ⟨{}, fun _ => none⟩).1 =
      [.put (.ok ()), .opened (.ok ()), .put (.ok ()), .bytes (.ok [10]), .stat (.ok 2)] := by
  intro id moves
  refine (answers_as_memory blank_root fun move mem ref same => ?_).1.trans rfl
  simp only [moves, List.mem_cons, List.not_mem_nil, or_false] at mem
  rcases mem with rfl | rfl | rfl | rfl | rfl
  all_goals cases same
  all_goals exact takes_root

end Directory

end StreamGate
