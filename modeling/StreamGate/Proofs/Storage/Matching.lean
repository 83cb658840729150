import StreamGate.Proofs.Storage.Serving
import StreamGate.Storage.Directory

/-!
# Stores that answer alike

Two stores answer alike (`BlockStore.Matches`) if, in worlds that are related, an
operation goes well in both, to the same effect, or fails in both for the same
reason.  After a failure nothing is said about what is left.

Tables in memory answer alike on the blocks that they both hold, or both lack
(`MemoryBlocks.matches_store`), directories on the files that are the same
(`Directory.matches_store`).  Planned faults, counting and larger worlds change
nothing about it.
-/

namespace StreamGate

/-- Two outcomes of the same operation: both go well, with related results, or both
fail for the same reason. -/
inductive Alike {ε α β σ τ : Type} (related : α → β → Prop) (after : σ → τ → Prop) :
    Except ε α × σ → Except ε β × τ → Prop
  | ok {a : α} {b : β} {s : σ} {t : τ} (same : related a b) (left : after s t) :
      Alike related after (.ok a, s) (.ok b, t)
  | error {s : σ} {t : τ} (e : ε) : Alike related after (.error e, s) (.error e, t)

variable {World World' Handle Handle' : Type}

/-- Two stores answer alike on the blocks with the given ids. -/
structure BlockStore.Matches (bs : BlockStore World Handle) (bs' : BlockStore World' Handle')
    (ref : StoreRef) (ids : List BlockId) (world : World → World' → Prop)
    (handle : Handle → Handle' → Prop) : Prop where
  stat : ∀ {id w w'}, id ∈ ids → world w w' →
    Alike Eq world (bs.stat ref id w) (bs'.stat ref id w')
  openBlock : ∀ {id w w'}, id ∈ ids → world w w' →
    Alike (fun h h' => handle h h' ∧ bs.size h = bs'.size h') world
      (bs.openBlock ref id w) (bs'.openBlock ref id w')
  read : ∀ {h h' w w'} (want : Nat), handle h h' → world w w' →
    Alike Eq (fun s t => handle s.1 t.1 ∧ world s.2 t.2) (bs.read h want w) (bs'.read h' want w')
  close : ∀ {h h' w w'}, handle h h' → world w w' → world (bs.close h w) (bs'.close h' w')

/-- What comes of two operations, in another form. -/
theorem Alike.map {ε α β σ τ : Type} {after : σ → τ → Prop} {out : Except ε α × σ}
    {out' : Except ε α × τ} (same : Alike Eq after out out') (f : α → β) :
    Alike Eq after (out.1.map f, out.2) (out'.1.map f, out'.2) := by
  cases same with
  | ok same left =>
    cases same
    exact .ok rfl left
  | error e => exact .error e

/-! ## Larger worlds -/

section Larger

variable {Outer Outer' : Type} {bs : BlockStore World Handle} {bs' : BlockStore World' Handle'}
  {outer : BlockStore Outer Handle} {outer' : BlockStore Outer' Handle'} {get : Outer → World}
  {get' : Outer' → World'} {ref : StoreRef} {ids : List BlockId} {world : World → World' → Prop}
  {handle : Handle → Handle' → Prop}

/-- Stores in larger worlds answer alike if those that they mirror do. -/
theorem BlockStore.Matches.within (alike : bs.Matches bs' ref ids world handle)
    (mirrors : outer.Mirrors bs get) (mirrors' : outer'.Mirrors bs' get') :
    outer.Matches outer' ref ids (fun o o' => world (get o) (get' o')) handle where
  stat {id o o'} mem worlds := by
    have looked := alike.stat mem worlds
    rw [← mirrors.stat, ← mirrors'.stat] at looked
    generalize outer.stat ref id o = out at looked ⊢
    generalize outer'.stat ref id o' = out' at looked ⊢
    obtain ⟨r, v⟩ := out
    obtain ⟨r', v'⟩ := out'
    cases looked with
    | ok same after => exact .ok same after
    | error e => exact .error e
  openBlock {id o o'} mem worlds := by
    have opened := alike.openBlock mem worlds
    rw [← mirrors.openBlock, ← mirrors'.openBlock] at opened
    rw [mirrors.size, mirrors'.size]
    generalize outer.openBlock ref id o = out at opened ⊢
    generalize outer'.openBlock ref id o' = out' at opened ⊢
    obtain ⟨r, v⟩ := out
    obtain ⟨r', v'⟩ := out'
    cases opened with
    | ok handles after => exact .ok handles after
    | error e => exact .error e
  read {h h' o o'} want handles worlds := by
    have read := alike.read want handles worlds
    rw [← mirrors.read, ← mirrors'.read] at read
    generalize outer.read h want o = out at read ⊢
    generalize outer'.read h' want o' = out' at read ⊢
    obtain ⟨r, h₁, v⟩ := out
    obtain ⟨r', h₁', v'⟩ := out'
    cases read with
    | ok same after => exact .ok same after
    | error e => exact .error e
  close {h h' o o'} handles worlds := by
    show world (get (outer.close h o)) (get' (outer'.close h' o'))
    rw [mirrors.close, mirrors'.close]
    exact alike.close handles worlds

/-- What the stores leave alone stays related. -/
theorem BlockStore.Matches.along {View View' : Type} {view : World → View} {view' : World' → View'}
    (alike : bs.Matches bs' ref ids world handle) (keeps : ∀ v, bs.Keeps fun w => view w = v)
    (keeps' : ∀ v, bs'.Keeps fun w => view' w = v) (related : View → View' → Prop) :
    bs.Matches bs' ref ids (fun w w' => world w w' ∧ related (view w) (view' w')) handle where
  stat {id w w'} mem := by
    rintro ⟨worlds, views⟩
    have looked := alike.stat mem worlds
    have same := (keeps (view w)).stat ref id rfl
    have same' := (keeps' (view' w')).stat ref id rfl
    generalize bs.stat ref id w = out at looked same ⊢
    generalize bs'.stat ref id w' = out' at looked same' ⊢
    cases looked with
    | ok size after => exact .ok size ⟨after, same ▸ same' ▸ views⟩
    | error e => exact .error e
  openBlock {id w w'} mem := by
    rintro ⟨worlds, views⟩
    have opened := alike.openBlock mem worlds
    have same := (keeps (view w)).openBlock ref id rfl
    have same' := (keeps' (view' w')).openBlock ref id rfl
    generalize bs.openBlock ref id w = out at opened same ⊢
    generalize bs'.openBlock ref id w' = out' at opened same' ⊢
    cases opened with
    | ok handles after => exact .ok handles ⟨after, same ▸ same' ▸ views⟩
    | error e => exact .error e
  read {h h' w w'} want handles := by
    rintro ⟨worlds, views⟩
    have read := alike.read want handles worlds
    have same := (keeps (view w)).read h want rfl
    have same' := (keeps' (view' w')).read h' want rfl
    generalize bs.read h want w = out at read same ⊢
    generalize bs'.read h' want w' = out' at read same' ⊢
    cases read with
    | ok bytes after => exact .ok bytes ⟨after.1, after.2, same ▸ same' ▸ views⟩
    | error e => exact .error e
  close {h h' w w'} handles := by
    rintro ⟨worlds, views⟩
    refine ⟨alike.close handles worlds, ?_⟩
    rw [(keeps (view w)).close h rfl, (keeps' (view' w')).close h' rfl]
    exact views

end Larger

/-! ## Planned faults -/

/-- Two handles with the same faults, read as far as each other. -/
structure FaultedHandle.Beside (handle : Handle → Handle' → Prop) (h : FaultedHandle Handle)
    (h' : FaultedHandle Handle') : Prop where
  inner : handle h.inner h'.inner
  id : h.id = h'.id
  fault : h.fault = h'.fault
  served : h.served = h'.served

/-- Stores that misbehave as planned answer alike where the plans are the same. -/
theorem BlockStore.Matches.faulted {bs : BlockStore World Handle} {bs' : BlockStore World' Handle'}
    {ref : StoreRef} {ids : List BlockId} {world : World → World' → Prop}
    {handle : Handle → Handle' → Prop} {plan plan' : FaultPlan}
    (alike : bs.Matches bs' ref ids world handle)
    (plans : ∀ id ∈ ids, plan.get? id = plan'.get? id) :
    bs.faulted.Matches bs'.faulted ref ids
      (fun w w' => world w.inner w'.inner ∧ w.plan = plan ∧ w'.plan = plan')
      (FaultedHandle.Beside handle) where
  stat {id w w'} mem := by
    rintro ⟨worlds, rfl, rfl⟩
    have looked := alike.stat mem worlds
    simp only [BlockStore.faulted]
    rw [← plans id mem]
    split
    · exact .error _
    · show Alike Eq _
        ((bs.stat ref id w.inner).1, (⟨(bs.stat ref id w.inner).2, w.plan⟩ : Faulted World))
        ((bs'.stat ref id w'.inner).1, (⟨(bs'.stat ref id w'.inner).2, w'.plan⟩ : Faulted World'))
      generalize bs.stat ref id w.inner = out at looked ⊢
      generalize bs'.stat ref id w'.inner = out' at looked ⊢
      cases looked with
      | ok size after => exact .ok size ⟨after, rfl, rfl⟩
      | error e => exact .error e
  openBlock {id w w'} mem := by
    rintro ⟨worlds, rfl, rfl⟩
    have opened := alike.openBlock mem worlds
    simp only [BlockStore.faulted]
    rw [← plans id mem]
    generalize bs.openBlock ref id w.inner = out at opened ⊢
    generalize bs'.openBlock ref id w'.inner = out' at opened ⊢
    cases opened with
    | ok handles after =>
      exact .ok ⟨⟨handles.1, rfl, rfl, rfl⟩, congrArg _ handles.2⟩ ⟨after, rfl, rfl⟩
    | error e => exact .error e
  read {h h' w w'} want handles := by
    rintro ⟨worlds, rfl, rfl⟩
    obtain ⟨inner, id, fault, served⟩ := h
    obtain ⟨inner', id', fault', served'⟩ := h'
    obtain ⟨handles, rfl, rfl, rfl⟩ := handles
    simp only [BlockStore.faulted]
    split
    · exact .error _
    · rename_i n _
      have read := alike.read n handles worlds
      generalize bs.read inner n w.inner = out at read ⊢
      generalize bs'.read inner' n w'.inner = out' at read ⊢
      cases read with
      | ok bytes after =>
        cases bytes
        exact .ok rfl ⟨⟨after.1, rfl, rfl, rfl⟩, after.2, rfl, rfl⟩
      | error e => exact .error e
  close handles := by
    rintro ⟨worlds, rfl, rfl⟩
    exact ⟨alike.close handles.inner worlds, rfl, rfl⟩

/-! ## Blocks in memory -/

/-- Tables answer alike on the blocks that they both hold, or both lack. -/
theorem MemoryBlocks.matches_store {ref : StoreRef} {ids : List BlockId}
    {table table' : Table (String × BlockId) Bytes}
    (same : ∀ id ∈ ids, table.get? (ref.storeId, id) = table'.get? (ref.storeId, id)) :
    store.Matches store ref ids (fun m m' => m.blocks = table ∧ m'.blocks = table') Eq where
  stat {id m m'} mem := by
    rintro ⟨rfl, rfl⟩
    have found : m.get? ref id = m'.get? ref id := same id mem
    simp only [store, lookup, found]
    cases m'.get? ref id with
    | none => exact .error _
    | some data => exact .ok rfl ⟨rfl, rfl⟩
  openBlock {id m m'} mem := by
    rintro ⟨rfl, rfl⟩
    have found : m.get? ref id = m'.get? ref id := same id mem
    simp only [store, lookup, found]
    cases m'.get? ref id with
    | none => exact .error _
    | some data => exact .ok ⟨rfl, rfl⟩ ⟨rfl, rfl⟩
  read {h h' m m'} want := by
    rintro rfl tables
    exact .ok rfl ⟨rfl, tables⟩
  close _ tables := tables

/-! ## Blocks on disk -/

namespace FileSystem

/-- Two directories, or two files with the same content. -/
inductive SameNode (fs fs' : FileSystem) : Node → Node → Prop
  | directory : SameNode fs fs' .directory .directory
  | file {n n' : Nat} (content : fs.content n = fs'.content n') :
      SameNode fs fs' (.file n) (.file n')

variable {fs fs' : FileSystem}

theorem SameNode.size {node node' : Node} (same : SameNode fs fs' node node') :
    fs.nodeSize node = fs'.nodeSize node' := by
  cases same with
  | directory => rfl
  | file content => exact congrArg List.length content

/-- Two paths that lead to the same thing, or nowhere for the same reason. -/
inductive SameEnd (fs fs' : FileSystem) : Except IoError Node → Except IoError Node → Prop
  | ok {node node' : Node} (nodes : SameNode fs fs' node node') :
      SameEnd fs fs' (.ok node) (.ok node')
  | error (e : IoError) : SameEnd fs fs' (.error e) (.error e)

/-- The same thing at a path of two file systems, or nothing for the same reason. -/
def SameAt (fs fs' : FileSystem) (path : String) : Prop :=
  SameEnd fs fs' (fs.find path) (fs'.find path)

end FileSystem

/-- Two handles on the same content, read as far as each other. -/
structure DirectoryHandle.Beside (fs fs' : FileSystem) (h h' : DirectoryHandle) : Prop where
  node : fs.SameNode fs' h.file.node h'.file.node
  position : h.file.position = h'.file.position
  id : h.id = h'.id
  size : h.size = h'.size

namespace Directory

variable {d : Directory} {fs fs' : FileSystem} {ref : StoreRef}

theorem stat_alike {id : BlockId} (same : fs.SameAt fs' (d.blockPath ref id)) :
    Alike Eq (fun f f' => f = fs ∧ f' = fs') (d.store.stat ref id fs)
      (d.store.stat ref id fs') := by
  unfold FileSystem.SameAt at same
  simp only [store, FileSystem.size]
  generalize fs.find (d.blockPath ref id) = node at same ⊢
  generalize fs'.find (d.blockPath ref id) = node' at same ⊢
  cases same with
  | ok nodes => exact .ok nodes.size ⟨rfl, rfl⟩
  | error e => exact .error (failure ref id e)

theorem openBlock_alike {id : BlockId} (same : fs.SameAt fs' (d.blockPath ref id)) :
    Alike (fun h h' => DirectoryHandle.Beside fs fs' h h' ∧ d.store.size h = d.store.size h')
      (fun f f' => f = fs ∧ f' = fs') (d.store.openBlock ref id fs)
      (d.store.openBlock ref id fs') := by
  unfold FileSystem.SameAt at same
  simp only [store, FileSystem.openFile]
  generalize fs.find (d.blockPath ref id) = node at same ⊢
  generalize fs'.find (d.blockPath ref id) = node' at same ⊢
  cases same with
  | ok nodes => exact .ok ⟨⟨nodes, rfl, rfl, nodes.size⟩, nodes.size⟩ ⟨rfl, rfl⟩
  | error e => exact .error (failure ref id e)

theorem read_alike {h h' : DirectoryHandle} (want : Nat) (beside : h.Beside fs fs' h') :
    Alike Eq (fun s t => DirectoryHandle.Beside fs fs' s.1 t.1 ∧ s.2 = fs ∧ t.2 = fs')
      (d.store.read h want fs) (d.store.read h' want fs') := by
  obtain ⟨⟨node, position⟩, id, size⟩ := h
  obtain ⟨⟨node', position'⟩, id', size'⟩ := h'
  obtain ⟨nodes, rfl, rfl, rfl⟩ := beside
  simp only [store, FileSystem.read]
  cases nodes with
  | directory => exact .error _
  | file content =>
    simp only [content]
    exact .ok rfl ⟨⟨.file content, rfl, rfl, rfl⟩, rfl, rfl⟩

/-- Directories answer alike on the blocks whose files are the same. -/
theorem matches_store {ids : List BlockId}
    (same : ∀ id ∈ ids, fs.SameAt fs' (d.blockPath ref id)) :
    d.store.Matches d.store ref ids (fun f f' => f = fs ∧ f' = fs')
      (DirectoryHandle.Beside fs fs') where
  stat mem := by
    rintro ⟨rfl, rfl⟩
    exact stat_alike (same _ mem)
  openBlock mem := by
    rintro ⟨rfl, rfl⟩
    exact openBlock_alike (same _ mem)
  read want beside := by
    rintro ⟨rfl, rfl⟩
    exact read_alike want beside
  close _ files := files

end Directory

end StreamGate
