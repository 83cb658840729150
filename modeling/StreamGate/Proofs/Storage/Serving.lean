import StreamGate.Storage.FaultPlan
import StreamGate.Storage.Memory
import StreamGate.Storage.Metered

/-!
# Stores that keep their word

What a transfer relies on.  A `Shelf` says which bytes are stored under which
id and what an open handle has still to read; a store that is `Honest` about a
shelf answers accordingly, or fails in one of the ways the shelf allows.

* A read hands out a prefix of what is left.  It may be cut short anywhere, but
  it hands out at least one byte until nothing is left.
* A call that fails leaves the handle where it was.
* `Measured` and `Sized` add that the sizes are true, those that are looked up
  and those that handles report.

A shelf knows the visits made so far.  Most stores do not care; one that records
them, `BlockStore.recorded`, ties them to its record, so a statement about the
visits of a transfer is a statement about that record.

The blocks in memory are honest, and recording, counting and planned faults keep
a store honest.
-/

namespace StreamGate

/-! ## Visits -/

/-- A block that was asked for. -/
inductive Visit where
  /-- Its size was looked up. -/
  | sized (id : BlockId)
  | opened (id : BlockId)
deriving DecidableEq

/-- A world with a record of the visits, oldest first. -/
structure Recorded (World : Type) where
  inner : World
  visits : List Visit := []

/-- Records the visits to a store.  A failed look-up is a visit, a failed open
is none. -/
def BlockStore.recorded {World Handle : Type} (bs : BlockStore World Handle) :
    BlockStore (Recorded World) Handle where
  stat ref id w :=
    let (r, inner) := bs.stat ref id w.inner
    (r, ⟨inner, w.visits ++ [.sized id]⟩)
  openBlock ref id w :=
    match bs.openBlock ref id w.inner with
    | (.ok h, inner) => (.ok h, ⟨inner, w.visits ++ [.opened id]⟩)
    | (.error e, inner) => (.error e, ⟨inner, w.visits⟩)
  size := bs.size
  read h want w :=
    let (r, h, inner) := bs.read h want w.inner
    (r, h, ⟨inner, w.visits⟩)
  close h w := ⟨bs.close h w.inner, w.visits⟩

/-! ## Shelves -/

/-- What is known of a store. -/
structure Shelf (World Handle : Type) where
  /-- The store may be in this world after these visits. -/
  good : List Visit → World → Prop
  /-- The bytes stored under an id. -/
  content : BlockId → Bytes
  /-- The bytes a handle has still to read. -/
  left : World → Handle → Bytes → Prop
  /-- A way in which a call may fail. -/
  fault : Failure → Prop

namespace Shelf

variable {World Handle : Type}

/-- The answer to opening a block. -/
def Opens (shelf : Shelf World Handle) (visits : List Visit) (id : BlockId) :
    Except Failure Handle × World → Prop
  | (.ok h, w) => shelf.good (visits ++ [.opened id]) w ∧ shelf.left w h (shelf.content id)
  | (.error e, w) => shelf.good visits w ∧ shelf.fault e

/-- The answer to reading from a handle with `rest` left. -/
def Reads (shelf : Shelf World Handle) (visits : List Visit) (rest : Bytes) (want : Nat) :
    Except Failure { bytes : Bytes // bytes.length ≤ want } × Handle × World → Prop
  | (.ok bytes, h, w) =>
    shelf.good visits w ∧ (∃ more, rest = bytes.val ++ more ∧ shelf.left w h more) ∧
      (bytes.val = [] → want = 0 ∨ rest = [])
  | (.error e, h, w) => shelf.good visits w ∧ shelf.left w h rest ∧ shelf.fault e

/-- The answer to looking a size up. -/
def Sizes (shelf : Shelf World Handle) (visits : List Visit) (id : BlockId) :
    Except Failure Nat × World → Prop
  | (.ok size, w) =>
    shelf.good (visits ++ [.sized id]) w ∧ size = (shelf.content id).length
  | (.error e, w) => shelf.good (visits ++ [.sized id]) w ∧ shelf.fault e

/-- Nothing fails. -/
def Reliable (shelf : Shelf World Handle) : Prop := ∀ e, ¬ shelf.fault e

end Shelf

namespace BlockStore

variable {World Handle : Type}

/-- A store hands out the blocks with the given ids as the shelf holds them. -/
structure Honest (bs : BlockStore World Handle) (shelf : Shelf World Handle) (ref : StoreRef)
    (ids : List BlockId) : Prop where
  openBlock : ∀ {visits w id}, id ∈ ids → shelf.good visits w →
    shelf.Opens visits id (bs.openBlock ref id w)
  read : ∀ {visits w h rest} (want : Nat), shelf.good visits w → shelf.left w h rest →
    shelf.Reads visits rest want (bs.read h want w)
  close : ∀ {visits w} (h : Handle), shelf.good visits w → shelf.good visits (bs.close h w)

/-- The sizes a store looks up are those of the shelf. -/
structure Measured (bs : BlockStore World Handle) (shelf : Shelf World Handle) (ref : StoreRef)
    (ids : List BlockId) : Prop where
  stat : ∀ {visits w id}, id ∈ ids → shelf.good visits w →
    shelf.Sizes visits id (bs.stat ref id w)

/-- The sizes that new handles report are those of the shelf. -/
structure Sized (bs : BlockStore World Handle) (shelf : Shelf World Handle) (ref : StoreRef)
    (ids : List BlockId) : Prop where
  size : ∀ {visits w id h w'}, id ∈ ids → shelf.good visits w →
    bs.openBlock ref id w = (.ok h, w') → bs.size h = (shelf.content id).length

/-- A store that is honest about some blocks is so about fewer. -/
theorem Honest.subset {bs : BlockStore World Handle} {shelf : Shelf World Handle} {ref : StoreRef}
    {ids ids' : List BlockId} (honest : bs.Honest shelf ref ids) (sub : ids' ⊆ ids) :
    bs.Honest shelf ref ids' where
  openBlock mem := honest.openBlock (sub mem)
  read := honest.read
  close := honest.close

end BlockStore

/-! ## Recording -/

section Recording

variable {World Handle : Type} {bs : BlockStore World Handle} {shelf : Shelf World Handle}
  {ref : StoreRef} {ids : List BlockId}

/-- The shelf of a store that records visits: the record is what was visited. -/
def Shelf.recorded (shelf : Shelf World Handle) : Shelf (Recorded World) Handle where
  good visits w := shelf.good visits w.inner ∧ w.visits = visits
  content := shelf.content
  left w := shelf.left w.inner
  fault := shelf.fault

theorem BlockStore.recorded_stat (bs : BlockStore World Handle) (ref : StoreRef) (id : BlockId)
    (w : Recorded World) :
    bs.recorded.stat ref id w =
      ((bs.stat ref id w.inner).1, ⟨(bs.stat ref id w.inner).2, w.visits ++ [.sized id]⟩) := rfl

theorem BlockStore.recorded_read (bs : BlockStore World Handle) (h : Handle) (want : Nat)
    (w : Recorded World) :
    bs.recorded.read h want w =
      ((bs.read h want w.inner).1, (bs.read h want w.inner).2.1,
        ⟨(bs.read h want w.inner).2.2, w.visits⟩) := rfl

theorem BlockStore.Honest.recorded (honest : bs.Honest shelf ref ids) :
    bs.recorded.Honest shelf.recorded ref ids where
  openBlock {visits w id} mem := by
    rintro ⟨good, rfl⟩
    have h := honest.openBlock mem good
    simp only [BlockStore.recorded]
    generalize bs.openBlock ref id w.inner = answer at h ⊢
    obtain ⟨e | handle, w'⟩ := answer
    · exact ⟨⟨h.1, rfl⟩, h.2⟩
    · exact ⟨⟨h.1, rfl⟩, h.2⟩
  read {visits w h rest} want := by
    rintro ⟨good, rfl⟩ left
    have hread := honest.read want good left
    rw [BlockStore.recorded_read]
    generalize bs.read h want w.inner = answer at hread ⊢
    obtain ⟨e | bytes, handle, w'⟩ := answer
    · exact ⟨⟨hread.1, rfl⟩, hread.2⟩
    · exact ⟨⟨hread.1, rfl⟩, hread.2⟩
  close h := by
    rintro ⟨good, rfl⟩
    exact ⟨honest.close h good, rfl⟩

theorem BlockStore.Measured.recorded (measured : bs.Measured shelf ref ids) :
    bs.recorded.Measured shelf.recorded ref ids where
  stat {visits w id} mem := by
    rintro ⟨good, rfl⟩
    have h := measured.stat mem good
    rw [BlockStore.recorded_stat]
    generalize bs.stat ref id w.inner = answer at h ⊢
    obtain ⟨e | size, w'⟩ := answer
    · exact ⟨⟨h.1, rfl⟩, h.2⟩
    · exact ⟨⟨h.1, rfl⟩, h.2⟩

theorem BlockStore.Sized.recorded (sized : bs.Sized shelf ref ids) :
    bs.recorded.Sized shelf.recorded ref ids where
  size {visits w id h w'} mem := by
    rintro ⟨good, rfl⟩ heq
    simp only [BlockStore.recorded] at heq
    split at heq <;> cases heq
    rename_i hopen
    exact sized.size mem good hopen

end Recording

/-! ## Larger worlds -/

section Larger

variable {World Outer Handle : Type} {bs : BlockStore World Handle}
  {outer : BlockStore Outer Handle} {shelf : Shelf World Handle} {get : Outer → World}
  {ref : StoreRef} {ids : List BlockId}

/-- A store does what another one does to a part of its world. -/
structure BlockStore.Mirrors (outer : BlockStore Outer Handle) (bs : BlockStore World Handle)
    (get : Outer → World) : Prop where
  stat : ∀ ref id o, ((outer.stat ref id o).1, get (outer.stat ref id o).2) =
    bs.stat ref id (get o)
  openBlock : ∀ ref id o, ((outer.openBlock ref id o).1, get (outer.openBlock ref id o).2) =
    bs.openBlock ref id (get o)
  size : outer.size = bs.size
  read : ∀ h want o, ((outer.read h want o).1, (outer.read h want o).2.1,
    get (outer.read h want o).2.2) = bs.read h want (get o)
  close : ∀ h o, get (outer.close h o) = bs.close h (get o)

/-- The shelf of a store, seen from a larger world. -/
def Shelf.within (shelf : Shelf World Handle) (get : Outer → World) : Shelf Outer Handle where
  good visits o := shelf.good visits (get o)
  content := shelf.content
  left o := shelf.left (get o)
  fault := shelf.fault

theorem BlockStore.Honest.within (honest : bs.Honest shelf ref ids)
    (mirrors : outer.Mirrors bs get) : outer.Honest (shelf.within get) ref ids where
  openBlock {visits o id} mem good := by
    have h := honest.openBlock mem good
    rw [← mirrors.openBlock] at h
    generalize outer.openBlock ref id o = answer at h ⊢
    obtain ⟨e | handle, o'⟩ := answer
    · exact h
    · exact h
  read {visits o h rest} want good left := by
    have hread := honest.read want good left
    rw [← mirrors.read] at hread
    generalize outer.read h want o = answer at hread ⊢
    obtain ⟨e | bytes, handle, o'⟩ := answer
    · exact hread
    · exact hread
  close {visits o} h good := by
    show shelf.good visits (get (outer.close h o))
    rw [mirrors.close]
    exact honest.close h good

theorem BlockStore.Measured.within (measured : bs.Measured shelf ref ids)
    (mirrors : outer.Mirrors bs get) : outer.Measured (shelf.within get) ref ids where
  stat {visits o id} mem good := by
    have h := measured.stat mem good
    rw [← mirrors.stat] at h
    generalize outer.stat ref id o = answer at h ⊢
    obtain ⟨e | size, o'⟩ := answer
    · exact h
    · exact h

theorem BlockStore.Sized.within (sized : bs.Sized shelf ref ids)
    (mirrors : outer.Mirrors bs get) : outer.Sized (shelf.within get) ref ids where
  size {visits o id h o'} mem good heq := by
    have hopen := mirrors.openBlock ref id o
    rw [heq] at hopen
    rw [mirrors.size]
    exact sized.size mem good hopen.symm

theorem BlockStore.mirrors_inside {put : World → Outer → Outer}
    (get_put : ∀ w o, get (put w o) = w) : (bs.inside get put).Mirrors bs get where
  stat ref id o := by simp only [BlockStore.inside, get_put]
  openBlock ref id o := by simp only [BlockStore.inside, get_put]
  size := rfl
  read h want o := by simp only [BlockStore.inside, get_put]
  close h o := by simp only [BlockStore.inside, get_put]

theorem BlockStore.mirrors_metered : bs.metered.Mirrors bs Metered.inner where
  stat ref id o := rfl
  openBlock ref id o := by
    simp only [BlockStore.metered]
    generalize bs.openBlock ref id o.inner = answer
    obtain ⟨e | handle, w⟩ := answer
    · rfl
    · rfl
  size := rfl
  read h want o := rfl
  close h o := rfl

/-- A store leaves alone what a property is about. -/
structure BlockStore.Keeps (bs : BlockStore World Handle) (p : World → Prop) : Prop where
  stat : ∀ {w} ref id, p w → p (bs.stat ref id w).2
  openBlock : ∀ {w} ref id, p w → p (bs.openBlock ref id w).2
  read : ∀ {w} h want, p w → p (bs.read h want w).2.2
  close : ∀ {w} h, p w → p (bs.close h w)

theorem BlockStore.keeps_inside {put : World → Outer → Outer} {p : Outer → Prop}
    (keeps : ∀ w o, p o → p (put w o)) : (bs.inside get put).Keeps p where
  stat _ _ h := keeps _ _ h
  openBlock _ _ h := keeps _ _ h
  read _ _ h := keeps _ _ h
  close _ h := keeps _ _ h

/-- The shelf of a store with something else that is known of its world. -/
def Shelf.along (shelf : Shelf World Handle) (p : World → Prop) : Shelf World Handle :=
  { shelf with good := fun visits w => shelf.good visits w ∧ p w }

theorem BlockStore.Honest.along {p : World → Prop} (honest : bs.Honest shelf ref ids)
    (keeps : bs.Keeps p) : bs.Honest (shelf.along p) ref ids where
  openBlock {visits w id} mem := by
    rintro ⟨good, hp⟩
    have h := honest.openBlock mem good
    have hkeeps := keeps.openBlock ref id hp
    generalize bs.openBlock ref id w = answer at h hkeeps ⊢
    obtain ⟨e | handle, w'⟩ := answer
    · exact ⟨⟨h.1, hkeeps⟩, h.2⟩
    · exact ⟨⟨h.1, hkeeps⟩, h.2⟩
  read {visits w h rest} want := by
    rintro ⟨good, hp⟩ left
    have hread := honest.read want good left
    have hkeeps := keeps.read h want hp
    generalize bs.read h want w = answer at hread hkeeps ⊢
    obtain ⟨e | bytes, handle, w'⟩ := answer
    · exact ⟨⟨hread.1, hkeeps⟩, hread.2⟩
    · exact ⟨⟨hread.1, hkeeps⟩, hread.2⟩
  close h := fun ⟨good, hp⟩ => ⟨honest.close h good, keeps.close h hp⟩

theorem BlockStore.Measured.along {p : World → Prop} (measured : bs.Measured shelf ref ids)
    (keeps : bs.Keeps p) : bs.Measured (shelf.along p) ref ids where
  stat {visits w id} mem := by
    rintro ⟨good, hp⟩
    have h := measured.stat mem good
    have hkeeps := keeps.stat ref id hp
    generalize bs.stat ref id w = answer at h hkeeps ⊢
    obtain ⟨e | size, w'⟩ := answer
    · exact ⟨⟨h.1, hkeeps⟩, h.2⟩
    · exact ⟨⟨h.1, hkeeps⟩, h.2⟩

theorem BlockStore.Sized.along {p : World → Prop} (sized : bs.Sized shelf ref ids) :
    bs.Sized (shelf.along p) ref ids where
  size mem good opened := sized.size mem good.1 opened

end Larger

/-! ## Planned faults -/

section Faults

variable {World Handle : Type} {bs : BlockStore World Handle} {shelf : Shelf World Handle}
  {ref : StoreRef} {ids : List BlockId}

/-- A plan under which reads may fail or be cut short, but not to nothing. -/
def FaultPlan.Legal (plan : FaultPlan) : Prop :=
  ∀ id fault, plan.get? id = some fault → fault.maxRead ≠ some 0

/-- The shelf of a store that misbehaves as planned. -/
def Shelf.faulted (shelf : Shelf World Handle) (plan : FaultPlan) :
    Shelf (Faulted World) (FaultedHandle Handle) where
  good visits w := shelf.good visits w.inner ∧ w.plan = plan
  content := shelf.content
  left w h rest := shelf.left w.inner h.inner rest ∧ h.fault = (plan.get? h.id).getD {}
  fault e := shelf.fault e ∨
    ∃ id fault, plan.get? id = some fault ∧ fault.failAfter.isSome ∧
      e = .blockRead id.text "injected failure"

/-- A read that may hand something out may hand out a byte at least. -/
theorem BlockFault.allowance_zero {fault : BlockFault} {served want : Nat}
    (legal : fault.maxRead ≠ some 0) (h : fault.allowance served want = some 0) : want = 0 := by
  have hmax : min want (fault.maxRead.getD want) = 0 → want = 0 := by
    cases hm : fault.maxRead with
    | none => simp
    | some m =>
      have hm0 : m ≠ 0 := fun h0 => legal (h0 ▸ hm)
      simp only [Option.getD_some]
      omega
  unfold BlockFault.allowance at h
  split at h
  · simp only [Option.some.injEq] at h
    exact hmax h
  · split at h
    · cases h
    · simp only [Option.some.injEq] at h
      exact hmax (by omega)

/-- Only a fault that fails after some bytes lets a read fail. -/
theorem BlockFault.allowance_none {fault : BlockFault} {served want : Nat}
    (h : fault.allowance served want = none) : fault.failAfter.isSome := by
  unfold BlockFault.allowance at h
  split at h
  · cases h
  · rename_i limit hlimit
    rw [hlimit]
    rfl

theorem FaultPlan.Legal.maxRead_ne {plan : FaultPlan} (legal : plan.Legal) (id : BlockId) :
    ((plan.get? id).getD {}).maxRead ≠ some 0 := by
  cases h : plan.get? id with
  | none => simp
  | some fault => exact legal id fault h

theorem BlockStore.Honest.faulted {plan : FaultPlan} (honest : bs.Honest shelf ref ids)
    (legal : plan.Legal) : bs.faulted.Honest (shelf.faulted plan) ref ids where
  openBlock {visits w id} mem := by
    rintro ⟨good, rfl⟩
    have h := honest.openBlock mem good
    simp only [BlockStore.faulted]
    split <;> rename_i heq <;> rw [heq] at h
    · exact ⟨⟨h.1, rfl⟩, h.2, rfl⟩
    · exact ⟨⟨h.1, rfl⟩, .inl h.2⟩
  read {visits w h rest} want := by
    rintro ⟨good, rfl⟩ ⟨left, hfault⟩
    simp only [BlockStore.faulted]
    split
    · rename_i hnone
      have hsome := BlockFault.allowance_none hnone
      refine ⟨⟨good, rfl⟩, ⟨left, hfault⟩, .inr ?_⟩
      cases hplan : w.plan.get? h.id with
      | none => simp [hfault, hplan] at hsome
      | some fault =>
        rw [hfault, hplan] at hsome
        exact ⟨h.id, fault, hplan, hsome, rfl⟩
    · rename_i n hsome
      have hread := honest.read n good left
      split <;> rename_i heq <;> rw [heq] at hread
      · obtain ⟨hgood, ⟨more, hrest, hmore⟩, hempty⟩ := hread
        refine ⟨⟨hgood, rfl⟩, ⟨more, hrest, hmore, hfault⟩, fun hnil => ?_⟩
        rcases hempty hnil with rfl | hrest
        · exact .inl (BlockFault.allowance_zero (hfault ▸ legal.maxRead_ne h.id) hsome)
        · exact .inr hrest
      · exact ⟨⟨hread.1, rfl⟩, ⟨hread.2.1, hfault⟩, .inl hread.2.2⟩
  close {visits w} h := by
    rintro ⟨good, rfl⟩
    exact ⟨honest.close h.inner good, rfl⟩

/-- Look-ups stay true where the plan lets none fail. -/
theorem BlockStore.Measured.faulted {plan : FaultPlan} (measured : bs.Measured shelf ref ids)
    (stats : ∀ id ∈ ids, ∀ fault, plan.get? id = some fault → fault.statFails = false) :
    bs.faulted.Measured (shelf.faulted plan) ref ids where
  stat {visits w id} mem := by
    rintro ⟨good, rfl⟩
    have h := measured.stat mem good
    simp only [BlockStore.faulted]
    split
    · rename_i hplan
      exact absurd (stats id mem _ hplan) (by simp)
    · show (shelf.faulted w.plan).Sizes visits id
        ((bs.stat ref id w.inner).1, ⟨(bs.stat ref id w.inner).2, w.plan⟩)
      generalize bs.stat ref id w.inner = answer at h ⊢
      obtain ⟨e | size, w'⟩ := answer
      · exact ⟨⟨h.1, rfl⟩, .inl h.2⟩
      · exact ⟨⟨h.1, rfl⟩, h.2⟩

/-- Handles report true sizes where the plan leaves these alone. -/
theorem BlockStore.Sized.faulted {plan : FaultPlan} (sized : bs.Sized shelf ref ids)
    (sizes : ∀ id ∈ ids, ∀ fault, plan.get? id = some fault → fault.openSize = none) :
    bs.faulted.Sized (shelf.faulted plan) ref ids where
  size {visits w id h w'} mem := by
    rintro ⟨good, rfl⟩ heq
    simp only [BlockStore.faulted] at heq
    split at heq <;> cases heq
    rename_i handle inner hopen
    have hsize := sized.size mem good hopen
    have hplain : ((w.plan.get? id).getD {}).openSize = none := by
      cases hplan : w.plan.get? id with
      | none => rfl
      | some fault => exact sizes id mem fault hplan
    simp only [BlockStore.faulted, hplain, Option.getD_none]
    exact hsize

/-- A plan that lets no read fail leaves a reliable store reliable. -/
theorem Shelf.Reliable.faulted {plan : FaultPlan} (reliable : shelf.Reliable)
    (reads : ∀ id fault, plan.get? id = some fault → fault.failAfter = none) :
    (shelf.faulted plan).Reliable := by
  rintro e (h | ⟨id, fault, hplan, hsome, -⟩)
  · exact reliable e h
  · rw [reads id fault hplan] at hsome
    cases hsome

end Faults

/-! ## Blocks in memory -/

namespace MemoryBlocks

theorem get?_put (m : MemoryBlocks) (ref ref' : StoreRef) (id id' : BlockId) (data : Bytes) :
    (m.put ref id data).get? ref' id' =
      if (ref.storeId, id) = (ref'.storeId, id') then some data else m.get? ref' id' :=
  Table.get?_insert m.blocks _ _ data

variable {ref : StoreRef} {ids : List BlockId} {content : BlockId → Bytes}

/-- What is stored under an id, if all blocks with this id agree and one of them
is stored. -/
theorem get?_putAll {ref : StoreRef} {id : BlockId} {data : Bytes} (m : MemoryBlocks)
    (blocks : List Block) (agree : ∀ b ∈ blocks, b.id = id → b.data = data)
    (stored : m.get? ref id = some data ∨ ∃ b ∈ blocks, b.id = id) :
    (m.putAll ref blocks).get? ref id = some data := by
  induction blocks generalizing m with
  | nil =>
    rcases stored with h | ⟨b, mem, -⟩
    · exact h
    · cases mem
  | cons b rest ih =>
    have agree' := fun b' mem => agree b' (List.mem_cons_of_mem b mem)
    refine ih (m.put ref b.id b.data) agree' ?_
    rw [get?_put]
    by_cases heq : b.id = id
    · left
      rw [if_pos (by rw [heq]), agree b (List.mem_cons_self ..) heq]
    · rw [if_neg (fun h => heq (congrArg Prod.snd h))]
      rcases stored with h | ⟨b', mem, hid⟩
      · exact .inl h
      · rcases List.mem_cons.1 mem with rfl | mem
        · exact absurd hid heq
        · exact .inr ⟨b', mem, hid⟩

/-- The shelf of blocks in memory: the blocks with the given ids are there. -/
def shelf (ref : StoreRef) (ids : List BlockId) (content : BlockId → Bytes) :
    Shelf MemoryBlocks MemoryHandle where
  good _ m := ∀ id ∈ ids, m.get? ref id = some (content id)
  content := content
  left _ h rest := h.rest = rest
  fault _ := False

theorem reliable_shelf : (shelf ref ids content).Reliable := fun _ h => h

theorem lookup_eq {m : MemoryBlocks} {id : BlockId} {data : Bytes}
    (h : m.get? ref id = some data) : m.lookup ref id = .ok data := by
  rw [lookup, h]

theorem honest_store : store.Honest (shelf ref ids content) ref ids where
  openBlock {visits m id} mem good := by
    simp only [store, lookup_eq (good id mem)]
    exact ⟨good, rfl⟩
  read {visits m h rest} want good left := by
    have hrest : h.rest = rest := left
    refine ⟨good, ⟨h.rest.drop want, ?_, rfl⟩, fun hnil => ?_⟩
    · rw [← hrest, List.take_append_drop]
    · rw [← hrest]
      simpa using hnil
  close h good := good

theorem measured_store : store.Measured (shelf ref ids content) ref ids where
  stat {visits m id} mem good := by
    simp only [store, lookup_eq (good id mem)]
    exact ⟨good, rfl⟩

theorem sized_store : store.Sized (shelf ref ids content) ref ids where
  size {visits m id h m'} mem good heq := by
    simp only [store, lookup_eq (good id mem)] at heq
    cases heq
    rfl

end MemoryBlocks

/-! ## Two blocks, read slowly

A store of two blocks in memory that hands out one byte at a time. -/

/-- The id of forty equal digits. -/
def BlockId.uniform (digit : Char) (h : digit ∈ Hex.lowerDigits) : BlockId where
  text := String.ofList (List.replicate 40 digit)
  canonical := by
    constructor
    · left
      simp
    · intro c hc
      rw [String.toList_ofList, List.mem_replicate] at hc
      exact hc.2 ▸ h

namespace SlowPair

def ref : StoreRef := ⟨"store-1", 1⟩
def one : BlockId := .uniform '1' (by decide)
def two : BlockId := .uniform '2' (by decide)

/-- The bytes of the two blocks. -/
def content (x y : Bytes) (id : BlockId) : Bytes := if id = one then x else y

/-- The two blocks in memory. -/
def blocks (x y : Bytes) : MemoryBlocks := (({} : MemoryBlocks).put ref one x).put ref two y

def plan : FaultPlan := ⟨[(one, { maxRead := some 1 }), (two, { maxRead := some 1 })]⟩

/-- The two blocks with the plan to read them slowly. -/
def world (x y : Bytes) : Faulted MemoryBlocks := ⟨blocks x y, plan⟩

/-- The operations on such blocks. -/
def store : BlockStore (Faulted MemoryBlocks) (FaultedHandle MemoryHandle) :=
  MemoryBlocks.store.faulted

def shelf (x y : Bytes) (ids : List BlockId) :
    Shelf (Faulted MemoryBlocks) (FaultedHandle MemoryHandle) :=
  (MemoryBlocks.shelf ref ids (content x y)).faulted plan

variable {x y : Bytes} {ids : List BlockId}

theorem plan_eq {id : BlockId} {fault : BlockFault} (h : plan.get? id = some fault) :
    fault = { maxRead := some 1 } := by
  simp only [plan, Table.get?, Table.find?] at h
  split at h
  · exact (Option.some.inj h).symm
  · split at h
    · exact (Option.some.inj h).symm
    · cases h

theorem honest : store.Honest (shelf x y ids) ref ids :=
  MemoryBlocks.honest_store.faulted fun id fault h => by
    rw [plan_eq h]
    decide

theorem measured : store.Measured (shelf x y ids) ref ids :=
  MemoryBlocks.measured_store.faulted fun id _ fault h => by rw [plan_eq h]

theorem sized : store.Sized (shelf x y ids) ref ids :=
  MemoryBlocks.sized_store.faulted fun id _ fault h => by rw [plan_eq h]

theorem reliable : (shelf x y ids).Reliable :=
  MemoryBlocks.reliable_shelf.faulted fun id fault h => by rw [plan_eq h]

theorem good (sub : ids ⊆ [one, two]) : (shelf x y ids).good [] (world x y) := by
  refine ⟨fun id mem => ?_, rfl⟩
  have hne : one ≠ two := by decide
  have hid := sub mem
  simp only [List.mem_cons, List.not_mem_nil, or_false] at hid
  rcases hid with rfl | rfl
  · simp [world, blocks, content, MemoryBlocks.get?_put, hne.symm]
  · simp [world, blocks, content, MemoryBlocks.get?_put, hne.symm]

end SlowPair

end StreamGate
