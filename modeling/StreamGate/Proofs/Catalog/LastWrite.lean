import StreamGate.Catalog.OnDisk
import StreamGate.Proofs.Catalog.Keys
import StreamGate.Proofs.Record.RoundTrip
import StreamGate.Proofs.Tables

/-!
# What catalogs answer

Every look-up is answered with what was written last.  In trees that is the last write under
the place of the key, in memory the last write under the key itself, so both catalogs give the
same answers unless two keys share a place.

* `CatalogMove`: what is done to a catalog between look-ups, and `history` what was written.
* `TreeCatalog.Runs`: what moves make of trees that survive when they are flushed or opened again.
* `TreeCatalog.Holds`: the trees hold what was written last, which every move keeps.
* `TreeCatalog.refines_memory`: the answers of both catalogs after a run.
-/

namespace StreamGate

/-! ## Values and their keys -/

/-- A record of any kind, without its key. -/
inductive CatalogValue where
  | grant (grant : Grant)
  | repo (repo : Repo)
  | manifest (manifest : Manifest)
  | material (material : KeyMaterial)
deriving DecidableEq

namespace CatalogValue

/-- The tree that holds values of this kind. -/
def tree : CatalogValue → TreeName
  | grant _ => .grants
  | repo _ => .repos
  | manifest _ => .manifests
  | material _ => .keys

/-- The bytes that are stored for a value. -/
def bytes : CatalogValue → Bytes
  | grant g => Codec.grant.wire.write g
  | repo r => Codec.repo.wire.write r
  | manifest m => Codec.manifest.wire.write m
  | material k => Codec.keyMaterial.wire.write k

/-- The texts and lists of a value are short enough for their lengths to be written. -/
def Fits : CatalogValue → Prop
  | grant g => g.repoId.utf8ByteSize < 2 ^ 64 ∧ g.objectId.utf8ByteSize < 2 ^ 64 ∧
      g.username.utf8ByteSize < 2 ^ 64
  | repo r => r.repoId.utf8ByteSize < 2 ^ 64 ∧ r.storeId.utf8ByteSize < 2 ^ 64
  | manifest m => m.blocks.length < 2 ^ 64
  | material k => k.keyHex.utf8ByteSize < 2 ^ 64 ∧ k.ivHex.utf8ByteSize < 2 ^ 64

end CatalogValue

namespace CatalogEntry

/-- The key that a record is put in under. -/
def address : CatalogEntry → CatalogKey
  | .grant token _ => .grant token
  | .repo r => .repo r.repoId
  | .manifest ref objectId _ => .manifest ref objectId
  | .key repoId username _ => .material repoId username

def value : CatalogEntry → CatalogValue
  | .grant _ g => .grant g
  | .repo r => .repo r
  | .manifest _ _ m => .manifest m
  | .key _ _ k => .material k

theorem tree_value (entry : CatalogEntry) : entry.value.tree = entry.address.place.1 := by
  cases entry <;> rfl

end CatalogEntry

/-- The look-ups of a catalog as one: what is stored under a key, if anything is. -/
def Catalog.ask {World : Type} (c : Catalog World) :
    CatalogKey → World → Except Failure (Option CatalogValue) × World
  | .grant token, w => ((c.grant? token w).1.map (Option.map .grant), (c.grant? token w).2)
  | .repo repoId, w => ((c.repo? repoId w).1.map (Option.map .repo), (c.repo? repoId w).2)
  | .manifest ref objectId, w =>
    ((c.manifest? ref objectId w).1.map (Option.map .manifest), (c.manifest? ref objectId w).2)
  | .material repoId username, w =>
    ((c.key? repoId username w).1.map (Option.map .material), (c.key? repoId username w).2)

/-- Whether an object is there is asked by asking for its manifest. -/
theorem Catalog.objectExists_of_ask {World : Type} {c : Catalog World} {ref : StoreRef}
    {objectId : String} {w : World} {found : Option CatalogValue}
    (asked : c.ask (.manifest ref objectId) w = (.ok found, w)) :
    c.objectExists ref objectId w = (.ok found.isSome, w) := by
  unfold Catalog.objectExists
  dsimp only [Catalog.ask] at asked
  generalize c.manifest? ref objectId w = got at asked
  obtain ⟨answer, w'⟩ := got
  obtain ⟨answered, rfl⟩ := Prod.mk.inj asked
  cases answer with
  | error e => cases answered
  | ok m =>
    cases answered
    cases m <;> rfl

/-! ## Moves and what they write -/

/-- What is done to a catalog between look-ups. -/
inductive CatalogMove where
  | put (entry : CatalogEntry)
  | revoke (token : String)
  | flush
  | reopen

/-- A value that is written under a key, or nothing where a token is revoked. -/
abbrev CatalogWrite := CatalogKey × Option CatalogValue

/-- What a move writes. -/
def CatalogMove.write? : CatalogMove → Option CatalogWrite
  | put entry => some (entry.address, some entry.value)
  | revoke token => some (.grant token, none)
  | flush | reopen => none

/-- What moves write, the last write first. -/
def history (moves : List CatalogMove) : List CatalogWrite :=
  (moves.filterMap CatalogMove.write?).reverse

/-- The value of the last write under one of the keys: none if there is no such write, or if it
revoked a token. -/
def lastWrite (under : CatalogKey → Bool) (writes : List CatalogWrite) : Option CatalogValue :=
  (writes.find? fun w => under w.1).bind Prod.snd

theorem lastWrite_cons (under : CatalogKey → Bool) (w : CatalogWrite)
    (writes : List CatalogWrite) :
    lastWrite under (w :: writes) = if under w.1 then w.2 else lastWrite under writes := by
  unfold lastWrite
  rw [List.find?_cons]
  split <;> simp_all

/-- Only the keys that were written under matter. -/
theorem lastWrite_congr {under under' : CatalogKey → Bool} {writes : List CatalogWrite}
    (same : ∀ w ∈ writes, under w.1 = under' w.1) :
    lastWrite under writes = lastWrite under' writes := by
  induction writes with
  | nil => rfl
  | cons w writes ih =>
    rw [lastWrite_cons, lastWrite_cons, same w (.head _), ih fun w mem => same w (.tail _ mem)]

/-- The last value was put in. -/
theorem mem_of_lastWrite {under : CatalogKey → Bool} {writes : List CatalogWrite}
    {value : CatalogValue} (last : lastWrite under writes = some value) :
    ∃ key, under key = true ∧ (key, some value) ∈ writes := by
  obtain ⟨w, found, kept⟩ := Option.bind_eq_some_iff.1 last
  obtain ⟨key, v⟩ := w
  obtain rfl : v = some value := kept
  exact ⟨key, by simpa using List.find?_some found, List.mem_of_find?_eq_some found⟩

theorem history_cons (move : CatalogMove) (moves : List CatalogMove) :
    history (move :: moves) = history moves ++ move.write?.toList := by
  unfold history
  cases write : move.write? <;> simp [write]

/-- What was written was put in, if it is a value. -/
theorem put_of_mem_history {moves : List CatalogMove} {key : CatalogKey} {value : CatalogValue}
    (mem : (key, some value) ∈ history moves) :
    ∃ entry, .put entry ∈ moves ∧ entry.address = key ∧ entry.value = value := by
  unfold history at mem
  rw [List.mem_reverse, List.mem_filterMap] at mem
  obtain ⟨move, mem, wrote⟩ := mem
  cases move with
  | put entry =>
    cases wrote
    exact ⟨entry, mem, rfl, rfl⟩
  | revoke | flush | reopen => cases wrote

/-! ## Trees -/

namespace TreeCatalog

/-- The trees have kept what was in them. -/
def Survives (c c' : TreeCatalog) : Prop := ∀ tree key, c'.get? tree key = c.get? tree key

/-- What a move makes of trees.  When they are flushed, and when they are closed and opened
again, they may change in any way that keeps what is in them. -/
inductive Moves (c : TreeCatalog) : CatalogMove → TreeCatalog → Prop
  | put (entry : CatalogEntry) : c.Moves (.put entry) (c.put entry)
  | revoke (token : String) : c.Moves (.revoke token) (c.revoke token).2
  | flush {c' : TreeCatalog} (survives : c.Survives c') : c.Moves .flush c'
  | reopen {c' : TreeCatalog} (survives : c.Survives c') : c.Moves .reopen c'

/-- What moves make of trees, one after another. -/
inductive Runs : TreeCatalog → List CatalogMove → TreeCatalog → Prop
  | nil (c : TreeCatalog) : Runs c [] c
  | cons {c c₁ c₂ : TreeCatalog} {move : CatalogMove} {moves : List CatalogMove}
      (first : c.Moves move c₁) (rest : Runs c₁ moves c₂) : Runs c (move :: moves) c₂

theorem treeFormat_roundTrips (tree : TreeName) : treeFormat.RoundTrips tree := by
  refine (Wire.Format.nat_roundTrips 4 ?_).refine rfl ?_
  · cases tree <;> decide
  · cases tree <;> rfl

/-- Stored one after another, records with distinct keys are all there. -/
theorem get?_foldl_putBytes {records : List ((TreeName × String) × Bytes)}
    (distinct : (records.map (·.1)).Nodup) (c : TreeCatalog) (tree : TreeName) (key : String) :
    (records.foldl (fun c ((tree, key), value) => c.putBytes tree key value) c).get? tree key =
      (Table.find? (tree, key) records).or (c.get? tree key) := by
  induction records generalizing c with
  | nil => rfl
  | cons record records ih =>
    obtain ⟨place, value⟩ := record
    obtain ⟨new, distinct⟩ := List.nodup_cons.1 distinct
    have stored : (c.putBytes place.1 place.2 value).get? tree key =
        if place = (tree, key) then some value else c.get? tree key := Table.get?_insert ..
    rw [List.foldl_cons, ih distinct, stored, Table.find?]
    by_cases here : place = (tree, key)
    · subst here
      rw [if_pos rfl, if_pos rfl, Table.find?_eq_none_iff.2 new]
      rfl
    · rw [if_neg here, if_neg here]

/-- Trees survive when their data file is written and read, if the lengths in it fit. -/
theorem survives_ofImage {c : TreeCatalog} (distinct : c.records.Distinct)
    (count : c.records.entries.length < 2 ^ 64)
    (fits : ∀ record ∈ c.records.entries,
      record.1.2.utf8ByteSize < 2 ^ 64 ∧ record.2.length < 2 ^ 64) :
    c.Survives (ofImage c.image) := by
  have trips : imageFormat.RoundTrips c.records.entries :=
    Wire.Format.list_roundTrips (fun record mem =>
      ((treeFormat_roundTrips record.1.1).pair
        (Wire.Format.text_roundTrips (fits record mem).1)).pair
        (Wire.Format.bytes_roundTrips (fits record mem).2)) count
  have read : imageFormat.read c.image = .ok (c.records.entries, []) := by
    have read := trips []
    rwa [List.append_nil] at read
  intro tree key
  rw [ofImage, read]
  exact (get?_foldl_putBytes distinct {} tree key).trans (Option.or_none ..)

/-- The trees hold the bytes of what was written last. -/
def Holds (c : TreeCatalog) (writes : List CatalogWrite) : Prop :=
  ∀ tree key, c.get? tree key =
    (lastWrite (fun k => k.place = (tree, key)) writes).map CatalogValue.bytes

theorem holds_empty : Holds {} [] := fun _ _ => rfl

variable {c c' : TreeCatalog} {writes : List CatalogWrite}

theorem get?_put (c : TreeCatalog) (entry : CatalogEntry) (tree : TreeName) (key : String) :
    (c.put entry).get? tree key =
      if entry.address.place = (tree, key) then some entry.value.bytes else c.get? tree key := by
  cases entry <;> exact Table.get?_insert ..

theorem get?_revoke (c : TreeCatalog) (token : String) (tree : TreeName) (key : String) :
    (c.revoke token).2.get? tree key =
      if (CatalogKey.grant token).place = (tree, key) then none else c.get? tree key :=
  Table.get?_erase ..

/-- A move writes what it says and keeps the rest. -/
theorem Holds.moves (holds : c.Holds writes) {move : CatalogMove} (moved : c.Moves move c') :
    c'.Holds (move.write?.toList ++ writes) := by
  intro tree key
  cases moved with
  | put entry =>
    show _ = (lastWrite _ ((entry.address, some entry.value) :: writes)).map _
    rw [get?_put, lastWrite_cons, holds tree key]
    by_cases here : entry.address.place = (tree, key) <;> simp [here]
  | revoke token =>
    show _ = (lastWrite _ ((CatalogKey.grant token, none) :: writes)).map _
    rw [get?_revoke, lastWrite_cons, holds tree key]
    by_cases here : (CatalogKey.grant token).place = (tree, key) <;> simp [here]
  | flush survives | reopen survives => exact (survives tree key).trans (holds tree key)

theorem Holds.runs {moves : List CatalogMove} (holds : c.Holds writes)
    (runs : Runs c moves c') : c'.Holds (history moves ++ writes) := by
  induction runs generalizing writes with
  | nil => exact holds
  | cons first rest ih =>
    rw [history_cons, List.append_assoc]
    exact ih (holds.moves first)

/-- A value that fits is read back from its bytes. -/
theorem load_of_holds {α : Type} {wrap : α → CatalogValue} {format : Wire.Format α}
    {tree : TreeName} {key : String} (holds : c.Holds writes)
    (wraps : ∀ value, lastWrite (fun k => k.place = (tree, key)) writes = some value →
      ∃ a, value = wrap a ∧ value.bytes = format.write a ∧ format.RoundTrips a) :
    (c.load tree key format).map (Option.map wrap) =
      .ok (lastWrite (fun k => k.place = (tree, key)) writes) := by
  unfold load
  rw [holds tree key]
  cases last : lastWrite (fun k => k.place = (tree, key)) writes with
  | none => rfl
  | some value =>
    obtain ⟨a, rfl, bytes, trips⟩ := wraps value last
    show (((Wire.decode format (wrap a).bytes).map some).map (Option.map wrap)) = _
    rw [bytes, trips.decode]
    rfl

/-- All that was written fits, and every value went into the tree of its kind. -/
def Sound (writes : List CatalogWrite) : Prop :=
  ∀ key value, (key, some value) ∈ writes → value.Fits ∧ value.tree = key.place.1

theorem Sound.last (sound : Sound writes) {tree : TreeName} {key : String} {value : CatalogValue}
    (last : lastWrite (fun k => k.place = (tree, key)) writes = some value) :
    value.Fits ∧ value.tree = tree := by
  obtain ⟨k, place, mem⟩ := mem_of_lastWrite last
  obtain ⟨fits, own⟩ := sound k value mem
  rw [of_decide_eq_true place] at own
  exact ⟨fits, own⟩

/-- Every look-up is answered with the last write under its place. -/
theorem ask_of_holds (holds : c.Holds writes) (sound : Sound writes) (key : CatalogKey) :
    catalog.ask key c = (.ok (lastWrite (fun k => k.place = key.place) writes), c) := by
  cases key with
  | grant token =>
    refine Prod.ext (load_of_holds holds fun value last => ?_) rfl
    obtain ⟨fits, own⟩ := sound.last last
    cases value with
    | grant g => exact ⟨g, rfl, rfl, Codec.grant_roundTrips fits.1 fits.2.1 fits.2.2⟩
    | repo | manifest | material => cases own
  | repo repoId =>
    refine Prod.ext (load_of_holds holds fun value last => ?_) rfl
    obtain ⟨fits, own⟩ := sound.last last
    cases value with
    | repo r => exact ⟨r, rfl, rfl, Codec.repo_roundTrips fits.1 fits.2⟩
    | grant | manifest | material => cases own
  | manifest ref objectId =>
    refine Prod.ext (load_of_holds holds fun value last => ?_) rfl
    obtain ⟨fits, own⟩ := sound.last last
    cases value with
    | manifest m => exact ⟨m, rfl, rfl, Codec.manifest_roundTrips fits⟩
    | grant | repo | material => cases own
  | material repoId username =>
    refine Prod.ext (load_of_holds holds fun value last => ?_) rfl
    obtain ⟨fits, own⟩ := sound.last last
    cases value with
    | material k => exact ⟨k, rfl, rfl, Codec.keyMaterial_roundTrips fits.1 fits.2⟩
    | grant | repo | manifest => cases own

theorem sound_history {moves : List CatalogMove}
    (fits : ∀ entry, .put entry ∈ moves → entry.value.Fits) : Sound (history moves) := by
  intro key value mem
  obtain ⟨entry, put, rfl, rfl⟩ := put_of_mem_history mem
  exact ⟨fits entry put, entry.tree_value⟩

end TreeCatalog

/-! ## Memory -/

namespace MemoryCatalog

/-- What a move makes of a catalog in memory, which is neither flushed nor opened. -/
def move (c : MemoryCatalog) : CatalogMove → MemoryCatalog
  | .put entry => c.put entry
  | .revoke token => (c.revoke token).2
  | .flush | .reopen => c

/-- What moves make of it, one after another. -/
def after (c : MemoryCatalog) (moves : List CatalogMove) : MemoryCatalog := moves.foldl move c

/-- What is looked up is what was written last. -/
def Holds (c : MemoryCatalog) (writes : List CatalogWrite) : Prop :=
  ∀ key, catalog.ask key c = (.ok (lastWrite (fun k => k = key) writes), c)

theorem holds_empty : Holds {} [] := by
  intro key
  cases key <;> rfl

variable {c : MemoryCatalog} {writes : List CatalogWrite}

theorem ask_put (c : MemoryCatalog) (entry : CatalogEntry) (key : CatalogKey) :
    catalog.ask key (c.put entry) =
      (if entry.address = key then .ok (some entry.value) else (catalog.ask key c).1,
        c.put entry) := by
  refine Prod.ext ?_ (by cases key <;> rfl)
  cases entry <;> cases key <;>
    simp only [Catalog.ask, catalog, put, Table.get?_insert, CatalogEntry.address,
      CatalogEntry.value, CatalogKey.grant.injEq, CatalogKey.repo.injEq,
      CatalogKey.manifest.injEq, CatalogKey.material.injEq, Prod.mk.injEq, reduceCtorEq, if_false]
  all_goals split <;> rfl

theorem ask_revoke (c : MemoryCatalog) (token : String) (key : CatalogKey) :
    catalog.ask key (c.revoke token).2 =
      (if .grant token = key then .ok none else (catalog.ask key c).1, (c.revoke token).2) := by
  refine Prod.ext ?_ (by cases key <;> rfl)
  cases key <;>
    simp only [Catalog.ask, catalog, revoke, Table.get?_erase, CatalogKey.grant.injEq,
      reduceCtorEq, if_false]
  split <;> rfl

theorem Holds.move (holds : c.Holds writes) (m : CatalogMove) :
    (c.move m).Holds (m.write?.toList ++ writes) := by
  intro key
  cases m with
  | put entry =>
    show catalog.ask key (c.put entry) =
      (.ok (lastWrite _ ((entry.address, some entry.value) :: writes)), _)
    rw [ask_put, lastWrite_cons, holds key]
    by_cases here : entry.address = key <;> simp [here, MemoryCatalog.move]
  | revoke token =>
    show catalog.ask key (c.revoke token).2 =
      (.ok (lastWrite _ ((CatalogKey.grant token, none) :: writes)), _)
    rw [ask_revoke, lastWrite_cons, holds key]
    by_cases here : CatalogKey.grant token = key <;> simp [here, MemoryCatalog.move]
  | flush | reopen => exact holds key

theorem Holds.after (holds : c.Holds writes) (moves : List CatalogMove) :
    (c.after moves).Holds (history moves ++ writes) := by
  induction moves generalizing c writes with
  | nil => exact holds
  | cons m moves ih =>
    rw [history_cons, List.append_assoc]
    exact ih (holds.move m)

end MemoryCatalog

/-! ## Both -/

namespace TreeCatalog

/-- What both catalogs answer after the same moves. -/
structure Refines (c : TreeCatalog) (m : MemoryCatalog) (moves : List CatalogMove) : Prop where
  /-- The trees answer with the last write under the place of the key and never fail. -/
  answers : ∀ key, catalog.ask key c =
    (.ok (lastWrite (fun k => k.place = key.place) (history moves)), c)
  objectExists : ∀ ref objectId, catalog.objectExists ref objectId c =
    (.ok (lastWrite (fun k => k.place = (CatalogKey.manifest ref objectId).place)
      (history moves)).isSome, c)
  /-- So does the catalog in memory, if nothing was written under another key with that place. -/
  agrees : ∀ key, (∀ w ∈ history moves, w.1.place = key.place → w.1 = key) →
    (MemoryCatalog.catalog.ask key m).1 = (catalog.ask key c).1
  objectAgrees : ∀ ref objectId,
    (∀ w ∈ history moves, w.1.place = (CatalogKey.manifest ref objectId).place →
      w.1 = .manifest ref objectId) →
    (MemoryCatalog.catalog.objectExists ref objectId m).1 = (catalog.objectExists ref objectId c).1

/-- After every run the trees answer every look-up with what was written last under its place,
and the catalog in memory gives the same answers unless two keys share a place, for which one of
them has to have a slash in its store or repository. -/
theorem refines_memory {moves : List CatalogMove} {c : TreeCatalog} (runs : Runs {} moves c)
    (fits : ∀ entry, .put entry ∈ moves → entry.value.Fits) :
    c.Refines (MemoryCatalog.after {} moves) moves ∧
      ∀ k k' : CatalogKey, k.place = k'.place → k ≠ k' → k.Slashed ∨ k'.Slashed := by
  have holds : c.Holds (history moves) := by simpa using holds_empty.runs runs
  have inMemory : (MemoryCatalog.after {} moves).Holds (history moves) := by
    simpa using MemoryCatalog.holds_empty.after moves
  have answers := ask_of_holds holds (sound_history fits)
  have agrees (key : CatalogKey)
      (alone : ∀ w ∈ history moves, w.1.place = key.place → w.1 = key) :
      lastWrite (fun k => k = key) (history moves) =
        lastWrite (fun k => k.place = key.place) (history moves) := by
    refine lastWrite_congr fun w mem => decide_eq_decide.2 ⟨fun same => ?_, alone w mem⟩
    rw [same]
  refine ⟨⟨answers, fun ref objectId => Catalog.objectExists_of_ask (answers _),
    fun key alone => ?_, fun ref objectId alone => ?_⟩, fun k k' => CatalogKey.slashed_of_place_eq⟩
  · rw [answers key, inMemory key, agrees key alone]
  · rw [Catalog.objectExists_of_ask (answers _), Catalog.objectExists_of_ask (inMemory _),
      agrees _ alone]

/-- A key is there once the trees were closed and opened again, and a token is not once it was
revoked. -/
theorem refines_memory_of_reopened :
    let moves : List CatalogMove := [.put (.grant "t" ⟨"r", "f", .view, "u"⟩),
      .put (.key "r" "u" ⟨"00", "01"⟩), .reopen, .revoke "t", .flush]
    ∃ c, Runs {} moves c ∧
      catalog.ask (.material "r" "u") c = (.ok (some (.material ⟨"00", "01"⟩)), c) ∧
      (MemoryCatalog.catalog.ask (.material "r" "u") (MemoryCatalog.after {} moves)).1 =
        .ok (some (.material ⟨"00", "01"⟩)) ∧
      catalog.ask (.grant "t") c = (.ok none, c) := by
  intro moves
  let before := (({} : TreeCatalog).put (.grant "t" ⟨"r", "f", .view, "u"⟩)).put
    (.key "r" "u" ⟨"00", "01"⟩)
  have survives : before.Survives (ofImage before.image) := by
    refine survives_ofImage ?_ ?_ ?_
    · show before.records.keys.Nodup
      decide +kernel
    · decide +kernel
    · decide +kernel
  have runs : Runs {} moves ((ofImage before.image).revoke "t").2 :=
    .cons (.put _) (.cons (.put _) (.cons (.reopen survives) (.cons (.revoke _)
      (.cons (.flush fun _ _ => rfl) (.nil _)))))
  have fits (entry : CatalogEntry) (mem : .put entry ∈ moves) : entry.value.Fits := by
    simp only [moves, List.mem_cons, CatalogMove.put.injEq, reduceCtorEq, List.not_mem_nil,
      or_false] at mem
    rcases mem with rfl | rfl
    · exact ⟨by decide, by decide, by decide⟩
    · exact ⟨by decide, by decide⟩
  obtain ⟨refined, -⟩ := refines_memory runs fits
  have material := refined.answers (.material "r" "u")
  have agrees := refined.agrees (.material "r" "u") (by decide)
  rw [material] at agrees
  have last : lastWrite (fun k => k.place = (CatalogKey.material "r" "u").place)
      (history moves) = some (.material ⟨"00", "01"⟩) := by decide
  rw [last] at material agrees
  exact ⟨_, runs, material, agrees, refined.answers (.grant "t")⟩

end TreeCatalog

end StreamGate
