import StreamGate.Proofs.Block.Canonical
import StreamGate.Proofs.Storage.BlockPlaces

/-!
# The paths of blocks

A block's path says the root, the store id, and the id in two pieces.  If the store id is an
ordinary name, all of this can be read off the path, so no two blocks share a path, and as all
these paths are equally long, none leads through another.  This is about the paths alone,
whatever is in the file system.

* `Path.IsOrdinary`: a name that leads one step down.
* `Path.Below`: a path leads through all names of another one and further.
* `Directory.parse_named`: what the path of a block, or of its temporary file, says.
* `Directory.ids_keep_apart`: ids in canonical form, and paths that are apart.
-/

namespace StreamGate

namespace Path

/-- A single name that leads one step down, of any length. -/
structure IsOrdinary (name : String) : Prop where
  noSlash : '/' ∉ name.toList
  notEmpty : name ≠ ""
  notDot : name ≠ "."
  notUp : name ≠ ".."

variable {name : String} {p q : Path}

theorem IsComponent.isOrdinary (component : IsComponent name) : IsOrdinary name :=
  ⟨component.noSlash, component.notEmpty, component.notDot, component.notUp⟩

/-- A path with an ordinary name behind it says what the path says, and then the name. -/
theorem IsOrdinary.parse_join (ordinary : IsOrdinary name) (path : String) :
    parse (join path name) = ⟨(parse path).absolute, (parse path).names ++ [name], false, false⟩ :=
  parse_join_of_named ordinary.noSlash (by simp [isIdle, ordinary.notEmpty, ordinary.notDot]) path

/-- A path starts where another one does, leads through all its names, and then further. -/
def Below (p q : Path) : Prop :=
  p.absolute = q.absolute ∧ ∃ rest, rest ≠ [] ∧ p.names = q.names ++ rest

/-- A path leads through no other one with as many names. -/
theorem not_below_of_length (same : p.names.length = q.names.length) : ¬ p.Below q := by
  rintro ⟨-, rest, some, names⟩
  have more := List.length_pos_iff.2 some
  rw [names, List.length_append] at same
  omega

end Path

namespace Directory

variable {d : Directory} {ref ref' : StoreRef} {id id' : BlockId} {last last' : String}

/-- A path with a name in a block's group says the root, the store id, the group and the name. -/
theorem parse_named (store : Path.IsOrdinary ref.storeId) (named : Path.IsOrdinary last) :
    Path.parse (Path.join (d.groupPath ref id) last) = ⟨(Path.parse d.root).absolute,
      (Path.parse d.root).names ++ [ref.storeId, id.group, last], false, false⟩ := by
  rw [named.parse_join, groupPath, id.isComponent_group.isOrdinary.parse_join, store.parse_join]
  simp only [List.append_assoc, List.cons_append, List.nil_append]

/-- Such a path says which store, which group and which name it was made of. -/
theorem parse_named_inj (store : Path.IsOrdinary ref.storeId)
    (store' : Path.IsOrdinary ref'.storeId) (named : Path.IsOrdinary last) (named' : Path.IsOrdinary last') :
    Path.parse (Path.join (d.groupPath ref id) last) =
        Path.parse (Path.join (d.groupPath ref' id') last') ↔
      ref.storeId = ref'.storeId ∧ id.group = id'.group ∧ last = last' := by
  rw [parse_named store named, parse_named store' named']
  simp

theorem not_below_named (store : Path.IsOrdinary ref.storeId)
    (store' : Path.IsOrdinary ref'.storeId) (named : Path.IsOrdinary last) (named' : Path.IsOrdinary last') :
    ¬ (Path.parse (Path.join (d.groupPath ref id) last)).Below
      (Path.parse (Path.join (d.groupPath ref' id') last')) := by
  apply Path.not_below_of_length
  rw [parse_named store named, parse_named store' named', List.length_append, List.length_append]
  rfl

/-- No two blocks share a path. -/
theorem parse_blockPath_inj (store : Path.IsOrdinary ref.storeId)
    (store' : Path.IsOrdinary ref'.storeId) :
    Path.parse (d.blockPath ref id) = Path.parse (d.blockPath ref' id') ↔
      ref.storeId = ref'.storeId ∧ id = id' := by
  refine (parse_named_inj store store' id.isComponent_member.isOrdinary
    id'.isComponent_member.isOrdinary).trans (and_congr_right fun _ => ?_)
  constructor
  · rintro ⟨group, member⟩
    exact BlockId.ext_of_parts group member
  · rintro rfl
    exact ⟨rfl, rfl⟩

/-- The temporary file of a put has no block's path. -/
theorem parse_temporary_ne (store : Path.IsOrdinary ref.storeId)
    (store' : Path.IsOrdinary ref'.storeId) :
    Path.parse (d.beginWrite ref id).temporary ≠ Path.parse (d.blockPath ref' id') := by
  intro same
  have parts := (parse_named_inj store store' id.isComponent_temporary.isOrdinary
    id'.isComponent_member.isOrdinary).1 same
  exact BlockId.member_ne_temporary id' id parts.2.2.symm

/-- Ids are canonical, and blocks are kept apart by their paths.

* A text is read as an id exactly if its bytes are 40 or 64 digits, and the id is the text in
  lower case.
* All ids are of this form, which is why they can be cut, put together again and read back.
  Those in records are read as texts are.
* The texts that are read as one id differ in nothing but the case of letters.
* If store ids are ordinary names, a block's path tells the store id and the id, it leads
  through no other block's path, and the temporary file of no put has it. -/
theorem ids_keep_apart :
    (∀ text, (∃ id, BlockId.parse text = .ok id) ↔ BlockId.IsDigest text) ∧
      (∀ text id, BlockId.parse text = .ok id → id.text = BlockId.lower text ∧
        ∀ text', BlockId.parse text' = .ok id ↔ Hex.SameButCase text' text) ∧
      (∀ id : BlockId, id.Regular) ∧
      (∀ tree id, Codec.blockId.ofJson? tree = some id ↔
        ∃ text, tree.text? = some text ∧ BlockId.parse text = .ok id) ∧
      (∀ input id rest, Codec.blockId.wire.read input = .ok (id, rest) ↔
        ∃ text, BlockId.parse text = .ok id ∧ input = Wire.Format.text.write text ++ rest) ∧
      ∀ (d : Directory) (ref ref' : StoreRef) (id id' : BlockId),
        Path.IsOrdinary ref.storeId → Path.IsOrdinary ref'.storeId →
        (Path.parse (d.blockPath ref id) = Path.parse (d.blockPath ref' id') ↔
            ref.storeId = ref'.storeId ∧ id = id') ∧
          ¬ (Path.parse (d.blockPath ref id)).Below (Path.parse (d.blockPath ref' id')) ∧
          Path.parse (d.beginWrite ref id).temporary ≠ Path.parse (d.blockPath ref' id') ∧
          ¬ (Path.parse (d.beginWrite ref id).temporary).Below (Path.parse (d.blockPath ref' id')) ∧
          ¬ (Path.parse (d.blockPath ref' id')).Below
              (Path.parse (d.beginWrite ref id).temporary) := by
  refine ⟨fun text => BlockId.parse_iff_isDigest, fun text id read => ⟨?_, fun text' => ?_⟩,
    BlockId.regular, fun tree id => Codec.blockId_ofJson?_iff,
    fun input id rest => Codec.blockId_read_iff, fun d ref ref' id id' store store' => ?_⟩
  · exact (BlockId.parse_eq_ok_iff.1 read).lower.symm
  · exact BlockId.parse_iff_sameButCase read
  · have member := id.isComponent_member.isOrdinary
    have member' := id'.isComponent_member.isOrdinary
    have temporary := id.isComponent_temporary.isOrdinary
    exact ⟨parse_blockPath_inj store store', not_below_named store store' member member',
      parse_temporary_ne store store', not_below_named store store' temporary member',
      not_below_named store' store member' temporary⟩

/-- Two spellings of one id, and blocks of one id in two stores. -/
theorem ids_keep_apart_of_two_stores :
    ∃ id, BlockId.parse (String.ofList (List.replicate 40 'A')) = .ok id ∧
      BlockId.parse (String.ofList (List.replicate 40 'a')) = .ok id ∧
      ∀ d : Directory,
        Path.parse (d.blockPath ⟨"alpha", 1⟩ id) ≠ Path.parse (d.blockPath ⟨"beta", 1⟩ id) ∧
        Path.parse (d.beginWrite ⟨"alpha", 1⟩ id).temporary ≠
          Path.parse (d.blockPath ⟨"beta", 1⟩ id) := by
  obtain ⟨digests, spellings, -, -, -, paths⟩ := ids_keep_apart
  have digits : ∀ c ∈ List.replicate 40 'A', c ∈ Hex.allDigits := fun c mem =>
    List.eq_of_mem_replicate mem ▸ by decide
  have size : (Bytes.ofText (String.ofList (List.replicate 40 'A'))).length = 40 := by
    rw [Bytes.length_ofText, Bytes.utf8ByteSize_ofList fun c mem =>
      Hex.utf8Size_of_mem_allDigits (digits c mem), List.length_replicate]
  obtain ⟨id, read⟩ := (digests (String.ofList (List.replicate 40 'A'))).2
    ⟨.inl size, BlockId.digits_iff_bytes.1 (by rwa [String.toList_ofList])⟩
  have lower : Hex.SameButCase (String.ofList (List.replicate 40 'a'))
      (String.ofList (List.replicate 40 'A')) := by
    rw [Hex.SameButCase, String.toList_ofList, String.toList_ofList, List.map_replicate,
      List.map_replicate]
    rfl
  refine ⟨id, read, ((spellings _ id read).2 _).2 lower, fun d => ?_⟩
  obtain ⟨distinct, -, temporary, -, -⟩ := paths d ⟨"alpha", 1⟩ ⟨"beta", 1⟩ id id
    ⟨by decide, by decide, by decide, by decide⟩ ⟨by decide, by decide, by decide, by decide⟩
  exact ⟨fun same => absurd (distinct.1 same).1 (by decide), temporary⟩

end Directory

end StreamGate
