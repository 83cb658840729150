import StreamGate.Grant
import StreamGate.Json.Writer
import StreamGate.Record.Wire

/-!
# Stored records

The two written forms of every record the catalog holds: the binary one, in
which records are stored, and JSON.

A `Codec` bundles both for one type.  In JSON a record may be an object or an
array of its fields, and an operation may be its name or an object with the name
as its only key.
-/

namespace StreamGate

open Wire (Format)

/-- The written forms of a record type. -/
structure Codec (α : Type) where
  wire : Format α
  toJson : α → String
  ofJson? : Json → Option α

namespace Codec

/-- Reads a record from a JSON text. -/
def parseJson? {α : Type} (codec : Codec α) (text : String) : Option α :=
  (Json.parse? text).bind codec.ofJson?

def natJson (n : Nat) : String := toString n

def u32OfJson? (tree : Json) : Option UInt32 := (tree.natBelow? UInt32.size).map UInt32.ofNat
def u64OfJson? (tree : Json) : Option UInt64 := (tree.natBelow? UInt64.size).map UInt64.ofNat

/-- The items of a JSON array. -/
def items? : Json → Option (List Json)
  | .array items => some items
  | _ => none

def blockId : Codec BlockId where
  wire := Format.blockId
  toJson id := Json.writeText id.text
  ofJson? tree := do (BlockId.parse (← tree.text?)).toOption

def storeRef : Codec StoreRef where
  wire := (Format.text.pair Format.u32).map (fun (s, v) => ⟨s, v⟩) fun r => (r.storeId, r.version)
  toJson r :=
    Json.writeObject [("store_id", Json.writeText r.storeId), ("version", natJson r.version.toNat)]
  ofJson? tree :=
    match tree.allFields? ["store_id", "version"] with
    | some [storeId, version] => do return ⟨← storeId.text?, ← u32OfJson? version⟩
    | _ => none

def manifest : Codec Manifest where
  wire := (Format.u64.pair (Format.list Format.blockId)).map
    (fun (size, blocks) => ⟨size, blocks⟩) fun m => (m.fileSize, m.blocks)
  toJson m :=
    Json.writeObject [("file_size", natJson m.fileSize.toNat),
      ("blocks", Json.writeArray (m.blocks.map blockId.toJson))]
  ofJson? tree :=
    match tree.allFields? ["file_size", "blocks"] with
    | some [size, blocks] => do
      return ⟨← u64OfJson? size, ← (← items? blocks).mapM blockId.ofJson?⟩
    | _ => none

/-- The operation with the given number. -/
def operationOfIndex (n : Nat) : Except Wire.Fault Operation :=
  match Operation.ofIndex? n with
  | some op => .ok op
  | none => .error (.badVariant n Operation.all.length)

def operation : Codec Operation where
  wire := (Format.nat 4).refine operationOfIndex Operation.index
  toJson op := Json.writeText op.name
  ofJson?
    | .object [(key, .null)] => do Operation.ofName? (String.ofList (← Json.chars? key))
    | tree => do Operation.ofName? (← tree.text?)

def grant : Codec Grant where
  wire := (Format.text.pair (Format.text.pair (operation.wire.pair Format.text))).map
    (fun (repo, object, op, user) => ⟨repo, object, op, user⟩)
    fun g => (g.repoId, g.objectId, g.operation, g.username)
  toJson g :=
    Json.writeObject [("repo_id", Json.writeText g.repoId), ("object_id", Json.writeText g.objectId),
      ("operation", operation.toJson g.operation), ("username", Json.writeText g.username)]
  ofJson? tree :=
    match tree.allFields? ["repo_id", "object_id", "operation", "username"] with
    | some [repo, object, op, user] => do
      return ⟨← repo.text?, ← object.text?, ← operation.ofJson? op, ← user.text?⟩
    | _ => none

def repo : Codec Repo where
  wire := (Format.text.pair (Format.text.pair (Format.u32.pair (Format.bool.pair Format.u32)))).map
    (fun (repo, store, version, encrypted, enc) => ⟨repo, store, version, encrypted, enc⟩)
    fun r => (r.repoId, r.storeId, r.version, r.encrypted, r.encVersion)
  toJson r :=
    Json.writeObject [("repo_id", Json.writeText r.repoId), ("store_id", Json.writeText r.storeId),
      ("version", natJson r.version.toNat), ("encrypted", Json.writeBool r.encrypted),
      ("enc_version", natJson r.encVersion.toNat)]
  ofJson? tree :=
    match tree.allFields? ["repo_id", "store_id", "version", "encrypted", "enc_version"] with
    | some [repo, store, version, encrypted, enc] => do
      return ⟨← repo.text?, ← store.text?, ← u32OfJson? version, ← encrypted.bool?,
        ← u32OfJson? enc⟩
    | _ => none

def keyMaterial : Codec KeyMaterial where
  wire := (Format.text.pair Format.text).map (fun (key, iv) => ⟨key, iv⟩)
    fun k => (k.keyHex, k.ivHex)
  toJson k :=
    Json.writeObject [("key_hex", Json.writeText k.keyHex), ("iv_hex", Json.writeText k.ivHex)]
  ofJson? tree :=
    match tree.allFields? ["key_hex", "iv_hex"] with
    | some [key, iv] => do return ⟨← key.text?, ← iv.text?⟩
    | _ => none

end Codec

end StreamGate
