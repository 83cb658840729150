import StreamGate.Bytes

/-!
# The Blake3 hash

The unkeyed Blake3 hash with its default output of 32 bytes.

The input is cut into chunks of 1024 bytes and a chunk into blocks of 64.  A
chunk folds its blocks into one chaining value.  The chunks are the leaves of a
binary tree whose left side is the largest complete one that leaves the right
side non-empty, and the last compression at the root is marked as such.
-/

namespace StreamGate.Blake3

/-- Eight words that chain one compression to the next. -/
abbrev Chain := Vector UInt32 8

/-- The sixteen words of a message block or of the working state. -/
abbrev Words := Vector UInt32 16

/-- The initial chaining value. -/
def iv : Chain :=
  #v[0x6A09E667, 0xBB67AE85, 0x3C6EF372, 0xA54FF53A, 0x510E527F, 0x9B05688C, 0x1F83D9AB, 0x5BE0CD19]

/-- Where each message word of the next round comes from. -/
def schedule : Vector (Fin 16) 16 :=
  #v[2, 6, 3, 10, 7, 0, 4, 13, 1, 11, 12, 5, 9, 14, 15, 8]

/-- The block opens a chunk. -/
def chunkStart : UInt32 := 1
/-- The block closes a chunk. -/
def chunkEnd : UInt32 := 2
/-- The block joins two subtrees. -/
def parent : UInt32 := 4
/-- The compression yields the hash itself. -/
def root : UInt32 := 8

def rotateRight (x : UInt32) (n : UInt32) : UInt32 := (x >>> n) ||| (x <<< (32 - n))

/-- Mixes two message words into one column or diagonal of the state. -/
def mix (s : Words) (a b c d : Fin 16) (x y : UInt32) : Words :=
  let va := s[a] + s[b] + x
  let vd := rotateRight (s[d] ^^^ va) 16
  let vc := s[c] + vd
  let vb := rotateRight (s[b] ^^^ vc) 12
  let va := va + vb + y
  let vd := rotateRight (vd ^^^ va) 8
  let vc := vc + vd
  let vb := rotateRight (vb ^^^ vc) 7
  (((s.set a va).set b vb).set c vc).set d vd

/-- One round: the four columns, then the four diagonals. -/
def round (s m : Words) : Words :=
  let s := mix s 0 4 8 12 m[0] m[1]
  let s := mix s 1 5 9 13 m[2] m[3]
  let s := mix s 2 6 10 14 m[4] m[5]
  let s := mix s 3 7 11 15 m[6] m[7]
  let s := mix s 0 5 10 15 m[8] m[9]
  let s := mix s 1 6 11 12 m[10] m[11]
  let s := mix s 2 7 8 13 m[12] m[13]
  mix s 3 4 9 14 m[14] m[15]

/-- Repeated rounds, with the message words rearranged before each further
one. -/
def rounds : Nat → (s m : Words) → Words
  | 0, s, _ => s
  | n + 1, s, m => rounds n (round s m) (schedule.map fun i => m[i])

/-- The compression function, cut to the chaining value it yields. -/
def compress (chain : Chain) (block : Words) (counter : UInt64) (length flags : UInt32) : Chain :=
  let start : Words :=
    #v[chain[0], chain[1], chain[2], chain[3], chain[4], chain[5], chain[6], chain[7],
       iv[0], iv[1], iv[2], iv[3], counter.toUInt32, (counter >>> 32).toUInt32, length, flags]
  let s := rounds 7 start block
  Vector.ofFn fun (i : Fin 8) => s[i.val] ^^^ s[i.val + 8]

/-- The little-endian word at the start of a byte string, zeros standing in for
bytes that are missing. -/
def word (bytes : Bytes) : UInt32 := UInt32.ofNat (Bytes.toNat (bytes.take 4))

/-- The words of a block of up to 64 bytes. -/
def blockWords (bytes : Bytes) : Words :=
  Vector.ofFn fun (i : Fin 16) => word (bytes.drop (4 * i.val))

/-- A last compression that still waits to learn whether it is the root. -/
structure Node where
  chain : Chain
  block : Words
  counter : UInt64
  length : UInt32
  flags : UInt32

/-- The chaining value of a node below the root. -/
def Node.value (n : Node) : Chain := compress n.chain n.block n.counter n.length n.flags

/-- The hash, when the node is the root. -/
def Node.rootValue (n : Node) : Chain := compress n.chain n.block 0 n.length (n.flags ||| root)

/-- Folds the blocks of a chunk, `opening` being `chunkStart` before the first
one and zero after it. -/
def foldBlocks (counter : UInt64) : (chain : Chain) → (opening : UInt32) → List Bytes → Node
  | chain, opening, [] => ⟨chain, blockWords [], counter, 0, opening ||| chunkEnd⟩
  | chain, opening, [last] =>
    ⟨chain, blockWords last, counter, UInt32.ofNat last.length, opening ||| chunkEnd⟩
  | chain, opening, block :: rest =>
    foldBlocks counter (compress chain (blockWords block) counter 64 opening) 0 rest

/-- The node of one chunk, given its place in the input. -/
def chunkNode (index : Nat) (chunk : Bytes) : Node :=
  foldBlocks (UInt64.ofNat index) iv chunkStart (chunk.pieces 64)

/-- The node over two subtrees. -/
def parentNode (left right : Chain) : Node :=
  ⟨iv, Vector.cast (by rfl) (left ++ right), 0, 64, parent⟩

/-- The largest power of two below `n`, for `n ≥ 2`. -/
def leftSize (n : Nat) : Nat := Nat.pow 2 (n - 1).log2

theorem leftSize_pos (n : Nat) : 0 < leftSize n := Nat.two_pow_pos _

theorem leftSize_lt {n : Nat} (h : 2 ≤ n) : leftSize n < n := by
  have : leftSize n ≤ n - 1 := Nat.log2_self_le (by omega)
  omega

/-- The node over a run of chunks, the first of which has the given index. -/
def treeNode (index : Nat) (chunks : List Bytes) : Node :=
  match chunks with
  | [] => chunkNode index []
  | [chunk] => chunkNode index chunk
  | a :: b :: rest =>
    let chunks := a :: b :: rest
    let left := leftSize chunks.length
    parentNode (treeNode index (chunks.take left)).value
      (treeNode (index + left) (chunks.drop left)).value
termination_by chunks.length
decreasing_by
  all_goals
    have := leftSize_lt (n := (a :: b :: rest).length) (by simp)
    have := leftSize_pos (a :: b :: rest).length
    simp only [List.length_take, List.length_drop, List.length_cons] at *
    omega

/-- The hash of a byte string. -/
def hash (bytes : Bytes) : Bytes :=
  (treeNode 0 (bytes.pieces 1024)).rootValue.toList.flatMap fun w => Bytes.littleEndian 4 w.toNat

@[simp] theorem length_hash (bytes : Bytes) : (hash bytes).length = 32 := by
  simp [hash, List.length_flatMap, List.map_const']

end StreamGate.Blake3
