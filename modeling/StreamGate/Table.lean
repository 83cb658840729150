/-!
# Tables

Finite maps as lists of pairs with distinct keys, in the order in which the
keys came in.  The view of a table is its look-up function: `get?_insert` and
`get?_erase` say what the two updates do to it.
-/

namespace StreamGate

/-- A finite map. -/
structure Table (K V : Type) where
  entries : List (K × V) := []
deriving DecidableEq, Repr

namespace Table

variable {K V : Type} [DecidableEq K]

/-- The first value stored under a key. -/
def find? (k : K) : List (K × V) → Option V
  | [] => none
  | (k', v) :: rest => if k' = k then some v else find? k rest

/-- Replaces the value under a key, or adds the key at the end. -/
def store (k : K) (v : V) : List (K × V) → List (K × V)
  | [] => [(k, v)]
  | (k', v') :: rest => if k' = k then (k, v) :: rest else (k', v') :: store k v rest

/-- Leaves a key out. -/
def without (k : K) : List (K × V) → List (K × V)
  | [] => []
  | (k', v) :: rest => if k' = k then without k rest else (k', v) :: without k rest

def empty : Table K V := ⟨[]⟩

/-- The value stored under a key. -/
def get? (t : Table K V) (k : K) : Option V := find? k t.entries

/-- Stores a value under a key.  A known key keeps its place. -/
def insert (t : Table K V) (k : K) (v : V) : Table K V := ⟨store k v t.entries⟩

/-- Removes a key. -/
def erase (t : Table K V) (k : K) : Table K V := ⟨without k t.entries⟩

def contains (t : Table K V) (k : K) : Bool := (t.get? k).isSome

def size (t : Table K V) : Nat := t.entries.length

def keys (t : Table K V) : List K := t.entries.map (·.1)

@[simp] theorem get?_empty (k : K) : (empty : Table K V).get? k = none := rfl

@[grind =] theorem get?_erase (t : Table K V) (k k' : K) :
    (t.erase k).get? k' = if k = k' then none else t.get? k' := by
  unfold erase get?
  induction t.entries with
  | nil => simp [without, find?]
  | cons e rest ih => grind [without, find?]

@[grind =] theorem get?_insert (t : Table K V) (k k' : K) (v : V) :
    (t.insert k v).get? k' = if k = k' then some v else t.get? k' := by
  unfold insert get?
  induction t.entries with
  | nil => simp [store, find?]
  | cons e rest ih => grind [store, find?]

theorem erase_insert (t : Table K V) (k : K) (v : V) : (t.insert k v).erase k = t.erase k := by
  unfold insert erase
  refine congrArg Table.mk ?_
  induction t.entries with
  | nil => simp [store, without]
  | cons e rest ih => grind [store, without]

end Table

end StreamGate
