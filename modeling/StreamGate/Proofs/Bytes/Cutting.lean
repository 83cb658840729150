import StreamGate.Bytes

/-!
# Pieces of equal length

A byte string that is cut comes in as few pieces as hold it.  All of them are full but the
last, and that one is not empty.

* `Bytes.length_pieces`: how many pieces there are.
* `Bytes.length_of_mem_pieces`, `Bytes.length_of_mem_dropLast_pieces`: how long they are.
-/

namespace StreamGate.Bytes

variable {size : Nat} {bytes : Bytes}

theorem pieces_eq_nil_iff : pieces size bytes = [] ↔ bytes = [] := by
  rw [pieces]
  split <;> simp_all

/-- There are as many pieces as it takes. -/
theorem length_pieces (pos : 0 < size) (bytes : Bytes) :
    (pieces size bytes).length = (bytes.length + size - 1) / size := by
  fun_induction pieces size bytes with
  | case1 bytes empty =>
    obtain rfl := List.isEmpty_iff.1 empty
    rw [List.length_nil, List.length_nil, Nat.zero_add, Nat.div_eq_of_lt (Nat.sub_one_lt_of_lt pos)]
  | case2 bytes some ih =>
    have filled : 0 < bytes.length := List.length_pos_iff.2 (by simpa using some)
    have one : (bytes.length + size - 1) / size = (bytes.length - 1) / size + 1 := by
      rw [← Nat.add_div_right _ pos, Nat.sub_add_comm filled]
    rw [List.length_cons, ih, one, Nat.max_eq_right pos, List.length_drop]
    rcases Nat.lt_or_ge bytes.length size with short | long
    · rw [Nat.div_eq_of_lt (a := bytes.length - size + size - 1) (by omega),
        Nat.div_eq_of_lt (a := bytes.length - 1) (by omega)]
    · rw [Nat.sub_add_cancel long]

/-- No piece is empty, and none is too long. -/
theorem length_of_mem_pieces (pos : 0 < size) {piece : Bytes} (mem : piece ∈ pieces size bytes) :
    1 ≤ piece.length ∧ piece.length ≤ size := by
  fun_induction pieces size bytes with
  | case1 bytes empty => cases mem
  | case2 bytes some ih =>
    rw [Nat.max_eq_right pos] at mem ih
    rcases List.mem_cons.1 mem with rfl | mem
    · have filled : 0 < bytes.length := List.length_pos_iff.2 (by simpa using some)
      rw [List.length_take]
      omega
    · exact ih mem

/-- All pieces but the last are full. -/
theorem length_of_mem_dropLast_pieces (pos : 0 < size) {piece : Bytes}
    (mem : piece ∈ (pieces size bytes).dropLast) : piece.length = size := by
  fun_induction pieces size bytes with
  | case1 bytes empty => cases mem
  | case2 bytes some ih =>
    rw [Nat.max_eq_right pos] at mem ih
    by_cases done : bytes.drop size = []
    · rw [done, pieces_nil] at mem
      cases mem
    · rw [List.dropLast_cons_of_ne_nil (mt pieces_eq_nil_iff.1 done)] at mem
      rcases List.mem_cons.1 mem with rfl | mem
      · have more := List.length_pos_iff.2 done
        rw [List.length_drop] at more
        exact List.length_take_of_le (Nat.le_of_lt (Nat.lt_of_sub_pos more))
      · exact ih mem

end StreamGate.Bytes
