import Mathlib.Data.UInt
import StreamGate.Range

/-!
# Resolved ranges

What a request means for a file of some size: nothing if the file has nothing of it
(`ByteRange.Beyond`), else the range that it `Spans`.

A range that a header yields lies within the file: `ByteRange.within_of_parse`.
So it holds a byte at least, and its length fits its type.
-/

namespace StreamGate.ByteRange

/-- The range holds a byte, and its last one lies within a file of this size. -/
structure Within (r : ByteRange) (size : UInt64) : Prop where
  ordered : r.first ≤ r.last
  bounded : r.last < size

/-- The length of a range, where it fits its type. -/
theorem toNat_length (r : ByteRange) (le : r.first ≤ r.last)
    (whole : r.last.toNat - r.first.toNat + 1 < UInt64.size) :
    r.length.toNat = r.last.toNat - r.first.toNat + 1 := by
  rw [length, UInt64.toNat_add, UInt64.toNat_sub_of_le _ _ le]
  exact Nat.mod_eq_of_lt whole

/-- A suffix of no bytes is never read from a header. -/
theorem suffix_pos_of_parse? {header : String} {request : Request}
    (read : Request.parse? header = some request) {n : UInt64} (same : request = .suffix n) :
    n ≠ 0 := by
  rw [same] at read
  simp only [Request.parse?, Option.bind_eq_bind, Option.bind_eq_some_iff] at read
  obtain ⟨⟨_, spec⟩, -, ⟨first, second⟩, -, read⟩ := read
  split at read
  · obtain ⟨m, -, read⟩ := Option.bind_eq_some_iff.1 read
    split at read
    · cases read
    · rename_i positive
      cases read
      exact positive
  · obtain ⟨m, -, read⟩ := Option.bind_eq_some_iff.1 read
    split at read
    · cases read
    · obtain ⟨m', -, read⟩ := Option.bind_eq_some_iff.1 read
      cases read

/-- The last position of a file that is not empty. -/
theorem toNat_pred {size : UInt64} (h : size ≠ 0) : (size - 1).toNat = size.toNat - 1 := by
  have hpos : size.toNat ≠ 0 := fun hzero => h (UInt64.toNat.inj hzero)
  exact UInt64.toNat_sub_of_le _ _ (UInt64.le_iff_toNat_le.2 (by show 1 ≤ size.toNat; omega))

/-- A file of this size has nothing of what is asked for. -/
def Beyond (size : Nat) : Request → Prop
  | .suffix n => size = 0 ∨ size < n.toNat
  | .fromOn n => size = 0 ∨ size ≤ n.toNat
  | .between n m => size = 0 ∨ size ≤ n.toNat ∨ m.toNat < n.toNat

/-- The range is what is asked for of a file of this size. -/
def Spans (r : ByteRange) (size : Nat) : Request → Prop
  | .suffix n => r.first.toNat = size - n.toNat ∧ r.last.toNat = size - 1
  | .fromOn n => r.first.toNat = n.toNat ∧ r.last.toNat = size - 1
  | .between n m => r.first.toNat = n.toNat ∧ r.last.toNat = min m.toNat (size - 1)

theorem Spans.eq {r s : ByteRange} {size : Nat} {request : Request} (hr : r.Spans size request)
    (hs : s.Spans size request) : r = s := by
  have same : r.first.toNat = s.first.toNat ∧ r.last.toNat = s.last.toNat := by
    cases request <;> exact ⟨hr.1.trans hs.1.symm, hr.2.trans hs.2.symm⟩
  cases r
  cases s
  exact congr (congrArg ByteRange.mk (UInt64.toNat.inj same.1)) (UInt64.toNat.inj same.2)

theorem resolve?_eq_none_iff {size : UInt64} {request : Request} :
    request.resolve? size = none ↔ Beyond size.toNat request := by
  have zero : size = 0 ↔ size.toNat = 0 := UInt64.toNat_inj.symm
  cases request with
  | suffix n =>
    simp only [Request.resolve?, Beyond, ite_eq_left_iff, reduceCtorEq, imp_false, not_not,
      zero, UInt64.lt_iff_toNat_lt]
  | fromOn n =>
    simp only [Request.resolve?, Beyond, ite_eq_left_iff, reduceCtorEq, imp_false, not_not,
      UInt64.le_iff_toNat_le]
    omega
  | between n m =>
    simp only [Request.resolve?, Beyond, ite_eq_left_iff, reduceCtorEq, imp_false, not_not,
      UInt64.le_iff_toNat_le, UInt64.lt_iff_toNat_lt]
    omega

theorem resolve?_spec {size : UInt64} {request : Request} {r : ByteRange}
    (resolved : request.resolve? size = some r) :
    ¬ Beyond size.toNat request ∧ r.Spans size.toNat request := by
  have inside : ¬ Beyond size.toNat request := by
    rw [← resolve?_eq_none_iff, resolved]
    nofun
  have nonempty : size ≠ 0 := by
    rintro rfl
    cases request <;> exact inside (.inl rfl)
  have last := toNat_pred nonempty
  refine ⟨inside, ?_⟩
  cases request with
  | suffix n =>
    simp only [Request.resolve?, Option.ite_none_left_eq_some, Option.some.injEq] at resolved
    obtain ⟨-, rfl⟩ := resolved
    simp only [Beyond, not_or, Nat.not_lt] at inside
    exact ⟨UInt64.toNat_sub_of_le _ _ (UInt64.le_iff_toNat_le.2 inside.2), last⟩
  | fromOn n =>
    simp only [Request.resolve?, Option.ite_none_left_eq_some, Option.some.injEq] at resolved
    obtain ⟨-, rfl⟩ := resolved
    exact ⟨rfl, last⟩
  | between n m =>
    simp only [Request.resolve?, Option.ite_none_left_eq_some, Option.some.injEq] at resolved
    obtain ⟨-, rfl⟩ := resolved
    refine ⟨rfl, ?_⟩
    show (min m (size - 1)).toNat = _
    rw [UInt64.toNat_min, last]

/-- What is asked for of a file lies within it, unless the file has nothing of it. -/
theorem Spans.within {r : ByteRange} {size : UInt64} {request : Request}
    (suffix : ∀ {n}, request = .suffix n → n ≠ 0) (inside : ¬ Beyond size.toNat request)
    (spans : r.Spans size.toNat request) : r.Within size := by
  have ends : r.first.toNat ≤ r.last.toNat ∧ r.last.toNat < size.toNat := by
    cases request with
    | suffix n =>
      have positive : n.toNat ≠ 0 := fun zero => suffix rfl (UInt64.toNat.inj zero)
      simp only [Beyond, Spans] at inside spans
      omega
    | fromOn n =>
      simp only [Beyond, Spans] at inside spans
      omega
    | between n m =>
      simp only [Beyond, Spans] at inside spans
      omega
  exact ⟨UInt64.le_iff_toNat_le.2 ends.1, UInt64.lt_iff_toNat_lt.2 ends.2⟩

/-- A range that a header yields lies within the file. -/
theorem within_of_parse {header : String} {size : UInt64} {r : ByteRange}
    (yields : parse header size = .ok r) : r.Within size := by
  unfold parse at yields
  split at yields
  · cases yields
  · rename_i request read
    split at yields
    · cases yields
    · rename_i r' resolved
      cases yields
      obtain ⟨inside, spans⟩ := resolve?_spec resolved
      exact spans.within (suffix_pos_of_parse? read) inside

namespace Within

variable {r : ByteRange} {size : UInt64}

theorem toNat_le (within : r.Within size) : r.first.toNat ≤ r.last.toNat :=
  UInt64.le_iff_toNat_le.1 within.ordered

theorem toNat_lt (within : r.Within size) : r.last.toNat < size.toNat :=
  UInt64.lt_iff_toNat_lt.1 within.bounded

/-- The length of a range within a file fits its type. -/
theorem length_lt (within : r.Within size) : r.last.toNat - r.first.toNat + 1 < UInt64.size := by
  have hlt := within.toNat_lt
  have hsize := size.toNat_lt
  simp only [UInt64.size] at *
  omega

end Within

end StreamGate.ByteRange
