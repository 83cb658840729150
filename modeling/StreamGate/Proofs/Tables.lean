import Mathlib.Data.List.Nodup
import StreamGate.Table

/-!
# What the values of a table come to

A table whose values each come to a list of things comes to all of them.  A change
under one key changes what this key's value comes to and leaves the rest alone.

* `Table.exists_rest`: a new value under a known key.
* `Table.perm_insert`, `Table.perm_erase`: a new key, and a key that is erased.
-/

namespace StreamGate

namespace Table

variable {K V B : Type} [DecidableEq K] (f : V → List B) {t : Table K V} {k : K} {v : V}

/-- What all values of a table come to. -/
def collect (t : Table K V) : List B := t.entries.flatMap fun e => f e.2

/-- No key is stored twice. -/
def Distinct (t : Table K V) : Prop := t.keys.Nodup

/-- What one value comes to, and the rest, which a new value under its key leaves alone. -/
theorem exists_rest (found : t.get? k = some v) :
    ∃ rest, (t.collect f).Perm (f v ++ rest) ∧
      ∀ v', ((t.insert k v').collect f).Perm (f v' ++ rest) := by
  obtain ⟨entries⟩ := t
  unfold get? at found
  unfold collect insert
  induction entries with
  | nil => cases found
  | cons e more ih =>
    obtain ⟨k', u⟩ := e
    by_cases here : k' = k
    · simp only [find?, here, ↓reduceIte, Option.some.injEq] at found
      subst found
      refine ⟨more.flatMap fun e => f e.2, by simp, fun v' => by simp [store, here]⟩
    · simp only [find?, here, ↓reduceIte] at found
      obtain ⟨rest, perm, perm'⟩ := ih found
      refine ⟨f u ++ rest, ?_, fun v' => ?_⟩
      · exact (perm.append_left (f u)).trans (List.perm_append_comm_assoc ..)
      · simp only [store, here, ↓reduceIte]
        exact ((perm' v').append_left (f u)).trans (List.perm_append_comm_assoc ..)

/-- A value under a new key is added. -/
theorem perm_insert (new : t.get? k = none) (v : V) :
    ((t.insert k v).collect f).Perm (f v ++ t.collect f) := by
  obtain ⟨entries⟩ := t
  unfold get? at new
  unfold collect insert
  induction entries with
  | nil => simp [store]
  | cons e more ih =>
    obtain ⟨k', u⟩ := e
    by_cases here : k' = k
    · simp [find?, here] at new
    · simp only [find?, here, ↓reduceIte] at new
      simp only [store, here, ↓reduceIte]
      exact ((ih new).append_left (f u)).trans (List.perm_append_comm_assoc ..)

theorem without_of_not_mem {entries : List (K × V)} (new : k ∉ entries.map (·.1)) :
    without k entries = entries := by
  induction entries with
  | nil => rfl
  | cons e more ih =>
    simp only [List.map_cons, List.mem_cons, not_or] at new
    rw [without, if_neg (Ne.symm new.1), ih new.2]

theorem find?_eq_none_iff {entries : List (K × V)} :
    find? k entries = none ↔ k ∉ entries.map (·.1) := by
  induction entries with
  | nil => simp [find?]
  | cons e more ih =>
    by_cases here : e.1 = k
    · simp [find?, here]
    · simp [find?, here, ih, Ne.symm here]

/-- A key that is not there need not be erased. -/
theorem erase_of_get?_none (new : t.get? k = none) : t.erase k = t := by
  unfold erase
  rw [without_of_not_mem (find?_eq_none_iff.1 new)]

/-- What is erased is what the key's value came to. -/
theorem perm_erase (distinct : t.Distinct) (found : t.get? k = some v) :
    (t.collect f).Perm (f v ++ (t.erase k).collect f) := by
  obtain ⟨entries⟩ := t
  unfold get? at found
  unfold Distinct keys at distinct
  unfold collect erase
  induction entries with
  | nil => cases found
  | cons e more ih =>
    obtain ⟨k', u⟩ := e
    obtain ⟨new, distinct⟩ := List.nodup_cons.1 distinct
    by_cases here : k' = k
    · subst here
      simp only [find?, ↓reduceIte, Option.some.injEq] at found
      subst found
      simp [without, without_of_not_mem new]
    · simp only [find?, here, ↓reduceIte] at found
      simp only [without, here, ↓reduceIte]
      exact ((ih distinct found).append_left (f u)).trans (List.perm_append_comm_assoc ..)

theorem mem_keys_store {entries : List (K × V)} {k' : K}
    (mem : k' ∈ (store k v entries).map (·.1)) : k' = k ∨ k' ∈ entries.map (·.1) := by
  induction entries with
  | nil => simpa [store] using mem
  | cons e more ih => grind [store]

theorem Distinct.insert (distinct : t.Distinct) (k : K) (v : V) : (t.insert k v).Distinct := by
  obtain ⟨entries⟩ := t
  unfold Distinct keys at *
  unfold Table.insert
  induction entries with
  | nil => simp [store]
  | cons e more ih =>
    obtain ⟨new, distinct⟩ := List.nodup_cons.1 distinct
    by_cases here : e.1 = k
    · subst here
      simpa [store] using ⟨by simpa using new, distinct⟩
    · simp only [store, here, ↓reduceIte, List.map_cons]
      refine List.nodup_cons.2 ⟨fun mem => ?_, ih distinct⟩
      exact (mem_keys_store mem).elim here new

theorem Distinct.erase (distinct : t.Distinct) (k : K) : (t.erase k).Distinct := by
  obtain ⟨entries⟩ := t
  unfold Distinct keys at *
  unfold Table.erase
  have sub : (without k entries).Sublist entries := by
    induction entries with
    | nil => exact .slnil
    | cons e more ih =>
      rw [without]
      split
      · exact (ih (List.nodup_cons.1 distinct).2).cons e
      · exact (ih (List.nodup_cons.1 distinct).2).cons_cons e
  exact (sub.map _).nodup distinct

end Table

end StreamGate
