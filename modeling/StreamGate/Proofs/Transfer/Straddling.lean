import StreamGate.Block.Id
import StreamGate.Proofs.Cipher.Decryption

/-!
# Sizes within an encrypted file

Where a number of bytes ends in a file that is stored in encrypted blocks, some of which
may be missing or damaged: at the end of a block (`Encrypted.Whole`), where a buffer was
filled within a block (`Encrypted.Cut`), or where some buffer may be filled
(`Encrypted.Straddles`).

* `Cut.whole_or_straddles`, `Straddles.exists_cut`: the sizes that straddle a block are
  those at which some buffer cuts the file short and which are not whole all the same.
* `not_cut_of_longest_le`: a buffer that takes every block at once cuts nothing short.
-/

namespace StreamGate

namespace Encrypted

variable (contents : BlockId → Option Bytes) (k : CipherKey)

/-- What comes out of blocks, one after another, up to one that is missing or does not
decrypt. -/
def stream : List BlockId → Bytes
  | [] => []
  | id :: rest =>
    match contents id with
    | none => []
    | some stored =>
      match k.decrypt stored with
      | .ok plain => plain ++ stream rest
      | .error _ => k.early stored

/-- The first of the blocks decrypt to exactly so many bytes. -/
inductive Whole : List BlockId → Nat → Prop
  | enough (blocks : List BlockId) : Whole blocks 0
  | block {id : BlockId} {rest : List BlockId} {size : Nat} {stored plain : Bytes}
      (found : contents id = some stored) (opened : k.decrypt stored = .ok plain)
      (fits : plain.length ≤ size) (more : Whole rest (size - plain.length)) :
      Whole (id :: rest) size

/-- So many bytes have come out when a buffer was filled for the `n`th time, with some of
the block still to be read. -/
inductive Cut (buffer : Nat) : List BlockId → Nat → Prop
  | here {id : BlockId} {rest : List BlockId} {stored : Bytes} (n : Nat)
      (found : contents id = some stored) (inside : n * buffer < stored.length)
      (some : 0 < Decryptor.ready (n * buffer)) :
      Cut buffer (id :: rest) (Decryptor.ready (n * buffer))
  | later {id : BlockId} {rest : List BlockId} {size : Nat} {stored plain : Bytes}
      (found : contents id = some stored) (opened : k.decrypt stored = .ok plain)
      (fits : plain.length ≤ size) (more : Cut buffer rest (size - plain.length)) :
      Cut buffer (id :: rest) size

/-- So many bytes end within a block, at a place where a buffer may end, and not with the
block. -/
inductive Straddles : List BlockId → Nat → Prop
  | here {id : BlockId} {rest : List BlockId} {size : Nat} {stored : Bytes}
      (found : contents id = some stored) (pos : 0 < size) (aligned : size % 16 = 0)
      (beyond : size + 2 ≤ stored.length)
      (other : ∀ plain, k.decrypt stored = .ok plain → plain.length ≠ size) :
      Straddles (id :: rest) size
  | later {id : BlockId} {rest : List BlockId} {size : Nat} {stored plain : Bytes}
      (found : contents id = some stored) (opened : k.decrypt stored = .ok plain)
      (fits : plain.length ≤ size) (more : Straddles rest (size - plain.length)) :
      Straddles (id :: rest) size

variable {contents k} {blocks : List BlockId} {size buffer : Nat}

theorem Straddles.pos (straddles : Straddles contents k blocks size) : 0 < size := by
  induction straddles with
  | here _ pos => exact pos
  | later _ _ fits _ ih => omega

/-- What is cut short straddles a block, unless it is whole all the same. -/
theorem Cut.whole_or_straddles (cut : Cut contents k buffer blocks size) :
    Whole contents k blocks size ∨ Straddles contents k blocks size := by
  induction cut with
  | @here id rest stored n found inside some =>
    by_cases opened : ∃ plain, k.decrypt stored = .ok plain ∧
        plain.length = Decryptor.ready (n * buffer)
    · obtain ⟨plain, opened, same⟩ := opened
      refine .inl (.block found opened (Nat.le_of_eq same) ?_)
      rw [same, Nat.sub_self]
      exact .enough rest
    · refine .inr (.here found some (Decryptor.ready_mod _) ?_ fun plain h same => ?_)
      · unfold Decryptor.ready at some ⊢
        omega
      · exact opened ⟨plain, h, same⟩
  | later found opened fits _ ih =>
    rcases ih with whole | straddles
    · exact .inl (.block found opened fits whole)
    · exact .inr (.later found opened fits straddles)

/-- What straddles a block is not whole. -/
theorem Straddles.not_whole (straddles : Straddles contents k blocks size) :
    ¬Whole contents k blocks size := by
  induction straddles with
  | @here id rest size stored found pos aligned beyond other =>
    intro whole
    cases whole with
    | enough => exact absurd pos (Nat.lt_irrefl 0)
    | block found' opened fits more =>
      rw [found] at found'
      cases found'
      obtain ⟨mod, -, near⟩ := CipherKey.length_of_decrypt opened
      have := other _ opened
      omega
  | later found opened fits more ih =>
    intro whole
    cases whole with
    | enough =>
      have := more.pos
      omega
    | block found' opened' fits' more' =>
      rw [found] at found'
      cases found'
      rw [opened] at opened'
      cases opened'
      exact ih more'

/-- A buffer that ends right behind the bytes cuts them short. -/
theorem Straddles.exists_cut (straddles : Straddles contents k blocks size) :
    ∃ buffer, 0 < buffer ∧ Cut contents k buffer blocks size := by
  induction straddles with
  | @here id rest size stored found pos aligned beyond other =>
    have ready : Decryptor.ready (1 * (size + 1)) = size := by
      unfold Decryptor.ready
      omega
    refine ⟨size + 1, Nat.succ_pos size, ?_⟩
    have cut : Cut contents k (size + 1) (id :: rest) (Decryptor.ready (1 * (size + 1))) :=
      .here 1 found (by omega) (by omega)
    rwa [ready] at cut
  | later found opened fits more ih =>
    obtain ⟨buffer, pos, cut⟩ := ih
    exact ⟨buffer, pos, .later found opened fits cut⟩

/-- A buffer that cuts blocks short is shorter than one of them. -/
theorem Cut.exists_longer (cut : Cut contents k buffer blocks size) :
    ∃ id ∈ blocks, ∃ stored, contents id = some stored ∧ buffer < stored.length := by
  induction cut with
  | @here id rest stored n found inside some =>
    refine ⟨id, List.mem_cons_self, stored, found, Nat.lt_of_le_of_lt ?_ inside⟩
    have filled : n ≠ 0 := by
      rintro rfl
      simp [Decryptor.ready] at some
    exact Nat.le_mul_of_pos_left buffer (Nat.pos_of_ne_zero filled)
  | later _ _ _ _ ih =>
    obtain ⟨id, mem, longer⟩ := ih
    exact ⟨id, List.mem_cons_of_mem _ mem, longer⟩

/-- The length of the longest block. -/
def longest (contents : BlockId → Option Bytes) (blocks : List BlockId) : Nat :=
  (blocks.map fun id => ((contents id).getD []).length).max?.getD 0

theorem le_longest {id : BlockId} {stored : Bytes} (mem : id ∈ blocks)
    (found : contents id = some stored) : stored.length ≤ longest contents blocks := by
  refine List.le_max?_getD_of_mem (List.mem_map.2 ⟨id, mem, ?_⟩)
  rw [found]
  rfl

theorem not_cut_of_longest_le (large : longest contents blocks ≤ buffer) :
    ¬Cut contents k buffer blocks size := by
  intro cut
  obtain ⟨id, mem, stored, found, longer⟩ := cut.exists_longer
  exact absurd (Nat.le_trans (le_longest mem found) large) (Nat.not_le_of_lt longer)

end Encrypted

end StreamGate
