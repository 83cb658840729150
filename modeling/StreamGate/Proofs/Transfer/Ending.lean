import StreamGate.Proofs.Transfer.Countdown
import StreamGate.Transfer.Drain

/-!
# Transfers that end well

`Cursor.Ends` says that a cursor comes to its end without an error, and what it hands
out on the way, turn by turn.  How the turns are gathered into chunks is no part of
it.

* `Cursor.ends_iff_turn`, `Cursor.ends_iff_chunk`: the first turn of such a transfer,
  and its first chunk.
* `Cursor.drain_iff_ends`: a drain ends well exactly if the cursor does.
-/

namespace StreamGate.Cursor

variable {World Handle : Type} {bs : BlockStore World Handle} {c : Cursor Handle} {w : World}
  {out : Bytes}

/-- The cursor once so many bytes more are counted. -/
def counting (c : Cursor Handle) (length : Nat) : Cursor Handle :=
  { c with remaining := c.remaining - length }

/-- A cursor comes to its end and hands out these bytes. -/
inductive Ends (bs : BlockStore World Handle) : Cursor Handle → World → Bytes → Prop
  | done {c : Cursor Handle} {w : World} (nothing : c.remaining = 0) : Ends bs c w []
  | turn {c c' : Cursor Handle} {w w' : World} {o : Option Bytes} {out : Bytes}
      (wanted : c.remaining ≠ 0) (taken : c.turn bs w = (.ok o, c', w'))
      (fits : (o.getD []).length ≤ c'.remaining)
      (rest : Ends bs (c'.counting (o.getD []).length) w' out) : Ends bs c w (o.getD [] ++ out)

theorem ends_of_zero (nothing : c.remaining = 0) : Ends bs c w out ↔ out = [] := by
  constructor
  · intro ends
    cases ends with
    | done => rfl
    | turn wanted => exact absurd nothing wanted
  · rintro rfl
    exact .done nothing

/-- The first turn of a transfer that ends well. -/
theorem ends_iff_turn (wanted : c.remaining ≠ 0) :
    Ends bs c w out ↔ ∃ o c' w' more, c.turn bs w = (.ok o, c', w') ∧
      (o.getD []).length ≤ c'.remaining ∧ Ends bs (c'.counting (o.getD []).length) w' more ∧
        out = o.getD [] ++ more := by
  constructor
  · intro ends
    cases ends with
    | done nothing => exact absurd nothing wanted
    | turn _ taken fits rest => exact ⟨_, _, _, _, taken, fits, rest, rfl⟩
  · rintro ⟨o, c', w', more, taken, fits, rest, rfl⟩
    exact .turn wanted taken fits rest

/-- As many bytes are handed out as were to be delivered. -/
theorem Ends.length (ends : Ends bs c w out) : out.length = c.remaining := by
  induction ends with
  | done nothing => exact nothing.symm
  | @turn c c' w w' o out wanted taken fits rest ih =>
    have kept : c'.remaining = c.remaining := by rw [← remaining_turn bs c w, taken]
    have counted : out.length = c'.remaining - (o.getD []).length := ih
    rw [List.length_append]
    omega

/-- The first chunk of a transfer that ends well. -/
theorem ends_iff_chunk (bs : BlockStore World Handle) (c : Cursor Handle) (w : World)
    (out : Bytes) :
    Ends bs c w out ↔ ∃ chunk c' w', c.nextChunk bs w = (.ok chunk, c', w') ∧
      if chunk.done then out = chunk.data
      else ∃ more, Ends bs c' w' more ∧ out = chunk.data ++ more := by
  fun_induction nextChunk bs c w generalizing out with
  | case1 c w nothing c₁ w₁ released =>
    rw [ends_of_zero nothing]
    constructor
    · rintro rfl
      exact ⟨.last [], c₁, w₁, rfl, rfl⟩
    · rintro ⟨chunk, c', w', answer, ended⟩
      cases answer
      exact ended
  | case2 c w wanted e c₁ w₁ taken =>
    rw [ends_iff_turn wanted]
    constructor
    · rintro ⟨o, c', w', more, turned, -⟩
      rw [taken] at turned
      cases turned
    · rintro ⟨chunk, c', w', answer, -⟩
      cases answer
  | case3 c w wanted c₁ w₁ taken ih =>
    rw [← ih, ends_iff_turn wanted, taken]
    constructor
    · rintro ⟨o, c', w', more, turned, -, rest, rfl⟩
      cases turned
      exact rest
    · intro rest
      exact ⟨none, c₁, w₁, out, rfl, Nat.zero_le _, rest, rfl⟩
  | case4 c w wanted data c₁ w₁ taken much =>
    rw [ends_iff_turn wanted, taken]
    constructor
    · rintro ⟨o, c', w', more, turned, fits, -⟩
      cases turned
      exact absurd fits (Nat.not_le_of_lt much)
    · rintro ⟨chunk, c', w', answer, -⟩
      cases answer
  | case5 c w wanted data c₁ w₁ taken fits counted zero c₂ w₂ =>
    rename_i released
    rw [ends_iff_turn wanted, taken]
    constructor
    · rintro ⟨o, c', w', more, turned, -, rest, rfl⟩
      cases turned
      obtain rfl := (ends_of_zero zero).1 rest
      exact ⟨.last data, c₂, w₂, rfl, List.append_nil _⟩
    · rintro ⟨chunk, c', w', answer, ended⟩
      cases answer
      refine ⟨some data, c₁, w₁, [], rfl, Nat.le_of_not_lt fits, .done zero, ?_⟩
      rw [List.append_nil]
      exact ended
  | case6 c w wanted data c₁ w₁ taken fits counted =>
    rename_i nonzero
    rw [ends_iff_turn wanted, taken]
    constructor
    · rintro ⟨o, c', w', more, turned, -, rest, rfl⟩
      cases turned
      exact ⟨.more data, counted, w₁, rfl, more, rest, rfl⟩
    · rintro ⟨chunk, c', w', answer, ended⟩
      cases answer
      obtain ⟨more, rest, rfl⟩ := ended
      exact ⟨some data, c₁, w₁, more, rfl, Nat.le_of_not_lt fits, rest, rfl⟩

/-! ## Draining -/

/-- A chunk after which more is to follow is not empty. -/
theorem ne_nil_of_more {c' : Cursor Handle} {w' : World} {chunk : Chunk}
    (answer : c.nextChunk bs w = (.ok chunk, c', w')) (more : chunk.done = false) :
    chunk.data ≠ [] := by
  fun_induction nextChunk bs c w with
  | case1 =>
    cases answer
    cases more
  | case2 => cases answer
  | case3 c w _ c₁ w₁ taken ih => exact ih answer
  | case4 => cases answer
  | case5 =>
    cases answer
    cases more
  | case6 c w _ data c₁ w₁ taken =>
    have solid := solid_turn bs c w
    rw [taken] at solid
    obtain ⟨rfl, -⟩ : Chunk.more data = chunk ∧ _ := by simpa using answer
    rintro (rfl : data = [])
    exact solid rfl

/-- A drain that is long enough ends well, with these bytes, exactly if the cursor does. -/
theorem drain_iff_ends {limit : Nat} (enough : c.remaining < limit) :
    ((source bs).drain limit c w).1.ending = some (.ok ()) ∧
      ((source bs).drain limit c w).1.bytes = out ↔ Ends bs c w out := by
  induction limit generalizing c w out with
  | zero => exact absurd enough (Nat.not_lt_zero _)
  | succ limit ih =>
    rw [ends_iff_chunk]
    unfold Source.drain
    have same : (source bs).nextChunk c w = c.nextChunk bs w := rfl
    rw [same]
    cases answer : c.nextChunk bs w with
    | mk r s =>
      obtain ⟨c', w'⟩ := s
      cases r with
      | error e =>
        constructor
        · rintro ⟨ended, -⟩
          cases ended
        · rintro ⟨chunk, c'', w'', given, -⟩
          cases given
      | ok chunk =>
        cases done : chunk.done with
        | true =>
          simp only [done, ↓reduceIte, Drain.bytes, List.flatten_cons, List.flatten_nil,
            List.append_nil, true_and]
          constructor
          · rintro rfl
            exact ⟨chunk, c', w', rfl, by rw [if_pos done]⟩
          · rintro ⟨chunk', c'', w'', given, ended⟩
            cases given
            rw [if_pos done] at ended
            exact ended.symm
        | false =>
          have counted := (counts_nextChunk answer).1
          have solid := List.length_pos_iff.2 (ne_nil_of_more answer done)
          have rest {more : Bytes} : _ ↔ Ends bs c' w' more := ih (by omega)
          have unfinished : ¬chunk.done = true := by simp [done]
          simp only [done, Bool.false_eq_true, ↓reduceIte, Drain.bytes_after]
          constructor
          · rintro ⟨ended, rfl⟩
            refine ⟨chunk, c', w', rfl, ?_⟩
            rw [if_neg unfinished]
            exact ⟨_, rest.1 ⟨ended, rfl⟩, rfl⟩
          · rintro ⟨chunk', c'', w'', given, ended⟩
            cases given
            rw [if_neg unfinished] at ended
            obtain ⟨more, ends, rfl⟩ := ended
            obtain ⟨ended, rfl⟩ := rest.2 ends
            exact ⟨ended, rfl⟩

end StreamGate.Cursor
