import StreamGate.Proofs.Archive.Chunks
import StreamGate.Proofs.Transfer.Journal
import StreamGate.Proofs.Transfer.Outcomes

/-!
# Sources that count down

A source `CountsDown` if it always knows how many bytes it has left, and marks as
the last one the very chunk that leaves none.  What the store, the archive or the
cipher answers has no part in this: cursors and relays count what they hand out.

A session on such a source that announces what the source has left is in balance:
`Session.Tallies`.

* `Session.Does.tallies`: every step keeps the balance.
* `Session.Does.of_source`: every error of a step is one of the source.
* `Session.Does.completes`: the step with the last byte completes the session.
-/

namespace StreamGate

variable {World State : Type}

/-- A source that knows how many bytes it has left. -/
structure Source.CountsDown (src : Source World State) (left : State → Nat) : Prop where
  /-- Starting hands out nothing. -/
  start : ∀ s w, left (src.start s w).2.1 = left s
  /-- A chunk is taken from what is left, and it is the last one once nothing is. -/
  chunk : ∀ {s w chunk}, (src.nextChunk s w).1 = .ok chunk →
    chunk.data.length + left (src.nextChunk s w).2.1 = left s ∧
      (chunk.done = true ↔ left (src.nextChunk s w).2.1 = 0)
  /-- A source that has nothing left does not fail. -/
  spent : ∀ {s}, left s = 0 → ∀ w, ∃ chunk, (src.nextChunk s w).1 = .ok chunk

/-! ## Cursors -/

namespace Cursor

variable {Handle : Type} {bs : BlockStore World Handle}

theorem remaining_begin (c : Cursor Handle) (w : World) :
    (c.begin bs w).2.1.remaining = c.remaining := by
  unfold begin
  split
  · rfl
  · unfold position
    split
    · rfl
    · rfl
    · dsimp only
      split <;> rfl

/-- A chunk is counted, and the last one leaves nothing to deliver. -/
theorem counts_nextChunk {c c' : Cursor Handle} {w w' : World} {chunk : Chunk}
    (answer : c.nextChunk bs w = (.ok chunk, c', w')) :
    chunk.data.length + c'.remaining = c.remaining ∧ (chunk.done = true ↔ c'.remaining = 0) := by
  fun_induction nextChunk bs c w with
  | case1 c w zero c₁ w₁ released =>
    cases released
    cases answer
    exact ⟨Nat.zero_add _, by simp [Chunk.last, bare, zero]⟩
  | case2 => cases answer
  | case3 c w _ c₁ w₁ taken ih =>
    have kept := remaining_turn bs c w
    rw [taken] at kept
    rw [← kept]
    exact ih answer
  | case4 => cases answer
  | case5 c w _ data c₁ w₁ taken fits counted zero c₂ w₂ released =>
    have kept : c₁.remaining = c.remaining := by
      rw [← remaining_turn bs c w, taken]
    cases released
    cases answer
    have none_left : c₁.remaining - data.length = 0 := zero
    refine ⟨?_, fun _ => none_left, fun _ => rfl⟩
    show data.length + (c₁.remaining - data.length) = c.remaining
    omega
  | case6 c w _ data c₁ w₁ taken fits counted more =>
    have kept : c₁.remaining = c.remaining := by
      rw [← remaining_turn bs c w, taken]
    obtain ⟨rfl, rfl, -⟩ : Chunk.more data = chunk ∧ counted = c' ∧ w₁ = w' := by
      simpa using answer
    refine ⟨?_, fun done => (by cases done), fun zero => absurd zero more⟩
    show data.length + (c₁.remaining - data.length) = c.remaining
    omega

/-- Cursors count what they have to deliver. -/
theorem countsDown : (source bs).CountsDown remaining where
  start := remaining_begin
  chunk := by
    intro c w chunk answer
    have answered : c.nextChunk bs w = (.ok chunk, (c.nextChunk bs w).2) := by
      rw [← answer]
      rfl
    exact counts_nextChunk answered
  spent := by
    intro c zero w
    refine ⟨.last [], ?_⟩
    show (c.nextChunk bs w).1 = _
    rw [nextChunk, if_pos zero]

end Cursor

/-! ## Relays -/

namespace Relay

variable {File : Type} {desk : ArchiveDesk World File}

/-- Relays count what they have to deliver. -/
theorem countsDown : (source desk).CountsDown remaining where
  start _ _ := rfl
  chunk answer := (nextChunk_sends desk _ _).counts answer
  spent := by
    intro r zero w
    refine ⟨.last [], ?_⟩
    show (r.nextChunk desk w).1 = _
    rw [nextChunk, if_pos zero]

end Relay

/-! ## Parts of the gateway -/

namespace Source.CountsDown

/-- A source that is one of two. -/
theorem either {Other : Type} {left : Source World State} {right : Source World Other}
    {l : State → Nat} {r : Other → Nat} (hl : left.CountsDown l) (hr : right.CountsDown r) :
    (left.either right).CountsDown (Sum.elim l r) where
  start
    | .inl s, w => hl.start s w
    | .inr s, w => hr.start s w
  chunk := by
    intro s w chunk answer
    cases s with
    | inl s => exact hl.chunk answer
    | inr s => exact hr.chunk answer
  spent := by
    intro s zero w
    cases s with
    | inl s => exact hl.spent zero w
    | inr s => exact hr.spent zero w

/-- A source that is a part of a larger world. -/
theorem inside {Outer : Type} {src : Source World State} {left : State → Nat}
    (counts : src.CountsDown left) (get : Outer → World) (put : World → Outer → Outer) :
    (src.inside get put).CountsDown left where
  start s w := counts.start s (get w)
  chunk answer := counts.chunk answer
  spent zero w := counts.spent zero (get w)

end Source.CountsDown

/-! ## Sessions -/

namespace Session

variable {src : Source World State} {left : State → Nat} {s s' : Session State}
  {made opening : List Call} {r : Result} {source spent : State}

/-- Unless the session is over, what it sent and what its source has left make up
what it announced, which can be counted. -/
structure Tallies (left : State → Nat) (s : Session State) : Prop where
  countable : s.contentLength < UInt64.size
  balance : s.phase.isFinal = false → s.sent + left s.source = s.contentLength

theorem Opens.running (opens : s.Opens src opening source) : s.phase.isFinal = false := by
  cases opens with
  | streaming phase => rw [phase]; rfl
  | headerSent phase _ => rw [phase]; rfl

theorem Opens.left_eq (counts : src.CountsDown left) (opens : s.Opens src opening source) :
    left source = left s.source := by
  cases opens with
  | streaming => rfl
  | headerSent _ started =>
    obtain ⟨w, w', start⟩ := started
    rw [← counts.start s.source w, start]

/-- What a chunk leaves, once the source is open.  The count does not start over. -/
theorem Tallies.chunk (counts : src.CountsDown left) (tallies : s.Tallies left)
    (opens : s.Opens src opening source) {chunk : Chunk}
    (answer : src.Hands source (.ok chunk) spent) :
    counted s.sent chunk.data.length = s.sent + chunk.data.length ∧
      s.sent + chunk.data.length + left spent = s.contentLength ∧
      (chunk.done = true ↔ left spent = 0) := by
  obtain ⟨w, w', hands⟩ := answer
  obtain ⟨counted, ended⟩ := counts.chunk (congrArg Prod.fst hands)
  have spends : (src.nextChunk source w).2.1 = spent := by rw [hands]
  rw [spends] at counted ended
  rw [opens.left_eq counts] at counted
  have balance := tallies.balance opens.running
  have countable := tallies.countable
  exact ⟨Nat.mod_eq_of_lt (by omega), by omega, ended⟩

/-- Every step keeps the balance. -/
theorem Does.tallies (counts : src.CountsDown left) (does : s.Does src made r s')
    (tallies : s.Tallies left) : s'.Tallies left := by
  cases does with
  | idle final => exact tallies
  | refused | failed | overran | fellShort | completed =>
    exact ⟨tallies.countable, fun running => by cases running⟩
  | handedOut opens answer more fits =>
    obtain ⟨counted, balance, -⟩ := tallies.chunk counts opens answer
    refine ⟨tallies.countable, fun _ => ?_⟩
    rw [counted]
    exact balance

/-- Until the session is over, it counts what it hands out. -/
theorem Does.sent_of_going (counts : src.CountsDown left) (does : s.Does src made r s')
    (tallies : s.Tallies left) (going : s'.phase.isFinal = false) :
    s.phase.isFinal = false ∧ s'.sent = s.sent + r.handed.length := by
  cases does with
  | idle final =>
    rw [final] at going
    cases going
  | refused | failed | overran | fellShort | completed => cases going
  | handedOut opens answer more fits =>
    exact ⟨opens.running, (tallies.chunk counts opens answer).1⟩

/-- Every error of a step is one of the source. -/
theorem Does.of_source (counts : src.CountsDown left) (does : s.Does src made r s')
    (tallies : s.Tallies left) {e : TransferError} (failed : r = some (.error e)) :
    .start (.error e) ∈ made ∨ .nextChunk (.error e) ∈ made := by
  cases does with
  | idle => cases failed
  | refused =>
    cases failed
    exact .inl List.mem_cons_self
  | failed =>
    cases failed
    exact .inr (List.mem_append_right _ List.mem_cons_self)
  | overran opens answer much =>
    obtain ⟨counted, balance, -⟩ := tallies.chunk counts opens answer
    omega
  | fellShort opens answer done little =>
    obtain ⟨counted, balance, ended⟩ := tallies.chunk counts opens answer
    have nothing := ended.1 done
    omega
  | completed =>
    split at failed
    · cases failed
    · cases failed
  | handedOut => cases failed

/-- The step with the last byte completes the session. -/
theorem Does.completes (counts : src.CountsDown left) (does : s.Does src made r s')
    (tallies : s.Tallies left) (before : s.sent < s.contentLength)
    (enough : s.contentLength ≤ s.sent + r.handed.length) : s'.phase = .completed := by
  cases does with
  | completed => rfl
  | @handedOut chunk _ _ _ opens answer more fits =>
    obtain ⟨-, balance, ended⟩ := tallies.chunk counts opens answer
    have enough : s.contentLength ≤ s.sent + chunk.data.length := enough
    rw [ended.2 (by omega)] at more
    cases more
  | idle | refused | failed | overran | fellShort => exact absurd before (Nat.not_lt.2 enough)

/-- A session that announces nothing is completed by its first step, if its source
can be started. -/
theorem Does.completes_empty (counts : src.CountsDown left) (does : s.Does src made r s')
    (tallies : s.Tallies left) (running : s.phase.isFinal = false) (empty : s.contentLength = 0)
    (starts : ∀ {answer source}, src.Starts s.source answer source → answer = .ok ()) :
    r = none ∧ s'.phase = .completed := by
  have nothing := tallies.balance running
  cases does with
  | idle final =>
    rw [running] at final
    cases final
  | refused _ answer => cases starts answer
  | failed opens answer =>
    obtain ⟨w, w', hands⟩ := answer
    obtain ⟨chunk, given⟩ := counts.spent (by rw [opens.left_eq counts]; omega) w
    rw [hands] at given
    cases given
  | overran opens answer much =>
    obtain ⟨counted, balance, -⟩ := tallies.chunk counts opens answer
    omega
  | fellShort opens answer done little => omega
  | @completed chunk _ _ _ _ opens answer done all =>
    obtain ⟨counted, -, -⟩ := tallies.chunk counts opens answer
    have noBytes : chunk.data = [] := List.eq_nil_of_length_eq_zero (by omega)
    rw [noBytes]
    exact ⟨rfl, rfl⟩
  | handedOut opens answer more fits =>
    obtain ⟨-, balance, ended⟩ := tallies.chunk counts opens answer
    rw [ended.2 (by omega)] at more
    cases more

end Session

end StreamGate
