import StreamGate.Proofs.Transfer.Feed
import StreamGate.Transfer.Session

/-!
# Sources that supply what is announced

A source that `Supplies` hands out exactly the bytes that an invariant says are
left, and never fails.  A session on such a source that announces as much hands
out the same bytes and then is over: `Session.Serves.step`.

* `Source.Supplies.inside` and `Source.Supplies.left`: a source supplies as a
  part of a larger world, and as one of two sources.
* `Cursor.supplies`: a cursor on a reliable store that stands before all that is
  wanted.
-/

namespace StreamGate

/-! ## Sources -/

section Sources

variable {World State : Type}

/-- What a chunk of a source with `left` to come is: the rest, or a part of it. -/
def Supplied (inv : State → World → Bytes → Prop) (left : Bytes) :
    Except TransferError Chunk × State × World → Prop
  | (.ok ⟨data, true⟩, _, _) => data = left
  | (.ok ⟨data, false⟩, s, w) => data ≠ [] ∧ ∃ more, left = data ++ more ∧ inv s w more
  | (.error _, _, _) => False

/-- As long as the invariant holds, the source hands out what is left. -/
def Source.Supplies (src : Source World State) (inv : State → World → Bytes → Prop) : Prop :=
  ∀ {s w left}, inv s w left → Supplied inv left (src.nextChunk s w)

/-- What starting a source with `left` to come is. -/
def Started (inv : State → World → Bytes → Prop) (left : Bytes) :
    Except TransferError Unit × State × World → Prop
  | (.ok (), s, w) => inv s w left
  | (.error _, _, _) => False

variable {src : Source World State} {inv : State → World → Bytes → Prop}

/-- The invariant of a source in a larger world. -/
def within {Outer : Type} (inv : State → World → Bytes → Prop) (get : Outer → World) (s : State)
    (o : Outer) (left : Bytes) : Prop :=
  inv s (get o) left

theorem Source.Supplies.inside {Outer : Type} {get : Outer → World} {put : World → Outer → Outer}
    (supplies : src.Supplies inv) (get_put : ∀ w o, get (put w o) = w) :
    (src.inside get put).Supplies (within inv get) := by
  intro s o left h
  have supplied := supplies h
  show Supplied (within inv get) left ((src.nextChunk s (get o)).1,
    (src.nextChunk s (get o)).2.1, put (src.nextChunk s (get o)).2.2 o)
  generalize src.nextChunk s (get o) = answer at supplied ⊢
  obtain ⟨e | ⟨data, done⟩, s', w'⟩ := answer
  · exact supplied
  · cases done with
    | true => exact supplied
    | false =>
      obtain ⟨hne, more, split, h'⟩ := supplied
      refine ⟨hne, more, split, ?_⟩
      show inv s' (get (put w' o)) more
      rw [get_put]
      exact h'

theorem Started.inside {Outer : Type} {get : Outer → World} {put : World → Outer → Outer}
    {s : State} {o : Outer} {left : Bytes} (started : Started inv left (src.start s (get o)))
    (get_put : ∀ w o, get (put w o) = w) :
    Started (within inv get) left ((src.inside get put).start s o) := by
  show Started (within inv get) left ((src.start s (get o)).1, (src.start s (get o)).2.1,
    put (src.start s (get o)).2.2 o)
  generalize src.start s (get o) = answer at started ⊢
  obtain ⟨e | u, s', w'⟩ := answer
  · exact started
  · show inv s' (get (put w' o)) left
    rw [get_put]
    exact started

/-- The invariant of the first of two sources. -/
def onLeft {Other : Type} (inv : State → World → Bytes → Prop) :
    State ⊕ Other → World → Bytes → Prop
  | .inl s, w, left => inv s w left
  | .inr _, _, _ => False

theorem Source.Supplies.left {Other : Type} {other : Source World Other}
    (supplies : src.Supplies inv) : (src.either other).Supplies (onLeft inv) := by
  intro s w left h
  cases s with
  | inr s => exact h.elim
  | inl s =>
    have supplied := supplies h
    show Supplied (onLeft inv) left ((src.nextChunk s w).1, .inl (src.nextChunk s w).2.1,
      (src.nextChunk s w).2.2)
    generalize src.nextChunk s w = answer at supplied ⊢
    obtain ⟨e | ⟨data, done⟩, s', w'⟩ := answer
    · exact supplied
    · cases done with
      | true => exact supplied
      | false => exact supplied

theorem Started.left {Other : Type} {other : Source World Other} {s : State} {w : World}
    {left : Bytes} (started : Started inv left (src.start s w)) :
    Started (onLeft inv) left ((src.either other).start (.inl s) w) := by
  show Started (onLeft inv) left ((src.start s w).1, .inl (src.start s w).2.1, (src.start s w).2.2)
  generalize src.start s w = answer at started ⊢
  obtain ⟨e | u, s', w'⟩ := answer
  · exact started
  · exact started

end Sources

/-! ## Cursors -/

namespace Cursor

variable {World Handle : Type} {bs : BlockStore World Handle}

/-- A cursor on a reliable store stands before all that is wanted. -/
def Plentiful (bs : BlockStore World Handle) (c : Cursor Handle) (w : World) (left : Bytes) :
    Prop :=
  ∃ (t : Feed World Handle) (ahead : Bytes), t.Served bs ∧ t.shelf.Reliable ∧ t.Stands c w ahead ∧
    t.Balanced c.remaining ahead ∧ c.remaining ≤ ahead.length ∧ left = ahead.take c.remaining

theorem supplies : (source bs).Supplies (Plentiful bs) := by
  rintro c w left ⟨t, ahead, served, reliable, stands, balanced, enough, rfl⟩
  have chunked : t.Chunked c.remaining ahead ((source bs).nextChunk c w) :=
    stands.nextChunk served balanced
  generalize (source bs).nextChunk c w = answer at chunked ⊢
  obtain ⟨e | ⟨data, done⟩, c', w'⟩ := answer
  · obtain ⟨-, balanced', ⟨f, fault, -⟩ | ⟨rfl, wanted, -⟩⟩ := chunked
    · exact reliable f fault
    · unfold Feed.Balanced at balanced balanced'
      rw [List.length_nil] at enough
      omega
  · cases done with
    | true =>
      obtain ⟨hlen, ⟨more, rfl⟩, -⟩ := chunked
      exact (List.take_left' hlen).symm
    | false =>
      obtain ⟨hne, more, rfl, stands', balanced'⟩ := chunked
      have hremaining : c.remaining = data.length + c'.remaining := by
        unfold Feed.Balanced at balanced balanced'
        rw [List.length_append] at balanced
        omega
      rw [List.length_append] at enough
      refine ⟨hne, more.take c'.remaining, ?_, t, more, served, reliable, stands', balanced',
        by omega, rfl⟩
      rw [hremaining, List.take_length_add_append]

end Cursor

/-! ## Sessions -/

namespace Session

variable {World State : Type} {src : Source World State}
  {inv : State → World → Bytes → Prop}

/-- A session announces as much as its source will supply, started or not, and can count
it. -/
structure Serves (src : Source World State) (inv : State → World → Bytes → Prop)
    (s : Session State) (w : World) (left : Bytes) : Prop where
  countable : s.contentLength < UInt64.size
  announced : s.contentLength = s.sent + left.length
  supplied : (s.phase = .headerSent ∧ Started inv left (src.start s.source w)) ∨
    (s.phase = .streaming ∧ inv s.source w left)

/-- What a step of such a session comes to.  With the last byte it is over. -/
def Stepped (src : Source World State) (inv : State → World → Bytes → Prop) (left : Bytes) :
    Option (Except TransferError Bytes) × Session State × World → Prop
  | (some (.ok data), s, w) =>
    data ≠ [] ∧ ∃ more, left = data ++ more ∧
      ((more = [] ∧ s.phase = .completed) ∨ s.Serves src inv w more)
  | (none, s, _) => left = [] ∧ s.phase = .completed
  | (some (.error _), _, _) => False

theorem Serves.pull {s : Session State} {w : World} {left : Bytes} (host : Host World)
    (supplies : src.Supplies inv) (countable : s.contentLength < UInt64.size)
    (announced : s.contentLength = s.sent + left.length) (streaming : s.phase = .streaming)
    (supplied : inv s.source w left) : Stepped src inv left (s.pull src host w) := by
  have chunk := supplies supplied
  unfold Session.pull
  generalize src.nextChunk s.source w = answer at chunk ⊢
  obtain ⟨e | ⟨data, done⟩, source, w'⟩ := answer
  · exact chunk.elim
  · cases done with
    | true =>
      have hdata : data = left := chunk
      have hcount : counted s.sent data.length = s.contentLength := by
        rw [hdata, announced]
        exact Nat.mod_eq_of_lt (announced ▸ countable)
      have hsent : ¬ s.contentLength < counted s.sent data.length := by omega
      have hall : ¬ counted s.sent data.length < s.contentLength := by omega
      simp only [hsent, hall, ↓reduceIte]
      cases data with
      | nil => exact ⟨hdata.symm, rfl⟩
      | cons x more =>
        exact ⟨List.cons_ne_nil x more, [], by rw [List.append_nil, hdata], .inl ⟨rfl, rfl⟩⟩
    | false =>
      obtain ⟨hne, more, split, supplied'⟩ := chunk
      have hlen := congrArg List.length split
      rw [List.length_append] at hlen
      have hcount : counted s.sent data.length = s.sent + data.length :=
        Nat.mod_eq_of_lt (by omega)
      have hsent : ¬ s.contentLength < counted s.sent data.length := by omega
      simp only [hsent, ↓reduceIte, Bool.false_eq_true]
      refine ⟨hne, more, split, .inr ⟨countable, ?_, .inr ⟨streaming, supplied'⟩⟩⟩
      show s.contentLength = counted s.sent data.length + more.length
      omega

theorem Serves.step {s : Session State} {w : World} {left : Bytes} (host : Host World)
    (supplies : src.Supplies inv) (serves : s.Serves src inv w left) :
    Stepped src inv left (s.step src host w) := by
  unfold Session.step
  rcases serves.supplied with ⟨phase, started⟩ | ⟨phase, supplied⟩
  · rw [phase]
    simp only
    generalize src.start s.source w = answer at started ⊢
    obtain ⟨e | u, source, w'⟩ := answer
    · exact started.elim
    · exact Serves.pull (s := { s with source, phase := .streaming }) host supplies
        serves.countable serves.announced rfl started
  · rw [phase]
    exact Serves.pull host supplies serves.countable serves.announced phase supplied

end Session

end StreamGate
