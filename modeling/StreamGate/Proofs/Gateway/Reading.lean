import StreamGate.Proofs.Gateway.Access
import StreamGate.Proofs.Transfer.Supply

/-!
# Reading bodies

What a client reads of a body.  A body `Yields` some bytes if reading it to the
end gives these bytes and no error.

* `Body.yields_streamed`: the body of a session that serves what it announces.
* `Access.run_startSession`: a session that announces something is started and
  becomes the body.
-/

namespace StreamGate

variable {World Handle File : Type} {svc : Services World Handle File}

/-! ## Bodies -/

namespace Body

/-- Whoever reads enough frames of a body reads exactly these bytes, and then the
body is over. -/
def Yields (svc : Services World Handle File) (b : Body (Delivering Handle File))
    (g : Gateway World) (bytes : Bytes) : Prop :=
  ∀ limit, bytes.length < limit →
    let (rest, b', g') := b.readUpTo svc limit g
    rest.frames.flatten = bytes ∧ rest.error = none ∧ (b'.next svc g').1 = .done

theorem yields_known_nil (g : Gateway World) : (known []).Yields svc g [] := by
  intro limit enough
  cases limit with
  | zero => exact absurd enough (Nat.not_lt_zero _)
  | succ limit => exact ⟨rfl, rfl, rfl⟩

/-- A session that is over has nothing more to hand out. -/
theorem next_completed {conn : Option ConnectionId} {s : Session (Delivering Handle File)}
    (completed : s.phase = .completed) (g : Gateway World) :
    (streamed conn s).next svc g = (.done, streamed conn s, g) := by
  simp only [next, Session.step, completed]
  rfl

theorem readUpTo_completed {conn : Option ConnectionId} {s : Session (Delivering Handle File)}
    (completed : s.phase = .completed) (limit : Nat) (g : Gateway World) :
    (streamed conn s).readUpTo svc limit g = (⟨[], none⟩, streamed conn s, g) := by
  cases limit with
  | zero => rfl
  | succ limit => simp only [readUpTo, next_completed completed]

/-- The body of a session that serves what it announces. -/
theorem yields_streamed {inv : Delivering Handle File → Gateway World → Bytes → Prop}
    (supplies : svc.source.Supplies inv) {conn : Option ConnectionId}
    {s : Session (Delivering Handle File)} {g : Gateway World} {left : Bytes}
    (serves : s.Serves svc.source inv g left) : (streamed conn s).Yields svc g left := by
  intro limit enough
  induction limit generalizing s g left with
  | zero => exact absurd enough (Nat.not_lt_zero _)
  | succ limit ih =>
    have stepped := serves.step (Gateway.host svc.countsUsage conn) supplies
    simp only [readUpTo, next]
    generalize s.step svc.source (Gateway.host svc.countsUsage conn) g = answer at stepped ⊢
    obtain ⟨_ | e | data, s', g'⟩ := answer
    · obtain ⟨rfl, completed⟩ := stepped
      exact ⟨rfl, rfl, congrArg Prod.fst (next_completed completed g')⟩
    · exact stepped.elim
    · obtain ⟨hne, more, rfl, ⟨rfl, completed⟩ | serves'⟩ := stepped
      · simp only [Frame.ofStep, readUpTo_completed completed]
        refine ⟨?_, trivial, congrArg Prod.fst (next_completed completed g')⟩
        simp
      · have hpos := List.length_pos_iff.2 hne
        rw [List.length_append] at enough
        have read := ih serves' (by omega)
        simp only [Frame.ofStep]
        generalize (streamed conn s').readUpTo svc limit g' = out at read ⊢
        obtain ⟨frames, error, ended⟩ := read
        refine ⟨?_, error, ended⟩
        rw [List.flatten_cons, frames]

end Body

/-! ## Cursors as bodies -/

namespace Cursor

/-- What a source of the gateway has left, if it is a cursor that stands before all
that is wanted. -/
def PlentifulIn (svc : Services World Handle File) :
    Delivering Handle File → Gateway World → Bytes → Prop :=
  within (onLeft (Plentiful svc.store)) Gateway.world

theorem supplies_source : svc.source.Supplies (PlentifulIn svc) :=
  Source.Supplies.inside (Source.Supplies.left supplies) fun _ _ => rfl

theorem started_source {c : Cursor Handle} {g : Gateway World} {left : Bytes}
    (started : Started (Plentiful svc.store) left (c.begin svc.store g.world)) :
    Started (PlentifulIn svc) left (svc.source.start (.inl c) g) :=
  Started.inside (Started.left started) fun _ _ => rfl

end Cursor

/-! ## Starting sessions -/

namespace Gateway

variable {State : Type}

@[simp] theorem world_takeOver (g : Gateway World) (conn : Option ConnectionId) (id : SessionId) :
    (g.takeOver conn id).world = g.world := by
  cases conn with
  | none => rfl
  | some c =>
    simp only [takeOver]
    split <;> rfl

@[simp] theorem nextSession_takeOver (g : Gateway World) (conn : Option ConnectionId)
    (id : SessionId) : (g.takeOver conn id).nextSession = g.nextSession := by
  cases conn with
  | none => rfl
  | some c =>
    simp only [takeOver]
    split <;> rfl

end Gateway

namespace Access

/-- A session that announces something becomes the body of the answer. -/
theorem run_startSession (svc : Services World Handle File) (conn : Option ConnectionId)
    (status : Nat) (headers : List Header) (t : Transfer (Delivering Handle File))
    (g : Gateway World) (announces : t.contentLength ≠ 0) :
    ∃ g', (startSession svc conn status headers t).run g =
        (.ok ⟨status, headers, .streamed conn
          { id := g.nextSession, kind := t.kind, source := t.source,
            contentLength := t.contentLength, usage := t.usage }⟩, g') ∧
      g'.world = g.world ∧ g'.nextSession = g.nextSession + 1 := by
  unfold startSession
  rw [run_bind_of_gives (gives_get g)]
  simp only [Session.intoBody, announces, ↓reduceIte]
  refine ⟨_, rfl, ?_, ?_⟩
  · simp [Gateway.install]
  · simp [Gateway.install]

end Access

end StreamGate
