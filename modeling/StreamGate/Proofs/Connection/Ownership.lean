import StreamGate.Connection.Crowd

/-!
# Ownership of a slot

However sessions, waiting sessions and requests take turns at a slot, it has one
owner at a time, and every takeover gives it back once.

* `Crowd.Op`: what can happen between two looks at the slot.  An explicit restore is
  two operations, for a takeover that gave the slot back is dropped only afterwards.
* `Crowd.moves_apply`: all that an operation can do to the ownership.
* `Crowd.one_owner`: what holds after any operations, in any order.
-/

namespace StreamGate

/-- The session of a takeover that is live: it was neither restored nor dropped. -/
def Member.live? : Member → Option SessionId
  | .owner t => if t.restored then none else some t.session
  | _ => none

namespace Takeover

theorem slot_restore (t : Takeover) (slot : Slot) :
    (t.restore slot).2 = if t.restored then slot else slot.restore := by
  unfold restore
  split <;> rfl

theorem restored_restore (t : Takeover) (slot : Slot) :
    (t.restore slot).1.restored = true := by
  unfold restore
  split
  · assumption
  · rfl

end Takeover

namespace Crowd

/-! ## Operations -/

/-- The session of the takeover that is live under a name. -/
def live? (c : Crowd) (name : String) : Option SessionId :=
  (c.members.get? name).bind Member.live?

/-- The takeover under a name gives the slot back and stays. -/
def giveBack (name : String) (c : Crowd) : Crowd :=
  match c.members.get? name with
  | some (.owner t) =>
    let (t, slot) := t.restore c.slot
    ⟨slot, c.members.insert name (.owner t)⟩
  | _ => c

/-- Who acts. -/
def Action.name : Action → String
  | tryTake name _ | take name _ | await name | poll name | restore name | leave name => name

/-- An operation at a slot. -/
inductive Op where
  | act (a : Action)
  /-- The first half of an explicit restore; the drop is the other one. -/
  | giveBack (name : String)

namespace Op

/-- Who does it. -/
def name : Op → String
  | act a => a.name
  | giveBack name => name

def apply (c : Crowd) : Op → Crowd
  | act a => (c.act a).2
  | giveBack name => c.giveBack name

end Op

/-- What happens to the ownership of a slot, with the owner that the slot shows. -/
inductive Handover where
  /-- Somebody took the slot over; it shows this owner then. -/
  | taken (name : String) (owner : Option SessionId)
  /-- Somebody gave the slot back; it showed this owner before. -/
  | returned (name : String) (owner : Option SessionId)
deriving DecidableEq, Repr

/-- What an operation did to the slot, going by its counts. -/
def handovers (name : String) (before after : Slot) : List Handover :=
  List.replicate (after.takeovers - before.takeovers) (.taken name after.owner) ++
    List.replicate (after.restores - before.restores) (.returned name before.owner)

/-- Operations one after another, with all that they do to the ownership. -/
def run : List Op → Crowd → List Handover × Crowd
  | [], c => ([], c)
  | op :: ops, c =>
    let (later, last) := run ops (op.apply c)
    (handovers op.name c.slot (op.apply c).slot ++ later, last)

/-! ## Letting go -/

variable {c : Crowd} {name : String}

/-- Who leaves is not live any more, and nobody else is concerned. -/
theorem live?_leave (c : Crowd) (name other : String) :
    (c.leave name).live? other = if name = other then none else c.live? other := by
  simp only [live?, leave, Table.get?_erase]
  by_cases same : name = other
  · simp [same]
  · simp [same]

/-- A takeover gives the slot back when it is dropped, unless it did so before. -/
theorem slot_leave (c : Crowd) (name : String) :
    (c.leave name).slot = if (c.live? name).isSome then c.slot.restore else c.slot := by
  cases found : c.members.get? name with
  | none => simp [live?, leave, found]
  | some m =>
    cases m with
    | contender p => simp [live?, leave, found, Member.live?]
    | waiter w => simp [live?, leave, found, Member.live?]
    | owner t =>
      cases restored : t.restored with
      | true => simp [live?, leave, found, Member.live?, Takeover.slot_restore, restored]
      | false => simp [live?, leave, found, Member.live?, Takeover.slot_restore, restored]

theorem live?_of_not_owner (other : ∀ t, c.members.get? name ≠ some (.owner t)) :
    c.live? name = none := by
  unfold live?
  cases found : c.members.get? name with
  | none => rfl
  | some m =>
    cases m with
    | owner t => exact absurd found (other t)
    | contender p => rfl
    | waiter w => rfl

theorem live?_giveBack (c : Crowd) (name other : String) :
    (c.giveBack name).live? other = if name = other then none else c.live? other := by
  unfold giveBack
  split
  · rename_i t found
    simp only [live?, Table.get?_insert]
    by_cases same : name = other
    · simp [same, Member.live?, Takeover.restored_restore]
    · simp [same]
  · rename_i notOwner
    by_cases same : name = other
    · subst same
      rw [if_pos rfl, live?_of_not_owner notOwner]
    · rw [if_neg same]

/-- Giving back does to the slot what leaving does. -/
theorem slot_giveBack (c : Crowd) (name : String) :
    (c.giveBack name).slot = (c.leave name).slot := by
  unfold giveBack
  split
  · rename_i t found
    simp [leave, found]
  · rename_i notOwner
    rw [slot_leave, live?_of_not_owner notOwner]
    rfl

/-- An explicit restore is one return, although the takeover is dropped after it. -/
theorem leave_giveBack (c : Crowd) (name : String) :
    (c.giveBack name).leave name = c.leave name := by
  have slot : ((c.giveBack name).leave name).slot = (c.leave name).slot := by
    rw [slot_leave, live?_giveBack, if_pos rfl]
    exact slot_giveBack c name
  have members : ((c.giveBack name).leave name).members = (c.leave name).members := by
    show (c.giveBack name).members.erase name = c.members.erase name
    unfold giveBack
    split
    · exact Table.erase_insert ..
    · rfl
  exact (Crowd.mk.injEq ..).mpr ⟨slot, members⟩

/-! ## What an operation does -/

/-- All that an operation of somebody can do to the ownership. -/
inductive Moves (c : Crowd) (name : String) (after : Crowd) : Prop
  /-- The slot stays as it is, and so does everybody's takeover. -/
  | stays (slot : after.slot = c.slot) (live : ∀ other, after.live? other = c.live? other)
  /-- Whatever takeover there is under the name gives the slot back. -/
  | letsGo (slot : after.slot = if (c.live? name).isSome then c.slot.restore else c.slot)
      (live : ∀ other, after.live? other = if name = other then none else c.live? other)
  /-- The slot was free and is taken over. -/
  | takesOver (session : SessionId) (free : c.slot.owner = none)
      (slot : after.slot =
        { c.slot with owner := some session, takeovers := c.slot.takeovers + 1 })
      (live : ∀ other, after.live? other =
        if name = other then some session else c.live? other)

/-- Whoever had the name of somebody who comes in has left. -/
theorem live?_enter (c : Crowd) (name other : String) (m : Member) :
    (c.enter name m).live? other = if name = other then m.live? else c.live? other := by
  simp only [live?, enter, leave, Table.get?_insert, Table.get?_erase]
  by_cases same : name = other
  · simp [same]
  · simp [same]

/-- Somebody comes in who owns nothing. -/
theorem moves_enter {m : Member} (idle : m.live? = none) : Moves c name (c.enter name m) :=
  .letsGo (slot_leave c name) fun other => by rw [live?_enter, idle]

theorem moves_leave : Moves c name (c.leave name) :=
  .letsGo (slot_leave c name) (live?_leave c name)

theorem moves_giveBack : Moves c name (c.giveBack name) :=
  .letsGo ((slot_giveBack c name).trans (slot_leave c name)) (live?_giveBack c name)

/-- A takeover that succeeds finds the slot free. -/
theorem tryTakeOver_eq_some {slot slot' : Slot} {session : SessionId} {t : Takeover}
    (taken : slot.tryTakeOver session = some (t, slot')) :
    slot.owner = none ∧ t = ⟨session, false⟩ ∧
      slot' = { slot with owner := some session, takeovers := slot.takeovers + 1 } := by
  unfold Slot.tryTakeOver at taken
  split at taken
  · rename_i dispatching
    cases taken
    exact ⟨Option.isNone_iff_eq_none.1 dispatching, rfl, rfl⟩
  · cases taken

/-- A session that came to own the slot comes in as its owner. -/
theorem moves_taken {slot : Slot} {session : SessionId} {t : Takeover}
    (taken : c.slot.tryTakeOver session = some (t, slot)) (idle : c.live? name = none) :
    Moves c name (enter name (.owner t) { c with slot }) := by
  obtain ⟨free, rfl, rfl⟩ := tryTakeOver_eq_some taken
  refine .takesOver session free ?_ fun other => ?_
  · have left := slot_leave { c with slot := { c.slot with
      owner := some session, takeovers := c.slot.takeovers + 1 } } name
    have nobody : live? { c with slot := { c.slot with
      owner := some session, takeovers := c.slot.takeovers + 1 } } name = none := idle
    rw [nobody] at left
    exact left
  · rw [live?_enter]
    rfl

theorem moves_contend (p : PendingTakeover) (idle : c.slot.owner = none → c.live? name = none) :
    Moves c name (c.contend name p).2 := by
  unfold contend
  split
  · rename_i t slot polled
    unfold PendingTakeover.poll at polled
    split at polled
    · split at polled
      · rename_i taken got
        cases polled
        exact moves_taken got (idle (tryTakeOver_eq_some got).1)
      · cases polled
    · cases polled
  · exact moves_enter rfl

/-- A waiter that is let through leaves as it should, or was never there. -/
theorem moves_observe (w : Waiter) {free : Crowd} (through : Moves c name free) :
    Moves c name (c.observe name w free).2 := by
  unfold observe
  split
  · exact through
  · exact moves_enter rfl

theorem moves_refl : Moves c name c := .stays rfl fun _ => rfl

/-- Every operation does one of the three things. -/
theorem moves_apply (op : Op) (idle : c.slot.owner = none → c.live? op.name = none) :
    Moves c op.name (op.apply c) := by
  cases op with
  | giveBack name => exact moves_giveBack
  | act a =>
    cases a with
    | tryTake name session =>
      show Moves c name (c.act (.tryTake name session)).2
      unfold act
      dsimp only
      split
      · rename_i t slot taken
        exact moves_taken taken (idle (tryTakeOver_eq_some taken).1)
      · exact moves_refl
    | take name session => exact moves_contend _ idle
    | await name => exact moves_observe _ moves_refl
    | poll name =>
      show Moves c name (c.act (.poll name)).2
      unfold act
      dsimp only
      split
      · exact moves_contend _ idle
      · exact moves_observe _ moves_leave
      · exact moves_refl
      · exact moves_refl
    | restore name => exact moves_leave
    | leave name => exact moves_leave

/-! ## Ownership -/

/-- A crowd in which the slot is held under this name by this session, or by nobody. -/
structure Held (c : Crowd) (holder : Option (String × SessionId)) : Prop where
  owner : c.slot.owner = holder.map Prod.snd
  live : ∀ name session, c.live? name = some session ↔ holder = some (name, session)
  counts : c.slot.takeovers = c.slot.restores + holder.toList.length

theorem held_empty : Held {} none where
  owner := rfl
  live _ _ := ⟨fun h => (by cases h), fun h => (by cases h)⟩
  counts := rfl

/-- How the holder changes by what somebody does. -/
inductive Passes (name : String) :
    Option (String × SessionId) → List Handover → Option (String × SessionId) → Prop
  | stays (holder : Option (String × SessionId)) : Passes name holder [] holder
  | taken (session : SessionId) :
      Passes name none [.taken name (some session)] (some (name, session))
  | returned (session : SessionId) :
      Passes name (some (name, session)) [.returned name (some session)] none

theorem Held.live?_of_free {holder : Option (String × SessionId)} (held : c.Held holder)
    (free : c.slot.owner = none) : c.live? name = none := by
  have nobody : holder = none := by
    simpa using held.owner.symm.trans free
  refine Option.eq_none_iff_forall_ne_some.2 fun session live => ?_
  rw [held.live, nobody] at live
  cases live

/-- Nothing happens to the holder. -/
theorem Held.same {holder : Option (String × SessionId)} {after : Crowd} (held : c.Held holder)
    (slot : after.slot = c.slot) (live : ∀ other, after.live? other = c.live? other) :
    after.Held holder ∧ handovers name c.slot after.slot = [] := by
  refine ⟨⟨?_, fun other session => ?_, ?_⟩, ?_⟩
  · rw [slot, held.owner]
  · rw [live, held.live]
  · rw [slot, held.counts]
  · simp [handovers, slot]

/-- The holder gives the slot back. -/
theorem Held.returns {session : SessionId} {after : Crowd} (held : c.Held (some (name, session)))
    (slot : after.slot = c.slot.restore)
    (live : ∀ other, after.live? other = if name = other then none else c.live? other) :
    after.Held none ∧ handovers name c.slot after.slot = [.returned name (some session)] := by
  refine ⟨⟨?_, fun other session' => ?_, ?_⟩, ?_⟩
  · rw [slot]
    rfl
  · rw [live]
    by_cases same : name = other
    · simp [same]
    · have foreign : c.live? other ≠ some session' := fun theirs => by
        have both := (held.live other session').1 theirs
        cases both
        exact same rfl
      simp [same, foreign]
  · have counts : c.slot.takeovers = c.slot.restores + 1 := held.counts
    rw [slot]
    exact counts
  · have owner : c.slot.owner = some session := held.owner
    simp [handovers, slot, owner, Slot.restore, Slot.dispatch, Slot.notify]

/-- Somebody takes over a slot that nobody holds. -/
theorem Held.takes {session : SessionId} {after : Crowd} (held : c.Held none)
    (slot : after.slot =
      { c.slot with owner := some session, takeovers := c.slot.takeovers + 1 })
    (live : ∀ other, after.live? other = if name = other then some session else c.live? other) :
    after.Held (some (name, session)) ∧
      handovers name c.slot after.slot = [.taken name (some session)] := by
  refine ⟨⟨?_, fun other session' => ?_, ?_⟩, ?_⟩
  · rw [slot]
    rfl
  · rw [live, held.live?_of_free held.owner]
    by_cases same : name = other
    · simp [same]
    · simp [same]
  · have counts : c.slot.takeovers = c.slot.restores := held.counts
    rw [slot]
    exact congrArg (· + 1) counts
  · simp [handovers, slot]

/-- What somebody does leaves at most one holder, and it is noted who that is. -/
theorem Held.moves {holder : Option (String × SessionId)} {after : Crowd} (held : c.Held holder)
    (moves : Moves c name after) :
    ∃ holder', after.Held holder' ∧
      Passes name holder (handovers name c.slot after.slot) holder' := by
  have nothing (slot : after.slot = c.slot) (live : ∀ other, after.live? other = c.live? other) :
      ∃ holder', after.Held holder' ∧
        Passes name holder (handovers name c.slot after.slot) holder' := by
    have same : after.Held holder ∧ handovers name c.slot after.slot = [] := held.same slot live
    obtain ⟨held', noted⟩ := same
    rw [noted]
    exact ⟨holder, held', .stays holder⟩
  cases moves with
  | stays slot live => exact nothing slot live
  | letsGo slot live =>
    cases own : c.live? name with
    | none =>
      rw [own] at slot
      refine nothing slot fun other => ?_
      rw [live]
      by_cases same : name = other
      · subst same
        rw [if_pos rfl, own]
      · rw [if_neg same]
    | some session =>
      rw [own] at slot
      obtain rfl : holder = some (name, session) := (held.live name session).1 own
      obtain ⟨held', noted⟩ := held.returns slot live
      rw [noted]
      exact ⟨none, held', .returned session⟩
  | takesOver session free slot live =>
    obtain rfl : holder = none := by
      simpa using held.owner.symm.trans free
    obtain ⟨held', noted⟩ := held.takes slot live
    rw [noted]
    exact ⟨some (name, session), held', .taken session⟩

/-- Takeovers and returns take turns.  Every takeover is returned by the one who took it
over, who finds its own session in the slot, before there is another takeover; the last
one may still be out. -/
inductive Alternates : List Handover → Option (String × SessionId) → Prop
  | nil : Alternates [] none
  | taken {log : List Handover} (name : String) (session : SessionId)
      (free : Alternates log none) :
      Alternates (log ++ [.taken name (some session)]) (some (name, session))
  | returned {log : List Handover} {name : String} {session : SessionId}
      (out : Alternates log (some (name, session))) :
      Alternates (log ++ [.returned name (some session)]) none

theorem Alternates.passes {log news : List Handover} {holder holder' : Option (String × SessionId)}
    (alternates : Alternates log holder) (passes : Passes name holder news holder') :
    Alternates (log ++ news) holder' := by
  cases passes with
  | stays => rwa [List.append_nil]
  | taken session => exact .taken name session alternates
  | returned session => exact .returned alternates

/-- A run keeps at most one holder. -/
theorem Held.run {holder : Option (String × SessionId)} {log : List Handover}
    (held : c.Held holder) (alternates : Alternates log holder) (ops : List Op) :
    let (news, last) := c.run ops
    ∃ holder', last.Held holder' ∧ Alternates (log ++ news) holder' := by
  induction ops generalizing c holder log with
  | nil =>
    refine ⟨holder, held, ?_⟩
    rw [List.append_nil]
    exact alternates
  | cons op ops ih =>
    obtain ⟨holder₁, held₁, passes⟩ := held.moves (moves_apply op held.live?_of_free)
    have rest := ih held₁ (alternates.passes passes)
    simpa only [Crowd.run, List.append_assoc] using rest

/-- A slot with one owner at most, and what was done to it. -/
structure OneOwner (c : Crowd) (log : List Handover) : Prop where
  /-- The slot streams for a session if and only if exactly one takeover is live and it is
  this session's. -/
  streaming : ∀ session, c.slot.owner = some session ↔
    ∃ name, c.live? name = some session ∧ ∀ other, (c.live? other).isSome → other = name
  /-- Two takeovers are never live at once. -/
  single : ∀ name other, (c.live? name).isSome → (c.live? other).isSome → name = other
  /-- A session that tries to take the slot over succeeds exactly if the slot dispatches. -/
  tries : ∀ name session, (c.act (.tryTake name session)).1 =
    if c.slot.isDispatching then .taken session else .refused
  /-- A session that is ready to wait for the slot gets it at once exactly if the slot
  dispatches. -/
  takes : ∀ name session, (c.act (.take name session)).1 =
    if c.slot.isDispatching then .taken session else .pending
  /-- Every takeover gave the slot back once and found its own session there, except for
  the one that is live. -/
  turns : ∃ holder, Alternates log holder ∧
    ∀ name session, c.live? name = some session ↔ holder = some (name, session)
  /-- The drop after an explicit restore does nothing to the slot. -/
  dropped : ∀ name, (c.giveBack name).leave name = (c.act (.restore name)).2
  counts : c.slot.takeovers = c.slot.restores + if c.slot.isDispatching then 0 else 1

theorem reply_tryTake (c : Crowd) (name : String) (session : SessionId) :
    (c.act (.tryTake name session)).1 =
      if c.slot.isDispatching then .taken session else .refused := by
  unfold act Slot.tryTakeOver
  dsimp only
  cases c.slot.isDispatching <;> rfl

theorem reply_take (c : Crowd) (name : String) (session : SessionId) :
    (c.act (.take name session)).1 =
      if c.slot.isDispatching then .taken session else .pending := by
  unfold act contend PendingTakeover.poll Slot.tryTakeOver
  simp only [Waiter.poll, Waiter.wake, Waiter.register, Waiter.look]
  cases c.slot.isDispatching <;> rfl

theorem Held.oneOwner {holder : Option (String × SessionId)} {log : List Handover}
    (held : c.Held holder) (alternates : Alternates log holder) : c.OneOwner log := by
  have named {name : String} (live : (c.live? name).isSome) :
      ∃ session, holder = some (name, session) := by
    obtain ⟨session, live⟩ := Option.isSome_iff_exists.1 live
    exact ⟨session, (held.live name session).1 live⟩
  have single : ∀ name other, (c.live? name).isSome → (c.live? other).isSome → name = other := by
    intro name other live live'
    obtain ⟨session, holds⟩ := named live
    obtain ⟨session', holds'⟩ := named live'
    rw [holds] at holds'
    cases holds'
    rfl
  refine
    { streaming := fun session => ⟨fun owner => ?_, fun ⟨name, live, _⟩ => ?_⟩
      single := single
      tries := reply_tryTake c
      takes := reply_take c
      turns := ⟨holder, alternates, held.live⟩
      dropped := leave_giveBack c
      counts := ?_ }
  · rw [held.owner] at owner
    obtain ⟨⟨name, _⟩, holds, rfl⟩ := Option.map_eq_some_iff.1 owner
    have live := (held.live name _).2 holds
    exact ⟨name, live, fun other theirs => single other name theirs (by rw [live]; rfl)⟩
  · rw [held.owner, (held.live name session).1 live]
    rfl
  · rw [held.counts, Slot.isDispatching, held.owner]
    cases holder <;> rfl

/-- After any operations at a slot that nobody owned, it has one owner at most. -/
theorem one_owner (ops : List Op) :
    let (log, c) := run ops {}
    c.OneOwner log := by
  obtain ⟨holder, held, alternates⟩ := held_empty.run .nil ops
  exact held.oneOwner alternates

end Crowd

end StreamGate
