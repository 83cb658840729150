import StreamGate.Proofs.Connection.Interleaving

/-!
# Wake-ups at a slot

A request or a session that waits for a slot is woken in time, however the steps of
everyone at the slot interleave.

* `Throng.Watchful`: the invariant.  Whoever found the slot owned, and was not notified
  since, has somebody to wait for.
* `Throng.Truthful`: whoever knows that the slot dispatches has read it last.
* `Throng.gets_through`: whoever has nothing to wait for needs nobody else.
* `Throng.no_lost_wake_up`: what holds after any moves.
-/

namespace StreamGate

namespace Throng

variable {s s' : Throng} {name : String} {deed : Option Deed}

/-! ## Nobody sleeps on -/

/-- Nobody remembers more notices than there were, and whoever found the slot owned and was
not notified since has somebody to wait for: an owner, or a notification that is due. -/
structure Watchful (s : Throng) : Prop where
  remembered : ∀ name p seen, s.pace? name = some p → p.seen? = some seen → seen ≤ s.slot.notices
  watched : ∀ name p, s.pace? name = some p → p.foundOwned? = some s.slot.notices →
    s.slot.isDispatching = false ∨ s.Notifies

theorem watchful_empty : Watchful {} where
  remembered _ _ _ pace := by cases pace
  watched _ _ pace := by cases pace

/-- Somebody becomes what is said, and nothing happens to the slot. -/
theorem Watchful.set (watchful : s.Watchful) (calm : s.party name ≠ some .notifying)
    {q : Option Party}
    (remembered : ∀ p seen, q.bind Party.pace? = some p → p.seen? = some seen →
      seen ≤ s.slot.notices)
    (watched : ∀ p, q.bind Party.pace? = some p → p.foundOwned? = some s.slot.notices →
      s.slot.isDispatching = false ∨ s.Notifies) : (s.set name q).Watchful where
  remembered other p seen pace remembers := by
    rw [pace?_set] at pace
    split at pace
    · exact remembered p seen pace remembers
    · exact watchful.remembered other p seen pace remembers
  watched other p pace found := by
    have still (busy : s.slot.isDispatching = false ∨ s.Notifies) :
        s.slot.isDispatching = false ∨ (s.set name q).Notifies :=
      busy.imp_right fun notifies => notifies.set calm q
    rw [pace?_set] at pace
    split at pace
    · exact still (watched p pace found)
    · exact still (watchful.watched other p pace found)

/-- Somebody who does not wait changes the slot. -/
theorem Watchful.change (watchful : s.Watchful) {slot : Slot} {q : Option Party}
    (idle : q.bind Party.pace? = none) (more : s.slot.notices ≤ slot.notices)
    (busy : slot.notices = s.slot.notices →
      slot.isDispatching = false ∨ (Throng.set name q { s with slot }).Notifies) :
    (Throng.set name q { s with slot }).Watchful := by
  have before {other : String} {p : Pace} {seen : Nat}
      (pace : (Throng.set name q { s with slot }).pace? other = some p)
      (remembers : p.seen? = some seen) : seen ≤ s.slot.notices := by
    rw [pace?_set, idle] at pace
    split at pace
    · cases pace
    · exact watchful.remembered other p seen pace remembers
  refine ⟨fun other p seen pace remembers => Nat.le_trans (before pace remembers) more,
    fun other p pace found => ?_⟩
  have seen : slot.notices ≤ s.slot.notices := before pace (Pace.seen?_of_foundOwned? found)
  exact busy (by omega)

/-- Every move keeps watch. -/
theorem Watchful.moved (watchful : s.Watchful) (moved : s.Moved name deed s') : s'.Watchful := by
  cases moved with
  | nothing => exact watchful
  | @turns _ q calm fresh other =>
    have forgets {p : Pace} {seen : Nat} (pace : q.bind Party.pace? = some p) :
        p.seen? ≠ some seen := by
      rw [pace] at fresh
      simp [show p.seen? = none from fresh]
    refine watchful.set calm (fun p seen pace remembers => absurd remembers (forgets pace))
      fun p pace found => absurd (Pace.seen?_of_foundOwned? found) (forgets pace)
  | @waits p q calm pace now =>
    refine watchful.set calm (fun p' seen is remembers => ?_) fun p' is found => ?_
    · rw [now p' is] at remembers
      rcases Pace.seen?_step remembers with before | fresh
      · exact watchful.remembered name p seen pace before
      · exact Nat.le_of_eq fresh
    · rw [now p' is] at found
      rcases Pace.foundOwned?_step found with before | owned
      · exact watchful.watched name p pace before
      · exact .inl owned
  | takesOver calm taken =>
    unfold Slot.tryTakeOver at taken
    split at taken
    · cases taken
      exact watchful.change rfl (Nat.le_refl _) fun _ => .inl rfl
    · cases taken
  | dispatches =>
    refine watchful.change rfl (Nat.le_refl _) fun _ => .inr ⟨name, ?_⟩
    exact Function.update_self ..
  | notifies =>
    refine watchful.change rfl (Nat.le_succ _) fun same => ?_
    exact absurd same (Nat.succ_ne_self _)

/-! ## Nobody returns unseeing -/

/-- The last thing that somebody did. -/
def Trace.EndsIn (trace : Trace) (name : String) (deed : Deed) : Prop :=
  ∃ early late, trace = early ++ (name, deed) :: late ∧ ∀ e ∈ late, e.1 ≠ name

/-- Somebody who returned has read that the slot dispatches just before. -/
def Trace.Seeing (trace : Trace) : Prop :=
  ∀ (before : Trace) (name : String) (after : Trace),
    trace = before ++ (name, .returned) :: after → before.EndsIn name (.looked true)

namespace Trace

variable {trace : Trace} {other : String} {d : Deed}

theorem endsIn_concat (trace : Trace) (name : String) (d : Deed) :
    EndsIn (trace ++ [(name, d)]) name d := ⟨trace, [], rfl, by simp⟩

/-- What somebody else does is not theirs. -/
theorem EndsIn.concat (ends : trace.EndsIn name d) (differs : other ≠ name) (d' : Deed) :
    EndsIn (trace ++ [(other, d')]) name d := by
  obtain ⟨early, late, rfl, others⟩ := ends
  refine ⟨early, late ++ [(other, d')], by simp, ?_⟩
  simpa [or_imp, forall_and, differs] using others

theorem Seeing.concat (seeing : trace.Seeing)
    (looked : d = .returned → trace.EndsIn name (.looked true)) :
    Seeing (trace ++ [(name, d)]) := by
  intro before other after split
  rcases after.eq_nil_or_concat with rfl | ⟨after, e, rfl⟩
  · obtain ⟨rfl, last⟩ := List.append_inj' split rfl
    cases last
    exact looked rfl
  · rw [List.concat_eq_append, ← List.cons_append, ← List.append_assoc] at split
    obtain ⟨same, -⟩ := List.append_inj' split rfl
    exact seeing before other after same

end Trace

/-- What somebody knows to be so they have read last. -/
structure Truthful (s : Throng) (trace : Trace) : Prop where
  seeing : trace.Seeing
  looked : ∀ name seen, s.pace? name = some (.looked seen true) →
    trace.EndsIn name (.looked true)

/-- What a move adds to the trace. -/
def noted (name : String) (deed : Option Deed) : Trace := deed.toList.map (name, ·)

theorem truthful_empty : Truthful {} [] where
  seeing before name after split := by cases before <;> cases split
  looked _ _ pace := by cases pace

/-- Nobody but somebody who does something about it comes to wait or waits no longer. -/
theorem Truthful.does {trace : Trace} (truthful : s.Truthful trace)
    (others : ∀ other ≠ name, s'.pace? other = s.pace? other)
    (own : ∀ seen, s'.pace? name = some (.looked seen true) → deed = some (.looked true))
    (sees : deed = some .returned → ∃ seen, s.pace? name = some (.looked seen true)) :
    s'.Truthful (trace ++ noted name deed) := by
  cases deed with
  | none =>
    rw [noted, Option.toList_none, List.map_nil, List.append_nil]
    refine ⟨truthful.seeing, fun other seen pace => ?_⟩
    have differs : other ≠ name := by
      rintro rfl
      cases own seen pace
    rw [others other differs] at pace
    exact truthful.looked other seen pace
  | some d =>
    refine ⟨truthful.seeing.concat fun returned => ?_, fun other seen pace => ?_⟩
    · obtain ⟨seen, pace⟩ := sees (congrArg some returned)
      exact truthful.looked name seen pace
    · by_cases same : other = name
      · subst same
        rw [Option.some.inj (own seen pace)]
        exact Trace.endsIn_concat trace other _
      · rw [others other same] at pace
        exact (truthful.looked other seen pace).concat (Ne.symm same) d

/-- A move concerns nobody else's waiting. -/
theorem Moved.others (moved : s.Moved name deed s') :
    ∀ other ≠ name, s'.pace? other = s.pace? other := by
  intro other differs
  cases moved with
  | nothing => rfl
  | turns | waits => rw [pace?_set, if_neg differs]
  | takesOver | dispatches | notifies =>
    rw [pace?_set, if_neg differs]
    rfl

theorem Truthful.moved {trace : Trace} (truthful : s.Truthful trace)
    (moved : s.Moved name deed s') : s'.Truthful (trace ++ noted name deed) := by
  have others := moved.others
  cases moved with
  | nothing =>
    rw [noted, Option.toList_none, List.map_nil, List.append_nil]
    exact truthful
  | @turns _ q calm fresh other =>
    refine truthful.does others (fun seen pace => ?_) fun returned => absurd returned other
    rw [pace?_set, if_pos rfl] at pace
    rw [pace] at fresh
    cases fresh
  | @waits p q calm pace now =>
    refine truthful.does others (fun seen is => ?_) fun returned => ?_
    · rw [pace?_set, if_pos rfl] at is
      exact Pace.deed_of_looked (now _ is).symm
    · obtain ⟨seen, rfl⟩ := Pace.looked_of_returned returned
      exact ⟨seen, pace⟩
  | takesOver | dispatches | notifies =>
    refine truthful.does others (fun seen pace => ?_) fun returned => by cases returned
    rw [pace?_set, if_pos rfl] at pace
    cases pace

/-! ## Everybody gets through -/

/-- By steps of its own somebody becomes what is said. -/
def Gets (s : Throng) (name : String) (q : Option Party) : Prop :=
  ∃ n, (run (List.replicate n (.step name)) s).2.party name = q

theorem Gets.of_advance {q : Option Party} (gets : (s.advance name).2.Gets name q) :
    s.Gets name q := by
  obtain ⟨n, got⟩ := gets
  exact ⟨n + 1, got⟩

section Waiting

variable {kind : Pace → Party} {p : Pace} {seen : Nat}

/-- Somebody who is not done waiting goes on with it. -/
theorem advance_of_pace (waits : kind = .request ∨ ∃ id, kind = .session id)
    (here : s.party name = some (kind p)) (more : (p.step s.slot).2 ≠ .going .done) :
    (s.advance name).2 = s.set name (some (kind (p.step s.slot).2)) := by
  obtain rfl | ⟨id, rfl⟩ := waits
  · simp [advance, here, more]
  · have undone : p ≠ .going .done := by
      rintro rfl
      exact more rfl
    simp [advance, here, undone]

variable (waits : kind = .request ∨ ∃ id, kind = .session id)
  (free : s.slot.isDispatching = true)

include waits free

theorem gets_of_looked (here : s.party name = some (kind (.looked seen true))) :
    s.Gets name (kind p).through := by
  obtain rfl | ⟨id, rfl⟩ := waits
  · exact ⟨1, by simp [run, Move.apply, advance, here, Pace.step, Party.through]⟩
  · exact ⟨2, by simp [run, Move.apply, advance, here, Pace.step, Party.through, attempt,
      Slot.tryTakeOver, free]⟩

theorem gets_of_registered (here : s.party name = some (kind (.going (.registered seen)))) :
    s.Gets name (kind p).through := by
  refine .of_advance ?_
  have looks : ((Pace.going (.registered seen)).step s.slot).2 = .looked seen true := by
    simp [Pace.step, free]
  rw [advance_of_pace waits here (by simp [looks]), looks]
  exact gets_of_looked waits free (party_set ..)

theorem gets_of_idle (here : s.party name = some (kind (.going .idle))) :
    s.Gets name (kind p).through := by
  refine .of_advance ?_
  rw [advance_of_pace waits here (by simp [Pace.step, Waiter.register])]
  exact gets_of_registered waits free (party_set ..)

theorem gets_of_parked (here : s.party name = some (kind (.going (.parked seen))))
    (woken : seen ≠ s.slot.notices) : s.Gets name (kind p).through := by
  have wakes : ((Pace.going (.parked seen)).step s.slot).2 = .going .idle := by
    simp [Pace.step, Waiter.wake, Ne.symm woken]
  refine .of_advance ?_
  rw [advance_of_pace waits here (by simp [wakes]), wakes]
  exact gets_of_idle waits free (party_set ..)

/-- While the slot dispatches, whoever waits and has nothing to wait for gets through. -/
theorem gets_through (here : s.party name = some (kind p))
    (woken : p.foundOwned? ≠ some s.slot.notices) : s.Gets name (kind p).through := by
  cases p with
  | looked seen dispatching =>
    cases dispatching with
    | true => exact gets_of_looked waits free here
    | false =>
      refine .of_advance ?_
      rw [advance_of_pace waits here (by simp [Pace.step])]
      refine gets_of_parked waits free (party_set ..) fun same => woken ?_
      exact congrArg some same
  | going w =>
    cases w with
    | idle => exact gets_of_idle waits free here
    | registered seen => exact gets_of_registered waits free here
    | parked seen =>
      exact gets_of_parked waits free here fun same => woken (congrArg some same)
    | done =>
      obtain rfl | ⟨id, rfl⟩ := waits
      · exact ⟨1, by simp [run, Move.apply, advance, here, Pace.step, Party.through]⟩
      · exact ⟨1, by simp [run, Move.apply, advance, here, Party.through, attempt,
          Slot.tryTakeOver, free]⟩

end Waiting

/-! ## Any interleaving -/

/-- Somebody is parked and was not woken. -/
def Sleeps (s : Throng) (name : String) : Prop :=
  s.pace? name = some (.going (.parked s.slot.notices))

/-- A throng where no wake-up is lost, after what was done. -/
structure Awake (s : Throng) (trace : Trace) : Prop where
  /-- Whoever sleeps waits for an owner, or for somebody who has set the slot dispatching and
  has yet to notify. -/
  sleeps : ∀ name, s.Sleeps name → s.slot.isDispatching = false ∨ s.Notifies
  /-- If the slot dispatches and no notification is due, nobody sleeps, and everybody who
  waits gets through by their own steps. -/
  free : s.slot.isDispatching = true → ¬s.Notifies → ∀ name p,
    s.party name = some p → p.pace?.isSome → ¬s.Sleeps name ∧ s.Gets name p.through
  /-- Whoever returned had looked last, and seen that the slot dispatches. -/
  returned : trace.Seeing

theorem Watchful.awake {trace : Trace} (watchful : s.Watchful) (truthful : s.Truthful trace) :
    s.Awake trace where
  sleeps name sleeps := watchful.watched name _ sleeps rfl
  free dispatching due name party here waiting := by
    have nothing {p : Pace} (pace : s.pace? name = some p) :
        p.foundOwned? ≠ some s.slot.notices := fun found =>
      (watchful.watched name p pace found).elim (fun owned => by simp [owned] at dispatching) due
    refine ⟨fun sleeps => nothing sleeps rfl, ?_⟩
    cases party with
    | request p =>
      exact gets_through (.inl rfl) dispatching here (nothing (by simp [pace?, here, Party.pace?]))
    | session id p =>
      exact gets_through (.inr ⟨id, rfl⟩) dispatching here
        (nothing (by simp [pace?, here, Party.pace?]))
    | owner | notifying => cases waiting
  returned := truthful.seeing

/-- Any moves keep watch. -/
theorem Watchful.run {trace : Trace} (watchful : s.Watchful) (truthful : s.Truthful trace)
    (moves : List Move) :
    let (later, last) := run moves s
    last.Watchful ∧ last.Truthful (trace ++ later) := by
  induction moves generalizing s trace with
  | nil =>
    refine ⟨watchful, ?_⟩
    show s.Truthful (trace ++ [])
    rwa [List.append_nil]
  | cons move moves ih =>
    have moved := moved_apply (s := s) move
    have rest := ih (watchful.moved moved) (truthful.moved moved)
    simpa only [Throng.run, noted, List.append_assoc] using rest

/-- After any moves at a slot that nobody was at, no wake-up is lost. -/
theorem no_lost_wake_up (moves : List Move) :
    let (trace, s) := run moves {}
    s.Awake trace := by
  obtain ⟨watchful, truthful⟩ := watchful_empty.run truthful_empty moves
  exact watchful.awake truthful

end Throng

end StreamGate
