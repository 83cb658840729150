import Mathlib.Logic.Function.Basic
import StreamGate.Proofs.Connection.Ownership

/-!
# Steps at a slot

Everyone at a slot, step by step.  A look at the slot is two steps here, reading it and
going by what was read, and so is giving it back: the slot dispatches first, and those
who wait are notified afterwards.  Between any two steps of one party all others may take
theirs.

* `Party`, `Throng`: everyone at a slot, each between two steps.
* `Throng.Move`: somebody comes, takes the next step or gives up, so a list of moves is
  an interleaving.
* `Throng.Moved`: all that a move can do.
* `Throng.reaches_act`: what somebody in a crowd does at once is such moves.
-/

namespace StreamGate

/-! ## Steps -/

/-- A waiter between two steps. -/
inductive Pace where
  | going (w : Waiter)
  /-- Registered when there had been `seen` notices, and has read whether the slot
  dispatches, but did not go by that yet. -/
  | looked (seen : Nat) (dispatching : Bool)
deriving DecidableEq, Repr

/-- What somebody did in a step. -/
inductive Deed where
  | came
  | registered
  /-- Read whether the slot dispatches. -/
  | looked (dispatching : Bool)
  /-- Saw that the slot dispatches and waits no longer. -/
  | returned
  | parked
  | woke
  | tookOver
  /-- Tried to take the slot over, in vain. -/
  | refused
  /-- Set the slot dispatching. -/
  | dispatched
  | notified
  | left
deriving DecidableEq, Repr

namespace Pace

/-- The next step of a waiter.  One that is parked and was not notified has none. -/
def step (slot : Slot) : Pace → Option Deed × Pace
  | .going .idle => (some .registered, .going (Waiter.idle.register slot))
  | .going (.registered seen) => (some (.looked slot.isDispatching), .looked seen slot.isDispatching)
  | .looked _ true => (some .returned, .going .done)
  | .looked seen false => (some .parked, .going (.parked seen))
  | .going (.parked seen) =>
    let w := (Waiter.parked seen).wake slot
    (if w = .idle then some .woke else none, .going w)
  | .going .done => (none, .going .done)

/-- How many notices a waiter remembers, if it is registered. -/
def seen? : Pace → Option Nat
  | .going (.registered seen) | .going (.parked seen) | .looked seen _ => some seen
  | _ => none

/-- The same for a waiter that found the slot owned. -/
def foundOwned? : Pace → Option Nat
  | .going (.parked seen) | .looked seen false => some seen
  | _ => none

/-- Reading the slot and going by it is a look, whatever happens to the slot in between. -/
theorem step_step_registered (slot slot' : Slot) (seen : Nat) :
    (((Pace.going (.registered seen)).step slot).2.step slot').2 =
      .going ((Waiter.registered seen).look slot) := by
  cases dispatching : slot.isDispatching <;> simp [step, Waiter.look, dispatching]

variable {slot : Slot} {p : Pace} {seen : Nat}

theorem seen?_of_foundOwned? (found : p.foundOwned? = some seen) : p.seen? = some seen := by
  unfold foundOwned? at found
  split at found
  · exact found
  · exact found
  · cases found

/-- What a waiter remembers it remembered before, or it registered just now. -/
theorem seen?_step (remembers : (p.step slot).2.seen? = some seen) :
    p.seen? = some seen ∨ seen = slot.notices := by
  cases p with
  | looked seen' dispatching =>
    cases dispatching with
    | true => cases remembers
    | false => exact .inl remembers
  | going w =>
    cases w with
    | idle => exact .inr (Option.some.inj remembers).symm
    | registered seen' => exact .inl remembers
    | parked seen' =>
      simp only [step, Waiter.wake] at remembers
      split at remembers
      · exact .inl remembers
      · cases remembers
    | done => cases remembers

/-- A waiter that found the slot owned found it so before, or it is owned now. -/
theorem foundOwned?_step (found : (p.step slot).2.foundOwned? = some seen) :
    p.foundOwned? = some seen ∨ slot.isDispatching = false := by
  cases p with
  | looked seen' dispatching =>
    cases dispatching with
    | true => cases found
    | false => exact .inl found
  | going w =>
    cases w with
    | idle => cases found
    | registered seen' =>
      cases dispatching : slot.isDispatching with
      | true => simp [step, dispatching, foundOwned?] at found
      | false => exact .inr rfl
    | parked seen' =>
      simp only [step, Waiter.wake] at found
      split at found
      · exact .inl found
      · cases found
    | done => cases found

/-- Only a waiter that read that the slot dispatches returns. -/
theorem looked_of_returned (returned : (p.step slot).1 = some .returned) :
    ∃ seen, p = .looked seen true := by
  cases p with
  | looked seen dispatching =>
    cases dispatching with
    | true => exact ⟨seen, rfl⟩
    | false => cases returned
  | going w =>
    cases w with
    | idle | registered | done => cases returned
    | parked seen =>
      simp only [step] at returned
      split at returned <;> cases returned

/-- A waiter knows that the slot dispatches from reading it. -/
theorem deed_of_looked (looked : (p.step slot).2 = .looked seen true) :
    (p.step slot).1 = some (.looked true) := by
  cases p with
  | looked seen dispatching => cases dispatching <;> cases looked
  | going w =>
    cases w with
    | idle | parked | done => cases looked
    | registered seen' =>
      cases dispatching : slot.isDispatching with
      | true => simp [step, dispatching]
      | false => simp [step, dispatching] at looked

end Pace

/-- Somebody at a slot, between two steps. -/
inductive Party where
  /-- Waits until the slot dispatches. -/
  | request (p : Pace)
  /-- Waits to take the slot over.  It is about to try when its waiter is done. -/
  | session (id : SessionId) (p : Pace)
  | owner (t : Takeover)
  /-- Has set the slot dispatching and has yet to notify those who wait. -/
  | notifying
deriving DecidableEq, Repr

namespace Party

/-- How far somebody is with waiting. -/
def pace? : Party → Option Pace
  | request p | session _ p => some p
  | _ => none

/-- What becomes of somebody who has waited long enough: a request goes, a session owns the
slot. -/
def through : Party → Option Party
  | session id _ => some (owner ⟨id, false⟩)
  | _ => none

/-- A member of a crowd, which is always between two actions. -/
def ofMember : Member → Party
  | .owner t => owner t
  | .contender p => session p.session (.going p.waiter)
  | .waiter w => request (.going w)

end Party

/-- A slot with everyone at it. -/
@[ext]
structure Throng where
  slot : Slot := {}
  party : String → Option Party := fun _ => none

/-- The action is that of a newcomer. -/
def Crowd.Action.enters : Crowd.Action → Bool
  | tryTake .. | take .. | await _ => true
  | poll _ | restore _ | leave _ => false

namespace Throng

/-- What happens next. -/
inductive Move where
  /-- A request begins to wait. -/
  | request (name : String)
  /-- A session begins to wait for a takeover; it tries first. -/
  | session (name : String) (id : SessionId)
  /-- Somebody takes the next step. -/
  | step (name : String)
  /-- Somebody waits no longer. -/
  | giveUp (name : String)
deriving DecidableEq, Repr

/-- Makes somebody what is said, or lets them go. -/
def set (name : String) (p : Option Party) (s : Throng) : Throng :=
  { s with party := Function.update s.party name p }

/-- Somebody new comes under a name that is free. -/
def come (name : String) (p : Party) (s : Throng) : Option Deed × Throng :=
  match s.party name with
  | none => (some .came, s.set name (some p))
  | some _ => (none, s)

/-- A session tries to take the slot over, or else waits again. -/
def attempt (name : String) (id : SessionId) (s : Throng) : Option Deed × Throng :=
  match s.slot.tryTakeOver id with
  | some (t, slot) => (some .tookOver, { s with slot }.set name (some (.owner t)))
  | none => (some .refused, s.set name (some (.session id (.going .idle))))

/-- Somebody takes the next step.  A request that waits no longer goes; a session that
does tries to take the slot over. -/
def advance (name : String) (s : Throng) : Option Deed × Throng :=
  match s.party name with
  | none => (none, s)
  | some (.request p) =>
    let (deed, p) := p.step s.slot
    (deed, s.set name (if p = .going .done then none else some (.request p)))
  | some (.session id p) =>
    if p = .going .done then s.attempt name id
    else
      let (deed, p) := p.step s.slot
      (deed, s.set name (some (.session id p)))
  | some (.owner t) =>
    if t.restored then (some .left, s.set name none)
    else (some .dispatched, { s with slot := s.slot.dispatch }.set name (some .notifying))
  | some .notifying => (some .notified, { s with slot := s.slot.notify }.set name none)

/-- Somebody who waits goes. -/
def giveUp (name : String) (s : Throng) : Option Deed × Throng :=
  match (s.party name).bind Party.pace? with
  | some _ => (some .left, s.set name none)
  | none => (none, s)

namespace Move

/-- Who moves. -/
def name : Move → String
  | request name | session name _ | step name | giveUp name => name

def apply (s : Throng) : Move → Option Deed × Throng
  | request name => s.come name (.request (.going .idle))
  | session name id => s.come name (.session id (.going .done))
  | step name => s.advance name
  | giveUp name => s.giveUp name

end Move

/-- What was done, and by whom, in this order. -/
abbrev Trace := List (String × Deed)

/-- Moves one after another, with all that was done. -/
def run : List Move → Throng → Trace × Throng
  | [], s => ([], s)
  | move :: moves, s =>
    let (deed, s) := move.apply s
    let (later, last) := run moves s
    (deed.toList.map (move.name, ·) ++ later, last)

/-! ## What a move does -/

variable {s s' : Throng} {name : String} {deed : Option Deed}

/-- How far somebody at the slot is with waiting. -/
def pace? (s : Throng) (name : String) : Option Pace := (s.party name).bind Party.pace?

/-- Somebody has set the slot dispatching and has yet to notify those who wait. -/
def Notifies (s : Throng) : Prop := ∃ name, s.party name = some .notifying

@[simp] theorem party_set (name : String) (q : Option Party) (s : Throng) :
    (s.set name q).party name = q := Function.update_self ..

@[simp] theorem slot_set (name : String) (q : Option Party) (s : Throng) :
    (s.set name q).slot = s.slot := rfl

@[simp] theorem set_set (name : String) (q q' : Option Party) (s : Throng) :
    (s.set name q).set name q' = s.set name q' := by
  simp [set]

theorem set_party {q : Option Party} (here : s.party name = q) : s.set name q = s := by
  subst here
  simp [set]

theorem pace?_set (name other : String) (q : Option Party) (s : Throng) :
    (s.set name q).pace? other = if other = name then q.bind Party.pace? else s.pace? other := by
  show (Function.update s.party name q other).bind Party.pace? = _
  rw [Function.update_apply]
  split <;> rfl

/-- Somebody else's change does not notify anybody. -/
theorem Notifies.set (notifies : s.Notifies) (calm : s.party name ≠ some .notifying)
    (q : Option Party) : (s.set name q).Notifies := by
  obtain ⟨other, here⟩ := notifies
  have differs : other ≠ name := by
    rintro rfl
    exact calm here
  refine ⟨other, ?_⟩
  show Function.update s.party name q other = some .notifying
  rw [Function.update_of_ne differs, here]

/-- All that a move of somebody can do. -/
inductive Moved (s : Throng) (name : String) : Option Deed → Throng → Prop
  | nothing : Moved s name none s
  /-- Somebody comes, goes or starts over, and is not registered. -/
  | turns {deed : Option Deed} {q : Option Party} (calm : s.party name ≠ some .notifying)
      (fresh : (q.bind Party.pace?).bind Pace.seen? = none) (other : deed ≠ some .returned) :
      Moved s name deed (s.set name q)
  /-- Somebody goes on with waiting, or has waited long enough. -/
  | waits {p : Pace} {q : Option Party} (calm : s.party name ≠ some .notifying)
      (pace : s.pace? name = some p)
      (now : ∀ p', q.bind Party.pace? = some p' → p' = (p.step s.slot).2) :
      Moved s name (p.step s.slot).1 (s.set name q)
  | takesOver {id : SessionId} {t : Takeover} {slot : Slot} (calm : s.party name ≠ some .notifying)
      (taken : s.slot.tryTakeOver id = some (t, slot)) :
      Moved s name (some .tookOver) ({ s with slot }.set name (some (.owner t)))
  | dispatches :
      Moved s name (some .dispatched)
        ({ s with slot := s.slot.dispatch }.set name (some .notifying))
  | notifies :
      Moved s name (some .notified) ({ s with slot := s.slot.notify }.set name none)

theorem moved_come (name : String) {p : Party} (fresh : p.pace?.bind Pace.seen? = none) :
    Moved s name (s.come name p).1 (s.come name p).2 := by
  unfold come
  cases here : s.party name with
  | none => exact .turns (by simp [here]) (by simpa using fresh) (by simp)
  | some q => exact .nothing

theorem moved_giveUp (name : String) : Moved s name (s.giveUp name).1 (s.giveUp name).2 := by
  unfold giveUp
  cases here : (s.party name).bind Party.pace? with
  | none => exact .nothing
  | some p =>
    refine .turns (fun notifying => ?_) rfl (by simp)
    rw [notifying] at here
    cases here

theorem moved_advance (name : String) : Moved s name (s.advance name).1 (s.advance name).2 := by
  unfold advance
  cases here : s.party name with
  | none => exact .nothing
  | some party =>
    cases party with
    | owner t =>
      dsimp only
      split
      · exact .turns (by simp [here]) rfl (by simp)
      · exact .dispatches
    | notifying => exact .notifies
    | request p =>
      have pace : s.pace? name = some p := by simp [pace?, here, Party.pace?]
      refine .waits (by simp [here]) pace fun p' now => ?_
      split at now
      · cases now
      · exact (Option.some.inj now).symm
    | session id p =>
      have pace : s.pace? name = some p := by simp [pace?, here, Party.pace?]
      have calm : s.party name ≠ some .notifying := by simp [here]
      dsimp only
      split
      · unfold attempt
        split
        · rename_i taken
          exact .takesOver calm taken
        · exact .turns calm rfl (by simp)
      · exact .waits calm pace fun p' now => (Option.some.inj now).symm

/-- Every move does one of these things. -/
theorem moved_apply (move : Move) : Moved s move.name (move.apply s).1 (move.apply s).2 := by
  cases move with
  | request name => exact moved_come name rfl
  | session name id => exact moved_come name rfl
  | step name => exact moved_advance name
  | giveUp name => exact moved_giveUp name

/-! ## Crowds -/

/-- A crowd between two actions. -/
def ofCrowd (c : Crowd) : Throng where
  slot := c.slot
  party name := (c.members.get? name).map Party.ofMember

/-- Moves lead from one throng to another. -/
def Reaches (s s' : Throng) : Prop := ∃ moves, (run moves s).2 = s'

theorem Reaches.refl (s : Throng) : s.Reaches s := ⟨[], rfl⟩

theorem Reaches.head (move : Move) (rest : (move.apply s).2.Reaches s') : s.Reaches s' := by
  obtain ⟨moves, reached⟩ := rest
  exact ⟨move :: moves, reached⟩

theorem Reaches.trans {s'' : Throng} (first : s.Reaches s') (rest : s'.Reaches s'') :
    s.Reaches s'' := by
  obtain ⟨moves, reached⟩ := first
  induction moves generalizing s with
  | nil =>
    obtain rfl : s = s' := reached
    exact rest
  | cons move moves ih => exact .head move (ih reached)

section Polling

variable {kind : Pace → Party} {now : Pace → Option Party} {seen : Nat}
  (advance : ∀ (s : Throng) (p : Pace), p ≠ .going .done → s.party name = some (kind p) →
    (s.advance name).2 = s.set name (now (p.step s.slot).2))
  (going : ∀ p, p ≠ .going .done → now p = some (kind p))

include advance going

theorem reaches_registered (here : s.party name = some (kind (.going (.registered seen)))) :
    s.Reaches (s.set name (now (.going ((Waiter.registered seen).poll s.slot)))) := by
  refine .head (.step name) ?_
  rw [Move.apply, advance s _ (by simp) here, going _ (by simp [Pace.step])]
  refine .head (.step name) ?_
  rw [Move.apply, advance _ _ (by simp [Pace.step]) (party_set ..), set_set,
    Pace.step_step_registered]
  exact .refl _

theorem reaches_idle (here : s.party name = some (kind (.going .idle))) :
    s.Reaches (s.set name (now (.going (Waiter.idle.poll s.slot)))) := by
  refine .head (.step name) ?_
  rw [Move.apply, advance s _ (by simp) here, going _ (by simp [Pace.step, Waiter.register])]
  have registered := reaches_registered advance going
    (s := s.set name (some (kind (.going (Waiter.idle.register s.slot))))) (party_set ..)
  rwa [set_set] at registered

/-- A waiter that is polled goes as far as it can without anybody else. -/
theorem reaches_poll {w : Waiter} (undone : w ≠ .done)
    (here : s.party name = some (kind (.going w))) :
    s.Reaches (s.set name (now (.going (w.poll s.slot)))) := by
  cases w with
  | idle => exact reaches_idle advance going here
  | registered seen => exact reaches_registered advance going here
  | done => exact absurd rfl undone
  | parked seen =>
    by_cases same : s.slot.notices = seen
    · have still : (Waiter.parked seen).poll s.slot = .parked seen := by
        simp [Waiter.poll, Waiter.wake, Waiter.register, Waiter.look, same]
      rw [still, going _ (by simp), set_party here]
      exact .refl s
    · have woken : (Waiter.parked seen).wake s.slot = .idle := by simp [Waiter.wake, same]
      have polled : (Waiter.parked seen).poll s.slot = Waiter.idle.poll s.slot := by
        rw [Waiter.poll, woken]
        rfl
      refine .head (.step name) ?_
      rw [Move.apply, advance s _ (by simp) here, Pace.step, woken, going _ (by simp), polled]
      have idle := reaches_idle advance going
        (s := s.set name (some (kind (.going .idle)))) (party_set ..)
      rwa [set_set] at idle

end Polling

theorem reaches_request {w : Waiter} (here : s.party name = some (.request (.going w))) :
    s.Reaches (s.set name
      (if w.poll s.slot = .done then none else some (.request (.going (w.poll s.slot))))) := by
  by_cases done : w = .done
  · subst done
    refine .head (.step name) ?_
    simp only [Move.apply, advance, here, Pace.step]
    exact .refl _
  · let now (p : Pace) : Option Party := if p = .going .done then none else some (.request p)
    have goesOn (s : Throng) (p : Pace) (_ : p ≠ .going .done)
        (here : s.party name = some (.request p)) :
        (s.advance name).2 = s.set name (now (p.step s.slot).2) := by
      simp [advance, here, now]
    have reached := reaches_poll goesOn (fun p more => if_neg more) done here
    simpa [now] using reached

theorem reaches_session {w : Waiter} {id : SessionId}
    (here : s.party name = some (.session id (.going w))) :
    s.Reaches (s.set name (some (.session id (.going (w.poll s.slot))))) := by
  by_cases done : w = .done
  · subst done
    rw [show Waiter.done.poll s.slot = .done from rfl, set_party here]
    exact .refl s
  · have goesOn (s : Throng) (p : Pace) (more : p ≠ .going .done)
        (here : s.party name = some (.session id p)) :
        (s.advance name).2 = s.set name (some (.session id (p.step s.slot).2)) := by
      simp [advance, here, more]
    exact reaches_poll goesOn (fun _ _ => rfl) done here

section Acting

variable {c : Crowd}

theorem party_ofCrowd (c : Crowd) (name : String) :
    (ofCrowd c).party name = (c.members.get? name).map Party.ofMember := rfl

theorem party_ofCrowd_leave (c : Crowd) (name : String) :
    (ofCrowd (c.leave name)).party = Function.update (ofCrowd c).party name none := by
  funext other
  show ((c.members.erase name).get? other).map Party.ofMember = _
  rw [Table.get?_erase, Function.update_apply]
  by_cases same : name = other
  · simp [same]
  · rw [if_neg same, if_neg (Ne.symm same)]
    rfl

/-- Somebody who owns nothing leaves. -/
theorem ofCrowd_leave (idle : c.live? name = none) :
    ofCrowd (c.leave name) = (ofCrowd c).set name none := by
  have slot := c.slot_leave name
  rw [idle] at slot
  exact Throng.ext slot (party_ofCrowd_leave c name)

/-- Somebody comes in where nobody owned anything. -/
theorem ofCrowd_enter (idle : c.live? name = none) (m : Member) :
    ofCrowd (c.enter name m) = (ofCrowd c).set name (some (.ofMember m)) := by
  have slot := c.slot_leave name
  rw [idle] at slot
  refine Throng.ext slot (funext fun other => ?_)
  show (((c.leave name).members.insert name m).get? other).map Party.ofMember = _
  have left := congrFun (party_ofCrowd_leave c name) other
  rw [Table.get?_insert]
  by_cases same : name = other
  · simp [set, same]
  · rw [if_neg same]
    refine left.trans ?_
    simp [set, Ne.symm same]

/-- A session is about to try. -/
theorem reaches_attempt (idle : c.live? name = none) (id : SessionId) :
    ((ofCrowd c).set name (some (.session id (.going .done)))).Reaches
      (ofCrowd (c.contend name ⟨id, .done⟩).2) := by
  refine .head (.step name) ?_
  have tries : (((ofCrowd c).set name (some (.session id (.going .done)))).advance name).2 =
      (((ofCrowd c).set name (some (.session id (.going .done)))).attempt name id).2 := by
    simp [advance]
  rw [Move.apply, tries]
  unfold attempt Crowd.contend PendingTakeover.poll
  rw [slot_set, show (ofCrowd c).slot = c.slot from rfl,
    show Waiter.done.poll c.slot = .done from rfl]
  dsimp only
  cases c.slot.tryTakeOver id with
  | none =>
    dsimp only
    rw [set_set, ofCrowd_enter idle]
    exact .refl _
  | some taken =>
    obtain ⟨t, slot⟩ := taken
    dsimp only
    rw [ofCrowd_enter (c := { c with slot }) idle]
    have same : set name (some (.owner t))
        { (ofCrowd c).set name (some (.session id (.going .done))) with slot } =
          (ofCrowd { c with slot }).set name (some (.owner t)) := by
      simp [set, ofCrowd]
    rw [same]
    exact .refl _

/-- A session that waits looks whether it can take the slot over. -/
theorem reaches_contend (idle : c.live? name = none) (p : PendingTakeover) :
    ((ofCrowd c).set name (some (.session p.session (.going p.waiter)))).Reaches
      (ofCrowd (c.contend name p).2) := by
  have polled := reaches_session
    (party_set name (some (.session p.session (.going p.waiter))) (ofCrowd c))
  rw [set_set] at polled
  refine polled.trans ?_
  rw [slot_set, show (ofCrowd c).slot = c.slot from rfl]
  by_cases done : p.waiter.poll c.slot = .done
  · have same : c.contend name p = c.contend name ⟨p.session, .done⟩ := by
      simp [Crowd.contend, PendingTakeover.poll, done,
        show Waiter.done.poll c.slot = .done from rfl]
    rw [done, same]
    exact reaches_attempt idle p.session
  · have waits : p.poll c.slot = .error { p with waiter := p.waiter.poll c.slot } := by
      unfold PendingTakeover.poll
      cases polled : p.waiter.poll c.slot <;> simp_all
    rw [Crowd.contend, waits, ofCrowd_enter idle]
    exact .refl _

/-- A request looks whether the slot dispatches. -/
theorem reaches_observe (idle : c.live? name = none) (w : Waiter) {free : Crowd}
    (through : ofCrowd free = (ofCrowd c).set name none) :
    ((ofCrowd c).set name (some (.request (.going w)))).Reaches
      (ofCrowd (c.observe name w free).2) := by
  have polled := reaches_request (party_set name (some (.request (.going w))) (ofCrowd c))
  rw [set_set, slot_set, show (ofCrowd c).slot = c.slot from rfl] at polled
  unfold Crowd.observe
  cases done : w.poll c.slot with
  | done =>
    rw [done, if_pos rfl] at polled
    rwa [through]
  | idle | registered | parked =>
    rw [done, if_neg (by simp)] at polled
    rwa [ofCrowd_enter idle]

/-- Somebody leaves; an owner gives the slot back. -/
theorem reaches_leave (c : Crowd) (name : String) :
    (ofCrowd c).Reaches (ofCrowd (c.leave name)) := by
  cases here : c.members.get? name with
  | none =>
    rw [ofCrowd_leave (by simp [Crowd.live?, here]), set_party (by simp [party_ofCrowd, here])]
    exact .refl _
  | some m =>
    have party : (ofCrowd c).party name = some (.ofMember m) := by simp [party_ofCrowd, here]
    cases m with
    | contender p =>
      rw [ofCrowd_leave (by simp [Crowd.live?, here, Member.live?])]
      refine .head (.giveUp name) ?_
      rw [Move.apply, giveUp, party]
      exact .refl _
    | waiter w =>
      rw [ofCrowd_leave (by simp [Crowd.live?, here, Member.live?])]
      refine .head (.giveUp name) ?_
      rw [Move.apply, giveUp, party]
      exact .refl _
    | owner t =>
      have party : (ofCrowd c).party name = some (.owner t) := party
      refine .head (.step name) ?_
      cases restored : t.restored with
      | true =>
        rw [ofCrowd_leave (by simp [Crowd.live?, here, Member.live?, restored])]
        simp only [Move.apply, advance, party, restored, ↓reduceIte]
        exact .refl _
      | false =>
        refine .head (.step name) ?_
        have slot : (c.leave name).slot = c.slot.dispatch.notify := by
          rw [Crowd.slot_leave, show c.live? name = some t.session by
            simp [Crowd.live?, here, Member.live?, restored]]
          rfl
        have same : ofCrowd (c.leave name) = set name none
            { (ofCrowd c).set name (some .notifying) with slot := c.slot.dispatch.notify } := by
          refine Throng.ext slot ?_
          rw [party_ofCrowd_leave]
          simp [set]
        rw [same]
        simp only [Move.apply, advance, party, restored, Bool.false_eq_true, ↓reduceIte, party_set]
        exact .refl _

section Coming

variable (new : c.members.get? name = none)

include new

theorem idle_of_new : c.live? name = none ∧ (ofCrowd c).party name = none := by
  simp [Crowd.live?, party_ofCrowd, new]

theorem reaches_come {p : Party} (rest : ((ofCrowd c).set name (some p)).Reaches s) :
    ((ofCrowd c).come name p).2.Reaches s := by
  rw [come, (idle_of_new new).2]
  exact rest

/-- A session that does not wait tries once. -/
theorem reaches_tryTake (id : SessionId) :
    (ofCrowd c).Reaches (ofCrowd (c.act (.tryTake name id)).2) := by
  obtain ⟨idle, free⟩ := idle_of_new new
  refine .head (.session name id) (reaches_come new ?_)
  refine (reaches_attempt idle id).trans ?_
  have polled : Waiter.done.poll c.slot = .done := rfl
  cases tried : c.slot.tryTakeOver id with
  | some taken =>
    have same : (c.contend name ⟨id, .done⟩).2 = (c.act (.tryTake name id)).2 := by
      simp [Crowd.contend, PendingTakeover.poll, Crowd.act, polled, tried]
    rw [same]
    exact .refl _
  | none =>
    have waits : (c.contend name ⟨id, .done⟩).2 = c.enter name (.contender ⟨id, .idle⟩) := by
      simp [Crowd.contend, PendingTakeover.poll, polled, tried]
    have same : (c.act (.tryTake name id)).2 = c := by simp [Crowd.act, tried]
    rw [waits, same, ofCrowd_enter idle]
    refine .head (.giveUp name) ?_
    simp only [Move.apply, giveUp, party_set, Party.ofMember, Option.bind_some, Party.pace?,
      set_set]
    rw [set_party free]
    exact .refl _

/-- A session that is ready to wait tries before it does. -/
theorem reaches_take (id : SessionId) :
    (ofCrowd c).Reaches (ofCrowd (c.act (.take name id)).2) := by
  obtain ⟨idle, -⟩ := idle_of_new new
  refine .head (.session name id) (reaches_come new ?_)
  have tries := reaches_attempt idle id
  cases dispatching : c.slot.isDispatching with
  | true =>
    have same : c.contend name ⟨id, .done⟩ = c.contend name ⟨id, .idle⟩ := by
      simp [Crowd.contend, PendingTakeover.poll, Waiter.poll, Waiter.wake, Waiter.register,
        Waiter.look, dispatching]
    rw [same] at tries
    exact tries
  | false =>
    have waits : (c.contend name ⟨id, .done⟩).2 = c.enter name (.contender ⟨id, .idle⟩) := by
      simp [Crowd.contend, PendingTakeover.poll, Waiter.poll, Waiter.wake, Waiter.register,
        Waiter.look, Slot.tryTakeOver, dispatching]
    rw [waits, ofCrowd_enter idle] at tries
    exact tries.trans (reaches_contend idle ⟨id, .idle⟩)

theorem reaches_await : (ofCrowd c).Reaches (ofCrowd (c.act (.await name)).2) := by
  obtain ⟨idle, free⟩ := idle_of_new new
  refine .head (.request name) (reaches_come new ?_)
  refine reaches_observe idle .idle ?_
  rw [set_party free]

end Coming

theorem reaches_pollIn (c : Crowd) (name : String) :
    (ofCrowd c).Reaches (ofCrowd (c.act (.poll name)).2) := by
  cases here : c.members.get? name with
  | none =>
    have same : (c.act (.poll name)).2 = c := by simp [Crowd.act, here]
    rw [same]
    exact .refl _
  | some m =>
    cases m with
    | owner t =>
      have same : (c.act (.poll name)).2 = c := by simp [Crowd.act, here]
      rw [same]
      exact .refl _
    | contender p =>
      have idle : c.live? name = none := by simp [Crowd.live?, here, Member.live?]
      have looks := reaches_contend idle p
      rw [set_party (by simp [party_ofCrowd, here, Party.ofMember])] at looks
      simpa [Crowd.act, here] using looks
    | waiter w =>
      have idle : c.live? name = none := by simp [Crowd.live?, here, Member.live?]
      have looks := reaches_observe idle w (ofCrowd_leave idle)
      rw [set_party (by simp [party_ofCrowd, here, Party.ofMember])] at looks
      simpa [Crowd.act, here] using looks

/-- What somebody does in a crowd is moves of theirs, if nobody is driven out by a
newcomer. -/
theorem reaches_act (c : Crowd) (a : Crowd.Action)
    (new : a.enters = true → c.members.get? a.name = none) :
    (ofCrowd c).Reaches (ofCrowd (c.act a).2) := by
  cases a with
  | tryTake name id => exact reaches_tryTake (new rfl) id
  | take name id => exact reaches_take (new rfl) id
  | await name => exact reaches_await (new rfl)
  | poll name => exact reaches_pollIn c name
  | restore name => exact reaches_leave c name
  | leave name => exact reaches_leave c name

end Acting

end Throng

end StreamGate
