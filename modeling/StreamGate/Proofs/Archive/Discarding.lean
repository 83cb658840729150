import Mathlib.Logic.Function.Basic
import StreamGate.Proofs.Archive.Chunks
import StreamGate.Proofs.Storage.Places
import StreamGate.Proofs.Transfer.Journal

/-!
# What the end of an archive session discards

Archive sessions that take turns with each other and with the builder of the archives.
A session keeps its token and not its archive, so what it discards in the end is found
then, under the token.

* `ArchiveStore.node?_discard`, `ArchiveStore.registered_discard`: what goes with a token.
* `Session.step_archives`: a step of an archive session leaves the archives alone, or it ends
  the session and discards its token.
* `Dispatch.effect`: all that an event can do.
* `Dispatch.registry_apply`: a token that nobody touches keeps its registration.
* `Dispatch.ended_by_token`: what is gone once a session has ended.
-/

namespace StreamGate

/-! ## Discarding a token -/

namespace ArchiveStore

variable {a : ArchiveStore} {token : String}

theorem discard_of_none (led : a.path? token = none) : a.discard token = a := by
  unfold discard
  rw [led]

theorem discard_of_some {path : String} (led : a.path? token = some path) :
    a.discard token =
      { registry := { a.registry with registered := a.registry.registered.erase token }
        files := (a.files.removeFile path).toOption.getD a.files } := by
  unfold discard
  rw [led]

theorem registered_of_path? (led : a.path? token = none) :
    a.registry.registered.get? token = none := by
  unfold path? ArchiveRegistry.path? at led
  split at led
  · cases led
  · assumption

theorem directory_discard (token : String) (a : ArchiveStore) :
    (a.discard token).registry.directory = a.registry.directory := by
  cases led : a.path? token with
  | none => rw [discard_of_none led]
  | some path => rw [discard_of_some led]

/-- A token loses its registration, and no other token does. -/
theorem registered_discard (token : String) (a : ArchiveStore) (other : String) :
    (a.discard token).registry.registered.get? other =
      if token = other then none else a.registry.registered.get? other := by
  cases led : a.path? token with
  | none =>
    rw [discard_of_none led]
    split
    · rename_i same
      rw [← same, registered_of_path? led]
    · rfl
  | some path =>
    rw [discard_of_some led]
    exact Table.get?_erase ..

/-- The place of the file that a token leads to. -/
def place? (token : String) (a : ArchiveStore) : Option Place :=
  match a.path? token with
  | some path => if a.files.isFile path then (a.files.locate path).toOption else none
  | none => none

theorem place?_of_none (led : a.path? token = none) : a.place? token = none := by
  unfold place?
  rw [led]

theorem place?_of_some {path : String} (led : a.path? token = some path) :
    a.place? token =
      if (a.files.removeFile path).toBool then (a.files.locate path).toOption else none := by
  unfold place?
  rw [led, ← FileSystem.isFile_of_removeFile]

theorem place?_spec {place : Place} (leads : a.place? token = some place) :
    ∃ path, a.path? token = some path ∧ a.files.locate path = .ok place := by
  cases led : a.path? token with
  | none =>
    rw [place?_of_none led] at leads
    cases leads
  | some path =>
    rw [place?_of_some led] at leads
    split at leads
    · cases located : a.files.locate path with
      | error e =>
        rw [located] at leads
        cases leads
      | ok there =>
        rw [located] at leads
        cases leads
        exact ⟨path, rfl, located⟩
    · cases leads

/-- The file that the token leads to goes, and no other. -/
theorem node?_discard (token : String) (a : ArchiveStore) (place : Place) :
    (a.discard token).files.node? place =
      if a.place? token = some place then none else a.files.node? place := by
  cases led : a.path? token with
  | none => rw [discard_of_none led, place?_of_none led, if_neg nofun]
  | some path =>
    have leads := place?_of_some led
    rw [discard_of_some led]
    cases removed : a.files.removeFile path with
    | error e =>
      rw [removed] at leads
      rw [leads]
      rfl
    | ok files =>
      obtain ⟨here, n, located, -, nodes, -, -⟩ := FileSystem.removeFile_spec removed
      rw [removed, located] at leads
      rw [leads]
      simpa [Except.toBool, Except.toOption] using nodes place

/-- Files keep their content; one that is open can be read on. -/
theorem contents_discard (token : String) (a : ArchiveStore) :
    (a.discard token).files.contents = a.files.contents := by
  cases led : a.path? token with
  | none => rw [discard_of_none led]
  | some path =>
    rw [discard_of_some led]
    cases removed : a.files.removeFile path with
    | error e => rfl
    | ok files =>
      obtain ⟨-, -, -, -, -, contents, -⟩ := FileSystem.removeFile_spec removed
      exact contents

end ArchiveStore

/-! ## Sessions on archives -/

namespace Relay

/-- Reading leaves the archives alone. -/
theorem unchanged_of_read {file file' : FileHandle} {want : Nat} {answer} {a after : ArchiveStore}
    (read : ArchiveStore.desk.read file want a = (answer, file', after)) : a = after :=
  congrArg (fun answer => answer.2.2) read

/-- A chunk leaves the archives alone, unless it is the last and the token is discarded. -/
theorem nextChunk_archives (r : Relay FileHandle) (a : ArchiveStore) :
    (∃ result r', r.nextChunk ArchiveStore.desk a = (result, r', a) ∧ r'.token = r.token ∧
      r'.discarded = r.discarded ∧ ∀ chunk, result = .ok chunk → chunk.done = false) ∨
    ∃ chunk r', r.nextChunk ArchiveStore.desk a =
      (.ok chunk, r', (r.release ArchiveStore.desk a).2) ∧ chunk.done = true ∧
        r'.token = r.token ∧ r'.discarded = true := by
  have sends := r.nextChunk_sends ArchiveStore.desk a
  generalize r.nextChunk ArchiveStore.desk a = sent at sends ⊢
  cases sends with
  | finished => exact .inr ⟨_, _, rfl, rfl, rfl, rfl⟩
  | closed => exact .inl ⟨_, _, rfl, rfl, rfl, nofun⟩
  | failed _ _ read | short _ _ read =>
    obtain rfl := unchanged_of_read read
    exact .inl ⟨_, _, rfl, rfl, rfl, nofun⟩
  | last _ _ read =>
    obtain rfl := unchanged_of_read read
    exact .inr ⟨_, _, rfl, rfl, rfl, rfl⟩
  | more _ read =>
    obtain rfl := unchanged_of_read read
    refine .inl ⟨_, _, rfl, rfl, rfl, fun chunk same => ?_⟩
    cases same
    rfl

end Relay

namespace Session

variable {session : Session (Relay FileHandle)} {a : ArchiveStore}

/-- The source of archive sessions. -/
def archives : Source ArchiveStore (Relay FileHandle) := Relay.source ArchiveStore.desk

/-- What is left of the archives when a session ends. -/
def spent (session : Session (Relay FileHandle)) (a : ArchiveStore) : ArchiveStore :=
  if session.source.discarded then a else a.discard session.source.token

theorem spent_congr {other : Session (Relay FileHandle)}
    (token : other.source.token = session.source.token)
    (discarded : other.source.discarded = session.source.discarded) (a : ArchiveStore) :
    other.spent a = session.spent a := by
  rw [spent, spent, token, discarded]

theorem abort_archives (reason : AbortReason) (session : Session (Relay FileHandle))
    (a : ArchiveStore) :
    ∃ after, session.abort archives .quiet reason a = (after, session.spent a) ∧
      after.phase.isFinal = true := by
  refine ⟨_, Prod.ext rfl ?_, rfl⟩
  unfold abort letGo
  simp only [archives, Relay.source, Relay.release, Host.quiet, ite_self]
  rfl

theorem fail_archives (e : TransferError) (session : Session (Relay FileHandle))
    (a : ArchiveStore) :
    ∃ after, session.fail archives .quiet e a = (some (.error e), after, session.spent a) ∧
      after.phase.isFinal = true := by
  obtain ⟨after, aborted, final⟩ := session.abort_archives .error a
  refine ⟨after, ?_, final⟩
  unfold fail
  rw [aborted]

theorem complete_archives (session : Session (Relay FileHandle)) (a : ArchiveStore) :
    ∃ after, session.complete archives .quiet a = (after, session.spent a) ∧
      after.phase.isFinal = true := by
  refine ⟨_, Prod.ext rfl ?_, rfl⟩
  unfold complete letGo
  cases session.usage <;>
    simp only [archives, Relay.source, Relay.release, Host.quiet, ite_self, Option.elim] <;> rfl

/-- All that a step of an archive session can do to the archives. -/
def Sends (session : Session (Relay FileHandle)) (a : ArchiveStore)
    (after : Session (Relay FileHandle)) (left : ArchiveStore) : Prop :=
  (after.phase.isFinal = true ∧ left = session.spent a) ∨
    (after.phase.isFinal = false ∧ left = a ∧
      after.source.token = session.source.token ∧
      after.source.discarded = session.source.discarded)

theorem Sends.of_fail {other : Session (Relay FileHandle)} {left : ArchiveStore}
    (spent : other.spent left = session.spent a) (e : TransferError) :
    session.Sends a (other.fail archives .quiet e left).2.1
      (other.fail archives .quiet e left).2.2 := by
  obtain ⟨after, failed, final⟩ := fail_archives e other left
  rw [failed]
  exact .inl ⟨final, spent⟩

theorem pull_archives (going : session.phase.isFinal = false) (a : ArchiveStore) :
    session.Sends a (session.pull archives .quiet a).2.1 (session.pull archives .quiet a).2.2 := by
  unfold pull
  have asked : archives.nextChunk session.source a =
      session.source.nextChunk ArchiveStore.desk a := rfl
  rw [asked]
  rcases session.source.nextChunk_archives a with
    ⟨result, r', pulled, token, discarded, more⟩ | ⟨chunk, r', pulled, done, token, discarded⟩
  · rw [pulled]
    cases result with
    | error e => exact .of_fail (spent_congr token discarded a) e
    | ok chunk =>
      have goesOn := more chunk rfl
      dsimp only
      split
      · exact .of_fail (spent_congr token discarded a) _
      · rw [goesOn]
        exact .inr ⟨going, rfl, token, discarded⟩
  · have spent : ∀ other : Session (Relay FileHandle), other.source = r' →
        other.spent (session.source.release ArchiveStore.desk a).2 = session.spent a :=
      fun other same => by
        rw [Session.spent, same, if_pos discarded]
        rfl
    rw [pulled]
    dsimp only
    split
    · exact .of_fail (spent _ rfl) _
    · split
      · exact .of_fail (spent _ rfl) _
      · obtain ⟨after, completed, final⟩ := complete_archives
          { session with source := r', sent := counted session.sent chunk.data.length }
          (session.source.release ArchiveStore.desk a).2
        simp only [completed]
        exact .inl ⟨final, spent _ rfl⟩

/-- A step of an archive session leaves the archives alone, or it is the last and discards the
token, unless that was done before. -/
theorem step_archives (going : session.phase.isFinal = false) (a : ArchiveStore) :
    session.Sends a (session.step archives .quiet a).2.1 (session.step archives .quiet a).2.2 := by
  unfold step
  cases phase : session.phase with
  | completed | aborted =>
    rw [phase] at going
    cases going
  | streaming => exact pull_archives going a
  | headerSent =>
    have going' : ({ session with phase := .streaming } : Session _).phase.isFinal = false := rfl
    exact pull_archives going' a

theorem step_of_final (final : session.phase.isFinal = true) (a : ArchiveStore) :
    session.step archives .quiet a = (none, session, a) := by
  unfold step
  cases phase : session.phase with
  | completed | aborted => rfl
  | headerSent | streaming =>
    rw [phase] at final
    cases final

theorem runOut_of_final (final : session.phase.isFinal = true) (fuel : Nat) (a : ArchiveStore) :
    session.runOut archives .quiet fuel a = (session, a) := by
  cases fuel with
  | zero => rfl
  | succ fuel => rw [runOut, step_of_final final]

/-- The steps of an archive session do together what one of them can do. -/
theorem runOut_archives (going : session.phase.isFinal = false) (fuel : Nat) (a : ArchiveStore) :
    session.Sends a (session.runOut archives .quiet fuel a).1
      (session.runOut archives .quiet fuel a).2 := by
  induction fuel generalizing session a with
  | zero => exact .inr ⟨going, rfl, rfl, rfl⟩
  | succ fuel ih =>
    have sends := step_archives going a
    rw [runOut]
    generalize session.step archives .quiet a = taken at sends
    obtain ⟨result, after, left⟩ := taken
    cases result with
    | none => exact sends
    | some result =>
      rcases sends with ⟨final, spent⟩ | ⟨going', same, token, discarded⟩
      · simp only [runOut_of_final final]
        exact .inl ⟨final, spent⟩
      · dsimp only at going' same token discarded ⊢
        subst same
        rcases ih going' left with ⟨final, spent⟩ | ⟨still, same, token', discarded'⟩
        · exact .inl ⟨final, spent.trans (spent_congr token discarded left)⟩
        · exact .inr ⟨still, same, token'.trans token, discarded'.trans discarded⟩

end Session

/-! ## Sessions beside the builder -/

/-- Opens the archive of a token. -/
def ArchiveStore.open? (token : String) (buffer : Nat) (a : ArchiveStore) :
    Option (Relay FileHandle) :=
  (a.path? token).bind fun path =>
    (Relay.openFile ArchiveStore.desk.in64Bits path token buffer a).toOption

/-- The session that sends an archive. -/
def Relay.session (relay : Relay FileHandle) : Session (Relay FileHandle) where
  id := 0
  kind := .archive
  source := relay
  contentLength := relay.size

/-- Begins a session.  An empty archive is never asked for, so its session runs to the end at
once. -/
def Relay.begin (relay : Relay FileHandle) (a : ArchiveStore) :
    Session (Relay FileHandle) × ArchiveStore :=
  if relay.session.contentLength = 0 then
    relay.session.runOut Session.archives .quiet 2 a
  else (relay.session, a)

/-- Archives that sessions send while others are built. -/
structure Dispatch where
  archives : ArchiveStore
  /-- The sessions by name; one that has ended keeps its name. -/
  sessions : String → Option (Session (Relay FileHandle)) := fun _ => none

namespace Dispatch

/-- What clients and the builder do. -/
inductive Event where
  /-- The builder registers an archive. -/
  | register (token path : String)
  /-- The builder changes files in some way. -/
  | build (change : FileSystem → FileSystem)
  /-- A client asks for the archive of a token, and a session opens it. -/
  | start (name token : String) (buffer : Nat)
  /-- The client of a session takes the next bytes. -/
  | step (name : String)
  /-- The client of a session goes away. -/
  | drop (name : String)
  /-- A client that has the archive of a token already asks for it. -/
  | collect (token : String)

/-- A session goes on, with the archives as it left them. -/
def put (s : Dispatch) (name : String) (after : Session (Relay FileHandle) × ArchiveStore) :
    Dispatch :=
  ⟨after.2, Function.update s.sessions name (some after.1)⟩

def Event.apply (s : Dispatch) : Event → Dispatch
  | .register token path => { s with archives := s.archives.register token path }
  | .build change => { s with archives := { s.archives with files := change s.archives.files } }
  | .collect token => { s with archives := s.archives.discard token }
  | .start name token buffer =>
    match s.sessions name, s.archives.open? token buffer with
    | none, some relay => s.put name (relay.begin s.archives)
    | _, _ => s
  | .step name =>
    match s.sessions name with
    | some session => s.put name (session.step Session.archives .quiet s.archives).2
    | none => s
  | .drop name =>
    match s.sessions name with
    | some session =>
      if session.phase.isFinal then s
      else s.put name (session.abort Session.archives .quiet .disconnect s.archives)
    | none => s

/-- Events happen one after the other. -/
def run (s : Dispatch) (es : List Event) : Dispatch := es.foldl Event.apply s

/-- The session of this name is over. -/
def hasEnded (s : Dispatch) (name : String) : Bool := (s.sessions name).any (·.phase.isFinal)

/-- The session of this name is over with an event. -/
def Event.ends (s : Dispatch) (e : Event) (name : String) : Bool :=
  !s.hasEnded name && (e.apply s).hasEnded name

/-- The token that an event registers or discards. -/
def Event.touches (s : Dispatch) (e : Event) : Option String :=
  match e with
  | .register token _ | .collect token => some token
  | .build _ => none
  | .start name token _ => if e.ends s name then some token else none
  | .step name | .drop name =>
    if e.ends s name then (s.sessions name).map (·.source.token) else none

/-- The tokens that events register or discard. -/
def touched (s : Dispatch) : List Event → List String
  | [] => []
  | e :: es => (e.touches s).toList ++ (e.apply s).touched es

variable {s : Dispatch} {name token path : String}

/-! ## What an event can do -/

theorem begin_sends (relay : Relay FileHandle) (a : ArchiveStore) :
    relay.session.Sends a (relay.begin a).1 (relay.begin a).2 := by
  unfold Relay.begin
  split
  · exact Session.runOut_archives rfl 2 a
  · exact .inr ⟨rfl, rfl, rfl, rfl⟩

/-- All that an event can do. -/
inductive Effect (s : Dispatch) : Event → Dispatch → Prop
  | registered (token path : String) :
      Effect s (.register token path) { s with archives := s.archives.register token path }
  | built (change : FileSystem → FileSystem) :
      Effect s (.build change)
        { s with archives := { s.archives with files := change s.archives.files } }
  | collected (token : String) :
      Effect s (.collect token) { s with archives := s.archives.discard token }
  /-- Nothing changes. -/
  | idle (e : Event) : Effect s e s
  /-- A session begins, and is over if it has nothing to send. -/
  | begun {relay : Relay FileHandle} {after left} (name : String) (buffer : Nat)
      (new : s.sessions name = none) (fresh : relay.discarded = false)
      (sends : relay.session.Sends s.archives after left) :
      Effect s (.start name relay.token buffer) (s.put name (after, left))
  /-- A session goes on or ends. -/
  | sent {e : Event} {session after : Session (Relay FileHandle)} {left} (name : String)
      (mine : e = .step name ∨ e = .drop name) (known : s.sessions name = some session)
      (going : session.phase.isFinal = false) (sends : session.Sends s.archives after left) :
      Effect s e (s.put name (after, left))

theorem open?_spec {relay : Relay FileHandle} {buffer : Nat} {a : ArchiveStore}
    (opened : a.open? token buffer = some relay) :
    relay.token = token ∧ relay.discarded = false := by
  obtain ⟨path, -, opened⟩ := Option.bind_eq_some_iff.1 opened
  cases answer : Relay.openFile ArchiveStore.desk.in64Bits path token buffer a with
  | error e =>
    rw [answer] at opened
    cases opened
  | ok relay' =>
    rw [answer] at opened
    cases opened
    obtain ⟨_, -, -, -, own, fresh⟩ := Relay.openFile_spec answer
    exact ⟨own, fresh⟩

theorem effect (s : Dispatch) (e : Event) : s.Effect e (e.apply s) := by
  cases e with
  | register token path => exact .registered token path
  | build change => exact .built change
  | collect token => exact .collected token
  | start name token buffer =>
    cases new : s.sessions name with
    | some session =>
      simp only [Event.apply, new]
      exact .idle _
    | none =>
      cases opened : s.archives.open? token buffer with
      | none =>
        simp only [Event.apply, new, opened]
        exact .idle _
      | some relay =>
        obtain ⟨rfl, fresh⟩ := open?_spec opened
        simp only [Event.apply, new, opened]
        exact .begun name buffer new fresh (begin_sends relay s.archives)
  | step name =>
    cases known : s.sessions name with
    | none =>
      simp only [Event.apply, known]
      exact .idle _
    | some session =>
      simp only [Event.apply, known]
      cases final : session.phase.isFinal with
      | false => exact .sent name (.inl rfl) known final (Session.step_archives final s.archives)
      | true =>
        rw [Session.step_of_final final, put, ← known, Function.update_eq_self]
        exact .idle _
  | drop name =>
    cases known : s.sessions name with
    | none =>
      simp only [Event.apply, known]
      exact .idle _
    | some session =>
      simp only [Event.apply, known]
      cases final : session.phase.isFinal with
      | true => exact .idle _
      | false =>
        obtain ⟨after, aborted, ended⟩ := session.abort_archives .disconnect s.archives
        rw [if_neg Bool.false_ne_true, aborted]
        exact .sent name (.inr rfl) known final (.inl ⟨ended, rfl⟩)

/-! ## From the opening of an archive to the end of its session -/

theorem hasEnded_of_known {session : Session (Relay FileHandle)}
    (known : s.sessions name = some session) : s.hasEnded name = session.phase.isFinal := by
  rw [hasEnded, known, Option.any_some]

theorem put_known (s : Dispatch) (name : String)
    (after : Session (Relay FileHandle) × ArchiveStore) :
    (s.put name after).sessions name = some after.1 := Function.update_self ..

/-- What happens to one session: nothing, or a step of its own. -/
theorem Effect.of_known {e : Event} {s' : Dispatch} {session : Session (Relay FileHandle)}
    (effect : s.Effect e s') (known : s.sessions name = some session) :
    (s'.sessions name = some session ∧ (e = .step name ∨ e = .drop name → s' = s)) ∨
      (session.phase.isFinal = false ∧ ∃ after left, s' = s.put name (after, left) ∧
        session.Sends s.archives after left) := by
  cases effect with
  | registered | built | collected => exact .inl ⟨known, by rintro (own | own) <;> cases own⟩
  | idle => exact .inl ⟨known, fun _ => rfl⟩
  | begun other buffer new fresh sends =>
    have apart : name ≠ other := by
      rintro rfl
      rw [new] at known
      cases known
    exact .inl ⟨(Function.update_of_ne apart ..).trans known, by rintro (own | own) <;> cases own⟩
  | @sent _ turned after left other mine there going sends =>
    by_cases same : other = name
    · subst same
      rw [known] at there
      cases there
      exact .inr ⟨going, after, left, rfl, sends⟩
    · refine .inl ⟨(Function.update_of_ne (Ne.symm same) ..).trans known, ?_⟩
      rcases mine with rfl | rfl <;> rintro (own | own) <;> cases own <;> exact absurd rfl same

theorem hasEnded_run (ended : s.hasEnded name = true) (es : List Event) :
    (s.run es).hasEnded name = true := by
  induction es generalizing s with
  | nil => exact ended
  | cons e es ih =>
    refine ih ?_
    obtain ⟨session, known, final⟩ := Option.any_eq_true _ _ |>.1 ended
    rcases (s.effect e).of_known known with ⟨same, -⟩ | ⟨going, -⟩
    · rw [hasEnded_of_known same, final]
    · rw [going] at final
      cases final

/-- While it goes on, the session of this name is to discard the token. -/
def Carries (name token : String) (s : Dispatch) : Prop :=
  ∃ session, s.sessions name = some session ∧ (session.phase.isFinal = false →
    session.source.token = token ∧ session.source.discarded = false)

theorem Carries.apply (carries : s.Carries name token) (e : Event) :
    (e.apply s).Carries name token := by
  obtain ⟨session, known, mine⟩ := carries
  rcases (s.effect e).of_known known with ⟨same, -⟩ | ⟨going, after, left, put, sends⟩
  · exact ⟨session, same, mine⟩
  · rw [put]
    refine ⟨after, put_known .., fun still => ?_⟩
    rcases sends with ⟨final, -⟩ | ⟨-, -, token', discarded'⟩
    · rw [still] at final
      cases final
    · rw [token', discarded']
      exact mine going

theorem Carries.run (carries : s.Carries name token) (es : List Event) :
    (s.run es).Carries name token := by
  induction es generalizing s with
  | nil => exact carries
  | cons e es ih => exact ih (carries.apply e)

/-- The event that ends a session discards its token, and the steps before leave the archives
alone. -/
theorem Carries.archives (carries : s.Carries name token) (e : Event) :
    (e.ends s name = true → (e.apply s).archives = s.archives.discard token) ∧
      (e = .step name ∨ e = .drop name → e.ends s name = false →
        (e.apply s).archives = s.archives) := by
  obtain ⟨session, known, mine⟩ := carries
  unfold Event.ends
  rw [hasEnded_of_known known]
  rcases (s.effect e).of_known known with ⟨same, own⟩ | ⟨going, after, left, put, sends⟩
  · rw [hasEnded_of_known same, Bool.not_and_self]
    exact ⟨nofun, fun asked _ => by rw [own asked]⟩
  · rw [put, hasEnded_of_known (put_known ..), going, Bool.not_false, Bool.true_and]
    obtain ⟨token', discarded⟩ := mine going
    rcases sends with ⟨final, spent⟩ | ⟨still, same, -, -⟩
    · rw [final]
      refine ⟨fun _ => ?_, fun _ => nofun⟩
      show left = _
      rw [spent, Session.spent, discarded, token', if_neg Bool.false_ne_true]
    · rw [still]
      exact ⟨nofun, fun _ _ => same⟩

/-! ## What a token leads to -/

theorem ends_of_put {e : Event} {after : Session (Relay FileHandle)} {left : ArchiveStore}
    (put : e.apply s = s.put name (after, left)) (going : s.hasEnded name = false)
    (final : after.phase.isFinal = true) : e.ends s name = true := by
  rw [Event.ends, put, going, hasEnded_of_known (put_known ..), final]
  rfl

/-- A token keeps its registration as long as nobody registers or discards it. -/
theorem registry_apply {e : Event} (spared : e.touches s ≠ some token) :
    (e.apply s).archives.registry.directory = s.archives.registry.directory ∧
      (e.apply s).archives.registry.registered.get? token =
        s.archives.registry.registered.get? token := by
  have other : ∀ session : Session (Relay FileHandle), session.source.token ≠ token →
      (session.spent s.archives).registry.directory = s.archives.registry.directory ∧
        (session.spent s.archives).registry.registered.get? token =
          s.archives.registry.registered.get? token := fun session apart => by
    unfold Session.spent
    split
    · exact ⟨rfl, rfl⟩
    · rw [ArchiveStore.registered_discard, if_neg apart]
      exact ⟨ArchiveStore.directory_discard .., rfl⟩
  have effect := s.effect e
  generalize after : e.apply s = s' at effect
  cases effect with
  | registered another path =>
    exact ⟨rfl, (Table.get?_insert ..).trans (if_neg fun same => spared (congrArg some same))⟩
  | built | idle => exact ⟨rfl, rfl⟩
  | collected another =>
    exact ⟨ArchiveStore.directory_discard .., (ArchiveStore.registered_discard ..).trans
      (if_neg fun same => spared (congrArg some same))⟩
  | @begun relay _ _ name buffer new fresh sends =>
    rcases sends with ⟨final, rfl⟩ | ⟨-, rfl, -⟩
    · have ends := ends_of_put after (by rw [hasEnded, new]; rfl) final
      refine other relay.session fun same => spared ?_
      rw [Event.touches, if_pos ends, ← same]
      rfl
    · exact ⟨rfl, rfl⟩
  | @sent _ session _ _ name mine known going sends =>
    rcases sends with ⟨final, rfl⟩ | ⟨-, rfl, -⟩
    · have ends := ends_of_put after ((hasEnded_of_known known).trans going) final
      refine other session fun same => spared ?_
      rcases mine with rfl | rfl <;> simp [Event.touches, ends, known, same]
    · exact ⟨rfl, rfl⟩

/-- A token leads to this path, unless what was left in the directory is gone. -/
def Held (token path : String) (a : ArchiveStore) : Prop :=
  a.registry.registered.get? token = some path ∨
    (a.registry.registered.get? token = none ∧
      path = Path.join a.registry.directory (token ++ ".zip"))

theorem Held.of_path? {a : ArchiveStore} (led : a.path? token = some path) : Held token path a := by
  unfold ArchiveStore.path? ArchiveRegistry.path? at led
  split at led
  · rename_i registered
    cases led
    exact .inl registered
  · rename_i registered
    unfold ArchiveRegistry.dropped? at led
    split at led
    · dsimp only at led
      split at led
      · cases led
        exact .inr ⟨registered, rfl⟩
      · cases led
    · cases led

theorem Held.path?_eq {a : ArchiveStore} (held : Held token path a) {other : String}
    (led : a.path? token = some other) : other = path := by
  rcases held with registered | ⟨registered, rfl⟩ <;>
    rcases Held.of_path? led with registered' | ⟨registered', rfl⟩ <;>
    rw [registered] at registered' <;> cases registered'
  rfl

theorem Held.run {es : List Event} (held : Held token path s.archives)
    (spared : token ∉ s.touched es) : Held token path (s.run es).archives := by
  induction es generalizing s with
  | nil => exact held
  | cons e es ih =>
    rw [touched, List.mem_append, Option.mem_toList, not_or] at spared
    refine ih ?_ spared.2
    unfold Held
    obtain ⟨directory, registered⟩ := registry_apply spared.1
    rw [directory, registered]
    exact held

/-! ## The end of a session -/

/-- A session that has opened an archive is to discard its token, or it had nothing to send and
has done so. -/
theorem carries_start (new : s.sessions name = none) (found : s.archives.path? token = some path)
    {h : FileHandle} (file : s.archives.files.openFile path = .ok h) (buffer : Nat) :
    let opened := (Event.start name token buffer).apply s
    opened.Carries name token ∧
      opened.archives = if opened.hasEnded name then s.archives.discard token else s.archives := by
  intro opened
  have found' : ∃ relay, s.archives.open? token buffer = some relay := by
    simp [ArchiveStore.open?, found, Relay.openFile, ArchiveDesk.in64Bits, ArchiveStore.desk, file,
      Except.map, Except.toOption]
  obtain ⟨relay, relayed⟩ := found'
  obtain ⟨rfl, fresh⟩ := open?_spec relayed
  have put : opened = s.put name (relay.begin s.archives) := by
    show (Event.start name relay.token buffer).apply s = _
    simp only [Event.apply, new, relayed]
  have known := put_known s name (relay.begin s.archives)
  rw [put, hasEnded_of_known known]
  show _ ∧ (relay.begin s.archives).2 = _
  rcases begin_sends relay s.archives with ⟨final, spent⟩ | ⟨going, same, token, discarded⟩
  · refine ⟨⟨_, known, fun going => ?_⟩, ?_⟩
    · rw [going] at final
      cases final
    · rw [final, if_pos rfl, spent, Session.spent]
      exact if_neg (by simp [Relay.session, fresh])
  · rw [going, if_neg Bool.false_ne_true]
    exact ⟨⟨_, known, fun _ => ⟨token, discarded.trans fresh⟩⟩, same⟩

/-- What a session discards when it ends.  A session for a token goes through any events, its own
and those of other sessions and of the builder.

* Until it ends, it leaves the archives alone.  The event that ends it discards the token, as
  does the opening of an empty archive.
* Then the file that the token leads to at this moment is gone, and no other.
* The token has no registration, and other tokens keep theirs.
* The file is the one at the path that the session has opened, if the token was neither
  registered nor discarded since. -/
theorem ended_by_token (s : Dispatch) {name token path : String} {h : FileHandle} (buffer : Nat)
    (new : s.sessions name = none) (found : s.archives.path? token = some path)
    (file : s.archives.files.openFile path = .ok h) (es : List Event) (e : Event) :
    let opened := (Event.start name token buffer).apply s
    let before := opened.run es
    let after := e.apply before
    (opened.archives = if opened.hasEnded name then s.archives.discard token else s.archives) ∧
    (e = .step name ∨ e = .drop name → e.ends before name = false →
      after.archives = before.archives) ∧
    (e.ends before name = true →
      after.archives = before.archives.discard token ∧
      (∀ place, after.archives.files.node? place =
        if before.archives.place? token = some place then none
        else before.archives.files.node? place) ∧
      after.archives.files.contents = before.archives.files.contents ∧
      (∀ other, after.archives.registry.registered.get? other =
        if token = other then none else before.archives.registry.registered.get? other) ∧
      (token ∉ opened.touched es → ∀ place, before.archives.place? token = some place →
        before.archives.files.locate path = .ok place)) := by
  intro opened before after
  obtain ⟨carries, left⟩ : opened.Carries name token ∧ opened.archives = _ :=
    carries_start new found file buffer
  refine ⟨left, ((carries.run es).archives e).2, fun ends => ?_⟩
  have discarded : after.archives = before.archives.discard token :=
    ((carries.run es).archives e).1 ends
  rw [discarded]
  refine ⟨rfl, ArchiveStore.node?_discard token _, ArchiveStore.contents_discard token _,
    ArchiveStore.registered_discard token _, fun spared place leads => ?_⟩
  have going : opened.hasEnded name = false := by
    cases ended : opened.hasEnded name with
    | false => rfl
    | true =>
      rw [Event.ends, hasEnded_run ended es] at ends
      cases ends
  have held : Held token path opened.archives := by
    rw [left, going]
    exact .of_path? found
  obtain ⟨other, led, located⟩ := ArchiveStore.place?_spec leads
  rw [← (held.run spared).path?_eq led]
  exact located

/-- Archives `/a.zip`, which a token is registered for, and `/b.zip`. -/
def twoArchives : Dispatch where
  archives := {
    registry := { directory := "/", registered := ⟨[("t", "/a.zip")]⟩ }
    files := {
      nodes := ⟨[(["a.zip"], .file 0), (["b.zip"], .file 1)]⟩
      contents := ⟨[(0, [1, 2, 3]), (1, [4, 5])]⟩
      fresh := 2 } }

/-- A session that is broken off after its first bytes. -/
theorem ended_by_token_of_dropped :
    let before := ((Event.start "s" "t" 2).apply twoArchives).run [.step "s"]
    let after := (Event.drop "s").apply before
    after.archives = before.archives.discard "t" ∧
      after.archives.files.files = [["b.zip"]] := by
  have new : twoArchives.sessions "s" = none := rfl
  have found : twoArchives.archives.path? "t" = some "/a.zip" := by decide +kernel
  have file : twoArchives.archives.files.openFile "/a.zip" = .ok ⟨.file 0, 0⟩ := by decide +kernel
  have ended := ended_by_token twoArchives 2 new found file [.step "s"] (.drop "s")
  exact ⟨(ended.2.2 (by decide +kernel)).1, by decide +kernel⟩

/-- A session has opened `/a.zip`, and `/b.zip` is registered for its token before it ends. -/
theorem newer_archive_discarded :
    let before := ((Event.start "s" "t" 2).apply twoArchives).run [.register "t" "b.zip"]
    let after := (Event.drop "s").apply before
    before.archives.files.files = [["a.zip"], ["b.zip"]] ∧
      before.archives.path? "t" = some "/b.zip" ∧
      after.archives.files.files = [["a.zip"]] ∧
      after.archives.path? "t" = none := by
  decide +kernel

end Dispatch

end StreamGate
