import Mathlib.Logic.Relation
import StreamGate.Proofs.Transfer.History

/-!
# The lifecycle of a session

From its first step to the moment it is dropped, a session starts its source once,
asks it for chunks as long as these go on, releases it once, and only then gives
the connection back and is recorded.

* `Session.Does.leads`: the phase moves as it should.
* `Session.lifecycle`: what a session does and hands out over any run of steps that
  is cut off by a drop.
-/

namespace StreamGate

/-! ## Phases -/

/-- The moves of a session. -/
inductive Phase.Move : Phase → Phase → Prop
  | begin : Move .headerSent .streaming
  | complete : Move .streaming .completed
  | refuse : Move .headerSent .aborted
  | abort : Move .streaming .aborted

/-- A phase comes after another, with moves between them. -/
def Phase.Leads : Phase → Phase → Prop := Relation.ReflTransGen Phase.Move

/-- A final phase is never left. -/
theorem Phase.Leads.eq_of_isFinal {p q : Phase} (leads : p.Leads q) (final : p.isFinal = true) :
    q = p := by
  rcases Relation.ReflTransGen.cases_head leads with rfl | ⟨r, move, -⟩
  · rfl
  · cases move <;> cases final

/-! ## Calls -/

namespace Call

/-- The source is called. -/
def isOfSource : Call → Bool
  | start _ | nextChunk _ | release => true
  | _ => false

/-- The source answers that it can be asked again. -/
def goesOn : Call → Bool
  | start (.ok ()) => true
  | nextChunk (.ok chunk) => !chunk.done
  | _ => false

/-- The connection is given back. -/
def isRestore : Call → Bool
  | restore _ => true
  | _ => false

/-- The transfer is recorded. -/
def isRecord : Call → Bool
  | completed .. | aborted .. => true
  | _ => false

/-- The event that is emitted. -/
def event? : Call → Option UsageEvent
  | emit e => some e
  | _ => none

end Call

namespace Session

variable {World State : Type} {src : Source World State} {s₀ : Session State}

theorem Opens.leads {s : Session State} {opening : List Call} {source : State}
    (opens : s.Opens src opening source) : s.phase.Leads .streaming := by
  cases opens with
  | streaming phase => exact phase ▸ .refl
  | headerSent phase _ => exact phase ▸ .single .begin

/-- A step moves the phase as a session may. -/
theorem Does.leads {s s' : Session State} {made : List Call} {r : Result}
    (does : s.Does src made r s') : s.phase.Leads s'.phase := by
  cases does with
  | idle _ => exact .refl
  | refused phase _ => exact phase ▸ .single .refuse
  | failed opens _ => exact opens.leads.tail .abort
  | overran opens _ _ => exact opens.leads.tail .abort
  | fellShort opens _ _ _ => exact opens.leads.tail .abort
  | completed opens _ _ _ => exact opens.leads.tail .complete
  | handedOut opens _ _ _ => exact opens.leads

/-! ## Asking the source -/

/-- Calls that ask a source for its content: it is started, once and first, then it
is asked for chunks, and after an answer that ends it there is no further call. -/
structure Orderly (asked : List Call) : Prop where
  order : asked = [] ∨ ∃ (answer : Except TransferError Unit)
    (answers : List (Except TransferError Chunk)), asked = .start answer :: answers.map .nextChunk
  going : ∀ call ∈ asked.dropLast, call.goesOn = true

theorem orderly_nil : Orderly [] := ⟨.inl rfl, fun _ mem => absurd mem List.not_mem_nil⟩

theorem orderly_start (answer : Except TransferError Unit) : Orderly [.start answer] :=
  ⟨.inr ⟨answer, [], rfl⟩, fun _ mem => absurd mem List.not_mem_nil⟩

theorem Partial.goesOn {announced : Nat} {chunks : List Chunk} (partly : Partial announced chunks) :
    ∀ call ∈ pulls chunks, call.goesOn = true := by
  intro call mem
  rcases List.mem_cons.1 mem with rfl | mem
  · rfl
  · obtain ⟨chunk, among, rfl⟩ := List.mem_map.1 mem
    simp [Call.goesOn, partly.more chunk among]

theorem Partial.orderly {announced : Nat} {chunks : List Chunk}
    (partly : Partial announced chunks) : Orderly (pulls chunks) where
  order := .inr ⟨.ok (), chunks.map .ok, by simp [pulls]⟩
  going call mem := partly.goesOn call (List.dropLast_subset _ mem)

/-- Whatever the source answers after chunks that were handed on. -/
theorem Partial.orderly_concat {announced : Nat} {chunks : List Chunk}
    (partly : Partial announced chunks) (answer : Except TransferError Chunk) :
    Orderly (pulls chunks ++ [.nextChunk answer]) where
  order := .inr ⟨.ok (), chunks.map .ok ++ [answer], by simp [pulls]⟩
  going call mem := by
    rw [List.dropLast_concat] at mem
    exact partly.goesOn call mem

theorem Breaks.orderly {announced : Nat} {asked : List Call} {kept withheld : List Chunk}
    {e : TransferError} (breaks : Breaks announced asked kept withheld e) : Orderly asked := by
  cases breaks with
  | refused e => exact orderly_start (.error e)
  | failed partly e => exact partly.orderly_concat (.error e)
  | overran partly _ => exact pulls_concat .. ▸ partly.orderly_concat _
  | fellShort partly _ _ => exact pulls_concat .. ▸ partly.orderly_concat _

/-- Asking neither gives the connection back, nor records anything, nor emits an event. -/
theorem Orderly.asking {asked : List Call} (orderly : Orderly asked) {call : Call}
    (mem : call ∈ asked) :
    call.isRestore = false ∧ call.isRecord = false ∧ call.event? = none := by
  rcases orderly.order with rfl | ⟨answer, answers, rfl⟩
  · exact absurd mem List.not_mem_nil
  · rcases List.mem_cons.1 mem with rfl | mem
    · exact ⟨rfl, rfl, rfl⟩
    · obtain ⟨answer, -, rfl⟩ := List.mem_map.1 mem
      exact ⟨rfl, rfl, rfl⟩

theorem Orderly.filter_isRecord {asked : List Call} (orderly : Orderly asked) :
    asked.filter Call.isRecord = [] :=
  List.filter_eq_nil_iff.2 fun _ mem => by simp [(orderly.asking mem).2.1]

theorem Orderly.filterMap_event? {asked : List Call} (orderly : Orderly asked) :
    asked.filterMap Call.event? = [] :=
  List.filterMap_eq_nil_iff.2 fun _ mem => (orderly.asking mem).2.2

/-! ## Whole lives -/

/-- The record of a transfer that ended in a phase. -/
def record (s : Session State) : Phase → Call
  | .completed => .completed s.kind s.contentLength
  | .aborted => .aborted s.kind .error
  | _ => .aborted s.kind .disconnect

/-- The calls with which a session ends that was dropped in a phase. -/
def ending (s : Session State) : Phase → List Call
  | .completed => s.finish s.contentLength
  | .aborted => s.giveUp .error
  | _ => s.giveUp .disconnect

theorem isOfSource_record (s : Session State) (phase : Phase) :
    (s.record phase).isOfSource = false := by
  cases phase <;> rfl

theorem isRestore_record (s : Session State) (phase : Phase) :
    (s.record phase).isRestore = false := by
  cases phase <;> rfl

theorem isRecord_record (s : Session State) (phase : Phase) :
    (s.record phase).isRecord = true := by
  cases phase <;> rfl

theorem event?_record (s : Session State) (phase : Phase) :
    (s.record phase).event? = none := by
  cases phase <;> rfl

/-- The event that is emitted when a session ends in a phase. -/
def emitted (s : Session State) (phase : Phase) : List UsageEvent :=
  if phase = .completed then s.usage.toList else []

/-- A session that owns its connection ends in the same order in every phase. -/
theorem ending_eq (s : Session State) (owns : s.ownsSlot = true) (phase : Phase) :
    s.ending phase =
      .release :: .restore s.id :: s.record phase :: (s.emitted phase).map .emit := by
  cases phase <;> simp [ending, finish, giveUp, farewell, owns, record, emitted]

/-- At most one error comes out, and nothing comes out after it. -/
def FailsOnce (results : List Result) : Prop :=
  ∃ good idle, (∀ r ∈ good, ∀ e, r ≠ some (.error e)) ∧
    (results = good ∨ ∃ e, results = good ++ some (.error e) :: List.replicate idle none)

/-- The calls and results of a session that got as far as a phase by taking steps
and was dropped then. -/
structure Lifecycle (s : Session State) (calls : List Call) (results : List Result)
    (phase : Phase) : Prop where
  /-- The source is asked in order and released once, and not called again. -/
  source : ∃ asked after, calls = asked ++ .release :: after ∧ Orderly asked ∧
    ∀ call ∈ after, call.isOfSource = false
  /-- The connection is given back once, and not before the source was released. -/
  slot : ∃ before after, calls = before ++ .restore s.id :: after ∧ .release ∈ before ∧
    ∀ call ∈ before ++ after, call.isRestore = false
  /-- The transfer is recorded once. -/
  records : calls.filter Call.isRecord = [s.record phase]
  /-- The event is emitted once, if there is one and the transfer was completed. -/
  events : calls.filterMap Call.event? = if phase = .completed then s.usage.toList else []
  errors : FailsOnce results

/-- Once the source has been asked in order, the rest of a life is the same however
it ended. -/
theorem lifecycle_of_orderly (owns : s₀.ownsSlot = true) {asked : List Call}
    (orderly : Orderly asked) (phase : Phase) {results : List Result}
    (errors : FailsOnce results) :
    Lifecycle s₀ (asked ++ s₀.ending phase) results phase := by
  rw [ending_eq s₀ owns]
  refine ⟨⟨asked, _, rfl, orderly, ?_⟩, ⟨asked ++ [.release],
    s₀.record phase :: (s₀.emitted phase).map .emit, by simp, by simp, ?_⟩, ?_, ?_, errors⟩
  · simp only [List.forall_mem_cons, List.forall_mem_map]
    exact ⟨rfl, isOfSource_record s₀ phase, fun _ _ => rfl⟩
  · simp only [List.forall_mem_append, List.forall_mem_cons, List.forall_mem_map]
    exact ⟨⟨fun _ mem => (orderly.asking mem).1, rfl, fun _ mem => absurd mem List.not_mem_nil⟩,
      isRestore_record s₀ phase, fun _ _ => rfl⟩
  · have events : ((s₀.emitted phase).map Call.emit).filter Call.isRecord = [] := by
      simp [Call.isRecord]
    rw [List.filter_append, orderly.filter_isRecord]
    show (s₀.record phase :: (s₀.emitted phase).map Call.emit).filter Call.isRecord = _
    rw [List.filter_cons_of_pos (isRecord_record s₀ phase), events]
  · rw [List.filterMap_append, orderly.filterMap_event?]
    show (s₀.record phase :: (s₀.emitted phase).map Call.emit).filterMap Call.event? = _
    rw [List.filterMap_cons_none (event?_record s₀ phase), List.filterMap_map]
    exact List.filterMap_some

theorem not_error_of_handing {chunks : List Chunk} :
    ∀ r ∈ handing chunks, ∀ e, r ≠ some (.error e) := by
  intro r mem e
  obtain ⟨chunk, -, rfl⟩ := List.mem_map.1 mem
  simp

/-- A history, cut off by a drop, is a whole life. -/
theorem History.lives (fresh : s₀.phase = .headerSent) (owns : s₀.ownsSlot = true)
    {calls : List Call} {results : List Result} {s : Session State}
    (history : History s₀ calls results s) :
    Lifecycle s₀ (calls ++ if s.phase.isFinal then [] else s.giveUp .disconnect) results
      s.phase := by
  cases history with
  | headerSent =>
    rw [fresh]
    exact lifecycle_of_orderly owns orderly_nil .headerSent ⟨[], 0, by simp, .inl rfl⟩
  | streaming source partly =>
    exact lifecycle_of_orderly owns partly.orderly .streaming
      ⟨_, 0, not_error_of_handing, .inl rfl⟩
  | @completed chunks last source idle partly done all =>
    have orderly : Orderly (pulls (chunks ++ [last])) := pulls_concat .. ▸ partly.orderly_concat _
    show Lifecycle s₀ (_ ++ []) _ .completed
    rw [List.append_nil]
    refine lifecycle_of_orderly owns orderly .completed ⟨_, 0, ?_, .inl rfl⟩
    intro r mem e
    rcases List.mem_append.1 mem with mem | mem
    · exact not_error_of_handing r mem e
    · rcases List.mem_cons.1 mem with rfl | mem
      · cases last.data.isEmpty <;> simp
      · rw [List.eq_of_mem_replicate mem]
        simp
  | @aborted asked kept withheld e source sent idle breaks =>
    show Lifecycle s₀ (_ ++ []) _ .aborted
    rw [List.append_nil]
    exact lifecycle_of_orderly owns breaks.orderly .aborted
      ⟨handing kept, idle, not_error_of_handing, .inr ⟨e, rfl⟩⟩

/-- Whatever the source answers and wherever the run is cut off, a session lives as
it should. -/
theorem lifecycle (src : Source World State) (host : Host World) (id : SessionId)
    (kind : TransferKind) (source : State) (contentLength : Nat) (usage : Option UsageEvent)
    (meanwhile : List (World → World)) (w w' : World) :
    let s₀ : Session State := { id, kind, source, contentLength, usage }
    let (seen, s, _) := s₀.observe src host meanwhile w
    let calls := seen.calls ++ (s.drop src.journaled host.journaled ⟨w', []⟩).calls
    Lifecycle s₀ calls seen.results s.phase ∧
      s.phase.Leads (s.step src host w').2.1.phase ∧
      (s.phase.isFinal = true → (s.step src host w').2.1.phase = s.phase) := by
  intro s₀
  have history : let (seen, s, _) := s₀.observe src host meanwhile w
      History s₀ seen.calls seen.results s := History.observe rfl rfl src host meanwhile w
  generalize s₀.observe src host meanwhile w = answer at history ⊢
  obtain ⟨⟨calls, results⟩, s, w₁⟩ := answer
  obtain ⟨made, -, does⟩ := does_step src host s w' []
  refine ⟨?_, does.leads, does.leads.eq_of_isFinal⟩
  simp only [drop_journaled, List.nil_append]
  exact history.lives rfl rfl

end Session

end StreamGate
