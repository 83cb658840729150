import StreamGate.Proofs.Transfer.History
import StreamGate.Transfer.Script

/-!
# Byte accounts of a session

What a session hands out, against what the source gave and what was announced.

A session counts in 64 bits.  `Session.InOrder` says what is handed out whatever the
count says; the rest holds as long as the source gave fewer than 2 to the 64 bytes.

* `Session.Accounted` is the account after any number of steps, and
  `Session.Weighed` says what a step makes of the next chunk.
* `Session.accounting`: they hold of every source, every announced length and every
  run.
* `Session.count_starts_over`: with more bytes, a session hands out more than was
  announced.
-/

namespace StreamGate

/-- The chunk that the source gives. -/
def Call.chunk? : Call → Option Chunk
  | nextChunk (.ok chunk) => some chunk
  | _ => none

namespace Session

variable {World State : Type} {src : Source World State} {s₀ : Session State}

/-- The chunks that the source gave, in order. -/
def pulled (calls : List Call) : List Chunk := calls.filterMap Call.chunk?

/-! ## Reading calls and results -/

@[simp] theorem pulled_pulls (chunks : List Chunk) : pulled (pulls chunks) = chunks := by
  have given : Call.chunk? ∘ (fun chunk => .nextChunk (.ok chunk)) = some := rfl
  rw [pulled, pulls, List.filterMap_cons_none rfl, List.filterMap_map, given, List.filterMap_some]

theorem pulled_cons (call : Call) (calls : List Call) :
    pulled (call :: calls) = call.chunk?.toList ++ pulled calls := by
  cases h : call.chunk? <;> simp [pulled, h]

@[simp] theorem pulled_append (calls more : List Call) :
    pulled (calls ++ more) = pulled calls ++ pulled more :=
  List.filterMap_append

/-- A call that gives no chunk. -/
theorem pulled_silent (calls : List Call) (call : Call) (silent : call.chunk? = none) :
    pulled (calls ++ [call]) = pulled calls := by
  rw [pulled_append, pulled_cons, silent]
  exact List.append_nil _

@[simp] theorem pulled_giveUp (s : Session State) (reason : AbortReason) :
    pulled (s.giveUp reason) = [] := by
  cases owns : s.ownsSlot <;> simp [pulled, giveUp, farewell, owns, Call.chunk?]

@[simp] theorem pulled_finish (s : Session State) (bytes : Nat) :
    pulled (s.finish bytes) = [] := by
  cases owns : s.ownsSlot <;> simp [pulled, finish, farewell, owns, Call.chunk?]

@[simp] theorem handed_handing (chunks : List Chunk) :
    (handing chunks).flatMap Result.handed = Chunk.join chunks := by
  simp [handing, Chunk.join, List.flatMap_map, Result.handed]

@[simp] theorem handed_idle (n : Nat) :
    (List.replicate n none).flatMap Result.handed = [] := by
  simp [List.flatMap_eq_nil_iff, Result.handed]

/-! ## The account -/

/-- What is handed out of the chunks that the source gave. -/
structure InOrder (seen : Seen) (s : Session State) : Prop where
  /-- The chunks of the source are handed out in order.  At most the last one is
  withheld, and then the session gave up. -/
  handed : ∃ kept withheld, pulled seen.calls = kept ++ withheld ∧
    seen.handed = Chunk.join kept ∧ withheld.length ≤ 1 ∧ (withheld ≠ [] → s.phase = .aborted)
  /-- A session that has not given up counts the bytes that it handed out, in 64 bits. -/
  count : s.phase ≠ .aborted → s.sent = seen.handed.length % UInt64.size

/-- The account of a session after some steps. -/
structure Accounted (announced : Nat) (seen : Seen) (s : Session State) : Prop where
  /-- No more is handed out than was announced. -/
  within : seen.handed.length ≤ announced
  /-- A session that has not given up counts the bytes that it handed out. -/
  sent : s.phase ≠ .aborted → s.sent = seen.handed.length
  /-- The transfer is complete once the last chunk brings the total to what was
  announced, and only then. -/
  completed : s.phase = .completed ↔ ∃ chunks last, pulled seen.calls = chunks ++ [last] ∧
    last.done = true ∧ (Chunk.join chunks).length + last.data.length = announced

/-- What a step that gets a chunk comes to when `before` bytes were handed out. -/
structure Weighed (announced before : Nat) (chunk : Chunk) (r : Result) (s' : Session State) :
    Prop where
  /-- A chunk that is too much is withheld. -/
  overrun : announced < before + chunk.data.length →
    r = some (.error (.overrun announced)) ∧ s'.phase = .aborted
  /-- A last chunk that is not enough is withheld. -/
  truncated : chunk.done = true → before + chunk.data.length < announced →
    r = some (.error (.truncated (announced - (before + chunk.data.length)))) ∧
      s'.phase = .aborted
  /-- Any other chunk is handed out. -/
  handed : before + chunk.data.length ≤ announced →
    (chunk.done = true → before + chunk.data.length = announced) →
    r.handed = chunk.data ∧ (∀ e, r ≠ some (.error e)) ∧
      s'.phase = if chunk.done then .completed else .streaming

/-- Chunks after which more was to follow do not end in a last one. -/
theorem Partial.not_last {announced : Nat} {chunks before : List Chunk} {last : Chunk}
    (partly : Partial announced chunks) (ends : chunks = before ++ [last]) :
    last.done ≠ true := by
  rw [partly.more last (by simp [ends])]
  simp

/-- When a session gives up, the chunks that it got are those that it kept and at
most one that it withheld. -/
theorem Breaks.pulled {announced : Nat} {asked : List Call} {kept withheld : List Chunk}
    {e : TransferError} (breaks : Breaks announced asked kept withheld e) :
    pulled asked = kept ++ withheld ∧ withheld.length ≤ 1 := by
  cases breaks with
  | refused e => exact ⟨rfl, by simp⟩
  | failed partly e => exact ⟨by rw [pulled_append, pulled_pulls]; rfl, by simp⟩
  | overran partly much => exact ⟨pulled_pulls _, by simp⟩
  | fellShort partly done little => exact ⟨pulled_pulls _, by simp⟩

/-- What it kept is no more than was announced. -/
theorem Breaks.within {announced : Nat} {asked : List Call} {kept withheld : List Chunk}
    {e : TransferError} (breaks : Breaks announced asked kept withheld e)
    (countable : (Chunk.join (kept ++ withheld)).length < UInt64.size) :
    (Chunk.join kept).length ≤ announced := by
  rw [Chunk.join, List.flatMap_append, List.length_append] at countable
  have fewer : (Chunk.join kept).length < UInt64.size :=
    Nat.lt_of_le_of_lt (Nat.le_add_right ..) countable
  rw [← Chunk.tally_of_lt fewer]
  cases breaks with
  | refused e => exact Nat.zero_le _
  | failed partly e => exact partly.fits
  | overran partly much => exact partly.fits
  | fellShort partly done little => exact partly.fits

/-- The chunks that it got do not make up what was announced. -/
theorem Breaks.incomplete {announced : Nat} {asked : List Call} {kept withheld : List Chunk}
    {e : TransferError} (breaks : Breaks announced asked kept withheld e)
    {chunks : List Chunk} {last : Chunk} (ends : kept ++ withheld = chunks ++ [last])
    (countable : (Chunk.join (kept ++ withheld)).length < UInt64.size)
    (done : last.done = true) :
    (Chunk.join chunks).length + last.data.length ≠ announced := by
  rw [← Chunk.length_join_concat, ← ends, ← Chunk.tally_of_lt countable]
  cases breaks with
  | refused e => simp at ends
  | failed partly e =>
    rw [List.append_nil] at ends
    exact absurd done (partly.not_last ends)
  | overran partly much => exact Nat.ne_of_gt much
  | fellShort partly done little => exact Nat.ne_of_lt little

theorem handed_completed (s : Session State) (chunks : List Chunk) (last : Chunk) (idle : Nat) :
    Seen.handed ⟨pulls (chunks ++ [last]) ++ s.finish s.contentLength,
      handing chunks ++ (if last.data.isEmpty then none else some (.ok last.data)) ::
        List.replicate idle none⟩ = Chunk.join (chunks ++ [last]) := by
  cases h : last.data <;> simp [Seen.handed, h, Result.handed, Chunk.join]

theorem handed_aborted (s : Session State) (asked : List Call) (kept : List Chunk)
    (e : TransferError) (idle : Nat) :
    Seen.handed ⟨asked ++ s.giveUp .error,
      handing kept ++ some (.error e) :: List.replicate idle none⟩ = Chunk.join kept := by
  simp [Seen.handed, Result.handed]

/-- Whatever the source answers, its chunks are handed out in order. -/
theorem History.inOrder (nothing : s₀.sent = 0) {calls : List Call} {results : List Result}
    {s : Session State} (history : History s₀ calls results s) : InOrder ⟨calls, results⟩ s := by
  cases history with
  | headerSent => exact ⟨⟨[], [], rfl, rfl, by simp, fun h => absurd rfl h⟩, fun _ => nothing⟩
  | @streaming chunks source partly =>
    refine ⟨⟨chunks, [], by simp, handed_handing _, by simp, fun h => absurd rfl h⟩, fun _ => ?_⟩
    simp [Seen.handed, Chunk.tally]
  | @completed chunks last source idle partly done all =>
    refine ⟨⟨chunks ++ [last], [], by simp, handed_completed .., by simp,
      fun h => absurd rfl h⟩, fun _ => ?_⟩
    rw [handed_completed]
    exact all.symm
  | @aborted asked kept withheld e source sent idle breaks =>
    obtain ⟨got, one⟩ := breaks.pulled
    exact ⟨⟨kept, withheld, by simp [got], handed_aborted .., one, fun _ => rfl⟩,
      fun h => absurd rfl h⟩

/-- As long as the bytes of the source can be counted, the account is right. -/
theorem History.accounted (fresh : s₀.phase = .headerSent) (nothing : s₀.sent = 0)
    {calls : List Call} {results : List Result} {s : Session State}
    (history : History s₀ calls results s)
    (countable : (Chunk.join (Session.pulled calls)).length < UInt64.size) :
    Accounted s₀.contentLength ⟨calls, results⟩ s := by
  have count := (history.inOrder nothing).count
  cases history with
  | headerSent =>
    refine ⟨by simp [Seen.handed], fun _ => nothing, ?_⟩
    simp [fresh, Session.pulled]
  | @streaming chunks source partly =>
    rw [pulled_pulls] at countable
    have handed : Seen.handed ⟨pulls chunks, handing chunks⟩ = Chunk.join chunks :=
      handed_handing _
    refine ⟨?_, fun h => (count h).trans ?_, ?_⟩
    · rw [handed, ← Chunk.tally_of_lt countable]
      exact partly.fits
    · rw [handed, Nat.mod_eq_of_lt countable]
    · constructor
      · intro h
        cases h
      · rintro ⟨before, last, ends, done, -⟩
        exact absurd done (partly.not_last (by simpa using ends))
  | @completed chunks last source idle partly done all =>
    rw [pulled_append, pulled_pulls, pulled_finish, List.append_nil] at countable
    have whole := Chunk.tally_of_lt countable
    rw [all] at whole
    refine ⟨?_, fun _ => ?_, ?_⟩
    · rw [handed_completed]
      exact Nat.le_of_eq whole.symm
    · rw [handed_completed]
      exact whole
    · rw [Chunk.length_join_concat] at whole
      exact ⟨fun _ => ⟨chunks, last, by simp, done, whole.symm⟩, fun _ => rfl⟩
  | @aborted asked kept withheld e source sent idle breaks =>
    obtain ⟨got, -⟩ := breaks.pulled
    rw [pulled_append, got, pulled_giveUp, List.append_nil] at countable
    refine ⟨?_, fun h => absurd rfl h, ?_⟩
    · rw [handed_aborted]
      exact breaks.within countable
    · constructor
      · intro h
        cases h
      · rintro ⟨chunks, last, ends, done, all⟩
        have ends : kept ++ withheld = chunks ++ [last] := by simpa [got] using ends
        exact absurd all (breaks.incomplete ends countable done)

/-! ## The next chunk -/

/-- The chunk that a step gets is the answer of the source. -/
theorem Opens.eq_of_pulled {s : Session State} {opening ending : List Call} {source : State}
    (opens : s.Opens src opening source) {answer : Except TransferError Chunk}
    (closing : pulled ending = []) {chunk : Chunk}
    (got : chunk ∈ pulled (opening ++ .nextChunk answer :: ending)) : answer = .ok chunk := by
  have before : pulled opening = [] := by
    cases opens <;> rfl
  rw [pulled_append, before, pulled_cons, closing] at got
  cases answer with
  | error e => simp [Call.chunk?] at got
  | ok given =>
    have same : chunk = given := by simpa [Call.chunk?] using got
    rw [same]

/-- What a step makes of a chunk whose bytes can be counted. -/
theorem Does.weighed {s s' : Session State} {made : List Call} {r : Result}
    (does : s.Does src made r s') {chunk : Chunk} (got : chunk ∈ pulled made) {before : Nat}
    (total : counted s.sent chunk.data.length = before + chunk.data.length) :
    Weighed s.contentLength before chunk r s' := by
  cases does with
  | idle final => exact absurd got List.not_mem_nil
  | refused phase answer =>
    rw [pulled_cons, pulled_giveUp] at got
    exact absurd got List.not_mem_nil
  | failed opens answer => cases opens.eq_of_pulled (pulled_giveUp _ _) got
  | overran opens answer much =>
    cases opens.eq_of_pulled (pulled_giveUp _ _) got
    rw [total] at much
    exact ⟨fun _ => ⟨rfl, rfl⟩, fun _ little => by omega, fun fits => by omega⟩
  | fellShort opens answer done little =>
    cases opens.eq_of_pulled (pulled_giveUp _ _) got
    rw [total] at little ⊢
    refine ⟨fun much => by omega, fun _ _ => ⟨rfl, rfl⟩, fun _ all => ?_⟩
    have := all done
    omega
  | completed opens answer done all =>
    cases opens.eq_of_pulled (pulled_finish _ _) got
    rw [total] at all
    refine ⟨fun much => by omega, fun _ little => by omega, fun _ _ => ?_⟩
    cases h : chunk.data <;> simp [Result.handed, done]
  | handedOut opens answer more fits =>
    cases opens.eq_of_pulled rfl got
    rw [total] at fits
    refine ⟨fun much => by omega, fun done _ => ?_, fun _ _ => ?_⟩
    · rw [more] at done
      cases done
    · simp [Result.handed, more]

/-- Whatever the source answers, its chunks are handed out in order.  After any number
of steps in which it gave fewer than 2 to the 64 bytes the account is right, and so is
what the next step makes of a chunk with which there are still fewer. -/
theorem accounting (src : Source World State) (host : Host World) (id : SessionId)
    (kind : TransferKind) (source : State) (contentLength : Nat) (usage : Option UsageEvent)
    (meanwhile : List (World → World)) (w w' : World) :
    let s₀ : Session State := { id, kind, source, contentLength, usage }
    let (seen, s, _) := s₀.observe src host meanwhile w
    let (r, s', j) := s.step src.journaled host.journaled ⟨w', []⟩
    InOrder seen s ∧
      ((Chunk.join (pulled seen.calls)).length < UInt64.size → Accounted contentLength seen s) ∧
      ∀ chunk ∈ pulled j.calls, seen.handed.length + chunk.data.length < UInt64.size →
        Weighed contentLength seen.handed.length chunk r s' := by
  intro s₀
  have history : let (seen, s, _) := s₀.observe src host meanwhile w
      History s₀ seen.calls seen.results s := History.observe rfl rfl src host meanwhile w
  generalize s₀.observe src host meanwhile w = answer at history ⊢
  obtain ⟨⟨calls, results⟩, s, w₁⟩ := answer
  have inOrder : InOrder ⟨calls, results⟩ s := history.inOrder rfl
  obtain ⟨made, noted, does⟩ := does_step src host s w' []
  simp only [noted, List.nil_append]
  refine ⟨inOrder, history.accounted rfl rfl, fun chunk got countable => ?_⟩
  have running : s.phase ≠ .aborted := by
    intro ended
    obtain ⟨nothing, -, -⟩ := History.does_of_isFinal (by rw [ended]; rfl) does
    simp [nothing, Session.pulled] at got
  have total : counted s.sent chunk.data.length =
      (Seen.handed ⟨calls, results⟩).length + chunk.data.length := by
    rw [inOrder.count running, counted, Nat.mod_add_mod, Nat.mod_eq_of_lt countable]
  have weighed := does.weighed got total
  rw [history.contentLength] at weighed
  exact weighed

/-- Of four announced bytes two are handed out; then come three more. -/
theorem accounting_of_overrun :
    let script : Script := { results := [.ok (.more [1, 2]), .ok (.last [3, 4, 5])] }
    let s₀ : Session Script := { id := 1, kind := .file, source := script, contentLength := 4 }
    let (seen, s, _) := s₀.observe Script.source .quiet [fun w => w] ()
    let (r, s', j) := s.step Script.source.journaled Host.quiet.journaled ⟨(), []⟩
    Accounted 4 seen s ∧ seen.handed = [1, 2] ∧ pulled j.calls = [.last [3, 4, 5]] ∧
      Weighed 4 2 (.last [3, 4, 5]) r s' ∧ r = some (.error (.overrun 4)) := by
  intro script s₀
  obtain ⟨-, accounted, weighed⟩ :=
    accounting Script.source .quiet 1 .file script 4 none [fun w => w] () ()
  have weighed := weighed (.last [3, 4, 5]) (List.mem_singleton.2 rfl) (by decide)
  exact ⟨accounted (by decide), rfl, rfl, weighed, (weighed.overrun (by decide)).1⟩

/-! ## More bytes than can be counted -/

/-- Three chunks of 2 to the 64 bytes altogether bring the count back to nothing. -/
theorem observe_of_many {a b c : Bytes} (first : a.length = UInt64.size / 2 - 1)
    (second : b.length = UInt64.size / 2 - 1) (third : c.length = 2) :
    let script : Script := { results := [.ok (.more a), .ok (.more b), .ok (.more c)] }
    let s₀ : Session Script :=
      { id := 1, kind := .file, source := script, contentLength := UInt64.size - 1 }
    let (seen, s, _) := s₀.observe Script.source .quiet (List.replicate 3 fun w => w) ()
    seen.handed.length = UInt64.size ∧ s.phase = .streaming ∧ s.sent = 0 := by
  have one : counted 0 a.length = 9223372036854775807 := by
    rw [first]
    rfl
  have two : counted 9223372036854775807 b.length = 18446744073709551614 := by
    rw [second]
    rfl
  have three : counted 18446744073709551614 c.length = 0 := by
    rw [third]
    rfl
  have total : a.length + (b.length + c.length) = UInt64.size := by
    rw [first, second, third]
    rfl
  simpa [observe, step, pull, Source.journaled, Script.source, Script.next, Chunk.more,
    Seen.handed, Result.handed, one, two, three] using total

/-- A session that announces the most that can be announced, and whose source gives one
byte more, hands out all of it. -/
theorem count_starts_over :
    let most : Bytes := List.replicate (UInt64.size / 2 - 1) 0
    let script : Script := { results := [.ok (.more most), .ok (.more most), .ok (.more [0, 0])] }
    let s₀ : Session Script :=
      { id := 1, kind := .file, source := script, contentLength := UInt64.size - 1 }
    let (seen, s, _) := s₀.observe Script.source .quiet (List.replicate 3 fun w => w) ()
    seen.handed.length = UInt64.size ∧ s.phase = .streaming ∧ s.sent = 0 := by
  intro most
  have length : most.length = UInt64.size / 2 - 1 := by
    rw [show most = List.replicate (UInt64.size / 2 - 1) 0 from rfl, List.length_replicate]
  clear_value most
  exact observe_of_many length length rfl

end Session

end StreamGate
