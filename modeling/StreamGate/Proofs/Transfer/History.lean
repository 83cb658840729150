import StreamGate.Proofs.Transfer.Journal

/-!
# Histories of sessions

All that can become of a session that was just made.  `Session.History` gives the
calls, the results and the session after any number of steps: nothing yet, chunks
handed on, a completed transfer or an aborted one.

`Session.History.observe`: whatever the source answers and whatever happens
between the steps, a run has one of these histories.
-/

namespace StreamGate

/-- The bytes of some chunks, in order. -/
def Chunk.join (chunks : List Chunk) : Bytes := chunks.flatMap Chunk.data

theorem Chunk.join_concat (chunks : List Chunk) (chunk : Chunk) :
    join (chunks ++ [chunk]) = join chunks ++ chunk.data := by
  simp [join]

@[simp] theorem Chunk.length_join_concat (chunks : List Chunk) (chunk : Chunk) :
    (join (chunks ++ [chunk])).length = (join chunks).length + chunk.data.length := by
  rw [join_concat, List.length_append]

/-- What a session counts when it gets some chunks. -/
def Chunk.tally (chunks : List Chunk) : Nat := (join chunks).length % UInt64.size

theorem Chunk.tally_of_lt {chunks : List Chunk} (countable : (join chunks).length < UInt64.size) :
    tally chunks = (join chunks).length :=
  Nat.mod_eq_of_lt countable

theorem Chunk.tally_concat (chunks : List Chunk) (chunk : Chunk) :
    tally (chunks ++ [chunk]) = Session.counted (tally chunks) chunk.data.length := by
  rw [tally, tally, length_join_concat, Session.counted, Nat.mod_add_mod]

namespace Session

variable {World State : Type} {src : Source World State} {s₀ : Session State}

/-- The calls of a session that was started and got some chunks. -/
def pulls (chunks : List Chunk) : List Call :=
  .start (.ok ()) :: chunks.map fun chunk => .nextChunk (.ok chunk)

/-- The results of handing chunks on. -/
def handing (chunks : List Chunk) : List Result := chunks.map fun chunk => some (.ok chunk.data)

theorem pulls_concat (chunks : List Chunk) (chunk : Chunk) :
    pulls (chunks ++ [chunk]) = pulls chunks ++ [.nextChunk (.ok chunk)] := by
  simp [pulls]

theorem handing_concat (chunks : List Chunk) (chunk : Chunk) :
    handing (chunks ++ [chunk]) = handing chunks ++ [some (.ok chunk.data)] := by
  simp [handing]

/-- Chunks that were handed on: more was to follow, and they were not too much. -/
structure Partial (announced : Nat) (chunks : List Chunk) : Prop where
  more : ∀ chunk ∈ chunks, chunk.done = false
  fits : Chunk.tally chunks ≤ announced

theorem partial_nil (announced : Nat) : Partial announced [] :=
  ⟨fun _ mem => absurd mem List.not_mem_nil, Nat.zero_le _⟩

theorem Partial.concat {announced : Nat} {chunks : List Chunk} {chunk : Chunk}
    (partly : Partial announced chunks) (more : chunk.done = false)
    (fits : Chunk.tally (chunks ++ [chunk]) ≤ announced) :
    Partial announced (chunks ++ [chunk]) where
  more := by
    intro c mem
    rcases List.mem_append.1 mem with mem | mem
    · exact partly.more c mem
    · rw [List.mem_singleton.1 mem]
      exact more
  fits := fits

/-- The calls to a source after which the session gives up, with the chunks that
were handed on before, those withheld, and the error. -/
inductive Breaks (announced : Nat) : List Call → List Chunk → List Chunk → TransferError → Prop
  | refused (e : TransferError) : Breaks announced [.start (.error e)] [] [] e
  | failed {kept : List Chunk} (partly : Partial announced kept) (e : TransferError) :
      Breaks announced (pulls kept ++ [.nextChunk (.error e)]) kept [] e
  | overran {kept : List Chunk} {chunk : Chunk} (partly : Partial announced kept)
      (much : announced < Chunk.tally (kept ++ [chunk])) :
      Breaks announced (pulls (kept ++ [chunk])) kept [chunk] (.overrun announced)
  | fellShort {kept : List Chunk} {chunk : Chunk} (partly : Partial announced kept)
      (done : chunk.done = true) (little : Chunk.tally (kept ++ [chunk]) < announced) :
      Breaks announced (pulls (kept ++ [chunk])) kept [chunk]
        (.truncated (announced - Chunk.tally (kept ++ [chunk])))

/-- The calls, the results and the session after some steps from `s₀`. -/
inductive History (s₀ : Session State) : List Call → List Result → Session State → Prop
  | headerSent : History s₀ [] [] s₀
  | streaming {chunks : List Chunk} (source : State) (partly : Partial s₀.contentLength chunks) :
      History s₀ (pulls chunks) (handing chunks)
        { s₀ with source, sent := Chunk.tally chunks, phase := .streaming }
  | completed {chunks : List Chunk} {last : Chunk} (source : State) (idle : Nat)
      (partly : Partial s₀.contentLength chunks) (done : last.done = true)
      (all : Chunk.tally (chunks ++ [last]) = s₀.contentLength) :
      History s₀ (pulls (chunks ++ [last]) ++ s₀.finish s₀.contentLength)
        (handing chunks ++ (if last.data.isEmpty then none else some (.ok last.data)) ::
          List.replicate idle none)
        { s₀ with source, sent := s₀.contentLength, phase := .completed, ownsSlot := false,
                  usage := none }
  | aborted {asked : List Call} {kept withheld : List Chunk} {e : TransferError} (source : State)
      (sent idle : Nat) (breaks : Breaks s₀.contentLength asked kept withheld e) :
      History s₀ (asked ++ s₀.giveUp .error)
        (handing kept ++ some (.error e) :: List.replicate idle none)
        { s₀ with source, sent, phase := .aborted, ownsSlot := false }

namespace History

/-- A step of a session that has handed on some chunks and is not over.  Whatever it asks
for first, the calls before its chunk are those of `pulls`. -/
theorem ask {chunks : List Chunk} {calls made : List Call} {r : Result} {source : State}
    {phase : Phase} {s' : Session State} (partly : Partial s₀.contentLength chunks)
    (going : phase.isFinal = false)
    (fresh : phase = .headerSent → calls = [] ∧ chunks = [])
    (asked : phase = .streaming → calls = pulls chunks)
    (does : { s₀ with source, sent := Chunk.tally chunks, phase }.Does src made r s') :
    History s₀ (calls ++ made) (handing chunks ++ [r]) s' := by
  have opened {opening : List Call} {source' : State}
      (opens : { s₀ with source, sent := Chunk.tally chunks, phase }.Opens src opening
        source') : calls ++ opening = pulls chunks := by
    cases opens with
    | streaming phase => rw [List.append_nil, asked phase]
    | headerSent phase _ =>
      obtain ⟨rfl, rfl⟩ := fresh phase
      rfl
  cases does with
  | idle final =>
    rw [going] at final
    cases final
  | refused phase answer =>
    obtain ⟨rfl, rfl⟩ := fresh phase
    exact .aborted _ _ 0 (.refused _)
  | failed opens answer =>
    rw [← List.append_assoc, opened opens, List.append_cons]
    exact .aborted _ _ 0 (.failed partly _)
  | overran opens answer much =>
    rw [← List.append_assoc, opened opens, List.append_cons, ← pulls_concat]
    rw [← Chunk.tally_concat] at much
    exact .aborted _ _ 0 (.overran partly much)
  | fellShort opens answer done little =>
    rw [← List.append_assoc, opened opens, List.append_cons, ← pulls_concat]
    rw [← Chunk.tally_concat] at little ⊢
    exact .aborted _ _ 0 (.fellShort partly done little)
  | completed opens answer done all =>
    rw [← List.append_assoc, opened opens, List.append_cons, ← pulls_concat]
    rw [← Chunk.tally_concat] at all
    exact .completed _ 0 partly done all
  | handedOut opens answer more fits =>
    rw [← Chunk.tally_concat] at fits ⊢
    rw [← List.append_assoc, opened opens, ← pulls_concat, ← handing_concat]
    exact .streaming _ (partly.concat more fits)

/-- A session that is over does nothing more. -/
theorem does_of_isFinal {s s' : Session State} {made : List Call} {r : Result}
    (final : s.phase.isFinal = true) (does : s.Does src made r s') :
    made = [] ∧ r = none ∧ s' = s := by
  have closed {opening : List Call} {source : State} (opens : s.Opens src opening source) :
      False := by
    cases opens with
    | streaming phase => simp [phase, Phase.isFinal] at final
    | headerSent phase _ => simp [phase, Phase.isFinal] at final
  cases does with
  | idle => exact ⟨rfl, rfl, rfl⟩
  | refused phase _ => simp [phase, Phase.isFinal] at final
  | failed opens _ => exact (closed opens).elim
  | overran opens _ _ => exact (closed opens).elim
  | fellShort opens _ _ _ => exact (closed opens).elim
  | completed opens _ _ _ => exact (closed opens).elim
  | handedOut opens _ _ _ => exact (closed opens).elim

theorem contentLength {calls : List Call} {results : List Result} {s : Session State}
    (history : History s₀ calls results s) : s.contentLength = s₀.contentLength := by
  cases history <;> rfl

/-- A step carries a history on. -/
theorem step (fresh : s₀.phase = .headerSent) (nothing : s₀.sent = 0) {calls made : List Call}
    {results : List Result} {s s' : Session State} {r : Result}
    (history : History s₀ calls results s) (does : s.Does src made r s') :
    History s₀ (calls ++ made) (results ++ [r]) s' := by
  cases history with
  | headerSent =>
    have does' : { s₀ with source := s₀.source, sent := Chunk.tally [],
                           phase := .headerSent }.Does src made r s' := by
      rw [← fresh, show Chunk.tally [] = s₀.sent from nothing.symm]
      exact does
    exact ask (partial_nil _) rfl (fun _ => ⟨rfl, rfl⟩) (fun h => by cases h) does'
  | streaming source partly =>
    exact ask partly rfl (fun h => by cases h) (fun _ => rfl) does
  | completed source idle partly done all =>
    obtain ⟨rfl, rfl, rfl⟩ := does_of_isFinal rfl does
    rw [List.append_nil, List.append_assoc, List.cons_append, ← List.replicate_succ']
    exact .completed source (idle + 1) partly done all
  | aborted source sent idle breaks =>
    obtain ⟨rfl, rfl, rfl⟩ := does_of_isFinal rfl does
    rw [List.append_nil, List.append_assoc, List.cons_append, ← List.replicate_succ']
    exact .aborted source sent (idle + 1) breaks

/-- Whatever the source answers and whatever happens between the steps, a run has a
history. -/
theorem observe (fresh : s₀.phase = .headerSent) (nothing : s₀.sent = 0)
    (src : Source World State) (host : Host World) (meanwhile : List (World → World))
    (w : World) :
    let (seen, s, _) := s₀.observe src host meanwhile w
    History s₀ seen.calls seen.results s :=
  observe_keeps (History s₀) (step fresh nothing) host meanwhile .headerSent w

end History

end Session

end StreamGate
