import Mathlib.Logic.Function.Iterate
import StreamGate.Proofs.Storage.BlockPlaces

/-!
# Calls that put blocks side by side

Calls that put blocks into one directory take turns, a step at a time.  Every call for a
block writes to the same temporary file.

* `Crew.run`: calls that take their steps in some order.
* `Writer.put_eq_iterate`: a call whose steps nobody comes between is a put.
* `Writer.Effect`: all that a step of a call can do.
* `Crew.Afloat`: a file that a call has open is at the places of the call's block and nowhere
  else, however the calls take turns.
-/

namespace StreamGate

/-! ## Calls that take turns -/

/-- A call that puts a block, whose data is written in pieces. -/
structure PutCall where
  ref : StoreRef
  id : BlockId
  pieces : List Bytes

/-- All the data of a call. -/
def PutCall.data (call : PutCall) : Bytes := call.pieces.flatten

/-- The block of a call. -/
def PutCall.block (call : PutCall) : String × BlockId := (call.ref.storeId, call.id)

/-- A call part of the way through. -/
structure Writer where
  call : PutCall
  put : BlockWrite
  todo : List BlockWrite.Step
  /-- The error that the call has returned. -/
  failure : Option IoError := none

namespace Writer

/-- A call that has not begun. -/
def start (d : Directory) (call : PutCall) : Writer where
  call := call
  put := d.beginWrite call.ref call.id
  todo := BlockWrite.steps call.pieces

/-- Takes one step; one that fails is the last. -/
def advance (w : Writer) (fs : FileSystem) : Writer × FileSystem :=
  match w.todo with
  | [] => (w, fs)
  | step :: rest =>
    match w.put.step fs step with
    | (.ok (), put, fs) => ({ w with put, todo := rest }, fs)
    | (.error e, put, fs) => ({ w with put, todo := [], failure := some e }, fs)

/-- What a call that has ended returns. -/
def outcome (w : Writer) : Except IoError Unit :=
  match w.failure with
  | none => .ok ()
  | some e => .error e

/-- The file that a call is writing, with the position it has reached. -/
def open? (w : Writer) : Option (Nat × Nat) :=
  match w.put.file, w.todo with
  | some ⟨.file n, position⟩, _ :: _ => some (n, position)
  | _, _ => none

/-- The call is writing a block to its temporary file. -/
def isWriting (k : String × BlockId) (w : Writer) : Bool := w.call.block = k && w.open?.isSome

end Writer

/-- Calls that put blocks into one directory. -/
structure Crew where
  writers : List Writer
  files : FileSystem

namespace Crew

def start (d : Directory) (calls : List PutCall) (fs : FileSystem) : Crew :=
  ⟨calls.map (Writer.start d), fs⟩

/-- One call takes a step. -/
def advance (c : Crew) (i : Nat) : Crew :=
  match c.writers[i]? with
  | none => c
  | some w => ⟨c.writers.set i (w.advance c.files).1, (w.advance c.files).2⟩

/-- The calls take steps, each time the one that the schedule names. -/
def run (c : Crew) (schedule : List Nat) : Crew := schedule.foldl advance c

/-- How many calls are writing a block to its temporary file. -/
def writing (k : String × BlockId) (c : Crew) : Nat := c.writers.countP (Writer.isWriting k)

end Crew

/-! ## What a step can do -/

namespace Writer

/-- How far a call can be. -/
inductive Stage (d : Directory) (base : Place) (fs : FileSystem) : Writer → Prop
  | waiting (call : PutCall) :
      Stage d base fs ⟨call, d.writing call.ref call.id none, BlockWrite.steps call.pieces, none⟩
  | grouped (call : PutCall)
      (there : fs.node? (Directory.groupAt base call.block) = some .directory) :
      Stage d base fs ⟨call, d.writing call.ref call.id none,
        .createTemporary :: (call.pieces.map .append ++ [.sync, .publish]), none⟩
  | writing (call : PutCall) (n : Nat) (done rest : List Bytes) (cut : call.pieces = done ++ rest) :
      Stage d base fs ⟨call, d.writing call.ref call.id (some ⟨.file n, done.flatten.length⟩),
        rest.map .append ++ [.sync, .publish], none⟩
  | synced (call : PutCall) (n : Nat) :
      Stage d base fs ⟨call, d.writing call.ref call.id (some ⟨.file n, call.data.length⟩),
        [.publish], none⟩
  | ended (call : PutCall) (put : BlockWrite) : Stage d base fs ⟨call, put, [], none⟩
  | failed (call : PutCall) (put : BlockWrite) : Stage d base fs ⟨call, put, [], some .notFound⟩

/-- All that a step of a call can do. -/
inductive Effect (base : Place) (fs : FileSystem) (w w' : Writer) : FileSystem → Prop
  /-- Nothing changes. -/
  | nothing (file : w'.open? = w.open?) (fine : w'.failure = none) : Effect base fs w w' fs
  /-- Directories are made. -/
  | made {fs'} (before : w.open? = none) (after : w'.open? = none) (fine : w'.failure = none)
      (made : fs.Made fs' base [w.call.ref.storeId, w.call.id.group]) : Effect base fs w w' fs'
  /-- The temporary file is opened and empty. -/
  | created {fs'} (n : Nat) (before : w.open? = none) (after : w'.open? = some (n, 0))
      (fine : w'.failure = none)
      (created : fs.Created fs' (Directory.temporaryAt base w.call.block) n) :
      Effect base fs w w' fs'
  /-- The next piece goes to the open file. -/
  | wrote (n position : Nat) (bytes : Bytes) (before : w.open? = some (n, position))
      (after : w'.open? = some (n, position + bytes.length)) (fine : w'.failure = none)
      (fits : position + bytes.length ≤ w.call.data.length)
      (next : w.call.data.take (position + bytes.length) = w.call.data.take position ++ bytes) :
      Effect base fs w w' (fs.setContent n (FileSystem.overwrite (fs.content n) position bytes))
  /-- What is at the temporary name gets the block's name. -/
  | published {fs'} (n m : Nat) (before : w.open? = some (n, w.call.data.length))
      (after : w'.todo = []) (fine : w'.failure = none)
      (held : fs.node? (Directory.temporaryAt base w.call.block) = some (.file m))
      (renamed : fs.Renamed fs' (Directory.temporaryAt base w.call.block)
        (Directory.blockAt base w.call.block) m) : Effect base fs w w' fs'
  /-- Nothing is at the temporary name any more. -/
  | missed (n position : Nat) (before : w.open? = some (n, position)) (after : w'.todo = [])
      (failed : w'.failure = some .notFound)
      (gone : fs.node? (Directory.temporaryAt base w.call.block) = none) : Effect base fs w w' fs

variable {d : Directory} {base : Place} {stores : String → Prop} {fs fs' : FileSystem}
  {w w' : Writer}

theorem open?_of_ended (ended : w.todo = []) : w.open? = none := by
  unfold open?
  rw [ended]
  split
  · contradiction
  · rfl

theorem isWriting_iff {k : String × BlockId} :
    w.isWriting k ↔ w.call.block = k ∧ ∃ n position, w.open? = some (n, position) := by
  unfold isWriting
  rw [Bool.and_eq_true, decide_eq_true_iff, Option.isSome_iff_exists]
  exact and_congr_right fun _ => ⟨fun ⟨⟨n, position⟩, there⟩ => ⟨n, position, there⟩,
    fun ⟨n, position, there⟩ => ⟨⟨n, position⟩, there⟩⟩

theorem not_isWriting_of_ended {k : String × BlockId} (ended : w.todo = []) :
    ¬ w.isWriting k = true := fun writing => by
  obtain ⟨-, m, position, there⟩ := isWriting_iff.1 writing
  rw [open?_of_ended ended] at there
  cases there

/-- A call that has failed takes no more steps. -/
theorem Stage.todo_of_failure (stage : Stage d base fs w) (failed : w.failure ≠ none) :
    w.todo = [] := by
  cases stage with
  | ended => rfl
  | failed => rfl
  | _ => exact absurd rfl failed

theorem Stage.mono (stage : Stage d base fs w)
    (keeps : ∀ p, fs.node? p = some .directory → fs'.node? p = some .directory) :
    Stage d base fs' w := by
  cases stage with
  | waiting call => exact .waiting call
  | grouped call there => exact .grouped call (keeps _ there)
  | writing call n done rest cut => exact .writing call n done rest cut
  | synced call n => exact .synced call n
  | ended call put => exact .ended call put
  | failed call put => exact .failed call put

theorem advance_of_step {step : BlockWrite.Step} {rest : List BlockWrite.Step}
    {call : PutCall} {put put' : BlockWrite}
    (stepped : put.step fs step = (.ok (), put', fs')) :
    advance ⟨call, put, step :: rest, none⟩ fs = (⟨call, put', rest, none⟩, fs') := by
  unfold advance
  simp only [stepped]

/-- Says once what a step can do. -/
theorem Stage.advance (stage : Stage d base fs w) (layout : d.Layout base stores fs)
    (mem : stores w.call.ref.storeId) (todo : w.todo ≠ []) :
    Stage d base (w.advance fs).2 (w.advance fs).1 ∧ (w.advance fs).1.call = w.call ∧
      Effect base fs w (w.advance fs).1 (w.advance fs).2 := by
  cases stage with
  | waiting call =>
    obtain ⟨fs', stepped, made⟩ := Directory.makeGroup_spec layout mem call.id none
    rw [BlockWrite.steps, advance_of_step stepped]
    exact ⟨.grouped call (made.made _ (List.prefix_refl _)), rfl, .made rfl rfl rfl made⟩
  | grouped call there =>
    obtain ⟨n, fs', stepped, created⟩ :=
      Directory.createTemporary_spec layout mem there none
    rw [advance_of_step stepped]
    refine ⟨.writing call n [] call.pieces rfl, rfl, .created n rfl ?_ rfl created⟩
    cases call.pieces <;> rfl
  | writing call n done rest cut =>
    cases rest with
    | nil =>
      have length : done.flatten.length = call.data.length := by
        rw [PutCall.data, cut, List.append_nil]
      rw [length, List.map_nil, List.nil_append, advance_of_step rfl]
      exact ⟨.synced call n, rfl, .nothing rfl rfl⟩
    | cons bytes rest =>
      have stepped := Directory.append_spec d call.ref call.id fs n done.flatten.length bytes
      rw [List.map_cons, List.cons_append, advance_of_step stepped]
      have whole : call.data = done.flatten ++ bytes ++ rest.flatten := by
        rw [PutCall.data, cut]
        simp
      have front : done.flatten.length + bytes.length = (done.flatten ++ bytes).length := by simp
      refine ⟨?_, rfl, .wrote n _ bytes rfl ?_ rfl ?_ ?_⟩
      · have length : done.flatten.length + bytes.length = (done ++ [bytes]).flatten.length := by
          simp
        rw [length]
        exact .writing call n (done ++ [bytes]) rest (by simp [cut])
      · unfold open?
        cases rest <;> rfl
      · rw [whole, List.length_append]
        simp
      · rw [whole, front, List.take_left', List.append_assoc, List.take_left']
        all_goals rfl
  | synced call n =>
    cases held : fs.node? (Directory.temporaryAt base call.block) with
    | none =>
      have stepped := Directory.publish_missing layout mem held (some ⟨.file n, call.data.length⟩)
      have failed : Writer.advance ⟨call, d.writing call.ref call.id
          (some ⟨.file n, call.data.length⟩), [.publish], none⟩ fs =
          (⟨call, d.writing call.ref call.id (some ⟨.file n, call.data.length⟩), [],
            some .notFound⟩, fs) := by
        unfold Writer.advance
        simp only [stepped]
      rw [failed]
      exact ⟨.failed call _, rfl, .missed n _ rfl rfl rfl held⟩
    | some node =>
      cases node with
      | directory => exact absurd held (layout.temporary (k := call.block) mem)
      | file m =>
        obtain ⟨fs', stepped, renamed⟩ :=
          Directory.publish_spec layout mem held (some ⟨.file n, call.data.length⟩)
        rw [advance_of_step stepped]
        exact ⟨.ended call _, rfl, .published n m rfl rfl rfl held renamed⟩
  | ended => exact absurd rfl todo
  | failed => exact absurd rfl todo

theorem Effect.layout (effect : Effect base fs w w' fs') (layout : d.Layout base stores fs)
    (mem : stores w.call.ref.storeId) : d.Layout base stores fs' := by
  cases effect with
  | nothing => exact layout
  | made _ _ _ made => exact layout.made (k := w.call.block) made
  | created n _ _ _ created => exact layout.created mem created
  | wrote n => exact layout.setContent n _
  | published n m _ _ _ _ renamed => exact layout.renamed mem renamed
  | missed => exact layout

theorem Effect.directories (effect : Effect base fs w w' fs') (layout : d.Layout base stores fs)
    (mem : stores w.call.ref.storeId) (p : Place) (there : fs.node? p = some .directory) :
    fs'.node? p = some .directory := by
  cases effect with
  | nothing => exact there
  | made _ _ _ made => exact made.directories p there
  | created n _ _ _ created =>
    rw [created.nodes, if_neg, there]
    rintro rfl
    exact layout.temporary (k := w.call.block) mem there
  | wrote => exact there
  | published n m _ _ _ _ renamed =>
    rw [renamed.nodes, if_neg, if_neg, there]
    · rintro rfl
      exact layout.temporary (k := w.call.block) mem there
    · rintro rfl
      exact layout.block (k := w.call.block) mem there
  | missed => exact there

theorem Effect.fresh (effect : Effect base fs w w' fs') : fs.fresh ≤ fs'.fresh := by
  cases effect with
  | nothing => exact Nat.le_refl _
  | made _ _ _ made => exact made.fresh
  | created n _ _ _ created => exact created.fresh
  | wrote => exact Nat.le_refl _
  | published n m _ _ _ _ renamed => exact renamed.fresh
  | missed => exact Nat.le_refl _

/-- A name leads to the file that it led to before, or it is a name of the call's block. -/
theorem Effect.file_before (effect : Effect base fs w w' fs') (layout : d.Layout base stores fs)
    (mem : stores w.call.ref.storeId) {p : Place} {n : Nat}
    (file : fs'.node? p = some (.file n)) :
    fs.node? p = some (.file n) ∨
      p = Directory.temporaryAt base w.call.block ∧
        fs.Created fs' (Directory.temporaryAt base w.call.block) n ∨
      p = Directory.blockAt base w.call.block ∧
        fs.node? (Directory.temporaryAt base w.call.block) = some (.file n) := by
  cases effect with
  | nothing => exact .inl file
  | made _ _ _ made => exact .inl ((made.file_iff (layout.clear mem w.call.id) p n).1 file)
  | created m _ _ _ created =>
    have after := file
    rw [created.nodes] at after
    split at after
    · rename_i here
      cases after
      exact .inr (.inl ⟨here.symm, created⟩)
    · exact .inl after
  | wrote => exact .inl file
  | published _ m _ _ _ held renamed =>
    rw [renamed.nodes] at file
    split at file
    · rename_i here
      cases file
      exact .inr (.inr ⟨here.symm, held⟩)
    · split at file
      · cases file
      · exact .inl file
  | missed => exact .inl file

/-- Names of other blocks stay. -/
theorem Effect.file_iff (effect : Effect base fs w w' fs') (layout : d.Layout base stores fs)
    (mem : stores w.call.ref.storeId) {p : Place}
    (temporary : p ≠ Directory.temporaryAt base w.call.block)
    (block : p ≠ Directory.blockAt base w.call.block) (n : Nat) :
    fs'.node? p = some (.file n) ↔ fs.node? p = some (.file n) := by
  cases effect with
  | nothing => exact Iff.rfl
  | made _ _ _ made => exact made.file_iff (layout.clear mem w.call.id) p n
  | created m _ _ _ created => rw [created.nodes, if_neg (Ne.symm temporary)]
  | wrote => exact Iff.rfl
  | published _ m _ _ _ _ renamed =>
    rw [renamed.nodes, if_neg (Ne.symm block), if_neg (Ne.symm temporary)]
  | missed => exact Iff.rfl

/-- Only the file that the call has open changes its content. -/
theorem Effect.content (effect : Effect base fs w w' fs') (n : Nat) :
    fs'.content n = fs.content n ∨ (∃ position, w.open? = some (n, position)) ∨
      fs.Created fs' (Directory.temporaryAt base w.call.block) n := by
  cases effect with
  | nothing => exact .inl rfl
  | made _ _ _ made => exact .inl (FileSystem.content_of_contents made.contents n)
  | created m _ _ _ created =>
    by_cases same : m = n
    · exact .inr (.inr (same ▸ created))
    · exact .inl (by rw [created.content, if_neg same])
  | wrote m position _ before =>
    by_cases same : m = n
    · exact .inr (.inl ⟨position, same ▸ before⟩)
    · exact .inl (by rw [FileSystem.content_setContent, if_neg same])
  | published _ m _ _ _ _ renamed =>
    exact .inl (FileSystem.content_of_contents renamed.contents n)
  | missed => exact .inl rfl

/-- A file that is open was open before, or is the one that was just opened. -/
theorem Effect.open_before (effect : Effect base fs w w' fs') {n position : Nat}
    (opened : w'.open? = some (n, position)) :
    (∃ before, w.open? = some (n, before)) ∨
      fs.Created fs' (Directory.temporaryAt base w.call.block) n := by
  cases effect with
  | nothing file => exact .inl ⟨position, file ▸ opened⟩
  | made _ after =>
    rw [after] at opened
    cases opened
  | created m _ after _ created =>
    rw [after] at opened
    cases opened
    exact .inr created
  | wrote m before _ was after =>
    rw [after] at opened
    cases opened
    exact .inl ⟨before, was⟩
  | published _ _ _ ended =>
    rw [open?_of_ended ended] at opened
    cases opened
  | missed _ _ _ ended =>
    rw [open?_of_ended ended] at opened
    cases opened

theorem advance_call (w : Writer) (fs : FileSystem) : (w.advance fs).1.call = w.call := by
  unfold advance
  split
  · rfl
  · split <;> rfl

/-- A call that has not failed has come one step further. -/
theorem advance_fine (fine : (w.advance fs).1.failure = none) :
    w.failure = none ∧ (w.advance fs).1.todo = w.todo.tail := by
  unfold advance at fine ⊢
  split at fine
  · rename_i ended
    exact ⟨fine, by simp [ended]⟩
  · rename_i step rest todo
    split at fine
    · rename_i stepped
      exact ⟨fine, by simp [todo]⟩
    · cases fine

/-- A call that nobody comes between takes the steps of its put in order. -/
theorem iterate_advance (call : PutCall) (put : BlockWrite) (todo : List BlockWrite.Step)
    (fs : FileSystem) :
    put.run fs todo = ((fun s : Writer × FileSystem => s.1.advance s.2)^[todo.length]
      (⟨call, put, todo, none⟩, fs)).map outcome id := by
  induction todo generalizing put fs with
  | nil => rfl
  | cons step rest ih =>
    rw [List.length_cons, Function.iterate_succ_apply]
    unfold BlockWrite.run
    split
    · rename_i e put' fs' stepped
      have failed : advance ⟨call, put, step :: rest, none⟩ fs =
          (⟨call, put', [], some e⟩, fs') := by
        unfold advance
        simp only [stepped]
      simp only [failed]
      rw [Function.iterate_fixed rfl]
      rfl
    · rename_i put' fs' stepped
      simp only [advance_of_step stepped]
      exact ih put' fs'

/-- A put is a call whose steps nobody comes between. -/
theorem put_eq_iterate (d : Directory) (call : PutCall) (fs : FileSystem)
    (whole : call.pieces = [call.data]) :
    d.put call.ref call.id call.data fs = ((fun s : Writer × FileSystem => s.1.advance s.2)^[
      (BlockWrite.steps call.pieces).length] (start d call, fs)).map
        (fun w => w.outcome.mapError fun e => .io e.message) id := by
  have ran := iterate_advance call (d.beginWrite call.ref call.id)
    (BlockWrite.steps call.pieces) fs
  unfold Directory.put start
  rw [← whole, ran]
  generalize (fun s : Writer × FileSystem => s.1.advance s.2)^[
    (BlockWrite.steps call.pieces).length] _ = out
  rfl

end Writer

/-! ## Turns -/

namespace Crew

variable {d : Directory} {base : Place} {stores : String → Prop} {c c' : Crew} {i : Nat}
  {w w' : Writer}

/-- One call's turn, in which it takes a step. -/
structure Turn (d : Directory) (base : Place) (c c' : Crew) (i : Nat) (w w' : Writer) : Prop where
  mine : c.writers[i]? = some w
  todo : w.todo ≠ []
  writers : c'.writers = c.writers.set i w'
  call : w'.call = w.call
  stage : Writer.Stage d base c'.files w'
  effect : Writer.Effect base c.files w w' c'.files

namespace Turn

variable (turn : Turn d base c c' i w w')
include turn

theorem mem : w ∈ c.writers := List.mem_of_getElem? turn.mine

theorem mem_after : w' ∈ c'.writers := by
  rw [turn.writers]
  exact List.mem_set (List.getElem?_eq_some_iff.1 turn.mine).1 w'

theorem cases_after {x : Writer} (after : x ∈ c'.writers) : x = w' ∨ x ∈ c.writers := by
  rw [turn.writers] at after
  exact (List.mem_or_eq_of_mem_set after).symm

/-- The other calls stay as they are. -/
theorem stays {x : Writer} (before : x ∈ c.writers) (other : x ≠ w) : x ∈ c'.writers := by
  obtain ⟨j, at_j⟩ := List.mem_iff_getElem?.1 before
  rw [turn.writers]
  refine List.mem_iff_getElem?.2 ⟨j, ?_⟩
  rw [List.getElem?_set_ne, at_j]
  rintro rfl
  rw [turn.mine] at at_j
  exact other (Option.some.inj at_j).symm

theorem block : w'.call.block = w.call.block := by rw [turn.call]

/-- How many calls are writing, with this one apart. -/
theorem writing (k : String × BlockId) :
    ∃ others, c.writing k = others + (if w.isWriting k then 1 else 0) ∧
      c'.writing k = others + if w'.isWriting k then 1 else 0 := by
  obtain ⟨inside, here⟩ := List.getElem?_eq_some_iff.1 turn.mine
  have counted : (if w.isWriting k then 1 else 0) ≤ c.writing k := by
    rw [← here]
    exact List.boole_getElem_le_countP inside
  refine ⟨c.writing k - if w.isWriting k then 1 else 0, by omega, ?_⟩
  rw [Crew.writing, turn.writers, List.countP_set inside, here]
  rfl

end Turn

/-- Two calls that are writing one block are the same, if no more than one is. -/
theorem eq_of_writing {k : String × BlockId} (single : c.writing k ≤ 1) (mine : w ∈ c.writers)
    (other : w' ∈ c.writers) (writing : w.isWriting k) (writing' : w'.isWriting k) : w = w' := by
  have mem := List.mem_filter.2 ⟨mine, writing⟩
  have mem' := List.mem_filter.2 ⟨other, writing'⟩
  rw [Crew.writing, List.countP_eq_length_filter] at single
  match all : c.writers.filter (Writer.isWriting k) with
  | [] =>
    rw [all] at mem
    cases mem
  | [x] =>
    rw [all, List.mem_singleton] at mem mem'
    rw [mem, mem']
  | x :: y :: rest =>
    rw [all] at single
    simp at single

/-! ## What holds however the calls take turns -/

/-- A file that a call has open is at the places of the call's block and nowhere else. -/
structure Afloat (d : Directory) (base : Place) (stores : String → Prop) (c : Crew) : Prop where
  layout : d.Layout base stores c.files
  known : ∀ w ∈ c.writers, stores w.call.ref.storeId
  stage : ∀ w ∈ c.writers, Writer.Stage d base c.files w
  numbered : ∀ w ∈ c.writers, ∀ n position, w.open? = some (n, position) → n < c.files.fresh
  own : ∀ w ∈ c.writers, ∀ n position, w.open? = some (n, position) →
    ∀ p, c.files.node? p = some (.file n) →
      p = Directory.temporaryAt base w.call.block ∨ p = Directory.blockAt base w.call.block
  shared : ∀ w ∈ c.writers, ∀ w' ∈ c.writers, ∀ n position position',
    w.open? = some (n, position) → w'.open? = some (n, position') → w.call.block = w'.call.block

/-- A call's turn, unless it has nothing to do or does not exist. -/
theorem Afloat.advance (afloat : Afloat d base stores c) (i : Nat) :
    c.advance i = c ∨ ∃ w w', Turn d base c (c.advance i) i w w' := by
  unfold Crew.advance
  cases mine : c.writers[i]? with
  | none => exact .inl rfl
  | some w =>
    have mem := List.mem_of_getElem? mine
    by_cases ended : w.todo = []
    · left
      have idle : w.advance c.files = (w, c.files) := by
        unfold Writer.advance
        rw [ended]
      obtain ⟨inside, here⟩ := List.getElem?_eq_some_iff.1 mine
      show Crew.mk (c.writers.set i (w.advance c.files).1) (w.advance c.files).2 = c
      rw [idle, ← here, List.set_getElem_self]
    · right
      obtain ⟨stage, call, effect⟩ :=
        (afloat.stage w mem).advance afloat.layout (afloat.known w mem) ended
      exact ⟨w, _, mine, ended, rfl, call, stage, effect⟩

/-- The file that is opened empty for one block is open or named for no other. -/
theorem Afloat.apart_of_created (afloat : Afloat d base stores c) {k : String × BlockId}
    {fs' : FileSystem} {n : Nat}
    (created : c.files.Created fs' (Directory.temporaryAt base k) n) {x : Writer}
    (mem : x ∈ c.writers) {position : Nat} (opened : x.open? = some (n, position)) :
    x.call.block = k := by
  rcases created.number with old | ⟨-, new⟩
  · rcases afloat.own x mem n position opened _ old with same | same
    · exact (Directory.temporaryAt_inj.1 same).symm
    · exact absurd same.symm (Directory.blockAt_ne_temporaryAt _ _)
  · exact absurd (afloat.numbered x mem n position opened) (by omega)

/-- The file that a call has open at its block's temporary name is open for no other block. -/
theorem Afloat.block_of_held (afloat : Afloat d base stores c) {k : String × BlockId} {n : Nat}
    (held : c.files.node? (Directory.temporaryAt base k) = some (.file n)) {x : Writer}
    (mem : x ∈ c.writers) {position : Nat} (opened : x.open? = some (n, position)) :
    x.call.block = k := by
  rcases afloat.own x mem n position opened _ held with same | same
  · exact (Directory.temporaryAt_inj.1 same).symm
  · exact absurd same.symm (Directory.blockAt_ne_temporaryAt _ _)

/-- A file that some call has open was open for the same block before, or was just opened. -/
theorem Turn.open_before (turn : Turn d base c c' i w w') {x : Writer} (mem : x ∈ c'.writers)
    {n position : Nat} (opened : x.open? = some (n, position)) :
    (∃ y ∈ c.writers, y.call.block = x.call.block ∧ ∃ before, y.open? = some (n, before)) ∨
      x = w' ∧ c.files.Created c'.files (Directory.temporaryAt base w.call.block) n := by
  rcases turn.cases_after mem with rfl | old
  · rcases turn.effect.open_before opened with before | created
    · exact .inl ⟨w, turn.mem, turn.block.symm, before⟩
    · exact .inr ⟨rfl, created⟩
  · exact .inl ⟨x, old, rfl, position, opened⟩

theorem Afloat.turn (afloat : Afloat d base stores c) (turn : Turn d base c c' i w w') :
    Afloat d base stores c' := by
  have known := afloat.known w turn.mem
  have layout := turn.effect.layout afloat.layout known
  have keeps := turn.effect.directories afloat.layout known
  refine ⟨layout, fun x mem => ?_, fun x mem => ?_, ?_, ?_, ?_⟩
  · rcases turn.cases_after mem with rfl | old
    · rw [turn.call]
      exact known
    · exact afloat.known x old
  · rcases turn.cases_after mem with rfl | old
    · exact turn.stage
    · exact (afloat.stage x old).mono keeps
  · intro x mem n position opened
    rcases turn.open_before mem opened with ⟨y, old, -, before, was⟩ | ⟨-, created⟩
    · exact Nat.lt_of_lt_of_le (afloat.numbered y old n before was) turn.effect.fresh
    · exact created.below
  · intro x mem n position opened p file
    have before := turn.effect.file_before afloat.layout known file
    rcases turn.open_before mem opened with ⟨y, old, same, before', was⟩ | ⟨rfl, created⟩
    · rcases before with there | ⟨rfl, created⟩ | ⟨rfl, held⟩
      · exact same ▸ afloat.own y old n before' was p there
      · rw [← same, afloat.apart_of_created created old was]
        exact .inl rfl
      · rw [← same, afloat.block_of_held held old was]
        exact .inr rfl
    · rw [turn.block]
      rcases before with there | ⟨rfl, -⟩ | ⟨rfl, -⟩
      · rcases created.number with held | ⟨-, new⟩
        · exact .inl (afloat.layout.sound.single there held)
        · exact absurd (afloat.layout.sound.fresh there) (by omega)
      · exact .inl rfl
      · exact .inr rfl
  · intro x mem x' mem' n position position' opened opened'
    rcases turn.open_before mem opened with ⟨y, old, same, before, was⟩ | ⟨rfl, created⟩
    · rcases turn.open_before mem' opened' with ⟨y', old', same', before', was'⟩ | ⟨rfl, created⟩
      · rw [← same, ← same']
        exact afloat.shared y old y' old' n before before' was was'
      · rw [turn.block, ← same, afloat.apart_of_created created old was]
    · rcases turn.open_before mem' opened' with ⟨y', old', same', before', was'⟩ | ⟨rfl, -⟩
      · rw [turn.block, ← same', afloat.apart_of_created created old' was']
      · rfl

end Crew

end StreamGate
