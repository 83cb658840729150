import Mathlib.Data.List.Infix
import StreamGate.Proofs.Storage.Serving
import StreamGate.Proofs.Storage.Writers

/-!
# Whole blocks

A block is safe as long as no two calls have its temporary file open at the same time.

* `Crew.Quiet`: a block that is whole, and calls for it that go well.
* `Crew.Clashed`: calls for a block that are more than the temporary files they will find.
* `Crew.whole_blocks`: calls that are never in each other's way put whole blocks and do not
  fail; when two of them were, one fails.
-/

namespace StreamGate

namespace Crew

variable {d : Directory} {base : Place} {stores : String → Prop} {c c' : Crew} {i : Nat}
  {w w' : Writer} {k : String × BlockId} {fs : FileSystem}

/-! ## A block whose calls keep apart -/

/-- A block that is whole, and calls for it that go well. -/
structure Quiet (base : Place) (k : String × BlockId) (fs : FileSystem) (c : Crew) : Prop where
  written : ∀ w ∈ c.writers, w.call.block = k → ∀ n position, w.open? = some (n, position) →
    c.files.node? (Directory.temporaryAt base k) = some (.file n) ∧
      c.files.content n = w.call.data.take position
  fine : ∀ w ∈ c.writers, w.call.block = k → w.failure = none
  whole : c.files.contentAt? (Directory.blockAt base k) =
      fs.contentAt? (Directory.blockAt base k) ∨
    ∃ w ∈ c.writers, w.call.block = k ∧ w.todo = [] ∧
      c.files.contentAt? (Directory.blockAt base k) = some w.call.data

/-- A call does not change the content of a file that belongs to another place. -/
theorem Turn.content_of_named (turn : Turn d base c c' i w w') (afloat : Afloat d base stores c)
    {p : Place} {n : Nat} (named : c.files.node? p = some (.file n))
    (temporary : p ≠ Directory.temporaryAt base w.call.block)
    (block : p ≠ Directory.blockAt base w.call.block) : c'.files.content n = c.files.content n := by
  rcases turn.effect.content n with same | ⟨position, opened⟩ | created
  · exact same
  · rcases afloat.own w turn.mem n position opened p named with here | here
    · exact absurd here temporary
    · exact absurd here block
  · rcases created.number with held | ⟨-, new⟩
    · exact absurd (afloat.layout.sound.single named held) temporary
    · exact absurd (afloat.layout.sound.fresh named) (by omega)

/-- What a block holds stays when a call for another block has its turn. -/
theorem Turn.contentAt?_of_ne (turn : Turn d base c c' i w w') (afloat : Afloat d base stores c)
    (other : w.call.block ≠ k) : c'.files.contentAt? (Directory.blockAt base k) =
      c.files.contentAt? (Directory.blockAt base k) := by
  have temporary : Directory.blockAt base k ≠ Directory.temporaryAt base w.call.block :=
    Directory.blockAt_ne_temporaryAt k w.call.block
  have block : Directory.blockAt base k ≠ Directory.blockAt base w.call.block :=
    fun same => other (Directory.blockAt_inj.1 same).symm
  exact FileSystem.contentAt?_congr
    (turn.effect.file_iff afloat.layout (afloat.known w turn.mem) temporary block)
    fun n named => turn.content_of_named afloat named temporary block

theorem Quiet.turn_of_ne (quiet : Quiet base k fs c) (afloat : Afloat d base stores c)
    (turn : Turn d base c c' i w w') (other : w.call.block ≠ k) : Quiet base k fs c' := by
  have mine : ∀ x ∈ c'.writers, x.call.block = k → x ∈ c.writers := fun x mem same => by
    rcases turn.cases_after mem with rfl | old
    · exact absurd (turn.block ▸ same) other
    · exact old
  have temporary : Directory.temporaryAt base k ≠ Directory.temporaryAt base w.call.block :=
    fun same => other (Directory.temporaryAt_inj.1 same).symm
  have block : Directory.temporaryAt base k ≠ Directory.blockAt base w.call.block :=
    (Directory.blockAt_ne_temporaryAt w.call.block k).symm
  refine ⟨fun x mem same n position opened => ?_,
    fun x mem same => quiet.fine x (mine x mem same) same, ?_⟩
  · obtain ⟨held, written⟩ := quiet.written x (mine x mem same) same n position opened
    rw [turn.content_of_named afloat held temporary block]
    exact ⟨(turn.effect.file_iff afloat.layout (afloat.known w turn.mem) temporary block n).2 held,
      written⟩
  · rw [turn.contentAt?_of_ne afloat other]
    refine quiet.whole.imp_right fun ⟨x, mem, same, ended, content⟩ => ?_
    exact ⟨x, turn.stays mem fun this => other (this ▸ same), same, ended, content⟩

/-- Until it is published, a call leaves its block as it is. -/
theorem Quiet.whole_of_same (quiet : Quiet base k fs c) (turn : Turn d base c c' i w w')
    (same : c'.files.contentAt? (Directory.blockAt base k) =
      c.files.contentAt? (Directory.blockAt base k)) :
    c'.files.contentAt? (Directory.blockAt base k) = fs.contentAt? (Directory.blockAt base k) ∨
      ∃ w ∈ c'.writers, w.call.block = k ∧ w.todo = [] ∧
        c'.files.contentAt? (Directory.blockAt base k) = some w.call.data := by
  rw [same]
  refine quiet.whole.imp_right fun ⟨x, mem, mine, ended, content⟩ => ?_
  exact ⟨x, turn.stays mem fun this => turn.todo (this ▸ ended), mine, ended, content⟩

theorem Quiet.fine_turn (quiet : Quiet base k fs c) (turn : Turn d base c c' i w w')
    (fine : w'.failure = none) : ∀ x ∈ c'.writers, x.call.block = k → x.failure = none := by
  intro x mem same
  rcases turn.cases_after mem with rfl | old
  · exact fine
  · exact quiet.fine x old same

/-- A step that leaves the files alone leaves a block quiet. -/
theorem Quiet.turn_of_same (quiet : Quiet base k fs c) (turn : Turn d base c c' i w w')
    (files : ∀ p n, c'.files.node? p = some (.file n) ↔ c.files.node? p = some (.file n))
    (contents : ∀ n, c'.files.content n = c.files.content n) (opened : w'.open? = w.open?)
    (fine : w'.failure = none) : Quiet base k fs c' := by
  refine ⟨fun x mem same n position there => ?_, quiet.fine_turn turn fine,
    quiet.whole_of_same turn (FileSystem.contentAt?_congr (files _) fun n _ => contents n)⟩
  rw [files, contents]
  rcases turn.cases_after mem with rfl | old
  · rw [turn.call]
    exact quiet.written w turn.mem (turn.block ▸ same) n position (opened ▸ there)
  · exact quiet.written x old same n position there

/-- A step after which the call alone has the block's temporary file open. -/
theorem Quiet.turn_of_open (quiet : Quiet base k fs c) (afloat : Afloat d base stores c)
    (turn : Turn d base c c' i w w') (mine : w.call.block = k) (single : c'.writing k ≤ 1)
    {n position : Nat} (opened : w'.open? = some (n, position)) (fine : w'.failure = none)
    (held : c'.files.node? (Directory.temporaryAt base k) = some (.file n))
    (written : c'.files.content n = w.call.data.take position)
    (named : ∀ m, c'.files.node? (Directory.blockAt base k) = some (.file m) ↔
      c.files.node? (Directory.blockAt base k) = some (.file m))
    (rest : ∀ m, m ≠ n → c'.files.content m = c.files.content m) : Quiet base k fs c' := by
  have after : w'.call.block = k := turn.block.trans mine
  refine ⟨fun x mem same m position' there => ?_, quiet.fine_turn turn fine,
    quiet.whole_of_same turn (FileSystem.contentAt?_congr named fun m there => rest m ?_)⟩
  · have this : x = w' := eq_of_writing single mem turn.mem_after
      (Writer.isWriting_iff.2 ⟨same, m, position', there⟩)
      (Writer.isWriting_iff.2 ⟨after, n, position, opened⟩)
    subst this
    rw [opened] at there
    cases there
    rw [turn.call]
    exact ⟨held, written⟩
  · rintro rfl
    have layout := turn.effect.layout afloat.layout (afloat.known w turn.mem)
    exact Directory.blockAt_ne_temporaryAt k k
      (layout.sound.single ((named m).2 there) held)

/-- A step after which nobody has the block's temporary file open. -/
theorem Quiet.turn_of_published (quiet : Quiet base k fs c) (turn : Turn d base c c' i w w')
    (mine : w.call.block = k) (single : c.writing k ≤ 1) {n position : Nat}
    (opened : w.open? = some (n, position)) (ended : w'.todo = []) (fine : w'.failure = none)
    (whole : c'.files.contentAt? (Directory.blockAt base k) = some w.call.data) :
    Quiet base k fs c' := by
  refine ⟨fun x mem same m position' there => ?_, quiet.fine_turn turn fine,
    .inr ⟨w', turn.mem_after, turn.block.trans mine, ended, turn.call.symm ▸ whole⟩⟩
  obtain ⟨others, counted, counted'⟩ := turn.writing k
  rw [if_pos (Writer.isWriting_iff.2 ⟨mine, n, position, opened⟩)] at counted
  rw [if_neg (Writer.not_isWriting_of_ended ended)] at counted'
  have none : c'.writing k = 0 := by omega
  exact absurd (Writer.isWriting_iff.2 ⟨same, m, position', there⟩)
    (List.countP_eq_zero.1 none x mem)

/-- A block stays quiet as long as no two calls have its temporary file open. -/
theorem Quiet.turn (quiet : Quiet base k fs c) (afloat : Afloat d base stores c)
    (turn : Turn d base c c' i w w') (single : c.writing k ≤ 1) (single' : c'.writing k ≤ 1) :
    Quiet base k fs c' := by
  by_cases other : w.call.block ≠ k
  · exact quiet.turn_of_ne afloat turn other
  have mine : w.call.block = k := not_not.1 other
  have known := afloat.known w turn.mem
  have effect := turn.effect
  generalize files : c'.files = fs' at effect
  cases effect with
  | nothing opened fine =>
    exact quiet.turn_of_same turn (fun _ _ => by rw [files]) (fun _ => by rw [files]) opened fine
  | made before after fine made =>
    refine quiet.turn_of_same turn (fun p n => ?_) (fun n => ?_) (after.trans before.symm) fine
    · rw [files]
      exact made.file_iff (afloat.layout.clear known w.call.id) p n
    · rw [files]
      exact FileSystem.content_of_contents made.contents n
  | created n before opened fine created =>
    rw [mine] at created
    subst files
    refine quiet.turn_of_open afloat turn mine single' opened fine ?_ ?_ (fun m => ?_)
      fun m ne => ?_
    · rw [created.nodes, if_pos rfl]
    · rw [created.content, if_pos rfl, List.take_zero]
    · rw [created.nodes, if_neg (Directory.blockAt_ne_temporaryAt k k).symm]
    · rw [created.content, if_neg (Ne.symm ne)]
  | wrote n position bytes before opened fine fits next =>
    obtain ⟨held, written⟩ := quiet.written w turn.mem mine n position before
    have reached : (w.call.data.take position).length = position := by
      rw [List.length_take]
      omega
    refine quiet.turn_of_open afloat turn mine single' opened fine ?_ ?_ (fun m => ?_)
      fun m ne => ?_
    · rw [files]
      exact held
    · rw [files, FileSystem.content_setContent, if_pos rfl, written, next,
        FileSystem.overwrite_of_length reached]
    · rw [files]
      exact Iff.rfl
    · rw [files, FileSystem.content_setContent, if_neg (Ne.symm ne)]
  | published n m before ended fine held renamed =>
    obtain ⟨here, written⟩ := quiet.written w turn.mem mine n _ before
    rw [mine] at held renamed
    rw [held] at here
    cases here
    refine quiet.turn_of_published turn mine single before ended fine ?_
    have named : c'.files.node? (Directory.blockAt base k) = some (.file n) := by
      rw [files, renamed.nodes, if_pos rfl]
    rw [FileSystem.contentAt?_of_file named, files,
      FileSystem.content_of_contents renamed.contents, written, List.take_length]
  | missed n position before ended failed gone =>
    obtain ⟨held, -⟩ := quiet.written w turn.mem mine n position before
    rw [mine, held] at gone
    cases gone

/-! ## A block whose calls were in each other's way -/

/-- A call has failed, or one will: not all calls that are writing the block will find a
temporary file. -/
def Clashed (base : Place) (k : String × BlockId) (c : Crew) : Prop :=
  (∃ w ∈ c.writers, w.call.block = k ∧ w.failure = some .notFound) ∨
    (1 ≤ c.writing k ∧
      ∀ n, c.files.node? (Directory.temporaryAt base k) = some (.file n) → 2 ≤ c.writing k)

theorem Clashed.of_writing (two : 2 ≤ c.writing k) : Clashed base k c :=
  .inr ⟨Nat.le_of_succ_le two, fun _ _ => two⟩

/-- If all calls have ended, one of them has failed. -/
theorem Clashed.failed (clashed : Clashed base k c) (ended : ∀ w ∈ c.writers, w.todo = []) :
    ∃ w ∈ c.writers, w.call.block = k ∧ w.failure = some .notFound := by
  refine clashed.resolve_right fun ⟨one, _⟩ => ?_
  have none : c.writing k = 0 :=
    List.countP_eq_zero.2 fun w mem => Writer.not_isWriting_of_ended (ended w mem)
  omega

theorem Turn.isWriting_of_open (turn : Turn d base c c' i w w') (opened : w'.open? = w.open?) :
    w'.isWriting k = w.isWriting k := by
  unfold Writer.isWriting
  rw [opened, turn.call]

/-- Publishing takes away a file that another call needs. -/
theorem Clashed.turn (clashed : Clashed base k c) (afloat : Afloat d base stores c)
    (turn : Turn d base c c' i w w') : Clashed base k c' := by
  have known := afloat.known w turn.mem
  rcases clashed with ⟨x, mem, mine, failed⟩ | ⟨one, two⟩
  · refine .inl ⟨x, turn.stays mem fun this => turn.todo ?_, mine, failed⟩
    rw [← this]
    exact (afloat.stage x mem).todo_of_failure (by simp [failed])
  obtain ⟨others, counted, counted'⟩ := turn.writing k
  have same : w'.isWriting k = w.isWriting k →
      (∀ n, c'.files.node? (Directory.temporaryAt base k) = some (.file n) ↔
        c.files.node? (Directory.temporaryAt base k) = some (.file n)) → Clashed base k c' :=
    fun writing named => by
      rw [writing, ← counted] at counted'
      rw [Clashed, counted']
      exact .inr ⟨one, fun n there => two n ((named n).1 there)⟩
  by_cases other : w.call.block ≠ k
  · refine same ?_ (turn.effect.file_iff afloat.layout known ?_ ?_)
    · unfold Writer.isWriting
      rw [turn.block, decide_eq_false other, Bool.false_and, Bool.false_and]
    · exact fun this => other (Directory.temporaryAt_inj.1 this).symm
    · exact (Directory.blockAt_ne_temporaryAt w.call.block k).symm
  have mine : w.call.block = k := not_not.1 other
  have effect := turn.effect
  generalize files : c'.files = fs' at effect
  cases effect with
  | nothing opened fine => exact same (turn.isWriting_of_open opened) fun n => by rw [files]
  | made before after fine made =>
    refine same (turn.isWriting_of_open (after.trans before.symm)) fun n => ?_
    rw [files]
    exact made.file_iff (afloat.layout.clear known w.call.id) _ n
  | created n before opened fine created =>
    have writing : w'.isWriting k := Writer.isWriting_iff.2 ⟨turn.block.trans mine, n, 0, opened⟩
    have waiting : ¬ w.isWriting k = true := fun writing => by
      obtain ⟨-, m, position, there⟩ := Writer.isWriting_iff.1 writing
      rw [before] at there
      cases there
    rw [if_neg waiting] at counted
    rw [if_pos writing] at counted'
    exact .of_writing (by omega)
  | wrote n position bytes before opened fine =>
    refine same ?_ fun m => by rw [files, FileSystem.node?_setContent]
    rw [Writer.isWriting_iff.2 ⟨mine, n, position, before⟩]
    exact Writer.isWriting_iff.2 ⟨turn.block.trans mine, n, _, opened⟩
  | published n m before ended fine held renamed =>
    rw [mine] at held renamed
    have needed := two m held
    rw [if_pos (Writer.isWriting_iff.2 ⟨mine, n, _, before⟩)] at counted
    refine .inr ⟨by omega, fun m there => ?_⟩
    rw [files, renamed.nodes, if_neg (Directory.blockAt_ne_temporaryAt k k), if_pos rfl] at there
    cases there
  | missed n position before ended failed gone =>
    exact .inl ⟨w', turn.mem_after, turn.block.trans mine, failed⟩

/-! ## Whole runs -/

theorem run_concat (c : Crew) (schedule : List Nat) (i : Nat) :
    c.run (schedule ++ [i]) = (c.run schedule).advance i := by
  rw [run, List.foldl_append]
  rfl

theorem run_append (c : Crew) (schedule more : List Nat) :
    c.run (schedule ++ more) = (c.run schedule).run more := List.foldl_append ..

theorem Afloat.run (afloat : Afloat d base stores c) (schedule : List Nat) :
    Afloat d base stores (c.run schedule) := by
  induction schedule using List.reverseRecOn with
  | nil => exact afloat
  | append_singleton schedule i ih =>
    rw [run_concat]
    rcases ih.advance i with idle | ⟨w, w', turn⟩
    · rw [idle]
      exact ih
    · exact ih.turn turn

theorem Quiet.run (quiet : Quiet base k fs c) (afloat : Afloat d base stores c)
    {schedule : List Nat}
    (single : ∀ before, before <+: schedule → (c.run before).writing k ≤ 1) :
    Quiet base k fs (c.run schedule) := by
  induction schedule using List.reverseRecOn with
  | nil => exact quiet
  | append_singleton schedule i ih =>
    have part := List.prefix_append schedule [i]
    have quiet' := ih fun before le => single before (le.trans part)
    have last := single _ (List.prefix_refl _)
    rw [run_concat] at last ⊢
    have afloat' := afloat.run schedule
    rcases afloat'.advance i with idle | ⟨w, w', turn⟩
    · rw [idle]
      exact quiet'
    · exact quiet'.turn afloat' turn (single schedule part) last

theorem Clashed.run (clashed : Clashed base k c) (afloat : Afloat d base stores c)
    (schedule : List Nat) : Clashed base k (c.run schedule) := by
  induction schedule using List.reverseRecOn with
  | nil => exact clashed
  | append_singleton schedule i ih =>
    rw [run_concat]
    have afloat' := afloat.run schedule
    rcases afloat'.advance i with idle | ⟨w, w', turn⟩
    · rw [idle]
      exact ih
    · exact ih.turn afloat' turn

theorem Afloat.start (layout : d.Layout base stores fs) {calls : List PutCall}
    (known : ∀ call ∈ calls, stores call.ref.storeId) :
    Afloat d base stores (Crew.start d calls fs) := by
  have begun : ∀ w ∈ (Crew.start d calls fs).writers, ∃ call ∈ calls, w = Writer.start d call :=
    fun w mem => by
      obtain ⟨call, listed, rfl⟩ := List.mem_map.1 mem
      exact ⟨call, listed, rfl⟩
  have closed : ∀ w ∈ (Crew.start d calls fs).writers, ∀ n position,
      w.open? ≠ some (n, position) := fun w mem n position opened => by
    obtain ⟨call, -, rfl⟩ := begun w mem
    cases opened
  refine ⟨layout, fun w mem => ?_, fun w mem => ?_, fun w mem n position opened => ?_,
    fun w mem n position opened => ?_, fun w mem _ _ n position _ opened => ?_⟩
  · obtain ⟨call, listed, rfl⟩ := begun w mem
    exact known call listed
  · obtain ⟨call, -, rfl⟩ := begun w mem
    rw [Writer.start, ← Directory.writing_none]
    exact .waiting call
  all_goals exact absurd opened (closed w mem n position)

theorem Quiet.start (calls : List PutCall) : Quiet base k fs (Crew.start d calls fs) := by
  refine ⟨fun w mem _ n position opened => ?_, fun w mem _ => ?_, .inl rfl⟩
  all_goals obtain ⟨call, -, rfl⟩ := List.mem_map.1 mem
  · cases opened
  · rfl

theorem getElem?_advance (c : Crew) (i j : Nat) :
    (c.advance i).writers[j]? = if i = j then
      c.writers[j]?.map fun w => (w.advance c.files).1 else c.writers[j]? := by
  unfold advance
  split
  · rename_i none
    split
    · rename_i here
      rw [← here, none]
      rfl
    · rfl
  · rename_i w there
    rw [List.getElem?_set]
    split
    · rename_i here
      subst here
      rw [there, if_pos (List.getElem?_eq_some_iff.1 there).1]
      rfl
    · rfl

/-- A call that has not failed is as far as it had turns. -/
theorem turns_taken (d : Directory) (calls : List PutCall) (fs : FileSystem)
    (schedule : List Nat) {i : Nat} {call : PutCall} (listed : calls[i]? = some call) :
    ∃ w, ((start d calls fs).run schedule).writers[i]? = some w ∧ w.call = call ∧
      (w.failure = none → w.todo = (BlockWrite.steps call.pieces).drop (schedule.count i)) := by
  induction schedule using List.reverseRecOn with
  | nil => exact ⟨Writer.start d call, by simp [start, run, listed], rfl, fun _ => rfl⟩
  | append_singleton schedule j ih =>
    obtain ⟨w, there, mine, todo⟩ := ih
    rw [run_concat, getElem?_advance, there, List.count_append]
    by_cases here : j = i
    · rw [if_pos here, here, List.count_singleton_self]
      refine ⟨_, rfl, (w.advance_call _).trans mine, fun fine => ?_⟩
      obtain ⟨before, after⟩ := Writer.advance_fine fine
      rw [after, todo before, List.tail_drop]
    · rw [if_neg here]
      refine ⟨w, rfl, mine, fun fine => ?_⟩
      rw [todo fine]
      simp [here]

/-! ## What the calls for a block come to -/

/-- Calls for a block that never have its temporary file open at the same time put it whole,
and all of them go well.  If two of them had it open at the same time, one of them fails. -/
theorem whole_blocks {d : Directory} {base : Place} {stores : String → Prop} {fs : FileSystem}
    (layout : d.Layout base stores fs) {calls : List PutCall}
    (known : ∀ call ∈ calls, stores call.ref.storeId) (ref : StoreRef) (mem : stores ref.storeId)
    (id : BlockId) (schedule : List Nat) :
    ((∀ before, before <+: schedule →
        ((start d calls fs).run before).writing (ref.storeId, id) ≤ 1) →
      (((start d calls fs).run schedule).files.readFile (d.blockPath ref id) =
          fs.readFile (d.blockPath ref id) ∨
        ∃ w ∈ ((start d calls fs).run schedule).writers, w.call.block = (ref.storeId, id) ∧
          w.todo = [] ∧ ((start d calls fs).run schedule).files.readFile (d.blockPath ref id) =
            .ok w.call.data) ∧
      ∀ i call, calls[i]? = some call → call.block = (ref.storeId, id) →
        ∃ w, ((start d calls fs).run schedule).writers[i]? = some w ∧ w.call = call ∧
          w.failure = none ∧
          w.todo = (BlockWrite.steps call.pieces).drop (schedule.count i)) ∧
    (∀ before, before <+: schedule →
        2 ≤ ((start d calls fs).run before).writing (ref.storeId, id) →
      (∀ w ∈ ((start d calls fs).run schedule).writers, w.todo = []) →
        ∃ w ∈ ((start d calls fs).run schedule).writers, w.call.block = (ref.storeId, id) ∧
          w.failure = some .notFound) := by
  have afloat := Afloat.start layout known
  have after := afloat.run schedule
  refine ⟨fun single => ?_, fun before le two ended => ?_⟩
  · have quiet : Quiet base (ref.storeId, id) fs _ := (Quiet.start calls).run afloat single
    refine ⟨?_, fun i call listed mine => ?_⟩
    · rw [Directory.readFile_block layout mem, Directory.readFile_block after.layout mem]
      rcases quiet.whole with same | ⟨w, there, mine, ended, whole⟩
      · exact .inl (by rw [same])
      · exact .inr ⟨w, there, mine, ended, by rw [whole]⟩
    · obtain ⟨w, there, same, todo⟩ := turns_taken d calls fs schedule listed
      have fine := quiet.fine w (List.mem_of_getElem? there) (by rw [same, mine])
      exact ⟨w, there, same, fine, todo fine⟩
  · obtain ⟨more, rfl⟩ := le
    rw [run_append] at ended ⊢
    exact ((Clashed.of_writing two).run (afloat.run before) more).failed ended

/-- Two calls for one block, one after the other and then side by side. -/
theorem whole_blocks_of_two :
    let id : BlockId := .uniform '1' (by decide)
    let c := start ⟨"/"⟩ [⟨⟨"s", 1⟩, id, [[1], [1]]⟩, ⟨⟨"s", 1⟩, id, [[2]]⟩] {}
    let apart := [0, 0, 0, 0, 0, 0, 1, 1, 1, 1, 1]
    let overlapping := [0, 0, 0, 1, 1, 0, 0, 0, 1, 1, 1]
    ((c.run apart).files.readFile (Directory.blockPath ⟨"/"⟩ ⟨"s", 1⟩ id) =
          FileSystem.readFile {} (Directory.blockPath ⟨"/"⟩ ⟨"s", 1⟩ id) ∨
        ∃ w ∈ (c.run apart).writers, w.call.block = ("s", id) ∧ w.todo = [] ∧
          (c.run apart).files.readFile (Directory.blockPath ⟨"/"⟩ ⟨"s", 1⟩ id) =
            .ok w.call.data) ∧
      ∃ w ∈ (c.run overlapping).writers, w.call.block = ("s", id) ∧
        w.failure = some .notFound := by
  intro id c apart overlapping
  have layout : Directory.Layout ⟨"/"⟩ [] (· = "s") {} :=
    Directory.blank_root.layout fun named => named ▸ Directory.takes_root
  have known : ∀ call ∈ [⟨⟨"s", 1⟩, id, [[1], [1]]⟩, (⟨⟨"s", 1⟩, id, [[2]]⟩ : PutCall)],
      call.ref.storeId = "s" := by simp
  have single : ∀ before ∈ apart.inits, (c.run before).writing ("s", id) ≤ 1 := by
    decide +kernel
  have two : 2 ≤ (c.run [0, 0, 0, 1, 1]).writing ("s", id) := by decide +kernel
  have ended : ∀ w ∈ (c.run overlapping).writers, w.todo.isEmpty = true := by decide +kernel
  refine ⟨((whole_blocks layout known ⟨"s", 1⟩ rfl id apart).1 fun before le =>
    single before ((List.mem_inits before apart).2 le)).1, ?_⟩
  exact (whole_blocks layout known ⟨"s", 1⟩ rfl id overlapping).2 [0, 0, 0, 1, 1]
    ⟨[0, 0, 0, 1, 1, 1], rfl⟩ two fun w mem => List.isEmpty_iff.1 (ended w mem)

/-- One call publishes the file that the other has just emptied, and the other finds nothing to
publish.  Store ids with slashes lead to the blocks of other stores, and a block is in the way
of a store whose id leads to it. -/
theorem torn_by_shared_temporary :
    let id : BlockId := .uniform '1' (by decide)
    let d : Directory := ⟨"/"⟩
    let c := start d [⟨⟨"s", 1⟩, id, [[1, 1]]⟩, ⟨⟨"s", 1⟩, id, [[2]]⟩] {}
    let first := (d.put ⟨"s", 1⟩ id [10] {}).2
    (c.run [0, 0, 0, 0, 1, 1, 0]).files.readFile (d.blockPath ⟨"s", 1⟩ id) = .ok [] ∧
      (c.run [0, 0, 0, 0, 1, 1, 0, 1, 1, 1]).writers.map Writer.failure =
        [none, some .notFound] ∧
      (d.put ⟨"s/", 1⟩ id [11] first).2.readFile (d.blockPath ⟨"s", 1⟩ id) = .ok [11] ∧
      (d.put ⟨d.blockPath ⟨"s", 1⟩ id, 1⟩ id [11] first).1 =
        .error (.io IoError.notDirectory.message) := by
  decide +kernel

end Crew

end StreamGate
