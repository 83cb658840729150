import Mathlib.Data.List.Induction
import StreamGate.Proofs.Archive.Chunks

/-!
# What a relay hands out

An archive is sent while its file may shrink or grow and its reads may be cut short or fail.
What comes out are the bytes of the file from its first one on, each as it was when it was
read, up to the length that the file had when it was opened.

* `ArchiveDesk.ReadsOn`: what is asked of the system that reads the file.
* `Relay.Relayed`: what every answer is, up to the first last chunk or error.
* `Relay.Relayed.whole`: an archive that nobody touches is handed out as a whole.
* `Relay.Keeps.turn`: what every turn keeps.
* `Relay.relayed_exactly`: the chunks of a relay, how they end, and what it discards.
-/

namespace StreamGate

variable {World File : Type}

/-! ## Reading on -/

namespace ArchiveDesk

/-- A desk reads a file on from where its handle stands, as far as the file reaches at that
moment or less far, and nothing only at the end of the file.  The file of a handle is `held`
in a world. -/
structure ReadsOn (desk : ArchiveDesk World File) (held : File → World → Bytes)
    (position : File → Nat) : Prop where
  opened : ∀ {path w file size}, desk.openFile path w = .ok (file, size) →
    position file = 0 ∧ size = (held file w).length
  same : ∀ {file want w answer file' w'}, desk.read file want w = (answer, file', w') →
    held file' = held file
  read : ∀ {file want w bytes file' w'}, desk.read file want w = (.ok bytes, file', w') →
    bytes.val <+: (held file w).drop (position file) ∧
      position file' = position file + bytes.val.length ∧
      (bytes.val = [] → want = 0 ∨ (held file w).length ≤ position file)

/-- The same desk with reads cut short: none gives more than `most` bytes, but every one gives
a byte if it can. -/
def rationed (desk : ArchiveDesk World File) (most : File → World → Nat) :
    ArchiveDesk World File :=
  { desk with
    read := fun file want w =>
      let (r, file, w) := desk.read file (min want (max 1 (most file w))) w
      (r.map fun bytes => ⟨bytes.val, Nat.le_trans bytes.property (Nat.min_le_left ..)⟩, file, w) }

theorem read_of_rationed {desk : ArchiveDesk World File} {most : File → World → Nat}
    {file file' : File} {want : Nat} {bytes} {w w' : World}
    (read : (desk.rationed most).read file want w = (.ok bytes, file', w')) :
    ∃ got, desk.read file (min want (max 1 (most file w))) w = (.ok got, file', w') ∧
      got.val = bytes.val := by
  obtain ⟨answer, moved⟩ := Prod.mk.inj read
  cases got : (desk.read file (min want (max 1 (most file w))) w).1 with
  | error e =>
    rw [got] at answer
    cases answer
  | ok bytes =>
    rw [got] at answer
    cases answer
    exact ⟨bytes, Prod.ext got moved, rfl⟩

theorem ReadsOn.rationed {desk : ArchiveDesk World File} {held : File → World → Bytes}
    {position : File → Nat} (reads : desk.ReadsOn held position) (most : File → World → Nat) :
    (desk.rationed most).ReadsOn held position where
  opened := reads.opened
  same := by
    intro file want w answer file' w' read
    cases read
    exact reads.same rfl
  read := by
    intro file want w bytes file' w' read
    have positive : 1 ≤ max 1 (most file w) := Nat.le_max_left ..
    obtain ⟨got, underlying, same⟩ := read_of_rationed read
    rw [← same]
    obtain ⟨begins, moves, ends⟩ := reads.read underlying
    refine ⟨begins, moves, fun nothing => ?_⟩
    rcases ends nothing with zero | done
    · exact .inl (by omega)
    · exact .inr done

/-- A read of the file of a handle, on from some position, fails for this reason. -/
def Fails (desk : ArchiveDesk World File) (held : File → World → Bytes) (position : File → Nat)
    (file : File) (stands : Nat) (w : World) (reason : String) : Prop :=
  ∃ now want, held now = held file ∧ position now = stands ∧
    (desk.read now want w).1 = .error reason

end ArchiveDesk

namespace ArchiveStore

/-- What the file of a handle holds.  A directory can be opened but not read, and stands for as
many zeros as it reports. -/
def held (h : FileHandle) (a : ArchiveStore) : Bytes :=
  match h.node with
  | .file n => a.files.content n
  | .directory => List.replicate FileSystem.directorySize 0

theorem node_read (files : FileSystem) (h : FileHandle) (want : Nat) :
    (files.read h want).2.node = h.node := by
  unfold FileSystem.read
  split
  · rfl
  · rfl

theorem readsOn_desk : desk.ReadsOn held FileHandle.position where
  opened := by
    intro path a h size opened
    unfold desk FileSystem.openFile at opened
    dsimp only at opened
    cases found : a.files.find path with
    | error e =>
      rw [found] at opened
      cases opened
    | ok node =>
      rw [found] at opened
      cases opened
      refine ⟨rfl, ?_⟩
      cases node with
      | directory => exact List.length_replicate.symm
      | file n => rfl
  same := by
    intro h want a answer h' a' read
    cases read
    show held (a.files.read h want).2 = held h
    unfold held
    rw [node_read]
  read := by
    intro h want a bytes h' a' read
    unfold desk FileSystem.read at read
    dsimp only at read
    cases node : h.node with
    | directory =>
      rw [node] at read
      cases read
    | file n =>
      rw [node] at read
      cases read
      unfold held
      rw [node]
      refine ⟨List.take_prefix .., rfl, fun nothing => ?_⟩
      have nothing : ((a.files.content n).drop h.position).take want = [] := nothing
      rw [List.take_eq_nil_iff, List.drop_eq_nil_iff] at nothing
      exact nothing

end ArchiveStore

/-! ## Keeping count of what is discarded -/

/-- A world with the tokens that were discarded in it, oldest first. -/
structure Noted (World : Type) where
  world : World
  discarded : List String := []

namespace ArchiveDesk

/-- The same desk, with the tokens that it discards written down. -/
def noted (desk : ArchiveDesk World File) : ArchiveDesk (Noted World) File :=
  { desk.inside Noted.world (fun w n => { n with world := w }) with
    discard := fun token n => ⟨desk.discard token n.world, n.discarded ++ [token]⟩ }

theorem read_of_noted {desk : ArchiveDesk World File} {file file' : File} {want : Nat} {answer}
    {n n' : Noted World} (read : desk.noted.read file want n = (answer, file', n')) :
    ∃ w, desk.read file want n.world = (answer, file', w) ∧ n' = { n with world := w } := by
  cases read
  exact ⟨_, rfl, rfl⟩

end ArchiveDesk

namespace Relay

variable {desk : ArchiveDesk World File}

/-! ## A relay in use -/

/-- What the user of a relay asks of it. -/
inductive Turn where
  /-- The next chunk. -/
  | next
  /-- To close the file and to discard the token. -/
  | release

/-- What came of a turn. -/
inductive Deed (World : Type) where
  /-- The answer to the question for a chunk, and the world that it was asked in. -/
  | answered (w : World) (answer : Except TransferError Chunk)
  | released

namespace Deed

/-- The bytes that were handed out. -/
def data : Deed World → Bytes
  | answered _ (.ok chunk) => chunk.data
  | _ => []

def isAnswer : Deed World → Bool
  | answered .. => true
  | released => false

/-- It is neither the last chunk nor an error. -/
def goesOn : Deed World → Bool
  | answered _ (.ok chunk) => !chunk.done
  | answered _ (.error _) => false
  | released => true

/-- It is the last chunk or a release. -/
def finishes : Deed World → Bool
  | answered _ (.ok chunk) => chunk.done
  | answered _ (.error _) => false
  | released => true

end Deed

/-- The bytes that were handed out, one chunk after the other. -/
def handed (deeds : List (Deed World)) : Bytes := deeds.flatMap Deed.data

/-- A relay in use, with the world that it is in and all that was done. -/
structure Use (World File : Type) where
  relay : Relay File
  noted : Noted World
  deeds : List (Deed World) := []

namespace Use

/-- The world becomes another one. -/
def change (f : World → World) (s : Use World File) : Use World File :=
  { s with noted := { s.noted with world := f s.noted.world } }

def turn (desk : ArchiveDesk World File) (s : Use World File) : Turn → Use World File
  | .next =>
    let (answer, relay, noted) := s.relay.nextChunk desk.noted s.noted
    ⟨relay, noted, s.deeds ++ [.answered s.noted.world answer]⟩
  | .release =>
    let (relay, noted) := s.relay.release desk.noted s.noted
    ⟨relay, noted, s.deeds ++ [.released]⟩

/-- Turns, and before each of them a change of the world. -/
def run (desk : ArchiveDesk World File) (s : Use World File)
    (turns : List ((World → World) × Turn)) : Use World File :=
  turns.foldl (fun s (f, t) => (s.change f).turn desk t) s

end Use

/-! ## What the chunks are -/

/-- A chunk goes on after the first `sent` bytes of a file that holds `content` now, and had `size`
bytes when it was opened. -/
structure Continues (content : Bytes) (size buffer sent : Nat) (chunk : Chunk) : Prop where
  begins : chunk.data <+: content.drop sent
  fits : chunk.data.length ≤ buffer
  nonempty : chunk.data = [] → size = 0
  bounded : sent + chunk.data.length ≤ size
  ends : chunk.done = true ↔ sent + chunk.data.length = size

/-- What is answered in a world after `before`, of a file with `size` bytes when it was opened,
with a buffer of `buffer` bytes. -/
def Follows (desk : ArchiveDesk World File) (held : File → World → Bytes) (position : File → Nat)
    (file : File) (size buffer : Nat) (before : List (Deed World)) (w : World) :
    Except TransferError Chunk → Prop
  | .ok chunk => Continues (held file w) size buffer (handed before).length chunk
  | .error (.truncated missing) =>
    (handed before).length < size ∧ missing = size - (handed before).length ∧
      ((held file w).length ≤ (handed before).length ∨ .released ∈ before)
  | .error (.archive reason) =>
    desk.Fails held position file (handed before).length w reason
  | .error _ => False

/-- All answers up to the first last chunk or error are as they have to be, and there are no more
of them than the file has bytes. -/
def Relayed (desk : ArchiveDesk World File) (held : File → World → Bytes) (position : File → Nat)
    (file : File) (size buffer : Nat) (deeds : List (Deed World)) : Prop :=
  ∀ {before w answer after}, deeds = before ++ .answered w answer :: after →
    before.all Deed.goesOn = true →
    Follows desk held position file size buffer before w answer ∧
      before.countP Deed.isAnswer < max 1 size

section Answers

variable {held : File → World → Bytes} {position : File → Nat} {file : File} {size buffer : Nat}
  {deeds : List (Deed World)}

theorem handed_concat (deeds : List (Deed World)) (d : Deed World) :
    handed (deeds ++ [d]) = handed deeds ++ d.data := by
  unfold handed
  rw [List.flatMap_append, List.flatMap_singleton]

theorem Relayed.nil : Relayed desk held position file size buffer [] := by
  intro before w answer after split
  simp at split

theorem Relayed.concat (relayed : Relayed desk held position file size buffer deeds)
    {d : Deed World}
    (next : ∀ {w answer}, d = .answered w answer → deeds.all Deed.goesOn = true →
      Follows desk held position file size buffer deeds w answer ∧
        deeds.countP Deed.isAnswer < max 1 size) :
    Relayed desk held position file size buffer (deeds ++ [d]) := by
  intro before w answer after split goes
  rcases List.eq_nil_or_concat after with rfl | ⟨after, last, rfl⟩
  · obtain ⟨rfl, rfl⟩ := List.concat_inj.1 (by simpa using split)
    exact next rfl goes
  · obtain ⟨rfl, rfl⟩ : deeds = before ++ .answered w answer :: after ∧ d = last := by
      have split : deeds ++ [d] = (before ++ .answered w answer :: after) ++ [last] := by
        simpa using split
      exact ⟨List.append_inj_left' split rfl, by simpa using List.append_inj_right' split rfl⟩
    exact relayed rfl goes

theorem Relayed.left {more : List (Deed World)}
    (relayed : Relayed desk held position file size buffer (deeds ++ more)) :
    Relayed desk held position file size buffer deeds := by
  intro before w answer after split goes
  have longer : deeds ++ more = before ++ .answered w answer :: (after ++ more) := by
    rw [split, List.append_assoc]
    rfl
  exact relayed longer goes

theorem Relayed.last {w : World} {answer : Except TransferError Chunk}
    (relayed : Relayed desk held position file size buffer (deeds ++ [.answered w answer]))
    (goes : deeds.all Deed.goesOn = true) :
    Follows desk held position file size buffer deeds w answer :=
  (relayed rfl goes).1

/-- Of an archive that stays as it was when it was opened, the start is handed out. -/
theorem Relayed.isPrefix {content : Bytes}
    (relayed : Relayed desk held position file content.length buffer deeds)
    (still : ∀ {w answer}, .answered w answer ∈ deeds → held file w = content)
    (goes : deeds.dropLast.all Deed.goesOn = true) : handed deeds <+: content := by
  induction deeds using List.reverseRecOn with
  | nil => exact List.nil_prefix
  | append_singleton before d ih =>
    rw [List.dropLast_concat] at goes
    have earlier : handed before <+: content := by
      refine ih relayed.left (fun mem => still (List.mem_append_left _ mem)) ?_
      rw [List.all_eq_true] at goes ⊢
      exact fun d mem => goes d (List.dropLast_subset _ mem)
    rw [handed_concat]
    cases d with
    | released => rwa [show (Deed.released : Deed World).data = [] from rfl, List.append_nil]
    | answered w answer =>
      cases answer with
      | error e => rwa [show (Deed.answered w (.error e)).data = [] from rfl, List.append_nil]
      | ok chunk =>
        have begins := (relayed.last goes).begins
        rw [still (List.mem_append_right _ (List.mem_singleton.2 rfl))] at begins
        obtain ⟨rest, whole⟩ := earlier
        rw [← whole, List.drop_left] at begins
        rw [← whole]
        exact (List.prefix_append_right_inj _).2 begins

/-- An archive that stays as it was when it was opened is handed out as a whole, once a chunk
says that it is the last one. -/
theorem Relayed.whole {content : Bytes} {w : World} {chunk : Chunk}
    (relayed : Relayed desk held position file content.length buffer
      (deeds ++ [.answered w (.ok chunk)]))
    (still : ∀ {w' answer}, .answered w' answer ∈ deeds ++ [.answered w (.ok chunk)] →
      held file w' = content)
    (goes : deeds.all Deed.goesOn = true) (done : chunk.done = true) :
    handed (deeds ++ [.answered w (.ok chunk)]) = content := by
  have start := relayed.isPrefix still (by rwa [List.dropLast_concat])
  have ends := (relayed.last goes).ends
  refine start.eq_of_length ?_
  rw [handed_concat, List.length_append]
  exact ends.1 done

end Answers

/-! ## What every turn keeps -/

/-- A relay that goes on: what it handed out, what is left, and where its file stands. -/
structure Going (held : File → World → Bytes) (position : File → Nat) (file : File) (size : Nat)
    (s : Use World File) : Prop where
  counted : (handed s.deeds).length + s.relay.remaining = size
  nonzero : s.relay.remaining = 0 → size = 0
  answers : s.deeds.countP Deed.isAnswer ≤ (handed s.deeds).length
  same : ∀ {now}, s.relay.file = some now →
    held now = held file ∧ position now = (handed s.deeds).length
  closed : s.relay.file = none → .released ∈ s.deeds

/-- The token of a relay is written down once it is discarded, and just once. -/
def Notes (r : Relay File) (n : Noted World) : Prop :=
  n.discarded = if r.discarded then [r.token] else []

/-- What every turn keeps. -/
structure Keeps (desk : ArchiveDesk World File) (held : File → World → Bytes)
    (position : File → Nat) (file : File) (size buffer : Nat) (token : String)
    (s : Use World File) : Prop where
  relayed : Relayed desk held position file size buffer s.deeds
  token_eq : s.relay.token = token
  buffer_eq : s.relay.buffer = buffer
  discarded : s.relay.discarded = s.deeds.any Deed.finishes
  notes : s.relay.Notes s.noted
  going : s.deeds.all Deed.goesOn = true → Going held position file size s

section Steps

variable {held : File → World → Bytes} {position : File → Nat} {file : File} {size buffer : Nat}
  {token : String} {r : Relay File} {n : Noted World} {s : Use World File}
  {sent : Except TransferError Chunk × Relay File × Noted World}

theorem Notes.release (notes : r.Notes n) :
    (r.release desk.noted n).1.Notes (r.release desk.noted n).2 := by
  unfold Notes at notes ⊢
  show (if r.discarded then n else desk.noted.discard r.token n).discarded = [r.token]
  cases gone : r.discarded with
  | true => simpa [gone] using notes
  | false =>
    rw [gone] at notes
    show n.discarded ++ [r.token] = [r.token]
    rw [notes]
    rfl

theorem Sends.notes (sends : r.Sends desk.noted n sent) (notes : r.Notes n) :
    sent.2.1.Notes sent.2.2 := by
  cases sends with
  | finished => exact notes.release
  | closed => exact notes
  | failed _ _ read | short _ _ read | more _ read =>
    obtain ⟨w, -, rfl⟩ := ArchiveDesk.read_of_noted read
    exact notes
  | last _ _ read =>
    obtain ⟨w, -, rfl⟩ := ArchiveDesk.read_of_noted read
    exact Notes.release notes

theorem Sends.frame (sends : r.Sends desk.noted n sent) (w : World) :
    sent.2.1.token = r.token ∧ sent.2.1.buffer = r.buffer ∧
      sent.2.1.discarded = (r.discarded || (Deed.answered w sent.1).finishes) := by
  cases sends with
  | finished | last => exact ⟨rfl, rfl, (Bool.or_true _).symm⟩
  | closed | failed | short | more => exact ⟨rfl, rfl, (Bool.or_false _).symm⟩

/-- What is read while the relay goes on. -/
theorem Going.read (reads : desk.ReadsOn held position)
    (going : Going held position file size s) {now now' : File} {bytes} {n : Noted World}
    (opened : s.relay.file = some now)
    (read : desk.noted.read now (min s.relay.remaining s.relay.buffer) s.noted =
      (.ok bytes, now', n)) :
    bytes.val <+: (held file s.noted.world).drop (handed s.deeds).length ∧
      held now' = held file ∧ position now' = (handed s.deeds ++ bytes.val).length ∧
      (bytes.val = [] → s.relay.remaining = 0 ∨
        (held file s.noted.world).length ≤ (handed s.deeds).length) := by
  obtain ⟨w, underlying, rfl⟩ := ArchiveDesk.read_of_noted read
  obtain ⟨same, stands⟩ := going.same opened
  obtain ⟨begins, moves, ends⟩ := reads.read underlying
  rw [same, stands] at begins ends
  refine ⟨begins, (reads.same underlying).trans same, ?_, fun nothing => ?_⟩
  · rw [moves, stands, List.length_append]
  · have positive := s.relay.buffer_pos
    exact (ends nothing).imp_left fun zero => by omega

theorem Going.follows (reads : desk.ReadsOn held position)
    (going : Going held position file size s) (sends : s.relay.Sends desk.noted s.noted sent) :
    Follows desk held position file size s.relay.buffer s.deeds s.noted.world sent.1 := by
  have counted := going.counted
  cases sends with
  | finished zero =>
    have empty := going.nonzero zero
    have all : (handed s.deeds).length + 0 = size := by omega
    exact {
      begins := List.nil_prefix
      fits := Nat.zero_le _
      nonempty := fun _ => empty
      bounded := Nat.le_of_eq all
      ends := ⟨fun _ => all, fun _ => rfl⟩ }
  | closed left file => exact ⟨by omega, by omega, .inr (going.closed file)⟩
  | failed _ opened read =>
    obtain ⟨w, read, -⟩ := ArchiveDesk.read_of_noted read
    obtain ⟨same, stands⟩ := going.same opened
    exact ⟨_, _, same, stands, congrArg Prod.fst read⟩
  | short left opened read nothing =>
    obtain ⟨-, -, -, ends⟩ := going.read reads opened read
    exact ⟨by omega, by omega, .inl ((ends nothing).resolve_left left)⟩
  | @last _ _ bytes _ left opened read something all =>
    have fits := bytes.property
    have whole : (handed s.deeds).length + bytes.val.length = size := by omega
    exact {
      begins := (going.read reads opened read).1
      fits := by
        show bytes.val.length ≤ _
        omega
      nonempty := fun nothing => absurd nothing something
      bounded := Nat.le_of_eq whole
      ends := ⟨fun _ => whole, fun _ => rfl⟩ }
  | @more _ _ bytes _ opened read something some =>
    have fits := bytes.property
    have part : (handed s.deeds).length + bytes.val.length < size := by omega
    exact {
      begins := (going.read reads opened read).1
      fits := by
        show bytes.val.length ≤ _
        omega
      nonempty := fun nothing => absurd nothing something
      bounded := Nat.le_of_lt part
      ends := ⟨nofun, fun whole => absurd whole (Nat.ne_of_lt part)⟩ }

theorem Going.next (reads : desk.ReadsOn held position)
    (going : Going held position file size s) (sends : s.relay.Sends desk.noted s.noted sent)
    {w : World} (goes : (Deed.answered w sent.1).goesOn = true) :
    Going held position file size ⟨sent.2.1, sent.2.2, s.deeds ++ [.answered w sent.1]⟩ := by
  cases sends with
  | finished | closed | failed | short | last => cases goes
  | @more _ _ bytes _ opened read something some =>
    obtain ⟨-, same, stands, -⟩ := going.read reads opened read
    have counted := going.counted
    have answers := going.answers
    have data : handed (s.deeds ++ [.answered w (.ok (.more bytes.val))]) =
        handed s.deeds ++ bytes.val := handed_concat ..
    have positive : 0 < bytes.val.length := List.length_pos_iff.2 something
    exact {
      counted := by
        dsimp only
        rw [data, List.length_append]
        omega
      nonzero := fun zero => by
        dsimp only at zero
        omega
      answers := by
        dsimp only
        rw [data, List.length_append, List.countP_append]
        simp [Deed.isAnswer]
        omega
      same := by
        intro now opened
        cases opened
        dsimp only
        rw [data]
        exact ⟨same, stands⟩
      closed := nofun }

theorem Going.release (going : Going held position file size s) :
    Going held position file size (s.turn desk .release) := by
  have data : handed (s.deeds ++ [.released]) = handed s.deeds :=
    (handed_concat ..).trans (List.append_nil _)
  exact {
    counted := by
      show (handed (s.deeds ++ [.released])).length + s.relay.remaining = size
      rw [data]
      exact going.counted
    nonzero := going.nonzero
    answers := by
      show (s.deeds ++ [Deed.released]).countP Deed.isAnswer ≤
        (handed (s.deeds ++ [.released])).length
      rw [data, List.countP_append]
      exact going.answers
    same := nofun
    closed := fun _ => List.mem_append_right s.deeds (List.mem_singleton.2 rfl) }

theorem Keeps.change (keeps : Keeps desk held position file size buffer token s)
    (f : World → World) : Keeps desk held position file size buffer token (s.change f) :=
  { keeps with going := fun goes => { keeps.going goes with } }

theorem Keeps.next (reads : desk.ReadsOn held position)
    (keeps : Keeps desk held position file size buffer token s)
    (sends : s.relay.Sends desk.noted s.noted sent) :
    Keeps desk held position file size buffer token
      ⟨sent.2.1, sent.2.2, s.deeds ++ [.answered s.noted.world sent.1]⟩ := by
  obtain ⟨token_eq, buffer_eq, discarded⟩ := sends.frame s.noted.world
  exact {
    relayed := Relayed.concat keeps.relayed fun same goes => by
      cases same
      have going := keeps.going goes
      have follows := going.follows reads sends
      rw [keeps.buffer_eq] at follows
      refine ⟨follows, ?_⟩
      have answers := going.answers
      have counted := going.counted
      have nonzero := going.nonzero
      omega
    token_eq := token_eq.trans keeps.token_eq
    buffer_eq := buffer_eq.trans keeps.buffer_eq
    discarded := by
      rw [keeps.discarded] at discarded
      simpa using discarded
    notes := sends.notes keeps.notes
    going := fun goes => by
      obtain ⟨before, last⟩ : s.deeds.all Deed.goesOn = true ∧
          (Deed.answered s.noted.world sent.1).goesOn = true := by
        simpa using goes
      exact (keeps.going before).next reads sends last }

theorem Keeps.release (keeps : Keeps desk held position file size buffer token s) :
    Keeps desk held position file size buffer token (s.turn desk .release) where
  relayed := Relayed.concat keeps.relayed fun same => by cases same
  token_eq := keeps.token_eq
  buffer_eq := keeps.buffer_eq
  discarded := by
    show true = (s.deeds ++ [Deed.released]).any Deed.finishes
    simp [Deed.finishes]
  notes := keeps.notes.release
  going := fun goes => by
    have goes : (s.deeds ++ [Deed.released]).all Deed.goesOn = true := goes
    rw [List.all_append, Bool.and_eq_true] at goes
    exact (keeps.going goes.1).release

theorem Keeps.turn (reads : desk.ReadsOn held position)
    (keeps : Keeps desk held position file size buffer token s) (t : Turn) :
    Keeps desk held position file size buffer token (s.turn desk t) := by
  cases t with
  | next => exact keeps.next reads (s.relay.nextChunk_sends desk.noted s.noted)
  | release => exact keeps.release

theorem Keeps.run (reads : desk.ReadsOn held position)
    (keeps : Keeps desk held position file size buffer token s)
    (turns : List ((World → World) × Turn)) :
    Keeps desk held position file size buffer token (s.run desk turns) := by
  induction turns generalizing s with
  | nil => exact keeps
  | cons t turns ih => exact ih ((keeps.change t.1).turn reads t.2)

end Steps

/-! ## The whole relay -/

theorem openFile_keeps {position : File → Nat} (reads : desk.ReadsOn held position)
    {path token : String} {buffer : Nat} {w : World} {r : Relay File}
    (opened : openFile desk path token buffer w = .ok r) :
    ∃ file, desk.openFile path w = .ok (file, r.size) ∧ r.size = (held file w).length ∧
      Keeps desk held position file r.size (max 1 buffer) token ⟨r, ⟨w, []⟩, []⟩ := by
  unfold openFile at opened
  cases found : desk.openFile path w with
  | error e =>
    rw [found] at opened
    cases opened
  | ok answer =>
    obtain ⟨file, size⟩ := answer
    rw [found] at opened
    cases opened
    obtain ⟨start, size_eq⟩ := reads.opened found
    refine ⟨file, rfl, size_eq, ?_⟩
    exact {
      relayed := Relayed.nil
      token_eq := rfl
      buffer_eq := rfl
      discarded := rfl
      notes := rfl
      going := fun _ => {
        counted := Nat.zero_add _
        nonzero := id
        answers := Nat.le_refl _
        same := by
          intro now same
          cases same
          exact ⟨rfl, start⟩
        closed := nofun } }

/-- A relay hands out the bytes of its archive from the first one on, each as it was when it was
read, and never more than the archive had when it was opened.  It is done once it handed out as
many; if the archive ends before, it says how many are missing.  However it is used, and even if
its file changes between any two turns, its token is discarded with the last chunk or with the
first release, and just once. -/
theorem relayed_exactly {held : File → World → Bytes} {position : File → Nat}
    (reads : desk.ReadsOn held position) {path token : String} (buffer : Nat) {w : World}
    {r : Relay File} (opened : openFile desk path token buffer w = .ok r)
    (turns : List ((World → World) × Turn)) :
    ∃ file, desk.openFile path w = .ok (file, r.size) ∧ r.size = (held file w).length ∧
      let s := Use.run desk ⟨r, ⟨w, []⟩, []⟩ turns
      Relayed desk held position file r.size (max 1 buffer) s.deeds ∧
        s.noted.discarded = if s.deeds.any Deed.finishes then [token] else [] := by
  obtain ⟨file, found, size, keeps⟩ := openFile_keeps reads opened
  have kept := keeps.run reads turns
  refine ⟨file, found, size, kept.relayed, ?_⟩
  have notes := kept.notes
  unfold Notes at notes
  rw [kept.discarded, kept.token_eq] at notes
  exact notes

/-- An archive of five bytes. -/
def fiveBytes : ArchiveStore where
  registry := { directory := "/", registered := ⟨[("t", "/a.zip")]⟩ }
  files := {
    nodes := ⟨[(["a.zip"], .file 0)]⟩
    contents := ⟨[(0, [1, 2, 3, 4, 5])]⟩
    fresh := 1 }

/-- It is cut to three bytes after two of them were sent. -/
def shrinking : List ((ArchiveStore → ArchiveStore) × Turn) :=
  [(id, .next), (fun a => { a with files := a.files.setContent 0 [1, 2, 3] }, .next),
    (id, .next), (id, .release), (id, .release)]

theorem relayed_exactly_of_shrunk :
    ∃ r, openFile (ArchiveStore.desk.rationed fun _ _ => 2) "/a.zip" "t" 4 fiveBytes = .ok r ∧
      let s := Use.run (ArchiveStore.desk.rationed fun _ _ => 2) ⟨r, ⟨fiveBytes, []⟩, []⟩ shrinking
      Relayed (ArchiveStore.desk.rationed fun _ _ => 2) ArchiveStore.held FileHandle.position
          ⟨.file 0, 0⟩ 5 4 s.deeds ∧
        handed s.deeds = [1, 2, 3] ∧ s.noted.discarded = ["t"] := by
  have found : ArchiveStore.desk.openFile "/a.zip" fiveBytes = .ok (⟨.file 0, 0⟩, 5) := by
    decide +kernel
  have opened : openFile (ArchiveStore.desk.rationed fun _ _ => 2) "/a.zip" "t" 4 fiveBytes =
      .ok ⟨some ⟨.file 0, 0⟩, 5, 5, "t", false, 4, by decide⟩ := by
    unfold openFile ArchiveDesk.rationed
    dsimp only
    rw [found]
    rfl
  obtain ⟨file, same, -, relayed, discarded⟩ :=
    relayed_exactly (ArchiveStore.readsOn_desk.rationed fun _ _ => 2) 4 opened shrinking
  obtain rfl : (⟨.file 0, 0⟩ : FileHandle) = file := by
    have same : (.ok (⟨.file 0, 0⟩, 5) : Except String _) = .ok (file, 5) := found.symm.trans same
    cases same
    rfl
  exact ⟨_, opened, relayed, by decide +kernel, discarded.trans (if_pos (by decide +kernel))⟩

end Relay

end StreamGate
