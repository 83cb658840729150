import StreamGate.Proofs.Storage.BlockPlaces

/-!
# Puts whose calls fail

A put makes calls to the operating system: it makes directories one by one, opens its
temporary file, writes some of its data at a time, waits for the disk and renames.  Any of
them may fail for reasons of its own, or the put may not live to make it.

* `Outages`: which calls fail.
* `System.makeAll`, `Directory.putUnder`: making directories and putting a block, call by call.
* `Directory.put_eq_putUnder`: if no call fails, this is a put.
-/

namespace StreamGate

/-- Which calls fail, by their number, and with which error.  A put that is cut off before a
call leaves what it leaves if this call fails and so do all that it would go on to make. -/
abbrev Outages := Nat → Option IoError

/-- No call fails for reasons of its own. -/
def Outages.never : Outages := fun _ => none

/-- Files, and how many calls have been made on them. -/
structure System where
  files : FileSystem
  calls : Nat := 0

namespace System

/-- A call later, with these files. -/
def next (s : System) (fs : FileSystem) : System := ⟨fs, s.calls + 1⟩

@[simp] theorem files_next (s : System) (fs : FileSystem) : (s.next fs).files = fs := rfl

/-- Makes a call.  One that fails by an outage does nothing. -/
def call {α : Type} (out : Outages) (act : FileSystem → Except IoError α × FileSystem)
    (s : System) : Except IoError α × System :=
  match out s.calls with
  | some e => (.error e, s.next s.files)
  | none => ((act s.files).1, s.next (act s.files).2)

/-- A directory that could not be made may be there already. -/
def unlessThere (out : Outages) (start : Place) (names : List String) (e : IoError) (s : System) :
    Except IoError Unit × System :=
  match s.call out fun fs => (.ok (fs.isDirectoryAt start names), fs) with
  | (.ok true, s) => (.ok (), s)
  | (_, s) => (.error e, s)

/-- `FileSystem.makeAllAt`, call by call. -/
def makeAll (out : Outages) (start : Place) : List String → System → Except IoError Unit × System
  | [], s => (.ok (), s)
  | name :: above, s =>
    let names := (name :: above).reverse
    match s.call out (FileSystem.attempt fun fs => fs.makeAt start names) with
    | (.ok (), s) => (.ok (), s)
    | (.error .notFound, s) =>
      match makeAll out start above s with
      | (.error e, s) => (.error e, s)
      | (.ok (), s) =>
        match s.call out (FileSystem.attempt fun fs => fs.makeAt start names) with
        | (.ok (), s) => (.ok (), s)
        | (.error e, s) => s.unlessThere out start names e
    | (.error e, s) => s.unlessThere out start names e

/-- `FileSystem.makeDirectories`, call by call, for a path that does not end in a dot. -/
def makeDirectories (out : Outages) (path : String) (s : System) : Except IoError Unit × System :=
  if path.toList.contains '\x00' then (.error .nulInPath, s)
  else if FileSystem.maxPath < path.utf8ByteSize then (.error .nameTooLong, s)
  else s.makeAll out (s.files.startOf path) (Path.parse path).names.reverse

end System

namespace BlockWrite

/-- Takes one step; making the directories takes several calls, any other step one. -/
def stepUnder (out : Outages) (p : BlockWrite) (s : System) :
    Step → Except IoError Unit × BlockWrite × System
  | .makeGroup =>
    let (r, s) := s.makeDirectories out p.group
    (r, p, s)
  | step =>
    match out s.calls with
    | some e => (.error e, p, s.next s.files)
    | none =>
      let (r, p, fs) := p.step s.files step
      (r, p, s.next fs)

/-- Takes steps until one fails. -/
def runUnder (out : Outages) (p : BlockWrite) (s : System) :
    List Step → Except IoError Unit × System
  | [] => (.ok (), s)
  | step :: rest =>
    match p.stepUnder out s step with
    | (.error e, _, s) => (.error e, s)
    | (.ok (), p, s) => p.runUnder out s rest

end BlockWrite

/-- Puts a block, whose data is written in pieces, while calls fail. -/
def Directory.putUnder (d : Directory) (out : Outages) (ref : StoreRef) (id : BlockId)
    (pieces : List Bytes) (fs : FileSystem) : Except Failure Unit × FileSystem :=
  let (r, s) := (d.beginWrite ref id).runUnder out ⟨fs, 0⟩ (BlockWrite.steps pieces)
  (r.mapError fun e => .io e.message, s.files)

/-! ## Without outages -/

namespace System

@[simp] theorem call_never {α : Type} (act : FileSystem → Except IoError α × FileSystem)
    (s : System) :
    s.call .never act = ((act s.files).1, s.next (act s.files).2) := rfl

theorem call_never_attempt (change : FileSystem → Except IoError FileSystem) (s : System) :
    s.call .never (FileSystem.attempt change) =
      match change s.files with
      | .ok fs => (.ok (), s.next fs)
      | .error e => (.error e, s.next s.files) := by
  rw [call_never, FileSystem.attempt]
  cases change s.files <;> rfl

theorem unlessThere_never (start : Place) (names : List String) (e : IoError) (s : System) :
    (s.unlessThere .never start names e).1 =
        (if s.files.isDirectoryAt start names then .ok () else .error e) ∧
      (s.unlessThere .never start names e).2.files = s.files := by
  unfold unlessThere
  rw [call_never]
  generalize s.files.isDirectoryAt start names = there
  cases there with
  | false => exact ⟨rfl, rfl⟩
  | true => exact ⟨rfl, rfl⟩

/-- If no call fails, the calls make what is made in one go. -/
theorem makeAll_never (start : Place) (names : List String) (s : System) :
    (s.makeAll .never start names).1 = (s.files.makeAllAt start names).1 ∧
      (s.makeAll .never start names).2.files = (s.files.makeAllAt start names).2 := by
  induction names generalizing s with
  | nil => exact ⟨rfl, rfl⟩
  | cons name above ih =>
    unfold makeAll FileSystem.makeAllAt
    simp only [call_never_attempt]
    cases s.files.makeAt start (name :: above).reverse with
    | ok fs => exact ⟨rfl, rfl⟩
    | error e =>
      cases e with
      | notFound =>
        obtain ⟨same, files⟩ := ih (s.next s.files)
        rw [files_next] at same files
        dsimp only
        generalize s.files.makeAllAt start above = want at same files ⊢
        generalize (s.next s.files).makeAll .never start above = got at same files ⊢
        obtain ⟨r, s₁⟩ := got
        obtain ⟨r', fs₁⟩ := want
        obtain rfl : r = r' := same
        obtain rfl : s₁.files = fs₁ := files
        cases r with
        | error e => exact ⟨rfl, rfl⟩
        | ok done =>
          dsimp only
          cases s₁.files.makeAt start (name :: above).reverse with
          | ok fs => exact ⟨rfl, rfl⟩
          | error e => exact (s₁.next s₁.files).unlessThere_never start _ e
      | _ => exact (s.next s.files).unlessThere_never start _ _

theorem makeDirectories_never {path : String} (named : (Path.parse path).endsInDot = false)
    (s : System) :
    (s.makeDirectories .never path).1 = (s.files.makeDirectories path).1 ∧
      (s.makeDirectories .never path).2.files = (s.files.makeDirectories path).2 := by
  unfold makeDirectories FileSystem.makeDirectories
  dsimp only
  rw [named]
  split
  · exact ⟨rfl, rfl⟩
  · split
    · exact ⟨rfl, rfl⟩
    · exact makeAll_never ..

end System

theorem BlockWrite.group_step (p : BlockWrite) (fs : FileSystem) (step : BlockWrite.Step) :
    (p.step fs step).2.1.group = p.group := by
  cases step with
  | makeGroup | sync => rfl
  | createTemporary =>
    simp only [BlockWrite.step]
    cases fs.create p.temporary <;> rfl
  | append bytes =>
    simp only [BlockWrite.step]
    cases p.file <;> rfl
  | publish =>
    simp only [BlockWrite.step]
    cases fs.rename p.temporary p.target <;> rfl

/-- If no call fails, a put is what it is call by call. -/
theorem BlockWrite.runUnder_never {p : BlockWrite} (named : (Path.parse p.group).endsInDot = false)
    (s : System) (steps : List BlockWrite.Step) :
    (p.runUnder .never s steps).1 = (p.run s.files steps).1 ∧
      (p.runUnder .never s steps).2.files = (p.run s.files steps).2 := by
  induction steps generalizing p s with
  | nil => exact ⟨rfl, rfl⟩
  | cons step rest ih =>
    obtain ⟨same, put, files⟩ : (p.stepUnder .never s step).1 = (p.step s.files step).1 ∧
        (p.stepUnder .never s step).2.1 = (p.step s.files step).2.1 ∧
        (p.stepUnder .never s step).2.2.files = (p.step s.files step).2.2 := by
      cases step with
      | makeGroup =>
        obtain ⟨same, files⟩ := System.makeDirectories_never named s
        exact ⟨same, rfl, files⟩
      | _ => exact ⟨rfl, rfl, rfl⟩
    have group := p.group_step s.files step
    unfold runUnder run
    generalize p.stepUnder .never s step = got at same put files ⊢
    generalize p.step s.files step = want at same put files group ⊢
    obtain ⟨r, p₁, s₁⟩ := got
    obtain ⟨r', p₁', fs₁⟩ := want
    obtain rfl : r = r' := same
    obtain rfl : p₁ = p₁' := put
    obtain rfl : s₁.files = fs₁ := files
    cases r with
    | error e => exact ⟨rfl, rfl⟩
    | ok done =>
      have named : (Path.parse p₁.group).endsInDot = false := by
        rw [show p₁.group = p.group from group, named]
      exact ih named s₁

/-- If no call fails, the calls make up a put. -/
theorem Directory.put_eq_putUnder (d : Directory) (ref : StoreRef) (id : BlockId) (data : Bytes)
    (fs : FileSystem) : d.put ref id data fs = d.putUnder .never ref id [data] fs := by
  have named : (Path.parse (d.groupPath ref id)).endsInDot = false := by
    rw [groupPath, Path.parse_join id.isComponent_group]
  obtain ⟨same, files⟩ := BlockWrite.runUnder_never (p := d.beginWrite ref id) named ⟨fs, 0⟩
    (BlockWrite.steps [data])
  unfold put putUnder
  dsimp only at same files ⊢
  rw [same, files]

end StreamGate
