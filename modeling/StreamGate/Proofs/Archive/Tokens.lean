import StreamGate.Proofs.Archive.Discarding

/-!
# What a token reaches

A token comes with a request.  It leads to the archive that is registered under it, or else to
one that was left in the directory under its name, and discarding it removes the archive that it
leads to.

* `ArchiveRegistry.dropped?_eq_some_iff`: what a token leads to that nothing is registered under.
* `Dispatch.Traced`: paths are registered by registrations alone.
* `Dispatch.token_confined`: no token leads out of the directory, and what discarding it changes.
* `ArchiveStore.path?_discard`: what a token leads to when it was discarded.
* `Dispatch.gone_once_discarded`: a token that was discarded leads nowhere, unless an archive had
  been left in the directory beside the one that was registered.
-/

namespace StreamGate

/-! ## Archives left in the directory -/

namespace ArchiveRegistry

/-- A letter or a digit of ASCII, `-` or `_`. -/
def IsPlainChar (c : Char) : Prop :=
  ('a' ≤ c ∧ c ≤ 'z') ∨ ('A' ≤ c ∧ c ≤ 'Z') ∨ ('0' ≤ c ∧ c ≤ '9') ∨ c = '-' ∨ c = '_'

variable {r : ArchiveRegistry} {fs fs' : FileSystem} {token path : String}

theorem isPlain_iff (token : String) :
    isPlain token = true ↔ token ≠ "" ∧ ∀ c ∈ token.toList, IsPlainChar c := by
  have char (c : Char) : (c.isAlphanum || c = '-' || c = '_') = true ↔ IsPlainChar c := by
    have alphanum : c.isAlphanum = (decide ('A' ≤ c ∧ c ≤ 'Z') ||
      (decide ('a' ≤ c) && decide (c ≤ 'z')) || (decide ('0' ≤ c) && decide (c ≤ '9'))) := rfl
    simp only [alphanum, IsPlainChar, Bool.or_eq_true, Bool.and_eq_true, decide_eq_true_eq]
    tauto
  unfold isPlain
  rw [Bool.and_eq_true, List.all_eq_true]
  simp only [char]
  simp [String.toList_eq_nil_iff]

/-- The archive that was left for a token is found if the token is a plain name. -/
theorem dropped?_eq_some_iff : r.dropped? fs token = some path ↔
    isPlain token = true ∧ path = Path.join r.directory (token ++ ".zip") ∧
      fs.isFile path = true := by
  unfold dropped?
  dsimp only
  split
  · rename_i plain
    split
    · rename_i file
      exact ⟨fun same => by cases same; exact ⟨plain, rfl, file⟩,
        fun ⟨_, same, _⟩ => congrArg some same.symm⟩
    · rename_i file
      exact ⟨nofun, fun ⟨_, same, there⟩ => absurd (same ▸ there) file⟩
  · rename_i plain
    exact ⟨nofun, fun ⟨plain', _⟩ => absurd plain' plain⟩

/-- A plain token adds one name to a path. -/
theorem parse_left (plain : isPlain token = true) (directory : String) :
    Path.parse (Path.join directory (token ++ ".zip")) =
      ⟨(Path.parse directory).absolute, (Path.parse directory).names ++ [token ++ ".zip"], false,
        false⟩ := by
  refine Path.parse_join_of_named (fun slash => ?_) ?_ directory
  · rw [String.toList_append, List.mem_append] at slash
    rcases slash with inside | ending
    · exact absurd (((isPlain_iff token).1 plain).2 _ inside) (by unfold IsPlainChar; decide)
    · exact absurd ending (by decide)
  · have ending : 'z' ∈ (token ++ ".zip").toList := by
      rw [String.toList_append]
      exact List.mem_append_right _ (by decide)
    unfold Path.isIdle
    rw [Bool.or_eq_false_iff, decide_eq_false_iff_not, decide_eq_false_iff_not]
    constructor
    all_goals
      intro same
      rw [same] at ending
      exact absurd ending (by decide)

/-- What was left for a token is there as long as it was not removed itself. -/
theorem dropped?_of_removeFile_ok (removed : fs.removeFile path = .ok fs') :
    r.dropped? fs' token =
      (r.dropped? fs token).filter fun left => fs.locate left ≠ fs.locate path := by
  have file := FileSystem.isFile_of_removeFile_ok removed
  unfold dropped?
  dsimp only
  split
  · by_cases there : fs'.isFile (Path.join r.directory (token ++ ".zip")) = true
    · obtain ⟨before, apart⟩ := (file _).1 there
      rw [if_pos there, if_pos before, Option.filter_some, if_pos (decide_eq_true apart)]
    · rw [if_neg there]
      split
      · rename_i before
        have gone := fun apart => there ((file _).2 ⟨before, apart⟩)
        rw [Option.filter_some, if_neg (by simpa using gone)]
      · rfl
  · rfl

end ArchiveRegistry

/-! ## What is left when a token is discarded -/

namespace ArchiveStore

variable {a : ArchiveStore} {token : String}

theorem path?_of_registered {path : String}
    (registered : a.registry.registered.get? token = some path) : a.path? token = some path := by
  unfold path? ArchiveRegistry.path?
  rw [registered]

theorem path?_of_unregistered (unregistered : a.registry.registered.get? token = none) :
    a.path? token = a.registry.dropped? a.files token := by
  unfold path? ArchiveRegistry.path?
  rw [unregistered]

theorem place?_eq_some_iff {path : String} (led : a.path? token = some path) {place : Place} :
    a.place? token = some place ↔
      a.files.isFile path = true ∧ a.files.locate path = .ok place := by
  unfold place?
  rw [led]
  dsimp only
  split
  · rename_i file
    cases a.files.locate path <;> simp [file, Except.toOption]
  · rename_i noFile
    simp [noFile]

/-- The archive in the directory that is hidden while another one is registered. -/
def spare? (token : String) (a : ArchiveStore) : Option String :=
  (a.registry.registered.get? token).bind fun path =>
    (a.registry.dropped? a.files token).filter fun left => a.files.locate left ≠ a.files.locate path

theorem spare?_of_unregistered (unregistered : a.registry.registered.get? token = none) :
    a.spare? token = none := by
  unfold spare?
  rw [unregistered]
  rfl

/-- Only what is left in the directory counts for a token that was discarded. -/
theorem path?_discard_self (token : String) (a : ArchiveStore) :
    (a.discard token).path? token = a.registry.dropped? (a.discard token).files token := by
  rw [path?_of_unregistered (by rw [registered_discard, if_pos rfl])]
  unfold ArchiveRegistry.dropped?
  rw [directory_discard]

/-- A token that was discarded with its archive leads to a spare one or nowhere. -/
theorem path?_discard (removed : ∀ path, a.path? token = some path →
      (a.files.removeFile path).toBool = true) :
    (a.discard token).path? token = a.spare? token := by
  cases led : a.path? token with
  | none => rw [discard_of_none led, led, spare?_of_unregistered (registered_of_path? led)]
  | some path =>
    have gone := removed path led
    cases after : a.files.removeFile path with
    | error e =>
      rw [after] at gone
      cases gone
    | ok files =>
      have files_eq : (a.discard token).files = files := by
        rw [discard_of_some led, after]
        rfl
      rw [path?_discard_self, files_eq, ArchiveRegistry.dropped?_of_removeFile_ok after]
      cases registered : a.registry.registered.get? token with
      | none =>
        rw [path?_of_unregistered registered] at led
        rw [led, spare?_of_unregistered registered]
        simp
      | some path' =>
        rw [path?_of_registered registered] at led
        cases led
        rw [spare?, registered]
        rfl

/-- Discarding gives no token an archive. -/
theorem path?_discard_of_none (nowhere : a.path? token = none) (other : String) :
    (a.discard other).path? token = none := by
  have unregistered := registered_of_path? nowhere
  have nothing := (path?_of_unregistered unregistered).symm.trans nowhere
  cases led : a.path? other with
  | none => rw [discard_of_none led, nowhere]
  | some path =>
    have unregistered' : (a.discard other).registry.registered.get? token = none := by
      rw [registered_discard, unregistered, ite_self]
    have left : a.registry.dropped? (a.discard other).files token = none := by
      rw [discard_of_some led]
      cases removed : a.files.removeFile path with
      | error e => exact nothing
      | ok files =>
        show a.registry.dropped? files token = none
        rw [ArchiveRegistry.dropped?_of_removeFile_ok removed, nothing]
        rfl
    rw [path?_of_unregistered unregistered', ← left]
    unfold ArchiveRegistry.dropped?
    rw [directory_discard]

end ArchiveStore

namespace Dispatch

variable {s : Dispatch} {e : Event} {token : String}

/-! ## Events that discard a token -/

/-- The token that an event discards: a client has its archive, or its session is over. -/
def Event.discards (s : Dispatch) (e : Event) : Option String :=
  match e with
  | .register _ _ => none
  | e => e.touches s

/-- No session that goes on has discarded its token. -/
def Tidy (s : Dispatch) : Prop :=
  ∀ name session, s.sessions name = some session → session.phase.isFinal = false →
    session.source.discarded = false

theorem Tidy.put (tidy : s.Tidy) (name : String) {after : Session (Relay FileHandle)}
    (fresh : after.phase.isFinal = false → after.source.discarded = false)
    (left : ArchiveStore) : (s.put name (after, left)).Tidy := by
  intro other session known going
  by_cases same : other = name
  · subst same
    rw [put_known] at known
    cases known
    exact fresh going
  · exact tidy other session ((Function.update_of_ne same ..).symm.trans known) going

theorem Tidy.apply (tidy : s.Tidy) (e : Event) : (e.apply s).Tidy := by
  have effect := s.effect e
  generalize e.apply s = s' at effect ⊢
  cases effect with
  | registered | built | collected | idle => exact tidy
  | begun name buffer new fresh sends =>
    refine tidy.put name (fun going => ?_) _
    rcases sends with ⟨final, -⟩ | ⟨-, -, -, discarded⟩
    · rw [going] at final
      cases final
    · exact discarded.trans fresh
  | sent name mine known going sends =>
    refine tidy.put name (fun going' => ?_) _
    rcases sends with ⟨final, -⟩ | ⟨-, -, -, discarded⟩
    · rw [going'] at final
      cases final
    · exact discarded.trans (tidy name _ known going)

theorem Tidy.run (tidy : s.Tidy) (es : List Event) : (s.run es).Tidy := by
  induction es generalizing s with
  | nil => exact tidy
  | cons e es ih => exact ih (tidy.apply e)

theorem not_ends_of_idle {name : String} (idle : e.apply s = s) : e.ends s name = false := by
  unfold Event.ends
  rw [idle, Bool.not_and_self]

theorem hasEnded_of_ends {name : String} (ends : e.ends s name = true) :
    (e.apply s).hasEnded name = true := (Bool.and_eq_true_iff.1 ends).2

/-- A session whose end is due to a step has let go of its archive. -/
theorem eq_spent_of_final {session after : Session (Relay FileHandle)} {left : ArchiveStore}
    (sends : session.Sends s.archives after left) (final : after.phase.isFinal = true)
    (fresh : session.source.discarded = false) :
    left = s.archives.discard session.source.token := by
  rcases sends with ⟨-, spent⟩ | ⟨going, -⟩
  · rw [spent, Session.spent, fresh, if_neg Bool.false_ne_true]
  · rw [going] at final
    cases final

/-- The event that ends a session discards the token of the session. -/
theorem Tidy.archives_of_ends (tidy : s.Tidy) {name : String}
    (mine : e = .step name ∨ e = .drop name) (ends : e.ends s name = true)
    {session : Session (Relay FileHandle)} (known : s.sessions name = some session) :
    (e.apply s).archives = s.archives.discard session.source.token := by
  have ended := hasEnded_of_ends ends
  rcases (s.effect e).of_known known with ⟨-, idle⟩ | ⟨going, after, left, put, sends⟩
  · rw [not_ends_of_idle (idle mine)] at ends
    cases ends
  · rw [put] at ended ⊢
    rw [hasEnded_of_known (put_known ..)] at ended
    exact eq_spent_of_final sends ended (tidy name session known going)

/-- Every event that discards a token does the same to the archives. -/
theorem Tidy.archives_of_discards (tidy : s.Tidy) (discards : e.discards s = some token) :
    (e.apply s).archives = s.archives.discard token := by
  cases e with
  | register | build => cases discards
  | collect other =>
    cases discards
    rfl
  | start name other buffer =>
    have discards : (if Event.ends s (.start name other buffer) name then some other else none) =
      some token := discards
    split at discards
    · rename_i ends
      cases discards
      have ended := hasEnded_of_ends ends
      have effect := s.effect (.start name token buffer)
      generalize after : Event.apply s (.start name token buffer) = s' at effect ended ⊢
      cases effect with
      | idle =>
        rw [not_ends_of_idle after] at ends
        cases ends
      | begun _ _ _ fresh sends =>
        rw [hasEnded_of_known (put_known ..)] at ended
        exact eq_spent_of_final sends ended fresh
      | sent _ mine => rcases mine with same | same <;> cases same
    · cases discards
  | step name | drop name =>
    have discards : (if Event.ends s _ name then (s.sessions name).map (·.source.token) else none) =
      some token := discards
    split at discards
    · rename_i ends
      obtain ⟨session, known, rfl⟩ := Option.map_eq_some_iff.1 discards
      exact tidy.archives_of_ends (by simp) ends known
    · cases discards

/-! ## Where the paths of tokens come from -/

/-- Paths are registered by registrations alone. -/
structure Traced (directory : String) (es : List Event) (s : Dispatch) : Prop where
  within : s.archives.registry.directory = directory
  registered : ∀ token path, s.archives.registry.registered.get? token = some path →
    ∃ given, .register token given ∈ es ∧ path = Path.join directory given

theorem Traced.discard {directory : String} {es : List Event} (traced : s.Traced directory es)
    {s' : Dispatch} {other : String} (discarded : s'.archives = s.archives.discard other) :
    s'.Traced directory es := by
  refine ⟨?_, fun token path registered => ?_⟩
  · rw [discarded, ArchiveStore.directory_discard, traced.within]
  · rw [discarded, ArchiveStore.registered_discard] at registered
    split at registered
    · cases registered
    · exact traced.registered token path registered

theorem Traced.mono {directory : String} {es more : List Event} (traced : s.Traced directory es)
    (le : ∀ e ∈ es, e ∈ more) : s.Traced directory more where
  within := traced.within
  registered token path registered :=
    (traced.registered token path registered).imp fun _ ⟨mem, same⟩ => ⟨le _ mem, same⟩

theorem Traced.spent {directory : String} {es : List Event} (traced : s.Traced directory es)
    {session after : Session (Relay FileHandle)} {name : String} {left : ArchiveStore}
    (sends : session.Sends s.archives after left) :
    (s.put name (after, left)).Traced directory es := by
  rcases sends with ⟨-, spent⟩ | ⟨-, same, -⟩
  · unfold Session.spent at spent
    split at spent
    · subst spent
      exact ⟨traced.within, traced.registered⟩
    · exact traced.discard spent
  · subst same
    exact ⟨traced.within, traced.registered⟩

theorem Traced.apply {directory : String} {es : List Event} (traced : s.Traced directory es)
    (e : Event) : (e.apply s).Traced directory (e :: es) := by
  have before : s.Traced directory (e :: es) := traced.mono fun _ => List.mem_cons_of_mem e
  have effect := s.effect e
  generalize e.apply s = s' at effect ⊢
  cases effect with
  | registered token path =>
    refine ⟨traced.within, fun other path' registered => ?_⟩
    have registered : (s.archives.registry.registered.insert token
      (Path.join s.archives.registry.directory path)).get? other = some path' := registered
    rw [Table.get?_insert] at registered
    split at registered
    · rename_i same
      cases registered
      exact ⟨path, by rw [same]; exact List.mem_cons_self, by rw [traced.within]⟩
    · exact before.registered other path' registered
  | built => exact ⟨before.within, before.registered⟩
  | collected token => exact before.discard rfl
  | idle => exact before
  | begun _ _ _ _ sends => exact before.spent sends
  | sent _ _ _ _ sends => exact before.spent sends

theorem Traced.run {directory : String} {es : List Event} (traced : s.Traced directory es)
    (more : List Event) : (s.run more).Traced directory (es ++ more) := by
  induction more generalizing s es with
  | nil => exact traced.mono fun e mem => List.mem_append_left _ mem
  | cons e more ih =>
    refine (ih (traced.apply e)).mono fun other mem => ?_
    simp only [List.mem_append, List.mem_cons] at mem ⊢
    tauto

/-! ## What a token reaches -/

/-- A registry that nothing is registered in. -/
def empty (directory : String) (files : FileSystem) : Dispatch where
  archives := { registry := { directory }, files }

theorem traced_empty (directory : String) (files : FileSystem) :
    (empty directory files).Traced directory [] := ⟨rfl, fun _ _ => nofun⟩

/-- No token leads out of the directory, whatever its text is, unless a path was registered under
it.  Discarding a token removes the file that it leads to, and nothing else. -/
theorem token_confined (directory : String) (files : FileSystem) (es : List Event)
    (token : String) :
    let a := ((empty directory files).run es).archives
    let left := Path.join directory (token ++ ".zip")
    (∀ path, a.registry.registered.get? token = some path →
      ∃ given, .register token given ∈ es ∧ path = Path.join directory given) ∧
    (a.registry.registered.get? token = none →
      a.path? token = none ∨
      a.path? token = some left ∧ token ≠ "" ∧
        (∀ c ∈ token.toList, ArchiveRegistry.IsPlainChar c) ∧
        Path.parse left = ⟨(Path.parse directory).absolute,
          (Path.parse directory).names ++ [token ++ ".zip"], false, false⟩) ∧
    (a.path? token = none → a.discard token = a) ∧
    (∀ path, a.path? token = some path → ∀ place, (a.discard token).files.node? place =
      if a.files.isFile path = true ∧ a.files.locate path = .ok place then none
      else a.files.node? place) ∧
    (a.discard token).files.contents = a.files.contents ∧
    ∀ other, other ≠ token → (a.discard token).registry.registered.get? other =
      a.registry.registered.get? other := by
  intro a left
  have traced := (traced_empty directory files).run es
  refine ⟨traced.registered token, fun unregistered => ?_, ArchiveStore.discard_of_none,
    fun path led place => ?_, ArchiveStore.contents_discard token a, fun other apart => ?_⟩
  · rw [ArchiveStore.path?_of_unregistered unregistered]
    cases found : a.registry.dropped? a.files token with
    | none => exact .inl rfl
    | some path =>
      obtain ⟨plain, rfl, -⟩ := ArchiveRegistry.dropped?_eq_some_iff.1 found
      obtain ⟨some, chars⟩ := (ArchiveRegistry.isPlain_iff token).1 plain
      rw [show a.registry.directory = directory from traced.within]
      exact .inr ⟨rfl, some, chars, ArchiveRegistry.parse_left plain directory⟩
  · rw [ArchiveStore.node?_discard]
    exact if_congr (ArchiveStore.place?_eq_some_iff led) rfl rfl
  · rw [ArchiveStore.registered_discard, if_neg (Ne.symm apart)]

/-- A file outside of the directory, asked for by a token that is a path to it. -/
theorem token_confined_of_outside :
    let files : FileSystem := {
      nodes := ⟨[(["in"], .directory), (["x.zip"], .file 0), (["in", "t_1.zip"], .file 1)]⟩
      contents := ⟨[(0, [1]), (1, [2])]⟩
      fresh := 2 }
    let a := ((empty "/in" files).run [.collect "../x"]).archives
    a.files.isFile (Path.join "/in" "../x.zip") = true ∧ a.path? "../x" = none ∧
      a.discard "../x" = a ∧ a.path? "t_1" = some "/in/t_1.zip" := by
  intro files a
  have nowhere : a.path? "../x" = none := by decide +kernel
  have confined := token_confined "/in" files [.collect "../x"] "../x"
  exact ⟨by decide +kernel, nowhere, confined.2.2.1 nowhere, by decide +kernel⟩

/-! ## What a token reaches once it was discarded -/

/-- An event that a token gets an archive by: one is registered, or one is left in the directory
where there was none. -/
def Event.Supplies (s : Dispatch) (token : String) : Event → Prop
  | .register other _ => other = token
  | .build change => s.archives.registry.dropped? s.archives.files token = none ∧
      (s.archives.registry.dropped? (change s.archives.files) token).isSome = true
  | _ => False

/-- A token gets an archive by one of the events. -/
def Supplied (s : Dispatch) (token : String) : List Event → Prop
  | [] => False
  | e :: es => e.Supplies s token ∨ (e.apply s).Supplied token es

theorem nowhere_of_sends {session after : Session (Relay FileHandle)} {left : ArchiveStore}
    (nowhere : s.archives.path? token = none) (sends : session.Sends s.archives after left) :
    left.path? token = none := by
  rcases sends with ⟨-, spent⟩ | ⟨-, same, -⟩
  · rw [spent, Session.spent]
    split
    · exact nowhere
    · exact ArchiveStore.path?_discard_of_none nowhere _
  · rw [same, nowhere]

/-- A token that leads nowhere does so until it gets an archive. -/
theorem nowhere_apply (nowhere : s.archives.path? token = none) {e : Event}
    (not_ : ¬ e.Supplies s token) : (e.apply s).archives.path? token = none := by
  have unregistered := ArchiveStore.registered_of_path? nowhere
  have nothing := (ArchiveStore.path?_of_unregistered unregistered).symm.trans nowhere
  have effect := s.effect e
  generalize e.apply s = s' at effect ⊢
  cases effect with
  | registered other path =>
    rw [ArchiveStore.path?_of_unregistered]
    · exact nothing
    · exact (Table.get?_insert ..).trans ((if_neg not_).trans unregistered)
  | built change =>
    let a : ArchiveStore := { s.archives with files := change s.archives.files }
    have left := ArchiveStore.path?_of_unregistered (a := a) unregistered
    refine left.trans ?_
    cases found : s.archives.registry.dropped? (change s.archives.files) token with
    | none => rfl
    | some path => exact absurd ⟨nothing, by rw [found]; rfl⟩ not_
  | collected other => exact ArchiveStore.path?_discard_of_none nowhere other
  | idle => exact nowhere
  | begun _ _ _ _ sends => exact nowhere_of_sends nowhere sends
  | sent _ _ _ _ sends => exact nowhere_of_sends nowhere sends

theorem nowhere_run (nowhere : s.archives.path? token = none) {es : List Event}
    (not_ : ¬ s.Supplied token es) : (s.run es).archives.path? token = none := by
  induction es generalizing s with
  | nil => exact nowhere
  | cons e es ih =>
    rw [Supplied, not_or] at not_
    exact ih (nowhere_apply nowhere not_.1) not_.2

/-- A token that an event has discarded together with the archive that it led to.

* It leads to the archive that was left in the directory beside the registered one, if there was
  one of each, and else it leads nowhere.
* So it leads nowhere when it is discarded like this a second time.
* If it leads nowhere, it does so until an archive is registered under it or left for it. -/
theorem gone_once_discarded (archives : ArchiveStore) (es : List Event) (e : Event)
    {token : String} (discards : e.discards (run { archives } es) = some token)
    (removed : ∀ path, (run { archives } es).archives.path? token = some path →
      ((run { archives } es).archives.files.removeFile path).toBool = true) :
    let before := run { archives } es
    let after := e.apply before
    after.archives.path? token = before.archives.spare? token ∧
    after.archives.spare? token = none ∧
    (after.archives.path? token = none → ∀ more, ¬ after.Supplied token more →
      (after.run more).archives.path? token = none) := by
  intro before after
  have tidy : before.Tidy := Tidy.run (fun _ _ known => by cases known) es
  have discarded : after.archives = before.archives.discard token :=
    tidy.archives_of_discards discards
  refine ⟨?_, ?_, fun nowhere more not_ => nowhere_run nowhere not_⟩
  · rw [discarded, ArchiveStore.path?_discard removed]
  · rw [discarded, ArchiveStore.spare?_of_unregistered]
    rw [ArchiveStore.registered_discard, if_pos rfl]

/-- An archive whose session is over, and others that are registered and built afterwards. -/
theorem gone_once_discarded_of_dropped :
    let before := run { archives := twoArchives.archives } [.start "s" "t" 2, .step "s"]
    let after := (Event.drop "s").apply before
    let more := [Event.register "u" "b.zip", .build id, .collect "u"]
    before.archives.path? "t" = some "/a.zip" ∧ (after.run more).archives.path? "t" = none := by
  intro before after more
  have led : before.archives.path? "t" = some "/a.zip" := by decide +kernel
  have discards : (Event.drop "s").discards before = some "t" := by decide +kernel
  have gone := gone_once_discarded twoArchives.archives [.start "s" "t" 2, .step "s"] (.drop "s")
    discards fun path found => by
      cases Option.some.inj (found.symm.trans led)
      decide +kernel
  have nowhere : after.archives.path? "t" = none := gone.1.trans (by decide +kernel)
  refine ⟨led, gone.2.2 nowhere more ?_⟩
  rintro (other | ⟨-, left⟩ | none | none)
  · exact (show "u" ≠ "t" by decide) other
  · exact absurd left (by decide +kernel)
  · exact none
  · exact none

/-- An archive is registered for a token, and another one was left for it in the directory. -/
theorem spare_archive_served :
    let archives : ArchiveStore := {
      registry := { directory := "/", registered := ⟨[("t", "/a.zip")]⟩ }
      files := {
        nodes := ⟨[(["a.zip"], .file 0), (["t.zip"], .file 1)]⟩
        contents := ⟨[(0, [7, 8]), (1, [9])]⟩
        fresh := 2 } }
    let after := archives.discard "t"
    archives.path? "t" = some "/a.zip" ∧ (archives.files.removeFile "/a.zip").toBool = true ∧
      after.files.files = [["t.zip"]] ∧ after.path? "t" = some "/t.zip" := by
  decide +kernel

end Dispatch

end StreamGate
