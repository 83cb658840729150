import StreamGate.Storage.FileSystem

/-!
# Paths that are put together

A name put behind a path is the last name of the path that comes out, whatever the path
was.  So the names of such a path are known from its parts.

* `Text.splitOn_append_sep`, `Text.splitOn_of_not_mem`: where a list is cut.
* `Path.IsComponent`: a single ordinary name.
* `Path.parse_join`: what a path with a name behind it says.
-/

namespace StreamGate

namespace Text

variable {α : Type} [DecidableEq α] {sep : α}

theorem splitOn_ne_nil (sep : α) (xs : List α) : splitOn sep xs ≠ [] := by
  cases xs with
  | nil => simp [splitOn]
  | cons c rest =>
    rw [splitOn]
    split
    · simp
    · split <;> simp

/-- A separator cuts what is before it from what is behind it. -/
theorem splitOn_append_sep (xs ys : List α) :
    splitOn sep (xs ++ sep :: ys) = splitOn sep xs ++ splitOn sep ys := by
  induction xs with
  | nil => simp [splitOn]
  | cons c rest ih =>
    by_cases here : c = sep
    · simp [splitOn, here, ih]
    · cases pieces : splitOn sep rest with
      | nil => exact absurd pieces (splitOn_ne_nil sep rest)
      | cons piece more => simp [splitOn, here, ih, pieces]

theorem splitOn_of_not_mem {xs : List α} (no : sep ∉ xs) : splitOn sep xs = [xs] := by
  induction xs with
  | nil => rfl
  | cons c rest ih =>
    rw [List.mem_cons, not_or] at no
    rw [splitOn, if_neg (Ne.symm no.1), ih no.2]

end Text

namespace Path

/-- A single ordinary name, which leads one step down. -/
structure IsComponent (name : String) : Prop where
  noSlash : '/' ∉ name.toList
  noNul : '\x00' ∉ name.toList
  notEmpty : name ≠ ""
  notDot : name ≠ "."
  notUp : name ≠ ".."
  short : name.utf8ByteSize ≤ FileSystem.maxName

variable {name : String}

theorem IsComponent.not_idle (component : IsComponent name) : isIdle name = false := by
  simp [isIdle, component.notEmpty, component.notDot]

/-- The three ways to put a name behind a path. -/
theorem join_cases (noSlash : '/' ∉ name.toList) (path : String) :
    (path = "" ∧ join path name = name) ∨
      (∃ front, path.toList = front ++ ['/'] ∧ join path name = path ++ name) ∨
      (path ≠ "" ∧ join path name = path ++ "/" ++ name) := by
  have relative : ¬ name.toList.head? = some '/' := fun first =>
    noSlash (List.mem_of_mem_head? first)
  unfold join
  rw [if_neg relative]
  by_cases empty : path = ""
  · exact .inl ⟨empty, by simp [empty]⟩
  · by_cases slash : path.toList.getLast? = some '/'
    · obtain ⟨front, ends⟩ := List.getLast?_eq_some_iff.1 slash
      exact .inr (.inl ⟨front, ends, by simp [slash]⟩)
    · exact .inr (.inr ⟨empty, by simp [empty, slash]⟩)

/-- The pieces of a path with a name behind it. -/
theorem cut_join (noSlash : '/' ∉ name.toList) (path : String) :
    ∃ before, Text.cut '/' (join path name) = before ++ [name] ∧
      (Text.cut '/' path).filter (fun n => !isIdle n) = before.filter fun n => !isIdle n := by
  have last : Text.splitOn '/' name.toList = [name.toList] :=
    Text.splitOn_of_not_mem noSlash
  have idle : isIdle (String.ofList []) = true := by decide
  unfold Text.cut
  rcases join_cases noSlash path with ⟨rfl, joined⟩ | ⟨front, ends, joined⟩ | ⟨-, joined⟩
  · refine ⟨[], by simp [joined, last], ?_⟩
    simp [Text.splitOn, idle]
  · refine ⟨(Text.splitOn '/' front).map String.ofList, ?_, ?_⟩
    · rw [joined, String.toList_append, ends, List.append_assoc, List.singleton_append,
        Text.splitOn_append_sep, last]
      simp
    · rw [ends, Text.splitOn_append_sep]
      simp [Text.splitOn, idle]
  · refine ⟨(Text.splitOn '/' path.toList).map String.ofList, ?_, rfl⟩
    rw [joined, String.toList_append, String.toList_append, List.append_assoc]
    show List.map _ (Text.splitOn '/' (path.toList ++ '/' :: name.toList)) = _
    rw [Text.splitOn_append_sep, last]
    simp

/-- A path with a name behind it says what the path says, and then the name. -/
theorem parse_join_of_named (noSlash : '/' ∉ name.toList) (named : isIdle name = false)
    (path : String) : parse (join path name) =
      ⟨(parse path).absolute, (parse path).names ++ [name], false, false⟩ := by
  obtain ⟨before, pieces, same⟩ := cut_join noSlash path
  have busy : name ≠ "" ∧ name ≠ "." := by simpa [isIdle] using named
  unfold parse
  simp only [pieces, same, Path.mk.injEq, List.filter_append]
  refine ⟨?_, by simp [named], by simp [named], ?_⟩
  · have relative : ¬ name.toList.head? = some '/' := fun first =>
      noSlash (List.mem_of_mem_head? first)
    rcases join_cases noSlash path with ⟨rfl, joined⟩ | ⟨front, ends, joined⟩ | ⟨some, joined⟩
    · simp [joined, relative]
    · rw [joined, String.toList_append, ends]
      cases front <;> rfl
    · rw [joined, String.toList_append, String.toList_append]
      cases chars : path.toList with
      | nil => exact absurd (String.toList_eq_nil_iff.1 chars) some
      | cons c rest => rfl
  · simp [busy]

theorem parse_join (component : IsComponent name) (path : String) :
    parse (join path name) =
      ⟨(parse path).absolute, (parse path).names ++ [name], false, false⟩ :=
  parse_join_of_named component.noSlash component.not_idle path

/-- No character comes in but the slash. -/
theorem mem_of_mem_join {path : String} {c : Char} (component : IsComponent name)
    (mem : c ∈ (join path name).toList) : c ∈ path.toList ∨ c = '/' ∨ c ∈ name.toList := by
  rcases join_cases component.noSlash path with
    ⟨rfl, joined⟩ | ⟨front, ends, joined⟩ | ⟨-, joined⟩
  · exact .inr (.inr (joined ▸ mem))
  · rw [joined, String.toList_append, List.mem_append] at mem
    exact mem.imp_right .inr
  · rw [joined, String.toList_append, String.toList_append, List.mem_append, List.mem_append] at mem
    rcases mem with (mem | mem) | mem
    · exact .inl mem
    · exact .inr (.inl (by simpa using mem))
    · exact .inr (.inr mem)

theorem join_ne_empty (component : IsComponent name) (path : String) : join path name ≠ "" := by
  intro empty
  obtain ⟨before, pieces, -⟩ := cut_join component.noSlash path
  rw [empty] at pieces
  have single : [""] = before ++ [name] := pieces
  have ends := congrArg List.getLast? single
  rw [List.getLast?_append] at ends
  exact component.notEmpty (Option.some.inj ends).symm

theorem utf8ByteSize_join_le (component : IsComponent name) (path : String) :
    (join path name).utf8ByteSize ≤ path.utf8ByteSize + 1 + name.utf8ByteSize := by
  rcases join_cases component.noSlash path with
    ⟨rfl, joined⟩ | ⟨front, ends, joined⟩ | ⟨-, joined⟩
  · rw [joined]
    omega
  · rw [joined, String.utf8ByteSize_append]
    omega
  · rw [joined, String.utf8ByteSize_append, String.utf8ByteSize_append]
    show path.utf8ByteSize + 1 + name.utf8ByteSize ≤ _
    omega

/-! ## Several names -/

variable {names : List String}

/-- A path with names behind it starts where the path does and says them in order. -/
theorem parse_foldl_join (components : ∀ name ∈ names, IsComponent name) (path : String) :
    (parse (names.foldl join path)).absolute = (parse path).absolute ∧
      (parse (names.foldl join path)).names = (parse path).names ++ names := by
  induction names generalizing path with
  | nil => simp
  | cons name names ih =>
    obtain ⟨absolute, said⟩ :=
      ih (fun name mem => components name (List.mem_cons_of_mem _ mem)) (join path name)
    rw [parse_join (components name List.mem_cons_self)] at absolute said
    rw [List.foldl_cons, absolute, said, List.append_assoc, List.singleton_append]
    exact ⟨rfl, rfl⟩

theorem noNul_foldl_join (components : ∀ name ∈ names, IsComponent name) {path : String}
    (noNul : '\x00' ∉ path.toList) : '\x00' ∉ (names.foldl join path).toList := by
  induction names generalizing path with
  | nil => exact noNul
  | cons name names ih =>
    have component := components name List.mem_cons_self
    refine ih (fun name mem => components name (List.mem_cons_of_mem _ mem)) fun mem => ?_
    rcases mem_of_mem_join component mem with old | slash | new
    · exact noNul old
    · exact absurd slash (by decide)
    · exact component.noNul new

end Path

end StreamGate
