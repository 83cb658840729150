import StreamGate.Proofs.Catalog.LastWrite

/-!
# Keys that meet

A record that is put into trees is found under every key that meets its own, so a look-up finds
what was put in under its own key or under one that overlaps with it.  Keys are kept apart where
no store and no repository has a slash in its name.

* `TreeCatalog.Isolated`: what a look-up finds, and which puts change it.
* `TreeCatalog.isolated_of_runs`: every look-up, after every run.
-/

namespace StreamGate

namespace TreeCatalog

variable {c : TreeCatalog} {moves : List CatalogMove}

/-- What a look-up finds, and which puts change it. -/
structure Isolated (c : TreeCatalog) (moves : List CatalogMove) (key : CatalogKey) : Prop where
  /-- Only what was put in under the key or under one that overlaps with it is found. -/
  source : ∀ value, (catalog.ask key c).1 = .ok (some value) →
    ∃ entry, .put entry ∈ moves ∧ entry.value = value ∧ entry.address.Meets key
  /-- A put under such a key is what is found next. -/
  shared : ∀ entry, entry.value.Fits → entry.address.Meets key →
    (catalog.ask key (c.put entry)).1 = .ok (some entry.value)
  /-- Any other put leaves the answer as it was. -/
  apart : ∀ entry, ¬entry.address.Meets key →
    (catalog.ask key (c.put entry)).1 = (catalog.ask key c).1
  /-- Two keys only meet where one of them has a slash in its store or repository. -/
  slashed : ∀ k : CatalogKey, k.Meets key → k ≠ key → k.Slashed ∨ key.Slashed

theorem load_congr {α : Type} {c' : TreeCatalog} {tree : TreeName} {key : String}
    (same : c'.get? tree key = c.get? tree key) (format : Wire.Format α) :
    c'.load tree key format = c.load tree key format := by
  unfold load
  rw [same]

/-- A look-up depends on the bytes under its place only. -/
theorem ask_congr {c' : TreeCatalog} {key : CatalogKey}
    (same : c'.get? key.place.1 key.place.2 = c.get? key.place.1 key.place.2) :
    (catalog.ask key c').1 = (catalog.ask key c).1 := by
  cases key <;> exact congrArg (Except.map _) (load_congr same _)

/-- What is put into trees is found next under every key with its place, whatever was there. -/
theorem ask_put_of_place {entry : CatalogEntry} (fits : entry.value.Fits) {key : CatalogKey}
    (place : entry.address.place = key.place) :
    (catalog.ask key (c.put entry)).1 = .ok (some entry.value) := by
  have alone : (catalog.ask key (c.put entry)).1 =
      (catalog.ask key (({} : TreeCatalog).put entry)).1 := by
    refine ask_congr ?_
    rw [get?_put, get?_put, if_pos place, if_pos place]
  have runs : Runs {} [.put entry] (({} : TreeCatalog).put entry) := .cons (.put entry) (.nil _)
  have holds := holds_empty.runs runs
  have sound : Sound (history [.put entry]) := sound_history (by simpa using fits)
  rw [List.append_nil] at holds
  rw [alone, ask_of_holds holds sound]
  simp [history, CatalogMove.write?, lastWrite, place]

/-- After every run a look-up finds what was put in under its key or under one that overlaps with
it, and a put changes it only under these.  Without a slash in a store or a repository that is
the key alone. -/
theorem isolated_of_runs (runs : Runs {} moves c)
    (fits : ∀ entry, .put entry ∈ moves → entry.value.Fits) (key : CatalogKey) :
    c.Isolated moves key where
  source value found := by
    have holds : c.Holds (history moves) := by simpa using holds_empty.runs runs
    rw [ask_of_holds holds (sound_history fits) key] at found
    obtain ⟨k, place, mem⟩ := mem_of_lastWrite (Except.ok.inj found)
    obtain ⟨entry, put, rfl, same⟩ := put_of_mem_history mem
    exact ⟨entry, put, same, CatalogKey.place_eq_iff.1 (of_decide_eq_true place)⟩
  shared entry fits meets := ask_put_of_place fits (CatalogKey.place_eq_iff.2 meets)
  apart entry apart := by
    refine ask_congr ?_
    rw [get?_put, if_neg fun place => apart (CatalogKey.place_eq_iff.1 place)]
  slashed k meets other := CatalogKey.slashed_of_place_eq (CatalogKey.place_eq_iff.2 meets) other

/-- Two users of a repository have their own keys. -/
theorem isolated_of_users :
    let moves : List CatalogMove := [.put (.key "r" "alice" ⟨"00", "11"⟩)]
    let c := ({} : TreeCatalog).put (.key "r" "alice" ⟨"00", "11"⟩)
    Runs {} moves c ∧ c.Isolated moves (.material "r" "bob") ∧
      ∀ value, (catalog.ask (.material "r" "bob") c).1 ≠ .ok (some value) := by
  intro moves c
  have runs : Runs {} moves c := .cons (.put _) (.nil _)
  have fits (entry : CatalogEntry) (mem : .put entry ∈ moves) : entry.value.Fits := by
    obtain rfl : entry = .key "r" "alice" ⟨"00", "11"⟩ := by simpa [moves] using mem
    exact ⟨by decide, by decide⟩
  have isolated := isolated_of_runs runs fits (.material "r" "bob")
  refine ⟨runs, isolated, fun value found => ?_⟩
  obtain ⟨entry, mem, -, meets⟩ := isolated.source value found
  obtain rfl : entry = .key "r" "alice" ⟨"00", "11"⟩ := by simpa [moves] using mem
  exact absurd (CatalogKey.place_eq_iff.2 meets) (by decide)

/-- Key material that was put in for one repository and user is found for others, where there was
none before, and so is a manifest for other stores and objects. -/
theorem overlapping_keys_share :
    let material : CatalogEntry := .key "a/b" "c" ⟨"00", "01"⟩
    let manifest : CatalogEntry := .manifest ⟨"s", 1⟩ "2/f" ⟨5, []⟩
    let c := (({} : TreeCatalog).put manifest).put material
    Runs {} [.put manifest, .put material] c ∧
      catalog.ask (.material "a" "b/c") {} = (.ok none, {}) ∧
      (catalog.ask (.material "a" "b/c") c).1 = .ok (some material.value) ∧
      material.address ≠ .material "a" "b/c" ∧
      catalog.ask (.manifest ⟨"s/1", 2⟩ "f") {} = (.ok none, {}) ∧
      (catalog.ask (.manifest ⟨"s/1", 2⟩ "f") c).1 = .ok (some manifest.value) ∧
      manifest.address ≠ .manifest ⟨"s/1", 2⟩ "f" := by
  intro material manifest c
  have users : CatalogKey.Overlaps (.material "a" "b/c") material.address := .material "a" "b" "c"
  have objects : CatalogKey.Overlaps manifest.address (.manifest ⟨"s/1", 2⟩ "f") :=
    .next "s" 1 2 "f"
  have materialFits : material.value.Fits := ⟨by decide, by decide⟩
  have manifestFits : manifest.value.Fits := Nat.two_pow_pos 64
  have usersFound : (catalog.ask (.material "a" "b/c") c).1 = .ok (some material.value) :=
    ask_put_of_place materialFits users.place_eq.symm
  have objectsFound : (catalog.ask (.manifest ⟨"s/1", 2⟩ "f") (({} : TreeCatalog).put manifest)).1 =
      .ok (some manifest.value) := ask_put_of_place manifestFits objects.place_eq
  refine ⟨.cons (.put _) (.cons (.put _) (.nil _)), rfl, usersFound, users.ne.symm, rfl, ?_,
    objects.ne⟩
  rw [← objectsFound]
  refine ask_congr ?_
  rw [get?_put, if_neg (by decide)]

end TreeCatalog

end StreamGate
