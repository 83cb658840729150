import StreamGate.Catalog.Tree
import StreamGate.Catalog.Memory

/-!
# Keys and their texts

A record is stored in a tree under a text.  The key of a manifest and that of key material
have several parts, joined with slashes, and a part may hold a slash itself, so two keys can
share their text.

* `CatalogKey.place`: the tree and the text of a key.
* `CatalogKey.Overlaps`: two keys with one text, cut at different slashes.
* `CatalogKey.Meets`: the same key, or one that overlaps with it.
* `CatalogKey.place_eq_iff`: no other keys share their place.
* `CatalogKey.Slashed`: the store or the repository of the key has a slash in its name,
  without which no two keys overlap.
-/

namespace StreamGate

/-! ## Joined texts -/

namespace Text

/-- Two pairs of texts that are joined to one text are cut at the same slash, or one of them at
a later slash than the other. -/
theorem join_eq_iff {a x b y : String} :
    a ++ "/" ++ x = b ++ "/" ++ y ↔ (a = b ∧ x = y) ∨
      (∃ m, b = a ++ "/" ++ m ∧ x = m ++ "/" ++ y) ∨
      ∃ m, a = b ++ "/" ++ m ∧ y = m ++ "/" ++ x := by
  constructor
  · intro same
    have same : a.toList ++ '/' :: x.toList = b.toList ++ '/' :: y.toList := by
      simpa using congrArg String.toList same
    rw [List.append_eq_append_iff] at same
    rcases same with ⟨between, left, right⟩ | ⟨between, left, right⟩
    · cases between with
      | nil =>
        refine .inl ⟨String.toList_inj.1 (by simpa using left.symm), String.toList_inj.1 ?_⟩
        simpa using right
      | cons c m =>
        obtain ⟨rfl, right⟩ := List.cons.inj right
        refine .inr (.inl ⟨String.ofList m, String.toList_inj.1 ?_, String.toList_inj.1 ?_⟩)
        · simpa using left
        · simpa using right
    · cases between with
      | nil =>
        refine .inl ⟨String.toList_inj.1 (by simpa using left), String.toList_inj.1 ?_⟩
        simpa using right.symm
      | cons c m =>
        obtain ⟨rfl, right⟩ := List.cons.inj right
        refine .inr (.inr ⟨String.ofList m, String.toList_inj.1 ?_, String.toList_inj.1 ?_⟩)
        · simpa using left
        · simpa using right
  · rintro (⟨rfl, rfl⟩ | ⟨m, rfl, rfl⟩ | ⟨m, rfl, rfl⟩)
    · rfl
    · simp only [String.append_assoc]
    · simp only [String.append_assoc]

theorem slash_mem_join (a x : String) : '/' ∈ (a ++ "/" ++ x).toList := by simp

theorem ne_join (a x : String) : a ≠ a ++ "/" ++ x := by
  intro same
  have length : a.length = a.length + "/".length + x.length := by
    simpa only [String.length_append] using congrArg String.length same
  have slash : "/".length = 1 := rfl
  omega

end Text

namespace Decimal

theorem toList_toString (n : UInt32) : (toString n).toList = Nat.toDigits 10 n.toNat := by
  show (toString n.toNat).toList = _
  rw [Nat.toString_eq_ofList_toDigits, String.toList_ofList]

theorem toString_inj {n m : UInt32} : toString n = toString m ↔ n = m := by
  constructor
  · intro same
    have digits : Nat.toDigits 10 n.toNat = Nat.toDigits 10 m.toNat := by
      rw [← toList_toString, ← toList_toString, same]
    have values := congrArg (Nat.ofDigitChars 10 · 0) digits
    simp only [Nat.ofDigitChars_ten_toDigits] at values
    exact UInt32.toNat_inj.1 values
  · rintro rfl
    rfl

/-- A number is written without a slash. -/
theorem toString_ne_join (n : UInt32) (a x : String) : toString n ≠ a ++ "/" ++ x := by
  intro same
  have slash : '/' ∈ Nat.toDigits 10 n.toNat := by
    rw [← toList_toString, same]
    exact Text.slash_mem_join a x
  exact absurd (Nat.isDigit_of_mem_toDigits (by omega) (by omega) slash) (by decide)

end Decimal

/-! ## Keys -/

/-- What a look-up asks for. -/
inductive CatalogKey where
  | grant (token : String)
  | repo (repoId : String)
  | manifest (ref : StoreRef) (objectId : String)
  | material (repoId username : String)
deriving DecidableEq

namespace CatalogKey

/-- The tree that holds the records of a key, and the text they are stored under. -/
def place : CatalogKey → TreeName × String
  | grant token => (.grants, token)
  | repo repoId => (.repos, repoId)
  | manifest ref objectId => (.manifests, TreeCatalog.manifestKey ref objectId)
  | material repoId username => (.keys, TreeCatalog.materialKey repoId username)

/-- Two keys with one text, the second of which is cut at a later slash.  A version ends at a
slash, so it is a part of the store in the second key. -/
inductive Overlaps : CatalogKey → CatalogKey → Prop
  | material (repoId between username : String) :
      Overlaps (.material repoId (between ++ "/" ++ username))
        (.material (repoId ++ "/" ++ between) username)
  | next (storeId : String) (version version' : UInt32) (objectId : String) :
      Overlaps (.manifest ⟨storeId, version⟩ (toString version' ++ "/" ++ objectId))
        (.manifest ⟨storeId ++ "/" ++ toString version, version'⟩ objectId)
  | apart (storeId : String) (version : UInt32) (between : String) (version' : UInt32)
      (objectId : String) :
      Overlaps
        (.manifest ⟨storeId, version⟩ (between ++ "/" ++ (toString version' ++ "/" ++ objectId)))
        (.manifest ⟨storeId ++ "/" ++ (toString version ++ "/" ++ between), version'⟩ objectId)

/-- Two keys are the same, or they overlap. -/
def Meets (k k' : CatalogKey) : Prop := k = k' ∨ Overlaps k k' ∨ Overlaps k' k

/-- The store or the repository that a key of several parts begins with. -/
def owner? : CatalogKey → Option String
  | grant _ | repo _ => none
  | manifest ref _ => some ref.storeId
  | material repoId _ => some repoId

/-- A key of several parts, the first of which holds a slash. -/
def Slashed (k : CatalogKey) : Prop := ∃ id, k.owner? = some id ∧ '/' ∈ id.toList

variable {k k' : CatalogKey}

theorem manifestKey_eq (ref : StoreRef) (objectId : String) :
    TreeCatalog.manifestKey ref objectId =
      ref.storeId ++ "/" ++ (toString ref.version ++ "/" ++ objectId) := by
  show ref.storeId ++ "/" ++ toString ref.version ++ "/" ++ objectId = _
  simp only [String.append_assoc]

/-- What follows the store in the key of a manifest is cut at its first slash. -/
theorem version_join_eq_iff {version version' : UInt32} {x y : String} :
    toString version ++ "/" ++ x = toString version' ++ "/" ++ y ↔ version = version' ∧ x = y := by
  rw [Text.join_eq_iff, Decimal.toString_inj]
  refine or_iff_left ?_
  rintro (⟨m, other, -⟩ | ⟨m, other, -⟩)
  · exact Decimal.toString_ne_join _ _ _ other
  · exact Decimal.toString_ne_join _ _ _ other

theorem Overlaps.place_eq (overlaps : Overlaps k k') : k.place = k'.place := by
  cases overlaps with
  | material repoId between username =>
    refine congrArg (Prod.mk _) ?_
    exact Text.join_eq_iff.2 (.inr (.inl ⟨between, rfl, rfl⟩))
  | next storeId version version' objectId =>
    refine congrArg (Prod.mk _) ?_
    rw [manifestKey_eq, manifestKey_eq]
    exact Text.join_eq_iff.2 (.inr (.inl ⟨_, rfl, rfl⟩))
  | apart storeId version between version' objectId =>
    refine congrArg (Prod.mk _) ?_
    rw [manifestKey_eq, manifestKey_eq]
    refine Text.join_eq_iff.2 (.inr (.inl ⟨_, rfl, ?_⟩))
    simp only [String.append_assoc]

/-- Keys that overlap are two keys. -/
theorem Overlaps.ne (overlaps : Overlaps k k') : k ≠ k' := by
  intro same
  cases overlaps with
  | material => exact Text.ne_join _ _ (CatalogKey.material.inj same).1
  | next | apart =>
    exact Text.ne_join _ _ (congrArg StoreRef.storeId (CatalogKey.manifest.inj same).1)

theorem Overlaps.slashed (overlaps : Overlaps k k') : k'.Slashed := by
  cases overlaps with
  | material | next | apart => exact ⟨_, rfl, Text.slash_mem_join _ _⟩

/-- Two manifests whose texts are the same while the second store is cut later. -/
theorem overlaps_of_later {ref ref' : StoreRef} {objectId objectId' between : String}
    (store : ref'.storeId = ref.storeId ++ "/" ++ between)
    (rest : toString ref.version ++ "/" ++ objectId =
      between ++ "/" ++ (toString ref'.version ++ "/" ++ objectId')) :
    Overlaps (.manifest ref objectId) (.manifest ref' objectId') := by
  obtain ⟨storeId, version⟩ := ref
  obtain ⟨storeId', version'⟩ := ref'
  dsimp only at store rest
  subst store
  rcases Text.join_eq_iff.1 rest with ⟨rfl, rfl⟩ | ⟨m, rfl, rfl⟩ | ⟨m, other, -⟩
  · exact .next ..
  · exact .apart ..
  · exact absurd other (Decimal.toString_ne_join _ _ _)

/-- Two keys share their place only if they are the same or overlap. -/
theorem place_eq_iff : k.place = k'.place ↔ k.Meets k' := by
  constructor
  · intro same
    cases k with
    | grant token =>
      cases k' with
      | grant => exact .inl (congrArg grant (Prod.mk.inj same).2)
      | repo | manifest | material => cases (Prod.mk.inj same).1
    | repo repoId =>
      cases k' with
      | repo => exact .inl (congrArg repo (Prod.mk.inj same).2)
      | grant | manifest | material => cases (Prod.mk.inj same).1
    | manifest ref objectId =>
      cases k' with
      | manifest ref' objectId' =>
        have same := (Prod.mk.inj same).2
        rw [manifestKey_eq, manifestKey_eq] at same
        rcases Text.join_eq_iff.1 same with ⟨store, rest⟩ | ⟨m, store, rest⟩ | ⟨m, store, rest⟩
        · obtain ⟨version, rfl⟩ := version_join_eq_iff.1 rest
          obtain ⟨storeId, _⟩ := ref
          obtain ⟨storeId', _⟩ := ref'
          cases store
          cases version
          exact .inl rfl
        · exact .inr (.inl (overlaps_of_later store rest))
        · exact .inr (.inr (overlaps_of_later store rest))
      | grant | repo | material => cases (Prod.mk.inj same).1
    | material repoId username =>
      cases k' with
      | material repoId' username' =>
        have same := (Prod.mk.inj same).2
        rcases Text.join_eq_iff.1 same with ⟨rfl, rfl⟩ | ⟨m, rfl, rfl⟩ | ⟨m, rfl, rfl⟩
        · exact .inl rfl
        · exact .inr (.inl (.material ..))
        · exact .inr (.inr (.material ..))
      | grant | repo | manifest => cases (Prod.mk.inj same).1
  · rintro (rfl | overlaps | overlaps)
    · rfl
    · exact overlaps.place_eq
    · exact overlaps.place_eq.symm

/-- Two keys share their place only if one of them begins with a part that holds a slash. -/
theorem slashed_of_place_eq (same : k.place = k'.place) (other : k ≠ k') :
    k.Slashed ∨ k'.Slashed := by
  rcases place_eq_iff.1 same with rfl | overlaps | overlaps
  · exact absurd rfl other
  · exact .inr overlaps.slashed
  · exact .inl overlaps.slashed

end CatalogKey

end StreamGate
