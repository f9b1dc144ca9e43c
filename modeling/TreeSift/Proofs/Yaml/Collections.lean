import TreeSift.Proofs.Results
import TreeSift.Yaml.Collection

/-! # Values of collections

Collections that do not hold themselves have values: `Collected` tells which value a part of
collections has, and one sweep from the last collection to the first one finds it
(`Collected.value_eq`). -/

namespace TreeSift.Yaml

open TreeSift.Document

/-- **A part of collections has a value**, with the collections in it behind it. -/
inductive Collected (collections : Collections) : Part → Value → Prop where
  /-- A scalar. -/
  | scalar (scalar : Scalar) : Collected collections (.scalar scalar) (.scalar scalar)
  /-- A list. -/
  | list {id : NodeId} {parts : List Part} {items : List Value}
    (h : collections[id]?.join = some (.list parts)) (hlength : parts.length = items.length)
    (hbehind : ∀ other, .collection other ∈ parts → id < other)
    (hitems : ∀ part ∈ parts.zip items, Collected collections part.1 part.2) :
    Collected collections (.collection id) (.list items)
  /-- A mapping. -/
  | mapping {id : NodeId} {parts : List (Scalar × Part)} {entries : Entries}
    (h : collections[id]?.join = some (.mapping parts)) (hlength : parts.length = entries.length)
    (hbehind : ∀ key other, (key, .collection other) ∈ parts → id < other)
    (hkeys : ∀ part ∈ parts.zip entries, part.1.1 = part.2.1)
    (hvalues : ∀ part ∈ parts.zip entries, Collected collections part.1.2 part.2.2) :
    Collected collections (.collection id) (.mapping entries)

namespace Collections

variable {collections : Collections} {known : KnownValues} {id place : NodeId} {value : Value}

/-! ## Single collections -/

/-- What is `Collected` is a collection of the array: its place is less than the size. -/
theorem lt_size_of_collected (h : Collected collections (.collection id) value) :
    id < collections.size := by
  have hsome : ∃ collection, collections[id]?.join = some collection := by
    cases h with
    | list h => exact ⟨_, h⟩
    | mapping h => exact ⟨_, h⟩
  obtain ⟨collection, hcollection⟩ := hsome
  exact (Array.getElem?_eq_some_iff.1 (Option.join_eq_some_iff.1 hcollection)).1

/-- The value of a collection is found when the values of the collections behind it are `known`. -/
theorem exists_value_eq_some (h : Collected collections (.collection place) value)
    (hknown : ∀ id value, place < id → Collected collections (.collection id) value →
      known[id]?.join = some value) :
    ∃ collection, collections[place]?.join = some collection ∧
      collection.value known.part? = some value := by
  have hpart : ∀ part value, (∀ other, part = .collection other → place < other) →
      Collected collections part value → known.part? part = some value := by
    intro part value hbehind hpart
    cases part with
    | scalar scalar =>
        cases hpart
        rfl
    | collection id => exact hknown id value (hbehind id rfl) hpart
  cases h with
  | list h hlength hbehind hitems =>
      refine ⟨_, h, ?_⟩
      rw [Collection.value, mapM_eq_some_of_zip hlength fun part hmem =>
        hpart _ _ (fun other heq => hbehind other (heq ▸ (List.of_mem_zip hmem).1)) (hitems part hmem)]
      rfl
  | mapping h hlength hbehind hkeys hvalues =>
      refine ⟨_, h, ?_⟩
      rw [Collection.value, mapM_eq_some_of_zip hlength fun part hmem => ?_]
      · rfl
      · have hmember := (List.of_mem_zip hmem).1
        rw [hpart _ _ (fun other heq => hbehind part.1.1 other (heq ▸ hmember)) (hvalues part hmem)]
        exact congrArg some (Prod.ext (hkeys part hmem) rfl)

/-! ## Sweeps -/

/-- The values of as many collections are kept: `note` does not change the size. -/
theorem size_note (collections : Collections) (id : NodeId) (known : KnownValues) :
    (collections.note id known).size = known.size := by
  unfold note
  split <;> simp

/-- What is known stays known: `note` loses no value. -/
theorem join_note_of_join (h : known[id]?.join = some value) (other : NodeId) :
    (collections.note other known)[id]?.join = some value := by
  unfold note
  split
  · next hnone =>
    have hne : other ≠ id := by
      rintro rfl
      rw [h] at hnone
      cases hnone
    rwa [Array.set!_eq_setIfInBounds, Array.getElem?_setIfInBounds_ne hne]
  · exact h

/-- Only the value of one collection is found: `note` changes one place. -/
theorem getElem?_note_of_ne {other : NodeId} (h : other ≠ id) :
    (collections.note other known)[id]? = known[id]? := by
  unfold note
  split
  · rw [Array.set!_eq_setIfInBounds, Array.getElem?_setIfInBounds_ne h]
  · rfl

/-- **What is known after a sweep down to** `place`: the values of the collections from there on. -/
structure SweptTo (collections : Collections) (place : NodeId) (known : KnownValues) : Prop where
  /-- There are as many values as collections. -/
  size : known.size = collections.size
  /-- Values before the place are not known. -/
  before : ∀ id < place, known[id]?.join = none
  /-- The others are. -/
  behind : ∀ id value, place ≤ id → Collected collections (.collection id) value →
    known[id]?.join = some value

/-- A sweep starts behind all collections: `SweptTo` holds at the size, where nothing is known. -/
theorem sweptTo_size (collections : Collections) :
    SweptTo collections collections.size (Array.replicate collections.size none) where
  size := by simp
  before id h := by simp [h]
  behind id value h hvalue := absurd (lt_size_of_collected hvalue) (Nat.not_lt.2 h)

/-- A sweep goes on to the collection before: `note` leads from `place + 1` to `place`. -/
theorem SweptTo.note (h : SweptTo collections (place + 1) known) (hplace : place < collections.size) :
    SweptTo collections place (collections.note place known) where
  size := (size_note collections place known).trans h.size
  before id hid := by
    rw [getElem?_note_of_ne (Nat.ne_of_gt hid)]
    exact h.before id (Nat.lt_succ_of_lt hid)
  behind id value hid hvalue := by
    rcases Nat.eq_or_lt_of_le hid with rfl | hlt
    · obtain ⟨collection, hcollection, hfound⟩ := exists_value_eq_some hvalue fun id value hlt =>
        h.behind id value hlt
      unfold Collections.note
      rw [hcollection, h.before place (Nat.lt_succ_self place)]
      dsimp only
      rw [hfound, Array.set!_eq_setIfInBounds,
        Array.getElem?_setIfInBounds_self_of_lt (by rwa [h.size])]
      rfl
    · rw [getElem?_note_of_ne (Nat.ne_of_lt hlt)]
      exact h.behind id value hlt hvalue

/-- A sweep ends at the first collection: `foldr` of `note` leads to `0`. -/
theorem SweptTo.foldr (h : SweptTo collections place known) (hplace : place ≤ collections.size) :
    SweptTo collections 0 ((List.range place).foldr collections.note known) := by
  induction place generalizing known with
  | zero => exact h
  | succ place ih =>
      rw [List.range_succ, List.foldr_append]
      exact ih (h.note hplace) (Nat.le_of_succ_le hplace)

/-- What is known before `sweep` is known after it. -/
theorem join_sweep_of_join (h : known[id]?.join = some value) :
    (collections.sweep known)[id]?.join = some value := by
  unfold sweep
  induction List.range collections.size with
  | nil => exact h
  | cons other ids ih => exact join_note_of_join ih other

/-- What is known stays known in all sweeps of `settle`. -/
theorem join_settle_of_join (h : known[id]?.join = some value) (sweeps : Nat) :
    (collections.settle sweeps known)[id]?.join = some value := by
  induction sweeps generalizing known with
  | zero => exact h
  | succ sweeps ih =>
      unfold settle
      dsimp only
      split
      · exact h
      · exact ih (join_sweep_of_join h)

/-- **The first sweep finds every value**: `finiteValues` has that of all that is `Collected`. -/
theorem join_finiteValues (h : Collected collections (.collection id) value) :
    collections.finiteValues[id]?.join = some value := by
  have hswept := (sweptTo_size collections).foldr (Nat.le_refl _)
  have hfound := hswept.behind id value (Nat.zero_le id) h
  -- the first sweep finds a value, so that it is not the last one
  have hcount : (collections.sweep (Array.replicate collections.size none)).count ≠
      KnownValues.count (Array.replicate collections.size none) := by
    have hnone : KnownValues.count (Array.replicate collections.size none) = 0 := by
      simp [KnownValues.count, Array.countP_replicate]
    have hsome : 0 < (collections.sweep (Array.replicate collections.size none)).count :=
      Array.countP_pos_iff.2 ⟨_, Array.mem_of_getElem? (Option.join_eq_some_iff.1 hfound), rfl⟩
    omega
  have hsettle : ∀ sweeps ≠ 0, (collections.settle sweeps
      (Array.replicate collections.size none))[id]?.join = some value := by
    intro sweeps hne
    obtain ⟨sweeps, rfl⟩ := Nat.exists_eq_succ_of_ne_zero hne
    rw [settle, if_neg hcount]
    exact join_settle_of_join hfound sweeps
  exact hsettle collections.size (Nat.ne_of_gt (Nat.zero_lt_of_lt (lt_size_of_collected h)))

/-- **What has a value is unfolded to it**: `value` gives what is `Collected`. -/
theorem value_eq_of_collected {part : Part} (h : Collected collections part value) :
    collections.value part = value := by
  have hpart : KnownValues.part? collections.finiteValues part = some value := by
    cases part with
    | scalar scalar =>
        cases h
        rfl
    | collection id => exact join_finiteValues h
  unfold Collections.value Collections.unfold
  rw [hpart]

end Collections

end TreeSift.Yaml
