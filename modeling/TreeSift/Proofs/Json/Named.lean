import TreeSift.Json.Reader
import TreeSift.Proofs.Results

/-! # Names in JSON

The keys of every mapping in a JSON text are texts, however deep the mapping lies among mappings:
values of which this is so are `Named`. Main result: `named_of_read`. -/

namespace TreeSift.Json

open TreeSift.Document

/-- **A value whose mappings have texts for keys**, at every depth: each key is a `Scalar.text`. -/
inductive Named : Value → Prop
  /-- A value without parts. -/
  | scalar (scalar : Scalar) : Named (.scalar scalar)
  /-- A list. -/
  | list (items : List Value) : Named (.list items)
  /-- A mapping from texts to such values. -/
  | mapping {entries : Entries} : (∀ entry ∈ entries, ∃ name, entry.1 = .text name) →
      (∀ entry ∈ entries, Named entry.2) → Named (.mapping entries)

/-- An entry has a `Scalar.text` for its key, and its value is `Named`. -/
def NamedEntry (entry : Scalar × Value) : Prop :=
  (∃ name, entry.1 = .text name) ∧ Named entry.2

variable {entries : Entries} {text rest : List Char} {fuel levels : Nat} {value : Value}

/-- Entries that are each a `NamedEntry` make a mapping that is `Named`. -/
theorem Named.of_entries (h : ∀ entry ∈ entries, NamedEntry entry) : Named (.mapping entries) :=
  .mapping (fun entry hentry => (h entry hentry).1) fun entry hentry => (h entry hentry).2

/-- Putting a `NamedEntry` into a mapping by `insertEntry` keeps its form: a key that is there
stays. -/
theorem forall_namedEntry_insertEntry {key : Scalar} (hentry : NamedEntry (key, value))
    (h : ∀ entry ∈ entries, NamedEntry entry) :
    ∀ entry ∈ insertEntry key value entries, NamedEntry entry := by
  induction entries with
  | nil => simpa [insertEntry] using hentry
  | cons first entries ih =>
      rw [List.forall_mem_cons] at h
      unfold insertEntry
      split
      · exact List.forall_mem_cons.2 ⟨⟨h.1.1, hentry.2⟩, h.2⟩
      · exact List.forall_mem_cons.2 ⟨h.1, ih h.2⟩

/-- Collecting entries by `collectEntries` keeps their form, entry by entry. -/
theorem forall_namedEntry_collectEntries (h : ∀ entry ∈ entries, NamedEntry entry) :
    ∀ entry ∈ collectEntries entries, NamedEntry entry := by
  suffices hfold : ∀ front : Entries, (∀ entry ∈ front, NamedEntry entry) →
      ∀ entry ∈ entries.foldl (fun mapping entry => insertEntry entry.1 entry.2 mapping) front,
        NamedEntry entry from hfold [] (by simp)
  induction entries with
  | nil => exact fun front hfront => hfront
  | cons entry entries ih =>
      rw [List.forall_mem_cons] at h
      exact fun front hfront => ih h.2 _ (forall_namedEntry_insertEntry h.1 hfront)

/-- What a step gives after another one is what `f` makes of the value of that one: `map` on a
`Reading`, seen from its `ok`. -/
theorem exists_of_map_eq_ok {α β : Type} {reading : Reading α} {f : α × List Char → β}
    {result : β} (h : reading.map f = .ok result) : ∃ read, reading = .ok read ∧ f read = result := by
  cases reading with
  | error refusal => cases h
  | ok read => exact ⟨read, rfl, Except.ok.inj h⟩

/-- The members that `readMembers` gives have texts for keys, if the values in them are `Named`. -/
theorem forall_namedEntry_of_readMembers
    (hvalues : ∀ fuel' < fuel, ∀ {levels : Nat} {text rest : List Char} {value : Value},
      readValue fuel' levels text = .ok (value, rest) → Named value)
    (h : readMembers fuel levels text = .ok (entries, rest)) :
    ∀ entry ∈ entries, NamedEntry entry := by
  induction fuel generalizing levels text rest entries with
  | zero => cases h
  | succ fuel ih =>
      rw [readMembers.eq_def] at h
      dsimp only at h
      split at h
      -- a member is a name, a colon and a value, and then the end or a comma and more members
      · obtain ⟨⟨name, after⟩, -, h⟩ := bind_eq_ok_iff.1 h
        dsimp only at h
        split at h
        · obtain ⟨⟨value, left⟩, hvalue, h⟩ := bind_eq_ok_iff.1 h
          have hentry : NamedEntry (Scalar.text (String.ofList name), value) :=
            ⟨⟨_, rfl⟩, hvalues fuel (Nat.lt_succ_self fuel) hvalue⟩
          dsimp only at h
          split at h
          · cases h
            exact List.forall_mem_singleton.2 hentry
          · obtain ⟨⟨others, left'⟩, hothers, h⟩ := bind_eq_ok_iff.1 h
            cases h
            exact List.forall_mem_cons.2
              ⟨hentry, ih (fun fuel' hlt => hvalues fuel' (by omega)) hothers⟩
          · cases h
        · cases h
      · cases h

/-- **Every value that is read** by `readValue` is `Named`, by induction on the calls that it may
make. -/
theorem named_of_readValue (h : readValue fuel levels text = .ok (value, rest)) : Named value := by
  induction fuel using Nat.strongRecOn generalizing levels text rest value with
  | _ fuel ih =>
      cases fuel with
      | zero => cases h
      | succ fuel =>
          rw [readValue.eq_def] at h
          dsimp only at h
          split at h
          · obtain ⟨read, -, hread⟩ := exists_of_map_eq_ok h
            cases hread
            exact .scalar _
          · split at h
            · cases h
            · cases h
              exact .mapping (by simp) (by simp)
            · obtain ⟨⟨entries, left⟩, hmembers, hread⟩ := exists_of_map_eq_ok h
              cases hread
              exact .of_entries (forall_namedEntry_collectEntries
                (forall_namedEntry_of_readMembers (fun fuel' hlt => ih fuel' (by omega)) hmembers))
          · split at h
            · cases h
            · cases h
              exact .list []
            · obtain ⟨read, -, hread⟩ := exists_of_map_eq_ok h
              cases hread
              exact .list _
          · obtain ⟨read, -, hread⟩ := exists_of_map_eq_ok h
            cases hread
            exact .scalar _

/-- **The value of a JSON text has texts for names**: what `read` gives is `Named`. -/
theorem named_of_read {text : String} (h : read text = .ok value) : Named value := by
  rw [read] at h
  split at h
  · cases h
  · obtain ⟨⟨value', left⟩, hvalue, h⟩ := bind_eq_ok_iff.1 h
    dsimp only at h
    split at h
    · cases h
      exact named_of_readValue hvalue
    · cases h

end TreeSift.Json
