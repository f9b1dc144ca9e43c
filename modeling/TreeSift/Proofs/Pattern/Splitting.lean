import Mathlib.Data.List.DropRight
import TreeSift.Pattern.List

/-! # Comma-separated pattern lists

`splitList` takes a text apart at its commas, trims the parts and drops the blank ones. It takes two
texts joined with a comma apart one after the other (`splitList_append_comma`), and entries that can
stand in such a text come back trimmed from the text that joins them (`splitList_joinWithCommas`). -/

namespace TreeSift

/-! ## Trimming -/

namespace Text

/-- Trimming the end is dropping blanks from the right: `trimEnd` is `List.rdropWhile isBlank`. -/
theorem trimEnd_eq_rdropWhile (cs : List Char) : trimEnd cs = cs.rdropWhile isBlank := rfl

/-- A text that starts with no blank still does so when its end is trimmed by `trimEnd`. -/
theorem trimStart_trimEnd {cs : List Char} (h : trimStart cs = cs) :
    trimStart (trimEnd cs) = trimEnd cs := by
  rw [trimStart, List.dropWhile_eq_self_iff] at h ⊢
  intro hpos
  have hinit : trimEnd cs <+: cs := List.rdropWhile_prefix isBlank cs
  rw [hinit.getElem hpos]
  exact h (Nat.lt_of_lt_of_le hpos hinit.length_le)

/-- Trimming a second time changes nothing: `trim` is idempotent. -/
@[simp] theorem trim_trim (cs : List Char) : trim (trim cs) = trim cs := by
  have hstart : trimStart (trimStart cs) = trimStart cs := List.dropWhile_idempotent isBlank cs
  rw [trim, trim, trimStart_trimEnd hstart]
  exact List.rdropWhile_idempotent isBlank (trimStart cs)

/-- Of the texts, `trim` keeps nothing exactly if they hold blanks only. -/
theorem trim_eq_nil_iff {cs : List Char} : trim cs = [] ↔ cs.all isBlank = true := by
  have hsplit : cs.takeWhile isBlank ++ trimStart cs = cs := List.takeWhile_append_dropWhile
  rw [trim, trimEnd_eq_rdropWhile, List.rdropWhile_eq_nil_iff, List.all_eq_true]
  constructor
  · intro h c hc
    -- what is trimmed away at the start is blank anyway
    rw [← hsplit] at hc
    rcases List.mem_append.1 hc with hc | hc
    · exact List.mem_takeWhile_imp hc
    · exact h c hc
  · exact fun h c hc => h c ((List.dropWhile_suffix isBlank).subset hc)

/-- Trimming adds nothing: `trim cs ⊆ cs`. -/
theorem trim_subset (cs : List Char) : trim cs ⊆ cs :=
  fun _ hc => (List.dropWhile_suffix isBlank).subset
    ((List.rdropWhile_prefix isBlank (trimStart cs)).subset hc)

/-- A string that is trimmed stays as it is when it is trimmed again: `trimText` is idempotent. -/
@[simp] theorem trimText_trimText (s : String) : trimText (trimText s) = trimText s := by
  simp [trimText]

/-- A string is trimmed to `""` exactly if it holds blanks only. -/
theorem trimText_eq_empty_iff {s : String} : trimText s = "" ↔ isBlankText s = true := by
  rw [trimText, isBlankText, ← trim_eq_nil_iff, String.ofList_eq_empty_iff]

/-- Trimming does not make a text blank: `isBlankText` says the same before and after. -/
@[simp] theorem isBlankText_trimText (s : String) : isBlankText (trimText s) = isBlankText s := by
  rw [Bool.eq_iff_iff, ← trimText_eq_empty_iff, ← trimText_eq_empty_iff, trimText_trimText]

end Text

open TreeSift.Text

/-! ## Entries of a list -/

/-- **What can stand between the commas of a pattern list**: a text with something in it, and
without `,`. -/
structure IsListEntry (entry : String) : Prop where
  /-- It does not hold blanks only. -/
  not_blank : isBlankText entry = false
  /-- It holds no comma. -/
  not_comma : ',' ∉ entry.toList

instance (entry : String) : Decidable (IsListEntry entry) :=
  decidable_of_iff (isBlankText entry = false ∧ ',' ∉ entry.toList)
    ⟨fun ⟨not_blank, not_comma⟩ => ⟨not_blank, not_comma⟩, fun h => ⟨h.not_blank, h.not_comma⟩⟩

/-- The entries of the parts of a text: each part by `trimText`, and without the blank ones. -/
def listEntries (parts : List (List Char)) : List String :=
  (parts.map fun part => trimText (String.ofList part)).filter (· != "")

/-- The entries of a text are those of the parts between its commas: `splitList` is `listEntries` of
`splitWhere`. -/
theorem splitList_eq_listEntries (text : String) :
    splitList text = listEntries (splitWhere (· == ',') text.toList) := by
  simp [splitList, listEntries, trimText]

/-- Entries of parts come one after the other: `listEntries` of `++`. -/
theorem listEntries_append (parts others : List (List Char)) :
    listEntries (parts ++ others) = listEntries parts ++ listEntries others := by
  rw [listEntries, List.map_append, List.filter_append, ← listEntries, ← listEntries]

/-- Parts that are not blank are all kept, as `trimText` of each. -/
theorem listEntries_map_toList {entries : List String} (h : ∀ entry ∈ entries, IsListEntry entry) :
    listEntries (entries.map String.toList) = entries.map trimText := by
  have hmap : (entries.map String.toList).map (fun part => trimText (String.ofList part)) =
      entries.map trimText := by
    simp
  rw [listEntries, hmap, List.filter_eq_self]
  intro trimmed htrimmed
  obtain ⟨entry, hentry, rfl⟩ := List.mem_map.1 htrimmed
  rw [bne_iff_ne, ne_eq, trimText_eq_empty_iff, (h entry hentry).not_blank]
  exact Bool.false_ne_true

/-- **The entries of a text** are trimmed, and each is an `IsListEntry`. -/
theorem isListEntry_of_mem_splitList {text entry : String} (h : entry ∈ splitList text) :
    trimText entry = entry ∧ IsListEntry entry := by
  rw [splitList_eq_listEntries, listEntries, List.mem_filter] at h
  obtain ⟨hmem, hne⟩ := h
  obtain ⟨part, hpart, rfl⟩ := List.mem_map.1 hmem
  have hblank : isBlankText (String.ofList part) = false := by
    rw [Bool.eq_false_iff, ne_eq, ← trimText_eq_empty_iff]
    exact bne_iff_ne.1 hne
  refine ⟨trimText_trimText _, ⟨by rw [isBlankText_trimText, hblank], fun hcomma => ?_⟩⟩
  rw [trimText, String.toList_ofList, String.toList_ofList] at hcomma
  exact absurd (not_mem_of_mem_splitWhere hpart ',' (trim_subset part hcomma)) (by decide)

/-- **Two texts joined with a comma** have the entries of the first one, and then those of the
other: `splitList` of both. -/
theorem splitList_append_comma (first later : String) :
    splitList (first ++ "," ++ later) = splitList first ++ splitList later := by
  have hchars : (first ++ "," ++ later).toList = first.toList ++ ',' :: later.toList := by
    simp
  rw [splitList_eq_listEntries, hchars, splitWhere_append_cons (by decide), listEntries_append,
    ← splitList_eq_listEntries, ← splitList_eq_listEntries]

/-- The text that joins entries with commas: `intercalate`. -/
def joinWithCommas (entries : List String) : String :=
  ",".intercalate entries

/-- **Joining undoes splitting up to blanks**: `splitList` gives entries back, by `trimText`, from
the text that joins them. -/
theorem splitList_joinWithCommas {entries : List String} (h : ∀ entry ∈ entries, IsListEntry entry) :
    splitList (joinWithCommas entries) = entries.map trimText := by
  cases entries with
  | nil =>
      -- the empty text has one part, which is blank
      decide
  | cons entry others =>
      have hchars : (joinWithCommas (entry :: others)).toList =
          [','].intercalate ((entry :: others).map String.toList) :=
        String.toList_intercalate
      have hparts : ∀ part ∈ (entry :: others).map String.toList, ∀ c ∈ part, (c == ',') = false := by
        intro part hpart c hc
        obtain ⟨text, htext, rfl⟩ := List.mem_map.1 hpart
        rw [beq_eq_false_iff_ne]
        rintro rfl
        exact (h text htext).not_comma hc
      rw [splitList_eq_listEntries, hchars, splitWhere_intercalate (by decide) (by simp) hparts,
        listEntries_map_toList h]

end TreeSift
