import TreeSift.Proofs.Json.Strings
import TreeSift.Proofs.Results
import TreeSift.Proofs.Text.PlainChars

/-! # JSON texts are read back

A `Textual` value is made of texts, truth values and nothing, by lists and by mappings whose keys are
different texts. What is written of such a value is read back as the value (`read_write`), as long
as it has no more levels than can be read. -/

namespace TreeSift.Json

open TreeSift.Document
open TreeSift.Text (isPlainChar isPlainChar_of_isHexDigit)

/-- **A value that is made of texts**: lists and mappings with different texts for keys, and
`Value.ofText` inside. -/
inductive Textual : Value → Prop where
  /-- Nothing. -/
  | null : Textual .null
  /-- A truth value. -/
  | bool (b : Bool) : Textual (.ofBool b)
  /-- A text. -/
  | text (text : String) : Textual (.ofText text)
  /-- A list of such values. -/
  | list {items : List Value} : (∀ item ∈ items, Textual item) → Textual (.list items)
  /-- A mapping from different texts to such values. -/
  | mapping {entries : Entries} : (∀ entry ∈ entries, ∃ name, entry.1 = .text name) →
      (entries.Pairwise fun a b => a.1.sameKey b.1 = false) →
        (∀ entry ∈ entries, Textual entry.2) → Textual (.mapping entries)

variable {value : Value} {level levels fuel : Nat} {rest : List Char}

/-! ## Where values start -/

/-- A value can start with the character: it is no space, no byte order mark and no closing bracket.
-/
def startsValue (c : Char) : Bool :=
  !isSpace c && c != '\ufeff' && c != ']'

/-- What `writeValue` gives starts with a character that `startsValue` accepts. -/
theorem exists_cons_of_writeValue (h : Textual value) (level : Nat) :
    ∃ c cs, writeValue level value = c :: cs ∧ startsValue c = true := by
  cases h with
  | null => exact ⟨'n', _, rfl, by decide⟩
  | bool b => cases b <;> exact ⟨_, _, rfl, by decide⟩
  | text text => exact ⟨'"', _, rfl, by decide⟩
  | @list items => cases items <;> exact ⟨'[', _, rfl, by decide⟩
  | @mapping entries => cases entries <;> exact ⟨'\x7b', _, rfl, by decide⟩

/-- In front of a character that is no space, `skipSpace` does nothing. -/
theorem skipSpace_cons {c : Char} {cs : List Char} (h : isSpace c = false) :
    skipSpace (c :: cs) = c :: cs :=
  List.dropWhile_cons_of_neg (by simp [h])

/-- The indentation of a line is skipped: `skipSpace` drops `newLine level`. -/
theorem skipSpace_newLine_append (level : Nat) (cs : List Char) :
    skipSpace (newLine level ++ cs) = skipSpace cs :=
  List.dropWhile_append_of_pos fun c hc => by
    rcases List.mem_cons.1 hc with rfl | hc
    · decide
    · rw [List.eq_of_mem_replicate hc]
      decide

/-- There is no space in front of what `writeValue` gives. -/
theorem skipSpace_writeValue (h : Textual value) (level : Nat) (rest : List Char) :
    skipSpace (writeValue level value ++ rest) = writeValue level value ++ rest := by
  obtain ⟨c, cs, hcons, hstart⟩ := exists_cons_of_writeValue h level
  simp only [startsValue, Bool.and_eq_true, Bool.not_eq_true'] at hstart
  rw [hcons, List.cons_append, skipSpace_cons hstart.1.1]

/-! ## Values -/

/-- A string in quotes is read as its text: `readValue` undoes `writeString`. -/
theorem readValue_writeString (text : String) (rest : List Char) :
    readValue (fuel + 1) levels (writeString text ++ rest) = .ok (.ofText text, rest) := by
  have hwritten : writeString text ++ rest =
      '"' :: (text.toList.flatMap writeChar ++ '"' :: rest) := by simp [writeString]
  rw [hwritten, readValue, stringBody_flatMap_writeChar]
  simp [Except.map]

/-- A list that does not end at once has items: `readValue` goes on as `readItems`. -/
theorem readValue_list {text cs : List Char} {c : Char} (hskip : skipSpace text = c :: cs)
    (hc : c ≠ ']') :
    readValue (fuel + 1) (levels + 1) ('[' :: text) =
      (readItems fuel levels (c :: cs)).map fun (items, left) => (.list items, left) := by
  unfold readValue
  simp only [hskip]
  split
  · next hlevels => cases hlevels
  · next hbracket _ => exact absurd (List.cons.inj hbracket).1 hc
  · next _ hlevels _ =>
    cases hlevels
    rfl

/-- An object that starts with a string has members: `readValue` goes on as `readMembers`. -/
theorem readValue_mapping {text : List Char} {name : String} {entries : Entries}
    {after : List Char} (hskip : skipSpace text = writeString name ++ after)
    (h : readMembers fuel levels (writeString name ++ after) = .ok (entries, rest)) :
    readValue (fuel + 1) (levels + 1) ('\x7b' :: text) =
      .ok (.mapping (collectEntries entries), rest) := by
  rw [writeString, List.cons_append, List.cons_append] at hskip h
  unfold readValue
  simp only [hskip]
  split
  · next hlevels => cases hlevels
  · next hbrace _ => exact absurd (List.cons.inj hbrace).1 (by decide)
  · next _ hlevels _ =>
    cases hlevels
    rw [h]
    rfl

/-- **The value is read back** by `readValue` on every level, in front of every text, if it has no
more levels than the reader may go down, and the reader has two calls for every character. -/
def ReadsBack (value : Value) : Prop :=
  ∀ ⦃fuel levels level rest⦄, 2 * (writeValue level value).length ≤ fuel →
    value.nestsBeyond levels = false →
      readValue fuel levels (writeValue level value ++ rest) = .ok (value, rest)

/-- What has to be read is not empty, so that the reader has a call: `fuel` is a successor. -/
theorem exists_fuel_eq_succ (h : Textual value) (hfuel : 2 * (writeValue level value).length ≤ fuel) :
    ∃ fuel', fuel = fuel' + 1 := by
  obtain ⟨c, cs, hcons, -⟩ := exists_cons_of_writeValue h level
  rw [hcons, List.length_cons] at hfuel
  exact ⟨fuel - 1, by omega⟩

/-- The items of a list are read back up to the bracket after them: `readItems` undoes `writeItems`,
by induction on the items. -/
theorem readItems_writeItems {item : Value} {items : List Value} {close : Nat}
    (hitems : ∀ i ∈ item :: items, Textual i ∧ ReadsBack i)
    (hfuel : 2 * (writeValue level item ++ writeItems level items ++ newLine close).length + 2 ≤ fuel)
    (hlevels : Value.anyNestsBeyond levels (item :: items) = false) :
    readItems fuel levels
        (writeValue level item ++ (writeItems level items ++ (newLine close ++ ']' :: rest))) =
      .ok (item :: items, rest) := by
  -- on the items behind the first one, since a comma or the bracket comes after each
  induction items generalizing item fuel with
  | nil =>
      obtain ⟨fuel, rfl⟩ : ∃ n, fuel = n + 1 := ⟨fuel - 1, by omega⟩
      obtain ⟨-, hread⟩ := hitems item List.mem_cons_self
      simp only [Value.anyNestsBeyond, Bool.or_false] at hlevels
      simp only [writeItems, List.append_nil, List.length_append] at hfuel
      rw [readItems, hread (by omega) hlevels]
      simp only [ok_bind, writeItems, List.nil_append, skipSpace_newLine_append,
        skipSpace_cons (show isSpace ']' = false by decide)]
      rfl
  | cons next items ih =>
      obtain ⟨fuel, rfl⟩ : ∃ n, fuel = n + 1 := ⟨fuel - 1, by omega⟩
      obtain ⟨-, hread⟩ := hitems item List.mem_cons_self
      obtain ⟨hnext, -⟩ := hitems next (List.mem_cons_of_mem item List.mem_cons_self)
      simp only [Value.anyNestsBeyond, Bool.or_eq_false_iff] at hlevels
      simp only [writeItems, List.length_append, List.length_cons] at hfuel
      have hrest : readItems fuel levels
          (writeValue level next ++ (writeItems level items ++ (newLine close ++ ']' :: rest))) =
          .ok (next :: items, rest) :=
        ih (fun i hi => hitems i (List.mem_cons_of_mem item hi))
        (by simp only [List.length_append]; omega)
        (by simp only [Value.anyNestsBeyond, Bool.or_eq_false_iff]; exact hlevels.2)
      rw [readItems, hread (by omega) hlevels.1]
      simp only [ok_bind, writeItems, List.cons_append, List.append_assoc,
        skipSpace_cons (show isSpace ',' = false by decide), skipSpace_newLine_append,
        skipSpace_writeValue hnext, hrest]
      rfl

/-- There is no space in front of what `writeString` gives. -/
theorem skipSpace_writeString (text : String) (rest : List Char) :
    skipSpace (writeString text ++ rest) = writeString text ++ rest :=
  skipSpace_cons (by decide)

/-- The name of a member is read up to the value behind the colon: what `stringBody` leaves after it
starts there. -/
theorem exists_readMembers_name (h : Textual value) (name : String) (level : Nat) (rest : List Char) :
    ∃ after, writeString name ++ ':' :: ' ' :: (writeValue level value ++ rest) = '"' :: after ∧
      (∀ opening, stringBody opening after =
        .ok (name.toList, ':' :: ' ' :: (writeValue level value ++ rest))) ∧
        skipSpace (':' :: ' ' :: (writeValue level value ++ rest)) =
          ':' :: ' ' :: (writeValue level value ++ rest) ∧
          skipSpace (' ' :: (writeValue level value ++ rest)) = writeValue level value ++ rest :=
  ⟨_, by simp [writeString], fun opening => stringBody_flatMap_writeChar opening _ _,
    skipSpace_cons (by decide), skipSpace_writeValue h level rest⟩

/-- A member in front of the closing brace is the last one for `readMembers`. -/
theorem readMembers_of_end {name : String} {end' : List Char} (h : Textual value)
    (hvalue : readValue fuel levels (writeValue level value ++ rest) = .ok (value, rest))
    (hend : skipSpace rest = '\x7d' :: end') :
    readMembers (fuel + 1) levels
        (writeString name ++ ':' :: ' ' :: (writeValue level value ++ rest)) =
      .ok ([(.text name, value)], end') := by
  obtain ⟨after, hwritten, hname, hcolon, hspace⟩ := exists_readMembers_name h name level rest
  rw [hwritten, readMembers]
  simp only [hname, ok_bind, hcolon, hspace, hvalue, hend, String.ofList_toList, pure, Except.pure]

/-- A member in front of a comma comes before the others, which `readMembers` reads on. -/
theorem readMembers_of_comma {name : String} {next left : List Char} {entries : Entries}
    (h : Textual value)
    (hvalue : readValue fuel levels (writeValue level value ++ rest) = .ok (value, rest))
    (hcomma : skipSpace rest = ',' :: next)
    (hothers : readMembers fuel levels (skipSpace next) = .ok (entries, left)) :
    readMembers (fuel + 1) levels
        (writeString name ++ ':' :: ' ' :: (writeValue level value ++ rest)) =
      .ok ((.text name, value) :: entries, left) := by
  obtain ⟨after, hwritten, hname, hcolon, hspace⟩ := exists_readMembers_name h name level rest
  rw [hwritten, readMembers]
  simp only [hname, ok_bind, hcolon, hspace, hvalue, hcomma, hothers, String.ofList_toList, pure,
    Except.pure]

/-- The members of an object are read back up to the brace after them: `readMembers` undoes
`writeMembers`, by induction on the entries. -/
theorem readMembers_writeMembers {name : String} {value : Value} {entries : Entries} {close : Nat}
    (hnames : ∀ entry ∈ entries, ∃ name, entry.1 = .text name)
    (hvalues : ∀ entry ∈ (Scalar.text name, value) :: entries, Textual entry.2 ∧ ReadsBack entry.2)
    (hfuel : 2 * (writeString name ++ writeValue level value ++ writeMembers level entries ++
      newLine close).length + 2 ≤ fuel)
    (hlevels : Value.anyEntryNestsBeyond levels ((.text name, value) :: entries) = false) :
    readMembers fuel levels
        (writeString name ++ ':' :: ' ' :: (writeValue level value ++
          (writeMembers level entries ++ (newLine close ++ '\x7d' :: rest)))) =
      .ok ((.text name, value) :: entries, rest) := by
  -- on the members behind the first one, as with the items of a list
  induction entries generalizing name value fuel with
  | nil =>
      obtain ⟨fuel, rfl⟩ : ∃ n, fuel = n + 1 := ⟨fuel - 1, by omega⟩
      obtain ⟨hvalue, hread⟩ : Textual value ∧ ReadsBack value := hvalues _ List.mem_cons_self
      simp only [Value.anyEntryNestsBeyond, Bool.or_false] at hlevels
      simp only [List.length_append] at hfuel
      refine readMembers_of_end hvalue (hread (by omega) hlevels) ?_
      rw [writeMembers, List.nil_append, skipSpace_newLine_append, skipSpace_cons (by decide)]
  | cons entry entries ih =>
      obtain ⟨fuel, rfl⟩ : ∃ n, fuel = n + 1 := ⟨fuel - 1, by omega⟩
      obtain ⟨hvalue, hread⟩ : Textual value ∧ ReadsBack value := hvalues _ List.mem_cons_self
      obtain ⟨key, next⟩ := entry
      obtain ⟨nextName, rfl⟩ := hnames _ List.mem_cons_self
      simp only [Value.anyEntryNestsBeyond, Bool.or_eq_false_iff] at hlevels
      simp only [writeMembers, writeName, List.length_append, List.length_cons] at hfuel
      have hrest : readMembers fuel levels
          (writeString nextName ++ ':' :: ' ' :: (writeValue level next ++
            (writeMembers level entries ++ (newLine close ++ '\x7d' :: rest)))) =
          .ok ((.text nextName, next) :: entries, rest) :=
        ih (fun e he => hnames e (List.mem_cons_of_mem _ he))
        (fun e he => hvalues e (List.mem_cons_of_mem _ he))
        (by simp only [List.length_append]; omega)
        (by simp only [Value.anyEntryNestsBeyond, Bool.or_eq_false_iff]; exact hlevels.2)
      have hskip : skipSpace (writeMembers level ((.text nextName, next) :: entries) ++
          (newLine close ++ '\x7d' :: rest)) = ',' :: (newLine level ++ (writeString nextName ++
            ':' :: ' ' :: (writeValue level next ++
              (writeMembers level entries ++ (newLine close ++ '\x7d' :: rest))))) := by
        simp only [writeMembers, List.cons_append]
        rw [skipSpace_cons (by decide)]
        simp [writeName]
      refine readMembers_of_comma hvalue (hread (by omega) hlevels.1) hskip ?_
      rw [skipSpace_newLine_append, skipSpace_writeString, hrest]

/-- A list `ReadsBack` if its items do. -/
theorem readsBack_list {items : List Value} (hitems : ∀ i ∈ items, Textual i ∧ ReadsBack i) :
    ReadsBack (.list items) := by
  intro fuel levels level rest hfuel hlevels
  obtain ⟨fuel, rfl⟩ := exists_fuel_eq_succ (.list fun i hi => (hitems i hi).1) hfuel
  obtain ⟨levels, rfl, hlevels⟩ := Value.exists_levels_of_list hlevels
  cases items with
  | nil => simp [writeValue, readValue, skipSpace_cons (show isSpace ']' = false by decide)]
  | cons item items =>
      have hread : readItems fuel levels (writeValue (level + 1) item ++
          (writeItems (level + 1) items ++ (newLine level ++ ']' :: rest))) =
          .ok (item :: items, rest) :=
        readItems_writeItems hitems
        (by simp only [writeValue, List.length_append, List.length_cons] at hfuel ⊢; omega) hlevels
      -- the first item starts with no closing bracket, so that the list is not taken for an empty one
      obtain ⟨hitem, -⟩ := hitems item List.mem_cons_self
      obtain ⟨c, cs, hcons, hstart⟩ := exists_cons_of_writeValue hitem (level + 1)
      have hskip := skipSpace_writeValue hitem (level + 1)
        (writeItems (level + 1) items ++ (newLine level ++ ']' :: rest))
      rw [hcons, List.cons_append] at hskip hread
      simp only [startsValue, Bool.and_eq_true, bne_iff_ne] at hstart
      simp only [writeValue, List.cons_append, List.append_assoc, List.nil_append, hcons]
      rw [readValue_list (by rw [skipSpace_newLine_append, hskip]) hstart.2, hread]
      rfl

/-- A mapping from different texts `ReadsBack` if its values do. -/
theorem readsBack_mapping {entries : Entries}
    (hnames : ∀ entry ∈ entries, ∃ name, entry.1 = .text name)
    (hpairwise : entries.Pairwise fun a b => a.1.sameKey b.1 = false)
    (hvalues : ∀ entry ∈ entries, Textual entry.2 ∧ ReadsBack entry.2) :
    ReadsBack (.mapping entries) := by
  intro fuel levels level rest hfuel hlevels
  have htextual : Textual (.mapping entries) :=
    .mapping hnames hpairwise fun e he => (hvalues e he).1
  obtain ⟨fuel, rfl⟩ := exists_fuel_eq_succ htextual hfuel
  obtain ⟨levels, rfl, hlevels⟩ := Value.exists_levels_of_mapping hlevels
  cases entries with
  | nil => simp [writeValue, readValue, skipSpace_cons (show isSpace '\x7d' = false by decide)]
  | cons entry entries =>
      obtain ⟨key, value⟩ := entry
      obtain ⟨name, rfl⟩ := hnames _ List.mem_cons_self
      have hread : readMembers fuel levels
          (writeString name ++ ':' :: ' ' :: (writeValue (level + 1) value ++
            (writeMembers (level + 1) entries ++ (newLine level ++ '\x7d' :: rest)))) =
          .ok ((.text name, value) :: entries, rest) :=
        readMembers_writeMembers (fun e he => hnames e (List.mem_cons_of_mem _ he)) hvalues
        (by
          simp only [writeValue, writeName, List.length_append, List.length_cons] at hfuel ⊢
          omega)
        hlevels
      have hskip := skipSpace_writeString name (':' :: ' ' :: (writeValue (level + 1) value ++
        (writeMembers (level + 1) entries ++ (newLine level ++ '\x7d' :: rest))))
      simp only [writeValue, writeName, List.cons_append, List.append_assoc, List.nil_append]
      rw [readValue_mapping (by rw [skipSpace_newLine_append, hskip]) hread,
        collectEntries_of_pairwise hpairwise]

/-- **Every value that is made of texts is read back**: `ReadsBack` by induction on `Textual`. -/
theorem Textual.readsBack (h : Textual value) : ReadsBack value := by
  induction h with
  | null =>
      intro fuel levels level rest hfuel _
      obtain ⟨fuel, rfl⟩ := exists_fuel_eq_succ .null hfuel
      rfl
  | bool b =>
      intro fuel levels level rest hfuel _
      obtain ⟨fuel, rfl⟩ := exists_fuel_eq_succ (.bool b) hfuel
      cases b <;> rfl
  | text text =>
      intro fuel levels level rest hfuel _
      obtain ⟨fuel, rfl⟩ := exists_fuel_eq_succ (.text text) hfuel
      exact readValue_writeString text rest
  | list hitems ih => exact readsBack_list fun i hi => ⟨hitems i hi, ih i hi⟩
  | mapping hnames hpairwise hvalues ih =>
      exact readsBack_mapping hnames hpairwise fun e he => ⟨hvalues e he, ih e he⟩

/-- **What is written of a value that is made of texts is read back as the value**: `read (write
value) = .ok value`, if it has no more levels than `readableLevels`. -/
theorem read_write (h : Textual value) (hlevels : value.nestsBeyond readableLevels = false) :
    read (write value) = .ok value := by
  obtain ⟨c, cs, hcons, hstart⟩ := exists_cons_of_writeValue h 0
  have hread : readValue (2 * (writeValue 0 value).length + 2) readableLevels
      (writeValue 0 value ++ []) = .ok (value, []) := h.readsBack (by omega) hlevels
  have hskip := skipSpace_writeValue h 0 []
  simp only [startsValue, Bool.and_eq_true, bne_iff_ne] at hstart
  rw [List.append_nil] at hread hskip
  rw [read, write, String.toList_ofList]
  split
  · next heq =>
    rw [hcons] at heq
    exact absurd (List.cons.inj heq).1 hstart.1.2
  · rw [hskip, hread]
    rfl

/-! ## Characters of the text -/

/-- What `numericEscape` writes satisfies `isPlainChar`. -/
theorem all_numericEscape (unit : Nat) : (numericEscape unit).all isPlainChar = true := by
  simp only [numericEscape, List.all_cons, List.all_eq_true, Bool.and_eq_true]
  exact ⟨by decide, by decide, fun c hc =>
    isPlainChar_of_isHexDigit (Text.isHexDigit_of_mem_hexDigits hc)⟩

/-- What `writeChar` writes satisfies `isPlainChar`, for every character. -/
theorem all_writeChar (c : Char) : (writeChar c).all isPlainChar = true := by
  unfold writeChar
  split_ifs with hmark hfeed hreturn htab hback hform hprintable hbasic
  · rcases hmark with rfl | rfl <;> decide
  · decide
  · decide
  · decide
  · decide
  · decide
  · simp [isPlainChar, hprintable]
  · exact all_numericEscape _
  · rw [List.all_append, all_numericEscape, all_numericEscape]
    rfl

/-- What `writeString` writes satisfies `isPlainChar`. -/
theorem all_writeString (text : String) : (writeString text).all isPlainChar = true := by
  have htext : (text.toList.flatMap writeChar).all isPlainChar = true := by
    rw [List.all_flatMap, List.all_eq_true]
    exact fun c _ => all_writeChar c
  simp only [writeString, List.cons_append, List.all_cons, List.all_append, htext]
  decide

/-- Line ends with their indentation, `newLine level`, satisfy `isPlainChar`. -/
theorem all_newLine (level : Nat) : (newLine level).all isPlainChar = true := by
  simp only [newLine, List.all_cons, List.all_replicate]
  split <;> rfl

/-- **Everything that is made of texts is written in printable ASCII and line feeds**: `isPlainChar`
holds of all that `writeValue` gives. -/
theorem all_writeValue (h : Textual value) (level : Nat) :
    (writeValue level value).all isPlainChar = true := by
  induction h generalizing level with
  | null => rfl
  | bool b => cases b <;> rfl
  | text text => exact all_writeString text
  | @list items hitems ih =>
      have hwritten : ∀ is ⊆ items, (writeItems (level + 1) is).all isPlainChar = true := by
        intro is hsubset
        induction is with
        | nil => rfl
        | cons i is ihis =>
            rw [List.cons_subset] at hsubset
            simp only [writeItems, List.cons_append, List.all_cons, List.all_append, all_newLine,
              ih i hsubset.1, ihis hsubset.2]
            decide
      cases items with
      | nil => rfl
      | cons item items =>
          simp only [writeValue, List.cons_append, List.all_cons, List.all_append, all_newLine,
            ih item List.mem_cons_self, hwritten items (List.subset_cons_self item items)]
          decide
  | @mapping entries hnames hpairwise hvalues ih =>
      have hwritten : ∀ es ⊆ entries, (writeMembers (level + 1) es).all isPlainChar = true := by
        intro es hsubset
        induction es with
        | nil => rfl
        | cons e es ihes =>
            rw [List.cons_subset] at hsubset
            obtain ⟨key, value⟩ := e
            obtain ⟨name, rfl⟩ := hnames _ hsubset.1
            simp only [writeMembers, writeName, List.cons_append, List.all_cons, List.all_append,
              all_newLine, all_writeString, ih _ hsubset.1, ihes hsubset.2]
            decide
      cases entries with
      | nil => rfl
      | cons entry entries =>
          obtain ⟨key, value⟩ := entry
          obtain ⟨name, rfl⟩ := hnames _ List.mem_cons_self
          simp only [writeValue, writeName, List.cons_append, List.all_cons, List.all_append,
            all_newLine, all_writeString, ih _ List.mem_cons_self,
            hwritten entries (List.subset_cons_self _ _)]
          decide

end TreeSift.Json
