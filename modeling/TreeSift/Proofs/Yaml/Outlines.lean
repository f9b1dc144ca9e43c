import TreeSift.Proofs.Yaml.Tokens
import TreeSift.Yaml.Writer

/-! # Tokens of values

An `Outlined` value is made of texts, truth values and lists of texts by mappings whose keys are
different words. What is written of such a value has the tokens that `valueTokens` lists
(`ofText_write`). -/

namespace TreeSift.Yaml

open TreeSift.Document
open TreeSift.Text (isPlainChar)

/-! ## Outlined values -/

/-- **A word that a key can be**: an `IsWord` of the plain style with at most 100 characters. -/
structure IsName (name : String) : Prop where
  /-- It is written plain. -/
  plain : styleOf name = .plain
  /-- It has no spaces in it. -/
  word : IsWord name.toList
  /-- It is short. -/
  short : name.toList.length ≤ 100

/-- Whether a name satisfies `IsName` can be checked. -/
instance (name : String) : Decidable (IsName name) :=
  decidable_of_iff (styleOf name = .plain ∧ IsWord name.toList ∧ name.toList.length ≤ 100)
    ⟨fun ⟨hplain, hword, hshort⟩ => ⟨hplain, hword, hshort⟩,
      fun h => ⟨h.plain, h.word, h.short⟩⟩

/-- **A value that is written on lines of its own**: truth values, texts, lists of texts, and
mappings from different names to such values. -/
inductive Outlined : Value → Prop where
  /-- A truth value. -/
  | bool (b : Bool) : Outlined (.ofBool b)
  /-- A text. -/
  | text (text : String) : Outlined (.ofText text)
  /-- A list of texts. -/
  | texts (texts : List String) : Outlined (.ofTexts texts)
  /-- A mapping from different words to such values. -/
  | mapping {entries : Entries} : entries ≠ [] →
    (∀ entry ∈ entries, ∃ name, IsName name ∧ entry.1 = .text name) →
    (entries.Pairwise fun a b => a.1.sameKey b.1 = false) →
    (∀ entry ∈ entries, Outlined entry.2) → Outlined (.mapping entries)

/-- The scalar is a text or a truth value: `.text` or `.bool`. -/
def IsPlainScalar (scalar : Scalar) : Prop :=
  (∃ text, scalar = .text text) ∨ ∃ b, scalar = .bool b

/-- A scalar that is `Outlined` is a text or a truth value. -/
theorem Outlined.isPlainScalar {scalar : Scalar} (h : Outlined (.scalar scalar)) : IsPlainScalar scalar := by
  cases h with
  | text text => exact .inl ⟨text, rfl⟩
  | bool b => exact .inr ⟨b, rfl⟩

/-- The items of a list that is `Outlined` are so. -/
theorem Outlined.item {items : List Value} (h : Outlined (.list items)) :
    ∀ item ∈ items, Outlined item := by
  cases h with
  | texts texts =>
      intro item hitem
      obtain ⟨text, -, rfl⟩ := List.mem_map.1 hitem
      exact .text text

/-- The entries of a mapping that is `Outlined` have texts for keys and values that are so. -/
theorem Outlined.entry {entries : Entries} (h : Outlined (.mapping entries)) :
    ∀ entry ∈ entries, IsPlainScalar entry.1 ∧ Outlined entry.2 := by
  cases h with
  | mapping hne hnames hpairwise hvalues =>
      intro entry hentry
      obtain ⟨name, -, hname⟩ := hnames entry hentry
      exact ⟨.inl ⟨name, hname⟩, hvalues entry hentry⟩

/-- The keys of a mapping that is `Outlined` are different: no two are `sameKey`. -/
theorem Outlined.pairwise {entries : Entries} (h : Outlined (.mapping entries)) :
    entries.Pairwise fun a b => a.1.sameKey b.1 = false := by
  cases h with
  | mapping hne hnames hpairwise hvalues => exact hpairwise

/-- The values in a mapping have fewer levels than the mapping: `nestsBeyond` of each. -/
theorem nestsBeyond_of_mem {entries : Entries} {levels : Nat}
    (h : Value.anyEntryNestsBeyond levels entries = false) :
    ∀ entry ∈ entries, entry.2.nestsBeyond levels = false := by
  induction entries with
  | nil => nofun
  | cons entry entries ih =>
      rw [Value.anyEntryNestsBeyond, Bool.or_eq_false_iff] at h
      exact List.forall_mem_cons.2 ⟨h.1, ih h.2⟩

/-! ## Tokens -/

/-- The token of a scalar: its content, and whether it is written plain. -/
def scalarToken : Scalar → Token
  | .text text => .scalar text (styleOf text == .plain)
  | scalar => .scalar (String.ofList (scalarContent scalar)) true

mutual

/-- **The tokens of an outlined value** behind a key: what `Token.ofText` gives for what is written
of it. -/
def valueTokens : Value → List Token
  | .scalar scalar => [scalarToken scalar]
  | .list [] => [.flowListStart, .flowListEnd]
  | .list (item :: items) => .item :: valueTokens item ++ itemTokens items
  | .mapping entries => .blockMappingStart :: entryTokens entries ++ [.blockEnd]
  | _ => []

/-- The tokens of the items of a list: `.item` in front of those of each. -/
def itemTokens : List Value → List Token
  | [] => []
  | item :: items => .item :: valueTokens item ++ itemTokens items

/-- The tokens of the entries of a mapping: `.key` and `.value` in front of those of each part. -/
def entryTokens : List (Scalar × Value) → List Token
  | [] => []
  | (key, value) :: entries =>
    .key :: scalarToken key :: .value :: valueTokens value ++ entryTokens entries

end

/-! ## Keys -/

variable {name : String} {value : Value} {indent column : Nat}

/-- A word has no spaces and no line feeds: `IsWord` allows for visible characters only. -/
theorem IsWord.ne_blank {word : List Char} (h : IsWord word) : ∀ c ∈ word, c ≠ ' ' ∧ c ≠ '\n' := by
  refine fun c hc => ⟨(h.visible c hc).2, ?_⟩
  rintro rfl
  exact absurd (h.visible _ hc).1 (by decide)

/-- A word is a run of its own: `splitBy sameRun` leaves it whole. -/
theorem splitBy_of_isWord {word : List Char} (h : IsWord word) : word.splitBy sameRun = [word] := by
  refine List.splitBy_of_isChain h.ne_nil (List.Pairwise.isChain ?_)
  refine List.pairwise_of_forall_mem_list fun a ha b hb => ?_
  exact sameRun_iff.2 ⟨iff_of_false (h.ne_blank a ha).1 (h.ne_blank b hb).1,
    iff_of_false (h.ne_blank a ha).2 (h.ne_blank b hb).2⟩

/-- A word is written as it is: `writeText` of what `IsName` is plain. -/
theorem writeText_of_isName (h : IsName name) : writeText false indent column name = name.toList := by
  have hruns : writeRuns false (fun c => [c]) indent true column [name.toList] = name.toList := by
    rw [writeRuns_word h.word.ne_nil h.word.ne_blank]
    simp [writeRuns]
  unfold writeText
  rw [h.plain]
  dsimp only
  rw [splitBy_of_isWord h.word]
  exact hruns

/-- A word is written in front of its colon: `isShortKey` holds of it. -/
theorem isShortKey_text (h : IsName name) : isShortKey (.text name) = true := by
  have hlength : (tagOfScalar (.text name)).shortName.length = 5 := by
    change Tag.text.shortName.length = 5
    decide +kernel
  have hbreak : name.toList.any splitsKey = false := by
    rw [List.any_eq_false]
    intro c hc
    have hc := h.word.visible c hc
    simp [splitsKey, isBreak_of_isPrintable hc.1 hc.2]
  have hshort : 5 + name.toList.length ≤ keyWidth := by
    have := h.short
    rw [keyWidth]
    omega
  have hne : name.toList.isEmpty = false := by simpa using h.word.ne_nil
  rw [isShortKey]
  simp only [scalarContent, hlength, hbreak, hne, hshort, Bool.not_false, Bool.and_self, decide_true]

/-- What `writeEntry` gives is the name, its colon, and `writeAfterKey` of the value. -/
theorem writeEntry_text (h : IsName name) :
    writeEntry indent (.text name, value) =
      name.toList ++ ':' :: writeAfterKey indent (indent + name.toList.length + 1) value := by
  rw [writeEntry, writeKey, if_pos (isShortKey_text h), writeScalar, writeText_of_isName h]

/-- In front of a colon, `atDocumentMark` finds no mark of a document. -/
theorem atDocumentMark_append_colon {text : List Char} (h : startsIndicator text = false)
    (rest : List Char) : atDocumentMark (text ++ ':' :: rest) = false := by
  unfold atDocumentMark
  split
  · next heq =>
    rcases text with _ | ⟨a, _ | ⟨b, _ | ⟨c, text⟩⟩⟩ <;> cases heq
    cases h
  · next heq =>
    rcases text with _ | ⟨a, _ | ⟨b, _ | ⟨c, text⟩⟩⟩ <;> cases heq
    cases h
  · rfl

/-- A word starts a line: `StartsWord` and `StartsLine` hold of a name and its colon. -/
theorem IsName.startsLine (h : IsName name) (rest : List Char) :
    StartsWord (name.toList ++ ':' :: rest) ∧ Lex.StartsLine (name.toList ++ ':' :: rest) := by
  have hstart := startsIndicator_of_styleOf h.plain
  have hwords : Words 0 name.toList name.toList := .word h.word
  have hword := hwords.startsWord hstart (':' :: rest)
  exact ⟨hword, Lex.startsToken_of_startsWord hword, atDocumentMark_append_colon hstart rest⟩

/-! ## Reading values -/

namespace Lex

variable {s : LexState} {text : List Char} {base deeper : List Nat} {next : Nat} {tokens : List Token}

/-- **A value is read behind a key** in a column, up to the next line. What is still open there in
deeper columns ends in front of it. -/
def Reads (indent : Nat) (value : Value) : Prop :=
  ∀ {start index line column count next : Nat} {base : List Nat} {tokens : List Token}
    {text : List Char}, StartsLine text → indent ≤ column → next ≤ indent →
    ∃ s deeper more,
      Run ⟨⟨writeAfterKey indent start value ++ (newLine next ++ text), index, line, column⟩,
        indent :: base, none, [], false, count, tokens⟩ s ∧
      AtLine s next text (deeper ++ indent :: base) more ∧ (∀ column ∈ deeper, indent < column) ∧
      List.replicate deeper.length .blockEnd ++ more = (valueTokens value).reverse ++ tokens

/-- Texts are read: `Reads` holds of `.ofText`. -/
theorem reads_text (hindent : indent + 2 < lineWidth) (text : String) :
    Reads indent (.ofText text) := by
  intro start index line column count next base tokens rest hrest hcolumn hnext
  obtain ⟨s, hrun, hline⟩ := @exists_run_writeText rest base false index line column count tokens indent
    next text (start + 1) hindent hrest hcolumn hnext
  exact ⟨s, [], _, hrun, hline, nofun, rfl⟩

/-- Truth values are read: `Reads` holds of `.ofBool`. -/
theorem reads_bool (b : Bool) : Reads indent (.ofBool b) := by
  intro start index line column count next base tokens rest hrest hcolumn hnext
  have hword : IsWord (scalarContent (.bool b)) := by
    cases b <;> decide +kernel
  have hstart : startsIndicator (scalarContent (.bool b)) = false := by cases b <;> decide
  have hwords : Words (indent + 1) _ _ := .word hword
  obtain ⟨s, hrun, hline⟩ := @exists_run_words rest base false index line column count tokens _ _ indent
    next hwords (hwords.startsWord hstart _) hrest hcolumn hnext
  exact ⟨s, [], _, hrun, hline, nofun, rfl⟩

/-- An item may start a line: `StartsLine` holds of a hyphen and a space. -/
theorem startsLine_item : StartsLine ('-' :: ' ' :: text) :=
  ⟨⟨nofun, nofun, takeBreak?_eq_none rfl⟩, rfl⟩

/-- The items of a list are read one after the other, by induction on `texts`. -/
theorem exists_run_items (texts : List String) {first : String} (hindent : indent + 2 < lineWidth)
    (htext : StartsLine text) (hnext : next ≤ indent)
    (h : AtLine s indent ('-' :: ' ' :: (writeText true (indent + 2) (indent + 2) first ++
      (writeItems indent (texts.map .ofText) ++ (newLine next ++ text)))) (indent :: base) tokens) :
    ∃ s', Run s s' ∧ AtLine s' next text (indent :: base)
      ((valueTokens (.ofTexts (first :: texts))).reverse ++ tokens) := by
  obtain ⟨index, line, count, hitem⟩ := exists_run_item h
  induction texts generalizing first s tokens index line count with
  | nil =>
      obtain ⟨s', hrun, hline⟩ := @exists_run_writeText text base true index line (indent + 1) count
        (.item :: tokens) indent next first (indent + 2) hindent htext (Nat.le_succ indent) hnext
      exact ⟨s', hitem.trans hrun, hline⟩
  | cons second texts ih =>
      obtain ⟨s', hrun, hline⟩ := @exists_run_writeText ('-' :: ' ' ::
          (writeText true (indent + 2) (indent + 2) second ++
            (writeItems indent (texts.map .ofText) ++ (newLine next ++ text)))) base true index line
        (indent + 1) count (.item :: tokens) indent indent first (indent + 2) hindent startsLine_item
        (Nat.le_succ indent) (Nat.le_refl indent)
      obtain ⟨index', line', count', hitem'⟩ := exists_run_item hline
      obtain ⟨s'', hrun', hline'⟩ := ih hline index' line' count' hitem'
      refine ⟨s'', ?_, ?_⟩
      · refine Run.trans (hitem.trans ?_) hrun'
        simpa [writeItems, writeAfterMark, Value.ofText, writeScalar] using hrun
      · simpa [Value.ofTexts, valueTokens, itemTokens, Value.ofText, scalarToken] using hline'

/-- Lists of texts are read: `Reads` holds of `.ofTexts`. -/
theorem reads_texts (hindent : indent + 2 < lineWidth) (texts : List String) :
    Reads indent (.ofTexts texts) := by
  intro start index line column count next base tokens rest hrest hcolumn hnext
  cases texts with
  | nil =>
      obtain ⟨s, hrun, hline⟩ := @exists_run_emptyList rest base index line column count tokens indent
        next hrest hcolumn
      exact ⟨s, [], _, hrun, hline, nofun, rfl⟩
  | cons first texts =>
      have hline := @atLine_newLine ('-' :: ' ' :: (writeText true (indent + 2) (indent + 2) first ++
        (writeItems indent (texts.map .ofText) ++ (newLine next ++ rest)))) (indent :: base) none false
        index line column count tokens indent startsLine_item.1 nofun
      obtain ⟨s, hrun, hline⟩ := exists_run_items texts hindent hrest hnext hline
      refine ⟨s, [], _, ?_, hline, nofun, rfl⟩
      simpa [Value.ofTexts, writeAfterKey, writeAfterMark, Value.ofText, writeScalar] using hrun

/-! ## Mappings -/

/-- The columns that are open in a mapping whose entries have the column `indent`: that of the
mapping may be there already. -/
def opened (indent : Nat) (base : List Nat) : List Nat :=
  if base.head? = some indent then base else indent :: base

/-- The token that a mapping starts with, `.blockMappingStart`, unless it has been opened. -/
def opening (indent : Nat) (base : List Nat) : List Token :=
  if base.head? = some indent then [] else [.blockMappingStart]

/-- A mapping is open in the column of its entries: `indent` is the first of `opened`. -/
theorem head?_opened (indent : Nat) (base : List Nat) :
    (opened indent base).head? = some indent := by
  unfold opened
  split_ifs with h
  · exact h
  · rfl

/-- What follows the colon of a key starts with a blank: `atBlank` holds of `writeAfterKey`. -/
theorem atBlank_writeAfterKey (h : Outlined value) (start : Nat) (rest : List Char) :
    atBlank (writeAfterKey indent start value ++ rest) = true := by
  cases h with
  | bool | text => rfl
  | texts texts => cases texts <;> rfl
  | @mapping entries hne => cases entries with
    | nil => exact absurd rfl hne
    | cons => rfl

/-- An entry is read up to the next line: its key, its colon, and what `Reads` says of its value. -/
theorem exists_run_entry (hname : IsName name) (hvalue : Outlined value) (hreads : Reads indent value)
    (htext : StartsLine text) (hnext : next ≤ indent) (hdeeper : ∀ column ∈ deeper, indent < column)
    (hbase : ∀ column ∈ base.head?, column ≤ indent)
    (h : AtLine s indent (writeEntry indent (.text name, value) ++ (newLine next ++ text))
      (deeper ++ base) tokens) :
    ∃ s' deeper' more, Run s s' ∧ AtLine s' next text (deeper' ++ opened indent base) more ∧
      (∀ column ∈ deeper', indent < column) ∧
      List.replicate deeper'.length .blockEnd ++ more =
        (entryTokens [(.text name, value)]).reverse ++
          (opening indent base ++ (List.replicate deeper.length .blockEnd ++ tokens)) := by
  rw [writeEntry_text hname, List.append_assoc, List.cons_append] at h
  obtain ⟨hstart, hline⟩ := hname.startsLine (writeAfterKey indent (indent + name.toList.length + 1)
    value ++ (newLine next ++ text))
  have hreach : name.toList.length ≤ keyReach := Nat.le_trans hname.short (by decide)
  obtain ⟨index, line, column, count, hcolumn, hkey⟩ := exists_run_key h hname.word hstart hline.noMark
    hreach (atBlank_writeAfterKey hvalue _ _) hdeeper hbase
  obtain ⟨open_, hopen⟩ := List.head?_eq_some_iff.1 (head?_opened indent base)
  have hopen' : (if base.head? = some indent then base else indent :: base) = indent :: open_ := hopen
  rw [hopen'] at hkey
  obtain ⟨s', deeper', more, hrun, hnextLine, hdeeper', htokens⟩ := hreads htext hcolumn hnext
  refine ⟨s', deeper', more, hkey.trans hrun, by rw [hopen]; exact hnextLine, hdeeper', ?_⟩
  rw [htokens]
  have hstyle : (styleOf name == .plain) = true := by rw [hname.plain]; rfl
  simp [entryTokens, scalarToken, opening, hstyle, String.ofList_toList]

/-- An entry may start a line: `StartsLine` holds of `writeEntry`. -/
theorem startsLine_writeEntry {entry : Scalar × Value}
    (h : ∃ name, IsName name ∧ entry.1 = .text name) (rest : List Char) :
    StartsLine (writeEntry indent entry ++ rest) := by
  obtain ⟨key, value⟩ := entry
  obtain ⟨name, hname, rfl⟩ := h
  rw [writeEntry_text hname, List.append_assoc, List.cons_append]
  exact (hname.startsLine _).2

/-- The entries of a mapping are read one after the other, by induction on `entries`. -/
theorem exists_run_entries (entries : List (Scalar × Value)) {first : Scalar × Value}
    (hnames : ∀ entry ∈ first :: entries, ∃ name, IsName name ∧ entry.1 = .text name)
    (hvalues : ∀ entry ∈ first :: entries, Outlined entry.2 ∧ Reads indent entry.2)
    (htext : StartsLine text) (hnext : next ≤ indent) (hdeeper : ∀ column ∈ deeper, indent < column)
    (hbase : ∀ column ∈ base.head?, column ≤ indent)
    (h : AtLine s indent (writeEntry indent first ++ (writeEntries indent entries ++
      (newLine next ++ text))) (deeper ++ base) tokens) :
    ∃ s' deeper' more, Run s s' ∧ AtLine s' next text (deeper' ++ opened indent base) more ∧
      (∀ column ∈ deeper', indent < column) ∧
      List.replicate deeper'.length .blockEnd ++ more =
        (entryTokens (first :: entries)).reverse ++
          (opening indent base ++ (List.replicate deeper.length .blockEnd ++ tokens)) := by
  induction entries generalizing first s deeper base tokens with
  | nil =>
      obtain ⟨key, value⟩ := first
      obtain ⟨name, hname, rfl⟩ := hnames _ List.mem_cons_self
      obtain ⟨houtlined, hreads⟩ := hvalues _ List.mem_cons_self
      exact exists_run_entry hname houtlined hreads htext hnext hdeeper hbase h
  | cons second entries ih =>
      obtain ⟨key, value⟩ := first
      obtain ⟨name, hname, rfl⟩ := hnames _ List.mem_cons_self
      obtain ⟨houtlined, hreads⟩ := hvalues _ List.mem_cons_self
      have hline := @startsLine_writeEntry indent second (hnames second (by simp))
        (writeEntries indent entries ++ (newLine next ++ text))
      rw [writeEntries, List.append_assoc, List.append_assoc] at h
      -- the first entry ends where the second one starts, with the deeper blocks still open
      obtain ⟨s', deeper', more, hrun, hsecond, hdeeper', htokens⟩ :=
        exists_run_entry hname houtlined hreads hline (Nat.le_refl indent) hdeeper hbase h
      have hopen : ∀ column ∈ (opened indent base).head?, column ≤ indent := fun column hcolumn => by
        rw [head?_opened] at hcolumn
        exact (Option.some.inj hcolumn).symm.le
      obtain ⟨s'', deeper'', more', hrun', hlast, hdeeper'', htokens'⟩ :=
        ih (fun entry he => hnames entry (List.mem_cons_of_mem _ he))
          (fun entry he => hvalues entry (List.mem_cons_of_mem _ he)) hdeeper' hopen hsecond
      refine ⟨s'', deeper'', more', hrun.trans hrun', ?_, hdeeper'', ?_⟩
      -- the block is open already, so the other entries open no second one
      · have hsame : opened indent (opened indent base) = opened indent base :=
          if_pos (head?_opened indent base)
        rwa [hsame] at hlast
      · have hnone : opening indent (opened indent base) = [] := if_pos (head?_opened indent base)
        rw [htokens', hnone, List.nil_append, htokens]
        simp [entryTokens]

/-- **Every outlined value is read behind a key**, as long as it is not too deep: `Reads` by
induction on `Outlined`. -/
theorem reads_of_outlined (h : Outlined value) {levels : Nat} (hlevels : value.nestsBeyond levels = false)
    (hindent : indent + 2 * levels + 2 < lineWidth) : Reads indent value := by
  induction h generalizing indent levels with
  | bool b => exact reads_bool b
  | text text => exact reads_text (by omega) text
  | texts texts => exact reads_texts (by omega) texts
  | @mapping entries hne hnames hpairwise hvalues ih =>
      obtain ⟨levels, rfl, hlevels⟩ := Value.exists_levels_of_mapping hlevels
      have hreads : ∀ entry ∈ entries, Outlined entry.2 ∧ Reads (indent + 2) entry.2 :=
        fun entry hentry => ⟨hvalues entry hentry,
          ih entry hentry (nestsBeyond_of_mem hlevels entry hentry) (by omega)⟩
      intro start index line column count next base tokens rest hrest hcolumn hnext
      -- the entries start on a line of their own, two columns further in, which opens a block
      obtain ⟨first, entries, rfl⟩ := List.exists_cons_of_ne_nil hne
      have hfirst := @atLine_newLine (writeEntry (indent + 2) first ++ (writeEntries (indent + 2)
        entries ++ (newLine next ++ rest))) (indent :: base) none false index line column count tokens
        (indent + 2) (startsLine_writeEntry (hnames first List.mem_cons_self) _).1 nofun
      obtain ⟨s, deeper, more, hrun, hline, hdeeper, htokens⟩ := @exists_run_entries (indent + 2) _ rest
        (indent :: base) [] next tokens entries first hnames hreads hrest (by omega) nofun
        (by simp) hfirst
      have hopened : opened (indent + 2) (indent :: base) = (indent + 2) :: indent :: base :=
        if_neg (by simp)
      have hopening : opening (indent + 2) (indent :: base) = [.blockMappingStart] := if_neg (by simp)
      rw [hopened] at hline
      rw [hopening] at htokens
      refine ⟨s, deeper ++ [indent + 2], more, ?_, by simpa using hline, ?_, ?_⟩
      · simpa [writeAfterKey] using hrun
      · intro column hcolumn
        rcases List.mem_append.1 hcolumn with hcolumn | hcolumn
        · have := hdeeper column hcolumn
          omega
        · rw [List.mem_singleton.1 hcolumn]
          omega
      · rw [List.length_append, List.length_singleton, List.replicate_succ, List.cons_append, htokens]
        simp [valueTokens]

end Lex

/-! ## Characters of the text -/

/-- Texts are written with characters that satisfy `isPlainChar`. -/
theorem all_isPlainChar_writeText (hindent : 0 < indent) (hwidth : indent < lineWidth) (text : String) :
    (writeText true indent column text).all isPlainChar = true := by
  by_cases hstyle : styleOf text = .plain
  · have hwords : Words 0 _ _ := writeText_plain column hstyle hindent (Nat.zero_le indent)
    exact hwords.all_isPlainChar
  · obtain ⟨double, written, hwritten, hquotes⟩ := writeText_quoted column hstyle hindent hwidth
    have hmark : isPlainChar (quoteMark double) = true := by cases double <;> rfl
    rw [hwritten]
    simp only [List.all_append, List.all_cons, List.all_nil, hmark, hquotes.all_isPlainChar,
      Bool.and_true]

/-- The items of a list are written with characters that satisfy `isPlainChar`. -/
theorem all_isPlainChar_writeItems (hwidth : indent + 2 < lineWidth) (texts : List String) :
    (writeItems indent (texts.map .ofText)).all isPlainChar = true := by
  have hmark : isPlainChar '-' = true ∧ isPlainChar ' ' = true := by decide
  induction texts with
  | nil => rfl
  | cons text texts ih =>
      simp only [List.map_cons, writeItems, Value.ofText, writeAfterMark, writeScalar, List.all_append,
        List.all_cons, all_isPlainChar_newLine, hmark, all_isPlainChar_writeText (Nat.succ_pos _) hwidth,
        Bool.and_true]
      exact ih

/-- The entries of a mapping are written with characters that satisfy `isPlainChar`, if its values
are. -/
theorem all_isPlainChar_writeEntries {entries : List (Scalar × Value)}
    (hnames : ∀ entry ∈ entries, ∃ name, IsName name ∧ entry.1 = .text name)
    (hvalues : ∀ entry ∈ entries, ∀ start, (writeAfterKey indent start entry.2).all isPlainChar = true) :
    (writeEntries indent entries).all isPlainChar = true ∧
      ∀ entry ∈ entries, (writeEntry indent entry).all isPlainChar = true := by
  have hcolon : isPlainChar ':' = true := rfl
  have hentry : ∀ entry ∈ entries, (writeEntry indent entry).all isPlainChar = true := by
    rintro ⟨key, value⟩ hentry
    obtain ⟨name, hname, rfl⟩ := hnames _ hentry
    have hword : Words 0 _ _ := .word hname.word
    rw [writeEntry_text hname]
    simp only [List.all_append, List.all_cons, hword.all_isPlainChar, hcolon, hvalues _ hentry,
      Bool.and_true]
  refine ⟨?_, hentry⟩
  clear hnames hvalues
  induction entries with
  | nil => rfl
  | cons entry entries ih =>
      rw [List.forall_mem_cons] at hentry
      simp only [writeEntries, List.all_append, all_isPlainChar_newLine, hentry.1, ih hentry.2,
        Bool.and_true]

/-- **Everything that is outlined is written with plain characters**: `isPlainChar` holds of
`writeAfterKey`, by induction on `Outlined`. -/
theorem Outlined.all_isPlainChar (h : Outlined value) {levels : Nat}
    (hlevels : value.nestsBeyond levels = false) (hindent : indent + 2 * levels + 2 < lineWidth)
    (start : Nat) : (writeAfterKey indent start value).all isPlainChar = true := by
  have hmark : isPlainChar '-' = true ∧ isPlainChar ' ' = true := by decide
  induction h generalizing indent levels start with
  | bool b => cases b <;> rfl
  | text text =>
      have hwidth : indent + 2 < lineWidth := by omega
      simp only [Value.ofText, writeAfterKey, writeScalar, List.all_cons, hmark,
        all_isPlainChar_writeText (Nat.succ_pos _) hwidth, Bool.and_true]
  | texts texts =>
      have hwidth : indent + 2 < lineWidth := by omega
      cases texts with
      | nil => rfl
      | cons text texts =>
          have hitems := all_isPlainChar_writeItems hwidth (text :: texts)
          simpa only [Value.ofTexts, List.map_cons, writeAfterKey, writeItems] using hitems
  | @mapping entries hne hnames hpairwise hvalues ih =>
      obtain ⟨levels, rfl, hlevels⟩ := Value.exists_levels_of_mapping hlevels
      have hentries := @all_isPlainChar_writeEntries (indent + 2) entries hnames fun entry hentry start =>
        ih entry hentry (nestsBeyond_of_mem hlevels entry hentry) (by omega) start
      obtain ⟨first, entries, rfl⟩ := List.exists_cons_of_ne_nil hne
      simpa only [writeAfterKey, writeEntries] using hentries.1

/-! ## Whole texts -/

/-- How many levels are written within the line width, with two columns each. -/
def outlinedLevels : Nat := 38

variable {entries : Entries}

/-- A mapping that is `Outlined` is written with characters that satisfy `isPlainChar`. -/
theorem all_isPlainChar_write (h : Outlined (.mapping entries))
    (hlevels : (Value.mapping entries).nestsBeyond (outlinedLevels + 1) = false) :
    (write entries).toList.all isPlainChar = true := by
  rw [Value.nestsBeyond] at hlevels
  cases h with
  | mapping hne hnames hpairwise hvalues =>
      obtain ⟨first, entries, rfl⟩ := List.exists_cons_of_ne_nil hne
      have hentries := @all_isPlainChar_writeEntries 0 (first :: entries) hnames
        fun entry hentry start => (hvalues entry hentry).all_isPlainChar
          (nestsBeyond_of_mem hlevels entry hentry) (by decide) start
      have hfirst := hentries.2 first List.mem_cons_self
      have hothers := hentries.1
      rw [writeEntries, List.all_append, List.all_append, Bool.and_eq_true, Bool.and_eq_true] at hothers
      rw [write, String.toList_ofList]
      simp only [List.all_append, hfirst, hothers.2]
      decide

/-- **What is written of an outlined mapping has the tokens of the mapping**: `Token.ofText` gives
`valueTokens`. -/
theorem ofText_write (h : Outlined (.mapping entries))
    (hlevels : (Value.mapping entries).nestsBeyond (outlinedLevels + 1) = false) :
    Token.ofText (write entries).toList = valueTokens (.mapping entries) := by
  have hplain := all_isPlainChar_write h hlevels
  have hallowed : (write entries).toList.all isAllowed = true := by
    refine List.all_eq_true.2 fun c hc => ?_
    have := List.all_eq_true.1 hplain c hc
    simp only [isPlainChar, Bool.or_eq_true, beq_iff_eq] at this
    rcases this with rfl | hprint
    · rfl
    · simp [isAllowed, hprint]
  have hmark : ((write entries).toList.head? == some '\ufeff') = false := by
    rw [beq_eq_false_iff_ne]
    intro hhead
    exact absurd (List.all_eq_true.1 hplain _ (List.mem_of_head? hhead)) (by decide)
  rw [Value.nestsBeyond] at hlevels
  cases h with
  | mapping hne hnames hpairwise hvalues =>
      obtain ⟨first, entries, rfl⟩ := List.exists_cons_of_ne_nil hne
      have htext : (write (first :: entries)).toList =
          writeEntry 0 first ++ (writeEntries 0 entries ++ (newLine 0 ++ [])) := by
        rw [write, String.toList_ofList, List.append_assoc]
        rfl
      -- the first entry starts the text, and only the end of the text follows the last one
      have hstart := @Lex.atLine_entered (write (first :: entries)).toList [] none 0 0 0 0 []
        (by rw [htext]; exact (Lex.startsLine_writeEntry (hnames first List.mem_cons_self) _).1) nofun
      have hend : Lex.StartsLine [] := ⟨⟨nofun, nofun, rfl⟩, rfl⟩
      rw [htext] at hstart
      obtain ⟨s, deeper, more, hrun, hline, -, htokens⟩ := @Lex.exists_run_entries 0 _ [] [] [] 0 []
        entries first hnames (fun entry hentry => ⟨hvalues entry hentry, Lex.reads_of_outlined
          (hvalues entry hentry) (nestsBeyond_of_mem hlevels entry hentry) (by decide)⟩) hend
        (Nat.le_refl 0) nofun nofun hstart
      obtain ⟨-, index, line, hways⟩ := hline
      obtain ⟨after, hstep, hafter⟩ := Lex.run_step_of_end hways rfl rfl rfl
      have htokens : after.tokens = (valueTokens (.mapping (first :: entries))).reverse := by
        rw [hafter]
        change List.replicate (deeper ++ [0]).length .blockEnd ++ more = _
        rw [List.length_append, List.length_singleton, List.replicate_succ, List.cons_append, htokens]
        simp [valueTokens, Lex.opening]
      obtain ⟨fuel, hfuel, hsteps⟩ := hrun.steps_eq (Nat.lt_succ_self _)
      obtain ⟨fuel, rfl⟩ := Nat.exists_eq_succ_of_ne_zero (Nat.ne_zero_of_lt hfuel)
      have hlast : Lex.steps (fuel + 1) s = after.tokens := by rw [Lex.steps, hstep]
      rw [Token.ofText, if_pos hallowed]
      simp only [hmark, Bool.false_eq_true, if_false]
      rw [htext]
      exact (congrArg List.reverse (hsteps.trans (hlast.trans htokens))).trans (List.reverse_reverse _)

end TreeSift.Yaml
