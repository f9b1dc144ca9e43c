import TreeSift.Proofs.Screen.PlainText
import TreeSift.Screen.Frame

/-! # Texts in the rows of a table

However a text is wrapped, cut and drawn, a row of a table holds no more marks than the text
(`markCount_rowLines_le`). A visible text without styles is drawn as a whole, over as many lines as it
needs (`showsText_rowLines`). -/

namespace TreeSift.Screen

open TreeSift.Text (CodeRanges isBlank trimEnd trimStart splitWhere splitWhere_eq_singleton)

/-! ## Marks in rows -/

/-- Blanks are no marks: `markCount (spaces n)` is zero. -/
@[simp] theorem markCount_spaces (n : Nat) : markCount (spaces n) = 0 :=
  markCount_eq_zero fun c hc => by
    rw [List.eq_of_mem_replicate hc]
    rfl

theorem takeColumns_prefix (room : Nat) (parts : List Cluster) :
    takeColumns room parts <+: parts := by
  induction parts generalizing room with
  | nil => exact List.prefix_rfl
  | cons cluster parts ih =>
      rw [takeColumns]
      split
      · exact (List.prefix_cons_inj cluster).2 (ih _)
      · exact List.nil_prefix

/-- A text that is cut by `cut width` gets no marks. -/
theorem markCount_cut_le (width : Nat) (cs : List Char) : markCount (cut width cs) ≤ markCount cs := by
  rw [cut]
  split
  · exact Nat.le_refl _
  · obtain ⟨others, hothers⟩ := takeColumns_prefix width (clusters cs)
    have hcs := congrArg clusterText hothers
    rw [clusterText_clusters, clusterText, List.flatMap_append] at hcs
    have hcount := congrArg markCount hcs
    rw [markCount_append] at hcount
    rw [markCount_append, markCount_spaces, clusterText]
    omega

namespace StyledText

variable {styled : StyledText}

theorem text_take_prefix (styled : StyledText) (n : Nat) : (styled.take n).text <+: styled.text := by
  rw [take]
  split
  · exact List.prefix_rfl
  · exact List.take_prefix n styled.text

/-- Parts of a text lie in it one behind the other: what `partsFrom` takes is a sublist of what is
left. -/
theorem sublist_partsFrom (styled : StyledText) (gap first : Nat) (parts : List (List Char)) :
    ((styled.partsFrom gap first parts).flatMap StyledText.text).Sublist
      (styled.text.drop first) := by
  induction parts generalizing first with
  | nil => exact List.nil_sublist _
  | cons part parts ih =>
      rw [partsFrom, List.flatMap_cons]
      have hdrop : (styled.text.take (first + part.length)).drop first ++
          styled.text.drop (first + part.length) = styled.text.drop first := by
        rw [List.drop_take, Nat.add_sub_cancel_left, ← List.drop_drop, List.take_append_drop]
      rw [← hdrop]
      exact (List.Sublist.refl _).append
        ((ih _).trans (List.drop_sublist_drop_left _ (Nat.le_add_right _ gap)))

/-- The parts of a text hold no more than the text: what `parts` takes is a sublist of it. -/
theorem sublist_parts (styled : StyledText) (gap : Nat) (parts : List (List Char)) :
    ((styled.parts gap parts).flatMap StyledText.text).Sublist styled.text := by
  unfold StyledText.parts
  split
  · simp
  · exact styled.sublist_partsFrom gap 0 parts

/-- Runs that are cut by `cutRuns` get no marks. -/
theorem markCount_cutRuns_le (room : Nat) (runs : List (List Char)) :
    markCount (cutRuns room runs) ≤ markCount runs.flatten := by
  induction runs generalizing room with
  | nil => exact Nat.le_refl _
  | cons run runs ih =>
      rw [cutRuns, List.flatten_cons, markCount_append]
      split
      · rw [markCount_append]
        exact Nat.add_le_add_left (ih _) _
      · exact Nat.le_trans (markCount_cut_le room run) (Nat.le_add_right ..)

/-- A text that is `drawn` gets no marks. -/
theorem markCount_drawn_le (width : Nat) (styled : StyledText) :
    markCount (styled.drawn width) ≤ markCount styled.text := by
  rw [drawn, markCount_append, markCount_spaces, Nat.add_zero, drawnWithin]
  split
  · exact Nat.le_refl _
  · exact styled.flatten_runs ▸ markCount_cutRuns_le width styled.runs

end StyledText

/-- A text of one line without tabs: it holds neither line feeds nor tabs, so that `wrap` has one
line to fill. -/
def OneLine (text : List Char) : Prop :=
  '\n' ∉ text ∧ '\t' ∉ text

variable {width : Nat} {styled : StyledText}

/-- A text of one line is wrapped as one: `wrap` fills lines with its `words`. -/
theorem wrap_of_oneLine (h : OneLine styled.text) : wrap width styled =
    (styled.parts 0 (fill width [] 0 (words styled.text))).map (dropOverhang width) := by
  have hsplit : splitWhere (· == '\n') styled.text = [styled.text] :=
    splitWhere_eq_singleton fun c hc => by
      rw [beq_eq_false_iff_ne]
      rintro rfl
      exact h.1 hc
  rw [wrap, hsplit, StyledText.parts, List.flatMap_singleton, wrapLine, expandTabs_of_not_mem h.2]

/-- A text that is wrapped gets no marks: `markCount` does not grow by `wrap`. -/
theorem markCount_wrap_le (h : OneLine styled.text) :
    markCount ((wrap width styled).flatMap StyledText.text) ≤ markCount styled.text := by
  rw [wrap_of_oneLine h, List.flatMap_map]
  refine Nat.le_trans (markCount_flatMap_le fun line _ => ?_)
    (markCount_le_of_sublist (styled.sublist_parts 0 (fill width [] 0 (words styled.text))))
  exact markCount_le_of_sublist (line.text_take_prefix _).sublist

/-- A line that is filled by `leftAligned` gets no marks. -/
theorem markCount_leftAligned_le (width : Nat) (line : StyledText) :
    markCount (leftAligned width line) ≤ markCount line.text := by
  rw [leftAligned]
  refine Nat.le_trans (StyledText.markCount_drawn_le ..) ?_
  rw [StyledText.pad, markCount_append, markCount_spaces]
  exact Nat.le_refl _

/-- **A row of a table has no more marks than its text**: `markCount` does not grow by `rowLines`.
-/
theorem markCount_rowLines_le {lines : Lines} (hline : OneLine styled.text)
    (h : rowLines width styled = .ok lines) : markCount lines.flatten ≤ markCount styled.text := by
  rw [rowLines] at h
  split at h
  · cases h
    exact Nat.zero_le _
  · obtain ⟨-, -, hlines⟩ := bind_eq_ok_iff.1 h
    cases hlines
    rw [← List.flatMap_def, wrapCut, List.flatMap_map]
    refine Nat.le_trans (markCount_flatMap_le fun line _ => ?_) (markCount_wrap_le hline)
    exact Nat.le_trans (markCount_leftAligned_le ..) (markCount_cut_le width line.text)

/-! ## Texts of one column for every character -/

/-- The character is ASCII with one column of its own: `isVisible`, or a space. -/
def isNarrow (c : Char) : Bool :=
  0x20 ≤ c.toNat && c.toNat ≤ 0x7e

theorem isNarrow_of_isVisible {c : Char} (h : isVisible c = true) : isNarrow c = true := by
  simp only [isVisible, isNarrow, Bool.and_eq_true, decide_eq_true_eq] at h ⊢
  omega

/-- Code points without a column are outside of printable ASCII: each range of `columnless`, by
computation. -/
theorem outside_of_mem_columnless :
    ∀ range ∈ columnless.ranges, range.2 < 0x20 ∨ 0x7e < range.1 := by decide +kernel

/-- Wide code points are outside of printable ASCII: each range of `wide`, by computation. -/
theorem outside_of_mem_wide : ∀ range ∈ wide.ranges, 0x7e < range.1 := by decide +kernel

/-- A narrow character takes one column: neither `columnless` nor `wide` has its code. -/
theorem charColumns_of_isNarrow {c : Char} (h : isNarrow c = true) : charColumns c = 1 := by
  simp only [isNarrow, Bool.and_eq_true, decide_eq_true_eq] at h
  have hcolumnless : columnless.contains c.toNat = false := by
    rw [Bool.eq_false_iff]
    intro hcontains
    obtain ⟨range, hrange, hfirst, hlast⟩ := CodeRanges.exists_range_of_contains hcontains
    have := outside_of_mem_columnless range hrange
    omega
  have hwide : wide.contains c.toNat = false := by
    rw [Bool.eq_false_iff]
    intro hcontains
    obtain ⟨range, hrange, hfirst, hlast⟩ := CodeRanges.exists_range_of_contains hcontains
    have := outside_of_mem_wide range hrange
    omega
  rw [charColumns, hcolumnless, hwide]
  rfl

/-- A text of characters that satisfy `isNarrow`. -/
def Narrow (text : List Char) : Prop :=
  ∀ c ∈ text, isNarrow c = true

theorem Visible.narrow {text : List Char} (h : Visible text) : Narrow text :=
  fun c hc => isNarrow_of_isVisible (h c hc)

theorem narrow_spaces (n : Nat) : Narrow (spaces n) := fun c hc => by
  rw [List.eq_of_mem_replicate hc]
  rfl

theorem Narrow.append {left right : List Char} (hleft : Narrow left) (hright : Narrow right) :
    Narrow (left ++ right) := fun c hc =>
  (List.mem_append.1 hc).elim (hleft c) (hright c)

/-- The cluster of a narrow character, `⟨[c], 1⟩`: it is drawn in a place of its own. -/
def singleton (c : Char) : Cluster :=
  ⟨[c], 1⟩

/-- Narrow characters are drawn one after the other: `gather` makes a `singleton` of each. -/
theorem gather_of_narrow {text : List Char} (h : Narrow text) (cluster : Cluster)
    (last? : Option Char) : cluster.gather false last? text = cluster :: text.map singleton := by
  induction text generalizing cluster last? with
  | nil => rfl
  | cons c cs ih =>
      have hc := h c List.mem_cons_self
      have hcolumns := charColumns_of_isNarrow hc
      have hjoiner : c ≠ joiner := by
        rintro rfl
        cases hc
      have hselector : c ≠ emojiSelector := by
        rintro rfl
        cases hc
      rw [Cluster.gather, if_neg (by decide), if_neg hjoiner, if_neg hselector, hcolumns,
        if_neg (by decide), ih fun d hd => h d (List.mem_cons_of_mem c hd)]
      rfl

/-- **A narrow text takes as many columns as it has characters**: `columns` is `length`. -/
theorem columns_of_narrow {text : List Char} (h : Narrow text) : columns text = text.length := by
  rw [columns, gather_of_narrow h]
  have htotal : ∀ cs : List Char, totalColumns (cs.map singleton) = cs.length := by
    intro cs
    induction cs with
    | nil => rfl
    | cons c cs ih =>
        rw [List.length_cons, ← ih]
        exact Nat.add_comm ..
  exact (Nat.zero_add _).trans (htotal text)

/-- The clusters of a narrow text are the `singleton`s of its characters. -/
theorem clusters_of_narrow {text : List Char} (h : Narrow text) :
    clusters text = text.map singleton := by
  cases text with
  | nil => rfl
  | cons c cs =>
      have hjoiner : c ≠ joiner := by
        rintro rfl
        cases h _ List.mem_cons_self
      simp only [clusters]
      rw [if_neg hjoiner, gather_of_narrow h]
      simp [singleton]

/-- Pieces of characters that are drawn one after the other are no longer than the width:
`chopClusters` starts a new line before. -/
theorem length_le_of_mem_chopClusters {width used : Nat} {line piece cs : List Char}
    (hwidth : 0 < width) (hline : line.length = used) (hused : used ≤ width)
    (h : piece ∈ chopClusters width line used (cs.map singleton)) : piece.length ≤ width := by
  induction cs generalizing line used with
  | nil =>
      rw [List.map_nil, chopClusters, List.mem_singleton] at h
      rw [h]
      omega
  | cons c cs ih =>
      rw [List.map_cons, chopClusters] at h
      split at h
      · next hfits =>
        refine ih (by simp [singleton, hline]) ?_ h
        rcases hfits with hfits | hempty
        · exact hfits
        · rw [List.isEmpty_iff.1 hempty, List.length_nil] at hline
          simp only [singleton]
          omega
      · rcases List.mem_cons.1 h with rfl | h
        · omega
        · exact ih rfl (by exact hwidth) h

/-- Pieces of a narrow text are no longer than the width: `chop` by its clusters. -/
theorem length_le_of_mem_chop {width : Nat} {piece text : List Char} (hwidth : 0 < width)
    (htext : Narrow text) (h : piece ∈ chop width text) : piece.length ≤ width := by
  rw [chop, clusters_of_narrow htext] at h
  exact length_le_of_mem_chopClusters hwidth rfl (Nat.zero_le _) h

/-! ## Visible texts in rows -/

/-- A visible text starts with no blank, so that `trimStart` leaves it. -/
theorem trimStart_of_visible {text : List Char} (h : Visible text) : trimStart text = text := by
  cases text with
  | nil => rfl
  | cons c cs =>
      have hc := isBlank_of_isVisible (h c List.mem_cons_self)
      rw [trimStart, List.dropWhile_cons_of_neg (by simp [hc])]

/-- A visible text ends with no blank, so that `trimEnd` leaves it. -/
theorem trimEnd_of_visible {text : List Char} (h : Visible text) : trimEnd text = text := by
  rw [trimEnd, trimStart_of_visible fun c hc => h c (List.mem_reverse.1 hc), List.reverse_reverse]

/-- Blanks behind a visible text are dropped by `trimEnd`. -/
theorem trimEnd_append_spaces {text : List Char} (h : Visible text) (n : Nat) :
    trimEnd (text ++ spaces n) = text := by
  have hspaces : ∀ c ∈ (spaces n).reverse, isBlank c = true := fun c hc => by
    rw [List.eq_of_mem_replicate (List.mem_reverse.1 hc)]
    rfl
  rw [trimEnd, trimStart, List.reverse_append, List.dropWhile_append_of_pos hspaces]
  exact trimEnd_of_visible h

/-- A visible text is one of `words`, as it holds no space. -/
theorem words_of_visible {text : List Char} (h : Visible text) : words text = [text] := by
  have hwords : ∀ (cs word : List Char) (started : Bool), Visible cs →
      wordsFrom word started false cs = [word ++ cs] := by
    intro cs
    induction cs with
    | nil => simp [wordsFrom]
    | cons c cs ih =>
        intro word started hcs
        rw [wordsFrom, if_neg (by simp [isBlank_of_isVisible (hcs c List.mem_cons_self)]),
          if_neg (by decide), ih _ _ fun d hd => hcs d (List.mem_cons_of_mem c hd),
          List.append_assoc, List.singleton_append]
  exact hwords text [] false h

/-- The lines of a visible text: what `fill` makes of its `words`. -/
def linesOf (width : Nat) (text : List Char) : List (List Char) :=
  fill width [] 0 (words text)

/-- The lines of a text make up the text: `linesOf` loses nothing. -/
theorem flatten_linesOf (width : Nat) (text : List Char) : (linesOf width text).flatten = text := by
  rw [linesOf, flatten_fill, flatten_words, List.nil_append]

/-- There is a line at least in `linesOf`. -/
theorem linesOf_ne_nil (width : Nat) (text : List Char) : linesOf width text ≠ [] := by
  rw [linesOf]
  have hfill : ∀ (rest : List (List Char)) (line : List Char) (used : Nat),
      fill width line used rest ≠ [] := by
    intro rest
    induction rest with
    | nil => simp [fill]
    | cons word rest ih =>
        intro line used
        rw [fill]
        split
        · exact ih _ _
        · split
          · simp
          · simp [ih]
  exact hfill _ _ _

/-- The lines of a visible text are no longer than the width, as `chop` cuts its pieces so. -/
theorem length_le_of_mem_linesOf {text line : List Char} (hwidth : 0 < width) (htext : Visible text)
    (h : line ∈ linesOf width text) : line.length ≤ width := by
  rw [linesOf, words_of_visible htext, fill, trimEnd_of_visible htext,
    columns_of_narrow htext.narrow] at h
  have hpieces : ∀ piece ∈ chop width text, piece.length ≤ width :=
    fun _ => length_le_of_mem_chop hwidth htext.narrow
  split at h
  · rw [fill, List.nil_append, List.mem_singleton] at h
    rw [h]
    omega
  · split at h
    · omega
    · simp only [List.isEmpty_nil, if_true, List.nil_append, fill, List.mem_append,
        List.mem_singleton] at h
      rcases h with h | h
      · exact hpieces line (List.dropLast_subset _ h)
      · cases hlast : (chop width text).getLast? with
        | none => simp [h, hlast]
        | some last =>
            rw [h, hlast]
            exact hpieces last (List.mem_of_getLast? hlast)

/-- Parts of a text without styles have none either: `partsFrom` keeps the list of styles empty. -/
theorem partsFrom_of_flatten {text : List Char} {first : Nat} {parts : List (List Char)}
    (h : text.drop first = parts.flatten) :
    StyledText.partsFrom ⟨text, []⟩ 0 first parts = parts.map fun part => ⟨part, []⟩ := by
  induction parts generalizing first with
  | nil => rfl
  | cons part parts ih =>
      rw [List.flatten_cons] at h
      have hpart : (text.take (first + part.length)).drop first = part := by
        rw [List.drop_take, Nat.add_sub_cancel_left, h, List.take_left]
      have hrest : text.drop (first + part.length) = parts.flatten := by
        rw [← List.drop_drop, h, List.drop_left]
      rw [StyledText.partsFrom, Nat.add_zero, ih hrest, List.map_cons, StyledText.slice, hpart]
      rfl

/-- A text without styles consists of its parts: `parts` of what flattens to it. -/
theorem parts_of_flatten {text : List Char} {parts : List (List Char)} (h : parts.flatten = text) :
    StyledText.parts ⟨text, []⟩ 0 parts = parts.map fun part => ⟨part, []⟩ := by
  unfold StyledText.parts
  split
  · next part => simp [← h]
  · exact partsFrom_of_flatten h.symm

/-- Nothing hangs over from a visible line: `dropOverhang` drops blanks only. -/
theorem dropOverhang_of_visible {line : List Char} (h : Visible line) :
    dropOverhang width ⟨line, []⟩ = ⟨line, []⟩ := by
  simp [dropOverhang, trimEnd_of_visible h, StyledText.take]

/-- A line that fits is not cut by `cutTo`. -/
theorem cutTo_of_length_le {line : List Char} (h : Narrow line) (hle : line.length ≤ width) :
    StyledText.cutTo width ⟨line, []⟩ = ⟨line, []⟩ := by
  have hcut : cut width line = line := by rw [cut, columns_of_narrow h, if_pos hle]
  simp [StyledText.cutTo, hcut, StyledText.take]

/-- A line that fits is filled with `spaces` up to the width by `leftAligned`. -/
theorem leftAligned_of_length_le {line : List Char} (h : Narrow line) (hle : line.length ≤ width) :
    leftAligned width ⟨line, []⟩ = line ++ spaces (width - line.length) := by
  have hpadded : Narrow (line ++ spaces (width - line.length)) := h.append (narrow_spaces _)
  have hcolumns : StyledText.drawnColumns ⟨line ++ spaces (width - line.length), []⟩ = width := by
    rw [StyledText.drawnColumns, StyledText.runs_of_stretches_eq_nil rfl, List.foldr_cons,
      List.foldr_nil, columns_of_narrow hpadded, List.length_append, spaces, List.length_replicate]
    omega
  rw [leftAligned, StyledText.pad, columns_of_narrow h, StyledText.drawn_of_le (Nat.le_of_eq hcolumns),
    hcolumns, Nat.sub_self]
  exact List.append_nil _

/-- A visible text is cut into lines: `wrapCut` gives `linesOf` it. -/
theorem wrapCut_of_visible {text : List Char} (hwidth : 0 < width) (h : Visible text) :
    wrapCut width ⟨text, []⟩ = (linesOf width text).map fun line => ⟨line, []⟩ := by
  have hone : OneLine text :=
    ⟨fun hmem => absurd (h _ hmem) (by decide), fun hmem => absurd (h _ hmem) (by decide)⟩
  have hvisible : ∀ line ∈ linesOf width text, Visible line := fun line hline c hc =>
    h c (flatten_linesOf width text ▸ List.mem_flatten.2 ⟨line, hline, hc⟩)
  rw [wrapCut, wrap_of_oneLine hone, ← linesOf, parts_of_flatten (flatten_linesOf width text),
    List.map_map, List.map_map]
  refine List.map_congr_left fun line hline => ?_
  show StyledText.cutTo width (dropOverhang width ⟨line, []⟩) = _
  rw [dropOverhang_of_visible (hvisible line hline),
    cutTo_of_length_le (hvisible line hline).narrow (length_le_of_mem_linesOf hwidth h hline)]

/-- **Lines that show a text**: they are as long as `width`, and without the blanks at their ends
they make up `text`. -/
structure ShowsText (width : Nat) (text : List Char) (lines : Lines) : Prop where
  /-- There is a line. -/
  ne_nil : lines ≠ []
  /-- Every line is as long as the width. -/
  length_eq : ∀ line ∈ lines, line.length = width
  /-- The lines make up the text. -/
  flatMap_trimEnd : lines.flatMap trimEnd = text

/-- **A visible text without styles is shown as it is**: `rowLines` gives lines that are
`ShowsText`. -/
theorem exists_rowLines_showsText {text : List Char} (hwidth : 0 < width) (h : Visible text) :
    ∃ lines, rowLines width ⟨text, []⟩ = .ok lines ∧ ShowsText width text lines := by
  have hlines : ∀ line ∈ linesOf width text, Visible line ∧ line.length ≤ width := fun line hline =>
    ⟨fun c hc => h c (flatten_linesOf width text ▸ List.mem_flatten.2 ⟨line, hline, hc⟩),
      length_le_of_mem_linesOf hwidth h hline⟩
  -- all lines fit into the column, so that aligning them only adds spaces
  have haligned : ((linesOf width text).map fun line => (⟨line, []⟩ : StyledText)).map
      (leftAligned width) =
      (linesOf width text).map fun line => line ++ spaces (width - line.length) := by
    rw [List.map_map]
    exact List.map_congr_left fun line hline =>
      leftAligned_of_length_le (hlines line hline).1.narrow (hlines line hline).2
  refine ⟨(linesOf width text).map fun line => line ++ spaces (width - line.length), ?_, ?_, ?_, ?_⟩
  · have hstyles : checkStyles ((linesOf width text).map fun line => ⟨line, []⟩) = .ok () := by
      have hnone : ((linesOf width text).map fun line => (⟨line, []⟩ : StyledText)).flatMap
          (·.stretches) = [] := by simp
      rw [checkStyles, hnone]
      rfl
    rw [rowLines, if_neg (by omega), wrapCut_of_visible hwidth h]
    exact bind_eq_ok_iff.2 ⟨(), hstyles, congrArg Except.ok haligned⟩
  · simpa using linesOf_ne_nil width text
  · intro line hline
    obtain ⟨line, hmem, rfl⟩ := List.mem_map.1 hline
    have := (hlines line hmem).2
    simp only [List.length_append, spaces, List.length_replicate]
    omega
  · have htrimmed : (linesOf width text).flatMap
        (fun line => trimEnd (line ++ spaces (width - line.length))) = (linesOf width text).flatMap id :=
      List.flatMap_congr fun line hline => trimEnd_append_spaces (hlines line hline).1 _
    rw [List.flatMap_map, htrimmed, List.flatMap_id, flatten_linesOf]

/-- No mark is blank: `isMark` and `isBlank` exclude each other. -/
theorem isMark_of_isBlank {c : Char} (h : isBlank c = true) : isMark c = false := by
  rw [Bool.eq_false_iff]
  intro hmark
  simp only [isMark, Bool.or_eq_true, beq_iff_eq] at hmark
  obtain (rfl | rfl) | rfl := hmark <;> cases h

/-- No mark is lost with the blanks at the end of a line: `trimEnd` keeps `markCount`. -/
theorem markCount_trimEnd (line : List Char) : markCount (trimEnd line) = markCount line := by
  have hblanks : markCount (line.reverse.takeWhile isBlank) = 0 := markCount_eq_zero fun c hc =>
    isMark_of_isBlank (List.all_eq_true.1 List.all_takeWhile c hc)
  have hsplit := markCount_append (line.reverse.takeWhile isBlank) (line.reverse.dropWhile isBlank)
  rw [List.takeWhile_append_dropWhile, hblanks, Nat.zero_add] at hsplit
  rw [trimEnd, trimStart, markCount, List.countP_reverse, ← markCount, ← hsplit, markCount,
    List.countP_reverse, ← markCount]

/-- Lines that are `ShowsText` have the marks of the text. -/
theorem ShowsText.markCount_eq {text : List Char} {lines : Lines} (h : ShowsText width text lines) :
    markCount lines.flatten = markCount text := by
  rw [← h.flatMap_trimEnd, ← List.flatMap_id]
  exact markCount_flatMap_congr fun line _ => (markCount_trimEnd line).symm

end TreeSift.Screen
