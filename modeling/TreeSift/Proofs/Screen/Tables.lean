import TreeSift.Proofs.Screen.Rows

/-! # Tables of texts

A table of visible texts shows all of them as they are if markup leaves them alone
(`exists_table_tabulates`). Otherwise it shows fewer marks than they have (`isPlain_of_table`), and so
is no table of these texts (`Tabulates.markCount_eq`). -/

namespace TreeSift.Screen

open TreeSift.Text (isBlank trimEnd splitWhere splitWhere_eq_singleton)

/-! ## Frames -/

/-- A frame around `rows`, below a title: borders, and the sides of every line. -/
def frame (title : String) (width : Nat) (rows : List Lines) : Lines :=
  wrapCentred (width + 4) title.toList ++ [border '┌' '┐' (width + 2)] ++
    rows.flatten.map framed ++ [border '└' '┘' (width + 2)]

/-- **Lines that are a table of texts**: a `frame` around rows, one for every text in order, that
are `ShowsText` each. -/
def Tabulates (title : String) (texts : List String) (lines : Lines) : Prop :=
  ∃ width rows, lines = frame title width rows ∧
    List.Forall₂ (fun (text : String) row => ShowsText width text.toList row) texts rows

/-- A border has no marks if its corners are none: `markCount (border left right width)` is zero. -/
theorem markCount_border {left right : Char} (hleft : isMark left = false)
    (hright : isMark right = false) (width : Nat) : markCount (border left right width) = 0 :=
  markCount_eq_zero fun c hc => by
    simp only [border, List.cons_append, List.mem_cons, List.mem_append, List.not_mem_nil,
      or_false] at hc
    obtain rfl | hc | rfl := hc
    · exact hleft
    · rw [List.eq_of_mem_replicate hc]
      rfl
    · exact hright

/-- The sides of a frame are no marks: `framed` keeps `markCount`. -/
theorem markCount_framed (line : List Char) : markCount (framed line) = markCount line := by
  simp [framed, isMark]

/-- A title that `wrapCentred` puts in the middle gets no marks. -/
theorem markCount_wrapCentred_le {text : List Char} (h : OneLine text) (width : Nat) :
    markCount (wrapCentred width text).flatten ≤ markCount text := by
  rw [wrapCentred, ← List.flatMap_def]
  refine Nat.le_trans (markCount_flatMap_le fun line _ => ?_) (markCount_wrap_le h)
  simp only [markCount_append, markCount_spaces, Nat.zero_add, Nat.add_zero]
  exact Nat.le_trans (markCount_cut_le ..) (Nat.le_of_eq (markCount_trimEnd line.text))

/-- A title of one line without marks, such as those of both tables. -/
def IsTitle (title : String) : Prop :=
  OneLine title.toList ∧ markCount title.toList = 0

variable {screen : Extent} {title : String} {texts : List String} {lines : Lines}

/-- A `frame` has the marks of its rows, if its title has none. -/
theorem markCount_frame (htitle : IsTitle title) (width : Nat) (rows : List Lines) :
    markCount (frame title width rows).flatten = markCount (rows.flatMap List.flatten) := by
  have hheading := markCount_wrapCentred_le htitle.1 (width + 4)
  have hrows : markCount (rows.flatten.map framed).flatten = markCount (rows.flatMap List.flatten) := by
    have hlines : rows.flatMap List.flatten = rows.flatten.flatMap id := by
      rw [List.flatMap_id, List.flatten_flatten, List.flatMap_def]
    rw [hlines, ← List.flatMap_def]
    exact markCount_flatMap_congr fun line _ => markCount_framed line
  have htop : markCount (border '┌' '┐' (width + 2)) = 0 := markCount_border rfl rfl _
  have hbottom : markCount (border '└' '┘' (width + 2)) = 0 := markCount_border rfl rfl _
  simp only [frame, List.flatten_append, List.flatten_singleton, markCount_append, hrows, htop,
    hbottom]
  have hnone := htitle.2
  omega

/-- **A table of texts has their marks**: `Tabulates` keeps `markCount`. -/
theorem Tabulates.markCount_eq (htitle : IsTitle title) (h : Tabulates title texts lines) :
    markCount lines.flatten = markCount (texts.flatMap String.toList) := by
  obtain ⟨width, rows, rfl, hrows⟩ := h
  rw [markCount_frame htitle]
  exact markCount_eq_of_forall₂ hrows fun text _ row hshows => hshows.markCount_eq

/-! ## Tables -/

/-- A row that comes from `text` by way of markup: `rowLines` of what `ofMarkup` makes of it. -/
def RowFor (width : Nat) (text : String) (row : Lines) : Prop :=
  ∃ styled, StyledText.ofMarkup text = .ok styled ∧ rowLines width styled = .ok row

/-- A table has a row for every text: `table` is a `frame` around rows that are `RowFor` each. -/
theorem exists_rowFor_of_table (h : table screen title texts = .ok lines) :
    ∃ width rows, lines = frame title width rows ∧ List.Forall₂ (RowFor width) texts rows := by
  obtain ⟨styleds, hstyleds, hframe⟩ := bind_eq_ok_iff.1 h
  obtain ⟨rows, hrows, hlines⟩ := bind_eq_ok_iff.1 hframe
  cases hlines
  refine ⟨tableColumns screen styleds, rows, rfl, ?_⟩
  -- the width depends on all texts, and is the same for every row
  generalize tableColumns screen styleds = width at hrows
  rw [mapM_eq_ok_iff] at hstyleds hrows
  clear h hframe
  induction hstyleds generalizing rows with
  | nil =>
      cases hrows
      exact .nil
  | cons hstyled _ ih =>
      cases hrows with
      | cons hrow hrows => exact .cons ⟨_, hstyled, hrow⟩ (ih _ hrows)

variable {width : Nat} {text : String} {row : Lines}

/-- What markup makes of a visible text is one line: `ofMarkup` brings neither line feeds nor tabs.
-/
theorem oneLine_ofMarkup {styled : StyledText} (hvisible : Visible text.toList)
    (h : StyledText.ofMarkup text = .ok styled) : OneLine styled.text := by
  have hnot : ∀ c, isVisible c = false → isQuiet c = false → c ∉ styled.text := by
    intro c hvisible' hquiet hc
    rcases mem_ofMarkup h hc with hc | hc
    · rw [hvisible c hc] at hvisible'
      cases hvisible'
    · rw [hquiet] at hc
      cases hc
  exact ⟨hnot _ (by decide) (by decide), hnot _ (by decide) (by decide)⟩

/-- A row that is `RowFor` a text has no more marks than it. -/
theorem RowFor.markCount_le (hvisible : Visible text.toList) (h : RowFor width text row) :
    markCount row.flatten ≤ markCount text.toList := by
  obtain ⟨styled, hstyled, hrow⟩ := h
  exact Nat.le_trans (markCount_rowLines_le (oneLine_ofMarkup hvisible hstyled) hrow)
    (markCount_ofMarkup_le hstyled)

/-- A text whose row has all its marks satisfies `IsPlain`. -/
theorem RowFor.isPlain (hvisible : Visible text.toList) (h : RowFor width text row)
    (hcount : markCount text.toList ≤ markCount row.flatten) : IsPlain text.toList := by
  obtain ⟨styled, hstyled, hrow⟩ := h
  refine isPlain_of_markCount_le (fun c hc => isBlank_of_isVisible (hvisible c hc)) hstyled ?_
  exact Nat.le_trans hcount (markCount_rowLines_le (oneLine_ofMarkup hvisible hstyled) hrow)

/-- **A table has no more marks than its texts**: `markCount` does not grow by `table`. -/
theorem markCount_table_le (htitle : IsTitle title) (hvisible : ∀ text ∈ texts, Visible text.toList)
    (h : table screen title texts = .ok lines) :
    markCount lines.flatten ≤ markCount (texts.flatMap String.toList) := by
  obtain ⟨width, rows, rfl, hrows⟩ := exists_rowFor_of_table h
  rw [markCount_frame htitle]
  exact markCount_le_of_forall₂ hrows fun text htext row hrow => hrow.markCount_le (hvisible text htext)

/-- **Texts whose table has all their marks are plain**: each satisfies `IsPlain`, as no row has
more marks than its text. -/
theorem isPlain_of_table (htitle : IsTitle title) (hvisible : ∀ text ∈ texts, Visible text.toList)
    (h : table screen title texts = .ok lines)
    (hcount : markCount (texts.flatMap String.toList) ≤ markCount lines.flatten) :
    ∀ text ∈ texts, IsPlain text.toList := by
  obtain ⟨width, rows, rfl, hrows⟩ := exists_rowFor_of_table h
  rw [markCount_frame htitle] at hcount
  intro text htext
  obtain ⟨row, hrow, hle⟩ := exists_le_of_forall₂ hrows
    (fun text htext row hrow => hrow.markCount_le (hvisible text htext)) hcount text htext
  exact hrow.isPlain (hvisible text htext) hle

/-! ## Tables of plain texts -/

/-- The greatest of some numbers, `foldl max`, is no less than each of them. -/
theorem le_foldl_max {n m : Nat} {ns : List Nat} (h : n ∈ ns ∨ n ≤ m) : n ≤ ns.foldl max m := by
  induction ns generalizing m with
  | nil => simpa using h
  | cons k ns ih =>
      rw [List.foldl_cons]
      rw [List.mem_cons] at h
      obtain (rfl | hmem) | hle := h
      · exact ih (.inr (Nat.le_max_right ..))
      · exact ih (.inl hmem)
      · exact ih (.inr (Nat.le_trans hle (Nat.le_max_left ..)))

/-- A visible text is one line when its width is measured: `longestLine` is its length. -/
theorem longestLine_of_visible {text : List Char} (h : Visible text) :
    longestLine text = text.length := by
  have hends : ∀ c ∈ text, endsLine c = false := fun c hc => by
    have hc := h c hc
    simp only [isVisible, Bool.and_eq_true, decide_eq_true_eq] at hc
    simp only [endsLine, Bool.or_eq_false_iff, Bool.and_eq_false_iff, decide_eq_false_iff_not]
    omega
  rw [longestLine, splitWhere_eq_singleton hends, List.map_singleton, columns_of_narrow h.narrow]
  exact Nat.zero_max _

/-- There is room in a table: `tableColumns` of visible texts is positive on every `screen`. -/
theorem tableColumns_pos (screen : Extent) (hvisible : ∀ text ∈ texts, Visible text.toList)
    (hne : ∀ text ∈ texts, text.toList ≠ []) :
    0 < tableColumns screen (texts.map fun text => ⟨text.toList, []⟩) := by
  have hroom : 0 < screen.columns - 4 :=
    Nat.sub_pos_of_lt (Nat.lt_of_lt_of_le (by decide) screen.least_le)
  rw [tableColumns]
  cases texts with
  | nil => exact hroom
  | cons text others =>
      have hlength : 0 < text.toList.length := List.length_pos_iff.2 (hne text List.mem_cons_self)
      rw [if_neg (by simp), Nat.lt_min]
      refine ⟨hroom, Nat.lt_of_lt_of_le hlength (le_foldl_max (.inl ?_))⟩
      rw [← longestLine_of_visible (hvisible text List.mem_cons_self)]
      simp

/-- **A table of plain texts shows them as they are**: `table` gives lines that are `Tabulates`. -/
theorem exists_table_tabulates (screen : Extent) (title : String) (hvisible : ∀ text ∈ texts, Visible text.toList)
    (hne : ∀ text ∈ texts, text.toList ≠ []) (hplain : ∀ text ∈ texts, IsPlain text.toList) :
    ∃ lines, table screen title texts = .ok lines ∧ Tabulates title texts lines := by
  have hmarkup : texts.mapM StyledText.ofMarkup =
      .ok (texts.map fun text => ⟨text.toList, []⟩) := by
    rw [mapM_eq_ok_iff, List.forall₂_map_right_iff, List.forall₂_same]
    exact fun text htext => (hplain text htext).ofMarkup_eq (hvisible text htext)
  have hwidth := tableColumns_pos screen hvisible hne
  obtain ⟨rows, hrows⟩ := exists_forall₂_iff.2 fun text htext =>
    exists_rowLines_showsText hwidth (hvisible text htext)
  refine ⟨frame title _ rows, ?_, _, rows, rfl, hrows.imp fun _ _ h => h.2⟩
  refine bind_eq_ok_iff.2 ⟨_, hmarkup, bind_eq_ok_iff.2 ⟨rows, mapM_eq_ok_iff.2 ?_, rfl⟩⟩
  exact List.forall₂_map_left_iff.2 (hrows.imp fun _ _ h => h.1)

end TreeSift.Screen
