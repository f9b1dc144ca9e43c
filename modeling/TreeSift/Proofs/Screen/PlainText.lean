import TreeSift.Proofs.Results
import TreeSift.Proofs.Screen.EmojiFree
import TreeSift.Screen.Markup

/-! # Texts that markup leaves alone

Markup reads three things into a text: tags, brackets behind a backslash, and names of emoji between
colons. A text without blanks in which nothing of this stands is shown as it is
(`IsPlain.ofMarkup_eq`). Every other text loses a colon, a bracket or a backslash
(`isPlain_of_markCount_le`), and no markup brings one (`markCount_ofMarkup_le`). -/

namespace TreeSift.Screen

open TreeSift.Text (CodeRanges isBlank)

/-! ## Tags -/

/-- What would belong to a tag is ended by a closing bracket, unless another one opens: `upToClose?`
is a case of `upTo?`. -/
theorem upToClose?_eq_upTo? (cs : List Char) : upToClose? cs = upTo? ']' (· == '[') cs := by
  induction cs with
  | nil => rfl
  | cons c cs ih => simp [upToClose?, upTo?, ih]

/-- **A tag** begins with a bracket and a character that `startsTag` accepts: `tagAt?` as an
equation. -/
theorem tagAt?_eq_some_iff {cs body rest : List Char} :
    tagAt? cs = some (body, rest) ↔
      ∃ first back, body = first :: back ∧ cs = '[' :: first :: back ++ ']' :: rest ∧
        startsTag first = true ∧ ']' ∉ back ∧ '[' ∉ back := by
  unfold tagAt?
  split
  · next c cs =>
    -- behind the bracket, a tag goes up to the next closing bracket, unless one opens before
    by_cases hstarts : startsTag c = true
    · rw [if_pos hstarts, Option.map_eq_some_iff]
      constructor
      · rintro ⟨parts, hparts, heq⟩
        cases heq
        obtain ⟨rfl, hclose, hopen⟩ := upTo?_eq_some_iff.1 (upToClose?_eq_upTo? cs ▸ hparts)
        exact ⟨c, parts.1, rfl, rfl, hstarts, hclose, fun hmem => by simpa using hopen _ hmem⟩
      · rintro ⟨first, back, rfl, hcs, -, hclose, hopen⟩
        cases hcs
        rw [upToClose?_eq_upTo?]
        refine ⟨(back, rest), upTo?_eq_some_iff.2 ⟨rfl, hclose, fun c hc => ?_⟩, rfl⟩
        simpa using fun heq : c = '[' => hopen (heq ▸ hc)
    · rw [if_neg hstarts]
      refine iff_of_false nofun ?_
      rintro ⟨first, back, rfl, hcs, hfirst, -⟩
      cases hcs
      exact hstarts hfirst
  · next hnot =>
    refine iff_of_false nofun ?_
    rintro ⟨first, back, rfl, rfl, -⟩
    exact hnot first _ rfl

/-- A text in which no tag stands: `tagAt?` finds none at any place. -/
def Untagged (text : List Char) : Prop :=
  ∀ front first body back, text = front ++ ('[' :: first :: body ++ ']' :: back) →
    startsTag first = true → ']' ∉ body → '[' ∈ body

/-- A text is `Untagged` exactly if none of its ends begins with a tag. -/
theorem untagged_iff {text : List Char} :
    Untagged text ↔ ∀ rest, rest <:+ text → tagAt? rest = none := by
  constructor
  · rintro h rest ⟨front, rfl⟩
    refine Option.eq_none_iff_forall_ne_some.2 fun ⟨tag, back⟩ htag => ?_
    obtain ⟨first, body, -, rfl, hfirst, hclose, hopen⟩ := tagAt?_eq_some_iff.1 htag
    exact hopen (h front first body back rfl hfirst hclose)
  · rintro h front first body back rfl hfirst hclose
    by_contra hopen
    have htag : tagAt? ('[' :: first :: body ++ ']' :: back) = some (first :: body, back) :=
      tagAt?_eq_some_iff.2 ⟨first, body, rfl, rfl, hfirst, hclose, hopen⟩
    rw [h _ (List.suffix_append ..)] at htag
    cases htag

/-! ## Pieces -/

/-- The plain text of a piece: that of `.plain`, and none of a `.tag`. -/
def Piece.text : Piece → List Char
  | .plain text => text
  | .tag _ _ => []

/-- The plain text of pieces: `Piece.text` of each, one after the other. -/
def plainTexts (parts : List Piece) : List Char :=
  parts.flatMap Piece.text

@[simp] theorem plainTexts_append (left right : List Piece) :
    plainTexts (left ++ right) = plainTexts left ++ plainTexts right :=
  List.flatMap_append

@[simp] theorem plainTexts_plainPiece (text : List Char) : plainTexts (plainPiece text) = text := by
  rw [plainPiece]
  split
  · next h => simp_all [plainTexts]
  · simp [plainTexts, Piece.text]

/-- Behind its backslashes a tag is shown only in part: what `escapedTag` shows is a sublist of it.
-/
theorem sublist_escapedTag (position escapes : Nat) (body : List Char) :
    (plainTexts (escapedTag position escapes body)).Sublist
      (List.replicate escapes '\\' ++ '[' :: body ++ [']']) := by
  rw [escapedTag, plainTexts_append, plainTexts_plainPiece, List.append_assoc]
  refine List.Sublist.append (List.replicate_sublist_replicate '\\' |>.2 (by omega)) ?_
  split
  · simp [plainTexts, Piece.text]
  · simp [plainTexts, Piece.text]

/-- A tag loses its bracket, or one of the backslashes before it: `escapedTag` shows fewer marks. -/
theorem markCount_escapedTag_lt (position escapes : Nat) (body : List Char) :
    markCount (plainTexts (escapedTag position escapes body)) <
      markCount (List.replicate escapes '\\' ++ '[' :: body ++ [']']) := by
  have hslashes (n : Nat) : markCount (List.replicate n '\\') = n := by
    rw [markCount, List.countP_replicate, if_pos (by decide)]
  rw [escapedTag, plainTexts_append, plainTexts_plainPiece]
  simp only [markCount_append, hslashes, List.append_assoc]
  split
  · simp [plainTexts, Piece.text, isMark]
    omega
  · simp [plainTexts, Piece.text, isMark]
    omega

/-- A text that begins with `backslashes` and a tag is these, the tag in its brackets, and the rest.
-/
theorem eq_of_tagAt?_drop {cs body rest : List Char}
    (h : tagAt? (cs.drop (backslashes cs).length) = some (body, rest)) :
    cs = (List.replicate (backslashes cs).length '\\' ++ '[' :: body ++ [']']) ++ rest := by
  obtain ⟨first, back, rfl, hdrop, -⟩ := tagAt?_eq_some_iff.1 h
  have hslashes : backslashes cs = List.replicate (backslashes cs).length '\\' :=
    List.eq_replicate_of_mem fun c hc => by
      simpa using List.all_eq_true.1 List.all_takeWhile c hc
  have hprefix : backslashes cs ++ cs.drop (backslashes cs).length = cs :=
    List.prefix_iff_eq_append.1 (List.takeWhile_prefix _)
  rw [hdrop, hslashes] at hprefix
  rw [← hslashes] at hprefix ⊢
  simpa using hprefix.symm

/-- Pieces show no more than the text: the `plainTexts` of `piecesFrom` are a sublist of it. -/
theorem sublist_plainTexts_piecesFrom (position : Nat) (before cs : List Char) :
    (plainTexts (piecesFrom position before cs)).Sublist (before ++ cs) := by
  fun_induction piecesFrom position before cs with
  | case1 => simp
  | case2 position before c cs escapes body rest htag next ih =>
      rw [plainTexts_append, plainTexts_append, plainTexts_plainPiece, eq_of_tagAt?_drop htag]
      rw [List.append_assoc]
      exact (List.Sublist.refl _).append ((sublist_escapedTag ..).append (by simpa using ih))
  | case3 position before c cs escapes hnone ih => simpa using ih

/-- **Text that loses no mark to tags has none in it**: it is `Untagged`, as each tag loses a mark.
-/
theorem untagged_of_markCount_le {position : Nat} {before cs : List Char}
    (h : markCount before + markCount cs ≤ markCount (plainTexts (piecesFrom position before cs))) :
    Untagged cs := by
  fun_induction piecesFrom position before cs with
  | case1 => exact untagged_iff.2 fun rest hrest => by simp_all [tagAt?]
  | case2 position before c cs escapes body rest htag next ih =>
      exfalso
      have hrest := markCount_le_of_sublist (sublist_plainTexts_piecesFrom next [] rest)
      have hlost : markCount (plainTexts (escapedTag position escapes body)) <
          markCount (List.replicate (backslashes (c :: cs)).length '\\' ++ '[' :: body ++ [']']) :=
        markCount_escapedTag_lt ..
      rw [eq_of_tagAt?_drop htag, markCount_append _ rest, plainTexts_append, plainTexts_append,
        plainTexts_plainPiece, markCount_append _ (plainTexts (piecesFrom ..)),
        markCount_append before] at h
      rw [List.nil_append] at hrest
      omega
  | case3 position before c cs escapes hnone ih =>
      rw [markCount_cons] at h
      rw [markCount_append, markCount_cons, markCount_nil] at ih
      have hcs := untagged_iff.1 (ih (by omega))
      refine untagged_iff.2 fun rest hrest => ?_
      rcases List.suffix_cons_iff.1 hrest with rfl | hrest
      · by_cases hc : c = '['
        · simpa [escapes, backslashes, hc] using hnone
        · unfold tagAt?
          split
          · simp_all
          · rfl
      · exact hcs rest hrest

/-- **Text without tags is one piece**: `piecesFrom` makes a `plainPiece` of what is `Untagged`. -/
theorem piecesFrom_of_untagged {position : Nat} {before cs : List Char} (h : Untagged cs) :
    piecesFrom position before cs = plainPiece (before ++ cs) := by
  rw [untagged_iff] at h
  fun_induction piecesFrom position before cs with
  | case1 => simp
  | case2 position before c cs escapes body rest htag next ih =>
      rw [h _ (List.drop_suffix ..)] at htag
      cases htag
  | case3 position before c cs escapes hnone ih =>
      rw [ih fun rest hrest => h rest (hrest.trans (List.suffix_cons ..))]
      simp

/-! ## Brackets behind backslashes -/

/-- A text in which no backslash stands before a bracket, so that `unescapeBrackets` finds nothing.
-/
def Unescaped (text : List Char) : Prop :=
  ¬['\\', '['] <:+: text

theorem unescapeBrackets_sublist (cs : List Char) : (unescapeBrackets cs).Sublist cs := by
  fun_induction unescapeBrackets cs with
  | case1 cs ih => exact (ih.cons_cons '[').cons '\\'
  | case2 c cs _ ih => exact ih.cons_cons c
  | case3 => exact .slnil

/-- Without backslashes before brackets a text stays as it is: `unescapeBrackets` does nothing to
what is `Unescaped`. -/
theorem unescapeBrackets_of_unescaped {cs : List Char} (h : Unescaped cs) :
    unescapeBrackets cs = cs := by
  fun_induction unescapeBrackets cs with
  | case1 cs ih => exact absurd (List.prefix_append ['\\', '['] cs).isInfix h
  | case2 c cs _ ih => rw [ih fun hfound => h (hfound.trans (List.suffix_cons c cs).isInfix)]
  | case3 => rfl

/-- **Text that loses no mark to brackets has none behind a backslash**: it is `Unescaped`. -/
theorem unescaped_of_markCount_le {cs : List Char}
    (h : markCount cs ≤ markCount (unescapeBrackets cs)) : Unescaped cs := by
  fun_induction unescapeBrackets cs with
  | case1 cs ih =>
      exfalso
      have hrest := markCount_le_of_sublist (unescapeBrackets_sublist cs)
      simp [isMark] at h
      omega
  | case2 c cs hpair ih =>
      rw [markCount_cons, markCount_cons c (unescapeBrackets cs)] at h
      intro hfound
      rcases List.infix_cons_iff.1 hfound with hprefix | hfound
      · obtain ⟨back, hback⟩ := hprefix
        cases hback
        exact hpair back rfl rfl
      · exact ih (by omega) hfound
  | case3 => simp [Unescaped]

/-! ## Texts with markup -/

/-- The character is visible ASCII: from `!` to `~`. -/
def isVisible (c : Char) : Bool :=
  0x21 ≤ c.toNat && c.toNat ≤ 0x7e

/-- A text of characters that satisfy `isVisible`. -/
def Visible (text : List Char) : Prop :=
  ∀ c ∈ text, isVisible c = true

/-- Whether a text is `Visible` can be computed by `all`. -/
theorem visible_iff {text : List Char} : Visible text ↔ text.all isVisible = true :=
  List.all_eq_true.symm

/-- What satisfies `isVisible` is not blank. -/
theorem isBlank_of_isVisible {c : Char} (h : isVisible c = true) : isBlank c = false := by
  rw [Bool.eq_false_iff]
  intro hblank
  obtain ⟨range, hrange, hfirst, hlast⟩ := CodeRanges.exists_range_of_contains hblank
  simp only [isVisible, Bool.and_eq_true, decide_eq_true_eq] at h
  simp only [Text.blanks, List.mem_cons, List.not_mem_nil, or_false] at hrange
  grind

/-- **A text that markup leaves alone**: it is `Untagged`, `Unescaped` and `EmojiFree`. -/
structure IsPlain (text : List Char) : Prop where
  /-- There is no tag. -/
  untagged : Untagged text
  /-- No backslash stands before a bracket. -/
  unescaped : Unescaped text
  /-- No name of an emoji stands between two colons. -/
  emojiFree : EmojiFree text

@[simp] theorem shownText_nil : shownText [] = [] := by decide +kernel

/-- What is shown of plain text has no more marks: `markCount` does not grow by `shownText`. -/
theorem markCount_shownText_le (text : List Char) : markCount (shownText text) ≤ markCount text := by
  calc markCount (shownText text)
      ≤ markCount (replaceEmoji (unescapeBrackets text)) :=
        markCount_le_of_sublist List.filter_sublist
    _ ≤ markCount (unescapeBrackets text) := markCount_replaceEmoji_le _
    _ ≤ markCount text := markCount_le_of_sublist (unescapeBrackets_sublist text)

/-- Plain text that loses no mark to `shownText` is `Unescaped` and `EmojiFree`. -/
theorem unescaped_and_emojiFree {text : List Char} (hblank : ∀ c ∈ text, isBlank c = false)
    (h : markCount text ≤ markCount (shownText text)) : Unescaped text ∧ EmojiFree text := by
  have hshown : markCount (shownText text) ≤ markCount (replaceEmoji (unescapeBrackets text)) :=
    markCount_le_of_sublist List.filter_sublist
  have hemoji := markCount_replaceEmoji_le (unescapeBrackets text)
  have hunescaped : Unescaped text := unescaped_of_markCount_le (by omega)
  rw [unescapeBrackets_of_unescaped hunescaped] at hshown
  exact ⟨hunescaped, emojiFree_of_markCount_le hblank (by omega)⟩

/-- What `shownText` gives is from the text or quiet. -/
theorem mem_shownText {text : List Char} {c : Char} (h : c ∈ shownText text) :
    c ∈ text ∨ isQuiet c = true :=
  (mem_replaceEmoji (List.mem_of_mem_filter h)).imp_left fun hmem =>
    (unescapeBrackets_sublist text).subset hmem

namespace Rendering

variable {rendering reached : Rendering}

/-- The end of a style shows nothing: `finish` keeps the text shown. -/
theorem text_of_finish {style : BegunStyle} {left : List BegunStyle}
    (h : rendering.finish style left = .ok reached) : reached.shown.text = rendering.shown.text := by
  obtain ⟨-, -, hreached⟩ := bind_eq_ok_iff.1 h
  cases hreached
  rfl

/-- A closing tag shows nothing: `close` keeps the text shown. -/
theorem text_of_close {position : Nat} {body : List Char}
    (h : rendering.close position body = .ok reached) :
    reached.shown.text = rendering.shown.text := by
  rw [close] at h
  split at h
  · split at h
    · cases h
    · exact text_of_finish h
  · obtain ⟨name, -, hname⟩ := bind_eq_ok_iff.1 h
    split at hname
    · cases hname
    · exact text_of_finish hname

/-- An opening tag shows nothing: `start` keeps the text shown. -/
theorem text_of_start {body : List Char} (h : rendering.start body = .ok reached) :
    reached.shown.text = rendering.shown.text := by
  obtain ⟨name, -, hname⟩ := bind_eq_ok_iff.1 h
  cases hname
  rfl

/-- A piece shows its plain text: `add` appends `shownText` of it. -/
theorem text_of_add {piece : Piece} (h : rendering.add piece = .ok reached) :
    reached.shown.text = rendering.shown.text ++ shownText piece.text := by
  cases piece with
  | plain text =>
      cases h
      rfl
  | tag position body =>
      rw [Piece.text, shownText_nil, List.append_nil]
      rw [add] at h
      split at h
      · exact text_of_close h
      · exact text_of_start h

/-- Pieces show their plain texts one after the other: `add` along `parts`. -/
theorem text_of_foldlM_add {parts : List Piece} (h : parts.foldlM add rendering = .ok reached) :
    reached.shown.text =
      rendering.shown.text ++ parts.flatMap fun piece => shownText piece.text := by
  induction parts generalizing rendering with
  | nil =>
      cases h
      simp
  | cons piece parts ih =>
      rw [List.foldlM_cons] at h
      cases hadd : rendering.add piece with
      | error fault =>
          rw [hadd] at h
          cases h
      | ok next =>
          rw [hadd] at h
          rw [ih h, text_of_add hadd, List.flatMap_cons, List.append_assoc]

end Rendering

variable {text : String} {styled : StyledText}

/-- Markup shows the plain texts of its pieces: `ofMarkup` is `shownText` of each. -/
theorem text_of_ofMarkup (h : StyledText.ofMarkup text = .ok styled) :
    styled.text = (pieces text.toList).flatMap fun piece => shownText piece.text := by
  obtain ⟨rendering, hfold, hfinish⟩ := bind_eq_ok_iff.1 h
  cases hfinish
  exact Rendering.text_of_foldlM_add hfold

/-- Pieces are shown with no more marks than their `plainTexts` have. -/
theorem markCount_flatMap_shownText_le (parts : List Piece) :
    markCount (parts.flatMap fun piece => shownText piece.text) ≤ markCount (plainTexts parts) :=
  markCount_flatMap_le fun piece _ => markCount_shownText_le piece.text

/-- **Markup brings no marks**: `markCount` does not grow by `ofMarkup`. -/
theorem markCount_ofMarkup_le (h : StyledText.ofMarkup text = .ok styled) :
    markCount styled.text ≤ markCount text.toList := by
  rw [text_of_ofMarkup h]
  exact Nat.le_trans (markCount_flatMap_shownText_le _)
    (markCount_le_of_sublist (sublist_plainTexts_piecesFrom 0 [] text.toList))

/-- What `ofMarkup` shows is from the text or quiet. -/
theorem mem_ofMarkup (h : StyledText.ofMarkup text = .ok styled) {c : Char} (hc : c ∈ styled.text) :
    c ∈ text.toList ∨ isQuiet c = true := by
  rw [text_of_ofMarkup h, List.mem_flatMap] at hc
  obtain ⟨piece, hpiece, hc⟩ := hc
  refine (mem_shownText hc).imp_left fun hmem => ?_
  exact (sublist_plainTexts_piecesFrom 0 [] text.toList).subset
    (List.mem_flatMap.2 ⟨piece, hpiece, hmem⟩)

/-- **Text that loses no mark to markup is plain**: it satisfies `IsPlain`, as tags, escapes and
emoji lose one each. -/
theorem isPlain_of_markCount_le (hblank : ∀ c ∈ text.toList, isBlank c = false)
    (h : StyledText.ofMarkup text = .ok styled)
    (hcount : markCount text.toList ≤ markCount styled.text) : IsPlain text.toList := by
  have hshown := markCount_flatMap_shownText_le (pieces text.toList)
  rw [← text_of_ofMarkup h] at hshown
  have hpieces : markCount [] + markCount text.toList ≤
      markCount (plainTexts (piecesFrom 0 [] text.toList)) := by
    rw [markCount_nil, Nat.zero_add]
    exact Nat.le_trans hcount hshown
  have huntagged : Untagged text.toList := untagged_of_markCount_le hpieces
  have hpiece : pieces text.toList = plainPiece text.toList := piecesFrom_of_untagged huntagged
  have hplain : markCount text.toList ≤ markCount (shownText text.toList) := by
    rw [text_of_ofMarkup h, hpiece] at hcount
    refine Nat.le_trans hcount (Nat.le_of_eq ?_)
    rw [plainPiece]
    split
    · next hnil =>
      rw [List.isEmpty_iff.1 hnil, shownText_nil]
      rfl
    · simp [Piece.text]
  obtain ⟨hunescaped, hemojiFree⟩ := unescaped_and_emojiFree hblank hplain
  exact ⟨huntagged, hunescaped, hemojiFree⟩

/-- **Plain text is shown as it is**: `ofMarkup` gives it back without styles. -/
theorem IsPlain.ofMarkup_eq (hvisible : Visible text.toList) (h : IsPlain text.toList) :
    StyledText.ofMarkup text = .ok ⟨text.toList, []⟩ := by
  have hblank : ∀ c ∈ text.toList, isBlank c = false :=
    fun c hc => isBlank_of_isVisible (hvisible c hc)
  have hshown : shownText text.toList = text.toList := by
    rw [shownText, unescapeBrackets_of_unescaped h.unescaped,
      replaceEmoji_of_emojiFree hblank h.emojiFree, List.filter_eq_self]
    intro c hc
    have hc := hvisible c hc
    simp [isVisible, isIgnored] at hc ⊢
    omega
  have hpieces : pieces text.toList = plainPiece text.toList := piecesFrom_of_untagged h.untagged
  rw [StyledText.ofMarkup, hpieces, plainPiece]
  split
  · next hnil =>
    rw [List.isEmpty_iff.1 hnil]
    show Except.ok (Rendering.finishAll {}) = _
    simp [Rendering.finishAll]
  · show Except.ok (Rendering.finishAll ⟨⟨[] ++ shownText text.toList, []⟩, []⟩) = _
    rw [hshown]
    simp [Rendering.finishAll]

end TreeSift.Screen
