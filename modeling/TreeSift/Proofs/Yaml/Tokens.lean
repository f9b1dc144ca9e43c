import TreeSift.Proofs.Yaml.Lexing
import TreeSift.Proofs.Yaml.Styles

/-! # Tokens of lines

What the lexer reads of the parts that lines are written of. -/

namespace TreeSift.Yaml

namespace Lex

variable {text rest : List Char} {c : Char} {cursor : Cursor} {indents : List Nat} {allowed : Bool}
  {index line column count : Nat} {tokens : List Token}

/-! ## Single tokens -/

/-- The place of a key that starts here, if one is `allowed`. -/
def keyPlace? (allowed : Bool) (cursor : Cursor) (indents : List Nat) (count : Nat) :
    Option KeyPlace :=
  if allowed then
    some ⟨count, indents.head? == some cursor.column, cursor.index, cursor.line, cursor.column⟩
  else none

/-- The place of a key is noted by `noteKey`: it is `keyPlace?`. -/
theorem run_noteKey :
    noteKey.run ⟨cursor, indents, none, [], allowed, count, tokens⟩ =
      .ok ((), ⟨cursor, indents, keyPlace? allowed cursor indents count, [], allowed, count,
        tokens⟩) := by
  cases allowed <;> rfl

/-- A plain scalar is read by `plain`, as `plainScalar` finds it. -/
theorem run_plain {scalar : PlainScalar}
    (h : plainScalar false ((indents.head?.map (· + 1)).getD 0) (cursor.rest.length + 1) cursor.rest =
      some scalar) :
    plain.run ⟨cursor, indents, none, [], allowed, count, tokens⟩ =
      .ok ((), ⟨cursor.moveTo scalar.rest, indents, keyPlace? allowed cursor indents count, [],
        scalar.newLine, count + 1, .scalar (String.ofList scalar.content) true :: tokens⟩) := by
  rw [plain, run_bind_of_run run_noteKey, run_get_bind]
  dsimp only
  rw [List.isEmpty_nil, Bool.not_true, h]
  rfl

/-- A scalar between quotes is read by `quoted`, as `quotedScalar` finds it. -/
theorem run_quoted {double : Bool} {content : List Char}
    (h : quotedScalar double (cursor.rest.length + 1) (cursor.rest.drop 1) = .ok (content, rest)) :
    (quoted double).run ⟨cursor, indents, none, [], allowed, count, tokens⟩ =
      .ok ((), ⟨cursor.moveTo rest, indents, keyPlace? allowed cursor indents count, [], false,
        count + 1, .scalar (String.ofList content) false :: tokens⟩) := by
  rw [quoted, run_bind_of_run run_noteKey,
    run_bind_of_run (rfl : (allowKey false).run _ = .ok ((), _)), run_get_bind]
  dsimp only
  rw [h]
  rfl

/-- What `StartsWord` is read as a plain scalar by `token`. -/
theorem run_token_of_startsWord (h : StartsWord (c :: rest))
    (hmark : column = 0 → atDocumentMark (c :: rest) = false) :
    (token c rest).run ⟨⟨text, index, line, column⟩, indents, none, [], allowed, count, tokens⟩ =
      plain.run ⟨⟨text, index, line, column⟩, indents, none, [], allowed, count, tokens⟩ := by
  obtain ⟨hprint, hspace, hleading, hindicator⟩ := h
  have hblank := isBreak_of_isPrintable hprint hspace
  have hindicators : leadingIndicators = ['#', ',', '[', ']', '\x7b', '\x7d', '&', '*', '!', '|', '>',
      '\'', '"', '%', '@', '`'] := by decide
  simp only [hindicators, List.contains_eq_mem, decide_eq_false_iff_not, List.mem_cons,
    List.not_mem_nil, or_false, not_or] at hleading
  -- the three signs that are indicators before blanks start words here, as no blank follows
  have hstarts : startsPlain false c rest = true := by
    have hall : "-?:,[]\x7b\x7d#&*!|>'\"%@`".toList = ['-', '?', ':', ',', '[', ']', '\x7b', '\x7d',
      '#', '&', '*', '!', '|', '>', '\'', '"', '%', '@', '`'] := by decide
    rw [startsPlain, hall]
    by_cases hmark : c = '?' ∨ c = ':' ∨ c = '-'
    · have hrest := hindicator hmark
      rcases hmark with rfl | rfl | rfl <;> simp [hrest]
    · rw [not_or, not_or] at hmark
      simp [hleading, hmark, hblank]
  have hitem : (c == '-' && atBlank rest) = false ∧ (c == '?' && (false || atBlank rest)) = false ∧
      (c == ':' && (false || atBlank rest)) = false := by
    refine ⟨?_, ?_, ?_⟩ <;> rw [Bool.and_eq_false_iff, beq_eq_false_iff_ne]
    · exact (em (c = '-')).symm.imp id fun hc => hindicator (.inr (.inr hc))
    · exact (em (c = '?')).symm.imp id fun hc => hindicator (.inl hc)
    · exact (em (c = ':')).symm.imp id fun hc => hindicator (.inr (.inl hc))
  have hdocument : (column == 0 && atDocumentMark (c :: rest)) = false := by
    rw [Bool.and_eq_false_iff, beq_eq_false_iff_ne]
    exact (em (column = 0)).symm.imp id hmark
  have hdirective : (column == 0 && c == '%') = false := by
    rw [Bool.and_eq_false_iff]
    exact .inr (by simp [hleading])
  rw [token, run_bind_of_run (rfl : inFlow.run _ = .ok (false, _)), run_get_bind]
  simp only [hleading, hitem, hdocument, hdirective, hstarts, beq_iff_eq, Bool.false_eq_true,
    if_false, if_true, Bool.not_false, Bool.and_true]

/-- A quote is read by `token` as the start of a scalar between quotes. -/
theorem run_token_quoteMark (double : Bool) :
    (token (quoteMark double) rest).run ⟨cursor, indents, none, [], allowed, count, tokens⟩ =
      (quoted double).run ⟨cursor, indents, none, [], allowed, count, tokens⟩ := by
  rw [token, run_bind_of_run (rfl : inFlow.run _ = .ok (false, _)), run_get_bind]
  cases double <;> simp [quoteMark, atDocumentMark]

/-- What `StartsWord` does `StartsToken`. -/
theorem startsToken_of_startsWord (h : StartsWord text) : StartsToken text := by
  cases text with
  | nil => cases h
  | cons c rest =>
      obtain ⟨hprint, hspace, hleading, -⟩ := h
      have hblank := isBreak_of_isPrintable hprint hspace
      refine ⟨fun heq => hspace (Option.some.inj heq), fun heq => ?_, takeBreak?_eq_none hblank.1⟩
      rw [Option.some.inj heq] at hleading
      exact absurd hleading (by decide)

/-! ## Scalars -/

section Scalars

variable {written content : List Char} {indent next : Nat}

/-- **A line may start with the text**: it `StartsToken`, and is not the mark of a document. -/
structure StartsLine (text : List Char) : Prop extends StartsToken text where
  /-- It is no mark of a document. -/
  noMark : atDocumentMark text = false

/-- Behind an indentation, what `StartsLine` is no mark of a document either. -/
theorem StartsLine.atDocumentMark_spaces (h : StartsLine text) (blanks : Nat) :
    atDocumentMark (spaces blanks ++ text) = false := by
  cases blanks with
  | zero => exact h.noMark
  | succ blanks => rfl

/-- The way to a token behind a space in the same line: `goToToken` drops the space, and
`dropStaleKeys` nothing. -/
theorem run_ways_of_space (h : StartsToken text) :
    (goToToken >>= fun _ => dropStaleKeys).run ⟨⟨' ' :: text, index, line, column⟩, indents, none, [],
        allowed, count, tokens⟩ =
      .ok ((), ⟨⟨text, index + 1, line, column + 1⟩, indents, none, [], allowed, count, tokens⟩) := by
  have hgo : goToToken.run ⟨⟨' ' :: text, index, line, column⟩, indents, none, [], allowed, count,
      tokens⟩ = .ok ((), ⟨⟨text, index + 1, line, column + 1⟩, indents, none, [], allowed, count,
        tokens⟩) := run_goToToken_spaces h 1
  rw [run_bind_of_run hgo]
  rfl

/-- No key is required behind the column of the open mapping: `keyPlace?` says so. -/
theorem required_keyPlace? {indents : List Nat} (hcolumn : indent < cursor.column) :
    ∀ place ∈ keyPlace? allowed cursor (indent :: indents) count,
      place.required = false ∧ place.line = cursor.line := by
  intro place hplace
  cases allowed with
  | false => cases hplace
  | true =>
      cases hplace
      simp [hcolumn.ne]

/-- A plain scalar is read to the end of its line: a `Run` from its `Words` to the next line. -/
theorem exists_run_words (h : Words (indent + 1) written content)
    (hstart : StartsWord (written ++ (newLine next ++ text))) (htext : StartsLine text)
    (hcolumn : indent ≤ column) (hnext : next ≤ indent) :
    ∃ s, Run ⟨⟨' ' :: (written ++ (newLine next ++ text)), index, line, column⟩, indent :: indents,
        none, [], allowed, count, tokens⟩ s ∧
      AtLine s next text (indent :: indents) (.scalar (String.ofList content) true :: tokens) := by
  have hgap : ∀ fuel, plainGap (fuel + 1) (newLine next ++ text) = ⟨[' '], text, true, next⟩ :=
    fun fuel => plainGap_newLine next fuel htext.space htext.noBreak (htext.atDocumentMark_spaces next)
  have hends : next < indent + 1 := by omega
  have hscalar : plainScalar false (indent + 1) ((written ++ (newLine next ++ text)).length + 1)
      (written ++ (newLine next ++ text)) = some ⟨content, text, true⟩ :=
    plainScalar_of_words h rfl hgap (by simp [hends]) (by rw [List.length_append]; omega)
  have hways := @run_ways_of_space _ (indent :: indents) allowed index line column count tokens
    (startsToken_of_startsWord hstart)
  obtain ⟨index', line', hline, hmove⟩ := @Cursor.exists_moveTo_newLine text (index + 1) line
    (column + 1) written next
  have hplain := @run_plain ⟨written ++ (newLine next ++ text), index + 1, line, column + 1⟩
    (indent :: indents) allowed count tokens _ hscalar
  rw [hmove] at hplain
  have hunwind : (unwind (column + 1 < ·)).run ⟨⟨written ++ (newLine next ++ text), index + 1, line,
      column + 1⟩, indent :: indents, none, [], allowed, count, tokens⟩ = _ :=
    run_unwind_of_head? rfl (by simpa using by omega)
  obtain ⟨c, rest, hrest⟩ := List.exists_cons_of_ne_nil (show written ++ (newLine next ++ text) ≠ [] by
    simp [newLine])
  rw [hrest] at hstart
  have htoken := (run_token_of_startsWord hstart (by simp)).trans hplain
  have hplace := @required_keyPlace? ⟨written ++ (newLine next ++ text), index + 1, line, column + 1⟩
    allowed count indent indents (Nat.lt_succ_of_le hcolumn)
  refine ⟨_, .step (run_step_of_ways hways hrest hunwind htoken) ?_ (.refl _),
    atLine_entered htext.1 fun place hp => ⟨(hplace place hp).1, by rw [(hplace place hp).2]; exact hline⟩⟩
  simp only [newLine, List.length_append, List.length_cons]
  omega

/-- A quote does `StartsToken`. -/
theorem startsToken_quoteMark (double : Bool) (text : List Char) :
    StartsToken (quoteMark double :: text) := by
  cases double <;> exact ⟨by simp [quoteMark], by simp [quoteMark], takeBreak?_eq_none rfl⟩

/-- A scalar between quotes is read to the end of its line: a `Run` from what `Quotes` it to the
next line. -/
theorem exists_run_quotes {double : Bool} (h : Quotes double written content)
    (htext : StartsLine text) (hcolumn : indent ≤ column) :
    ∃ s, Run ⟨⟨' ' :: quoteMark double :: (written ++ quoteMark double :: (newLine next ++ text)),
        index, line, column⟩, indent :: indents, none, [], allowed, count, tokens⟩ s ∧
      AtLine s next text (indent :: indents) (.scalar (String.ofList content) false :: tokens) := by
  have hscalar : quotedScalar double
      ((quoteMark double :: (written ++ quoteMark double :: (newLine next ++ text))).length + 1)
      ((quoteMark double :: (written ++ quoteMark double :: (newLine next ++ text))).drop 1) =
        .ok (content, newLine next ++ text) :=
    quotedScalar_of_quotes h (by simp only [List.length_cons, List.length_append]; omega) nofun
  have hways := @run_ways_of_space _ (indent :: indents) allowed index line column count tokens
    (startsToken_quoteMark double (written ++ quoteMark double :: (newLine next ++ text)))
  have hfront : quoteMark double :: (written ++ quoteMark double :: (newLine next ++ text)) =
      quoteMark double :: written ++ [quoteMark double] ++ (newLine next ++ text) := by simp
  obtain ⟨index', line', column', hline, hmove⟩ := @Cursor.exists_moveTo (newLine next ++ text)
    (index + 1) line (column + 1) (quoteMark double :: written ++ [quoteMark double])
  rw [← hfront] at hmove
  have hquoted := @run_quoted _ ⟨_, index + 1, line, column + 1⟩ (indent :: indents) allowed count
    tokens _ _ hscalar
  rw [hmove] at hquoted
  have hunwind : (unwind (column + 1 < ·)).run ⟨⟨quoteMark double :: (written ++ quoteMark double ::
      (newLine next ++ text)), index + 1, line, column + 1⟩, indent :: indents, none, [], allowed,
      count, tokens⟩ = _ :=
    run_unwind_of_head? rfl (by simpa using by omega)
  have hplace := @required_keyPlace? ⟨quoteMark double :: (written ++ quoteMark double ::
    (newLine next ++ text)), index + 1, line, column + 1⟩ allowed count indent indents
    (Nat.lt_succ_of_le hcolumn)
  refine ⟨_, .step (run_step_of_ways hways rfl hunwind
    ((run_token_quoteMark double).trans hquoted)) ?_ (.refl _), atLine_newLine htext.1 fun place hp =>
      ⟨(hplace place hp).1, by rw [(hplace place hp).2]; exact hline⟩⟩
  simp only [List.length_append, List.length_cons]
  omega

/-- **A text is read as it has been written**, to the end of its line: a `Run` over `writeText`. -/
theorem exists_run_writeText (content : String) (start : Nat) (hindent : indent + 2 < lineWidth)
    (htext : StartsLine text) (hcolumn : indent ≤ column) (hnext : next ≤ indent) :
    ∃ s, Run ⟨⟨' ' :: (writeText true (indent + 2) start content ++ (newLine next ++ text)), index,
        line, column⟩, indent :: indents, none, [], allowed, count, tokens⟩ s ∧
      AtLine s next text (indent :: indents)
        (.scalar content (styleOf content == .plain) :: tokens) := by
  by_cases hstyle : styleOf content = .plain
  · have hwords := writeText_plain start hstyle (Nat.succ_pos (indent + 1))
      (Nat.le_succ (indent + 1))
    have hrun := @exists_run_words text indents allowed index line column count tokens _ _ indent next
      hwords (hwords.startsWord (startsIndicator_of_styleOf hstyle) _) htext hcolumn hnext
    rw [String.ofList_toList] at hrun
    rw [hstyle]
    exact hrun
  · obtain ⟨double, written, hwritten, hquotes⟩ := writeText_quoted start hstyle
      (Nat.succ_pos (indent + 1)) hindent
    have hrun := @exists_run_quotes text indents allowed index line column count tokens _ _ indent next
      double hquotes htext hcolumn
    rw [String.ofList_toList] at hrun
    have hfalse : (styleOf content == .plain) = false := by simpa using hstyle
    rw [hwritten, hfalse]
    simpa using hrun

end Scalars

/-! ## Indicators -/

section Indicators

variable {indent next : Nat}

/-- An empty list, `[]`, is read to the end of its line. -/
theorem exists_run_emptyList (htext : StartsLine text) (hcolumn : indent ≤ column) :
    ∃ s, Run ⟨⟨' ' :: '[' :: ']' :: (newLine next ++ text), index, line, column⟩, indent :: indents,
        none, [], false, count, tokens⟩ s ∧
      AtLine s next text (indent :: indents) (.flowListEnd :: .flowListStart :: tokens) := by
  have hways := @run_ways_of_space ('[' :: ']' :: (newLine next ++ text)) (indent :: indents) false
    index line column count tokens ⟨nofun, nofun, rfl⟩
  have hunwind : (unwind (column + 1 < ·)).run ⟨⟨'[' :: ']' :: (newLine next ++ text), index + 1, line,
      column + 1⟩, indent :: indents, none, [], false, count, tokens⟩ = _ :=
    run_unwind_of_head? rfl (by simpa using by omega)
  have hopen : (token '[' (']' :: (newLine next ++ text))).run ⟨⟨'[' :: ']' :: (newLine next ++ text),
      index + 1, line, column + 1⟩, indent :: indents, none, [], false, count, tokens⟩ =
      .ok ((), ⟨⟨']' :: (newLine next ++ text), index + 2, line, column + 2⟩, indent :: indents, none,
        [none], true, count + 1, .flowListStart :: tokens⟩) := rfl
  have hwaysIn : (goToToken >>= fun _ => dropStaleKeys).run ⟨⟨']' :: (newLine next ++ text), index + 2,
      line, column + 2⟩, indent :: indents, none, [none], true, count + 1, .flowListStart :: tokens⟩ =
      .ok ((), ⟨⟨']' :: (newLine next ++ text), index + 2, line, column + 2⟩, indent :: indents, none,
        [none], true, count + 1, .flowListStart :: tokens⟩) := by
    have hmove := @Cursor.moveTo_append [] (']' :: (newLine next ++ text)) (index + 2) line (column + 2)
      nofun
    rw [List.nil_append] at hmove
    rw [run_bind_of_run (run_goToToken (rfl : skipToToken _ _ = (']' :: (newLine next ++ text), false))),
      hmove]
    rfl
  have hclose : (token ']' (newLine next ++ text)).run ⟨⟨']' :: (newLine next ++ text), index + 2,
      line, column + 2⟩, indent :: indents, none, [none], true, count + 1, .flowListStart :: tokens⟩ =
      .ok ((), ⟨⟨newLine next ++ text, index + 3, line, column + 3⟩, indent :: indents, none, [], false,
        count + 2, .flowListEnd :: .flowListStart :: tokens⟩) := rfl
  -- one step opens the list, and a second one closes it
  refine ⟨_, .step (run_step_of_ways hways rfl hunwind hopen) (by simp)
    (.step (run_step_of_ways hwaysIn rfl rfl hclose) (by simp) (.refl _)), atLine_newLine htext.1 nofun⟩

/-- The column of the open mapping is not the one of a new list or mapping: `indentTo` opens none.
-/
theorem run_indentTo_self (s : LexState) (h : s.indents = indent :: indents) :
    (indentTo indent).run s = .ok (false, s) := by
  rw [indentTo, run_get_bind, h]
  simp
  rfl

/-- A deeper column is the one of a new list or mapping: `indentTo` opens it. -/
theorem run_indentTo_of_lt (s : LexState) (h : ∀ open_ ∈ s.indents.head?, open_ < indent) :
    (indentTo indent).run s = .ok (true, { s with indents := indent :: s.indents }) := by
  have hdeeper : s.indents.head?.all (· < indent) = true := by
    cases hhead : s.indents.head? with
    | none => rfl
    | some column => simpa using h column hhead
  rw [indentTo, run_get_bind, if_pos hdeeper]
  rfl

/-- The hyphen of an item is read by `token`. -/
theorem run_token_item :
    (token '-' (' ' :: text)).run ⟨⟨'-' :: ' ' :: text, index, line, indent⟩, indent :: indents, none,
        [], true, count, tokens⟩ =
      .ok ((), ⟨⟨' ' :: text, index + 1, line, indent + 1⟩, indent :: indents, none, [], true,
        count + 1, .item :: tokens⟩) := by
  rw [token, run_bind_of_run (rfl : inFlow.run _ = .ok (false, _)), run_get_bind]
  have hdirective : (indent == 0 && '-' == '%') = false := Bool.and_false _
  have hdocument : (indent == 0 && atDocumentMark ('-' :: ' ' :: text)) = false := Bool.and_false _
  dsimp only
  rw [hdirective, hdocument]
  change (blockIndicator .blockListStart .item true).run _ = _
  rw [blockIndicator, run_bind_of_run (rfl : inFlow.run _ = .ok (false, _))]
  simp only [Bool.not_false, if_true]
  rw [run_get_bind]
  simp only [Bool.not_true, Bool.false_eq_true, if_false]
  rw [run_bind_of_run (run_indentTo_self _ rfl)]
  rfl

/-- **The hyphen of an item** in the column of the mapping that is open: a `Run` from `AtLine` to
what follows it. -/
theorem exists_run_item {s : LexState}
    (h : AtLine s indent ('-' :: ' ' :: text) (indent :: indents) tokens) :
    ∃ index line count, Run s ⟨⟨' ' :: text, index, line, indent + 1⟩, indent :: indents, none, [],
      true, count, .item :: tokens⟩ := by
  obtain ⟨hlength, index, line, hways⟩ := h
  have hunwind : (unwind (indent < ·)).run ⟨⟨'-' :: ' ' :: text, index, line, indent⟩, indent :: indents,
      none, [], true, s.count, tokens⟩ = _ :=
    run_unwind_of_head? rfl (by simp)
  exact ⟨index + 1, line, s.count + 1, .step (run_step_of_ways hways rfl hunwind run_token_item)
    (by simp at hlength ⊢; omega) (.refl _)⟩

/-! ## Keys -/

section Keys

variable {key : List Char} {deeper : List Nat}

/-- What is open in deeper columns ends before a key: `unwind` closes `deeper` and leaves `base`. -/
theorem run_unwind_append {deeper base : List Nat} (hdeeper : ∀ column ∈ deeper, indent < column)
    (hbase : ∀ column ∈ base.head?, column ≤ indent) {place? : Option KeyPlace} :
    (unwind (indent < ·)).run ⟨cursor, deeper ++ base, place?, [], allowed, count, tokens⟩ =
      .ok ((), ⟨cursor, base, place?, [], allowed, count + deeper.length,
        List.replicate deeper.length .blockEnd ++ tokens⟩) := by
  have htake : (deeper ++ base).takeWhile (indent < ·) = deeper := by
    rw [List.takeWhile_append_of_pos (by simpa using hdeeper)]
    cases base with
    | nil => simp
    | cons column base => simp [Nat.not_lt.2 (hbase column rfl)]
  have hdrop : (deeper ++ base).dropWhile (indent < ·) = base := by
    rw [List.dropWhile_append_of_pos (by simpa using hdeeper)]
    cases base with
    | nil => rfl
    | cons column base => simp [Nat.not_lt.2 (hbase column rfl)]
  rw [run_unwind _ rfl, closed, htake, hdrop]

/-- A token is put in by `insert` behind the tokens that were there at a place. -/
theorem run_insert {token : Token} {s : LexState} {front back : List Token} {before : Nat}
    (hcount : s.count = before + front.length) (htokens : s.tokens = front ++ back) :
    (insert before token).run s =
      .ok ((), { s with tokens := front ++ token :: back, count := s.count + 1 }) := by
  obtain ⟨cursor, indents, place?, outer, allowed, count, tokens⟩ := s
  dsimp only at hcount htokens
  subst hcount htokens
  have hafter : before + front.length - before = front.length := by omega
  change Except.ok _ = _
  simp [hafter]

/-- A key is read by `plain` up to its colon. -/
theorem run_plain_key (hkey : IsWord key) (hblank : atBlank rest = true) :
    plain.run ⟨⟨key ++ ':' :: rest, index, line, column⟩, indents, none, [], true, count, tokens⟩ =
      .ok ((), ⟨⟨':' :: rest, index + key.length, line, column + key.length⟩, indents,
        some ⟨count, indents.head? == some column, index, line, column⟩, [], false, count + 1,
        .scalar (String.ofList key) true :: tokens⟩) := by
  have hrun : plainRun false (':' :: rest) = ([], ':' :: rest) := by
    simp [plainRun, endsRun, hblank]
  have hscalar : plainScalar false ((indents.head?.map (· + 1)).getD 0)
      ((key ++ ':' :: rest).length + 1) (key ++ ':' :: rest) = some ⟨key, ':' :: rest, false⟩ :=
    plainScalar_of_words (.word hkey) hrun (fun _ => rfl) rfl
      (by simp only [List.length_append, List.length_cons]; omega)
  have hmove := @Cursor.moveTo_append key (':' :: rest) index line column fun c hc => by
    have hc := hkey.visible c hc
    refine ⟨(isBreak_of_isPrintable hc.1 hc.2).1, ?_⟩
    rintro rfl
    exact absurd hc.1 (by decide)
  rw [run_plain hscalar, hmove]
  rfl

/-- A colon behind a key makes it one by `valueIndicator`, and opens a mapping if none is open in
its column. -/
theorem exists_run_valueIndicator {base : List Nat} {place : KeyPlace} {scalar : Token}
    (hplace : place.tokens = count ∧ place.column = indent)
    (hbase : ∀ column ∈ base.head?, column ≤ indent) :
    ∃ count', valueIndicator.run ⟨⟨':' :: rest, index, line, column⟩, base, some place, [], false,
        count + 1, scalar :: tokens⟩ =
      .ok ((), ⟨⟨rest, index + 1, line, column + 1⟩,
        if base.head? = some indent then base else indent :: base, none, [], false, count',
        .value :: scalar :: .key ::
          ((if base.head? = some indent then [] else [.blockMappingStart]) ++ tokens)⟩) := by
  obtain ⟨rfl, rfl⟩ := hplace
  have hkey := @run_insert .key ⟨⟨':' :: rest, index, line, column⟩, base, none, [], false,
    place.tokens + 1, scalar :: tokens⟩ [scalar] tokens place.tokens rfl rfl
  rw [valueIndicator, run_get_bind, run_bind_of_run (rfl : inFlow.run _ = .ok (false, _))]
  dsimp only
  rw [run_bind_of_run (rfl : (set _ : Lex Unit).run _ = .ok (_, _)), run_bind_of_run hkey]
  simp only [Bool.not_false, if_true]
  -- a mapping is open in this column from its second key on
  by_cases hopen : base.head? = some place.column
  · obtain ⟨base, rfl⟩ := List.head?_eq_some_iff.1 hopen
    rw [run_bind_of_run (run_indentTo_self _ rfl), if_pos hopen, if_pos hopen]
    exact ⟨_, rfl⟩
  · have hdeeper : ∀ column ∈ base.head?, column < place.column := fun column hcolumn =>
      lt_of_le_of_ne (hbase column hcolumn) fun heq => hopen (heq ▸ hcolumn)
    have hstart := @run_insert .blockMappingStart ⟨⟨':' :: rest, index, line, column⟩,
      place.column :: base, none, [], false, place.tokens + 2, scalar :: .key :: tokens⟩
      [scalar, .key] tokens place.tokens rfl rfl
    rw [run_bind_of_run (run_indentTo_of_lt _ hdeeper), if_neg hopen, if_neg hopen]
    dsimp only
    rw [if_pos rfl]
    exact ⟨_, run_bind_of_run hstart⟩

/-- A colon before a blank is read by `token` as the one before a value. -/
theorem run_token_colon (hblank : atBlank rest = true) (place? : Option KeyPlace) :
    (token ':' rest).run ⟨cursor, indents, place?, [], allowed, count, tokens⟩ =
      valueIndicator.run ⟨cursor, indents, place?, [], allowed, count, tokens⟩ := by
  have hdirective : (cursor.column == 0 && ':' == '%') = false := Bool.and_false _
  have hdocument : (cursor.column == 0 && atDocumentMark (':' :: rest)) = false := Bool.and_false _
  rw [token, run_bind_of_run (rfl : inFlow.run _ = .ok (false, _)), run_get_bind]
  dsimp only
  rw [hdirective, hdocument, hblank]
  rfl

/-- The colon behind a key is read, as long as the place of the key is not `isStale`. -/
theorem exists_run_colon {base : List Nat} {place : KeyPlace} {scalar : Token}
    (hplace : place.tokens = count ∧ place.column = indent)
    (hfresh : isStale ⟨':' :: rest, index, line, column⟩ place = false) (hblank : atBlank rest = true)
    (hbase : ∀ column ∈ base.head?, column ≤ indent) (hcolumn : indent ≤ column) :
    ∃ count', Run ⟨⟨':' :: rest, index, line, column⟩, base, some place, [], false, count + 1,
        scalar :: tokens⟩
      ⟨⟨rest, index + 1, line, column + 1⟩, if base.head? = some indent then base else indent :: base,
        none, [], false, count', .value :: scalar :: .key ::
          ((if base.head? = some indent then [] else [.blockMappingStart]) ++ tokens)⟩ := by
  have hgo : goToToken.run ⟨⟨':' :: rest, index, line, column⟩, base, some place, [], false, count + 1,
      scalar :: tokens⟩ = .ok ((), ⟨⟨':' :: rest, index, line, column⟩, base, some place, [], false,
        count + 1, scalar :: tokens⟩) :=
    run_goToToken_spaces (show StartsToken (':' :: rest) from ⟨nofun, nofun, rfl⟩) 0
  have hways : (goToToken >>= fun _ => dropStaleKeys).run ⟨⟨':' :: rest, index, line, column⟩, base,
      some place, [], false, count + 1, scalar :: tokens⟩ = _ :=
    (run_bind_of_run hgo).trans (run_dropStaleKeys_of_fresh hfresh)
  have hunwind : (unwind (column < ·)).run ⟨⟨':' :: rest, index, line, column⟩, base, some place, [],
      false, count + 1, scalar :: tokens⟩ = _ :=
    run_unwind_of_head? rfl fun open_ hopen => by
      have := hbase open_ hopen
      simp
      omega
  obtain ⟨count', hvalue⟩ := exists_run_valueIndicator hplace hbase
  exact ⟨count', .step (run_step_of_ways hways rfl hunwind ((run_token_colon hblank _).trans hvalue))
    (Nat.lt_succ_self _) (.refl _)⟩

/-- **A key and its colon** are read: a `Run` from `AtLine` to what follows them, given what they
leave open and put in. -/
theorem exists_run_key {s : LexState} {base : List Nat}
    (h : AtLine s indent (key ++ ':' :: rest) (deeper ++ base) tokens) (hkey : IsWord key)
    (hstart : StartsWord (key ++ ':' :: rest)) (hmark : atDocumentMark (key ++ ':' :: rest) = false)
    (hreach : key.length ≤ keyReach) (hblank : atBlank rest = true)
    (hdeeper : ∀ column ∈ deeper, indent < column) (hbase : ∀ column ∈ base.head?, column ≤ indent) :
    ∃ index line column count, indent ≤ column ∧
      Run s ⟨⟨rest, index, line, column⟩, if base.head? = some indent then base else indent :: base,
        none, [], false, count, .value :: .scalar (String.ofList key) true :: .key ::
          ((if base.head? = some indent then [] else [.blockMappingStart]) ++
            (List.replicate deeper.length .blockEnd ++ tokens))⟩ := by
  obtain ⟨hlength, index, line, hways⟩ := h
  obtain ⟨c, more, hmore⟩ := List.exists_cons_of_ne_nil (show key ++ ':' :: rest ≠ [] by simp)
  have hplain := @run_plain_key rest base index line indent (s.count + deeper.length)
    (List.replicate deeper.length .blockEnd ++ tokens) key hkey hblank
  have hlonger := congrArg List.length hmore
  have hpos := List.length_pos_iff.2 hkey.ne_nil
  rw [hmore] at hstart hmark hlength
  have hfirst := run_step_of_ways hways hmore (run_unwind_append hdeeper hbase)
    ((run_token_of_startsWord hstart fun _ => hmark).trans hplain)
  -- the colon is met before the place of the key gets stale
  obtain ⟨count, hcolon⟩ := @exists_run_colon rest (index + key.length) line (indent + key.length)
    (s.count + deeper.length) _ indent base ⟨s.count + deeper.length, base.head? == some indent, index,
      line, indent⟩ _ ⟨rfl, rfl⟩ (by simp [isStale, hreach]) hblank hbase (by omega)
  refine ⟨_, _, indent + key.length + 1, count, by omega, .step hfirst ?_ hcolon⟩
  simp only [List.length_append, List.length_cons] at hlonger hlength ⊢
  omega

end Keys

end Indicators

end Lex

end TreeSift.Yaml
