import TreeSift.Proofs.Yaml.Quoting

/-! # Texts between double quotes

Between double quotes every text is written as it is read there (`quotes_writeDouble`): characters
that could be mistaken have escapes, and line breaks are hidden behind backslashes. -/

namespace TreeSift.Yaml

open TreeSift.Text (isHexDigit digitsValue hexDigits)

variable {written text rest : List Char} {c : Char} {indent column : Nat} {fold first : Bool}

/-! ## Escapes -/

/-- A code point is written with digits that are read back: `codeEscapeOf` stands for it between
double quotes. -/
theorem quotes_codeEscapeOf (c : Char) (h : Quotes true written text) :
    Quotes true (codeEscapeOf c.toNat ++ written) (c :: text) := by
  have hbound : c.toNat < 0x110000 := by
    have := c.valid
    rcases this with h | h
    · exact Nat.lt_trans h (by decide)
    · exact h.2
  have hcode : ∀ letter width, isPrintable letter = true → namedEscape? letter = none →
      codeWidth? letter = some width → 0 < width → c.toNat < 16 ^ width →
      Quotes true ('\\' :: letter :: upperHex width c.toNat ++ written) (c :: text) := by
    intro letter width hletter hname hwidth hpos hlt
    have hdigits : ∀ d ∈ hexDigits width c.toNat, isHexDigit d = true := fun d hd =>
      Text.isHexDigit_of_mem_hexDigits hd
    refine .code hletter hname hwidth ?_ ?_ ?_ h
    · rw [upperHex, List.length_map, Text.length_hexDigits hpos hlt]
    · intro d hd
      obtain ⟨e, he, rfl⟩ := List.mem_map.1 hd
      exact (Text.isHexDigit_toUpper (hdigits e he)).1
    · rw [upperHex, Text.digitsValue_map_toUpper hdigits, Text.digitsValue_hexDigits]
  unfold codeEscapeOf
  split_ifs with hbyte hword
  · exact hcode 'x' 2 rfl rfl rfl (by omega) (by omega)
  · exact hcode 'u' 4 rfl rfl rfl (by omega) (by omega)
  · exact hcode 'U' 8 rfl rfl rfl (by omega) (by omega)

/-- The letter that `namedEscapeOf?` gives for a character is printable and gives the character back
by `namedEscape?`. -/
theorem namedEscape?_namedEscapeOf? {d : Char} (h : namedEscapeOf? c = some d) :
    isPrintable d = true ∧ namedEscape? d = some c := by
  unfold namedEscapeOf? at h
  split at h <;> first | (cases h; exact ⟨rfl, rfl⟩) | cases h

/-- An escape of `doubleEscape?` stands for its character. -/
theorem quotes_doubleEscape? {escape : List Char} (hescape : doubleEscape? c = some escape)
    (h : Quotes true written text) : Quotes true (escape ++ written) (c :: text) := by
  unfold doubleEscape? at hescape
  split at hescape
  · next d hname =>
    cases hescape
    obtain ⟨hd, hback⟩ := namedEscape?_namedEscapeOf? hname
    exact .named hd hback h
  · split at hescape
    · cases hescape
    · cases hescape
      exact quotes_codeEscapeOf c h

/-- A character without an escape stands for itself, and is no quote and no backslash: `standsQuoted
true` accepts it. -/
theorem standsQuoted_of_doubleEscape? (h : doubleEscape? c = none) (hspace : c ≠ ' ') :
    standsQuoted true c = true := by
  have hquote : c ≠ '"' := by
    rintro rfl
    cases h
  have hslash : c ≠ '\\' := by
    rintro rfl
    cases h
  have hprint : isPrintable c = true := by
    unfold doubleEscape? at h
    split at h
    · cases h
    · simpa using h
  simp [standsQuoted, quoteMark, hprint, hspace, hquote, hslash]

/-! ## Folding -/

/-- What is written between double quotes does not start with a line break: `atLineEnd` fails there.
-/
theorem Quotes.atLineEnd_double (h : Quotes true written text) :
    atLineEnd (written ++ [quoteMark true]) = false := by
  cases h with
  | char hc => exact (isBreak_of_standsQuoted hc).1
  | nil | space | named | code | hidden => rfl

/-- What is written between double quotes starts with a space only if the text does. -/
theorem Quotes.atBlank_double (h : Quotes true written text) (hspace : text.head? ≠ some ' ') :
    atBlank (written ++ [quoteMark true]) = false := by
  cases h with
  | char hc =>
      have hc := isBreak_of_standsQuoted hc
      exact Bool.or_eq_false_iff.2 hc
  | space => exact absurd rfl hspace
  | nil | named | code | hidden => rfl

/-- A character without an escape is written as it is: `Quotes true` is kept by `cons`. -/
theorem Quotes.cons_double (hc : doubleEscape? c = none) (h : Quotes true written text) :
    Quotes true (c :: written) (c :: text) := by
  by_cases hspace : c = ' '
  · subst hspace
    exact .space h.atLineEnd_double h
  · exact .char (standsQuoted_of_doubleEscape? hc hspace) h

/-- A `hiddenBreak` may be put in front of a text. A space that the text starts with is written
behind a backslash. -/
theorem Quotes.hiddenBreak (hindent : 0 < indent) (h : Quotes true written text)
    (hhead : text.head? = some ' ' → written.head? = some ' ') :
    Quotes true (hiddenBreak indent text.head? ++ written) text := by
  by_cases hspace : text.head? = some ' '
  · obtain ⟨written, rfl⟩ := List.head?_eq_some_iff.1 (hhead hspace)
    cases h with
    | char hc => cases hc
    | space hend h =>
        have hnamed : Quotes true ('\\' :: ' ' :: written) (' ' :: _) := .named rfl rfl h
        simpa [Yaml.hiddenBreak, newLine] using Quotes.hidden hindent rfl hnamed
  · simpa [Yaml.hiddenBreak, newLine, hspace] using
      Quotes.hidden hindent (h.atBlank_double hspace) h

/-- What is `pending` is written first by `writeDouble`. -/
theorem exists_writeDouble_eq_append (cs : List Char) (pending : List Char) :
    ∃ written, writeDouble fold indent first column pending cs = pending.reverse ++ written := by
  induction cs generalizing first column pending with
  | nil => exact ⟨[], by simp [writeDouble]⟩
  | cons c cs ih =>
      unfold writeDouble
      split
      · dsimp only
        split <;> simp only [List.append_assoc] <;> exact ⟨_, rfl⟩
      · dsimp only
        split
        · simp only [List.append_assoc]
          exact ⟨_, rfl⟩
        · obtain ⟨written, hwritten⟩ := @ih column false (c :: pending)
          exact ⟨c :: written, by rw [hwritten]; simp⟩

/-- A space in the first columns of a line is written there by `writeDouble`, and not put on the
next one. -/
theorem head?_writeDouble (hcolumn : column ≤ lineWidth) (hspace : text.head? = some ' ') :
    (writeDouble fold indent first column [] text).head? = some ' ' := by
  obtain ⟨text, rfl⟩ := List.head?_eq_some_iff.1 hspace
  obtain ⟨written, hwritten⟩ :=
    @exists_writeDouble_eq_append indent column fold false text [' ']
  have hescape : doubleEscape? ' ' = none := rfl
  rw [writeDouble, hescape]
  simp [Nat.not_lt.2 hcolumn, hwritten]

/-- **A text is written between double quotes as it is read there**: `writeDouble` gives what is
`Quotes true` for it. -/
theorem quotes_writeDouble (hindent : 0 < indent) (hwidth : indent < lineWidth) (text : List Char)
    (pending : List Char) :
    ∃ written, writeDouble fold indent first column pending text = pending.reverse ++ written ∧
      Quotes true written text := by
  -- on the text: pending characters are written when the next break or escape comes
  induction text generalizing first column pending with
  | nil => exact ⟨[], by simp [writeDouble], .nil⟩
  | cons c text ih =>
      have hcolumn : ∀ next?, columnAfterBreak indent next? ≤ lineWidth := fun next? => by
        rw [columnAfterBreak]
        split <;> omega
      unfold writeDouble
      cases hescape : doubleEscape? c with
      | some escape =>
          dsimp only
          split
          · obtain ⟨written, hwritten, h⟩ :=
              @ih (columnAfterBreak indent text.head?) false []
            refine ⟨escape ++ (hiddenBreak indent text.head? ++ written), by simp [hwritten],
              quotes_doubleEscape? hescape (h.hiddenBreak hindent fun hspace => ?_)⟩
            rw [List.reverse_nil, List.nil_append] at hwritten
            rw [← hwritten]
            exact head?_writeDouble (hcolumn _) hspace
          · obtain ⟨written, hwritten, h⟩ :=
              @ih (column + (pending.reverse ++ escape).length) false []
            refine ⟨escape ++ written, ?_, quotes_doubleEscape? hescape h⟩
            rw [hwritten, List.append_assoc]
            rfl
      | none =>
          dsimp only
          split
          · obtain ⟨written, hwritten, h⟩ := @ih (columnAfterBreak indent (some c)) false [c]
            exact ⟨hiddenBreak indent (some c) ++ (c :: written), by simp [hwritten],
              (h.cons_double hescape).hiddenBreak hindent fun hspace => hspace⟩
          · obtain ⟨written, hwritten, h⟩ := @ih column false (c :: pending)
            exact ⟨c :: written, by simp [hwritten], h.cons_double hescape⟩

end TreeSift.Yaml
