import TreeSift.Proofs.Yaml.Chars
import TreeSift.Yaml.Scalar

/-! # Texts between quotes

`Quotes` tells which texts are written between quotes as what: characters as they are, line breaks
that fold, and escapes. What it allows is read as the text that it stands for
(`quotedScalar_of_quotes`). -/

namespace TreeSift.Yaml

open TreeSift.Text (isHexDigit isPlainChar digitsValue)

/-! ## What is written between quotes -/

/-- The character that ends a scalar between quotes: `"` if they are `double`, and `'` if not. -/
def quoteMark (double : Bool) : Char :=
  if double then '"' else '\''

/-- A character is written between quotes as it is: it is printable, no space, no `quoteMark`, and
between double quotes no backslash. -/
def standsQuoted (double : Bool) (c : Char) : Bool :=
  isPrintable c && c != ' ' && c != quoteMark double && !(double && c == '\\')

/-- **What is written between quotes, and the text that it stands for**, with a constructor for each
kind of piece. Line breaks must not have spaces beside them that belong to the text. -/
inductive Quotes : Bool → List Char → List Char → Prop where
  /-- Nothing. -/
  | nil {double : Bool} : Quotes double [] []
  /-- A character as it is. -/
  | char {double : Bool} {c : Char} {written text : List Char} (hc : standsQuoted double c = true)
    (h : Quotes double written text) : Quotes double (c :: written) (c :: text)
  /-- A space, unless a line ends behind it. -/
  | space {double : Bool} {written text : List Char}
    (hend : atLineEnd (written ++ [quoteMark double]) = false) (h : Quotes double written text) :
    Quotes double (' ' :: written) (' ' :: text)
  /-- A single quote between single quotes. -/
  | mark {written text : List Char} (h : Quotes false written text) :
    Quotes false ('\'' :: '\'' :: written) ('\'' :: text)
  /-- Line breaks between single quotes: a single one is a space. -/
  | breaks {written text : List Char} (count : Nat) {indent : Nat} (hindent : 0 < indent)
    (hblank : atBlank (written ++ [quoteMark false]) = false) (h : Quotes false written text) :
    Quotes false ('\n' :: List.replicate count '\n' ++ spaces indent ++ written)
      (foldBreaks '\n' (List.replicate count '\n') ++ text)
  /-- A character between double quotes that has a name. -/
  | named {c d : Char} {written text : List Char} (hd : isPrintable d = true)
    (hname : namedEscape? d = some c) (h : Quotes true written text) :
    Quotes true ('\\' :: d :: written) (c :: text)
  /-- A character between double quotes by its code point. -/
  | code {c letter : Char} {width : Nat} {digits written text : List Char}
    (hletter : isPrintable letter = true) (hname : namedEscape? letter = none)
    (hwidth : codeWidth? letter = some width) (hlength : digits.length = width)
    (hdigits : ∀ d ∈ digits, isHexDigit d = true) (hvalue : digitsValue 16 digits = c.toNat)
    (h : Quotes true written text) :
    Quotes true ('\\' :: letter :: digits ++ written) (c :: text)
  /-- A line break between double quotes that stands for nothing. -/
  | hidden {indent : Nat} {written text : List Char} (hindent : 0 < indent)
    (hblank : atBlank (written ++ [quoteMark true]) = false) (h : Quotes true written text) :
    Quotes true ('\\' :: '\n' :: spaces indent ++ written) text

variable {double : Bool} {written text rest : List Char} {c : Char}

/-- What `standsQuoted` accepts is no gap and ends no line. -/
theorem isBreak_of_standsQuoted (h : standsQuoted double c = true) :
    isBreak c = false ∧ isGap c = false := by
  have hprint : isPrintable c = true ∧ c ≠ ' ' := by simp_all [standsQuoted]
  exact isBreak_of_isPrintable hprint.1 hprint.2

/-- What `Quotes` a text satisfies `isPlainChar`. -/
theorem Quotes.all_isPlainChar (h : Quotes double written text) :
    written.all isPlainChar = true := by
  have hquote : isPlainChar '\'' = true ∧ isPlainChar ' ' = true ∧ isPlainChar '\\' = true ∧
      isPlainChar '\n' = true := by decide
  induction h with
  | nil => rfl
  | @char _ c _ _ hc _ ih =>
      have hc : isPrintable c = true := by simp_all [standsQuoted]
      simp only [List.all_cons, isPlainChar_of_isPrintable hc, ih, Bool.and_true]
  | space _ _ ih | mark _ ih => simp only [List.all_cons, hquote, ih, Bool.and_true]
  | breaks count _ _ _ ih =>
      simp only [List.all_append, List.all_cons, List.all_replicate, hquote, all_isPlainChar_spaces,
        ih, Bool.and_true, ite_self]
  | named hd _ _ ih =>
      simp only [List.all_cons, hquote, isPlainChar_of_isPrintable hd, ih, Bool.and_true]
  | @code _ _ _ digits _ _ hletter _ _ _ hdigits _ _ ih =>
      have hall : digits.all isPlainChar = true :=
        List.all_eq_true.2 fun d hd => Text.isPlainChar_of_isHexDigit (hdigits d hd)
      simp only [List.all_append, List.all_cons, hquote, isPlainChar_of_isPrintable hletter, hall, ih,
        Bool.and_true]
  | hidden _ _ _ ih =>
      simp only [List.all_append, List.all_cons, hquote, all_isPlainChar_spaces, ih, Bool.and_true]

/-! ## Reading -/

/-- The line breaks of empty lines are read by `emptyLines`, and the indentation behind them is left
out. -/
theorem emptyLines_eq_ok {count indent fuel : Nat} (hindent : 0 < indent)
    (hblank : atBlank text = false) (hfuel : count < fuel) :
    emptyLines fuel (List.replicate count '\n' ++ spaces indent ++ text) =
      .ok (List.replicate count '\n', text) := by
  induction count generalizing fuel with
  | zero =>
      obtain ⟨fuel, rfl⟩ := Nat.exists_eq_succ_of_ne_zero hfuel.ne'
      obtain ⟨indent, rfl⟩ := Nat.exists_eq_succ_of_ne_zero hindent.ne'
      have hmark : atDocumentMark (spaces (indent + 1) ++ text) = false := rfl
      rw [List.replicate_zero, List.nil_append, emptyLines, hmark]
      simp only [Bool.false_eq_true, if_false, dropWhile_isGap_spaces _ hblank,
        takeBreak?_eq_none (atLineEnd_of_atBlank hblank)]
  | succ count ih =>
      obtain ⟨fuel, rfl⟩ := Nat.exists_eq_succ_of_ne_zero (Nat.ne_zero_of_lt hfuel)
      have hread := ih (Nat.lt_of_succ_lt_succ hfuel)
      rw [List.replicate_succ, List.cons_append, List.cons_append, emptyLines]
      change (emptyLines fuel _).map _ = _
      rw [hread]
      rfl

/-- Behind the gaps in what `Quotes` a text, no line ends, unless one ends before them. -/
theorem Quotes.atLineEnd_dropWhile (h : Quotes double written text)
    (hend : atLineEnd (written ++ [quoteMark double]) = false) (rest : List Char) :
    atLineEnd ((written ++ quoteMark double :: rest).dropWhile isGap) = false := by
  induction h with
  | @nil double => cases double <;> rfl
  | char hc _ _ =>
      have hc := isBreak_of_standsQuoted hc
      rw [List.cons_append, List.dropWhile_cons_of_neg (by simp [hc.2])]
      exact hc.1
  | space hbehind _ ih => exact ih hbehind
  | mark | named | code | hidden => rfl
  | breaks => cases hend

section Steps

variable {fuel : Nat} {piece : List Char}

/-- A character that stands for itself is read by `quotedScalar`. -/
theorem quotedScalar_char (hc : standsQuoted double c = true)
    (hread : quotedScalar double fuel written = .ok (text, rest)) :
    quotedScalar double (fuel + 1) (c :: written) = .ok (c :: text, rest) := by
  have hblank := isBreak_of_standsQuoted hc
  simp only [standsQuoted, quoteMark, Bool.and_eq_true, bne_iff_ne, Bool.not_eq_true',
    Bool.and_eq_false_iff] at hc
  unfold quotedScalar
  cases double <;> simp_all [Except.map]

/-- Gaps and line breaks are read together: `quotedScalar` goes on behind `quotedGap`. -/
theorem quotedScalar_gap (hblank : isGap c = true ∨ isBreak c = true) {left : List Char}
    (hgap : quotedGap fuel (c :: written) = .ok (piece, left)) :
    quotedScalar double (fuel + 1) (c :: written) =
      (quotedScalar double fuel left).map fun (cs, left) => (piece ++ cs, left) := by
  conv_lhs => unfold quotedScalar
  simp [hblank, hgap]

/-- The closing quote ends the scalar for `quotedScalar`. Behind a single one there must not be
another one. -/
theorem quotedScalar_close (hrest : rest.head? ≠ some '\'') :
    quotedScalar double (fuel + 1) (quoteMark double :: rest) = .ok ([], rest) := by
  unfold quotedScalar
  cases double with
  | true => rfl
  | false =>
      cases rest with
      | nil => rfl
      | cons d rest =>
          have hd : d ≠ '\'' := fun hd => hrest (congrArg some hd)
          simp [quoteMark, isGap, isBreak, hd]

/-- Two single quotes between single quotes are read by `quotedScalar` as one. -/
theorem quotedScalar_mark (hread : quotedScalar false fuel written = .ok (text, rest)) :
    quotedScalar false (fuel + 1) ('\'' :: '\'' :: written) = .ok ('\'' :: text, rest) := by
  unfold quotedScalar
  simp [isGap, isBreak, hread, Except.map]

/-- A backslash and what follows it are read together: `quotedScalar` goes on behind `quotedEscape`.
-/
theorem quotedScalar_escape {left : List Char}
    (hescape : quotedEscape fuel written = .ok (piece, left))
    (hread : quotedScalar true fuel left = .ok (text, rest)) :
    quotedScalar true (fuel + 1) ('\\' :: written) = .ok (piece ++ text, rest) := by
  unfold quotedScalar
  simp [isGap, isBreak, hescape, hread, Except.map]

/-- Gaps that no line ends behind stand for themselves: `quotedGap` keeps them. -/
theorem quotedGap_of_isGap (hc : isGap c = true)
    (hend : atLineEnd (written.dropWhile isGap) = false) :
    quotedGap fuel (c :: written) =
      .ok (c :: written.takeWhile isGap, written.dropWhile isGap) := by
  rw [quotedGap]
  simp only [List.takeWhile_cons_of_pos hc, List.dropWhile_cons_of_pos hc]
  cases hleft : written.dropWhile isGap with
  | nil =>
      rw [hleft] at hend
      cases hend
  | cons d left =>
      rw [hleft] at hend
      rw [takeBreak?_eq_none hend]

/-- Line breaks fold in `quotedGap`, and the indentation behind them is left out. -/
theorem quotedGap_of_breaks {count indent : Nat} (hindent : 0 < indent)
    (hblank : atBlank written = false) (hfuel : count < fuel) :
    quotedGap fuel ('\n' :: (List.replicate count '\n' ++ spaces indent ++ written)) =
      .ok (foldBreaks '\n' (List.replicate count '\n'), written) := by
  change (emptyLines fuel _).map _ = _
  rw [emptyLines_eq_ok hindent hblank hfuel]
  rfl

/-- A gap in front of what has been read is read with it: `quotedScalar` takes one character more.
-/
theorem quotedScalar_cons_gap (hc : isGap c = true)
    (hend : atLineEnd (written.dropWhile isGap) = false)
    (hread : ∀ fuel' ∈ [fuel, fuel + 1], quotedScalar double fuel' written = .ok (text, rest)) :
    quotedScalar double (fuel + 1) (c :: written) = .ok (c :: text, rest) := by
  rw [quotedScalar_gap (.inl hc) (quotedGap_of_isGap hc hend)]
  cases written with
  | nil => cases hend
  | cons d written =>
      cases hd : isGap d with
      | false =>
          rw [List.takeWhile_cons_of_neg (by simp [hd]), List.dropWhile_cons_of_neg (by simp [hd]),
            hread fuel (by simp)]
          rfl
      | true =>
          -- the gap goes on, and is read in one step with either start
          rw [List.dropWhile_cons_of_pos hd] at hend
          have hmore := hread (fuel + 1) (by simp)
          rw [quotedScalar_gap (.inl hd) (quotedGap_of_isGap hd hend)] at hmore
          rw [List.takeWhile_cons_of_pos hd, List.dropWhile_cons_of_pos hd]
          cases hleft : quotedScalar double fuel (written.dropWhile isGap) with
          | error refusal =>
              rw [hleft] at hmore
              cases hmore
          | ok answer =>
              rw [hleft] at hmore
              cases hmore
              rfl

end Steps

/-- The digits of a code point give its character, by `codeEscape`. -/
theorem codeEscape_eq_ok {width : Nat} {digits : List Char} (hlength : digits.length = width)
    (hdigits : ∀ d ∈ digits, isHexDigit d = true) (hvalue : digitsValue 16 digits = c.toNat) :
    codeEscape width (digits ++ rest) = .ok ([c], rest) := by
  subst hlength
  have htake : (digits ++ rest).take digits.length = digits := List.take_left
  have hall : digits.all isHexDigit = true := List.all_eq_true.2 hdigits
  have hvalid : c.toNat < 0xd800 ∨ 0xdfff < c.toNat ∧ c.toNat < 0x110000 := c.valid
  rw [codeEscape]
  simp only [htake, hvalue, hall, List.drop_left, Char.ofNat_toNat]
  rw [if_neg (by simp), if_neg (by omega), if_neg (by simp; omega)]

/-- The name of a character gives it, by `quotedEscape` and `namedEscape?`. -/
theorem quotedEscape_named {d : Char} {fuel : Nat} (hname : namedEscape? d = some c) :
    quotedEscape fuel (d :: rest) = .ok ([c], rest) := by
  rw [quotedEscape, hname]

/-- A letter that is no name and the digits behind it give a character by its code point:
`quotedEscape` and `codeWidth?`. -/
theorem quotedEscape_code {letter : Char} {width fuel : Nat} {digits : List Char}
    (hname : namedEscape? letter = none) (hwidth : codeWidth? letter = some width)
    (hlength : digits.length = width) (hdigits : ∀ d ∈ digits, isHexDigit d = true)
    (hvalue : digitsValue 16 digits = c.toNat) :
    quotedEscape fuel (letter :: (digits ++ rest)) = .ok ([c], rest) := by
  rw [quotedEscape, hname, hwidth]
  exact codeEscape_eq_ok hlength hdigits hvalue

/-- A line break behind a backslash stands for nothing, with the indentation behind it:
`quotedEscape` gives no character. -/
theorem quotedEscape_hidden {indent fuel : Nat} (hindent : 0 < indent)
    (hblank : atBlank rest = false) (hfuel : 0 < fuel) :
    quotedEscape fuel ('\n' :: (spaces indent ++ rest)) = .ok ([], rest) :=
  emptyLines_eq_ok hindent hblank hfuel

/-- **What is written between quotes is read as the text that it stands for**, up to the closing
quote: `quotedScalar` undoes `Quotes`. -/
theorem quotedScalar_of_quotes (h : Quotes double written text) {fuel : Nat}
    (hfuel : written.length < fuel) (hrest : rest.head? ≠ some '\'') :
    quotedScalar double fuel (written ++ quoteMark double :: rest) = .ok (text, rest) := by
  induction h generalizing fuel with
  | nil =>
      obtain ⟨fuel, rfl⟩ := Nat.exists_eq_succ_of_ne_zero (Nat.ne_zero_of_lt hfuel)
      exact quotedScalar_close hrest
  | char hc _ ih =>
      obtain ⟨fuel, rfl⟩ := Nat.exists_eq_succ_of_ne_zero (Nat.ne_zero_of_lt hfuel)
      exact quotedScalar_char hc (ih (Nat.lt_of_succ_lt_succ hfuel))
  | space hend h ih =>
      obtain ⟨fuel, rfl⟩ := Nat.exists_eq_succ_of_ne_zero (Nat.ne_zero_of_lt hfuel)
      rw [List.length_cons] at hfuel
      refine quotedScalar_cons_gap rfl (h.atLineEnd_dropWhile hend rest) fun fuel' hfuel' => ih ?_
      simp only [List.mem_cons, List.not_mem_nil, or_false] at hfuel'
      omega
  | mark _ ih =>
      obtain ⟨fuel, rfl⟩ := Nat.exists_eq_succ_of_ne_zero (Nat.ne_zero_of_lt hfuel)
      rw [List.length_cons, List.length_cons] at hfuel
      exact quotedScalar_mark (ih (by omega))
  | @breaks written text count indent hindent hblank _ ih =>
      obtain ⟨fuel, rfl⟩ := Nat.exists_eq_succ_of_ne_zero (Nat.ne_zero_of_lt hfuel)
      simp only [List.length_append, List.length_cons, List.length_replicate, spaces] at hfuel
      rw [← atBlank_append_cons written (quoteMark false) rest] at hblank
      have hgap := quotedGap_of_breaks hindent hblank (show count < fuel by omega)
      have hread := @quotedScalar_gap false _ _ _ _ (.inr rfl) _ hgap
      rw [ih (show _ < fuel by omega)] at hread
      simpa [Except.map] using hread
  | named _ hname _ ih =>
      obtain ⟨fuel, rfl⟩ := Nat.exists_eq_succ_of_ne_zero (Nat.ne_zero_of_lt hfuel)
      rw [List.length_cons, List.length_cons] at hfuel
      exact quotedScalar_escape (quotedEscape_named hname) (ih (by omega))
  | code _ hname hwidth hlength hdigits hvalue _ ih =>
      obtain ⟨fuel, rfl⟩ := Nat.exists_eq_succ_of_ne_zero (Nat.ne_zero_of_lt hfuel)
      simp only [List.length_append, List.length_cons] at hfuel
      have hread := ih (show _ < fuel by omega)
      simpa using
        quotedScalar_escape (quotedEscape_code hname hwidth hlength hdigits hvalue) hread
  | hidden hindent hblank _ ih =>
      obtain ⟨fuel, rfl⟩ := Nat.exists_eq_succ_of_ne_zero (Nat.ne_zero_of_lt hfuel)
      simp only [List.length_append, List.length_cons, spaces] at hfuel
      rw [← atBlank_append_cons _ (quoteMark true) rest] at hblank
      have hescape := quotedEscape_hidden hindent hblank (show 0 < fuel by omega)
      simpa using quotedScalar_escape hescape (ih (show _ < fuel by omega))

end TreeSift.Yaml
