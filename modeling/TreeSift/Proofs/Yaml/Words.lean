import TreeSift.Proofs.Yaml.Chars
import TreeSift.Yaml.Scalar

/-! # Plain texts

`Words` tells which plain scalars stand for which texts: words with spaces or line breaks between
them. They are read as the texts that they stand for (`plainScalar_of_words`). -/

namespace TreeSift.Yaml

open TreeSift.Text (isPlainChar)

/-- **A word of a plain scalar**: visible characters, the first of them no `#` and the last no `:`.
-/
structure IsWord (word : List Char) : Prop where
  /-- It has characters. -/
  ne_nil : word ≠ []
  /-- They are printable, and none is a space. -/
  visible : ∀ c ∈ word, isPrintable c = true ∧ c ≠ ' '
  /-- It does not start a comment. -/
  head_ne : word.head? ≠ some '#'
  /-- Its end does not make it a key. -/
  last_ne : word.getLast? ≠ some ':'

/-- Whether a word satisfies `IsWord` can be checked. -/
instance (word : List Char) : Decidable (IsWord word) :=
  decidable_of_iff (word ≠ [] ∧ (word.all fun c => isPrintable c && c != ' ') = true ∧
      word.head? ≠ some '#' ∧ word.getLast? ≠ some ':')
    ⟨fun ⟨hne, hvisible, hhead, hlast⟩ => ⟨hne, by simpa using hvisible, hhead, hlast⟩,
      fun h => ⟨h.ne_nil, by simpa using h.visible, h.head_ne, h.last_ne⟩⟩

/-- **What is written plain, and the text that it stands for.** A line break and an indentation of
at least `least` columns are a space. -/
inductive Words (least : Nat) : List Char → List Char → Prop where
  /-- A word. -/
  | word {word : List Char} (hword : IsWord word) : Words least word word
  /-- A word before spaces. -/
  | gap {word written text : List Char} (hword : IsWord word) (count : Nat)
    (h : Words least written text) :
    Words least (word ++ spaces (count + 1) ++ written) (word ++ spaces (count + 1) ++ text)
  /-- A word at the end of a line. -/
  | fold {word written text : List Char} (hword : IsWord word) {indent : Nat} (hpos : 0 < indent)
    (hleast : least ≤ indent) (h : Words least written text) :
    Words least (word ++ newLine indent ++ written) (word ++ ' ' :: text)

variable {least : Nat} {word written text rest : List Char} {c : Char}

/-! ## Starts of texts -/

/-- A word does not start with a blank: `atBlank` fails on it. -/
theorem IsWord.atBlank_append (h : IsWord word) (rest : List Char) :
    atBlank (word ++ rest) = false := by
  cases word with
  | nil => exact absurd rfl h.ne_nil
  | cons c word =>
      have hc := h.visible c List.mem_cons_self
      exact Bool.or_eq_false_iff.2 (isBreak_of_isPrintable hc.1 hc.2)

/-- A word does not start a comment: its first character is not `#`. -/
theorem IsWord.head?_append_ne (h : IsWord word) (rest : List Char) :
    (word ++ rest).head? ≠ some '#' := by
  cases word with
  | nil => exact absurd rfl h.ne_nil
  | cons c word => exact h.head_ne

/-- What is written plain starts with a word: `Words` of a text is an `IsWord` and a rest. -/
theorem Words.exists_append (h : Words least written text) :
    ∃ word rest, IsWord word ∧ written = word ++ rest := by
  cases h with
  | word hword => exact ⟨_, [], hword, by simp⟩
  | gap hword | fold hword => exact ⟨_, _, hword, List.append_assoc _ _ _⟩

/-- What is written plain does not start with a blank: `atBlank` fails on `Words`. -/
theorem Words.atBlank_append (h : Words least written text) (rest : List Char) :
    atBlank (written ++ rest) = false := by
  obtain ⟨word, more, hword, rfl⟩ := h.exists_append
  rw [List.append_assoc]
  exact hword.atBlank_append _

/-- What is written plain does not start with `#`, the sign of a comment. -/
theorem Words.head?_append_ne (h : Words least written text) (rest : List Char) :
    (written ++ rest).head? ≠ some '#' := by
  obtain ⟨word, more, hword, rfl⟩ := h.exists_append
  rw [List.append_assoc]
  exact hword.head?_append_ne _

/-- What is written plain starts with the first character of the text, which has a blank behind it
only if the text does. -/
theorem Words.exists_cons (h : Words least written text) :
    ∃ c w t, written = c :: w ∧ text = c :: t ∧ isPrintable c = true ∧ c ≠ ' ' ∧
      atBlank w = atBlank t := by
  have hstart : ∀ {word : List Char}, IsWord word → ∀ more others : List Char,
      atBlank more = atBlank others → ∃ c w t, word ++ more = c :: w ∧ word ++ others = c :: t ∧
        isPrintable c = true ∧ c ≠ ' ' ∧ atBlank w = atBlank t := by
    intro word hword more others hblank
    cases word with
    | nil => exact absurd rfl hword.ne_nil
    | cons c word =>
        have hc := hword.visible c List.mem_cons_self
        refine ⟨c, word ++ more, word ++ others, rfl, rfl, hc.1, hc.2, ?_⟩
        cases word with
        | nil => exact hblank
        | cons d word => rfl
  cases h with
  | word hword => simpa using hstart hword [] [] rfl
  | gap hword count =>
      rw [List.append_assoc, List.append_assoc]
      exact hstart hword _ _ rfl
  | fold hword =>
      rw [List.append_assoc]
      exact hstart hword _ _ rfl

/-- What is written plain satisfies `isPlainChar`. -/
theorem Words.all_isPlainChar (h : Words least written text) : written.all isPlainChar = true := by
  have hword : ∀ {word : List Char}, IsWord word → word.all isPlainChar = true := fun hword =>
    List.all_eq_true.2 fun c hc => isPlainChar_of_isPrintable (hword.visible c hc).1
  induction h with
  | word h => exact hword h
  | gap h count _ ih =>
      simp only [List.all_append, hword h, all_isPlainChar_spaces, ih, Bool.and_true]
  | fold h _ _ _ ih =>
      simp only [List.all_append, hword h, all_isPlainChar_newLine, ih, Bool.and_true]

/-! ## Reading -/

/-- A word is read by `plainRun` up to where a run ends. -/
theorem plainRun_append (hvisible : ∀ c ∈ word, isPrintable c = true ∧ c ≠ ' ')
    (hlast : word.getLast? ≠ some ':') (hrest : plainRun false rest = ([], rest)) :
    plainRun false (word ++ rest) = (word, rest) := by
  induction word with
  | nil => exact hrest
  | cons c word ih =>
      have hc := isBreak_of_isPrintable (hvisible c List.mem_cons_self).1
        (hvisible c List.mem_cons_self).2
      have hends : endsRun false c (word ++ rest) = false := by
        cases word with
        | nil =>
            have hcolon : (c == ':') = false := by
              rw [beq_eq_false_iff_ne]
              rintro rfl
              exact hlast rfl
            simp [endsRun, hc, hcolon]
        | cons d word =>
            have hd := hvisible d (by simp)
            simp [endsRun, hc, atBlank, isBreak_of_isPrintable hd.1 hd.2]
      have hmore : plainRun false (word ++ rest) = (word, rest) := by
        cases word with
        | nil => exact hrest
        | cons d word => exact ih (fun e he => hvisible e (List.mem_cons_of_mem _ he)) hlast
      rw [List.cons_append, plainRun, hends, hmore]
      rfl

/-- What follows a word decides how a plain scalar goes on: `plainScalar` reads it and asks
`plainGap`. -/
theorem plainScalar_append (hword : IsWord word) (hrest : plainRun false rest = ([], rest))
    (fuel : Nat) :
    plainScalar false least (fuel + 1) (word ++ rest) =
      (let gap := plainGap fuel rest
       if (gap.content.isEmpty || gap.rest.head? == some '#' ||
          (gap.newLine && decide (gap.column < least))) = true then
        some ⟨word, gap.rest, gap.newLine⟩
       else
        match plainScalar false least fuel gap.rest with
        | none => some ⟨word, gap.rest, gap.newLine⟩
        | some more => some { more with content := word ++ gap.content ++ more.content }) := by
  have hrun := plainRun_append hword.visible hword.last_ne hrest
  rw [plainScalar, hrun]
  split
  · next heq => exact absurd heq (hword.head?_append_ne rest)
  · next heq _ => exact absurd (Prod.mk.inj heq).1 hword.ne_nil
  · next heq _ =>
    cases heq
    rfl

/-- Spaces before a word are a gap that `plainGap` keeps. -/
theorem plainGap_spaces (count fuel : Nat) (h : atBlank text = false) :
    plainGap fuel (spaces count ++ text) = ⟨spaces count, text, false, 0⟩ := by
  have hspace : text.head? ≠ some ' ' := by
    rintro hspace
    obtain ⟨rest, rfl⟩ := List.head?_eq_some_iff.1 hspace
    cases h
  have htake : (spaces count ++ text).takeWhile (· == ' ') = spaces count := by
    rw [List.takeWhile_append_of_pos fun c hc => by rw [List.eq_of_mem_replicate hc]; rfl]
    cases text with
    | nil => exact List.append_nil _
    | cons c rest =>
        rw [List.takeWhile_cons_of_neg (by simpa using fun heq => hspace (congrArg some heq)),
          List.append_nil]
  rw [plainGap, htake, dropWhile_space_spaces count hspace,
    takeBreak?_eq_none (atLineEnd_of_atBlank h)]

/-- A line break and an indentation before a word are a gap that `plainGap` folds. -/
theorem plainGap_newLine (indent fuel : Nat) (hspace : text.head? ≠ some ' ')
    (hbreak : takeBreak? text = none) (hmark : atDocumentMark (spaces indent ++ text) = false) :
    plainGap (fuel + 1) (newLine indent ++ text) = ⟨[' '], text, true, indent⟩ := by
  have hlines : plainLines (fuel + 1) (spaces indent ++ text) = (some [], text, indent) := by
    rw [plainLines, hmark, dropWhile_space_spaces indent hspace]
    simp [hbreak, spaces]
  rw [newLine, List.cons_append, plainGap]
  simp [takeBreak?, hlines, foldBreaks]

/-- **What is written plain is read as the text that it stands for**, and the gap behind it as well.
`hgap` tells this gap, and `hends` that the scalar does not go on behind it. -/
theorem plainScalar_of_words (h : Words least written text) {gap : PlainGap}
    (hrest : plainRun false rest = ([], rest)) (hgap : ∀ fuel, plainGap (fuel + 1) rest = gap)
    (hends : (gap.content.isEmpty || gap.rest.head? == some '#' ||
      (gap.newLine && decide (gap.column < least))) = true) {fuel : Nat}
    (hfuel : written.length < fuel) :
    plainScalar false least fuel (written ++ rest) = some ⟨text, gap.rest, gap.newLine⟩ := by
  -- every word takes a character
  have hlength : ∀ {word : List Char}, IsWord word → 0 < word.length := fun hword =>
    List.length_pos_iff.2 hword.ne_nil
  induction h generalizing fuel with
  | word hword =>
      obtain ⟨fuel, rfl⟩ := Nat.exists_eq_add_of_le' (Nat.lt_of_le_of_lt (hlength hword) hfuel)
      rw [plainScalar_append hword hrest (fuel + 1), hgap]
      exact if_pos hends
  | @gap word written text hword count h ih =>
      have := hlength hword
      simp only [List.length_append, spaces, List.length_replicate] at hfuel
      obtain ⟨fuel, rfl⟩ := Nat.exists_eq_add_of_le' (show 1 ≤ fuel by omega)
      have hblank := h.atBlank_append rest
      rw [List.append_assoc, List.append_assoc, plainScalar_append hword rfl fuel,
        plainGap_spaces _ _ hblank]
      have hcomment := h.head?_append_ne rest
      have hmore := ih (show written.length < fuel by omega)
      simp [hcomment, hmore, spaces, -List.head?_append]
  | @fold word written text hword indent hpos hleast h ih =>
      have := hlength hword
      simp only [List.length_append, newLine, List.length_cons, spaces, List.length_replicate]
        at hfuel
      obtain ⟨fuel, rfl⟩ := Nat.exists_eq_add_of_le' (show 2 ≤ fuel by omega)
      have hblank := h.atBlank_append rest
      have hspace : (written ++ rest).head? ≠ some ' ' := by
        intro hspace
        obtain ⟨more, heq⟩ := List.head?_eq_some_iff.1 hspace
        rw [heq] at hblank
        cases hblank
      obtain ⟨indent, rfl⟩ := Nat.exists_eq_succ_of_ne_zero (Nat.ne_of_gt hpos)
      rw [List.append_assoc, List.append_assoc, plainScalar_append hword rfl (fuel + 1),
        plainGap_newLine _ _ hspace (takeBreak?_eq_none (atLineEnd_of_atBlank hblank)) rfl]
      have hcomment := h.head?_append_ne rest
      have hmore := ih (show written.length < fuel + 1 by omega)
      simp [hcomment, hmore, Nat.not_lt.2 hleast, -List.head?_append]

end TreeSift.Yaml
