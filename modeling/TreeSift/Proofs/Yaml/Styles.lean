import TreeSift.Proofs.Yaml.Escaping
import TreeSift.Proofs.Yaml.Runs
import TreeSift.Proofs.Yaml.Words

/-! # Texts are written in their styles

Whatever style a text is given, it is written as its reader wants it: plain texts as `Words`
(`writeText_plain`), and texts between quotes as `Quotes` (`writeText_quoted`). -/

namespace TreeSift.Yaml

variable {written text rest : List Char} {c : Char} {indent column : Nat} {fold first : Bool}

/-! ## Single quotes -/

/-- Where no space stands beside a line feed in a text, none does in its end: `spaceAtBreak` of what
is behind `front`. -/
theorem spaceAtBreak_of_append {front : List Char} (h : spaceAtBreak (front ++ text) = false) :
    spaceAtBreak text = false := by
  induction front with
  | nil => exact h
  | cons c front ih =>
      refine ih ?_
      cases hrest : front ++ text with
      | nil => rfl
      | cons d rest =>
          rw [List.cons_append, hrest, spaceAtBreak, Bool.or_eq_false_iff] at h
          exact h.2

/-- Between single quotes, what starts neither with a space nor with a line feed is written so:
`atBlank` fails there. -/
theorem Quotes.atBlank_single (h : Quotes false written text)
    (hhead : ∀ c ∈ text.head?, c ≠ ' ' ∧ c ≠ '\n') :
    atBlank (written ++ [quoteMark false]) = false := by
  cases h with
  | char hc =>
      have hc := isBreak_of_standsQuoted hc
      exact Bool.or_eq_false_iff.2 hc
  | space => exact absurd rfl (hhead ' ' rfl).1
  | breaks count =>
      cases count with
      | zero => exact absurd rfl (hhead ' ' rfl).1
      | succ count => exact absurd rfl (hhead '\n' rfl).2
  | nil | mark => rfl

/-- Spaces are written between single quotes as they are: `Quotes false` is kept by spaces in front.
-/
theorem Quotes.append_spaces (hblank : atBlank (written ++ [quoteMark false]) = false)
    (h : Quotes false written text) (count : Nat) :
    Quotes false (List.replicate count ' ' ++ written) (List.replicate count ' ' ++ text) := by
  induction count with
  | zero => exact h
  | succ count ih =>
      refine .space ?_ ih
      cases count with
      | zero => exact atLineEnd_of_atBlank hblank
      | succ count => rfl

/-- Words are written between single quotes as they are, apart from these quotes: `Quotes false` is
kept by `singleChar` of each character. -/
theorem Quotes.append_word {word : List Char} (hword : ∀ c ∈ word, isPrintable c = true ∧ c ≠ ' ')
    (h : Quotes false written text) :
    Quotes false (word.flatMap singleChar ++ written) (word ++ text) := by
  induction word with
  | nil => exact h
  | cons c word ih =>
      have hmore := ih fun d hd => hword d (List.mem_cons_of_mem _ hd)
      obtain ⟨hprint, hspace⟩ := hword c List.mem_cons_self
      rw [List.flatMap_cons, singleChar]
      split_ifs with hquote
      · subst hquote
        exact .mark hmore
      · exact .char (by simp [standsQuoted, quoteMark, hprint, hspace, hquote]) hmore

/-- Behind a run of spaces or of line feeds there is neither a space nor a line feed, if
`spaceAtBreak` fails. -/
theorem head?_of_spaceAtBreak {count : Nat} (hc : c = ' ' ∨ c = '\n') (hnext : text.head? ≠ some c)
    (hspace : spaceAtBreak (List.replicate (count + 1) c ++ text) = false) :
    ∀ d ∈ text.head?, d ≠ ' ' ∧ d ≠ '\n' := by
  rw [List.replicate_succ', List.append_assoc] at hspace
  have hspace := spaceAtBreak_of_append hspace
  intro d hd
  obtain ⟨rest, rfl⟩ := List.head?_eq_some_iff.1 hd
  rcases hc with rfl | rfl
  · exact ⟨fun heq => hnext (congrArg some heq), fun heq => by simp [heq, spaceAtBreak] at hspace⟩
  · exact ⟨fun heq => by simp [heq, spaceAtBreak] at hspace, fun heq => hnext (congrArg some heq)⟩

/-- **The runs of a text are written between single quotes as they are read there**: `writeRuns`
gives what is `Quotes false` for it, by induction on `Runs`. -/
theorem quotes_writeRuns {runs : List (List Char)} (h : Runs runs) (hindent : 0 < indent)
    (hchars : ∀ c ∈ runs.flatten, c = '\n' ∨ isPrintable c = true)
    (hspace : spaceAtBreak runs.flatten = false) :
    Quotes false (writeRuns fold singleChar indent first column runs) runs.flatten := by
  induction h generalizing first column with
  | nil => exact .nil
  | @gap runs count hnext h ih =>
      rw [List.flatten_cons] at hchars hspace
      have hmore := fun first column => @ih column first
        (fun c hc => hchars c (List.mem_append_right _ hc)) (spaceAtBreak_of_append hspace)
      have hhead := head?_of_spaceAtBreak (.inl rfl) hnext hspace
      have hblank := fun first column => (hmore first column).atBlank_single hhead
      rw [List.flatten_cons]
      obtain ⟨rfl, hwritten⟩ | hwritten := @writeRuns_gap fold first singleChar indent column runs count
      · rw [hwritten]
        exact .breaks 0 hindent (hblank _ _) (hmore _ _)
      · rw [hwritten]
        exact (hmore _ _).append_spaces (hblank _ _) _
  | @feeds runs count hnext h ih =>
      rw [List.flatten_cons] at hchars hspace
      have hmore := fun first column => @ih column first
        (fun c hc => hchars c (List.mem_append_right _ hc)) (spaceAtBreak_of_append hspace)
      have hhead := head?_of_spaceAtBreak (.inr rfl) hnext hspace
      rw [writeRuns_feeds, List.flatten_cons]
      have hbreaks := Quotes.breaks (count + 1) hindent ((hmore false indent).atBlank_single hhead)
        (hmore false indent)
      rw [← List.replicate_succ, List.replicate_succ'] at hbreaks
      simpa [newLine, foldBreaks] using hbreaks
  | @word runs word hne hword hnext h ih =>
      rw [List.flatten_cons] at hchars hspace
      rw [writeRuns_word hne hword, List.flatten_cons]
      refine Quotes.append_word (fun d hd => ⟨?_, (hword d hd).1⟩)
        (ih (fun d hd => hchars d (List.mem_append_right _ hd)) (spaceAtBreak_of_append hspace))
      exact (hchars d (List.mem_append_left _ hd)).resolve_left (hword d hd).2

/-! ## Plain texts -/

/-- **A plain scalar can go on with the text** behind a space, as far as indicators tell. -/
structure GoesPlain (text : List Char) : Prop where
  /-- It does not start a comment. -/
  head_ne : text.head? ≠ some '#'
  /-- It does not start with the colon behind a key. -/
  colon : text.head? = some ':' → atBlank text.tail = false
  /-- No indicators are in it. -/
  holds : holdsIndicator text = false

/-- Without indicators in a text, a plain scalar can go on behind a space in it: `GoesPlain` from
`holdsIndicator`. -/
theorem goesPlain_of_space (h : holdsIndicator (' ' :: text) = false) : GoesPlain text := by
  cases text with
  | nil => exact ⟨nofun, nofun, rfl⟩
  | cons c rest =>
      simp only [holdsIndicator, Bool.or_eq_false_iff, Bool.and_eq_false_iff,
        beq_eq_false_iff_ne] at h
      obtain ⟨⟨hcolon, hsign⟩, hrest⟩ := h
      refine ⟨fun hhead => ?_, fun hhead => hcolon.resolve_left (absurd (Option.some.inj hhead)), hrest⟩
      exact (hsign.resolve_left (by decide)) (Option.some.inj hhead)

/-- A plain scalar needs no space in front of a text that does not start with an indicator to be
`GoesPlain`. -/
theorem goesPlain_of_startsIndicator (hstart : startsIndicator text = false)
    (hholds : holdsIndicator text = false) : GoesPlain text := by
  cases text with
  | nil => exact ⟨nofun, nofun, rfl⟩
  | cons c rest =>
      refine ⟨fun hsign => ?_, fun hcolon => ?_, hholds⟩
      · rw [Option.some.inj hsign] at hstart
        cases hstart
      · rw [Option.some.inj hcolon, startsIndicator] at hstart
        · exact (Bool.or_eq_false_iff.1 hstart).2
        · nofun
        · nofun

/-- Where no indicators are in a text, none are in its end: `holdsIndicator` of what is behind
`front`. -/
theorem holdsIndicator_of_append {front : List Char} (h : holdsIndicator (front ++ text) = false) :
    holdsIndicator text = false := by
  induction front with
  | nil => exact h
  | cons c front ih =>
      refine ih ?_
      cases hrest : front ++ text with
      | nil => rfl
      | cons d rest =>
          rw [List.cons_append, hrest, holdsIndicator, Bool.or_eq_false_iff] at h
          exact h.2

/-- A word in front of a blank does not end with a colon, if the text `GoesPlain`. -/
theorem GoesPlain.getLast?_ne {word : List Char} (h : GoesPlain (word ++ rest))
    (hrest : atBlank rest = true) : word.getLast? ≠ some ':' := by
  intro hlast
  obtain ⟨front, rfl⟩ := List.getLast?_eq_some_iff.1 hlast
  rcases front.eq_nil_or_concat with rfl | ⟨front, c, rfl⟩
  · exact absurd (h.colon rfl) (by simp [hrest])
  · have hholds := h.holds
    rw [List.concat_eq_append, List.append_assoc, List.append_assoc] at hholds
    have hpair := holdsIndicator_of_append hholds
    simp [holdsIndicator, hrest] at hpair

/-- A word of a text that `GoesPlain` is an `IsWord` of a plain scalar. -/
theorem GoesPlain.isWord {word : List Char} (h : GoesPlain (word ++ rest)) (hne : word ≠ [])
    (hvisible : ∀ c ∈ word, isPrintable c = true ∧ c ≠ ' ') (hrest : atBlank rest = true) :
    IsWord word where
  ne_nil := hne
  visible := hvisible
  head_ne := by
    obtain ⟨c, word, rfl⟩ := List.exists_cons_of_ne_nil hne
    exact h.head_ne
  last_ne := h.getLast?_ne hrest

/-- A plain scalar goes on behind spaces: `GoesPlain` of what is there. -/
theorem GoesPlain.behind_spaces {word : List Char} {count : Nat}
    (h : GoesPlain (word ++ (List.replicate (count + 1) ' ' ++ rest))) : GoesPlain rest := by
  have hholds := holdsIndicator_of_append h.holds
  rw [List.replicate_succ', List.append_assoc] at hholds
  exact goesPlain_of_space (holdsIndicator_of_append hholds)

/-- A text that starts with a space or a line feed starts with a blank, as does an empty one:
`atBlank` by `head?`. -/
theorem atBlank_of_head? (h : ∀ c ∈ text.head?, c = ' ' ∨ c = '\n') : atBlank text = true := by
  cases text with
  | nil => rfl
  | cons c rest => rcases h c rfl with rfl | rfl <;> rfl

/-- A word goes on with what `writeRuns` gives behind a run of spaces, on its line or on the next
one. -/
theorem Words.append_writeRuns {least count : Nat} {word : List Char} {runs : List (List Char)}
    (hword : IsWord word) (hindent : 0 < indent) (hleast : least ≤ indent)
    (hmore : ∀ first column,
      Words least (writeRuns fold (fun c => [c]) indent first column runs) runs.flatten) :
    Words least (word ++ writeRuns fold (fun c => [c]) indent first column
        (List.replicate (count + 1) ' ' :: runs))
      (word ++ (List.replicate (count + 1) ' ' ++ runs.flatten)) := by
  obtain ⟨rfl, hwritten⟩ | hwritten :=
    @writeRuns_gap fold first (fun c => [c]) indent column runs count
  · rw [hwritten]
    simpa using Words.fold hword hindent hleast (hmore _ _)
  · rw [hwritten]
    simpa [spaces] using Words.gap hword count (hmore _ _)

/-- **The runs of a text are written plain as they are read there**, if nothing in it keeps a plain
scalar from going on: `writeRuns` gives `Words`, by induction on `Runs`. -/
theorem words_writeRuns {least : Nat} {runs : List (List Char)} (h : Runs runs)
    (hindent : 0 < indent) (hleast : least ≤ indent)
    (hprint : ∀ c ∈ runs.flatten, isPrintable c = true) (hne : runs ≠ [])
    (hfirst : runs.flatten.head? ≠ some ' ') (hlast : runs.flatten.getLast? ≠ some ' ')
    (hplain : GoesPlain runs.flatten) :
    Words least (writeRuns fold (fun c => [c]) indent first column runs) runs.flatten := by
  -- a word and the spaces behind it are written together
  induction hlength : runs.length using Nat.strongRecOn generalizing runs first column with
  | ind length ih =>
      have hfeed : ∀ count : Nat, ¬ ∀ c ∈ List.replicate (count + 1) '\n', isPrintable c = true :=
        fun count hall => absurd (hall '\n' (by simp)) (by decide)
      cases h with
      | nil => exact absurd rfl hne
      | gap count => exact absurd (by simp [List.replicate_succ]) hfirst
      | feeds count =>
          exact absurd (fun c hc => hprint c (List.mem_append_left _ hc)) (hfeed count)
      | @word runs word hnonempty hword hnext h =>
          rw [List.flatten_cons] at hprint hlast hplain ⊢
          have hisWord : IsWord word := hplain.isWord hnonempty
            (fun c hc => ⟨hprint c (List.mem_append_left _ hc), (hword c hc).1⟩)
            (atBlank_of_head? hnext)
          have hsame : word.flatMap (fun c => [c]) = word := by simp
          rw [writeRuns_word hnonempty hword, hsame]
          cases h with
          | nil => simpa [writeRuns] using Words.word hisWord
          | feeds count =>
              exact absurd (fun c hc => hprint c (by simp_all)) (hfeed count)
          | @word runs next hsecond hother =>
              obtain ⟨c, rest, rfl⟩ := List.exists_cons_of_ne_nil hsecond
              exact absurd (hnext c rfl) (not_or.2 (hother c List.mem_cons_self))
          | @gap runs count hbehind h =>
              rw [List.flatten_cons] at hprint hlast hplain ⊢
              have hne : runs ≠ [] := by
                rintro rfl
                simp [List.replicate_succ'] at hlast
              have hlast : runs.flatten.getLast? ≠ some ' ' := by
                intro heq
                simp [List.getLast?_append, heq] at hlast
              refine .append_writeRuns hisWord hindent hleast fun first column => ?_
              exact ih runs.length (by simp at hlength; omega) h
                (fun c hc => hprint c (List.mem_append_right _ (List.mem_append_right _ hc)))
                hne hbehind hlast hplain.behind_spaces rfl

/-! ## Styles -/

/-- **A plain scalar may start with the text**, as far as the lexer sees it: with a visible
character that is none of `leadingIndicators`, or with one of three behind which a word goes on. -/
def StartsWord : List Char → Prop
  | [] => False
  | c :: rest =>
    isPrintable c = true ∧ c ≠ ' ' ∧ leadingIndicators.contains c = false ∧
      (c = '?' ∨ c = ':' ∨ c = '-' → atBlank rest = false)

/-- A text that does not start with an indicator starts a plain scalar, however it is folded:
`StartsWord` of its `Words`. -/
theorem Words.startsWord {least : Nat} (h : Words least written text)
    (hstart : startsIndicator text = false) (rest : List Char) :
    StartsWord (written ++ rest) := by
  obtain ⟨c, w, t, rfl, rfl, hprint, hspace, hblank⟩ := h.exists_cons
  have hindicator : leadingIndicators.contains c = false ∧
      (c = '?' ∨ c = ':' ∨ c = '-' → atBlank t = false) := by
    unfold startsIndicator at hstart
    split at hstart
    · cases hstart
    · cases hstart
    · next heq =>
      cases heq
      rw [Bool.or_eq_false_iff] at hstart
      refine ⟨hstart.1, fun hc => ?_⟩
      have hmark := hstart.2
      rcases hc with rfl | rfl | rfl <;> simpa using hmark
    · next heq => cases heq
  refine ⟨hprint, hspace, hindicator.1, fun hc => ?_⟩
  have ht := hindicator.2 hc
  rw [← hblank] at ht
  cases w with
  | nil => cases ht
  | cons d w => exact ht

variable {text : String}

/-- What `styleOf` finds plain may be written so, and is a text by its form: `allowsPlain` and
`Tag.ofContent`. -/
theorem allowsPlain_of_styleOf (h : styleOf text = .plain) :
    Tag.ofContent text = .text ∧ allowsPlain text.toList = true := by
  unfold styleOf at h
  dsimp only at h
  split_ifs at h with hplain
  simpa using hplain

/-- What `styleOf` finds plain does not start with an indicator. -/
theorem startsIndicator_of_styleOf (h : styleOf text = .plain) :
    startsIndicator text.toList = false := by
  have hallows := (allowsPlain_of_styleOf h).2
  simp only [allowsPlain, Bool.and_eq_true, Bool.not_eq_true'] at hallows
  exact hallows.1.2

variable (column) in
/-- **A text of the plain style is written plain as it is read**: `writeText` gives its `Words`. -/
theorem writeText_plain {least : Nat} (h : styleOf text = .plain) (hindent : 0 < indent)
    (hleast : least ≤ indent) :
    Words least (writeText true indent column text) text.toList := by
  obtain ⟨htag, hallows⟩ := allowsPlain_of_styleOf h
  simp only [allowsPlain, Bool.and_eq_true, bne_iff_ne, Bool.not_eq_true'] at hallows
  obtain ⟨⟨⟨⟨hprint, hfirst⟩, hlast⟩, hstart⟩, hholds⟩ := hallows
  have hne : text.toList ≠ [] := by
    intro hempty
    have hnull : Tag.ofContent "" = .null := by decide +kernel
    rw [String.toList_eq_nil_iff.1 hempty, hnull] at htag
    cases htag
  have hplain : GoesPlain text.toList := goesPlain_of_startsIndicator hstart hholds
  have hruns := List.flatten_splitBy sameRun text.toList
  have hwords := @words_writeRuns indent column true true least _ (runs_splitBy text.toList) hindent
    hleast
  rw [hruns] at hwords
  unfold writeText
  rw [h]
  exact hwords (List.all_eq_true.1 hprint) (List.splitBy_ne_nil.2 hne) hfirst hlast hplain

variable (column) in
/-- **Any other text is written between quotes as it is read there**: `writeText` gives what
`Quotes` it, between two `quoteMark`s. -/
theorem writeText_quoted (h : styleOf text ≠ .plain) (hindent : 0 < indent)
    (hwidth : indent < lineWidth) :
    ∃ double written, writeText true indent column text =
      quoteMark double :: written ++ [quoteMark double] ∧ Quotes double written text.toList := by
  -- the style is only single if single quotes allow the text
  have hsingle : styleOf text = .single → allowsSingle text.toList = true := by
    unfold styleOf
    dsimp only
    split_ifs with hplain hsingle
    · nofun
    · exact fun _ => hsingle
    · nofun
  cases hstyle : styleOf text with
  | plain => exact absurd hstyle h
  | single =>
      have hallows := hsingle hstyle
      simp only [allowsSingle, Bool.and_eq_true, Bool.not_eq_true'] at hallows
      have hquotes := @quotes_writeRuns indent (column + 1) true true _ (runs_splitBy text.toList)
        hindent
      rw [List.flatten_splitBy] at hquotes
      refine ⟨false, _, ?_, hquotes (fun c hc => ?_) hallows.2⟩
      · unfold writeText
        rw [hstyle]
        rfl
      · simpa using List.all_eq_true.1 hallows.1 c hc
  | double =>
      obtain ⟨written, hwritten, hquotes⟩ := @quotes_writeDouble indent (column + 1) true true hindent
        hwidth text.toList []
      rw [List.reverse_nil, List.nil_append] at hwritten
      refine ⟨true, written, ?_, hquotes⟩
      unfold writeText
      rw [hstyle, ← hwritten]
      rfl

end TreeSift.Yaml
