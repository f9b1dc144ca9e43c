import TreeSift.Proofs.Regex.Keeping
import TreeSift.Regex.Basic

/-! # Why regular expressions are refused

Nearly every source that is refused is malformed. The others can be told from their text
(`Regex.refusedFor_of_compile`): all readers of its parts keep to the source. -/

namespace TreeSift.Regex

open Read
open TreeSift.Text (isHexDigit)

variable {source : List Char}

/-! ## Escapes -/

/-- Hexadecimal digits that `readHex` reads are those of the source. -/
theorem gives_readHex (letter : Char) (count : Nat) :
    Gives source (HexDigitsOf source) (readHex letter count) := by
  rw [readHex]
  simp only [fault_bind]
  refine (gives_takeWhile isHexDigit count).bind fun digits hdigits => ?_
  split
  · exact gives_fault _ _
  · exact gives_pure ⟨hdigits.1, hdigits.2⟩

@[grind ←] theorem keeps_readHex (letter : Char) (count : Nat) :
    Keeps source (readHex letter count) :=
  (gives_readHex letter count).keeps

/-- A code is refused by `longCode` only for its digits. -/
theorem keeps_longCode {digits : List Char} (h : HexDigitsOf source digits) :
    Keeps source (longCode digits) := by
  rw [longCode]
  simp only [throw_bind, fault_bind]
  split
  · next hlarge => exact gives_throw (.codeTooLarge h hlarge)
  · split
    · exact keeps_fault _ _
    · exact keeps_pure _

@[grind ←] theorem keeps_readCode? (letter : Char) : Keeps source (readCode? letter) := by
  rw [readCode?.eq_def]
  split
  case h_3 =>
    exact (gives_readHex 'U' 8).keeps_bind fun digits hdigits =>
      keeps_bind (keeps_longCode hdigits) fun code => keeps_pure _
  all_goals grind

@[grind ←] theorem keeps_octalCode (digits : List Char) : Keeps source (octalCode digits) := by
  rw [octalCode]
  grind

@[grind ←] theorem keeps_readSetEscape (c : Char) : Keeps source (readSetEscape c) := by
  rw [readSetEscape]
  grind

@[grind ←] theorem keeps_readReference (digits : List Char) :
    Keeps source (readReference digits) := by
  rw [readReference]
  grind

@[grind ←] theorem keeps_readDigitEscape (c : Char) : Keeps source (readDigitEscape c) := by
  rw [readDigitEscape]
  refine keeps_bind keeps_peek? fun second? => ?_
  split
  · next d =>
    split
    · refine keeps_bind keeps_skip fun _ => keeps_bind keeps_peek? fun third? => ?_
      grind
    · exact keeps_readReference _
  · exact keeps_readReference _

@[grind ←] theorem keeps_readEscape (c : Char) : Keeps source (readEscape c) := by
  rw [readEscape]
  grind

/-! ## Sets -/

@[grind ←] theorem keeps_readSetMember (token : Token) : Keeps source (readSetMember token) := by
  cases token with
  | plain c => exact keeps_pure _
  | escape c => exact keeps_readSetEscape c

@[grind ←] theorem keeps_readSetItems (start n : Nat) (items : List SetItem) :
    Keeps source (readSetItems start n items) := by
  induction n generalizing items with
  | zero => exact keeps_pure _
  | succ n ih =>
      rw [readSetItems]
      refine keeps_bind keeps_take? fun token? => ?_
      split
      · grind
      · next token =>
        split
        · grind
        · refine keeps_bind (keeps_readSetMember token) fun first =>
            keeps_bind (keeps_accept _) fun isRange => ?_
          split
          · refine keeps_bind keeps_take? fun last? => ?_
            grind
          · exact ih _

@[grind ←] theorem keeps_readSet : Keeps source readSet := by
  rw [readSet]
  grind

/-! ## Repetitions -/

/-- A bound is refused by `readBound` only for its digits. -/
theorem keeps_readBound {digits : List Char} (h : DigitsOf source digits) :
    Keeps source (readBound digits) := by
  rw [readBound]
  simp only [throw_bind]
  split
  · exact keeps_pure _
  · split
    · next hlong => exact gives_throw (.boundTooLong h hlong)
    · split
      · next hlarge => exact gives_throw (.repetitionTooLarge h hlarge)
      · exact keeps_pure _

@[grind ←] theorem keeps_readBounds (start : Nat) : Keeps source (readBounds start) := by
  rw [readBounds]
  refine gives_get.keeps_bind fun saved hsaved => keeps_bind keeps_peek? fun next? => ?_
  split
  · exact keeps_pure _
  · refine keeps_bind keeps_remaining fun count => (gives_digits count).keeps_bind fun low hlow => ?_
    refine keeps_bind (keeps_accept _) fun hasHigh => ?_
    have hback : Keeps source (modify fun state => { state with cursor := saved.cursor }) :=
      keeps_modify fun _ hstate => ⟨hsaved.pending, hstate.flags⟩
    dsimp only
    -- without a comma the one bound is both the least and the greatest
    split
    case' isTrue => refine (gives_digits count).keeps_bind fun high hhigh => ?_
    case' isFalse => refine (gives_pure hlow).keeps_bind fun high hhigh => ?_
    all_goals
      refine keeps_bind (keeps_accept _) fun isClosed => ?_
      split
      · exact keeps_bind hback fun _ => keeps_pure _
      · refine keeps_bind (keeps_readBound hlow) fun min => ?_
        refine keeps_bind (keeps_readBound hhigh) fun max => ?_
        grind

@[grind ←] theorem keeps_readGreed : Keeps source readGreed := by
  rw [readGreed]
  grind

@[grind ←] theorem keeps_repeatLast (start min : Nat) (max : Option Nat) (pieces : List Piece) :
    Keeps source (repeatLast start min max pieces) := by
  rw [repeatLast]
  grind

/-! ## Flags -/

theorem Flags.From.union {f g : Flags} (hf : f.From source) (hg : g.From source) :
    (f.union g).From source where
  ascii h := (Bool.or_eq_true_iff.1 h).elim hf.ascii hg.ascii
  unicode h := (Bool.or_eq_true_iff.1 h).elim hf.unicode hg.unicode

/-- The flag that `flagOf?` gives for a letter is from a source with the letter. -/
theorem from_flagOf? {c : Char} (h : c ∈ source) : ((flagOf? c).getD {}).From source := by
  rw [flagOf?.eq_def]
  split <;> exact ⟨by grind, by grind⟩

/-- No flags are `From` any source. -/
theorem from_empty : Flags.From {} source :=
  ⟨nofun, nofun⟩

/-- Flags that `readFlagsOn` turns on are from the source. -/
theorem gives_readFlagsOn (n : Nat) {c : Char} {flags : Flags} (hc : c ∈ source)
    (hflags : flags.From source) :
    Gives source (fun outcome => outcome.1.From source) (readFlagsOn n c flags) := by
  induction n generalizing c flags with
  | zero => exact gives_pure hflags
  | succ n ih =>
      have hnext := hflags.union (from_flagOf? hc)
      rw [readFlagsOn]
      simp only [noFlag, fault_bind]
      split
      · exact gives_fault _ _
      · split
        · exact gives_fault _ _
        · refine gives_take?.bind fun token? htoken => ?_
          split
          · exact gives_fault _ _
          · next d =>
            split
            · exact gives_pure hnext
            · split
              · exact ih (htoken d rfl) hnext
              · exact gives_fault _ _
          · exact gives_fault _ _

@[grind ←] theorem keeps_readFlagsOff (n : Nat) (c : Char) (flags : Flags) :
    Keeps source (readFlagsOff n c flags) := by
  induction n generalizing c flags with
  | zero => exact keeps_pure _
  | succ n ih =>
      rw [readFlagsOff]
      simp only [noFlag, fault_bind]
      grind

/-- The flags of the whole expression, which `readFlags` reads, are from the source. -/
@[grind ←] theorem keeps_readFlags {c : Char} (hc : c ∈ source) : Keeps source (readFlags c) := by
  rw [readFlags]
  simp only [noFlag, fault_bind]
  refine keeps_bind keeps_remaining fun count => ?_
  split
  case' isTrue =>
    have hnone : Gives source (fun outcome : Flags × Char => outcome.1.From source) (pure ({}, c)) :=
      gives_pure from_empty
    refine hnone.keeps_bind fun outcome hadd => ?_
  case' isFalse => refine (gives_readFlagsOn count hc from_empty).keeps_bind fun outcome hadd => ?_
  all_goals
    split
    · refine keeps_bind (keeps_modify fun _ hstate => ?_) fun _ => keeps_pure _
      exact ⟨hstate.pending, hstate.flags.union hadd⟩
    · grind

/-! ## Groups -/

@[grind ←] theorem keeps_readCondition : Keeps source readCondition := by
  rw [readCondition]
  simp only [fault_bind]
  refine keeps_bind (keeps_name _ _) fun condition => ?_
  split
  · grind
  · split
    · exact keeps_fault _ _
    · split
      · exact keeps_fault _ _
      · refine keeps_bind keeps_position fun position => ?_
        refine keeps_bind (keeps_modify fun state hstate => ?_) fun _ => ?_
        · split
          · exact hstate
          · exact ⟨hstate.pending, hstate.flags⟩
        · grind
    · exact keeps_fault _ _

@[grind ←] theorem keeps_readNamedReference : Keeps source readNamedReference := by
  rw [readNamedReference]
  simp only [fault_bind]
  grind

@[grind ←] theorem keeps_skipComment (start n : Nat) : Keeps source (skipComment start n) := by
  induction n with
  | zero => exact keeps_pure _
  | succ n ih =>
      rw [skipComment]
      simp only [fault_bind]
      grind

@[grind ←] theorem keeps_skipLine (n : Nat) : Keeps source (skipLine n) := by
  induction n with
  | zero => exact keeps_pure _
  | succ n ih =>
      rw [skipLine]
      grind

@[grind ←] theorem keeps_readGroupHead (start : Nat) : Keeps source (readGroupHead start) := by
  rw [readGroupHead]
  simp only [fault_bind]
  refine keeps_bind (keeps_accept _) fun isExtension => ?_
  split
  · exact keeps_pure _
  · refine gives_take?.keeps_bind fun token? htoken => ?_
    split
    · exact keeps_fault _ _
    · next token =>
      split
      · refine keeps_bind (keeps_accept _) fun isNamed => ?_
        split
        · grind
        · grind
      all_goals grind

@[grind ←] theorem keeps_closeParenthesis (start : Nat) : Keeps source (closeParenthesis start) := by
  rw [closeParenthesis]
  grind

/-! ## Parts of expressions -/

/-- **The readers of the parts of an expression keep to a source**, with the budget `n`. -/
structure PartsKept (source : List Char) (n : Nat) : Prop where
  /-- Choices. -/
  choice : ∀ verbose nested, Keeps source (readChoice n verbose nested)
  /-- Later alternatives. -/
  alternatives : ∀ verbose nested, Keeps source (readAlternatives n verbose nested)
  /-- Sequences. -/
  sequence : ∀ verbose first pieces, Keeps source (readSequence n verbose first pieces)
  /-- Groups. -/
  group : ∀ verbose start head, Keeps source (readGroup n verbose start head)

attribute [grind ←] PartsKept.choice PartsKept.alternatives PartsKept.sequence PartsKept.group

theorem partsKept_zero : PartsKept source 0 where
  choice verbose nested := by rw [readChoice]; exact keeps_pure _
  alternatives verbose nested := by rw [readAlternatives]; exact keeps_pure _
  sequence verbose first pieces := by rw [readSequence]; exact keeps_pure _
  group verbose start head := by rw [readGroup]; exact keeps_pure _

variable {n : Nat}

/-- A sequence `Keeps` to the source if its parts do. -/
theorem PartsKept.keeps_readSequence (h : PartsKept source n) (verbose first : Bool)
    (pieces : List Piece) : Keeps source (readSequence (n + 1) verbose first pieces) := by
  rw [readSequence]
  simp only [fault_bind]
  refine keeps_bind keeps_peek? fun next? => ?_
  split
  · exact keeps_pure _
  · exact keeps_pure _
  · exact keeps_pure _
  · next token _ _ =>
    refine keeps_bind keeps_skip fun _ => ?_
    cases token with
    | escape c => grind
    | plain c =>
        dsimp only
        split
        · grind
        · split
          · grind
          · split
            -- the group
            case h_9 =>
              refine keeps_bind keeps_position fun start => ?_
              refine keeps_bind (keeps_readGroupHead _) fun head => ?_
              split
              · grind
              · grind
            all_goals grind

/-- A group `Keeps` to the source if its parts do. -/
theorem PartsKept.keeps_readGroup (h : PartsKept source n) (verbose : Bool) (start : Nat)
    (head : GroupHead) : Keeps source (readGroup (n + 1) verbose start head) := by
  cases head with
  | behind negated =>
      have hmodify (change : ReadState → Option Nat) :
          Keeps source (modify fun state => { state with lookBehindGroups := change state }) :=
        keeps_modify fun _ hstate => ⟨hstate.pending, hstate.flags⟩
      rw [readGroup]
      refine keeps_bind keeps_get fun state => keeps_bind (hmodify _) fun _ => ?_
      refine keeps_bind (h.choice _ _) fun nodes => keeps_bind (hmodify _) fun _ => ?_
      grind
  | conditional index =>
      rw [readGroup]
      simp only [fault_bind, pure_bind]
      grind
  | _ =>
      rw [readGroup]
      grind

theorem PartsKept.succ (h : PartsKept source n) : PartsKept source (n + 1) where
  choice verbose nested := by
    rw [readChoice]
    grind
  alternatives verbose nested := by
    rw [readAlternatives]
    grind
  sequence := h.keeps_readSequence
  group := h.keeps_readGroup

/-- **All parts keep to the source**: `PartsKept` by induction on the budget, as each reader calls
the others with one less. -/
theorem partsKept (source : List Char) (n : Nat) : PartsKept source n := by
  induction n with
  | zero => exact partsKept_zero
  | succ n ih => exact ih.succ

/-! ## Whole expressions -/

@[grind ←] theorem keeps_checkReferences : Keeps source checkReferences := by
  rw [checkReferences]
  refine keeps_bind keeps_get fun state => ?_
  split
  · exact gives_throw (.malformed _)
  · exact keeps_pure _

/-- **The reader of a whole expression keeps to the source**: `readAll`, with its flags in front. -/
theorem keeps_readAll (source : List Char) (length : Nat) : Keeps source (readAll length) := by
  rw [readAll]
  simp only [throw_bind, fault_bind]
  refine keeps_bind ((partsKept source _).choice _ _) fun nodes => ?_
  refine gives_get.keeps_bind fun state hstate => ?_
  split
  · next hclash =>
    rw [Bool.and_eq_true] at hclash
    exact gives_throw (.clashingFlags (hstate.flags.ascii hclash.1) (hstate.flags.unicode hclash.2))
  · refine keeps_bind keeps_peek? fun next? => ?_
    split
    · exact keeps_fault _ _
    · refine keeps_bind keeps_checkReferences fun _ => keeps_bind keeps_widths fun groups => ?_
      split
      · exact gives_throw (.malformed _)
      · exact keeps_bind keeps_get fun _ => keeps_pure _

/-- **Why a source is refused** by `compile` shows in its text: it is `RefusedFor` the reason given.
-/
theorem refusedFor_of_compile {source : String} {refusal : Refusal}
    (h : compile source = .error refusal) : RefusedFor source.toList refusal := by
  rw [compile] at h
  cases hcursor : Cursor.ofSource source.toList with
  | error fault =>
      rw [hcursor] at h
      cases h
      exact .malformed fault
  | ok cursor =>
      simp only [hcursor, pure_bind] at h
      have hpending : cursor.pending = source.toList := Cursor.pending_of_advance hcursor
      refine (keeps_readAll source.toList source.toList.length { cursor, flags := {} }
        ⟨hpending ▸ List.suffix_rfl, from_empty⟩).of_error ?_
      cases hrun : (readAll source.toList.length).run { cursor, flags := {} } with
      | error other =>
          rw [hrun] at h
          cases h
          rfl
      | ok outcome =>
          rw [hrun] at h
          cases h

end TreeSift.Regex
