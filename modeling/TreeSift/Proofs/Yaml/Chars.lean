import Mathlib.Tactic.SplitIfs
import TreeSift.Proofs.Text.PlainChars
import TreeSift.Yaml.Style

/-! # Line breaks and gaps

Where a line break comes, and where none does. -/

namespace TreeSift.Yaml

open TreeSift.Text (isPlainChar)

variable {text rest : List Char} {c : Char}

/-! ## Line breaks -/

/-- A line break that `takeBreak?` takes comes off the text alone. -/
theorem mem_of_takeBreak? (h : takeBreak? text = some (c, rest)) : ∀ d ∈ rest, d ∈ text := by
  intro d hd
  unfold takeBreak? at h
  split at h
  · cases h
    exact List.mem_cons_of_mem _ (List.mem_cons_of_mem _ hd)
  · split_ifs at h <;> cases h <;> exact List.mem_cons_of_mem _ hd
  · cases h

/-- A character that satisfies `isBreak` is taken as a line break. -/
theorem exists_takeBreak?_eq_some (h : isBreak c = true) (rest : List Char) :
    ∃ d left, takeBreak? (c :: rest) = some (d, left) := by
  unfold takeBreak?
  split
  · exact ⟨_, _, rfl⟩
  · next heq =>
    cases heq
    split_ifs
    · exact ⟨_, _, rfl⟩
    · exact ⟨_, _, rfl⟩
  · next heq => cases heq

/-- No line break comes where `atLineEnd` fails. -/
theorem takeBreak?_eq_none (h : atLineEnd text = false) : takeBreak? text = none := by
  cases text with
  | nil => rfl
  | cons c rest =>
      change isBreak c = false at h
      unfold takeBreak?
      split
      · next heq =>
        cases heq
        cases h
      · next heq =>
        cases heq
        simp_all [isBreak]
      · rfl

/-! ## Starts of words -/

/-- Where no word ends, no line does: `atLineEnd` implies `atBlank`. -/
theorem atLineEnd_of_atBlank (h : atBlank text = false) : atLineEnd text = false := by
  cases text with
  | nil => cases h
  | cons c rest => exact (Bool.or_eq_false_iff.1 h).1

/-- A printable character ends no line, and is no gap unless it is a space: neither `isBreak` nor
`isGap`. -/
theorem isBreak_of_isPrintable (h : isPrintable c = true) (hspace : c ≠ ' ') :
    isBreak c = false ∧ isGap c = false := by
  constructor
  · simp only [isBreak, Bool.or_eq_false_iff, beq_eq_false_iff_ne]
    refine ⟨⟨⟨⟨?_, ?_⟩, ?_⟩, ?_⟩, ?_⟩ <;> rintro rfl <;> exact absurd h (by decide)
  · simp only [isGap, Bool.or_eq_false_iff, beq_eq_false_iff_ne]
    refine ⟨hspace, ?_⟩
    rintro rfl
    exact absurd h (by decide)

/-- How a text starts does not depend on what follows its first character: `atBlank` looks at one.
-/
theorem atBlank_append_cons (text : List Char) (c : Char) (rest : List Char) :
    atBlank (text ++ c :: rest) = atBlank (text ++ [c]) := by
  cases text <;> rfl

/-- The gaps in front of a word are left out: `dropWhile isGap` drops `spaces count`. -/
theorem dropWhile_isGap_spaces (count : Nat) (h : atBlank text = false) :
    (spaces count ++ text).dropWhile isGap = text := by
  rw [spaces, List.dropWhile_append_of_pos fun c hc => by rw [List.eq_of_mem_replicate hc]; rfl]
  cases text with
  | nil => cases h
  | cons c rest => exact List.dropWhile_cons_of_neg (by simpa using (Bool.or_eq_false_iff.1 h).2)

/-- Spaces alone are left out as well: `dropWhile (· == ' ')` drops `spaces count`. -/
theorem dropWhile_space_spaces (count : Nat) (h : text.head? ≠ some ' ') :
    (spaces count ++ text).dropWhile (· == ' ') = text := by
  rw [spaces, List.dropWhile_append_of_pos fun c hc => by rw [List.eq_of_mem_replicate hc]; rfl]
  cases text with
  | nil => rfl
  | cons c rest =>
      exact List.dropWhile_cons_of_neg (by simpa using fun heq => h (congrArg some heq))

/-! ## Characters of written texts -/

/-- Printable characters satisfy `isPlainChar`. -/
theorem isPlainChar_of_isPrintable (h : isPrintable c = true) : isPlainChar c = true :=
  Bool.or_eq_true_iff.2 (.inr h)

/-- An indentation satisfies `isPlainChar`, as spaces do. -/
theorem all_isPlainChar_spaces (count : Nat) : (spaces count).all isPlainChar = true := by
  rw [spaces, List.all_replicate]
  split <;> rfl

/-- An indentation on a new line, `newLine indent`, satisfies `isPlainChar`. -/
theorem all_isPlainChar_newLine (indent : Nat) : (newLine indent).all isPlainChar = true := by
  rw [newLine, List.all_cons, all_isPlainChar_spaces]
  rfl

end TreeSift.Yaml
