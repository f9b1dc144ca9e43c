import TreeSift.Proofs.Yaml.Chars
import TreeSift.Proofs.Yaml.Lexing
import TreeSift.Yaml.Reader

/-! # Texts without a document

A YAML text of spaces and line breaks has no tokens, and so no document: it is read as nothing
(`read_of_isBlankText`). -/

namespace TreeSift.Yaml

open TreeSift.Document

/-- The text holds nothing but spaces and line breaks, as `isBreak` knows them. -/
def isBlankText (text : String) : Bool :=
  text.toList.all fun c => c == ' ' || isBreak c

/-- No token comes in a text of spaces and line breaks: `skipToToken` gets to its end. -/
theorem skipToToken_of_blank {text : List Char} (h : ∀ c ∈ text, c = ' ' ∨ isBreak c = true)
    {fuel : Nat} (hfuel : text.length < fuel) : (Lex.skipToToken fuel text).1 = [] := by
  induction fuel generalizing text with
  | zero => omega
  | succ fuel ih =>
      have hmem : ∀ c ∈ text.dropWhile (· == ' '), c = ' ' ∨ isBreak c = true := fun c hc =>
        h c ((List.dropWhile_sublist _).subset hc)
      have hlength := (List.dropWhile_sublist (· == ' ') (l := text)).length_le
      have hhead := List.head?_dropWhile_not (· == ' ') text
      rw [Lex.skipToToken]
      cases hrest : text.dropWhile (· == ' ') with
      | nil => rfl
      | cons c rest =>
          rw [hrest] at hmem hlength hhead
          have hbreak : isBreak c = true := by
            rcases hmem c List.mem_cons_self with rfl | hbreak
            · simp at hhead
            · exact hbreak
          have hcomment : ¬((c :: rest).head? == some '#') = true := by
            simp only [List.head?_cons, beq_iff_eq, Option.some.injEq]
            rintro rfl
            exact absurd hbreak (by decide)
          obtain ⟨d, left, htake⟩ := exists_takeBreak?_eq_some hbreak rest
          have hleft := length_lt_of_takeBreak? htake
          simp only [hcomment, if_false, htake, Bool.false_eq_true]
          exact ih (fun e he => hmem e (mem_of_takeBreak? htake e he)) (by omega)

/-- Spaces and line breaks may stand in a text: `isAllowed` accepts them. -/
theorem isAllowed_of_blank {c : Char} (h : c = ' ' ∨ isBreak c = true) : isAllowed c = true := by
  rcases h with rfl | h
  · rfl
  · simp only [isBreak, Bool.or_eq_true, beq_iff_eq] at h
    rcases h with (((rfl | rfl) | rfl) | rfl) | rfl <;> rfl

/-- A text of spaces and line breaks has no tokens: `Token.ofText` gives none. -/
theorem ofText_of_blank {text : List Char} (h : ∀ c ∈ text, c = ' ' ∨ isBreak c = true) :
    Token.ofText text = [] := by
  have hallowed : text.all isAllowed = true :=
    List.all_eq_true.2 fun c hc => isAllowed_of_blank (h c hc)
  have hmark : ¬(text.head? == some '\ufeff') = true := by
    intro hhead
    rcases h _ (List.mem_of_head? (beq_iff_eq.1 hhead)) with hspace | hbreak
    · cases hspace
    · exact absurd hbreak (by decide)
  have hskip := skipToToken_of_blank h (Nat.lt_succ_self text.length)
  have hways : (Lex.goToToken >>= fun _ => Lex.dropStaleKeys).run
      ⟨⟨text, 0, 0, 0⟩, [], none, [], true, 0, []⟩ = _ :=
    (run_bind_of_run (@Lex.run_goToToken ⟨⟨text, 0, 0, 0⟩, [], none, [], true, 0, []⟩ [] _
      (Prod.ext hskip rfl))).trans (Lex.run_dropStaleKeys rfl rfl)
  obtain ⟨s, hstep, htokens⟩ := Lex.run_step_of_end hways (Cursor.rest_moveTo_nil _) rfl rfl
  rw [Token.ofText, if_pos hallowed]
  simp only [hmark, if_false, Bool.false_eq_true]
  rw [Lex.steps, hstep]
  dsimp only
  rw [htokens]
  rfl

/-- **A text of spaces and line breaks is nothing**: `read` gives `.null`. -/
theorem read_of_isBlankText {text : String} (h : isBlankText text = true) :
    read text = .ok .null := by
  have hblank : ∀ c ∈ text.toList, c = ' ' ∨ isBreak c = true := by
    simpa [isBlankText] using h
  rw [read, ofText_of_blank hblank]
  rfl

end TreeSift.Yaml
