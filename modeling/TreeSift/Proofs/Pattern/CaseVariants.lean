import TreeSift.Proofs.Glob.Corresponding
import TreeSift.Proofs.Pattern.Spelling
import TreeSift.Proofs.Text.Folding

/-! # Case variants

Where case is ignored, characters count as the same if they have the same folding, except for the two symbols
for theta, which clash (`Glob.sameChar_insensitive_iff`). So case variants answer alike if what corresponds
clashes alike (`Pattern.answersAlike_of_clash_iff`). Wherever a symbol takes part, something is told apart: by
the shortest path for a glob, or by the glob that asks for the characters of a path that fold like the symbols
(`Pattern.answersAlike_caseVariants_iff`). -/

namespace TreeSift

open TreeSift.Text

namespace Glob

variable {a b c d s : Char}

/-! ## Characters that count as the same -/

/-- **Characters count as the same** under `.insensitive` exactly if they have the same folding and
do not `Clash`. -/
theorem sameChar_insensitive_iff :
    CaseMode.insensitive.sameChar a b = true ↔ folded a = folded b ∧ ¬Clash a b := by
  rw [← sharesCase_iff, CaseMode.sameChar, Bool.or_eq_true, Bool.or_eq_true, beq_iff_eq, beq_iff_eq,
    beq_iff_eq, or_assoc]

/-- The characters that mean something in globs and paths: separators, `*` and `?`. -/
def marks : List Char :=
  ['*', '?', '/', '\\']

/-- **A mark counts as the same as itself alone**, as none of `marks` has a case. -/
theorem eq_of_sameChar_of_mem_marks (ha : a ∈ marks) (h : CaseMode.insensitive.sameChar a b = true) :
    b = a := by
  have hupper : ∀ a ∈ marks, upper a = [a] ∧ caseSources upperRuns upperSequences [a] = [a] :=
    List.all_iff_forall_prop.1 (by decide +kernel)
  have hlower : ∀ a ∈ marks, lower a = [a] ∧ caseSources lowerRuns lowerSequences [a] = [a] :=
    List.all_iff_forall_prop.1 (by decide +kernel)
  have hnull : ∀ a ∈ marks, Char.ofNat 0 ∉ [a] :=
    List.all_iff_forall_prop.1 (by decide)
  rw [CaseMode.sameChar, Bool.or_eq_true, Bool.or_eq_true, beq_iff_eq, beq_iff_eq, beq_iff_eq] at h
  rcases h with (rfl | h) | h
  · rfl
  · obtain ⟨hself, hsources⟩ := hupper a ha
    have hmem : b ∈ caseSources upperRuns upperSequences [a] :=
      mem_caseSources (h.symm.trans hself) (hnull a ha)
    rwa [hsources, List.mem_singleton] at hmem
  · obtain ⟨hself, hsources⟩ := hlower a ha
    have hmem : b ∈ caseSources lowerRuns lowerSequences [a] :=
      mem_caseSources (h.symm.trans hself) (hnull a ha)
    rwa [hsources, List.mem_singleton] at hmem

/-- A character is the mark `s` exactly if one that counts as the same is. -/
theorem eq_iff_eq_of_sameChar (hs : s ∈ marks) (h : CaseMode.insensitive.sameChar a b = true) :
    a = s ↔ b = s := by
  constructor
  · rintro rfl
    exact eq_of_sameChar_of_mem_marks hs h
  · rintro rfl
    rw [CaseMode.sameChar_comm] at h
    exact eq_of_sameChar_of_mem_marks hs h

/-- Characters that count as the same separate alike: separators are `marks`. -/
theorem isSeparator_eq_of_sameChar (h : CaseMode.insensitive.sameChar a b = true) :
    isSeparator a = isSeparator b := by
  have hslash := eq_iff_eq_of_sameChar (s := '/') (by decide) h
  have hbackslash := eq_iff_eq_of_sameChar (s := '\\') (by decide) h
  rw [Bool.eq_iff_iff, isSeparator, isSeparator, Bool.or_eq_true, Bool.or_eq_true, beq_iff_eq, beq_iff_eq,
    beq_iff_eq, beq_iff_eq, hslash, hbackslash]

/-! ## Case variants -/

/-- **Case variants**: texts whose characters count as the same one by one, under `.insensitive`. -/
def CaseVariants : List Char → List Char → Prop :=
  List.Forall₂ fun a b => CaseMode.insensitive.sameChar a b = true

/-- **Case variants of paths**: as many segments, which are `CaseVariants` one by one. -/
def PathVariants (path place : String) : Prop :=
  List.Forall₂ CaseVariants (tokenize path.toList) (tokenize place.toList)

theorem CaseVariants.symm {text other : List Char} (h : CaseVariants text other) :
    CaseVariants other text :=
  .flip (h.imp fun a b hab => by rwa [flip, CaseMode.sameChar_comm])

theorem PathVariants.symm {path place : String} (h : PathVariants path place) : PathVariants place path :=
  .flip (h.imp fun _ _ => CaseVariants.symm)

/-- **Symbols stay** if two characters are the same one of `thetaSymbols` or neither is one. -/
def KeepsSymbols (a b : Char) : Prop :=
  ∀ σ ∈ thetaSymbols, a = σ ↔ b = σ

theorem clash_comm : Clash a b ↔ Clash b a := by
  rw [Clash, Clash, ← and_assoc, ← and_assoc, and_comm (a := a ∈ thetaSymbols), ne_comm]

/-- Where symbols stay, characters `Clash` as before. -/
theorem KeepsSymbols.clash_iff (h : KeepsSymbols a b) : Clash a c ↔ Clash b c := by
  constructor
  · rintro ⟨ha, hc, hne⟩
    rw [(h a ha).1 rfl]
    exact ⟨ha, hc, hne⟩
  · rintro ⟨hb, hc, hne⟩
    rw [(h b hb).2 rfl]
    exact ⟨hb, hc, hne⟩

/-- If `a` counts as the same as `b` and `c` as `d`, then `a` counts as the same as `c` exactly if
`b` does as `d`, provided that both pairs `Clash` or neither does. -/
theorem sameChar_eq (hab : CaseMode.insensitive.sameChar a b = true)
    (hcd : CaseMode.insensitive.sameChar c d = true) (hclash : Clash a c ↔ Clash b d) :
    CaseMode.insensitive.sameChar a c = CaseMode.insensitive.sameChar b d := by
  rw [Bool.eq_iff_iff, sameChar_insensitive_iff, sameChar_insensitive_iff,
    (sameChar_insensitive_iff.1 hab).1, (sameChar_insensitive_iff.1 hcd).1, hclash]

/-- **Characters agree** if those that correspond in `P` and in `Q` count as the same and `Clash`
alike. -/
theorem agrees_of_clash_iff {P Q : Char → Char → Prop}
    (hP : ∀ {a b}, P a b → CaseMode.insensitive.sameChar a b = true)
    (hQ : ∀ {c d}, Q c d → CaseMode.insensitive.sameChar c d = true)
    (hclash : ∀ {a b c d}, P a b → Q c d → (Clash a c ↔ Clash b d)) : Agrees .insensitive P Q := by
  refine ⟨fun hp => eq_iff_eq_of_sameChar (by decide) (hP hp), fun {a b c d} hp hq => ?_⟩
  have hmark : (a == '?') = (b == '?') := by
    rw [Bool.eq_iff_iff, beq_iff_eq, beq_iff_eq]
    exact eq_iff_eq_of_sameChar (by decide) (hP hp)
  rw [charMatches, charMatches, hmark, sameChar_eq (hP hp) (hQ hq) (hclash hp hq)]

end Glob

namespace Pattern

open Glob

variable {mode : CaseMode} {source other : List Char} {path place : String}

/-- Where characters correspond, both texts `endsOpen` or neither does. -/
theorem endsOpen_eq {text other : List Char}
    (h : List.Forall₂ (fun c d => isSeparator c = isSeparator d) text other) :
    endsOpen text = endsOpen other := by
  induction h with
  | nil => rfl
  | @cons c d text other hcd h ih =>
      cases h with
      | nil => simpa [endsOpen] using hcd
      | cons _ _ =>
          rw [← List.singleton_append, endsOpen_append_of_ne_nil _ (List.cons_ne_nil _ _), ih,
            ← endsOpen_append_of_ne_nil [d] (List.cons_ne_nil _ _), List.singleton_append]

/-- **Globs have corresponding tokens** exactly if the characters correspond in `R` that are no
separators. -/
theorem forall₂_tokens_ofGlob_iff {R : Char → Char → Prop} (hstar : R '*' '*')
    (h : List.Forall₂ (fun c d => isSeparator c = isSeparator d) source other) :
    List.Forall₂ (List.Forall₂ R) (ofGlob source).tokens (ofGlob other).tokens ↔
      List.Forall₂ (fun c d => isSeparator c = true ∨ R c d) source other := by
  have hcompletion : List.Forall₂ (List.Forall₂ R) (if endsOpen other then [deepWildcard] else [])
      (if endsOpen other then [deepWildcard] else []) := by
    split
    · exact .cons (.cons hstar (.cons hstar .nil)) .nil
    · exact .nil
  rw [tokens_ofGlob, tokens_ofGlob, endsOpen_eq h, ← forall₂_tokenize_iff h]
  refine ⟨fun htokens => ?_, fun htokens => List.rel_append htokens hcompletion⟩
  have hlength : (tokenize source).length = (tokenize other).length := by
    have hlength := htokens.length_eq
    rw [List.length_append, List.length_append] at hlength
    exact Nat.add_right_cancel hlength
  -- the deep wildcard that completes both globs is left off
  have htake := List.forall₂_take_append _ _ _ htokens
  rwa [List.take_left' hlength] at htake

/-- **Globs answer alike** if their characters agree with those of the paths: `AnswersAlike` from
`Agrees`. -/
theorem answersAlike_of_agrees {P Q : Char → Char → Prop} (h : Agrees mode P Q)
    (hseparator : ∀ {a b}, P a b → isSeparator a = isSeparator b) (hstar : P '*' '*')
    (hsource : List.Forall₂ P source other)
    (hpath : List.Forall₂ (List.Forall₂ Q) (tokenize path.toList) (tokenize place.toList)) :
    AnswersAlike mode (ofGlob source) (ofGlob other) path place := by
  have htokens := (forall₂_tokens_ofGlob_iff hstar (hsource.imp fun _ _ => hseparator)).2
    (hsource.imp fun _ _ => .inr)
  constructor
  · rw [matchesPath_ofGlob, matchesPath_ofGlob, h.matchTokens_eq htokens hpath]
  · rw [matchesStart_ofGlob, matchesStart_ofGlob, h.matchStart_eq htokens hpath]

/-- **Case variants answer alike** if what corresponds `Clash`es alike. -/
theorem answersAlike_of_clash_iff {P Q : Char → Char → Prop}
    (hP : ∀ {a b}, P a b → CaseMode.insensitive.sameChar a b = true)
    (hQ : ∀ {c d}, Q c d → CaseMode.insensitive.sameChar c d = true)
    (hclash : ∀ {a b c d}, P a b → Q c d → (Clash a c ↔ Clash b d)) (hstar : P '*' '*')
    (hsource : List.Forall₂ P source other)
    (hpath : List.Forall₂ (List.Forall₂ Q) (tokenize path.toList) (tokenize place.toList)) :
    AnswersAlike .insensitive (ofGlob source) (ofGlob other) path place :=
  answersAlike_of_agrees (agrees_of_clash_iff hP hQ hclash) (fun h => isSeparator_eq_of_sameChar (hP h))
    hstar hsource hpath

/-- A glob without `thetaSymbols` cannot tell case variants of paths apart. -/
theorem answersAlike_of_forall_not_mem (hsource : ∀ c ∈ source, c ∉ thetaSymbols)
    (hpath : PathVariants path place) :
    AnswersAlike .insensitive (ofGlob source) (ofGlob source) path place := by
  refine answersAlike_of_clash_iff (P := fun a b => a = b ∧ a ∉ thetaSymbols)
    (fun ⟨hab, _⟩ => by rw [hab, CaseMode.sameChar_refl]) id ?_ ⟨rfl, by decide⟩
    (List.forall₂_same.2 fun c hc => ⟨rfl, hsource c hc⟩) hpath
  rintro a _ c d ⟨rfl, ha⟩ -
  exact iff_of_false (fun hclash => ha hclash.1) (fun hclash => ha hclash.1)

/-- Case variants of paths with the same `thetaSymbols` are not told apart by any glob. -/
theorem answersAlike_of_keepsSymbols (source : List Char) (hpath : PathVariants path place)
    (hkeeps : List.Forall₂ (List.Forall₂ KeepsSymbols) (tokenize path.toList) (tokenize place.toList)) :
    AnswersAlike .insensitive (ofGlob source) (ofGlob source) path place := by
  refine answersAlike_of_clash_iff (P := Eq) (fun hab => by rw [hab, CaseMode.sameChar_refl]) And.left ?_ rfl
    (List.forall₂_same.2 fun _ _ => rfl)
    (List.Forall₂.mp (fun _ _ => List.Forall₂.mp fun _ _ => And.intro) hpath hkeeps)
  rintro a _ c d rfl ⟨-, hkeeps⟩
  rw [clash_comm, hkeeps.clash_iff, clash_comm]

/-- About a path without `thetaSymbols`, case variants of globs answer alike. -/
theorem answersAlike_of_forall_not_mem_path (hsource : CaseVariants source other)
    (hpath : ∀ c ∈ path.toList, c ∉ thetaSymbols) :
    AnswersAlike .insensitive (ofGlob source) (ofGlob other) path path := by
  have hsegments : List.Forall₂ (List.Forall₂ fun c d => c = d ∧ c ∉ thetaSymbols)
      (tokenize path.toList) (tokenize path.toList) :=
    (forall₂_tokenize_iff (List.forall₂_same.2 fun _ _ => rfl)).2
      (List.forall₂_same.2 fun c hc => .inr ⟨rfl, hpath c hc⟩)
  refine answersAlike_of_clash_iff id (fun ⟨hcd, _⟩ => by rw [hcd, CaseMode.sameChar_refl]) ?_
    (CaseMode.sameChar_refl _ _) hsource hsegments
  rintro a b c _ - ⟨rfl, hc⟩
  exact iff_of_false (fun hclash => hc hclash.2.1) (fun hclash => hc hclash.2.1)

/-- Case variants of globs with the same `thetaSymbols` answer alike about every path. -/
theorem answersAlike_of_keepsSymbols_source (hsource : CaseVariants source other)
    (hkeeps : List.Forall₂ KeepsSymbols source other) (path : String) :
    AnswersAlike .insensitive (ofGlob source) (ofGlob other) path path := by
  refine answersAlike_of_clash_iff
    (P := fun a b => CaseMode.insensitive.sameChar a b = true ∧ KeepsSymbols a b) (Q := Eq)
    And.left (fun hcd => by rw [hcd, CaseMode.sameChar_refl]) ?_
    ⟨CaseMode.sameChar_refl _ _, fun _ _ => Iff.rfl⟩ (List.Forall₂.mp (fun _ _ => And.intro) hsource hkeeps)
    (List.forall₂_same.2 fun _ _ => List.forall₂_same.2 fun _ _ => rfl)
  rintro a b c _ ⟨-, hkeeps⟩ rfl
  exact hkeeps.clash_iff

/-! ## Symbols and what takes their place -/

/-- The letter theta, which counts as the same as either of `thetaSymbols`. -/
def theta : Char :=
  '\u03b8'

/-- The other one of `thetaSymbols`. -/
def otherSymbol (σ : Char) : Char :=
  if σ = '\u03d1' then '\u03f4' else '\u03d1'

/-- A question mark for every character, to be the `otherwise` of `letterFor`. -/
def questionMark (_ : Char) : Char :=
  '?'

theorem questionMark_ne_star (c : Char) : questionMark c ≠ '*' := by
  rw [questionMark]
  decide

/-- The letter `theta` in place of a symbol, and what `otherwise` says for other characters. -/
def letterFor (otherwise : Char → Char) (c : Char) : Char :=
  if c ∈ thetaSymbols then theta else otherwise c

/-- The other symbol in place of a symbol, and what `otherwise` says for other characters. -/
def otherFor (otherwise : Char → Char) (c : Char) : Char :=
  if c ∈ thetaSymbols then otherSymbol c else otherwise c

/-- The other symbol in place of what counts as the same as `σ` and is none of the symbols, and what
`otherwise` says for the rest. -/
def otherThan (σ : Char) (otherwise : Char → Char) (c : Char) : Char :=
  if c ∉ thetaSymbols ∧ CaseMode.insensitive.sameChar c σ = true then otherSymbol σ else otherwise c

section Symbols

variable {σ c d : Char} {otherwise : Char → Char}

theorem otherSymbol_mem : ∀ σ ∈ thetaSymbols, otherSymbol σ ∈ thetaSymbols :=
  List.all_iff_forall_prop.1 (by decide)

/-- A symbol does not count as the same as the other one, `otherSymbol σ`. -/
theorem not_sameChar_otherSymbol : ∀ σ ∈ thetaSymbols,
    CaseMode.insensitive.sameChar σ (otherSymbol σ) = false :=
  List.all_iff_forall_prop.1 (by decide +kernel)

/-- The letter `theta` counts as the same as either symbol. -/
theorem sameChar_theta : ∀ σ ∈ thetaSymbols, CaseMode.insensitive.sameChar σ theta = true :=
  List.all_iff_forall_prop.1 (by decide +kernel)

/-- None of `thetaSymbols` is a separator. -/
theorem isSeparator_of_mem_thetaSymbols : ∀ σ ∈ thetaSymbols, isSeparator σ = false :=
  List.all_iff_forall_prop.1 (by decide)

/-- None of `thetaSymbols` is a star. -/
theorem ne_star_of_mem_thetaSymbols : ∀ σ ∈ thetaSymbols, σ ≠ '*' :=
  List.all_iff_forall_prop.1 (by decide)

/-- A symbol covers what counts as the same: it is no wildcard, so that `charMatches` is `sameChar`.
-/
theorem charMatches_of_mem_thetaSymbols (hσ : σ ∈ thetaSymbols) :
    charMatches .insensitive σ c = CaseMode.insensitive.sameChar σ c := by
  have hmark : ∀ σ ∈ thetaSymbols, (σ == '?') = false :=
    List.all_iff_forall_prop.1 (by decide)
  rw [charMatches, hmark σ hσ, Bool.false_or]

/-- What counts as the same as one symbol and is none counts as the same as `otherSymbol σ`. -/
theorem sameChar_otherSymbol (hσ : σ ∈ thetaSymbols) (hc : c ∉ thetaSymbols)
    (h : CaseMode.insensitive.sameChar c σ = true) :
    CaseMode.insensitive.sameChar c (otherSymbol σ) = true := by
  have hletter := sameChar_insensitive_iff.1 (sameChar_theta σ hσ)
  have hother := sameChar_insensitive_iff.1 (sameChar_theta _ (otherSymbol_mem σ hσ))
  rw [sameChar_insensitive_iff] at h ⊢
  exact ⟨h.1.trans (hletter.1.trans hother.1.symm), fun hclash => hc hclash.1⟩

/-- What takes the place of symbols counts as the same: `letterFor` and `otherFor` differ in nothing
else. -/
theorem sameChar_letterFor_otherFor (otherwise : Char → Char) (c : Char) :
    CaseMode.insensitive.sameChar (letterFor otherwise c) (otherFor otherwise c) = true := by
  rw [letterFor, otherFor]
  split
  · next hc =>
    rw [CaseMode.sameChar_comm]
    exact sameChar_theta _ (otherSymbol_mem c hc)
  · exact CaseMode.sameChar_refl _ _

/-- What counts as the same as a symbol is the symbol, or has the other one in its place in
`otherThan`. -/
theorem eq_or_otherThan_eq (hσ : σ ∈ thetaSymbols) (h : CaseMode.insensitive.sameChar σ c = true) :
    c = σ ∨ otherThan σ otherwise c = otherSymbol σ := by
  by_cases hc : c ∈ thetaSymbols
  · refine .inl ?_
    by_contra hne
    exact (sameChar_insensitive_iff.1 h).2 ⟨hσ, hc, Ne.symm hne⟩
  · rw [CaseMode.sameChar_comm] at h
    rw [otherThan, if_pos ⟨hc, h⟩]
    exact .inr rfl

/-- What holds of `theta` and of what stands otherwise holds of what `letterFor` gives. -/
theorem letterFor_of {p : Char → Prop} (htheta : p theta) (h : p (otherwise c)) :
    p (letterFor otherwise c) := by
  rw [letterFor]
  split
  · exact htheta
  · exact h

theorem otherFor_of {p : Char → Prop} (hsymbols : ∀ σ ∈ thetaSymbols, p σ) (h : p (otherwise c)) :
    p (otherFor otherwise c) := by
  rw [otherFor]
  split
  · next hc => exact hsymbols _ (otherSymbol_mem c hc)
  · exact h

theorem otherThan_of {p : Char → Prop} (hσ : σ ∈ thetaSymbols) (hsymbols : ∀ σ ∈ thetaSymbols, p σ)
    (h : p (otherwise c)) : p (otherThan σ otherwise c) := by
  rw [otherThan]
  split
  · exact hsymbols _ (otherSymbol_mem σ hσ)
  · exact h

end Symbols

/-! ## Texts of tokens -/

/-- The text of tokens: they are joined with slashes. -/
def textOf (tokens : List Segment) : List Char :=
  ['/'].intercalate tokens

/-- The text of tokens does not `endsOpen`. -/
theorem endsOpen_textOf {tokens : List Segment} (h : ∀ token ∈ tokens, IsToken token) :
    endsOpen (textOf tokens) = false := by
  induction tokens with
  | nil => rfl
  | cons token tokens ih =>
      obtain ⟨htoken, htokens⟩ := List.forall_mem_cons.1 h
      cases tokens with
      | nil =>
          rw [textOf, List.intercalate_singleton]
          exact htoken.endsOpen_eq_false
      | cons next tokens =>
          have hne : textOf (next :: tokens) ≠ [] := by
            intro hnil
            have htokenize := tokenize_intercalate htokens
            rw [← textOf, hnil] at htokenize
            cases htokenize
          rw [textOf, List.intercalate_cons_cons, ← textOf, endsOpen_append_of_ne_nil _ hne, ih htokens]

/-- A glob of the text of tokens has these tokens: `tokenize` undoes `textOf`. -/
theorem tokens_ofGlob_textOf {tokens : List Segment} (h : ∀ token ∈ tokens, IsToken token) :
    (ofGlob (textOf tokens)).tokens = tokens := by
  rw [tokens_ofGlob, endsOpen_textOf h, textOf, tokenize_intercalate h]
  exact List.append_nil tokens

/-- The texts of tokens that correspond in `R` correspond, if `R` relates slashes. -/
theorem forall₂_textOf {R : Char → Char → Prop} (hslash : R '/' '/') {tokens others : List Segment}
    (h : List.Forall₂ (List.Forall₂ R) tokens others) : List.Forall₂ R (textOf tokens) (textOf others) := by
  induction h with
  | nil => exact .nil
  | cons htoken h ih =>
      cases h with
      | nil =>
          rw [textOf, textOf, List.intercalate_singleton, List.intercalate_singleton]
          exact htoken
      | cons _ _ =>
          rw [textOf, textOf, List.intercalate_cons_cons, List.intercalate_cons_cons, ← textOf, ← textOf]
          exact List.rel_append (List.rel_append htoken (.cons hslash .nil)) ih

/-- The path of tokens: their `textOf` as a string. -/
def pathOf (tokens : List Segment) : String :=
  String.ofList (textOf tokens)

/-- The path of tokens has these tokens: `tokenize` undoes `pathOf`. -/
theorem tokenize_pathOf {tokens : List Segment} (h : ∀ token ∈ tokens, IsToken token) :
    tokenize (pathOf tokens).toList = tokens := by
  rw [pathOf, String.toList_ofList, textOf, tokenize_intercalate h]

/-! ## What is told apart -/

/-- Globs that answer alike match alike: `PathMatches` holds of both or of neither. -/
theorem AnswersAlike.pathMatches_iff
    (h : AnswersAlike mode (ofGlob source) (ofGlob other) path place) :
    PathMatches mode (ofGlob source).tokens (tokenize path.toList) ↔
      PathMatches mode (ofGlob other).tokens (tokenize place.toList) := by
  have hmatches := h.matchesPath_eq
  rw [matchesPath_ofGlob, matchesPath_ofGlob, Except.ok.injEq, Bool.eq_iff_iff,
    matchTokens_eq_true_iff, matchTokens_eq_true_iff] at hmatches
  exact hmatches

/-- The order of globs does not matter to `AnswersAlike`. -/
theorem AnswersAlike.symm (h : AnswersAlike mode (ofGlob source) (ofGlob other) path place) :
    AnswersAlike mode (ofGlob other) (ofGlob source) place path :=
  ⟨h.matchesPath_eq.symm, h.matchesStart_eq.symm⟩

/-- A shortest path for a glob, `leastPath`, is matched by a case variant of it exactly if its
characters are covered one by one. -/
theorem pathMatches_pathOf_iff {write : Char → Char}
    (hwrite : ∀ c, isSeparator c = false → isSeparator (write c) = false)
    (h : CaseVariants source other) :
    PathMatches mode (ofGlob source).tokens
        (tokenize (pathOf (leastPath write (ofGlob other).tokens)).toList) ↔
      List.Forall₂ (fun c d => isSeparator c = true ∨ Covers mode write c d) source other := by
  have htokens (source : List Char) : ∀ token ∈ (ofGlob source).tokens, IsToken token :=
    fun _ => isToken_of_mem_tokenize
  have hseparator := h.imp fun _ _ => isSeparator_eq_of_sameChar
  have hstars : List.Forall₂ (List.Forall₂ StarsAlike) (ofGlob source).tokens (ofGlob other).tokens :=
    (forall₂_tokens_ofGlob_iff Iff.rfl hseparator).2
      (h.imp fun _ _ hsame => .inr (eq_iff_eq_of_sameChar (by decide) hsame))
  rw [tokenize_pathOf (isToken_of_mem_leastPath (htokens other) hwrite),
    pathMatches_leastPath_iff write (fun token htoken => (htokens source token htoken).ne_nil) hstars,
    forall₂_tokens_ofGlob_iff (.inl rfl) hseparator]

/-- A text is one of its own `CaseVariants`. -/
theorem caseVariants_refl (text : List Char) : CaseVariants text text :=
  List.forall₂_same.2 fun c _ => CaseMode.sameChar_refl _ c

/-- A symbol that stands in a glob is not covered by what separates or by `otherSymbol σ`. -/
theorem not_covers_of_mem_thetaSymbols {σ : Char} {write : Char → Char} (hσ : σ ∈ thetaSymbols)
    (hwrite : write d = otherSymbol σ) : ¬(isSeparator σ = true ∨ Covers .insensitive write σ d) := by
  rw [isSeparator_of_mem_thetaSymbols σ hσ, Covers, hwrite, charMatches_of_mem_thetaSymbols hσ,
    not_sameChar_otherSymbol σ hσ]
  simpa using ne_star_of_mem_thetaSymbols σ hσ

/-- **A glob with a symbol** tells case variants of a path apart: it matches a shortest path with
`theta` and not the one with the other symbol. -/
theorem forall_not_mem_of_answersAlike (h : ∀ path place, PathVariants path place →
    AnswersAlike .insensitive (ofGlob source) (ofGlob source) path place) :
    ∀ c ∈ source, c ∉ thetaSymbols := by
  have htokens : ∀ token ∈ (ofGlob source).tokens, IsToken token :=
    fun _ => isToken_of_mem_tokenize
  have hletter : ∀ c, isSeparator c = false → isSeparator (letterFor id c) = false :=
    fun _ h => letterFor_of (p := fun c => isSeparator c = false) (by decide) h
  have hother : ∀ c, isSeparator c = false → isSeparator (otherFor id c) = false :=
    fun _ h => otherFor_of (p := fun c => isSeparator c = false) isSeparator_of_mem_thetaSymbols h
  -- the shortest paths for the glob, with the letter for each symbol and with the other symbol for each
  have hvariants : PathVariants (pathOf (leastPath (letterFor id) (ofGlob source).tokens))
      (pathOf (leastPath (otherFor id) (ofGlob source).tokens)) := by
    rw [PathVariants, tokenize_pathOf (isToken_of_mem_leastPath htokens hletter),
      tokenize_pathOf (isToken_of_mem_leastPath htokens hother)]
    exact forall₂_leastPath (sameChar_letterFor_otherFor id) (CaseMode.sameChar_refl _ _) _
  have hmatches := (h _ _ hvariants).pathMatches_iff
  rw [pathMatches_pathOf_iff hletter (caseVariants_refl source),
    pathMatches_pathOf_iff hother (caseVariants_refl source), List.forall₂_same, List.forall₂_same]
    at hmatches
  have hcovers : ∀ c ∈ source, isSeparator c = true ∨ Covers .insensitive (letterFor id) c c := by
    intro c _
    refine .inr (.inr ?_)
    rw [charMatches, letterFor, Bool.or_eq_true]
    split
    · next hc => exact .inr (sameChar_theta c hc)
    · exact .inr (CaseMode.sameChar_refl _ c)
  intro c hc hmem
  exact not_covers_of_mem_thetaSymbols hmem (if_pos hmem) (hmatches.1 hcovers c hc)

/-- Elements that correspond in `R value` for each of some values correspond for all of them at
once. -/
theorem forall₂_forall_mem {α β γ : Type} {R : γ → α → β → Prop} {values : List γ} {xs : List α}
    {ys : List β} (hlength : xs.length = ys.length)
    (h : ∀ value ∈ values, List.Forall₂ (R value) xs ys) :
    List.Forall₂ (fun x y => ∀ value ∈ values, R value x y) xs ys := by
  refine List.forall₂_iff_zip.2 ⟨hlength, fun hmem value hvalue => ?_⟩
  exact (List.forall₂_iff_zip.1 (h value hvalue)).2 hmem

/-- Globs that answer alike about the shortest path with `otherThan σ` written hold the symbol `σ`
at the same places. -/
theorem keepsSymbol_of_answersAlike_source {σ : Char} (hσ : σ ∈ thetaSymbols)
    (hsource : CaseVariants source other)
    (h : ∀ path, AnswersAlike .insensitive (ofGlob source) (ofGlob other) path path) :
    List.Forall₂ (fun a b => a = σ → b = σ) source other := by
  have hother : ∀ c, isSeparator c = false → isSeparator (otherThan σ id c) = false :=
    fun _ h => otherThan_of (p := fun c => isSeparator c = false) hσ isSeparator_of_mem_thetaSymbols h
  have hmatches := (h (pathOf (leastPath (otherThan σ id) (ofGlob other).tokens))).pathMatches_iff
  rw [pathMatches_pathOf_iff hother hsource, pathMatches_pathOf_iff hother (caseVariants_refl other),
    List.forall₂_same] at hmatches
  have hself : ∀ c ∈ other, isSeparator c = true ∨ Covers .insensitive (otherThan σ id) c c := by
    intro c _
    refine .inr (.inr ?_)
    rw [charMatches, otherThan, Bool.or_eq_true]
    split
    · next hc => exact .inr (sameChar_otherSymbol hσ hc.1 hc.2)
    · exact .inr (CaseMode.sameChar_refl _ c)
  -- the other glob matches the path, so this one does; a symbol that stands alone would not cover it
  refine List.Forall₂.mp ?_ hsource (hmatches.2 hself)
  rintro a b hsame hcovers rfl
  rcases eq_or_otherThan_eq hσ hsame with heq | hwrite
  · exact heq
  · exact absurd hcovers (not_covers_of_mem_thetaSymbols hσ hwrite)

/-- **Globs that answer alike** about every path have the same symbols at the same places. -/
theorem keepsSymbols_of_answersAlike_source (hsource : CaseVariants source other)
    (h : ∀ path, AnswersAlike .insensitive (ofGlob source) (ofGlob other) path path) :
    List.Forall₂ KeepsSymbols source other := by
  refine forall₂_forall_mem hsource.length_eq fun σ hσ => ?_
  have hback : List.Forall₂ (fun b a => b = σ → a = σ) other source :=
    keepsSymbol_of_answersAlike_source hσ hsource.symm fun path => (h path).symm
  exact List.Forall₂.mp (fun _ _ => Iff.intro) (keepsSymbol_of_answersAlike_source hσ hsource h) hback.flip

/-- A glob that is written for a path, with `questionMark` for most characters, matches what its
characters cover. -/
theorem pathMatches_textOf_iff {write : Char → Char} (hstar : ∀ c, write c ≠ '*')
    (hseparator : ∀ c, isSeparator (write c) = false) (path : String) {segments : List Segment} :
    PathMatches mode (ofGlob (textOf ((tokenize path.toList).map (List.map write)))).tokens segments ↔
      List.Forall₂ (List.Forall₂ fun c d => charMatches mode (write c) d = true)
        (tokenize path.toList) segments := by
  have htokens : ∀ token ∈ (tokenize path.toList).map (List.map write), IsToken token := by
    intro token htoken
    obtain ⟨segment, hsegment, rfl⟩ := List.mem_map.1 htoken
    exact (isToken_of_mem_tokenize hsegment).map fun c _ => hseparator c
  rw [tokens_ofGlob_textOf htokens, pathMatches_map_iff hstar]

/-- The other symbol does not cover `σ`. -/
theorem not_charMatches_otherSymbol {σ : Char} (hσ : σ ∈ thetaSymbols) :
    ¬charMatches .insensitive (otherSymbol σ) σ = true := by
  rw [charMatches_of_mem_thetaSymbols (otherSymbol_mem σ hσ), CaseMode.sameChar_comm,
    not_sameChar_otherSymbol σ hσ]
  exact Bool.false_ne_true

/-- Paths that the glob with `otherThan σ` written does not tell apart hold the symbol `σ` at the
same places. -/
theorem keepsSymbol_of_answersAlike {σ : Char} (hσ : σ ∈ thetaSymbols) (hpath : PathVariants path place)
    (h : ∀ source, AnswersAlike .insensitive (ofGlob source) (ofGlob source) path place) :
    List.Forall₂ (List.Forall₂ fun x y => x = σ → y = σ) (tokenize path.toList)
      (tokenize place.toList) := by
  have hstar : ∀ c, otherThan σ questionMark c ≠ '*' :=
    fun _ => otherThan_of (p := fun c => c ≠ '*') hσ ne_star_of_mem_thetaSymbols (questionMark_ne_star _)
  have hseparator : ∀ c, isSeparator (otherThan σ questionMark c) = false :=
    fun _ => otherThan_of (p := fun c => isSeparator c = false) hσ isSeparator_of_mem_thetaSymbols rfl
  have hmatches :=
    (h (textOf ((tokenize place.toList).map (List.map (otherThan σ questionMark))))).pathMatches_iff
  rw [pathMatches_textOf_iff hstar hseparator, pathMatches_textOf_iff hstar hseparator] at hmatches
  have hself : List.Forall₂ (List.Forall₂ fun c d =>
      charMatches .insensitive (otherThan σ questionMark c) d = true)
        (tokenize place.toList) (tokenize place.toList) := by
    refine List.forall₂_same.2 fun segment _ => List.forall₂_same.2 fun c _ => ?_
    rw [otherThan]
    split
    · next hc =>
      rw [charMatches_of_mem_thetaSymbols (otherSymbol_mem σ hσ), CaseMode.sameChar_comm]
      exact sameChar_otherSymbol hσ hc.1 hc.2
    · rfl
  have hcovers : List.Forall₂ (List.Forall₂ fun d c =>
      charMatches .insensitive (otherThan σ questionMark c) d = true)
        (tokenize path.toList) (tokenize place.toList) :=
    .flip ((hmatches.2 hself).imp fun _ _ => .flip)
  -- the glob matches the second path, so it matches the first; a symbol that stands alone is not covered
  refine List.Forall₂.mp (fun _ _ => List.Forall₂.mp ?_) hpath hcovers
  rintro a b hsame hcover rfl
  rcases eq_or_otherThan_eq hσ hsame with heq | hwrite
  · exact heq
  · exact absurd (hwrite ▸ hcover) (not_charMatches_otherSymbol hσ)

/-- **Paths that no glob tells apart** have the same symbols at the same places. -/
theorem keepsSymbols_of_answersAlike (hpath : PathVariants path place)
    (h : ∀ source, AnswersAlike .insensitive (ofGlob source) (ofGlob source) path place) :
    List.Forall₂ (List.Forall₂ KeepsSymbols) (tokenize path.toList) (tokenize place.toList) := by
  have hsymbols : List.Forall₂ (fun segment other => ∀ σ ∈ thetaSymbols,
      List.Forall₂ (fun x y => x = σ ↔ y = σ) segment other) (tokenize path.toList)
        (tokenize place.toList) := by
    refine forall₂_forall_mem hpath.length_eq fun σ hσ => ?_
    have hback : List.Forall₂ (List.Forall₂ fun y x => y = σ → x = σ) (tokenize place.toList)
        (tokenize path.toList) :=
      keepsSymbol_of_answersAlike hσ hpath.symm fun source => (h source).symm
    exact List.Forall₂.mp (fun _ _ => List.Forall₂.mp fun _ _ => Iff.intro)
      (keepsSymbol_of_answersAlike hσ hpath h) (.flip (hback.imp fun _ _ => .flip))
  exact List.Forall₂.mp (fun _ _ hvariants => forall₂_forall_mem hvariants.length_eq) hpath hsymbols

/-- **A path with a symbol** tells case variants of a glob apart: one with `theta` matches it and
one with the other symbol does not. -/
theorem forall_not_mem_of_answersAlike_path (h : ∀ source other, CaseVariants source other →
    AnswersAlike .insensitive (ofGlob source) (ofGlob other) path path) :
    ∀ c ∈ path.toList, c ∉ thetaSymbols := by
  -- globs of question marks, with the letter or the other symbol where the path has a symbol
  have hvariants : CaseVariants (textOf ((tokenize path.toList).map (List.map (letterFor questionMark))))
      (textOf ((tokenize path.toList).map (List.map (otherFor questionMark)))) := by
    refine forall₂_textOf (CaseMode.sameChar_refl _ _) ?_
    rw [List.forall₂_map_left_iff, List.forall₂_map_right_iff, List.forall₂_same]
    intro segment _
    rw [List.forall₂_map_left_iff, List.forall₂_map_right_iff, List.forall₂_same]
    exact fun c _ => sameChar_letterFor_otherFor questionMark c
  have hmatches := (h _ _ hvariants).pathMatches_iff
  have hletterStar : ∀ c, letterFor questionMark c ≠ '*' :=
    fun _ => letterFor_of (p := fun c => c ≠ '*') (by decide) (questionMark_ne_star _)
  have hletter : ∀ c, isSeparator (letterFor questionMark c) = false :=
    fun _ => letterFor_of (p := fun c => isSeparator c = false) (by decide) rfl
  have hotherStar : ∀ c, otherFor questionMark c ≠ '*' :=
    fun _ => otherFor_of (p := fun c => c ≠ '*') ne_star_of_mem_thetaSymbols (questionMark_ne_star _)
  have hother : ∀ c, isSeparator (otherFor questionMark c) = false :=
    fun _ => otherFor_of (p := fun c => isSeparator c = false) isSeparator_of_mem_thetaSymbols rfl
  rw [pathMatches_textOf_iff hletterStar hletter, pathMatches_textOf_iff hotherStar hother] at hmatches
  have hself : List.Forall₂ (List.Forall₂ fun c d =>
      charMatches .insensitive (letterFor questionMark c) d = true)
        (tokenize path.toList) (tokenize path.toList) := by
    refine List.forall₂_same.2 fun segment _ => List.forall₂_same.2 fun c _ => ?_
    rw [letterFor]
    split
    · next hc =>
      rw [charMatches, CaseMode.sameChar_comm, sameChar_theta c hc, Bool.or_true]
    · rfl
  have hcovers := (forall₂_tokenize_iff (List.forall₂_same.2 fun _ _ => rfl)).1 (hmatches.1 hself)
  intro c hc hmem
  rcases List.forall₂_same.1 hcovers c hc with hseparator | hcover
  · rw [isSeparator_of_mem_thetaSymbols c hmem] at hseparator
    cases hseparator
  · rw [otherFor, if_pos hmem] at hcover
    exact not_charMatches_otherSymbol hmem hcover

/-- **Where case is ignored, only the symbols for theta tell case variants apart.** A glob answers alike
about all case variants of paths exactly if it holds no symbol, and case variants of a path are answered alike
by all globs exactly if they have the same symbols. The same holds with globs and paths exchanged. For
characters count as the same by their folding, and marks as themselves alone, but the symbols clash. -/
theorem answersAlike_caseVariants_iff (source other : List Char) (path place : String) :
    ((∀ left right, PathVariants left right →
        AnswersAlike .insensitive (ofGlob source) (ofGlob source) left right) ↔
      ∀ c ∈ source, c ∉ thetaSymbols) ∧
    (PathVariants path place →
      ((∀ glob, AnswersAlike .insensitive (ofGlob glob) (ofGlob glob) path place) ↔
        List.Forall₂ (List.Forall₂ KeepsSymbols) (tokenize path.toList) (tokenize place.toList))) ∧
    ((∀ left right, CaseVariants left right →
        AnswersAlike .insensitive (ofGlob left) (ofGlob right) path path) ↔
      ∀ c ∈ path.toList, c ∉ thetaSymbols) ∧
    (CaseVariants source other →
      ((∀ text, AnswersAlike .insensitive (ofGlob source) (ofGlob other) text text) ↔
        List.Forall₂ KeepsSymbols source other)) ∧
    (∀ a b, CaseMode.insensitive.sameChar a b = true ↔ folded a = folded b ∧ ¬Clash a b) ∧
    (∀ a b c, CaseMode.insensitive.sameChar a b = true → CaseMode.insensitive.sameChar b c = true →
      (CaseMode.insensitive.sameChar a c = true ↔ ¬Clash a c)) ∧
    ∀ a ∈ marks, ∀ b, CaseMode.insensitive.sameChar a b = true → b = a := by
  refine ⟨?_, fun hpath => ?_, ?_, fun hsource => ?_, fun _ _ => sameChar_insensitive_iff,
    fun a b c hab hbc => ?_, fun a ha b => eq_of_sameChar_of_mem_marks ha⟩
  · exact ⟨forall_not_mem_of_answersAlike,
      fun hsource _ _ => answersAlike_of_forall_not_mem hsource⟩
  · exact ⟨keepsSymbols_of_answersAlike hpath,
      fun hkeeps glob => answersAlike_of_keepsSymbols glob hpath hkeeps⟩
  · exact ⟨forall_not_mem_of_answersAlike_path,
      fun hpath _ _ hsource => answersAlike_of_forall_not_mem_path hsource hpath⟩
  · exact ⟨keepsSymbols_of_answersAlike_source hsource,
      fun hkeeps => answersAlike_of_keepsSymbols_source hsource hkeeps⟩
  · have hfolded := (sameChar_insensitive_iff.1 hab).1.trans (sameChar_insensitive_iff.1 hbc).1
    rw [sameChar_insensitive_iff, and_iff_right hfolded]

/-- The glob of the symbol in lower case tells the letter and the symbol in upper case apart, and the path of
that symbol tells the globs of the other two apart, although these count as the same. -/
theorem not_answersAlike_thetaSymbols :
    (PathVariants "\u03b8" "\u03f4" ∧
      (ofGlob ['\u03d1']).matchesPath .insensitive "\u03b8" = .ok true ∧
      (ofGlob ['\u03d1']).matchesPath .insensitive "\u03f4" = .ok false ∧
      (ofGlob ['\u03d1']).matchesStart .insensitive "\u03b8" = true ∧
      (ofGlob ['\u03d1']).matchesStart .insensitive "\u03f4" = false) ∧
    (CaseVariants ['\u03b8'] ['\u03f4'] ∧
      (ofGlob ['\u03b8']).matchesPath .insensitive "\u03d1" = .ok true ∧
      (ofGlob ['\u03f4']).matchesPath .insensitive "\u03d1" = .ok false) ∧
    CaseMode.insensitive.sameChar '\u03d1' '\u03b8' = true ∧
      CaseMode.insensitive.sameChar '\u03b8' '\u03f4' = true ∧
      CaseMode.insensitive.sameChar '\u03d1' '\u03f4' = false := by
  have hsame : CaseMode.insensitive.sameChar '\u03b8' '\u03f4' = true := by decide +kernel
  have hpath : PathVariants "\u03b8" "\u03f4" := by
    have htheta : tokenize "\u03b8".toList = [['\u03b8']] := by decide +kernel
    have hsymbol : tokenize "\u03f4".toList = [['\u03f4']] := by decide +kernel
    rw [PathVariants, htheta, hsymbol]
    exact .cons (.cons hsame .nil) .nil
  refine ⟨⟨hpath, ?_, ?_, ?_, ?_⟩, ⟨.cons hsame .nil, ?_, ?_⟩, ?_, hsame, ?_⟩
  all_goals decide +kernel

end Pattern

end TreeSift
