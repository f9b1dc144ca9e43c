import Mathlib.Logic.Relation
import TreeSift.Pattern.Basic
import TreeSift.Proofs.Glob.Extension

/-! # Separators and their spelling

Paths and globs are taken apart at slashes and backslashes, however many stand between two segments: a text
gives the tokens that it spells (`Glob.tokenize_eq_iff_spells`). So runs of separators may be respelled, put
in front of a path or glob and at the end of a path. At the end of a glob a run stands for everything below,
and it is all that is told apart (`Glob.respelled_iff`): patterns and paths that are respelled match as before
(`Pattern.answersAlike_of_respelled`). -/

namespace TreeSift

namespace Glob

open Relation (EqvGen)

variable {token front back run other text source path : List Char} {tokens : List Segment} {s : Char}

/-! ## Tokens and what spells them -/

/-- **How tokens are spelled**: with a separator between two of them or more, and with any number of
them in front and at the end. -/
inductive Spells : List Segment → List Char → Prop where
  /-- Nothing spells no token. -/
  | nil : Spells [] []
  /-- A separator stands in front. -/
  | separator {tokens : List Segment} {text : List Char} {s : Char} :
      isSeparator s = true → Spells tokens text → Spells tokens (s :: text)
  /-- A token is the whole text. -/
  | last {token : Segment} : IsToken token → Spells [token] token
  /-- A separator stands behind a token. -/
  | token {token : Segment} {tokens : List Segment} {text : List Char} {s : Char} :
      IsToken token → isSeparator s = true → Spells tokens text →
        Spells (token :: tokens) (token ++ s :: text)

/-- Nothing holds no token: `tokenize [] = []`. -/
@[simp] theorem tokenize_nil : tokenize [] = [] :=
  rfl

/-- A separator in front ends no token, so that `tokenize` drops it. -/
theorem tokenize_cons (hs : isSeparator s = true) (text : List Char) :
    tokenize (s :: text) = tokenize text :=
  tokenize_append_cons hs [] text

/-- A token is the only one of itself: `tokenize token = [token]`. -/
theorem IsToken.tokenize_eq (h : IsToken token) : tokenize token = [token] := by
  rw [tokenize, Text.splitWhere_eq_singleton h.isSeparator_eq_false]
  exact List.filter_eq_self.2 (by simpa using h.ne_nil)

/-- Without a separator, a text is nothing or satisfies `IsToken`. -/
theorem eq_nil_or_isToken (h : ∀ c ∈ text, isSeparator c = false) : text = [] ∨ IsToken text := by
  rcases eq_or_ne text [] with hnil | hne
  · exact .inl hnil
  · exact .inr ⟨hne, h⟩

/-- **A text spells its tokens**: `Spells` holds of what `tokenize` gives, by induction on the text
behind its first token. -/
theorem spells_tokenize_append (front : List Char) (hfront : ∀ c ∈ front, isSeparator c = false)
    (text : List Char) : Spells (tokenize (front ++ text)) (front ++ text) := by
  -- the token that is being read is in front of what has not been read
  induction text generalizing front with
  | nil =>
      rw [List.append_nil]
      rcases eq_nil_or_isToken hfront with rfl | htoken
      · exact .nil
      · rw [htoken.tokenize_eq]
        exact .last htoken
  | cons c text ih =>
      cases hc : isSeparator c with
      | true =>
          have hrest : Spells (tokenize text) text := ih [] (by simp)
          rw [tokenize_append_cons hc]
          rcases eq_nil_or_isToken hfront with rfl | htoken
          · exact .separator hc hrest
          · rw [htoken.tokenize_eq]
            exact .token htoken hc hrest
      | false =>
          rw [← List.singleton_append, ← List.append_assoc]
          refine ih _ fun d hd => ?_
          rcases List.mem_append.1 hd with hd | hd
          · exact hfront d hd
          · rw [List.mem_singleton.1 hd, hc]

/-- **The tokens of a text** are those that it `Spells`, and no others. -/
theorem tokenize_eq_iff_spells : tokenize text = tokens ↔ Spells tokens text := by
  constructor
  · rintro rfl
    exact spells_tokenize_append [] (by simp) text
  · intro h
    induction h with
    | nil => rfl
    | separator hs _ ih => rw [tokenize_cons hs, ih]
    | last htoken => exact htoken.tokenize_eq
    | token htoken hs _ ih => rw [tokenize_append_cons hs, htoken.tokenize_eq, ih, List.singleton_append]

/-! ## Runs of separators -/

/-- **A run of separators**, one of them at least. -/
structure IsRun (run : List Char) : Prop where
  /-- It holds something. -/
  ne_nil : run ≠ []
  /-- It holds separators alone. -/
  forall_isSeparator : ∀ c ∈ run, isSeparator c = true

/-- A separator is a run by itself: `IsRun [s]`. -/
theorem isRun_singleton (hs : isSeparator s = true) : IsRun [s] :=
  ⟨List.cons_ne_nil s [], by simpa using hs⟩

/-- A run after a separator is a run: `IsRun` is kept by `cons`. -/
theorem IsRun.cons (hs : isSeparator s = true) (hrun : IsRun run) : IsRun (s :: run) :=
  ⟨List.cons_ne_nil s run, List.forall_mem_cons.2 ⟨hs, hrun.forall_isSeparator⟩⟩

/-- A run of separators ends the tokens before it, as one separator does: `tokenize` of what is in
front and behind. -/
theorem IsRun.tokenize_append (hrun : IsRun run) (front back : List Char) :
    tokenize (front ++ run ++ back) = tokenize front ++ tokenize back := by
  obtain ⟨s, rest, rfl⟩ := List.exists_cons_of_ne_nil hrun.ne_nil
  obtain ⟨hs, hrest⟩ := List.forall_mem_cons.1 hrun.forall_isSeparator
  rw [List.append_assoc, List.cons_append, tokenize_append_cons hs]
  congr 1
  clear hrun
  induction rest with
  | nil => rfl
  | cons c rest ih =>
      obtain ⟨hc, hrest⟩ := List.forall_mem_cons.1 hrest
      rw [List.cons_append, tokenize_cons hc, ih hrest]

/-- The last character of the text is a separator. -/
def endsOpen (text : List Char) : Bool :=
  text.getLast?.any isSeparator

theorem endsOpen_append_of_ne_nil (front : List Char) (hback : back ≠ []) :
    endsOpen (front ++ back) = endsOpen back := by
  rw [endsOpen, List.getLast?_append, List.getLast?_eq_some_getLast hback, Option.some_or, endsOpen,
    List.getLast?_eq_some_getLast hback]

/-- A run `endsOpen`, as all its characters are separators. -/
theorem IsRun.endsOpen (hrun : IsRun run) : endsOpen run = true := by
  rw [Glob.endsOpen, List.getLast?_eq_some_getLast hrun.ne_nil]
  exact hrun.forall_isSeparator _ (List.getLast_mem hrun.ne_nil)

/-- A token does not end with a separator, as it holds none. -/
theorem IsToken.endsOpen_eq_false (h : IsToken token) : Glob.endsOpen token = false := by
  rw [Glob.endsOpen, List.getLast?_eq_some_getLast h.ne_nil]
  exact h.isSeparator_eq_false _ (List.getLast_mem h.ne_nil)

/-- **The tokens of a glob** are those of its text and, if it `endsOpen`, a `deepWildcard`. -/
theorem tokenize_completeGlob (source : List Char) :
    tokenize (completeGlob source) =
      tokenize source ++ if endsOpen source then [deepWildcard] else [] := by
  rcases List.eq_nil_or_concat' source with rfl | ⟨front, s, rfl⟩
  · rfl
  · rw [completeGlob, endsOpen, List.getLast?_concat]
    dsimp only [Option.any_some]
    by_cases hs : isSeparator s = true
    · have hrun := isRun_singleton hs
      have hsource := hrun.tokenize_append front []
      rw [List.append_nil] at hsource
      rw [if_pos hs, if_pos hs, hrun.tokenize_append, hsource, tokenize_nil, List.append_nil]
      rfl
    · rw [if_neg hs, if_neg hs, List.append_nil]

/-! ## Changes of spelling -/

/-- **A change of spelling**, after which a text `endsOpen` if it did before. -/
inductive Respells : List Char → List Char → Prop where
  /-- A run of separators takes the place of another one. -/
  | replace (front back : List Char) {run other : List Char} :
      IsRun run → IsRun other → Respells (front ++ run ++ back) (front ++ other ++ back)
  /-- A run of separators in front of a token is dropped. -/
  | lead {run : List Char} {c : Char} (text : List Char) :
      IsRun run → isSeparator c = false → Respells (run ++ c :: text) (c :: text)

/-- **A change of the spelling of a path**: one of `Respells`, or a run at the end is dropped. -/
inductive RespellsPath : List Char → List Char → Prop where
  /-- Any other change. -/
  | within {path other : List Char} : Respells path other → RespellsPath path other
  /-- A run of separators at the end is dropped. -/
  | trail (path : List Char) {run : List Char} : IsRun run → RespellsPath (path ++ run) path

/-- **Two texts of globs are spellings of one**, by any number of changes `Respells` in either
direction. -/
abbrev Respelled : List Char → List Char → Prop :=
  EqvGen Respells

/-- **Two paths are spellings of one**, by any number of changes `RespellsPath` in either direction.
-/
abbrev RespelledPath : List Char → List Char → Prop :=
  EqvGen RespellsPath

/-- A change of spelling keeps the tokens: `Respells` implies equal `tokenize`. -/
theorem Respells.tokenize_eq (h : Respells text other) : tokenize text = tokenize other := by
  cases h with
  | replace front back hrun hother => rw [hrun.tokenize_append, hother.tokenize_append]
  | lead text hrun _ => simpa using hrun.tokenize_append [] (_ :: text)

/-- A change of spelling keeps whether a text `endsOpen`. -/
theorem Respells.endsOpen_eq (h : Respells text other) : endsOpen text = endsOpen other := by
  cases h with
  | replace front back hrun hother =>
      rcases eq_or_ne back [] with rfl | hback
      · rw [List.append_nil, List.append_nil, endsOpen_append_of_ne_nil _ hrun.ne_nil, hrun.endsOpen,
          endsOpen_append_of_ne_nil _ hother.ne_nil, hother.endsOpen]
      · rw [endsOpen_append_of_ne_nil _ hback, endsOpen_append_of_ne_nil _ hback]
  | lead text _ _ => exact endsOpen_append_of_ne_nil _ (List.cons_ne_nil _ _)

/-- A change of the spelling of a path keeps its tokens: `RespellsPath` implies equal `tokenize`. -/
theorem RespellsPath.tokenize_eq (h : RespellsPath path other) : tokenize path = tokenize other := by
  cases h with
  | within h => exact h.tokenize_eq
  | trail path hrun => simpa using hrun.tokenize_append other []

/-! ### The spelling with single slashes -/

/-- The spelling of `tokens` with single slashes, with one at the end if it `opens`. -/
def spelled (tokens : List Segment) (opens : Bool) : List Char :=
  ['/'].intercalate tokens ++ if opens then ['/'] else []

theorem spelled_cons_cons (token next : Segment) (tokens : List Segment) (opens : Bool) :
    spelled (token :: next :: tokens) opens = token ++ '/' :: spelled (next :: tokens) opens := by
  rw [spelled, List.intercalate_cons_cons, List.append_assoc, List.append_assoc, List.singleton_append,
    spelled]

/-- What spells a token starts with a character of it: `spelled (next :: tokens)` does not start
with a separator. -/
theorem exists_spelled_eq_cons {next : Segment} (hnext : IsToken next) (tokens : List Segment)
    (opens : Bool) : ∃ c rest, isSeparator c = false ∧ spelled (next :: tokens) opens = c :: rest := by
  obtain ⟨c, more, rfl⟩ := List.exists_cons_of_ne_nil hnext.ne_nil
  have hc := hnext.isSeparator_eq_false c List.mem_cons_self
  cases tokens with
  | nil => exact ⟨c, _, hc, rfl⟩
  | cons other tokens => exact ⟨c, _, hc, spelled_cons_cons ..⟩

/-- A spelling of tokens holds tokens: `IsToken` holds of what a text `Spells`. -/
theorem Spells.isToken (h : Spells tokens text) : ∀ token ∈ tokens, IsToken token := by
  rw [← tokenize_eq_iff_spells] at h
  rw [← h]
  exact fun _ => isToken_of_mem_tokenize

/-- What spells no token is nothing or a run: `Spells []` says no more. -/
theorem Spells.eq_nil_or_isRun (h : Spells tokens text) (htokens : tokens = []) :
    text = [] ∨ IsRun text := by
  induction h with
  | nil => exact .inl rfl
  | separator hs _ ih =>
      rcases ih htokens with rfl | hrun
      · exact .inr (isRun_singleton hs)
      · exact .inr (hrun.cons hs)
  | last _ => cases htokens
  | token _ _ _ _ => cases htokens

/-- A separator in front of what spells no token makes a run of it. -/
theorem Spells.isRun_cons (h : Spells [] text) (hs : isSeparator s = true) : IsRun (s :: text) := by
  rcases h.eq_nil_or_isRun rfl with rfl | hrun
  · exact isRun_singleton hs
  · exact hrun.cons hs

/-- What spells a token ends like itself behind anything else: `endsOpen` looks at the end only. -/
theorem Spells.endsOpen_append {next : Segment} (h : Spells (next :: tokens) text) (front : List Char) :
    endsOpen (front ++ text) = endsOpen text := by
  refine endsOpen_append_of_ne_nil front fun hnil => ?_
  rw [hnil, ← tokenize_eq_iff_spells] at h
  cases h

/-- Behind a separator, what stands there may be respelled: `Respelled` is kept by `front ++ s ::
_`. -/
theorem Respelled.append_cons (front : List Char) (hs : isSeparator s = true)
    (h : Respelled text other) : Respelled (front ++ s :: text) (front ++ s :: other) := by
  induction h with
  | refl => exact .refl _
  | symm _ _ _ ih => exact ih.symm
  | trans _ _ _ _ _ ih ihother => exact ih.trans _ _ _ ihother
  | rel text other h =>
      refine .rel _ _ ?_
      cases h with
      | replace inner back hrun hother =>
          simpa using Respells.replace (front ++ s :: inner) back hrun hother
      | @lead run c text hrun _ =>
          -- the separator in front takes the run in
          simpa using Respells.replace front (c :: text) (hrun.cons hs) (isRun_singleton hs)

/-- A run may be respelled as a slash: `Respelled` in any place. -/
theorem IsRun.respelled (hrun : IsRun run) (front back : List Char) :
    Respelled (front ++ run ++ back) (front ++ '/' :: back) := by
  have hslash : IsRun ['/'] := isRun_singleton rfl
  simpa using EqvGen.rel _ _ (Respells.replace front back hrun hslash)

/-- **Every text may be respelled with single slashes**: as `spelled` of its tokens, by induction on
`Spells`. -/
theorem Spells.respelled (h : Spells tokens text) : Respelled text (spelled tokens (endsOpen text)) := by
  induction h with
  | nil => exact .refl _
  | @separator tokens text s hs h ih =>
      cases tokens with
      | nil =>
          have hrun := h.isRun_cons hs
          rw [hrun.endsOpen]
          simpa [spelled] using hrun.respelled [] []
      | cons next tokens =>
          obtain ⟨c, rest, hc, hspelled⟩ := exists_spelled_eq_cons (h.isToken next List.mem_cons_self)
            tokens (endsOpen text)
          rw [← List.singleton_append, h.endsOpen_append, List.singleton_append]
          rw [hspelled] at ih ⊢
          -- the separator is dropped from in front of the first token
          exact (ih.append_cons [] hs).trans _ _ _ (.rel _ _ (.lead rest (isRun_singleton hs) hc))
  | @last token htoken =>
      rw [htoken.endsOpen_eq_false, spelled, List.intercalate_singleton, if_neg Bool.false_ne_true, List.append_nil]
      exact .refl _
  | @token token tokens text s htoken hs h ih =>
      cases tokens with
      | nil =>
          have hrun := h.isRun_cons hs
          rw [endsOpen_append_of_ne_nil _ hrun.ne_nil, hrun.endsOpen]
          simpa [spelled] using hrun.respelled token []
      | cons next tokens =>
          rw [← List.singleton_append, ← List.append_assoc, h.endsOpen_append, List.append_assoc,
            List.singleton_append, spelled_cons_cons]
          have hslash := (isRun_singleton hs).respelled token (spelled (next :: tokens) (endsOpen text))
          rw [List.append_assoc, List.singleton_append] at hslash
          exact (ih.append_cons token hs).trans _ _ _ hslash

/-! ### What the spelling does not tell -/

/-- **Texts of globs are spellings of one** exactly if they have the same tokens and both or neither
`endsOpen`. -/
theorem respelled_iff :
    Respelled text other ↔ tokenize text = tokenize other ∧ endsOpen text = endsOpen other := by
  constructor
  · intro h
    induction h with
    | rel _ _ h => exact ⟨h.tokenize_eq, h.endsOpen_eq⟩
    | refl => exact ⟨rfl, rfl⟩
    | symm _ _ _ ih => exact ⟨ih.1.symm, ih.2.symm⟩
    | trans _ _ _ _ _ ih ihother => exact ⟨ih.1.trans ihother.1, ih.2.trans ihother.2⟩
  · rintro ⟨htokens, hopen⟩
    have htext := (tokenize_eq_iff_spells.1 htokens).respelled
    have hother := (tokenize_eq_iff_spells.1 (Eq.refl (tokenize other))).respelled
    rw [hopen] at htext
    exact htext.trans _ _ _ hother.symm

/-- **Paths are spellings of one** exactly if `tokenize` gives the same tokens. -/
theorem respelledPath_iff : RespelledPath path other ↔ tokenize path = tokenize other := by
  constructor
  · intro h
    induction h with
    | rel _ _ h => exact h.tokenize_eq
    | refl => rfl
    | symm _ _ _ ih => exact ih.symm
    | trans _ _ _ _ _ ih ihother => exact ih.trans ihother
  · intro htokens
    have hslash : IsRun ['/'] := isRun_singleton rfl
    -- with a slash at the end of both, the paths are spellings of one as texts of globs are
    have hboth : Respelled (path ++ ['/']) (other ++ ['/']) := by
      rw [respelled_iff, endsOpen_append_of_ne_nil _ hslash.ne_nil,
        endsOpen_append_of_ne_nil _ hslash.ne_nil]
      have hpath := hslash.tokenize_append path []
      have hother := hslash.tokenize_append other []
      rw [List.append_nil] at hpath hother
      exact ⟨by rw [hpath, hother, htokens], rfl⟩
    have hwithin : RespelledPath (path ++ ['/']) (other ++ ['/']) :=
      hboth.mono fun _ _ => .within
    exact (EqvGen.rel _ _ (.trail path hslash)).symm.trans _ _ _
      (hwithin.trans _ _ _ (.rel _ _ (.trail other hslash)))

end Glob

namespace Pattern

open Glob

/-- **Two patterns answer alike** about two paths: `matchesPath` and `matchesStart` have the same
answers. -/
structure AnswersAlike (mode : CaseMode) (pattern other : Pattern) (path place : String) : Prop where
  /-- They match alike. -/
  matchesPath_eq : pattern.matchesPath mode path = other.matchesPath mode place
  /-- They could match something below alike. -/
  matchesStart_eq : pattern.matchesStart mode path = other.matchesStart mode place

/-- A glob matches a path as its tokens match those of the path: `matchesPath` is `matchTokens`. -/
theorem matchesPath_ofGlob (mode : CaseMode) (source : List Char) (path : String) :
    (ofGlob source).matchesPath mode path =
      .ok (matchTokens mode (ofGlob source).tokens (tokenize path.toList)) :=
  rfl

/-- A path starts like a glob as its tokens start like those of the glob: `matchesStart` is
`matchStart`. -/
theorem matchesStart_ofGlob (mode : CaseMode) (source : List Char) (path : String) :
    (ofGlob source).matchesStart mode path =
      matchStart mode (ofGlob source).tokens (tokenize path.toList) :=
  rfl

/-- **The tokens of a glob** are those of its text and, if it `endsOpen`, a `deepWildcard`:
`completeGlob` adds no more. -/
theorem tokens_ofGlob (source : List Char) : (ofGlob source).tokens =
    tokenize source ++ if endsOpen source then [deepWildcard] else [] :=
  tokenize_completeGlob source

/-- **The spelling of separators tells nothing.** A text gives the tokens that it spells, and texts that a
separator joins give those of both. Globs and paths that are respelled answer as before, in both modes, since
a glob tells apart only whether a separator is at its end. -/
theorem answersAlike_of_respelled :
    (∀ front back s, isSeparator s = true →
      tokenize (front ++ s :: back) = tokenize front ++ tokenize back) ∧
    (∀ text, ∀ token ∈ tokenize text, IsToken token) ∧
    (∀ text tokens, tokenize text = tokens ↔ Spells tokens text) ∧
    (∀ source other path place, Respelled source other → RespelledPath path.toList place.toList →
      ∀ mode, AnswersAlike mode (ofGlob source) (ofGlob other) path place) ∧
    ∀ source, (ofGlob source).tokens =
      tokenize source ++ if endsOpen source then [deepWildcard] else [] := by
  refine ⟨fun front back s hs => tokenize_append_cons hs front back,
    fun text token => isToken_of_mem_tokenize, fun text tokens => tokenize_eq_iff_spells, ?_, tokens_ofGlob⟩
  intro source other path place hsource hpath mode
  have htokens : (ofGlob source).tokens = (ofGlob other).tokens := by
    obtain ⟨htokens, hopen⟩ := respelled_iff.1 hsource
    rw [tokens_ofGlob, tokens_ofGlob, htokens, hopen]
  have hplace := respelledPath_iff.1 hpath
  constructor
  · rw [matchesPath_ofGlob, matchesPath_ofGlob, htokens, hplace]
  · rw [matchesStart_ofGlob, matchesStart_ofGlob, htokens, hplace]

end Pattern

end TreeSift
