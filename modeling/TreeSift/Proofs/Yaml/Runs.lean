import Mathlib.Data.List.SplitBy
import TreeSift.Yaml.Style

/-! # Runs of texts

A text is cut into its `Runs` before it is folded (`runs_splitBy`). -/

namespace TreeSift.Yaml

/-- **The runs of a text**: of spaces, of line feeds and of other characters. Those of one kind, by
`sameRun`, do not follow each other. -/
inductive Runs : List (List Char) → Prop where
  /-- No runs. -/
  | nil : Runs []
  /-- A run of spaces. -/
  | gap {runs : List (List Char)} (count : Nat) (hnext : runs.flatten.head? ≠ some ' ')
    (h : Runs runs) : Runs (List.replicate (count + 1) ' ' :: runs)
  /-- A run of line feeds. -/
  | feeds {runs : List (List Char)} (count : Nat) (hnext : runs.flatten.head? ≠ some '\n')
    (h : Runs runs) : Runs (List.replicate (count + 1) '\n' :: runs)
  /-- A run of other characters. -/
  | word {runs : List (List Char)} {word : List Char} (hne : word ≠ [])
    (hword : ∀ c ∈ word, c ≠ ' ' ∧ c ≠ '\n')
    (hnext : ∀ c ∈ runs.flatten.head?, c = ' ' ∨ c = '\n') (h : Runs runs) : Runs (word :: runs)

/-- Two characters belong to the same run if they are of the same kind: `sameRun` as an equation. -/
theorem sameRun_iff {a b : Char} :
    sameRun a b = true ↔ (a = ' ' ↔ b = ' ') ∧ (a = '\n' ↔ b = '\n') := by
  have hbeq : ∀ c : Char, (a == c) = (b == c) ↔ (a = c ↔ b = c) := fun c => by
    rw [Bool.eq_iff_iff, beq_iff_eq, beq_iff_eq]
  rw [sameRun, Bool.and_eq_true, beq_iff_eq, beq_iff_eq, hbeq, hbeq]

/-- The characters of a run are of the kind of its first one: `sameRun a` holds of all. -/
theorem sameRun_of_isChain {a : Char} {run : List Char}
    (h : (a :: run).IsChain fun b c => sameRun b c = true) : ∀ c ∈ a :: run, sameRun a c = true := by
  induction run generalizing a with
  | nil => simp [sameRun]
  | cons b run ih =>
      obtain ⟨hab, hrest⟩ := List.isChain_cons_cons.1 h
      intro c hc
      rcases List.mem_cons.1 hc with rfl | hc
      · simp [sameRun]
      · have hbc := sameRun_iff.1 (ih hrest c hc)
        have hab := sameRun_iff.1 hab
        exact sameRun_iff.2 ⟨hab.1.trans hbc.1, hab.2.trans hbc.2⟩

/-- Characters of one kind are a run in front of runs that start with a character of another kind:
`Runs` is kept by `cons`. -/
theorem Runs.cons {a : Char} {run : List Char} {runs : List (List Char)} (h : Runs runs)
    (hkind : ∀ c ∈ a :: run, sameRun a c = true)
    (hnext : ∀ c ∈ runs.flatten.head?, sameRun a c = false) : Runs ((a :: run) :: runs) := by
  have hreplicate : ∀ c, (∀ d ∈ a :: run, d = c) → a :: run = List.replicate (run.length + 1) c :=
    fun c hc => List.eq_replicate_of_mem hc
  by_cases hspace : a = ' '
  · rw [hreplicate ' ' fun d hd => (sameRun_iff.1 (hkind d hd)).1.1 hspace]
    refine .gap _ (fun hhead => ?_) h
    exact Bool.eq_false_iff.1 (hnext ' ' hhead) (by rw [hspace]; rfl)
  by_cases hfeed : a = '\n'
  · rw [hreplicate '\n' fun d hd => (sameRun_iff.1 (hkind d hd)).2.1 hfeed]
    refine .feeds _ (fun hhead => ?_) h
    exact Bool.eq_false_iff.1 (hnext '\n' hhead) (by rw [hfeed]; rfl)
  · refine .word (List.cons_ne_nil a run) (fun d hd => ?_) (fun c hc => ?_) h
    · have hd := sameRun_iff.1 (hkind d hd)
      exact ⟨fun heq => hspace (hd.1.2 heq), fun heq => hfeed (hd.2.2 heq)⟩
    · by_contra hother
      rw [not_or] at hother
      refine Bool.eq_false_iff.1 (hnext c hc) (sameRun_iff.2 ⟨?_, ?_⟩)
      · exact iff_of_false hspace hother.1
      · exact iff_of_false hfeed hother.2

/-- Behind a run of one kind there is a character of another kind, `flatten.head?`, if neighbours
differ in kind. -/
theorem sameRun_head?_flatten {a : Char} {run : List Char} {runs : List (List Char)}
    (hkind : ∀ c ∈ a :: run, sameRun a c = true)
    (hdiffer : ((a :: run) :: runs).IsChain fun a b =>
      ∃ ha hb, sameRun (a.getLast ha) (b.head hb) = false) :
    ∀ c ∈ runs.flatten.head?, sameRun a c = false := by
  cases runs with
  | nil => simp
  | cons next runs =>
      obtain ⟨⟨hlast, hhead, hkinds⟩, -⟩ := List.isChain_cons_cons.1 hdiffer
      intro c hc
      have hc : c = next.head hhead := by
        cases next with
        | nil => exact absurd rfl hhead
        | cons d next => simpa using hc.symm
      subst hc
      have hlast := sameRun_iff.1 (hkind _ (List.getLast_mem hlast))
      refine Bool.eq_false_iff.2 fun hsame => Bool.eq_false_iff.1 hkinds ?_
      have hsame := sameRun_iff.1 hsame
      exact sameRun_iff.2 ⟨hlast.1.symm.trans hsame.1, hlast.2.symm.trans hsame.2⟩

/-- Lists of characters of one kind each are `Runs` if neighbours are of different kinds. -/
theorem runs_of_isChain {runs : List (List Char)}
    (hne : [] ∉ runs) (hsame : ∀ run ∈ runs, run.IsChain fun b c => sameRun b c = true)
    (hdiffer : runs.IsChain fun a b => ∃ ha hb, sameRun (a.getLast ha) (b.head hb) = false) :
    Runs runs := by
  induction runs with
  | nil => exact .nil
  | cons run runs ih =>
      have h := ih (fun hmem => hne (List.mem_cons_of_mem _ hmem))
        (fun r hr => hsame r (List.mem_cons_of_mem _ hr)) hdiffer.tail
      cases run with
      | nil => exact absurd List.mem_cons_self hne
      | cons a run =>
          have hkind := sameRun_of_isChain (hsame _ List.mem_cons_self)
          exact h.cons hkind (sameRun_head?_flatten hkind hdiffer)

/-- **A text is cut into its runs**: `splitBy sameRun` gives `Runs`. -/
theorem runs_splitBy (text : List Char) : Runs (text.splitBy sameRun) :=
  runs_of_isChain (List.nil_notMem_splitBy _ _) (fun _ hrun => List.isChain_of_mem_splitBy hrun)
    (List.isChain_getLast_head_splitBy _ _)

/-! ## Writing runs -/

section

variable {fold first : Bool} {write : Char → List Char} {indent column : Nat} {runs : List (List Char)}

/-- A run of spaces is written by `writeRuns` as it is, or as a new line if it is a single one. -/
theorem writeRuns_gap (count : Nat) :
    (count = 0 ∧ writeRuns fold write indent first column (List.replicate (count + 1) ' ' :: runs) =
      newLine indent ++ writeRuns fold write indent false indent runs) ∨
    writeRuns fold write indent first column (List.replicate (count + 1) ' ' :: runs) =
      List.replicate (count + 1) ' ' ++
        writeRuns fold write indent false (column + (count + 1)) runs := by
  rw [writeRuns, if_pos (by simp [List.replicate_succ])]
  split
  · next hfold =>
    simp only [Bool.and_eq_true, beq_iff_eq, List.length_replicate] at hfold
    exact .inl ⟨Nat.succ.inj hfold.1.1.1.2, rfl⟩
  · rw [List.length_replicate]
    exact .inr rfl

/-- A run of line feeds takes one more in `writeRuns`. -/
theorem writeRuns_feeds (count : Nat) :
    writeRuns fold write indent first column (List.replicate (count + 1) '\n' :: runs) =
      List.replicate (count + 1) '\n' ++ newLine indent ++
        writeRuns fold write indent false indent runs := by
  rw [writeRuns, if_neg (by simp [List.replicate_succ]), if_pos (by simp [List.replicate_succ])]

/-- A run of other characters is written by `writeRuns` one by one. -/
theorem writeRuns_word {word : List Char} (hne : word ≠ []) (hword : ∀ c ∈ word, c ≠ ' ' ∧ c ≠ '\n') :
    writeRuns fold write indent first column (word :: runs) = word.flatMap write ++
      writeRuns fold write indent false (column + (word.flatMap write).length) runs := by
  obtain ⟨c, rest, rfl⟩ := List.exists_cons_of_ne_nil hne
  obtain ⟨hspace, hfeed⟩ := hword c List.mem_cons_self
  rw [writeRuns, if_neg (by simpa using hspace), if_neg (by simpa using hfeed)]

end

end TreeSift.Yaml
