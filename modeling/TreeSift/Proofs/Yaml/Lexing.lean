import Mathlib.Data.List.TakeWhile
import TreeSift.Proofs.Results
import TreeSift.Proofs.Yaml.Chars
import TreeSift.Yaml.Lexer

/-! # Steps of the lexer

How moves change the place in a text, and what single steps of the lexer do with their state. -/

namespace TreeSift.Yaml

/-! ## Places -/

namespace Cursor

variable {front rest : List Char} {index line column : Nat}

/-- The text that is left after one character: `next` drops it. -/
theorem rest_next (cursor : Cursor) : cursor.next.rest = cursor.rest.tail := by
  unfold Cursor.next
  split
  · next h => rw [h]; rfl
  · next h =>
    rw [h]
    dsimp only
    split <;> rfl

/-- The text that is left after `n` characters: `skip n` drops them. -/
theorem rest_skip (cursor : Cursor) (n : Nat) : (cursor.skip n).rest = cursor.rest.drop n := by
  induction n generalizing cursor with
  | zero => rfl
  | succ n ih => rw [Cursor.skip, ih, Cursor.rest_next, List.drop_tail]

/-- What is left after `moveTo []` is nothing. -/
theorem rest_moveTo_nil (cursor : Cursor) : (cursor.moveTo []).rest = [] := by
  rw [Cursor.moveTo, Cursor.rest_skip, List.length_nil, Nat.sub_zero, List.drop_length]

/-- Two moves make one: `skip` adds up. -/
theorem skip_add (cursor : Cursor) (m n : Nat) : cursor.skip (m + n) = (cursor.skip m).skip n := by
  induction m generalizing cursor with
  | zero => rw [Nat.zero_add]; rfl
  | succ m ih => rw [Nat.succ_add, skip, ih, skip]

/-- A move along a line goes on by one column for each character, if none `isBreak`. -/
theorem skip_append (h : ∀ c ∈ front, isBreak c = false ∧ c ≠ '\ufeff') :
    (⟨front ++ rest, index, line, column⟩ : Cursor).skip front.length =
      ⟨rest, index + front.length, line, column + front.length⟩ := by
  induction front generalizing index column with
  | nil => rfl
  | cons c front ih =>
      obtain ⟨hc, hmark⟩ := h c List.mem_cons_self
      have hnext : (⟨c :: (front ++ rest), index, line, column⟩ : Cursor).next =
          ⟨front ++ rest, index + 1, line, column + 1⟩ := by
        simp [next, hc, hmark]
      rw [List.cons_append, List.length_cons, skip, hnext,
        ih fun d hd => h d (List.mem_cons_of_mem _ hd)]
      simp [Nat.add_assoc, Nat.add_comm 1]

/-- A `moveTo` the end of characters of one line goes on by one column for each. -/
theorem moveTo_append (h : ∀ c ∈ front, isBreak c = false ∧ c ≠ '\ufeff') :
    (⟨front ++ rest, index, line, column⟩ : Cursor).moveTo rest =
      ⟨rest, index + front.length, line, column + front.length⟩ := by
  have hlength : (front ++ rest).length - rest.length = front.length := by simp
  rw [moveTo, hlength, skip_append h]

/-- No move leads to an earlier line: `skip` never makes `line` less. -/
theorem line_le_skip (cursor : Cursor) (n : Nat) : cursor.line ≤ (cursor.skip n).line := by
  induction n generalizing cursor with
  | zero => rfl
  | succ n ih =>
      refine Nat.le_trans ?_ (ih cursor.next)
      unfold next
      split
      · rfl
      · dsimp only
        split
        · exact Nat.le_succ _
        · rfl

/-- A `moveTo` the rest of a text leads there, and not to an earlier line. -/
theorem exists_moveTo (front : List Char) :
    ∃ index' line' column', line ≤ line' ∧
      (⟨front ++ rest, index, line, column⟩ : Cursor).moveTo rest =
        ⟨rest, index', line', column'⟩ := by
  have hlength : (front ++ rest).length - rest.length = front.length := by simp
  have hline := line_le_skip ⟨front ++ rest, index, line, column⟩ front.length
  have hrest := rest_skip ⟨front ++ rest, index, line, column⟩ front.length
  rw [List.drop_left] at hrest
  rw [moveTo, hlength]
  generalize (⟨front ++ rest, index, line, column⟩ : Cursor).skip front.length = after at *
  obtain ⟨_, index', line', column'⟩ := after
  subst hrest
  exact ⟨index', line', column', hline, rfl⟩

/-- A move over a line break leads to the column of the indentation behind it: `newLine indent`. -/
theorem exists_moveTo_newLine (front : List Char) (indent : Nat) :
    ∃ index' line', line < line' ∧
      (⟨front ++ (newLine indent ++ rest), index, line, column⟩ : Cursor).moveTo rest =
        ⟨rest, index', line', indent⟩ := by
  have hlength : (front ++ (newLine indent ++ rest)).length - rest.length =
      (front ++ (newLine indent ++ rest)).length - (newLine indent ++ rest).length +
        (1 + (spaces indent).length) := by
    simp only [newLine, List.length_append, List.length_cons]
    omega
  obtain ⟨index', line', column', hline, hmove⟩ := @exists_moveTo (newLine indent ++ rest) index line
    column front
  rw [moveTo] at hmove
  rw [moveTo, hlength, skip_add, skip_add, hmove]
  have hspaces := @skip_append (spaces indent) rest (index' + 1) (line' + 1) 0 fun c hc => by
    rw [List.eq_of_mem_replicate hc]
    decide
  simp only [spaces, List.length_replicate, Nat.zero_add] at hspaces ⊢
  exact ⟨_, line' + 1, Nat.lt_succ_of_le hline, hspaces⟩

end Cursor

namespace Lex

variable {s : LexState} {rest : List Char} {lineEnds : Bool}

/-! ## Sequences of steps -/

/-- **Steps of the lexer**, each of which takes something off the text, as `step` does. -/
inductive Run : LexState → LexState → Prop where
  /-- No step. -/
  | refl (s : LexState) : Run s s
  /-- A step and others. -/
  | step {s s' s'' : LexState} (h : Lex.step.run s = .ok (true, s'))
    (hlength : s'.cursor.rest.length < s.cursor.rest.length) (hrun : Run s' s'') : Run s s''

/-- Steps may be followed by others: `Run` is transitive. -/
theorem Run.trans {s s' s'' : LexState} (h : Run s s') (h' : Run s' s'') : Run s s'' := by
  induction h with
  | refl => exact h'
  | step hstep hlength _ ih => exact .step hstep hlength (ih h')

/-- The lexer takes the steps of a `Run` on its way: `steps` from the one state is `steps` from the
other. -/
theorem Run.steps_eq {s s' : LexState} (h : Run s s') {fuel : Nat}
    (hfuel : s.cursor.rest.length < fuel) :
    ∃ fuel', s'.cursor.rest.length < fuel' ∧ steps fuel s = steps fuel' s' := by
  induction h generalizing fuel with
  | refl => exact ⟨fuel, hfuel, rfl⟩
  | step hstep hlength _ ih =>
      obtain ⟨fuel, rfl⟩ := Nat.exists_eq_succ_of_ne_zero (Nat.ne_zero_of_lt hfuel)
      obtain ⟨fuel', hfuel', heq⟩ := @ih fuel (by omega)
      refine ⟨fuel', hfuel', ?_⟩
      rw [steps, hstep]
      exact heq

/-! ## Ways to tokens -/

/-- The way to the next token: `goToToken` drops what `skipToToken` leaves out. -/
theorem run_goToToken (h : skipToToken (s.cursor.rest.length + 1) s.cursor.rest = (rest, lineEnds)) :
    goToToken.run s = .ok ((), { s with
      cursor := s.cursor.moveTo rest
      keyAllowed := lineEnds && s.outer.isEmpty || s.keyAllowed }) := by
  rw [goToToken, run_get_bind]
  simp only [h]
  cases lineEnds with
  | false => rfl
  | true => cases s.outer.isEmpty <;> rfl

/-- Where no key could have started, `dropStaleKeys` drops nothing. -/
theorem run_dropStaleKeys (hplace : s.place? = none) (houter : s.outer = []) :
    dropStaleKeys.run s = .ok ((), s) := by
  obtain ⟨⟩ := s
  subst hplace houter
  rfl

variable {text : List Char} {indents : List Nat} {place? : Option KeyPlace} {allowed : Bool}
  {index line column count : Nat} {tokens : List Token}

/-- A token may come at the start of the text: no space, no comment and no line break stands there.
-/
structure StartsToken (text : List Char) : Prop where
  /-- It does not start with a space. -/
  space : text.head? ≠ some ' '
  /-- Nor with a comment. -/
  sign : text.head? ≠ some '#'
  /-- Nor with a line break. -/
  noBreak : takeBreak? text = none

/-- Nothing but spaces is left out by `skipToToken` in front of a text that `StartsToken`. -/
theorem skipToToken_of_startsToken (h : StartsToken text) (blanks fuel : Nat) :
    skipToToken (fuel + 1) (spaces blanks ++ text) = (text, false) := by
  rw [skipToToken, dropWhile_space_spaces blanks h.space]
  simp [h.sign, h.noBreak]

/-- A line break and an indentation are left out by `skipToToken`. -/
theorem skipToToken_newLine (h : StartsToken text) (indent fuel : Nat) :
    skipToToken (fuel + 2) (newLine indent ++ text) = (text, true) := by
  have hrest := skipToToken_of_startsToken h indent fuel
  rw [skipToToken]
  simp [newLine, takeBreak?, hrest]

/-- On the way to a token of the same line, the place of a key stays: `goToToken` over spaces. -/
theorem run_goToToken_spaces (h : StartsToken text) (blanks : Nat) :
    goToToken.run ⟨⟨spaces blanks ++ text, index, line, column⟩, indents, place?, [], allowed, count,
        tokens⟩ =
      .ok ((), ⟨⟨text, index + blanks, line, column + blanks⟩, indents, place?, [], allowed, count,
        tokens⟩) := by
  have hmove := @Cursor.moveTo_append (spaces blanks) text index line column fun c hc => by
    rw [List.eq_of_mem_replicate hc]
    decide
  rw [run_goToToken (skipToToken_of_startsToken h blanks _), hmove]
  simp [spaces]

/-- On another line, the place of a key is forgotten by `dropStaleKeys`. -/
theorem run_dropStaleKeys_of_line {cursor : Cursor}
    (h : ∀ place ∈ place?, place.required = false ∧ place.line < cursor.line) :
    dropStaleKeys.run ⟨cursor, indents, place?, [], allowed, count, tokens⟩ =
      .ok ((), ⟨cursor, indents, none, [], allowed, count, tokens⟩) := by
  cases place? with
  | none => rfl
  | some place =>
      obtain ⟨hrequired, hline⟩ := h place rfl
      have hstale : isStale cursor place = true := by
        have hne : (place.line != cursor.line) = true := by
          rw [bne_iff_ne]
          omega
        rw [isStale, hne, Bool.true_or]
      have hdrop : dropStale cursor (some place) = .ok none := by
        simp [dropStale, hstale, hrequired]
      rw [dropStaleKeys, run_get_bind]
      dsimp only
      rw [hdrop]
      rfl

/-- A place that is not `isStale` stays. -/
theorem run_dropStaleKeys_of_fresh {cursor : Cursor} {place : KeyPlace}
    (h : isStale cursor place = false) :
    dropStaleKeys.run ⟨cursor, indents, some place, [], allowed, count, tokens⟩ =
      .ok ((), ⟨cursor, indents, some place, [], allowed, count, tokens⟩) := by
  have hdrop : dropStale cursor (some place) = .ok (some place) := by simp [dropStale, h]
  rw [dropStaleKeys, run_get_bind]
  dsimp only
  rw [hdrop]
  rfl

/-! ## Lines -/

/-- **The lexer stands before a line** that starts with `text` behind an indentation, given the
columns of the open lists and mappings and the tokens so far. -/
def AtLine (s : LexState) (indent : Nat) (text : List Char) (indents : List Nat)
    (tokens : List Token) : Prop :=
  text.length ≤ s.cursor.rest.length ∧ ∃ index line,
    (goToToken >>= fun _ => dropStaleKeys).run s =
      .ok ((), ⟨⟨text, index, line, indent⟩, indents, none, [], true, s.count, tokens⟩)

/-- The lexer is `AtLine` at the end of the line before it. -/
theorem atLine_newLine {indent : Nat} (h : StartsToken text)
    (hplace : ∀ place ∈ place?, place.required = false ∧ place.line ≤ line) :
    AtLine ⟨⟨newLine indent ++ text, index, line, column⟩, indents, place?, [], allowed, count,
      tokens⟩ indent text indents tokens := by
  obtain ⟨index', line', hline, hmove⟩ := @Cursor.exists_moveTo_newLine text index line column []
    indent
  rw [List.nil_append] at hmove
  have hfuel : (newLine indent ++ text).length + 1 = (spaces indent ++ text).length + 2 := rfl
  have hgo := @run_goToToken ⟨⟨newLine indent ++ text, index, line, column⟩, indents, place?, [],
    allowed, count, tokens⟩ text true (by rw [hfuel]; exact skipToToken_newLine h indent _)
  refine ⟨by simp, index', line', ?_⟩
  rw [run_bind_of_run hgo, hmove]
  exact run_dropStaleKeys_of_line fun place hp => ⟨(hplace place hp).1,
    Nat.lt_of_le_of_lt (hplace place hp).2 hline⟩

/-- The lexer is `AtLine` where the line has been entered already. -/
theorem atLine_entered (h : StartsToken text)
    (hplace : ∀ place ∈ place?, place.required = false ∧ place.line < line) :
    AtLine ⟨⟨text, index, line, column⟩, indents, place?, [], true, count, tokens⟩ column text indents
      tokens := by
  have hgo : goToToken.run ⟨⟨text, index, line, column⟩, indents, place?, [], true, count, tokens⟩ =
      .ok ((), ⟨⟨text, index, line, column⟩, indents, place?, [], true, count, tokens⟩) :=
    run_goToToken_spaces h 0
  refine ⟨Nat.le_refl _, index, line, ?_⟩
  rw [run_bind_of_run hgo]
  exact run_dropStaleKeys_of_line hplace

/-! ## Ends of lists and mappings -/

/-- **The state behind the ends of lists and mappings** on whose columns `p` holds, from the
innermost one on. -/
def closed (p : Nat → Bool) (s : LexState) : LexState :=
  { s with
    indents := s.indents.dropWhile p
    tokens := List.replicate (s.indents.takeWhile p).length .blockEnd ++ s.tokens
    count := s.count + (s.indents.takeWhile p).length }

/-- Lists and mappings are ended one after the other: `closeWhile` leads to the state `closed`. -/
theorem run_closeWhile (p : Nat → Bool) (indents : List Nat) (s : LexState) :
    (closeWhile p indents).run s = .ok ((), closed p { s with indents }) := by
  induction indents generalizing s with
  | nil => rfl
  | cons indent indents ih =>
      cases hp : p indent with
      | false =>
          rw [closeWhile, hp]
          simp only [closed, List.dropWhile_cons, List.takeWhile_cons, hp]
          rfl
      | true =>
          rw [closeWhile, hp, if_pos rfl, run_bind_of_run (rfl : (emit .blockEnd).run s = .ok ((), _)),
            ih]
          simp only [closed, List.dropWhile_cons, List.takeWhile_cons, hp, if_true, List.length_cons,
            List.replicate_succ', List.append_assoc]
          simp [Nat.add_assoc, Nat.add_comm 1]

/-- Outside of brackets, `unwind` ends what is open in front of every token. -/
theorem run_unwind (p : Nat → Bool) (houter : s.outer = []) :
    (unwind p).run s = .ok ((), closed p s) := by
  obtain ⟨⟩ := s
  subst houter
  exact run_closeWhile p _ _

/-- Nothing is ended by `unwind` where the innermost column is not beyond. -/
theorem run_unwind_of_head? {p : Nat → Bool} (houter : s.outer = [])
    (h : ∀ indent ∈ s.indents.head?, p indent = false) : (unwind p).run s = .ok ((), s) := by
  rw [run_unwind p houter]
  obtain ⟨cursor, indents, place?, outer, allowed, count, tokens⟩ := s
  cases indents with
  | nil => rfl
  | cons indent indents =>
      have hp := h indent rfl
      simp [closed, hp]

/-! ## Steps -/

/-- A `step` goes on to a token, and reads it unless the text ends there. -/
theorem step_eq : step = (goToToken >>= fun _ => dropStaleKeys) >>= fun _ => get >>= fun s =>
    match s.cursor.rest with
    | [] => unwindAll >>= fun _ => forgetKey >>= fun _ => pure false
    | c :: rest => get >>= fun s => unwind (s.cursor.column < ·) >>= fun _ =>
      token c rest >>= fun _ => pure true :=
  (bind_assoc goToToken (fun _ => dropStaleKeys) _).symm

/-- **At a token**, what is open in a deeper column ends before it: `step` unwinds, and reads
`token`. -/
theorem run_step_of_ways {s s' : LexState} {c : Char}
    (h : (goToToken >>= fun _ => dropStaleKeys).run s = .ok ((), s')) (hrest : s'.cursor.rest = c :: rest)
    {before after : LexState} (hunwind : (unwind (s'.cursor.column < ·)).run s' = .ok ((), before))
    (htoken : (token c rest).run before = .ok ((), after)) :
    step.run s = .ok (true, after) := by
  rw [step_eq, run_bind_of_run h, run_get_bind, hrest]
  dsimp only
  rw [run_get_bind, run_bind_of_run hunwind, run_bind_of_run htoken]
  rfl

/-- **At the end of the text**, everything that is open ends, and `step` finds no token. -/
theorem run_step_of_end {s' : LexState} (h : (goToToken >>= fun _ => dropStaleKeys).run s = .ok ((), s'))
    (hrest : s'.cursor.rest = []) (hplace : s'.place? = none) (houter : s'.outer = []) :
    ∃ after, step.run s = .ok (false, after) ∧
      after.tokens = List.replicate s'.indents.length .blockEnd ++ s'.tokens := by
  have hall : s'.indents.takeWhile (fun _ => true) = s'.indents :=
    List.takeWhile_eq_self_iff.2 fun _ _ => rfl
  obtain ⟨cursor, indents, place?, outer, allowed, count, tokens⟩ := s'
  dsimp only at hrest hplace houter hall
  subst hplace houter
  rw [step_eq, run_bind_of_run h, run_get_bind, hrest]
  dsimp only
  rw [unwindAll, run_bind_of_run (run_unwind (fun _ => true) rfl)]
  refine ⟨_, rfl, ?_⟩
  simp only [closed, hall]

end Lex

end TreeSift.Yaml
