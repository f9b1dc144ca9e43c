import Mathlib.Data.List.Forall2
import TreeSift.Screen.Emoji

/-! # Names of emoji in texts

A colon, a bracket and a backslash are the marks that markup looks for. No emoji holds one
(`isQuiet_of_emojiBetween?`), so that a text without blanks either has no name of an emoji between
its colons and stays as it is (`replaceEmoji_of_emojiFree`), or loses colons
(`emojiFree_of_markCount_le`). -/

namespace TreeSift.Screen

open TreeSift.Text (isBlank mem_of_mem_splitWhere)

/-! ## Marks -/

/-- The character is one that something begins with that markup can read: a colon, an opening
bracket or a backslash. -/
def isMark (c : Char) : Bool :=
  c == ':' || c == '[' || c == '\\'

/-- The number of characters in a text that satisfy `isMark`. -/
def markCount (text : List Char) : Nat :=
  text.countP isMark

@[simp] theorem markCount_nil : markCount [] = 0 := rfl

@[simp] theorem markCount_append (left right : List Char) :
    markCount (left ++ right) = markCount left + markCount right :=
  List.countP_append

theorem markCount_cons (c : Char) (cs : List Char) :
    markCount (c :: cs) = markCount cs + if isMark c then 1 else 0 :=
  List.countP_cons

@[simp] theorem markCount_cons_of_isMark {c : Char} (h : isMark c = true) (cs : List Char) :
    markCount (c :: cs) = markCount cs + 1 :=
  List.countP_cons_of_pos h

@[simp] theorem markCount_cons_of_not_isMark {c : Char} (h : isMark c = false) (cs : List Char) :
    markCount (c :: cs) = markCount cs :=
  List.countP_cons_of_neg (by simp [h])

theorem markCount_le_of_sublist {left right : List Char} (h : left.Sublist right) :
    markCount left ≤ markCount right :=
  h.countP_le

theorem markCount_eq_zero {text : List Char} (h : ∀ c ∈ text, isMark c = false) :
    markCount text = 0 := by
  rw [markCount, List.countP_eq_zero]
  intro c hc
  simp [h c hc]

/-- Marks of texts that come one after the other are counted text by text: `markCount` of `flatMap`
is monotone. -/
theorem markCount_flatMap_le {α : Type} {f g : α → List Char} {xs : List α}
    (h : ∀ x ∈ xs, markCount (f x) ≤ markCount (g x)) :
    markCount (xs.flatMap f) ≤ markCount (xs.flatMap g) := by
  induction xs with
  | nil => exact Nat.le_refl _
  | cons x xs ih =>
      rw [List.flatMap_cons, List.flatMap_cons, markCount_append, markCount_append]
      exact Nat.add_le_add (h x List.mem_cons_self)
        (ih fun y hy => h y (List.mem_cons_of_mem x hy))

/-- Texts with as many marks as others have as many marks one after the other: `markCount` of
`flatMap`. -/
theorem markCount_flatMap_congr {α : Type} {f g : α → List Char} {xs : List α}
    (h : ∀ x ∈ xs, markCount (f x) = markCount (g x)) :
    markCount (xs.flatMap f) = markCount (xs.flatMap g) :=
  Nat.le_antisymm (markCount_flatMap_le fun x hx => Nat.le_of_eq (h x hx))
    (markCount_flatMap_le fun x hx => Nat.le_of_eq (h x hx).symm)

section Paired

variable {α β : Type} {R : α → β → Prop} {f : α → List Char} {g : β → List Char} {xs : List α}
  {ys : List β}

/-- Of lists paired in `R`, the one whose members have no more marks than their partners has no more
of them. -/
theorem markCount_le_of_forall₂ (h : List.Forall₂ R xs ys)
    (hle : ∀ x ∈ xs, ∀ y, R x y → markCount (g y) ≤ markCount (f x)) :
    markCount (ys.flatMap g) ≤ markCount (xs.flatMap f) := by
  induction h with
  | nil => exact Nat.le_refl _
  | cons hxy _ ih =>
      rw [List.flatMap_cons, List.flatMap_cons, markCount_append, markCount_append]
      exact Nat.add_le_add (hle _ List.mem_cons_self _ hxy)
        (ih fun x hx => hle x (List.mem_cons_of_mem _ hx))

/-- If a list paired in `R` has as many marks all in all, every member has as many as its partner.
-/
theorem exists_le_of_forall₂ (h : List.Forall₂ R xs ys)
    (hle : ∀ x ∈ xs, ∀ y, R x y → markCount (g y) ≤ markCount (f x))
    (hcount : markCount (xs.flatMap f) ≤ markCount (ys.flatMap g)) :
    ∀ x ∈ xs, ∃ y, R x y ∧ markCount (f x) ≤ markCount (g y) := by
  induction h with
  | nil => simp
  | cons hxy hrest ih =>
      rw [List.flatMap_cons, List.flatMap_cons, markCount_append, markCount_append] at hcount
      have hle' := fun x hx => hle x (List.mem_cons_of_mem _ hx)
      have hfirst := hle _ List.mem_cons_self _ hxy
      have hothers := markCount_le_of_forall₂ hrest hle'
      intro x hx
      rcases List.mem_cons.1 hx with rfl | hx
      · exact ⟨_, hxy, by omega⟩
      · exact ih hle' (by omega) x hx

/-- Lists paired in `R` whose partners have as many marks have as many of them all in all. -/
theorem markCount_eq_of_forall₂ (h : List.Forall₂ R xs ys)
    (heq : ∀ x ∈ xs, ∀ y, R x y → markCount (g y) = markCount (f x)) :
    markCount (ys.flatMap g) = markCount (xs.flatMap f) := by
  induction h with
  | nil => rfl
  | cons hxy _ ih =>
      rw [List.flatMap_cons, List.flatMap_cons, markCount_append, markCount_append,
        heq _ List.mem_cons_self _ hxy, ih fun x hx => heq x (List.mem_cons_of_mem _ hx)]

end Paired

/-! ## Texts up to a character -/

/-- The text up to the next place where `last` stands, and what follows it, unless a character that
`stops` comes before. -/
def upTo? (last : Char) (stops : Char → Bool) : List Char → Option (List Char × List Char)
  | [] => none
  | c :: cs =>
    if c = last then some ([], cs)
    else if stops c then none
    else (upTo? last stops cs).map fun parts => (c :: parts.1, parts.2)

/-- The text up to `last` does not hold it, and nothing that `stops`: `upTo?` as an equation. -/
theorem upTo?_eq_some_iff {last : Char} {stops : Char → Bool} {cs body rest : List Char} :
    upTo? last stops cs = some (body, rest) ↔
      cs = body ++ last :: rest ∧ last ∉ body ∧ ∀ c ∈ body, stops c = false := by
  induction cs generalizing body with
  | nil => simp [upTo?]
  | cons c cs ih =>
      rw [upTo?]
      -- the first character ends the text, stops it or belongs to it
      by_cases hlast : c = last
      · rw [if_pos hlast, hlast]
        constructor
        · intro h
          cases h
          simp
        · rintro ⟨hcs, hnot, -⟩
          cases body with
          | nil =>
              cases hcs
              rfl
          | cons d body =>
              cases hcs
              exact absurd List.mem_cons_self hnot
      · rw [if_neg hlast]
        constructor
        · intro h
          split at h
          · cases h
          · next hstops =>
            obtain ⟨parts, hparts, heq⟩ := Option.map_eq_some_iff.1 h
            cases heq
            obtain ⟨rfl, hnot, hbody⟩ := ih.1 hparts
            refine ⟨rfl, by simp [hnot, Ne.symm hlast], fun d hd => ?_⟩
            rcases List.mem_cons.1 hd with rfl | hd
            · simpa using hstops
            · exact hbody d hd
        · rintro ⟨hcs, hnot, hbody⟩
          cases body with
          | nil =>
              cases hcs
              exact absurd rfl hlast
          | cons d body =>
              cases hcs
              have hparts : upTo? last stops (body ++ last :: rest) = some (body, rest) :=
                ih.2 ⟨rfl, fun hmem => hnot (List.mem_cons_of_mem _ hmem),
                  fun e he => hbody e (List.mem_cons_of_mem _ he)⟩
              rw [if_neg (by simp [hbody c List.mem_cons_self])]
              exact Option.map_eq_some_iff.2 ⟨_, hparts, rfl⟩

/-- A text has one first place where `last` stands, so that what is before and behind it is
determined. -/
theorem append_cons_inj {last : Char} {left right left' right' : List Char} (hleft : last ∉ left)
    (hleft' : last ∉ left') (h : left ++ last :: right = left' ++ last :: right') :
    left = left' ∧ right = right' := by
  have hfound : upTo? last (fun _ => false) (left ++ last :: right) = some (left', right') :=
    upTo?_eq_some_iff.2 ⟨h, hleft', fun _ _ => rfl⟩
  rw [upTo?_eq_some_iff.2 ⟨rfl, hleft, fun _ _ => rfl⟩] at hfound
  cases hfound
  exact ⟨rfl, rfl⟩

/-- What would be a name of an emoji is ended by a colon, unless a blank comes first: `upToColon?`
is a case of `upTo?`. -/
theorem upToColon?_eq_upTo? (cs : List Char) : upToColon? cs = upTo? ':' isBlank cs := by
  induction cs with
  | nil => rfl
  | cons c cs ih => simp [upToColon?, upTo?, ih]

/-! ## Names of emoji -/

/-- A character that is no mark by `isMark`, and neither a tab nor a line feed. -/
def isQuiet (c : Char) : Bool :=
  !([0x9, 0xa, 0x3a, 0x5b, 0x5c].contains c.toNat)

/-- Rows whose characters all satisfy `p`. -/
def RowsOf (p : Char → Bool) (rows : List String) : Prop :=
  ∀ row ∈ rows, ∀ c ∈ row.toList, p c = true

theorem RowsOf.nil {p : Char → Bool} : RowsOf p [] := by simp [RowsOf]

/-- A row is checked as the list of its characters: `RowsOf` is kept by `cons`. -/
theorem RowsOf.cons {p : Char → Bool} {row : List Char} {rows : List String}
    (hrow : row.all p = true) (hrows : RowsOf p rows) : RowsOf p (String.ofList row :: rows) := by
  intro other hother c hc
  rcases List.mem_cons.1 hother with rfl | hother
  · rw [String.toList_ofList] at hc
    exact List.all_eq_true.1 hrow c hc
  · exact hrows other hother c hc

set_option maxRecDepth 4000 in
theorem rowsOf_plainEmojiRows : RowsOf isQuiet plainEmojiRows := by
  unfold plainEmojiRows
  repeat (apply RowsOf.cons; decide +kernel)
  exact .nil

theorem rowsOf_tonedEmojiRows : RowsOf isQuiet tonedEmojiRows := by
  unfold tonedEmojiRows
  repeat (apply RowsOf.cons; decide +kernel)
  exact .nil

/-- What satisfies `isQuiet` is no mark. -/
theorem isMark_of_isQuiet {c : Char} (h : isQuiet c = true) : isMark c = false := by
  rw [Bool.eq_false_iff]
  intro hmark
  simp only [isMark, Bool.or_eq_true, beq_iff_eq] at hmark
  obtain (rfl | rfl) | rfl := hmark <;> cases h

/-- What stands behind a name in a row of words is one of them: `lookupWord` takes it from there. -/
theorem mem_of_lookupWord {name value : List Char} {words : List (List Char)}
    (h : lookupWord name words = some value) : value ∈ words := by
  fun_induction lookupWord name words with
  | case1 found rest =>
      cases h
      simp
  | case2 key found rest hkey ih => exact List.mem_cons_of_mem _ (List.mem_cons_of_mem _ (ih h))
  | case3 => cases h

/-- What a name stands for in rows is made of their characters: `lookupRows` takes it from there. -/
theorem all_of_lookupRows {p : Char → Bool} {rows : List String} {name value : List Char}
    (hrows : RowsOf p rows) (h : lookupRows rows name = some value) : ∀ c ∈ value, p c = true := by
  intro c hc
  obtain ⟨row, hrow, hword⟩ := List.exists_of_findSome?_eq_some h
  exact hrows row hrow c (mem_of_mem_splitWhere (mem_of_lookupWord hword) hc)

/-- The modifiers in `skinTones` are quiet. -/
theorem isQuiet_of_mem_skinTones : ∀ tone ∈ skinTones, isQuiet tone.2 = true := by decide +kernel

/-- The selectors in `presentations` are quiet. -/
theorem isQuiet_of_mem_presentations : ∀ presentation ∈ presentations,
    isQuiet presentation.2 = true := by decide +kernel

/-- A tone adds its modifier only: `withTone` brings nothing else. -/
theorem mem_withTone {modifier c : Char} {value : List Char} (h : c ∈ withTone modifier value) :
    c = modifier ∨ c ∈ value := by
  fun_cases withTone modifier value <;> simp_all [withTone] <;> grind

/-- An emoji that `emojiNamed?` finds is quiet: its row is one of `RowsOf isQuiet`. -/
theorem isQuiet_of_emojiNamed? {name emoji : List Char} (h : emojiNamed? name = some emoji) :
    ∀ c ∈ emoji, isQuiet c = true := by
  rw [emojiNamed?, Option.or_eq_some_iff, Option.or_eq_some_iff] at h
  obtain hplain | ⟨-, htoned | ⟨-, htone⟩⟩ := h
  · exact all_of_lookupRows rowsOf_plainEmojiRows hplain
  · exact all_of_lookupRows rowsOf_tonedEmojiRows htoned
  · obtain ⟨tone, hmem, hvalue⟩ := List.exists_of_findSome?_eq_some htone
    split at hvalue
    · obtain ⟨value, hlookup, rfl⟩ := Option.map_eq_some_iff.1 hvalue
      intro c hc
      rcases mem_withTone hc with rfl | hc
      · exact isQuiet_of_mem_skinTones tone hmem
      · exact all_of_lookupRows rowsOf_tonedEmojiRows hlookup c hc
    · cases hvalue

/-- **No emoji holds a mark**, a tab or a line feed: what `emojiBetween?` finds is quiet, with its
tone and its selector. -/
theorem isQuiet_of_emojiBetween? {between emoji : List Char}
    (h : emojiBetween? between = some emoji) : ∀ c ∈ emoji, isQuiet c = true := by
  rw [emojiBetween?] at h
  split at h
  · next presentation hfind =>
    obtain ⟨value, hvalue, rfl⟩ := Option.map_eq_some_iff.1 h
    intro c hc
    rcases List.mem_append.1 hc with hc | hc
    · exact isQuiet_of_emojiNamed? hvalue c hc
    · rw [List.mem_singleton.1 hc]
      exact isQuiet_of_mem_presentations _ (List.mem_of_find?_eq_some hfind)
  · exact isQuiet_of_emojiNamed? h

/-- A text without names of emoji between its colons, of which every two belong together:
`emojiBetween?` finds none. -/
def EmojiFree (text : List Char) : Prop :=
  ∀ front between back, text = front ++ (':' :: between ++ ':' :: back) →
    front.count ':' % 2 = 0 → ':' ∉ between → emojiBetween? between = none

/-- A text with one colon or none has no pair of colons, so that it is `EmojiFree`. -/
theorem emojiFree_of_count_le {text : List Char} (h : text.count ':' ≤ 1) : EmojiFree text := by
  rintro front between back rfl - -
  simp at h
  omega

/-- What is no colon makes no difference in front of a text that is `EmojiFree`. -/
theorem emojiFree_cons_of_ne {c : Char} {cs : List Char} (hc : c ≠ ':') :
    EmojiFree (c :: cs) ↔ EmojiFree cs := by
  constructor
  · rintro h front between back rfl heven hnot
    exact h (c :: front) between back rfl (by rwa [List.count_cons_of_ne hc]) hnot
  · intro h front between back hcs heven hnot
    cases front with
    | nil =>
        cases hcs
        exact absurd rfl hc
    | cons d front =>
        cases hcs
        rw [List.count_cons_of_ne hc] at heven
        exact h front between back rfl heven hnot

/-- The first pair of colons comes before the others: `EmojiFree` unfolds from the start. -/
theorem emojiFree_pair {between rest : List Char} (hbetween : ':' ∉ between) :
    EmojiFree (':' :: between ++ ':' :: rest) ↔ emojiBetween? between = none ∧ EmojiFree rest := by
  have hcount : between.count ':' = 0 := List.count_eq_zero.2 hbetween
  constructor
  · intro h
    refine ⟨h [] between rest rfl rfl hbetween, ?_⟩
    rintro front other back rfl heven hnot
    refine h (':' :: between ++ ':' :: front) other back (by simp) ?_ hnot
    simp only [List.cons_append, List.count_cons_self, List.count_append, hcount]
    omega
  · rintro ⟨hnone, hrest⟩ front other back htext heven hnot
    cases front with
    | nil =>
        rw [List.nil_append, List.cons_append, List.cons_append, List.cons.injEq] at htext
        rw [← (append_cons_inj hbetween hnot htext.2).1]
        exact hnone
    | cons d front =>
        rw [List.cons_append, List.cons_append, List.cons.injEq] at htext
        obtain ⟨rfl, htext⟩ := htext
        rw [List.count_cons_self] at heven
        -- an odd number of colons follows the first one, so that the first pair lies in front
        have hcolon : ':' ∈ front := List.count_pos_iff.1 (by omega)
        obtain ⟨first, later, rfl, hfirst⟩ := List.eq_append_cons_of_mem hcolon
        rw [List.append_assoc, List.cons_append] at htext
        obtain ⟨-, rfl⟩ := append_cons_inj hbetween hfirst htext
        refine hrest later other back rfl ?_ hnot
        rw [List.count_append, List.count_cons_self, List.count_eq_zero.2 hfirst] at heven
        omega

/-- If no blank keeps `upToColon?` from finding a pair, no colon follows where there is none. -/
theorem not_mem_of_upToColon?_eq_none {cs : List Char} (hblank : ∀ c ∈ cs, isBlank c = false)
    (h : upToColon? cs = none) : ':' ∉ cs := by
  intro hcolon
  obtain ⟨between, rest, rfl, hnot⟩ := List.eq_append_cons_of_mem hcolon
  have hfound : upToColon? (between ++ ':' :: rest) = some (between, rest) := by
    rw [upToColon?_eq_upTo?]
    exact upTo?_eq_some_iff.2 ⟨rfl, hnot, fun c hc => hblank c (List.mem_append_left _ hc)⟩
  rw [h] at hfound
  cases hfound

/-- Without names of emoji a text stays as it is: `replaceEmoji` does nothing to what is
`EmojiFree`. -/
theorem replaceEmoji_of_emojiFree {cs : List Char} (hblank : ∀ c ∈ cs, isBlank c = false)
    (h : EmojiFree cs) : replaceEmoji cs = cs := by
  fun_induction replaceEmoji cs with
  | case1 => rfl
  | case2 cs between rest hbetween ih =>
      obtain ⟨rfl, hnot, -⟩ := upTo?_eq_some_iff.1 (upToColon?_eq_upTo? cs ▸ hbetween)
      obtain ⟨hnone, hrest⟩ := (emojiFree_pair hnot).1 h
      rw [hnone, ih (fun c hc => hblank c (by simp [hc])) hrest]
      simp
  | case3 cs hnone ih =>
      have hblank' : ∀ c ∈ cs, isBlank c = false := fun c hc => hblank c (List.mem_cons_of_mem _ hc)
      have hcount := List.count_eq_zero.2 (not_mem_of_upToColon?_eq_none hblank' hnone)
      rw [ih hblank' (emojiFree_of_count_le (by omega))]
  | case4 c cs hc ih =>
      rw [ih (fun d hd => hblank d (List.mem_cons_of_mem c hd)) ((emojiFree_cons_of_ne hc).1 h)]

/-- Emoji hold no mark: `markCount` of each is zero. -/
theorem markCount_emoji {between emoji : List Char} (h : emojiBetween? between = some emoji) :
    markCount emoji = 0 :=
  markCount_eq_zero fun c hc => isMark_of_isQuiet (isQuiet_of_emojiBetween? h c hc)

/-- Emoji bring no marks: `markCount` does not grow by `replaceEmoji`. -/
theorem markCount_replaceEmoji_le (cs : List Char) : markCount (replaceEmoji cs) ≤ markCount cs := by
  fun_induction replaceEmoji cs with
  | case1 => exact Nat.le_refl _
  | case2 cs between rest hbetween ih =>
      obtain ⟨rfl, -⟩ := upTo?_eq_some_iff.1 (upToColon?_eq_upTo? cs ▸ hbetween)
      cases hemoji : emojiBetween? between with
      | none =>
          simp [isMark]
          omega
      | some emoji =>
          simp [isMark, markCount_emoji hemoji]
          omega
  | case3 cs hnone ih => simpa [isMark] using ih
  | case4 c cs hc ih =>
      rw [markCount_cons, markCount_cons c cs]
      omega

/-- **Text that loses no mark to emoji has none of their names in it**: it is `EmojiFree`, as every
name loses its colons. -/
theorem emojiFree_of_markCount_le {cs : List Char} (hblank : ∀ c ∈ cs, isBlank c = false)
    (h : markCount cs ≤ markCount (replaceEmoji cs)) : EmojiFree cs := by
  -- a name would take two colons with it, and nothing that comes later gives marks back
  fun_induction replaceEmoji cs with
  | case1 => exact emojiFree_of_count_le (by simp)
  | case2 cs between rest hbetween ih =>
      obtain ⟨rfl, hnot, -⟩ := upTo?_eq_some_iff.1 (upToColon?_eq_upTo? cs ▸ hbetween)
      have hrest := markCount_replaceEmoji_le rest
      cases hemoji : emojiBetween? between with
      | none =>
          simp [hemoji, isMark] at h
          refine (emojiFree_pair hnot).2 ⟨hemoji, ih (fun c hc => hblank c (by simp [hc])) ?_⟩
          omega
      | some emoji =>
          simp [hemoji, isMark, markCount_emoji hemoji] at h
          omega
  | case3 cs hnone ih =>
      have hblank' : ∀ c ∈ cs, isBlank c = false := fun c hc => hblank c (List.mem_cons_of_mem _ hc)
      have hcount := List.count_eq_zero.2 (not_mem_of_upToColon?_eq_none hblank' hnone)
      exact emojiFree_of_count_le (by simp [hcount])
  | case4 c cs hc ih =>
      rw [markCount_cons, markCount_cons c (replaceEmoji cs)] at h
      refine (emojiFree_cons_of_ne hc).2 (ih (fun d hd => hblank d (List.mem_cons_of_mem c hd)) ?_)
      omega

/-- What is in a text after `replaceEmoji` is from the text or quiet. -/
theorem mem_replaceEmoji {cs : List Char} {c : Char} (h : c ∈ replaceEmoji cs) :
    c ∈ cs ∨ isQuiet c = true := by
  fun_induction replaceEmoji cs with
  | case1 => cases h
  | case2 cs between rest hbetween ih =>
      obtain ⟨rfl, -⟩ := upTo?_eq_some_iff.1 (upToColon?_eq_upTo? cs ▸ hbetween)
      rcases List.mem_append.1 h with h | h
      · cases hemoji : emojiBetween? between with
        | none =>
            rw [hemoji] at h
            left
            simp at h ⊢
            tauto
        | some emoji =>
            rw [hemoji] at h
            exact .inr (isQuiet_of_emojiBetween? hemoji c h)
      · exact (ih h).imp_left fun hrest => by simp [hrest]
  | case3 cs hnone ih =>
      rcases List.mem_cons.1 h with rfl | h
      · exact .inl List.mem_cons_self
      · exact (ih h).imp_left (List.mem_cons_of_mem _)
  | case4 d cs hd ih =>
      rcases List.mem_cons.1 h with rfl | h
      · exact .inl List.mem_cons_self
      · exact (ih h).imp_left (List.mem_cons_of_mem _)

end TreeSift.Screen
