import Mathlib.Data.Bool.AllAny
import Mathlib.Data.List.Nodup
import TreeSift.Text.Case

/-! # Folding upper and lower case

`folded` is the upper case of the lower case of a character. For all but six characters it is the upper case
itself (`folded_eq_upper`), and nothing but one of these six has one of them as its upper case, so characters
that share their upper case or their lower case have the same folding. The converse fails for one pair of
characters, the two symbols for theta: they have the same folding, but neither the same upper case nor the
same lower case (`sharesCase_iff`).

The case tables are looked through by halves for this (`SearchTree.find?_eq`), and every code point that has a
lower case is examined (`all_lowerRuns`). -/

namespace TreeSift.Text

/-! ## Searching by halves -/

/-- A list cut into parts, each `node` with the greatest key of what is in front of it. -/
inductive SearchTree (α : Type) where
  /-- A list that is not cut. -/
  | leaf (items : List α)
  /-- Two parts, and the greatest key of the first one. -/
  | node (pivot : Nat) (front back : SearchTree α)

namespace SearchTree

variable {α : Type} {key : α → Nat}

/-- The list that was cut: the leaves one after the other. -/
def toList : SearchTree α → List α
  | .leaf items => items
  | .node _ front back => front.toList ++ back.toList

/-- Cuts a list into halves, and these as well, so many times as `cuts` says. -/
def ofList (key : α → Nat) : Nat → List α → SearchTree α
  | 0, items => .leaf items
  | cuts + 1, items =>
    match (items.take (items.length / 2)).getLast? with
    | none => .leaf items
    | some last =>
      .node (key last) (ofList key cuts (items.take (items.length / 2)))
        (ofList key cuts (items.drop (items.length / 2)))

/-- Nothing is lost by cutting: `toList` undoes `ofList`. -/
@[simp] theorem toList_ofList (key : α → Nat) (cuts : Nat) (items : List α) :
    (ofList key cuts items).toList = items := by
  induction cuts generalizing items with
  | zero => rfl
  | succ cuts ih =>
      rw [ofList]
      split
      · rfl
      · rw [toList, ih, ih, List.take_append_drop]

/-- The first item whose `key` is not less than a code point, compared as numerals are computed
with. -/
def find? (key : α → Nat) (code : Nat) : SearchTree α → Option α
  | .leaf items => items.find? fun item => Nat.ble code (key item)
  | .node pivot front back =>
    bif Nat.ble code pivot then front.find? key code else back.find? key code

/-- Every `pivot` is the greatest key in front of it: what `find?` relies on, checked by
computation. -/
def isCut (key : α → Nat) : SearchTree α → Bool
  | .leaf _ => true
  | .node pivot front back =>
    front.toList.all (fun item => Nat.ble (key item) pivot) &&
      front.toList.any (fun item => Nat.beq (key item) pivot) && front.isCut key && back.isCut key

/-- **The search by halves** finds what `List.find?` finds in order. -/
theorem find?_eq {tree : SearchTree α} (h : tree.isCut key = true) (code : Nat) :
    tree.find? key code = tree.toList.find? fun item => Nat.ble code (key item) := by
  induction tree with
  | leaf items => rfl
  | node pivot front back ihfront ihback =>
      simp only [isCut, Bool.and_eq_true, List.all_eq_true, List.any_eq_true, Nat.ble_eq]
        at h
      obtain ⟨⟨⟨hle, last, hlast, hpivot⟩, hfront⟩, hback⟩ := h
      have hpivot := Nat.eq_of_beq_eq_true hpivot
      rw [find?, toList, List.find?_append, ihfront hfront, ihback hback]
      cases hcode : Nat.ble code pivot with
      | true =>
          obtain ⟨item, hitem⟩ : ∃ item, front.toList.find? (fun item => Nat.ble code (key item)) =
              some item := by
            rw [← Option.isSome_iff_exists, List.find?_isSome]
            exact ⟨last, hlast, by rw [hpivot, hcode]⟩
          rw [hitem, cond_true, Option.some_or]
      | false =>
          have hnone : front.toList.find? (fun item => Nat.ble code (key item)) = none := by
            rw [List.find?_eq_none]
            intro item hitem hble
            have hitem := hle item hitem
            rw [Nat.ble_eq] at hble
            rw [← Bool.not_eq_true, Nat.ble_eq] at hcode
            omega
          rw [hnone, cond_false, Option.none_or]

end SearchTree

/-- What a sorted list of pairs has for a key by `lookup` is found by the first key that is not
less. -/
theorem lookup_eq_bind_find? {α : Type} {items : List (Nat × α)}
    (h : items.Pairwise fun item later => item.1 < later.1) (code : Nat) :
    items.lookup code =
      (items.find? fun item => Nat.ble code item.1).bind fun item =>
        if item.1 = code then some item.2 else none := by
  induction items with
  | nil => rfl
  | cons item items ih =>
      obtain ⟨hlater, hitems⟩ := List.pairwise_cons.1 h
      rw [List.lookup_cons, List.find?_cons, ih hitems]
      rcases Nat.lt_trichotomy code item.1 with hlt | heq | hgt
      · -- the keys behind are greater as well
        have hble : Nat.ble code item.1 = true := Nat.ble_eq_true_of_le (Nat.le_of_lt hlt)
        have hne : (code == item.1) = false := beq_eq_false_iff_ne.2 (Nat.ne_of_lt hlt)
        rw [hble, hne, Option.bind_some, if_neg (Nat.ne_of_gt hlt)]
        cases hfind : items.find? fun item => Nat.ble code item.1 with
        | none => rfl
        | some later =>
            have hkey := hlater later (List.mem_of_find?_eq_some hfind)
            exact if_neg (Nat.ne_of_gt (Nat.lt_trans hlt hkey))
      · have hble : Nat.ble code item.1 = true := Nat.ble_eq_true_of_le (Nat.le_of_eq heq)
        rw [hble, beq_iff_eq.2 heq, Option.bind_some, if_pos heq.symm]
      · have hble : Nat.ble code item.1 = false := by
          rw [← Bool.not_eq_true, Nat.ble_eq]
          exact Nat.not_le_of_lt hgt
        have hne : (code == item.1) = false := beq_eq_false_iff_ne.2 (Nat.ne_of_gt hgt)
        rw [hble, hne]

/-! ## Case mappings by code points -/

/-- What runs that are cut map a code point to: `CaseRun.target?` by halves. -/
def targetIn? (runs : SearchTree CaseRun) (code : Nat) : Option Nat :=
  match runs.find? CaseRun.last code with
  | some r =>
    bif Nat.ble r.first code && Nat.beq ((code - r.first) % r.step) 0 then
      some (r.target + (code - r.first))
    else none
  | none => none

/-- What sequences that are cut map a code point to: `List.lookup` by halves. -/
def sequenceIn? (sequences : SearchTree (Nat × List Nat)) (code : Nat) : Option (List Nat) :=
  match sequences.find? Prod.fst code with
  | some item => bif Nat.beq item.1 code then some item.2 else none
  | none => none

/-- The code points that tables which are cut map a code point to: a sequence, a target of a run, or
the code point itself. -/
def mappedCodes (runs : SearchTree CaseRun) (sequences : SearchTree (Nat × List Nat)) (code : Nat) :
    List Nat :=
  match targetIn? runs code with
  | some target => [target]
  | none => (sequenceIn? sequences code).getD [code]

section Mapping

variable {runs : SearchTree CaseRun} {sequences : SearchTree (Nat × List Nat)}

theorem targetIn?_eq (h : runs.isCut CaseRun.last = true) (code : Nat) :
    targetIn? runs code = CaseRun.target? runs.toList code := by
  have hpredicate : (fun r : CaseRun => decide (code ≤ r.last)) = fun r => Nat.ble code r.last := by
    funext r
    rw [Bool.eq_iff_iff, decide_eq_true_iff, Nat.ble_eq]
  rw [targetIn?, SearchTree.find?_eq h, CaseRun.target?, hpredicate]
  cases runs.toList.find? fun r => Nat.ble code r.last with
  | none => rfl
  | some r =>
      have hcond : (Nat.ble r.first code && Nat.beq ((code - r.first) % r.step) 0) =
          decide (r.first ≤ code ∧ (code - r.first) % r.step = 0) := by
        rw [Bool.eq_iff_iff, Bool.and_eq_true, Nat.ble_eq, Nat.beq_eq, decide_eq_true_iff]
      dsimp only
      rw [hcond, Bool.cond_decide]

theorem sequenceIn?_eq (h : sequences.isCut Prod.fst = true)
    (hsorted : sequences.toList.Pairwise fun item later => item.1 < later.1) (code : Nat) :
    sequenceIn? sequences code = sequences.toList.lookup code := by
  rw [sequenceIn?, SearchTree.find?_eq h, lookup_eq_bind_find? hsorted]
  cases sequences.toList.find? fun item => Nat.ble code item.1 with
  | none => rfl
  | some item =>
      have hcond : Nat.beq item.1 code = decide (item.1 = code) := by
        rw [Bool.eq_iff_iff, Nat.beq_eq, decide_eq_true_iff]
      dsimp only [Option.bind_some]
      rw [hcond, Bool.cond_decide]

/-- **A case mapping** is what the tables map its code point to: `caseMapping` is `mappedCodes` of
the tables by halves. -/
theorem caseMapping_eq_map (hruns : runs.isCut CaseRun.last = true)
    (hsequences : sequences.isCut Prod.fst = true)
    (hsorted : sequences.toList.Pairwise fun item later => item.1 < later.1) (c : Char) :
    caseMapping runs.toList sequences.toList c =
      (mappedCodes runs sequences c.toNat).map Char.ofNat := by
  rw [caseMapping, mappedCodes, targetIn?_eq hruns, sequenceIn?_eq hsequences hsorted]
  cases CaseRun.target? runs.toList c.toNat with
  | some target => rfl
  | none =>
      cases sequences.toList.lookup c.toNat with
      | some codes => rfl
      | none => simp

end Mapping

/-- The code points of an upper case: `mappedCodes` of the tables for it. -/
def upperCodes (code : Nat) : List Nat :=
  mappedCodes (.ofList CaseRun.last 6 upperRuns) (.ofList Prod.fst 5 upperSequences) code

/-- The code points of the `upper` case of a character are its `upperCodes`. -/
theorem upper_eq_map (c : Char) : upper c = (upperCodes c.toNat).map Char.ofNat := by
  have hruns : (SearchTree.ofList CaseRun.last 6 upperRuns).isCut CaseRun.last = true := by
    decide +kernel
  have hsequences : (SearchTree.ofList Prod.fst 5 upperSequences).isCut Prod.fst = true := by
    decide +kernel
  have hsorted : upperSequences.Pairwise fun item later => item.1 < later.1 := by
    decide +kernel
  have hmap := caseMapping_eq_map hruns hsequences (by rwa [SearchTree.toList_ofList]) c
  rwa [SearchTree.toList_ofList, SearchTree.toList_ofList] at hmap

/-! ## What a case mapping takes to given characters -/

/-- A code point that `target?` maps to another one is in one of the runs. -/
theorem CaseRun.exists_mem_of_target? {runs : List CaseRun} {code target : Nat}
    (h : CaseRun.target? runs code = some target) :
    ∃ r ∈ runs, r.first ≤ code ∧ code ≤ r.last ∧ (code - r.first) % r.step = 0 ∧
      target = r.target + (code - r.first) := by
  rw [CaseRun.target?] at h
  split at h
  · next r hr =>
    split at h
    · next hmem =>
      have hlast : code ≤ r.last := by simpa using List.find?_some hr
      exact ⟨r, List.mem_of_find?_eq_some hr, hmem.1, hlast, hmem.2, (Option.some.inj h).symm⟩
    · cases h
  · cases h

/-- The code point that the run `r` maps to `code`, if there is one. -/
def CaseRun.source? (code : Nat) (r : CaseRun) : Option Nat :=
  if r.target ≤ code ∧ code - r.target ≤ r.last - r.first ∧ (code - r.target) % r.step = 0 then
    some (r.first + (code - r.target))
  else none

/-- The characters that a case mapping can take to `text`: the only character of the text, and what
runs and sequences map to it. -/
def caseSources (runs : List CaseRun) (sequences : List (Nat × List Nat)) (text : List Char) : List Char :=
  (match text with
    | [c] => c :: (runs.filterMap (CaseRun.source? c.toNat)).map Char.ofNat
    | _ => []) ++
  (sequences.filter fun item => item.2.map Char.ofNat = text).map fun item => Char.ofNat item.1

/-- The code point of the character `Char.ofNat code` is `code`, if it is valid. -/
theorem toNat_ofNat_of_isValidChar {code : Nat} (h : code.isValidChar) : (Char.ofNat code).toNat = code := by
  have hchar : Char.ofNat code = Char.ofNatAux code h := dif_pos h
  rw [hchar]
  rfl

/-- A code point that `Char.ofNat` does not turn into the null character is that of its character.
-/
theorem toNat_ofNat_of_ne {code : Nat} (h : Char.ofNat code ≠ Char.ofNat 0) :
    (Char.ofNat code).toNat = code := by
  by_cases hvalid : code.isValidChar
  · exact toNat_ofNat_of_isValidChar hvalid
  · exact absurd (dif_neg hvalid) h

/-- **What is mapped to a text** is among its `caseSources`, unless this holds the null character.
-/
theorem mem_caseSources {runs : List CaseRun} {sequences : List (Nat × List Nat)} {c : Char}
    {text : List Char} (h : caseMapping runs sequences c = text) (hnull : Char.ofNat 0 ∉ text) :
    c ∈ caseSources runs sequences text := by
  subst h
  rw [caseMapping] at hnull ⊢
  -- a run maps the character, or a sequence does, or it stays as it is
  cases htarget : CaseRun.target? runs c.toNat with
  | some target =>
      rw [htarget] at hnull
      obtain ⟨r, hr, hfirst, hlast, hstep, rfl⟩ := CaseRun.exists_mem_of_target? htarget
      have hsource : CaseRun.source? (r.target + (c.toNat - r.first)) r = some c.toNat := by
        rw [CaseRun.source?, Nat.add_sub_cancel_left, if_pos ⟨by omega, by omega, hstep⟩,
          Nat.add_sub_cancel' hfirst]
      refine List.mem_append_left _ (List.mem_cons_of_mem _ ?_)
      refine List.mem_map.2 ⟨c.toNat, ?_, Char.ofNat_toNat c⟩
      rw [toNat_ofNat_of_ne fun heq => hnull (List.mem_singleton.2 heq.symm)]
      exact List.mem_filterMap.2 ⟨r, hr, hsource⟩
  | none =>
      dsimp only
      cases hcodes : sequences.lookup c.toNat with
      | some codes =>
          obtain ⟨front, back, rfl, -⟩ := List.lookup_eq_some_iff.1 hcodes
          refine List.mem_append_right _ (List.mem_map.2 ⟨(c.toNat, codes), ?_, Char.ofNat_toNat c⟩)
          simp
      | none => exact List.mem_append_left _ List.mem_cons_self

/-! ## Folding -/

/-- **The folding of a character**: the `upper` case of its `lower` case. -/
def folded (c : Char) : List Char :=
  (lower c).flatMap upper

/-- The characters that are the upper case of nothing else although they have a lower case: theta as
a symbol, sharp s, the signs for ohm, kelvin and ångström, and i with a dot. Only for them `folded`
is not `upper`. -/
def oneWay : List Char :=
  ['\u03f4', '\u1e9e', '\u2126', '\u212a', '\u212b', '\u0130']

/-- The two symbols for theta, `\u03d1` in lower and `\u03f4` in upper case. -/
def thetaSymbols : List Char :=
  ['\u03d1', '\u03f4']

/-- **Characters clash** if they are the two members of `thetaSymbols`. -/
def Clash (a b : Char) : Prop :=
  a ∈ thetaSymbols ∧ b ∈ thetaSymbols ∧ a ≠ b

variable {a b c e : Char}

/-! ### Characters whose cases go both ways -/

/-- The check accepts every code point of the run `r` together with what it maps to. -/
def CaseRun.all (check : Nat → Nat → Bool) (r : CaseRun) : Bool :=
  (List.range ((r.last - r.first) / r.step + 1)).all fun k =>
    check (r.first + r.step * k) (r.target + r.step * k)

theorem CaseRun.check_of_target? {check : Nat → Nat → Bool} {runs : List CaseRun} {code target : Nat}
    (hall : runs.all (CaseRun.all check) = true) (h : CaseRun.target? runs code = some target) :
    check code target = true := by
  obtain ⟨r, hr, hfirst, hlast, hstep, rfl⟩ := CaseRun.exists_mem_of_target? h
  have hk : (code - r.first) / r.step ∈ List.range ((r.last - r.first) / r.step + 1) :=
    List.mem_range.2 (Nat.lt_succ_of_le (Nat.div_le_div_right (by omega)))
  have hcheck := List.all_eq_true.1 (List.all_eq_true.1 hall r hr) _ hk
  rwa [Nat.mul_div_cancel' (Nat.dvd_of_mod_eq_zero hstep), Nat.add_sub_cancel' hfirst] at hcheck

/-- The code point has the upper case of `target`, or is one of `oneWay`. -/
def keepsUpper (code target : Nat) : Bool :=
  decide target.isValidChar &&
    (upperCodes target == upperCodes code || (oneWay.map Char.toNat).contains code)

/-- The lower case of a code point keeps its upper case, or the code point is one of `oneWay`:
`keepsUpper` along the runs, by computation. -/
theorem all_lowerRuns : lowerRuns.all (CaseRun.all keepsUpper) = true := by
  decide +kernel

/-- **The folding is the upper case**, except for the characters of `oneWay`. -/
theorem folded_eq_upper (h : c ∉ oneWay) : folded c = upper c := by
  rw [folded, lower, caseMapping]
  cases htarget : CaseRun.target? lowerRuns c.toNat with
  | some target =>
      -- the code point was examined: its upper case is kept, or it is one of those that go one way
      have hcheck := CaseRun.check_of_target? all_lowerRuns htarget
      rw [keepsUpper, Bool.and_eq_true, decide_eq_true_iff, Bool.or_eq_true, beq_iff_eq,
        List.contains_iff_mem] at hcheck
      obtain ⟨hvalid, hupper | hmem⟩ := hcheck
      · rw [List.flatMap_singleton, upper_eq_map, toNat_ofNat_of_isValidChar hvalid, hupper, ← upper_eq_map]
      · obtain ⟨e, he, hcode⟩ := List.mem_map.1 hmem
        rw [Char.toNat_inj.1 hcode] at he
        exact absurd he h
  | none =>
      cases hcodes : lowerSequences.lookup c.toNat with
      | none => exact List.flatMap_singleton ..
      | some codes =>
          -- the only sequence is that of the i with a dot
          obtain ⟨front, back, hitems, -⟩ := List.lookup_eq_some_iff.1 hcodes
          have hmem : (c.toNat, codes) ∈ lowerSequences := by
            rw [hitems]
            simp
          have hcode : c.toNat = '\u0130'.toNat := congrArg Prod.fst (List.mem_singleton.1 hmem)
          rw [Char.toNat_inj.1 hcode] at h
          exact absurd (by decide) h

/-! ### Characters whose cases go one way -/

/-- Nothing else has the upper case of a character of `oneWay`. -/
theorem eq_of_upper_eq (he : e ∈ oneWay) (h : upper b = upper e) : b = e := by
  have hnull : ∀ e ∈ oneWay, Char.ofNat 0 ∉ upper e :=
    List.all_iff_forall_prop.1 (by decide +kernel)
  have hsources : ∀ e ∈ oneWay, caseSources upperRuns upperSequences (upper e) = [e] :=
    List.all_iff_forall_prop.1 (by decide +kernel)
  have hmem : b ∈ caseSources upperRuns upperSequences (upper e) := mem_caseSources h (hnull e he)
  rwa [hsources e he, List.mem_singleton] at hmem

/-- What folds like a character of `oneWay` shares its lower case, except for the symbols for theta.
-/
theorem lower_eq_of_folded_eq (he : e ∈ oneWay) (h : folded b = folded e) :
    lower b = lower e ∨ b ∈ thetaSymbols ∧ e ∈ thetaSymbols := by
  by_cases hb : b ∈ oneWay
  · have hnodup : (oneWay.map folded).Nodup := by decide +kernel
    rw [List.inj_on_of_nodup_map hnodup hb he h]
    exact .inl rfl
  · have hnull : ∀ e ∈ oneWay, Char.ofNat 0 ∉ folded e :=
      List.all_iff_forall_prop.1 (by decide +kernel)
    have hsources : ∀ e ∈ oneWay, ((caseSources upperRuns upperSequences (folded e)).all fun b =>
        lower b = lower e ∨ b ∈ thetaSymbols ∧ e ∈ thetaSymbols) = true :=
      List.all_iff_forall_prop.1 (by decide +kernel)
    rw [folded_eq_upper hb] at h
    -- what has this upper case is among finitely many characters
    exact List.all_iff_forall_prop.1 (hsources e he) b (mem_caseSources h (hnull e he))

/-! ### Characters that share a case -/

/-- Characters with the same `upper` case have the same folding. -/
theorem folded_eq_of_upper_eq (h : upper a = upper b) : folded a = folded b := by
  by_cases ha : a ∈ oneWay
  · rw [eq_of_upper_eq ha h.symm]
  · by_cases hb : b ∈ oneWay
    · rw [eq_of_upper_eq hb h]
    · rw [folded_eq_upper ha, folded_eq_upper hb, h]

/-- The symbols for theta share neither `upper` nor `lower` case. -/
theorem nodup_cases_thetaSymbols : (thetaSymbols.map upper).Nodup ∧ (thetaSymbols.map lower).Nodup := by
  decide +kernel

/-- **Characters share a case** exactly if they have the same `folded` form and do not `Clash`. -/
theorem sharesCase_iff : a = b ∨ upper a = upper b ∨ lower a = lower b ↔
    folded a = folded b ∧ ¬Clash a b := by
  constructor
  · intro h
    refine ⟨?_, fun ⟨ha, hb, hne⟩ => ?_⟩
    · rcases h with rfl | h | h
      · rfl
      · exact folded_eq_of_upper_eq h
      · rw [folded, folded, h]
    · obtain ⟨hupper, hlower⟩ := nodup_cases_thetaSymbols
      rcases h with h | h | h
      · exact hne h
      · exact hne (List.inj_on_of_nodup_map hupper ha hb h)
      · exact hne (List.inj_on_of_nodup_map hlower ha hb h)
  · rintro ⟨h, htheta⟩
    by_cases hne : a = b
    · exact .inl hne
    · refine .inr ?_
      by_cases ha : a ∈ oneWay
      · rcases lower_eq_of_folded_eq ha h.symm with hlower | ⟨hb, ha⟩
        · exact .inr hlower.symm
        · exact absurd ⟨ha, hb, hne⟩ htheta
      · by_cases hb : b ∈ oneWay
        · rcases lower_eq_of_folded_eq hb h with hlower | ⟨ha, hb⟩
          · exact .inr hlower
          · exact absurd ⟨ha, hb, hne⟩ htheta
        · -- both cases go both ways, so the foldings are the upper cases
          rw [folded_eq_upper ha, folded_eq_upper hb] at h
          exact .inl h

end TreeSift.Text
