/-! # Splitting text at separators

`splitWhere p` cuts a list at every element on which `p` holds, and drops these elements. There
is one part more than there are separators, so parts may be empty. -/

namespace TreeSift.Text

variable {α : Type}

/-- **The parts of a list between the elements on which `p` holds.** -/
def splitWhere (p : α → Bool) : List α → List (List α)
  | [] => [[]]
  | c :: cs =>
    if p c then [] :: splitWhere p cs
    else
      match splitWhere p cs with
      | [] => [[c]]
      | part :: parts => (c :: part) :: parts

/-- There is always a first part. -/
theorem splitWhere_ne_nil (p : α → Bool) (cs : List α) : splitWhere p cs ≠ [] := by
  cases cs with
  | nil => simp [splitWhere]
  | cons c cs =>
    unfold splitWhere
    split
    · simp
    · split <;> simp

/-- A list without separators is its only part. -/
theorem splitWhere_eq_singleton {p : α → Bool} {cs : List α} (h : ∀ c ∈ cs, p c = false) :
    splitWhere p cs = [cs] := by
  induction cs with
  | nil => rfl
  | cons c cs ih =>
    have hc : p c = false := h c (by simp)
    have hcs : splitWhere p cs = [cs] := ih fun d hd => h d (by simp [hd])
    simp [splitWhere, hc, hcs]

/-- A separator ends the last part before it and starts the first part after it. -/
theorem splitWhere_append_cons {p : α → Bool} {s : α} (hs : p s = true) (xs ys : List α) :
    splitWhere p (xs ++ s :: ys) = splitWhere p xs ++ splitWhere p ys := by
  induction xs with
  | nil => simp [splitWhere, hs]
  | cons x xs ih =>
    by_cases hx : p x = true
    · simp [splitWhere, hx, ih]
    · have hne := splitWhere_ne_nil p xs
      cases hsplit : splitWhere p xs with
      | nil => exact absurd hsplit hne
      | cons part parts => simp [splitWhere, hx, ih, hsplit]

/-- **Splitting undoes joining**: parts without separators come back from the text that joins them
with a separator. -/
theorem splitWhere_intercalate {p : α → Bool} {s : α} (hs : p s = true) {parts : List (List α)}
    (hne : parts ≠ []) (hparts : ∀ part ∈ parts, ∀ c ∈ part, p c = false) :
    splitWhere p ([s].intercalate parts) = parts := by
  induction parts with
  | nil => exact absurd rfl hne
  | cons part parts ih =>
    have hpart := splitWhere_eq_singleton (hparts part List.mem_cons_self)
    cases parts with
    | nil => simpa [List.intercalate] using hpart
    | cons next others =>
      have hothers := ih (List.cons_ne_nil next others) fun other hother =>
        hparts other (List.mem_cons_of_mem part hother)
      rw [List.intercalate_cons_cons, List.append_assoc, List.singleton_append,
        splitWhere_append_cons hs, hpart, hothers, List.singleton_append]

/-- No part holds a separator. -/
theorem not_mem_of_mem_splitWhere {p : α → Bool} {cs part : List α}
    (hpart : part ∈ splitWhere p cs) : ∀ c ∈ part, p c = false := by
  induction cs generalizing part with
  | nil =>
    have : part = [] := by simpa [splitWhere] using hpart
    simp [this]
  | cons c cs ih =>
    unfold splitWhere at hpart
    split at hpart
    · rcases List.mem_cons.1 hpart with rfl | hmem
      · simp
      · exact ih hmem
    · next hc =>
      split at hpart
      · next hnil => exact absurd hnil (splitWhere_ne_nil p cs)
      · next first others hsplit =>
        rcases List.mem_cons.1 hpart with rfl | hmem
        · intro d hd
          rcases List.mem_cons.1 hd with rfl | hd
          · simpa using hc
          · exact ih (by rw [hsplit]; simp) d hd
        · exact ih (by rw [hsplit]; simp [hmem])

/-- Parts hold nothing that the list does not hold. -/
theorem mem_of_mem_splitWhere {p : α → Bool} {cs part : List α} {c : α}
    (hpart : part ∈ splitWhere p cs) (hc : c ∈ part) : c ∈ cs := by
  induction cs generalizing part with
  | nil =>
    rw [splitWhere, List.mem_singleton] at hpart
    exact hpart ▸ hc
  | cons d cs ih =>
    unfold splitWhere at hpart
    split at hpart
    · rcases List.mem_cons.1 hpart with rfl | hmem
      · cases hc
      · exact List.mem_cons_of_mem d (ih hmem hc)
    · split at hpart
      · next hnil => exact absurd hnil (splitWhere_ne_nil p cs)
      · next first others hsplit =>
        rcases List.mem_cons.1 hpart with rfl | hmem
        · rcases List.mem_cons.1 hc with rfl | hc
          · exact List.mem_cons_self
          · exact List.mem_cons_of_mem d (ih (by rw [hsplit]; simp) hc)
        · exact List.mem_cons_of_mem d (ih (by rw [hsplit]; simp [hmem]) hc)

end TreeSift.Text
