import Mathlib.Data.List.Forall2

/-! # Values of several steps

Steps that may fail give a value exactly if each of them does. -/

namespace TreeSift

variable {ε σ α β : Type}

/-- After a value comes the next step: `Except.ok` is neutral for `>>=`. -/
theorem ok_bind (a : α) (next : α → Except ε β) : (Except.ok a >>= next) = next a := rfl

/-- After an error comes nothing: `Except.error` absorbs `>>=`. -/
theorem error_bind (error : ε) (next : α → Except ε β) :
    (Except.error error >>= next) = .error error := rfl

/-- What is no error is a value: `isOk` says so. -/
theorem exists_eq_ok_of_isOk {answer : Except ε α} (h : answer.isOk = true) :
    ∃ value, answer = .ok value := by
  cases answer with
  | ok value => exact ⟨value, rfl⟩
  | error error => cases h

/-- A step that gives a value and a state leaves the rest to `next`. -/
theorem run_bind_of_run {first : StateT σ (Except ε) α} {next : α → StateT σ (Except ε) β}
    {state after : σ} {a : α} (h : first.run state = .ok (a, after)) :
    (first >>= next).run state = (next a).run after := by
  rw [StateT.run_bind, h, ok_bind]

/-- The state is passed on to a step that asks for it by `get`. -/
theorem run_get_bind {next : σ → StateT σ (Except ε) α} {state : σ} :
    (get >>= next).run state = (next state).run state := rfl

/-- Two steps give a value exactly if both do: `>>=` on `Except`, seen from its `ok`. -/
theorem bind_eq_ok_iff {first : Except ε α} {next : α → Except ε β} {value : β} :
    (first >>= next) = .ok value ↔ ∃ a, first = .ok a ∧ next a = .ok value := by
  cases first with
  | error error => exact iff_of_false nofun (by simp)
  | ok a => simp [bind, Except.bind]

/-- What errors are turned into by `mapError` does not matter to a value. -/
theorem mapError_eq_ok_iff {ε' : Type} {answer : Except ε α} {f : ε → ε'} {value : α} :
    answer.mapError f = .ok value ↔ answer = .ok value := by
  cases answer <;> simp [Except.mapError]

/-- The members of a list give values by `mapM` exactly if each of them gives one. -/
theorem mapM_eq_ok_iff {f : α → Except ε β} {xs : List α} {ys : List β} :
    xs.mapM f = .ok ys ↔ List.Forall₂ (fun x y => f x = .ok y) xs ys := by
  induction xs generalizing ys with
  | nil =>
      rw [List.mapM_nil, List.forall₂_nil_left_iff]
      constructor
      · intro h
        cases h
        rfl
      · rintro rfl
        rfl
  | cons x xs ih =>
      rw [List.mapM_cons, bind_eq_ok_iff]
      constructor
      · rintro ⟨y, hy, hrest⟩
        obtain ⟨others, hothers, hys⟩ := bind_eq_ok_iff.1 hrest
        cases hys
        exact .cons hy (ih.1 hothers)
      · rintro (_ | ⟨hy, hothers⟩)
        exact ⟨_, hy, bind_eq_ok_iff.2 ⟨_, ih.2 hothers, rfl⟩⟩

/-- Members have partners in `R` exactly if each of them has one. -/
theorem exists_forall₂_iff {R : α → β → Prop} {xs : List α} :
    (∃ ys, List.Forall₂ R xs ys) ↔ ∀ x ∈ xs, ∃ y, R x y := by
  induction xs with
  | nil => simp
  | cons x xs ih =>
      rw [List.forall_mem_cons, ← ih]
      constructor
      · rintro ⟨_, hxy | ⟨hxy, hrest⟩⟩
        exact ⟨⟨_, hxy⟩, _, hrest⟩
      · rintro ⟨⟨y, hxy⟩, ys, hrest⟩
        exact ⟨y :: ys, .cons hxy hrest⟩

/-- A member of `xs` has a partner in `xs.zip ys`, if `ys` has the same length. -/
theorem exists_mem_zip_of_mem {xs : List α} {ys : List β} (hlength : xs.length = ys.length)
    {x : α} (h : x ∈ xs) : ∃ y, (x, y) ∈ xs.zip ys := by
  rw [← List.map_fst_zip (Nat.le_of_eq hlength), List.mem_map] at h
  obtain ⟨⟨x', y⟩, hmem, rfl⟩ := h
  exact ⟨y, hmem⟩

/-- Partners with the same images have the same lists of images: `map` of both sides of a `zip`. -/
theorem map_eq_map_of_zip {γ : Type} {xs : List α} {ys : List β} {f : α → γ} {g : β → γ}
    (hlength : xs.length = ys.length) (h : ∀ pair ∈ xs.zip ys, f pair.1 = g pair.2) :
    xs.map f = ys.map g := by
  calc
    xs.map f = ((xs.zip ys).map Prod.fst).map f := by rw [List.map_fst_zip (Nat.le_of_eq hlength)]
    _ = ((xs.zip ys).map Prod.snd).map g := by
      rw [List.map_map, List.map_map]
      exact List.map_congr_left h
    _ = ys.map g := by rw [List.map_snd_zip (Nat.le_of_eq hlength.symm)]

/-- Members that all have a value give a list of the values by `mapM`. -/
theorem mapM_eq_some_of_zip {f : α → Option β} {xs : List α} {ys : List β}
    (hlength : xs.length = ys.length) (h : ∀ pair ∈ xs.zip ys, f pair.1 = some pair.2) :
    xs.mapM f = some ys := by
  induction xs generalizing ys with
  | nil =>
      rw [List.eq_nil_of_length_eq_zero hlength.symm]
      rfl
  | cons x xs ih =>
      cases ys with
      | nil => cases hlength
      | cons y ys =>
          rw [List.zip_cons_cons, List.forall_mem_cons] at h
          rw [List.mapM_cons, h.1, ih (Nat.succ.inj hlength) h.2]
          rfl

end TreeSift
