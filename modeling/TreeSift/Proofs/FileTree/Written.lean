import Mathlib.Logic.Basic
import TreeSift.FileTree.Edit

/-! # What is written is there

On its way a path passes directories only (`OfDirectories`), so that it does not end at a link that
ought to be followed (`not_isLink_of_locate`). A file that is put where it ends changes none of these
directories, and the path leads to the file then (`locate_insert_file`). So the text that is written
to a path is what the path holds (`readText_of_writeText`), and something is at the path
(`pathExists_of_writeText`). -/

namespace TreeSift

namespace FileTree

variable {tree written : FileTree} {here location : Location} {steps : List Step}
  { entry? : Option Entry} {text : String} {path : Path} {links : Nat}

/-! ## Where paths end -/

/-- The location and those above it, but for the root, are directories. -/
def OfDirectories (tree : FileTree) (location : Location) : Prop :=
  ∀ place, place ≠ [] → place <:+ location → ∃ fault, tree.entryAt? place = some (.directory fault)

/-- The root has no location above it, so that it is `OfDirectories`. -/
theorem ofDirectories_nil : tree.OfDirectories [] := fun _ hplace hsuffix =>
  absurd (List.suffix_nil.1 hsuffix) hplace

/-- What is above a location `OfDirectories` is one. -/
theorem OfDirectories.tail (h : tree.OfDirectories location) : tree.OfDirectories location.tail :=
  fun place hplace hsuffix => h place hplace (hsuffix.trans (List.tail_suffix location))

/-- A directory in a location `OfDirectories` is one. -/
theorem OfDirectories.cons {name : Name} {fault : Option ListingFault}
    (h : tree.OfDirectories location)
    (hname : tree.entryAt? (name :: location) = some (.directory fault)) :
    tree.OfDirectories (name :: location) := by
  intro place hplace hsuffix
  rcases List.suffix_cons_iff.1 hsuffix with rfl | hsuffix
  · exact ⟨fault, hname⟩
  · exact h place hplace hsuffix

/-- Where a target is read from, `startOf`, is a location `OfDirectories` as well: the same one or
the root. -/
theorem OfDirectories.startOf (h : tree.OfDirectories location) (target : String) :
    tree.OfDirectories (startOf target location) := by
  rw [TreeSift.startOf]
  split
  · exact ofDirectories_nil
  · exact h

/-- The entry that a path ends at is what stands in its location, and a link only if this is in the
root. -/
def EndsAt (tree : FileTree) (location : Location) ( entry? : Option Entry) : Prop :=
  entry? = tree.entryAt? location ∧ (location = [] ∨ ∀ target, entry? ≠ some (.link target))

/-- Steps from a location `OfDirectories` end so if they do where `follow` goes. -/
theorem endsAt_of_advance {follow : Location → List Step → Except Errno Site}
    (hfollow : ∀ here steps, tree.OfDirectories here → follow here steps = .ok ⟨location, entry?⟩ →
      tree.EndsAt location entry?)
    (hhere : tree.OfDirectories here)
    (h : tree.advance true follow here steps = .ok ⟨location, entry?⟩) :
    tree.EndsAt location entry? := by
  induction steps generalizing here with
  | nil =>
      simp only [advance, Except.ok.injEq, Site.mk.injEq] at h
      obtain ⟨rfl, rfl⟩ := h
      refine ⟨rfl, or_iff_not_imp_left.2 fun hne target htarget => ?_⟩
      obtain ⟨fault, hfault⟩ := hhere here hne List.suffix_rfl
      rw [hfault] at htarget
      cases htarget
  | cons step steps ih =>
      cases step with
      | stay => exact ih hhere h
      | up => exact ih hhere.tail h
      | overlong => simp [advance] at h
      | enter name =>
          rw [advance] at h
          -- a directory lets the steps go on, and a link starts other ones
          split at h
          · next hname => exact ih (hhere.cons hname) h
          · next hname =>
            split at h
            · cases h
              exact ⟨hname.symm, .inr nofun⟩
            · cases h
          · next target hname =>
            rw [Bool.not_true, Bool.and_false, if_neg Bool.false_ne_true] at h
            exact hfollow _ _ (hhere.startOf target) h
          · next hname =>
            split at h
            · cases h
              exact ⟨hname.symm, .inr nofun⟩
            · cases h

/-- Steps on which links are followed end so, by induction on the links that `walk` may follow. -/
theorem endsAt_of_walk (hhere : tree.OfDirectories here)
    (h : tree.walk true links here steps = .ok ⟨location, entry?⟩) :
    tree.EndsAt location entry? := by
  induction links generalizing here steps with
  | zero =>
      refine endsAt_of_advance (fun _ _ _ hfollow => ?_) hhere h
      cases hfollow
  | succ links ih => exact endsAt_of_advance (fun _ _ hhere h => ih hhere h) hhere h

/-- **A path ends at what stands in its location**, and at a link in the root alone: `EndsAt` holds
of what `locate` finds. -/
theorem endsAt_of_locate (h : tree.locate true text = .ok ⟨location, entry?⟩) :
    tree.EndsAt location entry? := by
  rw [locate] at h
  split at h
  · exact endsAt_of_walk ofDirectories_nil h
  · cases h

/-! ## A file where a path ends -/

/-- A file can be put in the location: it is the root, or there is a file or nothing. -/
def TakesFile (tree : FileTree) (location : Location) : Prop :=
  location = [] ∨ ∀ entry, tree.entryAt? location = some entry → ∃ old, entry = .file old

/-- A file that is put in a location that `TakesFile` changes no directory or link below the root.
-/
theorem entryAt?_insert_of_ne_file {name : Name} {entry : Entry} (htakes : tree.TakesFile location)
    (hname : tree.entryAt? (name :: here) = some entry) (hentry : ∀ old, entry ≠ .file old)
    (text : String) :
    (tree.insert location (.file text)).entryAt? (name :: here) = some entry := by
  rw [entryAt?_insert, if_neg, hname]
  rintro rfl
  rcases htakes with hroot | hfile
  · cases hroot
  · obtain ⟨old, hold⟩ := hfile entry hname
    exact hentry old hold

/-- Steps lead to the file that is put there if they do where `follow` goes. -/
theorem advance_insert_file {follow follow' : Location → List Step → Except Errno Site}
    (htakes : tree.TakesFile location)
    (hfollow : ∀ here steps, follow here steps = .ok ⟨location, entry?⟩ →
      follow' here steps = .ok ⟨location, some (.file text)⟩)
    (h : tree.advance true follow here steps = .ok ⟨location, entry?⟩) :
    (tree.insert location (.file text)).advance true follow' here steps =
      .ok ⟨location, some (.file text)⟩ := by
  induction steps generalizing here with
  | nil =>
      simp only [advance, Except.ok.injEq, Site.mk.injEq] at h
      obtain ⟨rfl, -⟩ := h
      simp [advance, entryAt?_insert]
  | cons step steps ih =>
      cases step with
      | stay => exact ih h
      | up => exact ih h
      | overlong => simp [advance] at h
      | enter name =>
          rw [advance] at h
          -- directories and links stand where they stood: only the end can be the new file
          split at h
          · next hname =>
            simp only [advance, entryAt?_insert_of_ne_file htakes hname nofun]
            exact ih h
          · next hname =>
            split at h
            · next hlast =>
              cases h
              simp [advance, entryAt?_insert, hlast]
            · cases h
          · next hname =>
            rw [Bool.not_true, Bool.and_false, if_neg Bool.false_ne_true] at h
            simp only [advance, entryAt?_insert_of_ne_file htakes hname nofun, Bool.not_true,
              Bool.and_false, Bool.false_eq_true, if_false]
            exact hfollow _ _ h
          · next hname =>
            split at h
            · next hlast =>
              cases h
              simp [advance, entryAt?_insert, hlast]
            · cases h

/-- Steps on which links are followed lead to the file that is put there, by induction on the links
that `walk` may follow. -/
theorem walk_insert_file (htakes : tree.TakesFile location)
    (h : tree.walk true links here steps = .ok ⟨location, entry?⟩) :
    (tree.insert location (.file text)).walk true links here steps =
      .ok ⟨location, some (.file text)⟩ := by
  induction links generalizing here steps with
  | zero =>
      refine advance_insert_file htakes (fun _ _ hfollow => ?_) h
      cases hfollow
  | succ links ih => exact advance_insert_file htakes (fun _ _ h => ih h) h

/-- **A path leads to the file that is put where it ends**: `locate` finds the same location, with
the file. -/
theorem locate_insert_file {text' : String} (htakes : tree.TakesFile location)
    (h : tree.locate true text' = .ok ⟨location, entry?⟩) :
    (tree.insert location (.file text)).locate true text' = .ok ⟨location, some (.file text)⟩ := by
  rw [locate] at h ⊢
  split at h
  · next hlength =>
    rw [if_pos hlength]
    exact walk_insert_file htakes h
  · cases h

/-! ## Texts that are written -/

/-- A path to which `writeText` has written a text leads to a file with the text. -/
theorem lookup_of_writeText (h : tree.writeText path text = .ok written) :
    hasNul path.text = false ∧
      ∃ location, written.lookup true path.text = .ok (location, .file text) := by
  rw [writeText] at h
  split at h
  · cases h
  · next hnul =>
    refine ⟨by simpa using hnul, ?_⟩
    split at h
    · cases h
    · next location entry? hdirectory hlocate =>
      cases h
      obtain ⟨rfl, hlink⟩ := endsAt_of_locate hlocate
      have htakes : tree.TakesFile location := hlink.imp_right fun hlink entry hentry => by
        cases entry with
        | file old => exact ⟨old, rfl⟩
        | directory fault => exact absurd hentry (hdirectory fault)
        | link target => exact absurd hentry (hlink target)
      exact ⟨location, by rw [lookup, locate_insert_file htakes hlocate]⟩
    · cases h

/-- **The text that is written to a path is what the path holds**: `readText` gives back what
`writeText` took. -/
theorem readText_of_writeText (h : tree.writeText path text = .ok written) :
    written.readText path = .ok text := by
  obtain ⟨hnul, location, hlookup⟩ := lookup_of_writeText h
  rw [readText, hnul, hlookup]
  rfl

/-- **Something is at a path to which a text has been written**: `pathExists` says yes after
`writeText`. -/
theorem pathExists_of_writeText (h : tree.writeText path text = .ok written) :
    written.pathExists path = .ok true := by
  obtain ⟨hnul, location, hlookup⟩ := lookup_of_writeText h
  rw [pathExists, query, hnul, hlookup]
  rfl

end FileTree

end TreeSift
