import TreeSift.Proofs.FileTree.Listed
import TreeSift.Scan.Walk

/-! # Relative paths

What the text of a relative path says about the path (`RelativePath.ofText_text`), how it falls
into segments, and where the path lies on the file tree. A directory below the base directory is
never as deep as `Walk.walkBudget` (`length_lt_walkBudget`): that is why a walk with this budget
loses nothing. How deep it can be on a given file tree says `length_lt_of_isDirectory`. -/

namespace TreeSift

open TreeSift.Glob (tokenize isSeparator tokenize_append_cons)
open TreeSift.Text (splitWhere splitWhere_append_cons splitWhere_eq_singleton
  splitWhere_intercalate)

namespace RelativePath

variable {name : Name} {path : RelativePath}

/-! ## Texts -/

/-- Only the base directory has the empty `text`. -/
theorem text_cons_ne_empty (name : Name) (parent : RelativePath) : text (name :: parent) ≠ "" := by
  rw [text, joinRelative]
  split
  · exact name.text_ne_empty
  · intro h
    have hlist := congrArg String.toList h
    simp at hlist

/-- Below an entry other than the base directory, a slash and the name come after its `text`. -/
theorem text_cons (hne : path ≠ []) : text (name :: path) = text path ++ "/" ++ name.text := by
  obtain ⟨first, parent, rfl⟩ := List.exists_cons_of_ne_nil hne
  have hempty : (text (first :: parent)).isEmpty = false := by
    simpa using text_cons_ne_empty first parent
  rw [text, joinRelative, hempty]
  simp

/-- An entry of the base directory has its name as its `text`. -/
@[simp] theorem text_singleton (name : Name) : text [name] = name.text := by
  simp [text, joinRelative]

/-- The parts between the slashes of a `text` are the names of the relative path: no `Name` holds a
slash. -/
theorem splitWhere_text (hne : path ≠ []) :
    splitWhere (· == '/') (text path).toList = path.reverse.map fun name => name.text.toList := by
  induction path with
  | nil => exact absurd rfl hne
  | cons name parent ih =>
      by_cases hparent : parent = []
      · rw [hparent, text_singleton, name.splitWhere_text]
        rfl
      · have hslash : (text parent ++ "/" ++ name.text).toList =
            (text parent).toList ++ '/' :: name.text.toList := by simp
        rw [text_cons hparent, hslash, splitWhere_append_cons (by simp), ih hparent,
          name.splitWhere_text, List.reverse_cons, List.map_append]
        rfl

/-- **The relative path that a text writes**: the parts between slashes that are names, the last one
first. -/
def ofText (text : String) : RelativePath :=
  ((splitWhere (· == '/') text.toList).filterMap fun part =>
    Name.ofText? (String.ofList part)).reverse

/-- **A relative path can be read back from its text**: `ofText` undoes `text`. -/
@[simp] theorem ofText_text (path : RelativePath) : ofText (text path) = path := by
  by_cases hne : path = []
  · subst hne
    rfl
  · rw [ofText, splitWhere_text hne, List.filterMap_map]
    have hread : ((fun part => Name.ofText? (String.ofList part)) ∘ fun name : Name =>
        name.text.toList) = some := by
      funext name
      simp
    rw [hread, List.filterMap_some, List.reverse_reverse]

/-- Different relative paths have different texts, as `ofText` undoes `text`. -/
theorem text_injective : Function.Injective text := by
  intro a b h
  rw [← ofText_text a, ← ofText_text b, h]

/-- The `text` of an entry below the base directory does not start with a slash. -/
theorem exists_text_eq_cons (hne : path ≠ []) :
    ∃ c rest, (text path).toList = c :: rest ∧ c ≠ '/' := by
  induction path with
  | nil => exact absurd rfl hne
  | cons name parent ih =>
      by_cases hparent : parent = []
      · rw [hparent, text_singleton]
        cases hname : name.text.toList with
        | nil => exact absurd (String.toList_eq_nil_iff.1 hname) name.text_ne_empty
        | cons c rest => exact ⟨c, rest, rfl, Name.ne_slash_of_mem (by rw [hname]; simp)⟩
      · obtain ⟨c, rest, htext, hc⟩ := ih hparent
        exact ⟨c, rest ++ '/' :: name.text.toList, by simp [text_cons hparent, htext], hc⟩

/-! ## Segments -/

/-- The segments of a relative path are those of its directory and then those of its last name: a
name may hold backslashes, at which `tokenize` cuts too. -/
theorem tokenize_text_cons (name : Name) (parent : RelativePath) :
    tokenize (text (name :: parent)).toList =
      tokenize (text parent).toList ++ tokenize name.text.toList := by
  by_cases hparent : parent = []
  · rw [hparent, text_singleton]
    rfl
  · have hslash : (text parent ++ "/" ++ name.text).toList =
        (text parent).toList ++ '/' :: name.text.toList := by simp
    rw [text_cons hparent, hslash, tokenize_append_cons rfl]

/-- The segments of a relative path start with those of each `ancestor`. -/
theorem exists_tokenize_text_eq_append {ancestor : RelativePath} (h : ancestor <:+ path) :
    ∃ more, tokenize (text path).toList = tokenize (text ancestor).toList ++ more := by
  obtain ⟨names, rfl⟩ := h
  induction names with
  | nil => exact ⟨[], by simp⟩
  | cons name names ih =>
      obtain ⟨more, hmore⟩ := ih
      exact ⟨more ++ tokenize name.text.toList, by
        rw [List.cons_append, tokenize_text_cons, hmore, List.append_assoc]⟩

/-! ## Places on the file tree -/

variable {base : Path}

/-- The parts of `below base path` are those of the base directory and then the names. -/
theorem below_eq (base : Path) (path : RelativePath) :
    below base path = ⟨base.root, base.parts ++ path.reverse.map Name.text⟩ := by
  induction path with
  | nil => simp [below]
  | cons name parent ih => simp [below, ih, Path.child]

/-- Parts that end with a name do not join to an empty text, as no `Name` is empty. -/
theorem intercalate_append_text_ne_empty (parts : List String) (name : Name) :
    "/".intercalate (parts ++ [name.text]) ≠ "" := by
  by_cases hparts : parts = []
  · simpa [hparts] using name.text_ne_empty
  · rw [String.intercalate_append_of_ne_nil hparts (by simp)]
    simp

/-- The text of a place below the base directory joins all its parts, behind the root. -/
theorem text_below_of_ne_nil (hne : path ≠ []) :
    (below base path).text =
      base.root ++ "/".intercalate (base.parts ++ path.reverse.map Name.text) := by
  obtain ⟨name, parent, rfl⟩ := List.exists_cons_of_ne_nil hne
  have hparts := intercalate_append_text_ne_empty
    (base.parts ++ parent.reverse.map Name.text) name
  rw [below_eq, Path.text, if_neg]
  simpa using fun _ => hparts

/-- Below a place other than the base directory, a slash and the name come after its text. -/
theorem text_below_cons (hne : path ≠ []) :
    (below base (name :: path)).text = (below base path).text ++ "/" ++ name.text := by
  -- both texts join all parts after the root
  rw [text_below_of_ne_nil hne, text_below_of_ne_nil (List.cons_ne_nil name path),
    List.reverse_cons, List.map_append, ← List.append_assoc,
    String.intercalate_append_of_ne_nil (by simp [hne]) (by simp)]
  simp [String.append_assoc]

/-- The steps to a place below the entry `outer` of the base directory end with the names of
`inner`. -/
theorem stepsOf_text_below (base : Path) (outer : Name) (inner : RelativePath) :
    stepsOf (below base (inner ++ [outer])).text =
      stepsOf (below base [outer]).text ++ inner.reverse.map .enter := by
  induction inner with
  | nil => simp
  | cons name inner ih =>
      have hslash (text : String) : (text ++ "/" ++ name.text).toList =
          text.toList ++ '/' :: name.text.toList := by simp
      rw [List.cons_append, text_below_cons (by simp), stepsOf, hslash,
        splitWhere_append_cons (by simp), List.map_append, ← stepsOf, ih, ← stepsOf,
        name.stepsOf_text]
      simp

/-- What lies `below` a base directory is that far from it: `partsAfter?` gives the names. -/
theorem partsAfter?_below (base : Path) (path : RelativePath) :
    (below base path).absolute.partsAfter? base.absolute = some (path.reverse.map Name.text) := by
  rw [below_eq]
  by_cases hroot : base.root.isEmpty = true <;> simp [Path.absolute, Path.partsAfter?, hroot]

/-- All parts of the `text` of a relative path are kept by `partsOf`. -/
theorem partsOf_text (path : RelativePath) :
    Path.partsOf (text path).toList = path.reverse.map Name.text := by
  by_cases hne : path = []
  · subst hne
    rfl
  · have hkept : ∀ part ∈ path.reverse.map fun name => name.text.toList,
        Path.isKept part = true := by
      intro part hpart
      obtain ⟨name, -, rfl⟩ := List.mem_map.1 hpart
      exact name.isKept_text
    rw [Path.partsOf, splitWhere_text hne, List.filter_eq_self.2 hkept, List.map_map]
    exact List.map_congr_left fun name _ => String.ofList_toList

/-- The `text` of a relative path has no root. -/
theorem rootOf_text (path : RelativePath) : Path.rootOf (text path).toList = "" := by
  by_cases hne : path = []
  · subst hne
    rfl
  · obtain ⟨c, rest, htext, hc⟩ := exists_text_eq_cons hne
    rw [htext, Path.rootOf.eq_def]
    split <;> simp_all

/-- **Joining the text of a relative path to the base directory** gives its place: `join` undoes
what `text` does. -/
theorem join_text (base : Path) (path : RelativePath) : base.join (text path) = below base path := by
  rw [Path.join, Path.ofText, partsOf_text, rootOf_text, below_eq]
  simp

/-! ## The order of visits -/

/-- The texts of the names on the way to an entry, the outermost one first: what `Precedes`
compares. -/
def texts (path : RelativePath) : List String :=
  path.reverse.map Name.text

/-- **The order of visits**: the lists `texts` compared name by name, so that a directory comes
before what lies below it, and entries of a directory come in the order of their names, each with
what lies below it. -/
def Precedes (path other : RelativePath) : Prop :=
  texts path < texts other

variable {other start : RelativePath}

theorem not_precedes_self (path : RelativePath) : ¬Precedes path path :=
  List.lt_irrefl _

theorem Precedes.asymm (h : Precedes path other) : ¬Precedes other path :=
  List.lt_asymm h

/-- What lies below a directory comes after it: a proper suffix `Precedes` the path. -/
theorem precedes_of_suffix (h : start <:+ path) (hne : start ≠ path) : Precedes start path := by
  obtain ⟨inner, rfl⟩ := h
  cases hinner : inner.reverse with
  | nil => exact absurd (by simp [List.reverse_eq_nil_iff.1 hinner]) hne
  | cons outer rest =>
      have hnil : start.reverse.map Name.text ++ [] < start.reverse.map Name.text ++
          (outer :: rest).map Name.text := List.append_left_lt (List.nil_lt_cons ..)
      rw [Precedes, texts, texts, List.reverse_append, List.map_append, hinner]
      rwa [List.append_nil] at hnil

/-- The directory of an entry, `path.tail`, comes before it. -/
theorem tail_precedes (hne : path ≠ []) : Precedes path.tail path := by
  obtain ⟨name, parent, rfl⟩ := List.exists_cons_of_ne_nil hne
  refine precedes_of_suffix (List.suffix_cons name parent) fun h => ?_
  exact Nat.not_succ_le_self _ (Nat.le_of_eq (congrArg List.length h).symm)

/-- What lies at or below an entry `Precedes` what lies at or below a later entry of the same
directory. -/
theorem precedes_of_text_lt {name name' : Name} (hlt : name.text < name'.text)
    (hpath : name :: start <:+ path) (hother : name' :: start <:+ other) : Precedes path other := by
  obtain ⟨inner, rfl⟩ := hpath
  obtain ⟨inner', rfl⟩ := hother
  simp only [Precedes, texts, List.reverse_append, List.reverse_cons, List.map_append,
    List.append_assoc]
  exact List.append_left_lt (List.Lex.rel hlt)

/-- Entries in the order of `Precedes` have distinct texts. -/
theorem nodup_map_text {paths : List RelativePath} (h : paths.Pairwise Precedes) :
    (paths.map text).Nodup := by
  refine List.pairwise_map.2 (h.imp fun hprecedes heq => ?_)
  exact not_precedes_self _ (text_injective heq ▸ hprecedes)

/-! ## What lies above an entry -/

/-- **A clear way**: nothing between the base directory and the entry at `path` satisfies `blocks`.
-/
def Clear (blocks : RelativePath → Prop) (path : RelativePath) : Prop :=
  ∀ ancestor, ancestor <:+ path → ancestor ≠ path → ancestor ≠ [] → ¬blocks ancestor

section Clear

variable {blocks : RelativePath → Prop} {name : Name} {parent : RelativePath}

/-- The way to the base directory is `Clear`. -/
theorem clear_nil : Clear blocks [] := by
  intro ancestor hsuffix hne
  exact absurd (List.suffix_nil.1 hsuffix) hne

/-- What lies above an entry is its directory and what lies above that: `Clear` by all suffixes of
`parent`. -/
theorem clear_cons_iff_forall :
    Clear blocks (name :: parent) ↔
      ∀ ancestor, ancestor <:+ parent → ancestor ≠ [] → ¬blocks ancestor := by
  constructor
  · intro h ancestor hsuffix
    refine h ancestor (hsuffix.trans (List.suffix_cons name parent)) fun heq => ?_
    exact Nat.not_succ_le_self _ (heq ▸ hsuffix).length_le
  · intro h ancestor hsuffix hne
    exact h ancestor ((List.suffix_cons_iff.1 hsuffix).resolve_left hne)

/-- The way to an entry is `Clear` if the way to its directory is, and the directory is not itself
in the way. -/
theorem clear_cons :
    Clear blocks (name :: parent) ↔ Clear blocks parent ∧ (parent ≠ [] → ¬blocks parent) := by
  rw [clear_cons_iff_forall]
  constructor
  · intro h
    exact ⟨fun ancestor hsuffix _ => h ancestor hsuffix, h parent (List.suffix_refl parent)⟩
  · rintro ⟨hparent, hblocks⟩ ancestor hsuffix
    by_cases heq : ancestor = parent
    · subst heq
      exact hblocks
    · exact hparent ancestor hsuffix heq

/-- Whether the way to an entry is `Clear` can be found out, directory by directory. -/
instance decidableClear [DecidablePred blocks] :
    (path : RelativePath) → Decidable (Clear blocks path)
  | [] => isTrue clear_nil
  | _ :: parent =>
    have : Decidable (Clear blocks parent) := decidableClear parent
    decidable_of_iff _ clear_cons.symm

end Clear

end RelativePath

/-! ## Depth -/

open RelativePath (below stepsOf_text_below)

/-- **Directories below the base directory are not deep**: a link, of at most `maxLinks`, or a
directory of the tree stands for every name on the way. -/
theorem length_lt_of_isDirectory {tree : FileTree} {base : Path} {path : RelativePath}
    (h : tree.isDirectory (below base path) = .ok true) :
    path.length < (maxLinks + 1) * (tree.directoryCount + 1) + 1 := by
  obtain ⟨-, -, there, fault, -, links, hlinks, hroute⟩ := FileTree.isDirectory_eq_true_iff.1 h
  rcases List.eq_nil_or_concat path with rfl | ⟨inner, outer, rfl⟩
  · exact Nat.succ_pos _
  · rw [List.concat_eq_append] at hroute ⊢
    rw [stepsOf_text_below] at hroute
    -- the outermost name is apart: it may come without a slash before it
    obtain ⟨before, after, mid, rfl, -, hinner⟩ := hroute.split
    have hlength := hinner.length_le
    have hdirectories := tree.directoriesBelow_lt mid.length
    have hafter : after * tree.directoryCount ≤ maxLinks * tree.directoryCount :=
      Nat.mul_le_mul_right _ (by omega)
    rw [List.length_reverse] at hlength
    rw [List.length_append, List.length_singleton, Nat.add_mul, Nat.mul_add, Nat.one_mul]
    omega

/-- With one more name, `intercalate` joins to a longer text. -/
theorem utf8ByteSize_intercalate_lt (parts : List String) (name : Name) :
    ("/".intercalate parts).utf8ByteSize < ("/".intercalate (parts ++ [name.text])).utf8ByteSize := by
  have hname : 0 < name.text.utf8ByteSize := by
    rw [Nat.pos_iff_ne_zero, Ne, String.utf8ByteSize_eq_zero_iff]
    exact name.text_ne_empty
  by_cases hparts : parts = []
  · simpa [hparts] using hname
  · rw [String.intercalate_append_of_ne_nil hparts (by simp), String.utf8ByteSize_append,
      String.utf8ByteSize_append, String.intercalate_singleton]
    omega

/-- **No path has more names than its text has bytes**: every name takes one at least. -/
theorem length_le_utf8ByteSize_below (base : Path) (path : RelativePath) :
    path.length ≤ (below base path).text.utf8ByteSize := by
  have hparts : path.length ≤ ("/".intercalate (below base path).parts).utf8ByteSize := by
    induction path with
    | nil => exact Nat.zero_le _
    | cons name parent ih =>
        have hlonger := utf8ByteSize_intercalate_lt (below base parent).parts name
        rw [List.length_cons]
        exact Nat.succ_le_of_lt (Nat.lt_of_le_of_lt ih hlonger)
  rw [Path.text]
  split
  · next hempty =>
    -- without a root and parts there are no names
    have hsize : ("/".intercalate (below base path).parts).utf8ByteSize = 0 := by
      rw [String.isEmpty_iff, String.append_eq_empty_iff] at hempty
      rw [hempty.2, String.utf8ByteSize_empty]
    omega
  · rw [String.utf8ByteSize_append]
    omega

/-- **No directory below the base directory is as deep as a walk can get**: its path text has at
most `maxPathBytes`, so that its names are fewer than `walkBudget`. -/
theorem length_lt_walkBudget {tree : FileTree} {base : Path} {path : RelativePath}
    (h : tree.isDirectory (below base path) = .ok true) : path.length < Walk.walkBudget := by
  obtain ⟨-, hsize, -⟩ := FileTree.isDirectory_eq_true_iff.1 h
  exact Nat.lt_succ_of_le (Nat.le_trans (length_le_utf8ByteSize_below base path) hsize)

end TreeSift
