import TreeSift.Proofs.Pattern.Literal
import TreeSift.Proofs.Pattern.Start
import TreeSift.Proofs.Scan.Specification

/-! # Scans of subdirectories

A pattern behind the path of a directory includes there what the pattern alone includes in a scan that
starts from that directory, and nothing else. Both scans reach the same below the directory
(`reachable_append_iff`), if every directory above it can be listed: then their included entries are
the same (`outcomes_include_same`). A directory above that cannot be listed hides the directory from
the longer scan alone (`not_outcomes_include_same_hidingTree`). -/

namespace TreeSift

open TreeSift.Glob (tokenize isSeparator hasWildcard matchTokens matchStart)
open TreeSift.Text (splitWhere splitWhere_append_cons splitWhere_eq_singleton
  splitWhere_intercalate not_mem_of_mem_splitWhere)

/-! ## Paths -/

namespace Path

/-- Slashes at the start of a text do not change its parts: `partsOf ('/' :: text) = partsOf text`.
-/
theorem partsOf_cons_slash (text : List Char) : partsOf ('/' :: text) = partsOf text := by
  have hsplit : splitWhere (· == '/') ('/' :: text) = [] :: splitWhere (· == '/') text :=
    splitWhere_append_cons (by simp) [] text
  rw [partsOf, hsplit, partsOf, List.filter_cons_of_neg (by simp [isKept])]

/-- A text behind a root has that root, if it does not start with a slash itself. -/
theorem rootOf_append {root : String} (hroot : root = "" ∨ root = "/" ∨ root = "//") {c : Char}
    (hc : c ≠ '/') (text : List Char) : rootOf (root.toList ++ c :: text) = root := by
  rcases hroot with rfl | rfl | rfl
  · rw [String.toList_empty, List.nil_append, rootOf]
    all_goals simp [hc]
  · show rootOf ('/' :: c :: text) = "/"
    rw [rootOf]
    all_goals simp [hc]
  · show rootOf ('/' :: '/' :: c :: text) = "//"
    rw [rootOf]
    simp [hc]

/-- The slashes of a root are no parts: `partsOf` leaves them out. -/
theorem partsOf_append {root : String} (hroot : root = "" ∨ root = "/" ∨ root = "//")
    (text : List Char) : partsOf (root.toList ++ text) = partsOf text := by
  rcases hroot with rfl | rfl | rfl
  · rfl
  · exact partsOf_cons_slash text
  · exact (partsOf_cons_slash _).trans (partsOf_cons_slash text)

/-- **A path can be read back from its text**, if it is in normal form and has parts that `isKept`
accepts and hold no slash. -/
theorem ofText_text {path : Path} (h : path.IsNormal) (hne : path.parts ≠ [])
    (hkept : ∀ part ∈ path.parts, isKept part.toList = true)
    (hslash : ∀ part ∈ path.parts, '/' ∉ part.toList) : ofText path.text = path := by
  obtain ⟨root, parts⟩ := path
  dsimp only at hne hkept hslash
  have hjoined : (Path.text ⟨root, parts⟩).toList =
      root.toList ++ ['/'].intercalate (parts.map String.toList) := by
    rw [h.text_eq hne, String.toList_append, String.toList_intercalate]
    rfl
  have hsplit : splitWhere (· == '/') (['/'].intercalate (parts.map String.toList)) =
      parts.map String.toList := by
    refine splitWhere_intercalate (by simp) (by simpa using hne) fun chars hchars c hc => ?_
    obtain ⟨part, hpart, rfl⟩ := List.mem_map.1 hchars
    simpa using fun heq : c = '/' => hslash part hpart (heq ▸ hc)
  -- the first part starts with a character that is no slash
  obtain ⟨c, rest, hcons, hc⟩ : ∃ c rest,
      ['/'].intercalate (parts.map String.toList) = c :: rest ∧ c ≠ '/' := by
    obtain ⟨part, others, rfl⟩ := List.exists_cons_of_ne_nil hne
    have hpart := h.ne_empty_of_mem part List.mem_cons_self
    obtain ⟨c, rest, hchars⟩ :=
      List.exists_cons_of_ne_nil (mt String.toList_eq_nil_iff.1 hpart)
    have hc : c ≠ '/' := by
      rintro rfl
      exact hslash part List.mem_cons_self (hchars ▸ List.mem_cons_self)
    cases others with
    | nil => exact ⟨c, rest, by simpa using hchars, hc⟩
    | cons other others => exact ⟨c, _, by simp [hchars]; rfl, hc⟩
  have hparts : partsOf (['/'].intercalate (parts.map String.toList)) = parts := by
    rw [partsOf, hsplit, List.filter_eq_self.2]
    · simp
    · intro chars hchars
      obtain ⟨part, hpart, rfl⟩ := List.mem_map.1 hchars
      exact hkept part hpart
  rw [ofText, hjoined, partsOf_append h.root_cases, hparts, hcons, rootOf_append h.root_cases hc]

end Path

namespace RelativePath

variable {path inner outer : RelativePath} {base : Path}

/-- The place of an entry below the subdirectory `outer` is `below` twice. -/
theorem below_append (base : Path) (inner outer : RelativePath) :
    below base (inner ++ outer) = below (below base outer) inner := by
  induction inner with
  | nil => rfl
  | cons name inner ih => rw [List.cons_append, below, ih, below]

/-- The segments of an entry below the subdirectory `outer` are those of `outer` and then its own.
-/
theorem tokenize_text_append (inner outer : RelativePath) :
    tokenize (text (inner ++ outer)).toList =
      tokenize (text outer).toList ++ tokenize (text inner).toList := by
  induction inner with
  | nil => exact (List.append_nil _).symm
  | cons name inner ih =>
      rw [List.cons_append, tokenize_text_cons, ih, tokenize_text_cons, List.append_assoc]

/-- Names without backslashes are the segments of a relative path: `tokenize` cuts at slashes only.
-/
theorem tokenize_text_of_plain (h : ∀ name ∈ path, '\\' ∉ name.text.toList) :
    tokenize (text path).toList = path.reverse.map fun name => name.text.toList := by
  induction path with
  | nil => rfl
  | cons name parent ih =>
      obtain ⟨hname, hparent⟩ := List.forall_mem_cons.1 h
      have hsegment : tokenize name.text.toList = [name.text.toList] := by
        have hplain : ∀ c ∈ name.text.toList, isSeparator c = false := fun c hc => by
          have hslash := Name.ne_slash_of_mem hc
          have hback : c ≠ '\\' := fun h => hname (h ▸ hc)
          simp [isSeparator, hslash, hback]
        rw [tokenize, splitWhere_eq_singleton hplain]
        simp [name.text_ne_empty]
      rw [tokenize_text_cons, ih hparent, hsegment]
      simp

/-- **The text of what has a text below a subdirectory**: `outer`, a slash and `inner`. -/
def textBelow (outer : RelativePath) (inner : String) : String :=
  if inner.isEmpty then text outer else joinRelative (text outer) inner

/-- The `text` of an entry below a subdirectory is `textBelow` its own text there. -/
theorem text_append (inner outer : RelativePath) :
    text (inner ++ outer) = textBelow outer (text inner) := by
  induction inner with
  | nil => rfl
  | cons name inner ih =>
      rw [List.cons_append, text, ih, text]
      by_cases hinner : text inner = ""
      · simp [hinner, textBelow, joinRelative, name.text_ne_empty]
      · by_cases houter : text outer = "" <;>
          simp [hinner, houter, textBelow, joinRelative, name.text_ne_empty, String.append_assoc]

/-- Entries below a subdirectory come in the order of their texts there: `textBelow outer` is
monotone. -/
theorem textBelow_lt_textBelow {a b : String} (houter : outer ≠ []) (h : a < b) :
    textBelow outer a < textBelow outer b := by
  have hempty : text outer ≠ "" := by
    obtain ⟨name, parent, rfl⟩ := List.exists_cons_of_ne_nil houter
    exact text_cons_ne_empty name parent
  have hb : b ≠ "" := by
    rintro rfl
    exact List.not_lt_nil _ (String.lt_iff.1 h)
  have hslash (text' : String) : (text outer ++ "/" ++ text').toList =
      (text outer).toList ++ '/' :: text'.toList := by simp
  have hbelow : textBelow outer b = text outer ++ "/" ++ b := by
    simp [textBelow, joinRelative, hb, hempty]
  rw [hbelow, String.lt_iff, hslash]
  by_cases ha : a = ""
  · have hself : (textBelow outer a).toList = (text outer).toList ++ [] := by simp [textBelow, ha]
    rw [hself]
    exact List.append_left_lt (List.nil_lt_cons ..)
  · have hbelow' : textBelow outer a = text outer ++ "/" ++ a := by
      simp [textBelow, joinRelative, ha, hempty]
    rw [hbelow', hslash]
    exact List.append_left_lt (List.cons_lt_cons_iff.2 (.inr ⟨rfl, String.lt_iff.1 h⟩))

end RelativePath

/-! ## Patterns -/

/-- The text of a pattern behind the path of the directory `outer`. -/
def RelativePath.patternBelow (outer : RelativePath) (pattern : String) : String :=
  text outer ++ "/" ++ pattern

/-- **A tree whose names hold no backslash**, so that `tokenize` cuts its paths between names only.
-/
def FileTree.HasPlainNames (tree : FileTree) : Prop :=
  ∀ entry ∈ tree.entries, ∀ name ∈ entry.1, '\\' ∉ name.text.toList

/-- **Settings that include by a single pattern**, `[pattern]`, and exclude nothing; upper and lower
case differ, and links are followed. -/
def ScanSettings.including (pattern : Pattern) (base : Path) : ScanSettings where
  basedir := some base
  includes := [pattern]
  useDefaultExcludes := false

namespace Scanner

open RelativePath (below text tokenize_text_append tokenize_text_of_plain below_append text_append
  patternBelow textBelow)

variable {tree : FileTree} {base : Path} {outer inner path : RelativePath} {prune : Bool}
  {pattern : String} {name : Name}

/-- The plan of a scan from `base` that includes by `pattern` behind the path of the directory
`outer`. -/
def longPlan (base : Path) (outer : RelativePath) (pattern : String) (prune : Bool) : ScanPlan :=
  planFrom (.including (.ofGlob (patternBelow outer pattern).toList) base) prune base

/-- The plan of a scan from the directory `outer` below `base` that includes by `pattern` alone. -/
def shortPlan (base : Path) (outer : RelativePath) (pattern : String) (prune : Bool) : ScanPlan :=
  planFrom (.including (.ofGlob pattern.toList) (below base outer)) prune (below base outer)

/-- Both scans look at the same places: what `longPlan` has below `outer` and `shortPlan` has. -/
theorem place_append (inner : RelativePath) :
    (longPlan base outer pattern prune).place (inner ++ outer) =
      (shortPlan base outer pattern prune).place inner :=
  below_append base inner outer

/-- Both scans list the same: `Lists` of `longPlan` below `outer` is that of `shortPlan`. -/
theorem lists_append_iff :
    (longPlan base outer pattern prune).Lists tree (inner ++ outer) name ↔
      (shortPlan base outer pattern prune).Lists tree inner name := by
  rw [ScanPlan.Lists, ScanPlan.Lists, place_append]

/-- The segments of `patternBelow outer pattern` are those of `outer` and then those of the pattern.
-/
theorem tokenize_patternBelow (outer : RelativePath) (hpattern : pattern ≠ "") :
    tokenize (completeGlob (patternBelow outer pattern).toList) =
      tokenize (text outer).toList ++ tokenize (completeGlob pattern.toList) := by
  have hslash : (patternBelow outer pattern).toList =
      (text outer).toList ++ '/' :: pattern.toList := by simp [patternBelow]
  rw [hslash, tokenize_completeGlob_append _ (by simpa using hpattern)]

/-- Where nothing is excluded and links are followed, a directory `Opens` if `matchesStart` says
that something included could lie below it. -/
theorem opens_including_iff {p : Pattern} :
    (planFrom (.including p base) prune base).Opens tree path ↔
      tree.isDirectory (below base path) = .ok true ∧
        (prune = false ∨ p.matchesStart .sensitive (text path) = true) := by
  constructor
  · rintro ⟨hdirectory, -, -, hcould⟩
    refine ⟨hdirectory, hcould.imp_right fun hcould => ?_⟩
    obtain hnil | ⟨p', hp', hstart⟩ := hcould
    · cases hnil
    · rwa [List.mem_singleton.1 hp'] at hstart
  · rintro ⟨hdirectory, hcould⟩
    refine ⟨hdirectory, by simp [planFrom, ofSettings, plan, ScanSettings.including,
      ScanSettings.Excludes], fun _ => rfl, ?_⟩
    exact hcould.imp_right fun hstart => .inr ⟨p, List.mem_singleton.2 rfl, hstart⟩

/-- Where nothing is excluded, a pattern includes what its segments match: `HasClass` is
`matchTokens`. -/
theorem hasClass_included_iff {source : List Char} {text : String} :
    (planFrom (.including (.ofGlob source) base) prune base).settings.HasClass text .included ↔
      matchTokens .sensitive (tokenize (completeGlob source)) (tokenize text.toList) = true := by
  have hexcludes : ¬(ScanSettings.including (.ofGlob source) base).Excludes text := by
    simp [ScanSettings.including, ScanSettings.Excludes]
  have hincludes : (ScanSettings.including (.ofGlob source) base).Includes text ↔
      (Pattern.ofGlob source).matchesPath .sensitive text = .ok true := by
    constructor
    · rintro (hnil | ⟨p, hp, hmatch⟩)
      · cases hnil
      · rwa [List.mem_singleton.1 hp] at hmatch
    · exact fun hmatch => .inr ⟨_, List.mem_singleton.2 rfl, hmatch⟩
  refine (and_iff_left hexcludes).trans (hincludes.trans ?_)
  rw [Pattern.ofGlob, Pattern.matchesPath, Except.ok.injEq]

/-- What can be listed has names of the tree, which hold no backslash. -/
theorem plain_of_lists (htree : tree.HasPlainNames)
    (h : ∀ name parent, name :: parent <:+ path →
      ∃ names, tree.list (below base parent) = .ok names ∧ name ∈ names) :
    ∀ name ∈ path, '\\' ∉ name.text.toList := by
  intro name hname
  obtain ⟨after, parent, rfl⟩ := List.append_of_mem hname
  obtain ⟨names, hlist, hmem⟩ := h name parent (List.suffix_append after _)
  obtain ⟨-, -, location, fault, hshown, -⟩ := FileTree.list_eq_ok_iff.1 hlist
  obtain ⟨entry, hentry⟩ := FileTree.mem_namesIn_iff.1 (FileTree.mem_namesIn_of_shown? hshown hmem)
  exact htree _ hentry name List.mem_cons_self

section Literal

variable (hliteral : ∀ name ∈ outer, hasWildcard name.text.toList = false)
  (hplain : ∀ name ∈ outer, '\\' ∉ name.text.toList) (hpattern : pattern ≠ "")

include hliteral hplain

/-- The segments of `outer` stand for themselves, as its names hold no wildcard. -/
theorem forall_literal_tokenize :
    ∀ segment ∈ tokenize (text outer).toList, hasWildcard segment = false := by
  rw [tokenize_text_of_plain hplain]
  intro segment hsegment
  obtain ⟨name, hname, rfl⟩ := List.mem_map.1 hsegment
  exact hliteral name (List.mem_reverse.1 hname)

include hpattern

/-- Below `outer`, `longPlan` and `shortPlan` open the same directories. -/
theorem opens_append_iff (inner : RelativePath) :
    (longPlan base outer pattern prune).Opens tree (inner ++ outer) ↔
      (shortPlan base outer pattern prune).Opens tree inner := by
  rw [longPlan, shortPlan, opens_including_iff, opens_including_iff, below_append]
  simp only [Pattern.ofGlob, Pattern.matchesStart, tokenize_patternBelow outer hpattern,
    tokenize_text_append, Glob.matchStart_append_append (forall_literal_tokenize hliteral hplain)]

/-- The longer scan opens every directory above `outer`: the pattern starts with its segments. -/
theorem opens_of_suffix (hsuffix : path <:+ outer)
    (hdirectory : tree.isDirectory (below base path) = .ok true) :
    (longPlan base outer pattern prune).Opens tree path := by
  obtain ⟨more, hmore⟩ := RelativePath.exists_tokenize_text_eq_append hsuffix
  -- the whole path of the directory starts like the pattern, and so does every path above
  have hstart : matchStart .sensitive (tokenize (text outer).toList ++
      tokenize (completeGlob pattern.toList)) (tokenize (text outer).toList ++ []) = true := by
    rw [Glob.matchStart_append_append (forall_literal_tokenize hliteral hplain)]
    cases tokenize (completeGlob pattern.toList) <;> rfl
  rw [List.append_nil] at hstart
  nth_rewrite 2 [hmore] at hstart
  refine opens_including_iff.2 ⟨hdirectory, .inr ?_⟩
  rw [Pattern.ofGlob, Pattern.matchesStart, tokenize_patternBelow outer hpattern]
  exact Glob.matchStart_of_append hstart

/-- The longer scan reaches `outer`, if every directory on the way lists the next one. -/
theorem reachable_outer
    (hlists : ∀ name parent, name :: parent <:+ outer →
      (longPlan base outer pattern prune).Lists tree parent name) :
    (longPlan base outer pattern prune).Reachable tree outer where
  lists := hlists
  opens name parent hsuffix _ := by
    obtain ⟨names, hlist, -⟩ := hlists name parent hsuffix
    exact opens_of_suffix hliteral hplain hpattern ((List.suffix_cons name parent).trans hsuffix)
      (FileTree.isDirectory_of_list hlist)

/-- **Both scans reach the same below the directory**: `Reachable` of `longPlan` behind `outer` is
that of `shortPlan`. -/
theorem reachable_append_iff (hdirectory : tree.isDirectory (below base outer) = .ok true)
    (hlists : ∀ name parent, name :: parent <:+ outer →
      (longPlan base outer pattern prune).Lists tree parent name) :
    (longPlan base outer pattern prune).Reachable tree (inner ++ outer) ↔
      (shortPlan base outer pattern prune).Reachable tree inner := by
  induction inner with
  | nil => exact iff_of_true (reachable_outer hliteral hplain hpattern hlists) ScanPlan.reachesBy_nil
  | cons name inner ih =>
      rw [List.cons_append, ScanPlan.reachable_cons, ScanPlan.reachable_cons, ih, lists_append_iff,
        opens_append_iff hliteral hplain hpattern]
      refine and_congr_right fun _ => and_congr_right fun _ => ?_
      by_cases hinner : inner = []
      · -- the directory itself is open, as the base directory of the shorter scan has to be
        subst hinner
        have hopens : (longPlan base outer pattern prune).Opens tree outer :=
          opens_of_suffix hliteral hplain hpattern (List.suffix_refl outer) hdirectory
        exact iff_of_true (fun _ => (opens_append_iff hliteral hplain hpattern []).1 hopens)
          fun h => absurd rfl h
      · simp [hinner]

/-- **The longer scan includes what the shorter one does, and nothing else**: each path of the class
`.included` goes through `outer`. -/
theorem included_iff_exists (hpath : ∀ name ∈ path, '\\' ∉ name.text.toList) :
    (longPlan base outer pattern prune).settings.HasClass (text path) .included ↔
      ∃ inner, path = inner ++ outer ∧
        (shortPlan base outer pattern prune).settings.HasClass (text inner) .included := by
  rw [longPlan, hasClass_included_iff, tokenize_patternBelow outer hpattern,
    Glob.matchTokens_append_iff (forall_literal_tokenize hliteral hplain)]
  simp only [shortPlan, hasClass_included_iff]
  constructor
  · rintro ⟨rest, hsegments, hmatch⟩
    -- names without backslashes are segments, so the path starts with the directory
    have hinjective : Function.Injective fun name : Name => name.text.toList := fun a b h =>
      Name.ext (String.toList_inj.1 h)
    have hprefix : outer.reverse <+: path.reverse := by
      rw [tokenize_text_of_plain hpath, tokenize_text_of_plain hplain] at hsegments
      exact (List.prefix_map_iff_of_injective hinjective).1 ⟨rest, hsegments.symm⟩
    obtain ⟨inner, rfl⟩ := List.reverse_prefix.1 hprefix
    rw [tokenize_text_append, List.append_cancel_left_eq] at hsegments
    exact ⟨inner, rfl, hsegments ▸ hmatch⟩
  · rintro ⟨inner, rfl, hmatch⟩
    exact ⟨_, tokenize_text_append inner outer, hmatch⟩

/-- **The longer scan lists as included what the shorter one does**, in the same order, each text
put behind `outer` by `textBelow`. -/
theorem list_included_eq_map (htree : tree.HasPlainNames) (houter : outer ≠ [])
    (hdirectory : tree.isDirectory (below base outer) = .ok true)
    (hlists : ∀ name parent, name :: parent <:+ outer →
      (longPlan base outer pattern prune).Lists tree parent name) {long short : ScanResult}
    (hlong : (longPlan base outer pattern prune).Describes tree long)
    (hshort : (shortPlan base outer pattern prune).Describes tree short) (isDirectory : Bool) :
    long.list isDirectory .included = (short.list isDirectory .included).map (textBelow outer) := by
  have hreach (inner : RelativePath) : (longPlan base outer pattern prune).Reachable tree
      (inner ++ outer) ↔ (shortPlan base outer pattern prune).Reachable tree inner :=
    reachable_append_iff hliteral hplain hpattern hdirectory hlists
  have hascending : ((short.list isDirectory .included).map (textBelow outer)).Pairwise (· < ·) :=
    List.pairwise_map.2 ((hshort.ascending_list isDirectory .included).imp fun hlt =>
      RelativePath.textBelow_lt_textBelow houter hlt)
  refine eq_of_pairwise_of_mem_iff not_lt_of_text_lt (hlong.ascending_list isDirectory .included)
    hascending fun name => ?_
  rw [hlong.mem_list, List.mem_map]
  constructor
  · rintro ⟨path, hpath, rfl, hkind, hclass⟩
    obtain ⟨inner, rfl, hinner⟩ := (included_iff_exists hliteral hplain hpattern
      (plain_of_lists htree hpath.lists)).1 hclass
    rw [place_append] at hkind
    exact ⟨text inner, (hshort.mem_list isDirectory .included _).2
      ⟨inner, (hreach inner).1 hpath, rfl, hkind, hinner⟩, (text_append inner outer).symm⟩
  · rintro ⟨_, hname, rfl⟩
    obtain ⟨inner, hinner, rfl, hkind, hclass⟩ := (hshort.mem_list isDirectory .included _).1 hname
    have hpath := (hreach inner).2 hinner
    rw [← place_append] at hkind
    rw [← text_append]
    exact ⟨inner ++ outer, hpath, rfl, hkind,
      (included_iff_exists hliteral hplain hpattern (plain_of_lists htree hpath.lists)).2
        ⟨inner, rfl, hclass⟩⟩

end Literal

/-! ## Both results -/

/-- A place below a base directory is one that a text writes: `below` of an `ofText` is one again.
-/
theorem exists_below_eq_ofText (base : String) (houter : outer ≠ []) :
    ∃ base', below (.ofText base) outer = .ofText base' := by
  have hnormal := ScanPlan.isNormal_below (Path.isNormal_ofText base) outer
  have hparts : (below (.ofText base) outer).parts =
      Path.partsOf base.toList ++ outer.reverse.map Name.text := by
    rw [RelativePath.below_eq]
    rfl
  have hcases : ∀ part ∈ (below (.ofText base) outer).parts,
      Path.isKept part.toList = true ∧ '/' ∉ part.toList := by
    intro part hpart
    rw [hparts] at hpart
    rcases List.mem_append.1 hpart with hpart | hpart
    · obtain ⟨chars, hchars, rfl⟩ := List.mem_map.1 hpart
      obtain ⟨hsplit, hkept⟩ := List.mem_filter.1 hchars
      rw [String.toList_ofList]
      exact ⟨hkept, fun hslash => by simpa using not_mem_of_mem_splitWhere hsplit '/' hslash⟩
    · obtain ⟨name, -, rfl⟩ := List.mem_map.1 hpart
      exact ⟨name.isKept_text, fun hslash => Name.ne_slash_of_mem hslash rfl⟩
  exact ⟨_, (Path.ofText_text hnormal (by simp [hparts, houter]) (fun part h => (hcases part h).1)
    fun part h => (hcases part h).2).symm⟩

/-- A directory that lists the first name on a way is a directory: `list` fails on all else. -/
theorem isDirectory_of_lists (houter : outer ≠ []) {base : Path}
    (hlists : ∀ name parent, name :: parent <:+ outer →
      ∃ names, tree.list (below base parent) = .ok names ∧ name ∈ names) :
    tree.isDirectory base = .ok true := by
  obtain ⟨inner, name, rfl⟩ := (List.eq_nil_or_concat outer).resolve_left houter
  obtain ⟨names, hlist, -⟩ := hlists name [] (by rw [List.concat_eq_append]; exact List.suffix_append ..)
  exact FileTree.isDirectory_of_list hlist

/-- Where all patterns are globs and nothing is excluded, an entry is `Examinable` unless the text
of its path is too long. -/
theorem examinable_including_iff {source : List Char} {base : Path} :
    (planFrom (.including (.ofGlob source) base) prune base).Examinable tree path ↔
      (path ≠ [] → (below base path).text.utf8ByteSize ≤ maxPathBytes) := by
  refine ScanPlan.examinable_iff_of_ant (fun p hp => ?_) (fun p hp => by cases hp)
  rw [List.mem_singleton.1 hp]
  rfl

variable {base : String} {longPattern shortPattern : Pattern}

/-- **Scanning with a pattern behind the path of a directory is scanning the directory.** If every
directory above it can be listed, and nothing that the scan reaches has a path that is too long, both
scans have results, and the included entries are the same, under their paths. -/
theorem outcomes_include_same (htree : tree.HasPlainNames) (houter : outer ≠ [])
    (hliteral : ∀ name ∈ outer, hasWildcard name.text.toList = false) (hpattern : pattern ≠ "")
    (hmarks : ∀ kind : PatternKind, kind.marks pattern.toList = false)
    (hmarks' : ∀ kind : PatternKind, kind.marks (patternBelow outer pattern).toList = false)
    (hshort : Pattern.compile pattern = .ok shortPattern)
    (hlong : Pattern.compile (patternBelow outer pattern) = .ok longPattern)
    (hdirectory : tree.isDirectory (below (.ofText base) outer) = .ok true)
    (hlists : ∀ name parent, name :: parent <:+ outer →
      ∃ names, tree.list (below (.ofText base) parent) = .ok names ∧ name ∈ names)
    (hsize : ∀ path, path ≠ [] →
      (planFrom (.including longPattern (.ofText base)) prune (.ofText base)).Reachable tree path →
        (below (.ofText base) path).text.utf8ByteSize ≤ maxPathBytes) :
    ∃ long short,
      outcome (.including longPattern (.ofText base)) prune tree = .ok long ∧
        outcome (.including shortPattern ((Path.ofText base).join (text outer))) prune tree =
          .ok short ∧
          ∀ isDirectory, long.list isDirectory .included =
            (short.list isDirectory .included).map (textBelow outer) := by
  rw [Pattern.compile_eq_ok_of_not_marks hmarks, Except.ok.injEq] at hshort
  rw [Pattern.compile_eq_ok_of_not_marks hmarks', Except.ok.injEq] at hlong
  subst hshort hlong
  have hplain : ∀ name ∈ outer, '\\' ∉ name.text.toList :=
    plain_of_lists htree hlists
  have hreach (inner : RelativePath) :
      (longPlan (.ofText base) outer pattern prune).Reachable tree (inner ++ outer) ↔
        (shortPlan (.ofText base) outer pattern prune).Reachable tree inner :=
    reachable_append_iff hliteral hplain hpattern hdirectory hlists
  -- the shorter scan starts from the directory as its own base
  obtain ⟨base', hbase'⟩ := exists_below_eq_ofText base houter
  have hcheck : checkBasedir tree (some (.ofText base)) = none :=
    checkBasedir_eq_none_iff.2 (isDirectory_of_lists houter hlists)
  have hcheck' : checkBasedir tree (some (.ofText base')) = none :=
    checkBasedir_eq_none_iff.2 (hbase' ▸ hdirectory)
  have hplan : planFrom (.including (.ofGlob pattern.toList) (.ofText base')) prune (.ofText base') =
      shortPlan (.ofText base) outer pattern prune := by rw [shortPlan, hbase']
  -- a scan has a result if it can examine what it reaches; both reach the same in the directory
  obtain ⟨long, hlong⟩ : ∃ long, outcome (.including (.ofGlob (patternBelow outer pattern).toList)
      (.ofText base)) prune tree = .ok long :=
    (exists_outcome_eq_ok_iff rfl hcheck).2 fun path hpath =>
      examinable_including_iff.2 fun hne => hsize path hne hpath
  obtain ⟨short, hshort⟩ : ∃ short, outcome (.including (.ofGlob pattern.toList)
      (.ofText base')) prune tree = .ok short := by
    refine (exists_outcome_eq_ok_iff rfl hcheck').2 fun path hpath => ?_
    rw [hplan] at hpath
    refine examinable_including_iff.2 fun hne => ?_
    rw [← hbase', ← RelativePath.below_append]
    exact hsize _ (by simp [hne]) ((hreach path).2 hpath)
  have hlongDescribes := describes_outcome rfl hcheck hlong
  have hshortDescribes := describes_outcome rfl hcheck' hshort
  rw [hplan] at hshortDescribes
  rw [RelativePath.join_text, hbase']
  exact ⟨long, short, hlong, hshort, list_included_eq_map hliteral hplain hpattern htree houter
    hdirectory hlists hlongDescribes hshortDescribes⟩

/-- The names in `smallTree` hold no backslash: it `HasPlainNames`. -/
theorem hasPlainNames_smallTree : smallTree.HasPlainNames := by
  unfold FileTree.HasPlainNames
  decide +kernel

/-- A pattern for the file in `smallTree`. -/
def leafPattern : String :=
  "f"

theorem not_marks_leafPattern (kind : PatternKind) : kind.marks leafPattern.toList = false := by
  cases kind <;> decide +kernel

theorem not_marks_patternBelow (kind : PatternKind) :
    kind.marks (patternBelow [directoryName] leafPattern).toList = false := by
  cases kind <;> decide +kernel

theorem literal_directoryName : ∀ name ∈ [directoryName], hasWildcard name.text.toList = false := by
  decide +kernel

/-- Both scans of `smallTree` include the same. -/
theorem outcomes_include_same_smallTree :
    smallTree.HasPlainNames ∧ smallTree.isDirectory (below (.ofText "/") [directoryName]) = .ok true ∧
      ∃ long short,
        outcome (.including (.ofGlob (patternBelow [directoryName] leafPattern).toList) (.ofText "/"))
          true smallTree = .ok long ∧
          outcome (.including (.ofGlob leafPattern.toList) ((Path.ofText "/").join (text [directoryName])))
            true smallTree = .ok short ∧
            ∀ isDirectory, long.list isDirectory .included =
              (short.list isDirectory .included).map (textBelow [directoryName]) := by
  have hdirectory : smallTree.isDirectory (below (.ofText "/") [directoryName]) = .ok true := by
    decide +kernel
  have hlist : smallTree.list (.ofText "/") = .ok [directoryName] := by decide +kernel
  have hlists : ∀ name parent, name :: parent <:+ [directoryName] →
      ∃ names, smallTree.list (below (.ofText "/") parent) = .ok names ∧ name ∈ names := by
    intro name parent hsuffix
    obtain ⟨rfl, rfl⟩ : name = directoryName ∧ parent = [] := by
      simpa using List.suffix_cons_iff.1 hsuffix
    exact ⟨_, hlist, List.mem_singleton.2 rfl⟩
  have hisOk : (outcome (.including (.ofGlob (patternBelow [directoryName] leafPattern).toList)
      (.ofText "/")) true smallTree).isOk = true := by decide +kernel
  have hcheck : checkBasedir smallTree (some (.ofText "/")) = none := by decide +kernel
  have hexaminable := (exists_outcome_eq_ok_iff rfl hcheck).1 (exists_eq_ok_of_isOk hisOk)
  exact ⟨hasPlainNames_smallTree, hdirectory, outcomes_include_same hasPlainNames_smallTree (by simp)
    literal_directoryName (by decide) not_marks_leafPattern not_marks_patternBelow
    (Pattern.compile_eq_ok_of_not_marks not_marks_leafPattern)
    (Pattern.compile_eq_ok_of_not_marks not_marks_patternBelow) hdirectory hlists
    fun path hne hreach => (hexaminable path hreach).size_le hne⟩

/-! ## A directory that hides another one -/

/-- The name of the base directory in `hidingTree`. -/
def hidingName : Name where
  text := "b"
  isEntryName_text := by decide

/-- A base directory that may not be listed, and in it a directory with a file, which
`directoryName` names. -/
def hidingTree : FileTree where
  entries := [([hidingName], .directory (some (.fails Errno.accessDenied))),
    ([directoryName, hidingName], .directory none),
    ([NestedTree.leafName, directoryName, hidingName], .file "")]

/-- The files that a scan includes, if its `outcome` is a result. -/
def includedFiles? (outcome : Except ScanFailure ScanResult) : Option (List String) :=
  outcome.toOption.map fun result => result.list false .included

theorem includedFiles?_long : includedFiles? (outcome (.including
    (.ofGlob (patternBelow [directoryName] leafPattern).toList) (.ofText hidingName.text)) true
      hidingTree) = some [] := by
  decide +kernel

theorem includedFiles?_short : includedFiles? (outcome (.including (.ofGlob leafPattern.toList)
    ((Path.ofText hidingName.text).join (text [directoryName]))) true hidingTree) =
      some [leafPattern] := by
  decide +kernel

/-- **A directory that cannot be listed hides what lies in it from the longer scan**: on
`hidingTree` the shorter one includes a file that the longer one does not get to. -/
theorem not_outcomes_include_same_hidingTree :
    hidingTree.HasPlainNames ∧
      hidingTree.isDirectory (below (.ofText hidingName.text) [directoryName]) = .ok true ∧
        ¬∃ long short,
          outcome (.including (.ofGlob (patternBelow [directoryName] leafPattern).toList)
            (.ofText hidingName.text)) true hidingTree = .ok long ∧
            outcome (.including (.ofGlob leafPattern.toList)
              ((Path.ofText hidingName.text).join (text [directoryName]))) true hidingTree =
                .ok short ∧
              ∀ isDirectory, long.list isDirectory .included =
                (short.list isDirectory .included).map (textBelow [directoryName]) := by
  refine ⟨?_, ?_, ?_⟩
  · unfold FileTree.HasPlainNames
    decide +kernel
  · decide +kernel
  · rintro ⟨long, short, hlong, hshort, hsame⟩
    have hlongFiles := includedFiles?_long
    have hshortFiles := includedFiles?_short
    rw [hlong] at hlongFiles
    rw [hshort] at hshortFiles
    have hnone : long.list false .included = [] := Option.some.inj hlongFiles
    have hleaf : short.list false .included = [leafPattern] := Option.some.inj hshortFiles
    have hfiles := hsame false
    rw [hnone, hleaf] at hfiles
    cases hfiles

end Scanner

end TreeSift
