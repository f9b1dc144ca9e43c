import TreeSift.Screen.WidthTable

/-! # Widths on a screen

A screen has columns of one width, and a `Cluster` is what is drawn in one place: a character with
everything that is put on it. `columns` measures a text, `clusters` takes it apart, and `cut`, `fit`
and `chop` bring it to a width. -/

namespace TreeSift.Screen

/-- The number of columns of a character alone, by the tables `columnless` and `wide`. -/
def charColumns (c : Char) : Nat :=
  if columnless.contains c.toNat then 0
  else if wide.contains c.toNat then 2
  else 1

/-- **What is drawn in one place**: characters that take their columns together, as `clusters` finds
them. -/
structure Cluster where
  /-- The characters. -/
  text : List Char
  /-- The number of columns. -/
  columns : Nat
  deriving DecidableEq, Repr

/-- The character that joins the next one to the last one. -/
def joiner : Char := Char.ofNat 0x200d

/-- The character that asks for an emoji. -/
def emojiSelector : Char := Char.ofNat 0xfe0f

namespace Cluster

/-- A cluster with one more character that takes no columns. -/
def push (cluster : Cluster) (c : Char) : Cluster :=
  { cluster with text := cluster.text ++ [c] }

/-- A cluster with the emoji selector after the character it was last made wider by. -/
def select (cluster : Cluster) (last? : Option Char) : Cluster :=
  let extra := if last?.any fun c => emojiOnRequest.contains c.toNat then 1 else 0
  { text := cluster.text ++ [emojiSelector], columns := cluster.columns + extra }

/-- The clusters of a text, of which the first one goes on from a given cluster. `joined` says that
the last character was a joiner, and `last?` is the last character that took columns, unless an
emoji selector has followed it. -/
def gather (cluster : Cluster) (joined : Bool) (last? : Option Char) : List Char → List Cluster
  | [] => [cluster]
  | c :: cs =>
    -- a joiner draws the next character in the same place, whatever it is
    if joined then gather (cluster.push c) false last? cs
    else if c = joiner then gather (cluster.push c) true last? cs
    else if c = emojiSelector then gather (cluster.select last?) false none cs
    else if charColumns c = 0 then gather (cluster.push c) false last? cs
    else cluster :: gather ⟨[c], charColumns c⟩ false (some c) cs

end Cluster

/-- **The clusters of a text.** A `joiner` at its start has nothing to join, and draws nothing. -/
def clusters (cs : List Char) : List Cluster :=
  let parts :=
    match cs with
    | [] => []
    | c :: rest =>
      if c = joiner then Cluster.gather ⟨[c], 0⟩ false none rest
      else Cluster.gather ⟨[], 0⟩ false none cs
  parts.filter fun cluster => !cluster.text.isEmpty

/-- The columns of clusters. -/
def totalColumns (parts : List Cluster) : Nat :=
  parts.foldr (fun cluster total => cluster.columns + total) 0

/-- **The number of columns of a text**, by `Cluster.gather`. A `joiner` takes the columns from the
character behind it, even at the start. -/
def columns (cs : List Char) : Nat :=
  totalColumns (Cluster.gather ⟨[], 0⟩ false none cs)

/-- The text of clusters. -/
def clusterText (parts : List Cluster) : List Char :=
  parts.flatMap Cluster.text

/-- Clusters hold the characters that they are made of. -/
theorem clusterText_gather (cluster : Cluster) (joined : Bool) (last? : Option Char)
    (cs : List Char) : clusterText (cluster.gather joined last? cs) = cluster.text ++ cs := by
  induction cs generalizing cluster joined last? with
  | nil => simp [Cluster.gather, clusterText]
  | cons c cs ih =>
    unfold Cluster.gather
    split
    · simp [ih, Cluster.push]
    · split
      · simp [ih, Cluster.push]
      · split
        · next hc => simp [ih, Cluster.select, hc]
        · split
          · simp [ih, Cluster.push]
          · rw [clusterText, List.flatMap_cons, ← clusterText, ih]
            rfl

/-- Clusters without characters add nothing to the text. -/
theorem clusterText_filter (parts : List Cluster) :
    clusterText (parts.filter fun cluster => !cluster.text.isEmpty) = clusterText parts := by
  induction parts with
  | nil => rfl
  | cons cluster parts ih =>
    by_cases h : cluster.text = [] <;> simp_all [clusterText]

/-- **Taking a text apart loses nothing**: `clusterText` puts it together again. -/
@[simp] theorem clusterText_clusters (cs : List Char) : clusterText (clusters cs) = cs := by
  cases cs with
  | nil => rfl
  | cons c rest =>
    simp only [clusters, clusterText_filter]
    split <;> simp only [clusterText_gather, List.nil_append, List.singleton_append]

/-- Blanks that fill a number of columns. -/
def spaces (n : Nat) : List Char :=
  List.replicate n ' '

/-- The clusters at the start of a list that fit into a number of columns. -/
def takeColumns (room : Nat) : List Cluster → List Cluster
  | [] => []
  | cluster :: parts =>
    if cluster.columns ≤ room then cluster :: takeColumns (room - cluster.columns) parts else []

/-- A text cut to a width by `takeColumns`. Where a wide character is cut off in the middle, a blank
is left. -/
def cut (width : Nat) (cs : List Char) : List Char :=
  if columns cs ≤ width then cs
  else
    let kept := takeColumns width (clusters cs)
    clusterText kept ++ spaces (width - totalColumns kept)

/-- **A text cut or filled to a width**: `cut`, or with blanks behind it. -/
def fit (width : Nat) (cs : List Char) : List Char :=
  let kept := cut width cs
  kept ++ spaces (width - columns kept)

/-- Pieces of clusters that each fit into a width, as long as a single cluster does; `line` is the
piece that is being filled, and takes `used` columns. -/
def chopClusters (width : Nat) (line : List Char) (used : Nat) : List Cluster → List (List Char)
  | [] => [line]
  | cluster :: parts =>
    if used + cluster.columns ≤ width ∨ line.isEmpty then
      chopClusters width (line ++ cluster.text) (used + cluster.columns) parts
    else line :: chopClusters width cluster.text cluster.columns parts

/-- **The pieces of a text that is cut wherever a width is full.** -/
def chop (width : Nat) (cs : List Char) : List (List Char) :=
  chopClusters width [] 0 (clusters cs)

/-- The pieces of clusters hold the text before them and their own. -/
theorem flatten_chopClusters (width : Nat) (line : List Char) (used : Nat)
    (parts : List Cluster) :
    (chopClusters width line used parts).flatten = line ++ clusterText parts := by
  induction parts generalizing line used with
  | nil => simp [chopClusters, clusterText]
  | cons cluster parts ih =>
    unfold chopClusters
    split <;> simp [ih, clusterText]

/-- **Cutting a text into pieces loses nothing**: those of `chop` make up the text. -/
@[simp] theorem flatten_chop (width : Nat) (cs : List Char) : (chop width cs).flatten = cs := by
  simp [chop, flatten_chopClusters]

end TreeSift.Screen
