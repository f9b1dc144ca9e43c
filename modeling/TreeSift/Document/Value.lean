import TreeSift.Document.Binary64
import TreeSift.Document.Timestamp
import TreeSift.Text.Quoted

/-! # Values of documents

What a document in a data format holds: a `Value` is a scalar, a list, a pair, a set of scalars, or
a mapping from scalars to values. Mappings keep the order in which their keys came; `insertEntry`
replaces the value of a key that is there already. -/

namespace TreeSift.Document

/-- **A value without parts**, which can also be a key of a `Value.mapping`. -/
inductive Scalar where
  /-- Nothing. -/
  | null
  /-- A truth value. -/
  | bool (value : Bool)
  /-- An integer. -/
  | int (value : Int)
  /-- A floating-point number. -/
  | float (value : Binary64)
  /-- A text. -/
  | text (value : String)
  /-- A date, or a date with a time. -/
  | timestamp (value : Timestamp)
  /-- Bytes. -/
  | bytes (value : List UInt8)
  deriving DecidableEq, Repr

/-- **A value of a document.** The keys of a mapping are told apart by `Scalar.sameKey`. -/
inductive Value where
  /-- A value without parts. -/
  | scalar (scalar : Scalar)
  /-- A list. -/
  | list (items : List Value)
  /-- A pair. -/
  | pair (first second : Value)
  /-- A set, as its members in order. -/
  | set (members : List Scalar)
  /-- A mapping, as its entries in order. -/
  | mapping (entries : List (Scalar × Value))
  /-- A part of a value that holds itself. Only the word for its kind is kept. -/
  | endless (kindName : String)

namespace Scalar

/-- The scalar that stands for all keys equal to a given one: a truth value is the integer one or
zero, a whole number is its `Binary64.integer?`, and a moment is told in universal time. -/
def keyForm : Scalar → Scalar
  | .bool value => .int value.toInt
  | .float value =>
    match value.integer? with
    | some n => .int n
    | none => .float value
  | .timestamp value => .timestamp value.inUniversalTime
  | scalar => scalar

/-- Whether two scalars are the same key: they have one `keyForm`. -/
def sameKey (a b : Scalar) : Bool :=
  a.keyForm == b.keyForm

/-- The word for the kind of a scalar, as messages such as `WriteFault.message` use it. -/
def kindName : Scalar → String
  | .null => "NoneType"
  | .bool _ => "bool"
  | .int _ => "int"
  | .float _ => "float"
  | .text _ => "str"
  | .timestamp value => "datetime." ++ value.className
  | .bytes _ => "bytes"

/-- A scalar as a message shows it: texts and bytes are quoted by `Text.quoted` and
`Text.quotedBytes`. -/
def shown : Scalar → String
  | .null => "None"
  | .bool true => "True"
  | .bool false => "False"
  | .int value => toString value
  | .float value => value.text
  | .text value => Text.quoted value
  | .timestamp value => value.shown
  | .bytes value => Text.quotedBytes value

/-- Whether a scalar counts as true, for `Value.truth`. -/
def truth : Scalar → Bool
  | .null => false
  | .bool value => value
  | .int value => value != 0
  | .float value => !value.isZero
  | .text value => !value.isEmpty
  | .timestamp _ => true
  | .bytes value => !value.isEmpty

/-- Every key is the same as itself, since `sameKey` compares forms. -/
@[simp] theorem sameKey_refl (a : Scalar) : a.sameKey a = true := by
  simp [sameKey]

end Scalar

/-- The entries of a `Value.mapping`. -/
abbrev Entries := List (Scalar × Value)

variable {α : Type}

/-- **Puts an entry into a mapping.** A key that is there by `sameKey` keeps its place and gets the
value. -/
def insertEntry (key : Scalar) (value : α) : List (Scalar × α) → List (Scalar × α)
  | [] => [(key, value)]
  | (k, v) :: entries =>
    if k.sameKey key then (k, value) :: entries else (k, v) :: insertEntry key value entries

/-- The mapping that entries make, one put in after the other by `insertEntry`. -/
def collectEntries (entries : List (Scalar × α)) : List (Scalar × α) :=
  entries.foldl (fun mapping entry => insertEntry entry.1 entry.2 mapping) []

/-- The value of a key in a mapping, found by `sameKey`. -/
def lookupEntry (key : Scalar) : List (Scalar × α) → Option α
  | [] => none
  | (k, v) :: entries => if k.sameKey key then some v else lookupEntry key entries

/-- An entry whose key is new comes last, so that `insertEntry` appends it. -/
theorem insertEntry_of_forall_ne {key : Scalar} {value : α} {entries : List (Scalar × α)}
    (h : ∀ entry ∈ entries, entry.1.sameKey key = false) :
    insertEntry key value entries = entries ++ [(key, value)] := by
  induction entries with
  | nil => rfl
  | cons entry entries ih =>
    have hentry := h entry List.mem_cons_self
    simp [insertEntry, hentry, ih fun other hother => h other (List.mem_cons_of_mem entry hother)]

/-- Entries with different keys make the mapping that they are: `collectEntries` changes nothing. -/
theorem collectEntries_of_pairwise {entries : List (Scalar × α)}
    (h : entries.Pairwise fun a b => a.1.sameKey b.1 = false) : collectEntries entries = entries := by
  suffices hfold : ∀ front : List (Scalar × α), (front ++ entries).Pairwise
      (fun a b => a.1.sameKey b.1 = false) →
      entries.foldl (fun mapping entry => insertEntry entry.1 entry.2 mapping) front =
        front ++ entries from hfold [] (by simpa using h)
  clear h
  induction entries with
  | nil => simp
  | cons entry entries ih =>
    intro front hfront
    have hnew : ∀ other ∈ front, other.1.sameKey entry.1 = false := fun other hother =>
      (List.pairwise_append.1 hfront).2.2 other hother entry List.mem_cons_self
    rw [List.foldl_cons, insertEntry_of_forall_ne hnew, ih (front ++ [entry]) (by simpa using hfront)]
    simp

namespace Value

/-- A text value, `Scalar.text`. -/
def ofText (text : String) : Value := .scalar (.text text)

/-- A truth value, `Scalar.bool`. -/
def ofBool (b : Bool) : Value := .scalar (.bool b)

/-- Nothing, `Scalar.null`. -/
def null : Value := .scalar .null

/-- A list of texts, each by `ofText`. -/
def ofTexts (texts : List String) : Value := .list (texts.map ofText)

/-- Whether a value counts as true, by `Scalar.truth` if it has no parts. Collections do unless they
are empty. -/
def truth : Value → Bool
  | .scalar s => s.truth
  | .list items => !items.isEmpty
  | .set members => !members.isEmpty
  | .mapping entries => !entries.isEmpty
  | .pair _ _ | .endless _ => true

/-- The word for the kind of a value, as `ConfigError.message` and `Breakdown.message` use it. -/
def kindName : Value → String
  | .scalar s => s.kindName
  | .list _ => "list"
  | .pair _ _ => "tuple"
  | .set _ => "set"
  | .mapping _ => "dict"
  | .endless kindName => kindName

mutual

/-- **Whether a value is nested deeper than a number of levels.** One that holds itself, as
`endless` says, is nested deeper than any number. -/
def nestsBeyond (levels : Nat) : Value → Bool
  | .scalar _ | .set _ => false
  | .endless _ => true
  | .list items =>
    match levels with
    | 0 => true
    | levels + 1 => anyNestsBeyond levels items
  | .pair first second =>
    match levels with
    | 0 => true
    | levels + 1 => nestsBeyond levels first || nestsBeyond levels second
  | .mapping entries =>
    match levels with
    | 0 => true
    | levels + 1 => anyEntryNestsBeyond levels entries

/-- `nestsBeyond` on some of several values. -/
def anyNestsBeyond (levels : Nat) : List Value → Bool
  | [] => false
  | value :: values => nestsBeyond levels value || anyNestsBeyond levels values

/-- `nestsBeyond` on some of the values of entries. -/
def anyEntryNestsBeyond (levels : Nat) : List (Scalar × Value) → Bool
  | [] => false
  | (_, value) :: entries => nestsBeyond levels value || anyEntryNestsBeyond levels entries

end

/-- The items of a list go down one level less: `levels` is a successor. -/
theorem exists_levels_of_list {levels : Nat} {items : List Value}
    (h : (list items).nestsBeyond levels = false) :
    ∃ below, levels = below + 1 ∧ anyNestsBeyond below items = false := by
  cases levels with
  | zero => cases h
  | succ below => exact ⟨below, rfl, h⟩

/-- So do the values of a `mapping`. -/
theorem exists_levels_of_mapping {levels : Nat} {entries : List (Scalar × Value)}
    (h : (mapping entries).nestsBeyond levels = false) :
    ∃ below, levels = below + 1 ∧ anyEntryNestsBeyond below entries = false := by
  cases levels with
  | zero => cases h
  | succ below => exact ⟨below, rfl, h⟩

end Value

end TreeSift.Document
