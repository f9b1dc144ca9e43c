/-! # The trail of a match

While an expression is tried on a text, the places where groups begin and end are written into one
record, and so is the place that the last attempt got to. A `Trail` is that record. An attempt that
fails does not take back what it has written: each construct says how much of it is given up
(`Trail.giveBack`). -/

namespace TreeSift.Regex

/-- **What has been written down on the way**: where each group begins and ends, and the place that
has been reached. -/
structure Trail where
  /-- The number of characters before the place that was reached last. -/
  reached : Nat
  /-- Where the groups begin and end, two entries for each group, up to the last one written. -/
  bounds : Array (Option Nat) := #[]
  deriving DecidableEq, Repr

namespace Trail

/-- The trail with another place reached. -/
@[inline] def moveTo (trail : Trail) (position : Nat) : Trail :=
  { trail with reached := position }

/-- Writes down one entry; the entries before it that have not been written are blank. Entries are
numbered by `startEntry` and `endEntry`. -/
def write (trail : Trail) (entry position : Nat) : Trail :=
  let bounds := trail.bounds
  let missing := entry + 1 - bounds.size
  let bounds := if missing = 0 then bounds else bounds ++ Array.replicate missing none
  { trail with bounds := bounds.setIfInBounds entry (some position) }

/-- The entry of the beginning of a group. Groups count from one. -/
def startEntry (group : Nat) : Nat :=
  2 * (group - 1)

/-- The entry of the end of a group. -/
def endEntry (group : Nat) : Nat :=
  2 * (group - 1) + 1

/-- Gives back what was written after `saved`. In a loop (`looped`) all entries are as they were;
elsewhere only those that have been added are dropped, and older ones keep what was written. -/
def giveBack (trail saved : Trail) (looped : Bool) : Trail :=
  { trail with
    bounds :=
      if looped then saved.bounds
      else if trail.bounds.size ≤ saved.bounds.size then trail.bounds
      else trail.bounds.take saved.bounds.size }

/-- Where a group begins and ends, as it is written. -/
def bounds? (trail : Trail) (group : Nat) : Option (Nat × Nat) :=
  match trail.bounds[startEntry group]?, trail.bounds[endEntry group]? with
  | some (some first), some (some last) => some (first, last)
  | _, _ => none

/-- What a group covers: where it begins and ends by `bounds?`, if these are in order. -/
def span? (trail : Trail) (group : Nat) : Option (Nat × Nat) :=
  (trail.bounds? group).filter fun bounds => bounds.1 ≤ bounds.2

/-- Whether a group ends before it begins, which entries that were kept can lead to. -/
def isCrossed (trail : Trail) (group : Nat) : Bool :=
  ((trail.bounds? group).filter fun bounds => bounds.2 < bounds.1).isSome

end Trail

/-- **The outcome of an attempt**, with the `Trail` that it leaves. -/
inductive Attempt where
  /-- The rest of the text has been accepted. -/
  | matched (trail : Trail)
  /-- It has not. -/
  | failed (trail : Trail)
  deriving DecidableEq, Repr

namespace Attempt

/-- Goes on with the trail of an attempt that has failed. -/
@[inline] def orElse (attempt : Attempt) (otherwise : Trail → Attempt) : Attempt :=
  match attempt with
  | .matched trail => .matched trail
  | .failed trail => otherwise trail

/-- Goes back to a place if the attempt has failed. -/
@[inline] def returningTo (attempt : Attempt) (position : Nat) : Attempt :=
  attempt.orElse fun trail => .failed (trail.moveTo position)

end Attempt

end TreeSift.Regex
