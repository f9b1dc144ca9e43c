import TreeSift.Regex.Lead
import TreeSift.Regex.Trail

/-! # Matching regular expressions

A `Matcher` tries an expression at a place in a text and passes every way of covering it, in order
of preference, to a continuation; the first way that the continuation accepts is the result.
`Matcher.ofNode` is the matcher of an expression. All ways share one trail, which keeps the place
that the last attempt got to: a possessive repetition whose last iteration fails goes on from there.

A repetition stops once an iteration beyond the least number covers nothing, so there are no more
iterations than its budget says. -/

namespace TreeSift.Regex

/-- What an expression is tried on: a text, and the widths of the groups that `Node.width` asks for.
-/
structure Subject where
  /-- The text. -/
  text : Array Char
  /-- The widths of the groups, the whole expression being group zero. -/
  widths : List Width

namespace Subject

/-- The widths of the groups. -/
def width (subject : Subject) (group : Nat) : Width :=
  (subject.widths[group]?).getD ⟨0, 0⟩

end Subject

/-- Where an expression stands in a larger one, as `Matcher.ofNode` goes down. -/
structure Site where
  /-- The flags in force. -/
  flags : Flags
  /-- Whether it is part of a repeated expression that can be tried with fewer or more
  iterations. -/
  looped : Bool := false
  /-- What is known about what stands behind it. -/
  follow : Lead := .unknown

namespace Site

/-- The same place, with nothing known about what stands behind the expression. -/
def closed (site : Site) : Site :=
  { site with follow := .unknown }

end Site

/-- What is done at a place that has been reached, from a `Trail` to an `Attempt`. -/
abbrev Next := Nat → Trail → Attempt

/-- Accepts whatever comes after a place, the last `Next` of all. -/
def settle : Next := fun position trail =>
  .matched (trail.moveTo position)

/-- Whether another iteration is allowed. -/
def belowMax (max : Option Nat) (count : Nat) : Bool :=
  match max with
  | none => true
  | some max => count < max

/-- How often a loop can be run: the greatest number of iterations and one more. Without one, every
iteration beyond the least number leads somewhere else. -/
def loopBudget (subject : Subject) (min : Nat) (max : Option Nat) : Nat :=
  match max with
  | some max => max + 1
  | none => min + (subject.text.size + 2) * (2 * subject.widths.length + 1)

/-- Iterations as many as possible. `last?` is where the last optional one began. -/
def runGreedy (body : Next → Next) (min : Nat) (max : Option Nat) (next : Next) :
    Nat → Nat → Option Nat → Next
  | 0, _, _, _, trail => .failed trail
  | budget + 1, count, last?, position, trail =>
    let trail := trail.moveTo position
    if count < min then
      (body (runGreedy body min max next budget (count + 1) last?) position trail).returningTo
        position
    else
      -- an optional iteration that has moved nowhere is the last one
      let further :=
        if belowMax max count && last? != some position then
          body (runGreedy body min max next budget (count + 1) (some position)) position trail
        else .failed trail
      further.orElse fun _ => (next position trail).returningTo position

/-- Iterations as few as possible; `looped` says whether the loop stands in another one. -/
def runReluctant (body : Next → Next) (looped : Bool) (min : Nat) (max : Option Nat)
    (next : Next) : Nat → Nat → Option Nat → Next
  | 0, _, _, _, trail => .failed trail
  | budget + 1, count, last?, position, trail =>
    let start := trail.moveTo position
    if count < min then
      (body (runReluctant body looped min max next budget (count + 1) last?) position
        start).returningTo position
    else
      (next position start).orElse fun trail =>
        let trail := (trail.giveBack start looped).moveTo position
        if belowMax max count && last? != some position then
          (body (runReluctant body looped min max next budget (count + 1) (some position))
            position trail).returningTo position
        else .failed trail

/-- Iterations as many as possible, of each of which only the first way counts. An optional one is
tried unless the end of the text has been reached; if it fails, it gives back what it has written,
but not the way it has gone. -/
def runPossessive (body : Next → Next) (start finish : Nat) (min : Nat) (max : Option Nat) :
    Nat → Nat → Trail → Attempt
  | 0, _, trail => .matched trail
  | budget + 1, count, trail =>
    if count < min || belowMax max count && trail.reached != finish then
      match body settle trail.reached trail with
      | .matched after =>
        -- an iteration that has changed nothing would go on doing so
        if after = trail then .matched trail
        else runPossessive body start finish min max budget (count + 1) after
      | .failed after =>
        if count < min then .failed (after.moveTo start)
        else .matched { after with bounds := trail.bounds }
    else .matched trail

/-- The place behind the characters of a set that stand from a position on, of which no more than a
number are looked at. -/
def endCovered (text : Array Char) (set : CharSet) : Nat → Nat → Nat
  | 0, position => position
  | limit + 1, position =>
    if h : position < text.size then
      if set.holds text[position] then endCovered text set limit (position + 1) else position
    else position

/-- Characters that are repeated. -/
structure CharRun where
  /-- Which characters these are. -/
  set : CharSet
  /-- Whether they are tried one by one. -/
  isStepwise : Bool

namespace CharRun

/-- The characters that a test covers. -/
def ofTest (flags : Flags) (test : CharTest) : CharRun :=
  ⟨test.covered flags, test.isStepwise flags⟩

/-- The trail after the characters between two places have been counted: only where they are tried
one by one the last place has been reached. -/
def afterCount (run : CharRun) (first last : Nat) (trail : Trail) : Trail :=
  trail.moveTo (if run.isStepwise then last else first)

end CharRun

/-- Goes on a number of characters behind a place, then one character before, and so on down to the
place. Where the next character rules out what follows, a place is passed over. -/
def descend (subject : Subject) (site : Site) (least : Nat) (next : Next) (saved : Trail) :
    Nat → Trail → Attempt
  | extra, trail =>
    let place := least + extra
    let here :=
      if site.follow.admitsCode subject.text[place]? then
        (next place (trail.moveTo place)).orElse fun trail =>
          .failed (trail.giveBack saved site.looped)
      else .failed trail
    here.orElse fun trail =>
      match extra with
      | 0 => .failed trail
      | extra + 1 => descend subject site least next saved extra trail

/-- Goes on behind the least number of characters, then behind one more, and so on. -/
def ascend (subject : Subject) (site : Site) (run : CharRun) (next : Next) (saved : Trail) :
    Nat → Nat → Trail → Attempt
  | 0, _, trail => .failed trail
  | budget + 1, place, trail =>
    (next place (trail.moveTo place)).orElse fun trail =>
      let trail := trail.giveBack saved site.looped
      if endCovered subject.text run.set 1 place = place then .failed (trail.moveTo place)
      else
        ascend subject site run next saved budget (place + 1)
          (run.afterCount place (place + 1) trail)

/-- A repetition of an expression that covers one character, by `descend` from the most characters
or by `ascend` from the least, as its `Greed` says. -/
def runUnits (subject : Subject) (site : Site) (run : CharRun) (greed : Greed) (min : Nat)
    (max : Option Nat) (next : Next) : Next := fun position trail =>
  let left := subject.text.size - position
  if left < min then .failed trail
  else
    match greed with
    | .reluctant =>
      -- as few characters as possible first, then one more each time
      let last := endCovered subject.text run.set min position
      let trail := run.afterCount position last trail
      if last < position + min then .failed trail
      else
        let budget := (max.map (· + 1 - min)).getD (left + 1)
        ascend subject site run next trail budget last trail
    | greed =>
      -- as many characters as possible first; a possessive repetition gives none of them back
      let last := endCovered subject.text run.set (Nat.min left (max.getD left)) position
      let trail := run.afterCount position last trail
      if last < position + min then .failed trail
      else if greed = .possessive then next last trail
      else descend subject site (position + min) next trail (last - (position + min)) trail

/-- Whether the character at an index is a word character. -/
def wordAt (text : Array Char) (flags : Flags) (index : Nat) : Bool :=
  (text[index]?.map (isWord flags)).getD false

/-- Whether a word character stands on exactly one side of a position. -/
def atWordBoundary (text : Array Char) (flags : Flags) (position : Nat) : Bool :=
  (position != 0 && wordAt text flags (position - 1)) != wordAt text flags position

/-- Whether an anchor holds at a position. -/
def Anchor.holds (text : Array Char) (flags : Flags) (position : Nat) : Anchor → Bool
  | .lineStart =>
    position == 0 || flags.multiline && text[position - 1]? == some '\n'
  | .lineEnd =>
    position == text.size ||
      text[position]? == some '\n' && (flags.multiline || position + 1 == text.size)
  | .textStart => position == 0
  | .textEnd => position == text.size
  | .wordBoundary => text.size != 0 && atWordBoundary text flags position
  | .notWordBoundary => text.size != 0 && !atWordBoundary text flags position

/-- Whether two characters are the same to a reference. -/
def sameToReference (flags : Flags) (a b : Char) : Bool :=
  if flags.ignoreCase then foldCase flags a == foldCase flags b else a == b

/-- Whether the text between two indices stands again at a position. -/
def repeatsAt (text : Array Char) (flags : Flags) (first last position : Nat) : Bool :=
  position + (last - first) ≤ text.size &&
    (List.range (last - first)).all fun i =>
      match text[first + i]?, text[position + i]? with
      | some a, some b => sameToReference flags a b
      | _, _ => false

/-- One alternative of a choice: it is not tried if the next character rules it out, and gives back
what it has written if it fails. -/
def alternative (subject : Subject) (site : Site) (lead : Lead) (body : Next) : Next :=
  fun position trail =>
    let attempt :=
      if lead.admits subject.text[position]? then body position (trail.moveTo position)
      else .failed trail
    attempt.orElse fun after => .failed (after.giveBack trail site.looped)

/-- A condition on what stands around a place, tried from `start` on. -/
def condition (site : Site) (negated : Bool) (body : Next → Next) (next : Next) (start : Nat) :
    Next := fun position trail =>
  match body settle start (trail.moveTo start), negated with
  | .matched after, false => next position after
  | .matched after, true => .failed after
  | .failed after, false => .failed after
  | .failed after, true => next position (after.giveBack trail site.looped)

/-- **A way to try an expression** at a place, and to go on with the `Next` that is done behind it.
-/
structure Matcher where
  /-- Tries the expression. -/
  run : Next → Next

namespace Matcher

/-- **The matcher of an expression**, case by case of a `Node`. What depends on the expression alone
is found out only once. -/
def ofNode (subject : Subject) (site : Site) : Node → Matcher
  | .empty => ⟨fun next => next⟩
  | .fail => ⟨fun _ _ trail => .failed trail⟩
  | .one test =>
    let set := test.covered site.flags
    ⟨fun next position trail =>
      if h : position < subject.text.size then
        if set.holds subject.text[position] then next (position + 1) trail else .failed trail
      else .failed trail⟩
  | .anchor anchor => ⟨fun next position trail =>
    if anchor.holds subject.text site.flags position then next position trail else .failed trail⟩
  | .seq first rest =>
    let first :=
      ofNode subject { site with follow := (rest.lead site.flags).before site.follow } first
    let rest := ofNode subject site rest
    ⟨fun next => first.run fun position trail => rest.run next position trail⟩
  | .alt left right =>
    let leftLead := left.lead site.flags
    let left := ofNode subject site.closed left
    -- the alternatives after the left one form a choice themselves, or there is only one
    if right.isChoice then
      let right := ofNode subject site right
      ⟨fun next position trail =>
        (alternative subject site leftLead (left.run next) position trail).orElse fun trail =>
          right.run next position trail⟩
    else
      let rightLead := right.lead site.flags
      let right := ofNode subject site.closed right
      ⟨fun next position trail =>
        (alternative subject site leftLead (left.run next) position trail).orElse fun trail =>
          alternative subject site rightLead (right.run next) position trail⟩
  | .loop greed min max body =>
    match body.unit? site.flags with
    | some (test, flags) =>
      let run := CharRun.ofTest flags test
      ⟨runUnits subject site run greed min max⟩
    | none =>
      let budget := loopBudget subject min max
      match greed with
      | .greedy =>
        let body := ofNode subject { site.closed with looped := true } body
        ⟨fun next => runGreedy body.run min max next budget 0 none⟩
      | .reluctant =>
        let body := ofNode subject { site.closed with looped := true } body
        ⟨fun next => runReluctant body.run site.looped min max next budget 0 none⟩
      | .possessive =>
        let body := ofNode subject site.closed body
        ⟨fun next position trail =>
          let iterations :=
            runPossessive body.run position subject.text.size min max budget 0
              (trail.moveTo position)
          match iterations with
          | .matched after => next after.reached after
          | .failed after => .failed after⟩
  | .group index body =>
    let body := ofNode subject site.closed body
    ⟨fun next position trail =>
      let close : Next := fun position trail =>
        next position (trail.write (Trail.endEntry index) position)
      body.run close position (trail.write (Trail.startEntry index) position)⟩
  | .scope add drop body => ofNode subject { site with flags := site.flags.enter add drop } body
  | .lookAhead negated body =>
    let body := ofNode subject site.closed body
    ⟨fun next position trail => condition site negated body.run next position position trail⟩
  | .lookBehind negated body =>
    -- the width is fixed, so a match can start in one place only
    let width := (body.width subject.width).min
    let body := ofNode subject site.closed body
    ⟨fun next position trail =>
      if width ≤ position then condition site negated body.run next (position - width) position trail
      else if negated then next position trail
      else .failed trail⟩
  | .atomic body =>
    let body := ofNode subject site.closed body
    ⟨fun next position trail =>
      match body.run settle position (trail.moveTo position) with
      | .matched after => next after.reached after
      | .failed after => .failed (after.moveTo position)⟩
  | .backref index => ⟨fun next position trail =>
    match trail.span? index with
    | some (first, last) =>
      if repeatsAt subject.text site.flags first last position then
        next (position + (last - first)) trail
      else .failed trail
    | none => .failed trail⟩
  | .ifGroup index yes no =>
    -- without a second expression, what follows the first one follows the conditional
    let yes := ofNode subject (if no.isEmpty then site else site.closed) yes
    let no := ofNode subject site no
    ⟨fun next position trail =>
      if (trail.span? index).isSome then yes.run next position trail else no.run next position trail⟩

end Matcher

end TreeSift.Regex
