import TreeSift.Screen.EmojiTable
import TreeSift.Text.Blank
import TreeSift.Text.Case
import TreeSift.Text.Split

/-! # Emoji by name

`replaceEmoji` puts an emoji where its name stands between colons. The name may end with the word
for a presentation, and what is no name of an emoji is left alone. -/

namespace TreeSift.Screen

open TreeSift.Text (isBlank lower splitWhere)

/-- What stands behind a name in a row of words. -/
def lookupWord (name : List Char) : List (List Char) → Option (List Char)
  | key :: value :: rest => if key = name then some value else lookupWord name rest
  | _ => none

/-- What a name stands for in rows. -/
def lookupRows (rows : List String) (name : List Char) : Option (List Char) :=
  rows.findSome? fun row => lookupWord name (splitWhere (· == ' ') row.toList)

/-- The tones of skin, with the modifiers that stand for them in `withTone`. -/
def skinTones : List (List Char × Char) :=
  [("_dark_skin_tone", 0x1f3ff), ("_light_skin_tone", 0x1f3fb),
    ("_medium-dark_skin_tone", 0x1f3fe), ("_medium-light_skin_tone", 0x1f3fc),
    ("_medium_skin_tone", 0x1f3fd)].map fun tone => (tone.1.toList, Char.ofNat tone.2)

/-- An emoji with a tone of skin: the modifier takes the place of a selector behind the first
character. -/
def withTone (modifier : Char) : List Char → List Char
  | first :: second :: rest =>
    if second = Char.ofNat 0xfe0f then first :: modifier :: rest
    else first :: modifier :: second :: rest
  | [first] => [first, modifier]
  | [] => []

/-- The emoji with a name that ends with one of the `skinTones`. -/
def tonedEmoji? (name : List Char) : Option (List Char) :=
  skinTones.findSome? fun tone =>
    if tone.1.isSuffixOf name then
      (lookupRows tonedEmojiRows (name.take (name.length - tone.1.length))).map (withTone tone.2)
    else none

/-- **The emoji with a name**, in one form or in a tone of skin by `tonedEmoji?`. -/
def emojiNamed? (name : List Char) : Option (List Char) :=
  (lookupRows plainEmojiRows name).or <| (lookupRows tonedEmojiRows name).or (tonedEmoji? name)

/-- The words for presentations at the end of a name, with the selectors that stand for them. -/
def presentations : List (List Char × Char) :=
  [("-emoji".toList, Char.ofNat 0xfe0f), ("-text".toList, Char.ofNat 0xfe0e)]

/-- What stands for the text between two colons, if it names an emoji: that of `emojiNamed?`, with
the selector of its presentation. -/
def emojiBetween? (text : List Char) : Option (List Char) :=
  match presentations.find? fun p => p.1.isSuffixOf text with
  | some p =>
    (emojiNamed? ((text.take (text.length - p.1.length)).flatMap lower)).map (· ++ [p.2])
  | none => emojiNamed? (text.flatMap lower)

/-- The text up to the next colon, and what follows it, unless a blank comes first. -/
def upToColon? : List Char → Option (List Char × List Char)
  | [] => none
  | c :: cs =>
    if c = ':' then some ([], cs)
    else if isBlank c then none
    else (upToColon? cs).map fun parts => (c :: parts.1, parts.2)

/-- What follows the next colon is shorter than the text, so that `replaceEmoji` ends. -/
theorem upToColon?_length {cs between rest : List Char}
    (h : upToColon? cs = some (between, rest)) : rest.length < cs.length := by
  induction cs generalizing between with
  | nil => simp [upToColon?] at h
  | cons c cs ih =>
    unfold upToColon? at h
    split at h
    · simp only [Option.some.injEq, Prod.mk.injEq] at h
      simp [← h.2]
    · split at h
      · cases h
      · obtain ⟨parts, hparts, heq⟩ := Option.map_eq_some_iff.1 h
        simp only [Prod.mk.injEq] at heq
        have := ih (show upToColon? cs = some (parts.1, rest) by rw [hparts, ← heq.2])
        simp only [List.length_cons]
        omega

/-- **A text with emoji for their names between colons**, as `emojiBetween?` knows them. Any other
colon stays. -/
def replaceEmoji : List Char → List Char
  | [] => []
  | c :: cs =>
    if c = ':' then
      match _h : upToColon? cs with
      | some (between, rest) =>
        -- what is no name keeps its colons, and the closing one opens no other name
        ((emojiBetween? between).getD (':' :: between ++ [':'])) ++ replaceEmoji rest
      | none => ':' :: replaceEmoji cs
    else c :: replaceEmoji cs
termination_by cs => cs.length
decreasing_by
  · have := upToColon?_length _h
    simp only [List.length_cons]
    omega
  · simp
  · simp

end TreeSift.Screen
