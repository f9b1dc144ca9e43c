import TreeSift.Document.Value
import TreeSift.Json.Fault
import TreeSift.Text.Integer

/-! # Reading JSON

`read` reads the value that a JSON text writes, or says why it is refused. Beside the standard's
values it accepts `NaN`, `Infinity` and `-Infinity`; of members with the same name the last one
counts.

Each function takes the text that is left, and gives back what it has read together with the text
that is left then. -/

namespace TreeSift.Json

open TreeSift.Document
open TreeSift.Text (isHexDigit digitsValue)

/-- Why `read` refuses a JSON text. -/
inductive Refusal where
  /-- The text is malformed. -/
  | malformed (fault : Fault)
  /-- An integer has too many digits. -/
  | integerTooLong (digits : Nat)
  /-- A list is nested too deeply. -/
  | listTooDeep
  /-- An object is nested too deeply. -/
  | objectTooDeep
  deriving DecidableEq, Repr

/-- How many levels of lists and objects a text may have for `read`. -/
def readableLevels : Nat := 990

/-- What has been read, and the text that is left, or a `Refusal`. -/
abbrev Reading (α : Type) := Except Refusal (α × List Char)

/-- Refuses a text because of a problem where `rest` is left. -/
def refuse {α : Type} (problem : Problem) (rest : List Char) : Except Refusal α :=
  .error (.malformed ⟨problem, rest.length⟩)

/-- Whether a character may stand between tokens. -/
def isSpace (c : Char) : Bool :=
  c == ' ' || c == '\t' || c == '\n' || c == '\r'

/-- The text without the spaces at its start, as `isSpace` tells them. -/
def skipSpace (text : List Char) : List Char :=
  text.dropWhile isSpace

/-- The character that a letter stands for after a backslash. -/
def letterEscape? : Char → Option Char
  | '"' => some '"'
  | '\\' => some '\\'
  | '/' => some '/'
  | 'b' => some '\x08'
  | 'f' => some '\x0c'
  | 'n' => some '\n'
  | 'r' => some '\r'
  | 't' => some '\t'
  | _ => none

/-- The number that four hexadecimal digits write, by `digitsValue`. -/
def hexUnit? : List Char → Option (Nat × List Char)
  | a :: b :: c :: d :: rest =>
    if [a, b, c, d].all isHexDigit then some (digitsValue 16 [a, b, c, d], rest) else none
  | _ => none

/-- Whether a number is the first half of a surrogate pair. -/
def isHighSurrogate (code : Nat) : Bool :=
  0xd800 ≤ code && code ≤ 0xdbff

/-- Whether a number is the second half of a surrogate pair. -/
def isLowSurrogate (code : Nat) : Bool :=
  0xdc00 ≤ code && code ≤ 0xdfff

/-- The character of a surrogate pair. -/
def joinSurrogates (high low : Nat) : Char :=
  Char.ofNat (0x10000 + (high - 0xd800) * 0x400 + (low - 0xdc00))

/-- The character of a single number. A `String` holds whole characters alone, so half a surrogate pair
that has lost its other half is not kept as it is: `U+FFFD` stands for it. -/
def unitChar (code : Nat) : Char :=
  if isHighSurrogate code || isLowSurrogate code then '\ufffd' else Char.ofNat code

/-- The character of the numeric escape whose digits come next. Something has to follow the digits,
and a first half of a surrogate pair is joined with an escape of a second half by `joinSurrogates`.
-/
def unicodeEscape (digits : List Char) : Reading Char :=
  if digits.length ≤ 4 then refuse .invalidUnicodeEscape ('u' :: digits)
  else
    match hexUnit? digits with
    | none => refuse .invalidUnicodeEscape ('u' :: digits)
    | some (code, rest) =>
      match rest with
      | '\\' :: 'u' :: digits' =>
        -- a second half is looked for only if something follows its digits, too
        if isHighSurrogate code && 4 < digits'.length then
          match hexUnit? digits' with
          | none => refuse .invalidUnicodeEscape ('u' :: digits')
          | some (low, rest') =>
            if isLowSurrogate low then .ok (joinSurrogates code low, rest')
            else .ok (unitChar code, rest)
        else .ok (unitChar code, rest)
      | _ => .ok (unitChar code, rest)

/-- The character of the escape whose backslash has been read: that of `letterEscape?` or of
`unicodeEscape`. -/
def escape (opening : Nat) : List Char → Reading Char
  | [] => .error (.malformed ⟨.unterminatedString, opening⟩)
  | 'u' :: digits => unicodeEscape digits
  | c :: rest =>
    match letterEscape? c with
    | some d => .ok (d, rest)
    | none => refuse .invalidEscape ('\\' :: c :: rest)

/-- Four hexadecimal digits that `hexUnit?` reads are taken off the text. -/
theorem length_of_hexUnit? {text rest : List Char} {code : Nat}
    (h : hexUnit? text = some (code, rest)) : rest.length + 4 = text.length := by
  unfold hexUnit? at h
  split at h
  · split at h
    · cases h
      simp
    · cases h
  · cases h

/-- A numeric escape takes something off the text: `unicodeEscape` leaves less. -/
theorem length_lt_of_unicodeEscape {digits rest : List Char} {c : Char}
    (h : unicodeEscape digits = .ok (c, rest)) : rest.length < digits.length := by
  unfold unicodeEscape at h
  split at h
  · cases h
  · split at h
    · cases h
    · next heq =>
      have hlen := length_of_hexUnit? heq
      split at h
      · split at h
        · split at h
          · cases h
          · next heq' =>
            have hlen' := length_of_hexUnit? heq'
            simp only [List.length_cons] at hlen
            split at h <;> simp only [Except.ok.injEq, Prod.mk.injEq] at h <;>
              obtain ⟨-, rfl⟩ := h
            · omega
            · simp only [List.length_cons]
              omega
        · cases h
          simp only [List.length_cons] at hlen ⊢
          omega
      · cases h
        omega

/-- An escape takes something off the text, which is why `stringBody` ends. -/
theorem length_lt_of_escape {opening : Nat} {text rest : List Char} {c : Char}
    (h : escape opening text = .ok (c, rest)) : rest.length < text.length := by
  unfold escape at h
  split at h
  · cases h
  · have := length_lt_of_unicodeEscape h
    simp only [List.length_cons]
    omega
  · split at h
    · cases h
      simp
    · cases h

/-- The characters of a string up to its closing quote. The number of characters that were left at
its opening quote says where a string that does not end has started. -/
def stringBody (opening : Nat) (text : List Char) : Reading (List Char) :=
  match text with
  | [] => .error (.malformed ⟨.unterminatedString, opening⟩)
  | '"' :: rest => .ok ([], rest)
  | '\\' :: rest =>
    match _ : escape opening rest with
    | .error refusal => .error refusal
    | .ok (c, rest') => (stringBody opening rest').map fun (cs, left) => (c :: cs, left)
  | c :: rest =>
    if c < ' ' then refuse .controlCharacter (c :: rest)
    else (stringBody opening rest).map fun (cs, left) => (c :: cs, left)
  termination_by text.length
  decreasing_by
    · have := length_lt_of_escape (by assumption)
      simp only [List.length_cons]
      omega
    · simp

/-- The digits of the whole part of a number: a zero alone, or digits that do not start with
one. -/
def wholeDigits? : List Char → Option (List Char × List Char)
  | '0' :: rest => some (['0'], rest)
  | text =>
    match text.span Char.isDigit with
    | ([], _) => none
    | digits => some digits

/-- The digits after the point, if a point and a digit come next. -/
def fractionDigits : List Char → List Char × List Char
  | '.' :: rest =>
    match rest.span Char.isDigit with
    | ([], _) => ([], '.' :: rest)
    | digits => digits
  | text => ([], text)

/-- The digits of an exponent after its sign, as the exponent that `ofDecimal` takes. -/
def exponentDigits? (negative : Bool) (text : List Char) : Option (Int × List Char) :=
  match text.span Char.isDigit with
  | ([], _) => none
  | (digits, rest) =>
    let power := Int.ofNat (digitsValue 10 digits)
    some (if negative then -power else power, rest)

/-- The exponent of a number, if a mark, an optional sign and a digit come next. -/
def exponentPart? : List Char → Option (Int × List Char)
  | c :: rest =>
    if c = 'e' ∨ c = 'E' then
      match rest with
      | '-' :: rest => exponentDigits? true rest
      | '+' :: rest => exponentDigits? false rest
      | rest => exponentDigits? false rest
    else none
  | [] => none

/-- The number after an optional minus sign: an integer, unless `fractionDigits` or `exponentPart?`
finds more. -/
def unsignedNumber (negative : Bool) (start text : List Char) : Reading Scalar :=
  match wholeDigits? text with
  | none => refuse .expectingValue start
  | some (whole, rest) =>
    let (fraction, rest) := fractionDigits rest
    let exponent? := exponentPart? rest
    match fraction, exponent? with
    | [], none =>
      -- without a fraction and an exponent the number is an integer
      if Text.digitLimit < whole.length then .error (.integerTooLong whole.length)
      else
        let value := Int.ofNat (digitsValue 10 whole)
        .ok (.int (if negative then -value else value), rest)
    | _, _ =>
      let (power, rest) := exponent?.getD (0, rest)
      let value := Binary64.ofDecimal negative (digitsValue 10 (whole ++ fraction))
        (power - Int.ofNat fraction.length)
      .ok (.float value, rest)

/-- The scalar that starts here and is no string: a word, or a number by `unsignedNumber`. -/
def bareScalar (text : List Char) : Reading Scalar :=
  match text with
  | 'n' :: 'u' :: 'l' :: 'l' :: rest => .ok (.null, rest)
  | 't' :: 'r' :: 'u' :: 'e' :: rest => .ok (.bool true, rest)
  | 'f' :: 'a' :: 'l' :: 's' :: 'e' :: rest => .ok (.bool false, rest)
  | 'N' :: 'a' :: 'N' :: rest => .ok (.float .nan, rest)
  | 'I' :: 'n' :: 'f' :: 'i' :: 'n' :: 'i' :: 't' :: 'y' :: rest =>
    .ok (.float (.infinite false), rest)
  | '-' :: 'I' :: 'n' :: 'f' :: 'i' :: 'n' :: 'i' :: 't' :: 'y' :: rest =>
    .ok (.float (.infinite true), rest)
  | '-' :: rest => unsignedNumber true text rest
  | _ => unsignedNumber false text text

mutual

/-- The value that starts here, which may have a number of levels. The first argument bounds the
calls; each character of the text needs two at most. -/
def readValue : Nat → Nat → List Char → Reading Value
  | 0, _, text => refuse .expectingValue text
  | fuel + 1, levels, text =>
    match text with
    | '"' :: rest => (stringBody text.length rest).map fun (cs, left) =>
        (.ofText (String.ofList cs), left)
    | '{' :: rest =>
      match levels, skipSpace rest with
      | 0, _ => .error .objectTooDeep
      | _, '}' :: rest => .ok (.mapping [], rest)
      | levels + 1, rest => (readMembers fuel levels rest).map fun (entries, left) =>
          (.mapping (collectEntries entries), left)
    | '[' :: rest =>
      match levels, skipSpace rest with
      | 0, _ => .error .listTooDeep
      | _, ']' :: rest => .ok (.list [], rest)
      | levels + 1, rest => (readItems fuel levels rest).map fun (items, left) =>
          (.list items, left)
    | _ => (bareScalar text).map fun (scalar, left) => (.scalar scalar, left)

/-- The members of an object up to its end; there is at least one. Of equal names the last value
counts, once `readValue` has collected them. -/
def readMembers : Nat → Nat → List Char → Except Refusal (Entries × List Char)
  | 0, _, text => refuse .expectingName text
  | fuel + 1, levels, text =>
    match text with
    | '"' :: rest => do
      let (name, rest) ← stringBody text.length rest
      match skipSpace rest with
      | ':' :: rest =>
        let (value, rest) ← readValue fuel levels (skipSpace rest)
        let entry := (Scalar.text (String.ofList name), value)
        match skipSpace rest with
        | '}' :: rest => return ([entry], rest)
        | ',' :: rest =>
          let (entries, rest) ← readMembers fuel levels (skipSpace rest)
          return (entry :: entries, rest)
        | rest => refuse .expectingComma rest
      | rest => refuse .expectingColon rest
    | _ => refuse .expectingName text

/-- The items of a list up to its end, each by `readValue`; there is at least one. -/
def readItems : Nat → Nat → List Char → Except Refusal (List Value × List Char)
  | 0, _, text => refuse .expectingValue text
  | fuel + 1, levels, text => do
    let (value, rest) ← readValue fuel levels text
    match skipSpace rest with
    | ']' :: rest => return ([value], rest)
    | ',' :: rest =>
      let (values, rest) ← readItems fuel levels (skipSpace rest)
      return (value :: values, rest)
    | rest => refuse .expectingComma rest

end

/-- **The value that a JSON text writes**, with spaces around it and nothing else. -/
def read (text : String) : Except Refusal Value :=
  match text.toList with
  | '\ufeff' :: rest => refuse .byteOrderMark ('\ufeff' :: rest)
  | cs => do
    let (value, rest) ← readValue (2 * cs.length + 2) readableLevels (skipSpace cs)
    match skipSpace rest with
    | [] => return value
    | rest => refuse .extraData rest

end TreeSift.Json
