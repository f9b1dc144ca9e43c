/-! # Bytes in base 64

In base 64, four characters stand for three bytes. `encodeBase64` writes bytes so. `decodeBase64?`
reads them; characters outside of the alphabet are passed over, and the padding that completes a
group of four ends the text. -/

namespace TreeSift.Text

/-- The value of a character of the alphabet. -/
def base64Value? (c : Char) : Option Nat :=
  if c.isUpper then some (c.toNat - 'A'.toNat)
  else if c.isLower then some (c.toNat - 'a'.toNat + 26)
  else if c.isDigit then some (c.toNat - '0'.toNat + 52)
  else if c = '+' then some 62
  else if c = '/' then some 63
  else none

/-- The bytes of a group: eight bits each, what is left over is dropped. -/
def groupBytes : List Nat → List UInt8
  | a :: b :: rest =>
    UInt8.ofNat (a * 4 + b / 16) ::
      match rest with
      | [] => []
      | c :: rest =>
        UInt8.ofNat (b % 16 * 16 + c / 4) ::
          match rest with
          | [] => []
          | d :: _ => [UInt8.ofNat (c % 4 * 64 + d)]
  | _ => []

/-- The bytes of the text that is left, given the values of the group that is open and the number of
padding characters that came last. A group of two or three values has to be completed. -/
def decodeGroups (group : List Nat) (padding : Nat) : List Char → Option (List UInt8)
  | [] => if group.isEmpty then some [] else none
  | c :: rest =>
    if c = '=' then
      if group.length < 2 then decodeGroups group padding rest
      else if 4 ≤ group.length + padding + 1 then some (groupBytes group)
      else decodeGroups group (padding + 1) rest
    else
      match base64Value? c with
      | none => decodeGroups group padding rest
      | some value =>
        let group := group ++ [value]
        if group.length < 4 then decodeGroups group 0 rest
        else (decodeGroups [] 0 rest).map (groupBytes group ++ ·)

/-- **The bytes that a text writes in base 64.** -/
def decodeBase64? (text : List Char) : Option (List UInt8) :=
  decodeGroups [] 0 text

/-- The characters of the alphabet by their values. -/
def base64Alphabet : List Char :=
  "ABCDEFGHIJKLMNOPQRSTUVWXYZabcdefghijklmnopqrstuvwxyz0123456789+/".toList

/-- The character of the alphabet for a value. -/
def base64Char (value : Nat) : Char :=
  base64Alphabet.getD value '='

/-- **Bytes in base 64.** A last group of one or two bytes is padded. -/
def encodeBase64 : List UInt8 → List Char
  | a :: b :: c :: rest =>
    base64Char (a.toNat / 4) :: base64Char (a.toNat % 4 * 16 + b.toNat / 16) ::
      base64Char (b.toNat % 16 * 4 + c.toNat / 64) :: base64Char (c.toNat % 64) ::
      encodeBase64 rest
  | [a, b] =>
    [base64Char (a.toNat / 4), base64Char (a.toNat % 4 * 16 + b.toNat / 16),
      base64Char (b.toNat % 16 * 4), '=']
  | [a] => [base64Char (a.toNat / 4), base64Char (a.toNat % 4 * 16), '=', '=']
  | [] => []

end TreeSift.Text
