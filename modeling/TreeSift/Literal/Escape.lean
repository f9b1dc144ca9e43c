import TreeSift.Literal.Fault
import TreeSift.Text.CharacterName
import TreeSift.Text.Digits

/-! # Escapes

A backslash and a letter stand for a character by its code point or its name. `textFault?` and
`bytesFault?` find the first escape that stands for none. Positions count what is left when
characters outside of ASCII are written by their code points. -/

namespace TreeSift.Literal

open TreeSift.Text (characterNamed? digitsValue hexDigits isHexDigit)

/-! ## Texts -/

/-- A text in which characters outside of ASCII are written by their code points, and a backslash
before one of them as well. -/
def spelledOut : List Char → List Char
  | [] => []
  | '\\' :: c :: cs =>
    if c.toNat < 0x80 then '\\' :: c :: spelledOut cs
    else "\\u005c\\U".toList ++ hexDigits 8 c.toNat ++ spelledOut cs
  | c :: cs =>
    if c.toNat < 0x80 then c :: spelledOut cs
    else "\\U".toList ++ hexDigits 8 c.toNat ++ spelledOut cs

/-- The greatest code point. -/
def codeLimit : Nat := 0x10ffff

/-- The number of characters of an escape behind its letter that takes hexadecimal digits, and what
is wrong with it. -/
def codeEscape (letter : Char) (count : Nat) (cs : List Char) : Nat × Option EscapeCause :=
  let digits := (cs.take count).takeWhile isHexDigit
  if digits.length < count then (digits.length, some (.truncated letter count))
  else if codeLimit < digitsValue 16 digits then (count, some .tooLarge)
  else (count, none)

/-- The number of characters of an escape behind its letter that takes a name, and what is wrong
with it. -/
def nameEscape : List Char → Nat × Option EscapeCause
  | '\x7b' :: cs =>
    let name := cs.takeWhile (· != '\x7d')
    if name.length = cs.length then (name.length + 1, some .noName)
    else if name.isEmpty then (1, some .noName)
    else
      (name.length + 2, if (characterNamed? name).isSome then none else some .unknownName)
  | _ => (0, some .noName)

/-- The number of characters of an escape behind its letter, and what is wrong with it. -/
def escapeOf (letter : Char) (cs : List Char) : Nat × Option EscapeCause :=
  match letter with
  | 'x' => codeEscape 'x' 2 cs
  | 'u' => codeEscape 'u' 4 cs
  | 'U' => codeEscape 'U' 8 cs
  | 'N' => nameEscape cs
  | _ => (0, none)

/-- The first fault in a text that is spelled out, from a position on. -/
def textFaultFrom? (position : Nat) : List Char → Option EscapeFault
  | [] => none
  | c :: cs =>
    if c = '\\' then
      match cs with
      | [] => none
      | letter :: rest =>
        let (count, cause?) := escapeOf letter rest
        match cause? with
        | some cause => some (.inText cause position (position + 1 + count))
        | none => textFaultFrom? (position + 2 + count) (rest.drop count)
    else textFaultFrom? (position + 1) cs
termination_by cs => cs.length

/-- **The first escape of a text that is at fault.** -/
def textFault? (body : List Char) : Option EscapeFault :=
  textFaultFrom? 0 (spelledOut body)

/-! ## Bytes -/

/-- **The first escape of bytes that is at fault**, from a position on: only the one with two
hexadecimal digits can be. -/
def bytesFaultFrom? (position : Nat) : List Char → Option EscapeFault
  | '\\' :: 'x' :: cs =>
    let digits := (cs.take 2).takeWhile isHexDigit
    if digits.length < 2 then some (.inBytes (position + digits.length))
    else bytesFaultFrom? (position + 4) (cs.drop 2)
  | '\\' :: _ :: cs => bytesFaultFrom? (position + 2) cs
  | _ :: cs => bytesFaultFrom? (position + 1) cs
  | [] => none
termination_by cs => cs.length

/-- The first escape of bytes that is at fault. -/
def bytesFault? (body : List Char) : Option EscapeFault :=
  bytesFaultFrom? 0 body

end TreeSift.Literal
