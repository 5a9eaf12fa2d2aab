import ArithmeticGame.Json.Word
/-!
# The text of a string

Escapes are resolved and the bytes read as UTF-8. Escapes of two surrogates stand for one character;
one surrogate alone is no text.
-/
namespace ArithmeticGame.Json

def hexValue (b : UInt8) : Nat :=
  if isDigit b then b.toNat - 0x30
  else if b < 0x61 then b.toNat - 0x41 + 10
  else b.toNat - 0x61 + 10

/-- The number that four hexadecimal digits denote. -/
def codeUnit (a b c d : UInt8) : Nat :=
  16 * (16 * (16 * hexValue a + hexValue b) + hexValue c) + hexValue d

def simpleEscape (b : UInt8) : UInt8 :=
  if b == 0x62 then 0x08
  else if b == 0x66 then 0x0C
  else if b == 0x6E then 0x0A
  else if b == 0x72 then 0x0D
  else if b == 0x74 then 0x09
  else b

def utf8 (code : Nat) : List UInt8 := (Char.ofNat code).toString.toUTF8.toList

/-- The bytes that a string stands for, its escapes resolved. -/
def unescape : List UInt8 → Option (List UInt8)
  | [] => some []
  | 0x5C :: 0x75 :: a :: b :: c :: d :: 0x5C :: 0x75 :: e :: f :: g :: h :: rest =>
    let first := codeUnit a b c d
    let second := codeUnit e f g h
    if 0xD800 ≤ first ∧ first ≤ 0xDBFF then
      if 0xDC00 ≤ second ∧ second ≤ 0xDFFF then do
        let rest ← unescape rest
        some (utf8 (0x10000 + (first - 0xD800) * 0x400 + (second - 0xDC00)) ++ rest)
      else none
    else if 0xDC00 ≤ first ∧ first ≤ 0xDFFF then none
    else do
      let rest ← unescape (0x5C :: 0x75 :: e :: f :: g :: h :: rest)
      some (utf8 first ++ rest)
  | 0x5C :: 0x75 :: a :: b :: c :: d :: rest =>
    let code := codeUnit a b c d
    if 0xD800 ≤ code ∧ code ≤ 0xDFFF then none
    else do
      let rest ← unescape rest
      some (utf8 code ++ rest)
  | 0x5C :: b :: rest => do
    let rest ← unescape rest
    some (simpleEscape b :: rest)
  | b :: rest => do
    let rest ← unescape rest
    some (b :: rest)

def text? (raw : List UInt8) : Option String := do
  String.fromUTF8? ⟨(← unescape raw).toArray⟩

end ArithmeticGame.Json
