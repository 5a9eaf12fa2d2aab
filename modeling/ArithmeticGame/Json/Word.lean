/-!
# The words of a JSON text

Bytes are cut into punctuation, strings, and runs of other characters, which have to be numbers or
one of the three names. Strings and numbers are kept as they are written.
-/
namespace ArithmeticGame.Json

inductive Word where
  | openBrace
  | closeBrace
  | openBracket
  | closeBracket
  | colon
  | comma
  /-- The bytes between two quotes, escapes included. -/
  | string (raw : List UInt8)
  /-- A number, `true`, `false` or `null`. -/
  | bare (raw : List UInt8)
deriving DecidableEq

/-- The bytes of a text of ASCII characters. -/
def bytes (text : List Char) : List UInt8 := text.map Char.toUInt8

def isSpace (b : UInt8) : Bool := b == 0x20 || b == 0x09 || b == 0x0A || b == 0x0D

def isDigit (b : UInt8) : Bool := 0x30 ≤ b && b ≤ 0x39

def isHexDigit (b : UInt8) : Bool :=
  isDigit b || (0x41 ≤ b && b ≤ 0x46) || (0x61 ≤ b && b ≤ 0x66)

/-- Letters, digits, signs and the point, which make up numbers and names. -/
def isBareByte (b : UInt8) : Bool :=
  isDigit b || (0x41 ≤ b && b ≤ 0x5A) || (0x61 ≤ b && b ≤ 0x7A) || b == 0x2B || b == 0x2D ||
    b == 0x2E

def isSimpleEscape (b : UInt8) : Bool := (bytes "\"\\/bfnrt".toList).contains b

/-- Digits without a superfluous zero in front. -/
def isWhole (ds : List UInt8) : Bool :=
  !ds.isEmpty && ds.all isDigit && (ds.length == 1 || ds.head? != some 0x30)

/-- Nothing, or a mark of an exponent with its digits. -/
def isExponent : List UInt8 → Bool
  | [] => true
  | mark :: rest =>
    let ds := match rest with
      | sign :: ds => if sign == 0x2B || sign == 0x2D then ds else rest
      | [] => []
    (mark == 0x45 || mark == 0x65) && !ds.isEmpty && ds.all isDigit

/-- Nothing or a point with digits, and then perhaps an exponent. -/
def isFraction : List UInt8 → Bool
  | 0x2E :: rest => !(rest.takeWhile isDigit).isEmpty && isExponent (rest.dropWhile isDigit)
  | rest => isExponent rest

def isNumber (raw : List UInt8) : Bool :=
  let body := match raw with
    | 0x2D :: rest => rest
    | _ => raw
  isWhole (body.takeWhile isDigit) && isFraction (body.dropWhile isDigit)

def bare? (raw : List UInt8) : Option Word :=
  if isNumber raw || ["true", "false", "null"].any fun name => raw == bytes name.toList then
    some (.bare raw)
  else none

/-- Where the scan stands, with the bytes of the word it is in, latest first. -/
inductive Scan where
  | between
  | bare (seen : List UInt8)
  | string (seen : List UInt8)
  | escape (seen : List UInt8)
  /-- In an escape that needs `left + 1` more hexadecimal digits. -/
  | hex (left : Nat) (seen : List UInt8)

/-- What a byte between words gives: a word of its own, or the start of one. -/
def begin? (b : UInt8) : Option (List Word × Scan) :=
  if isSpace b then some ([], .between)
  else if b == 0x7B then some ([.openBrace], .between)
  else if b == 0x7D then some ([.closeBrace], .between)
  else if b == 0x5B then some ([.openBracket], .between)
  else if b == 0x5D then some ([.closeBracket], .between)
  else if b == 0x3A then some ([.colon], .between)
  else if b == 0x2C then some ([.comma], .between)
  else if b == 0x22 then some ([], .string [])
  else if isBareByte b then some ([], .bare [b])
  else none

/-- The words of the bytes that follow a place in the scan. -/
def scan : Scan → List UInt8 → Option (List Word)
  | .between, [] => some []
  | .bare seen, [] => do
    let word ← bare? seen.reverse
    some [word]
  | _, [] => none
  | .between, b :: bs => do
    let (words, place) ← begin? b
    let rest ← scan place bs
    some (words ++ rest)
  | .bare seen, b :: bs =>
    if isBareByte b then scan (.bare (b :: seen)) bs
    else do
      let word ← bare? seen.reverse
      let (words, place) ← begin? b
      let rest ← scan place bs
      some (word :: words ++ rest)
  | .string seen, b :: bs =>
    if b == 0x22 then do
      let rest ← scan .between bs
      some (.string seen.reverse :: rest)
    else if b == 0x5C then scan (.escape (b :: seen)) bs
    else if b < 0x20 then none
    else scan (.string (b :: seen)) bs
  | .escape seen, b :: bs =>
    if b == 0x75 then scan (.hex 3 (b :: seen)) bs
    else if isSimpleEscape b then scan (.string (b :: seen)) bs
    else none
  | .hex left seen, b :: bs =>
    if isHexDigit b then
      match left with
      | 0 => scan (.string (b :: seen)) bs
      | left + 1 => scan (.hex left (b :: seen)) bs
    else none

def words (text : List UInt8) : Option (List Word) := scan .between text

end ArithmeticGame.Json
