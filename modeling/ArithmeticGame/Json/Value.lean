import ArithmeticGame.Json.Word
/-!
# JSON values

Values are read word by word with the containers that are still open on a stack. What a number or a
string denotes is asked for afterwards.
-/
namespace ArithmeticGame.Json

inductive Value where
  | bare (raw : List UInt8)
  | string (raw : List UInt8)
  | array (items : List Value)
  | object (members : List (List UInt8 × Value))

/-- A container that is still open, with what it holds so far, latest first. -/
inductive Frame where
  | array (items : List Value)
  | object (members : List (List UInt8 × Value))
  /-- An object whose last key has no value yet. -/
  | keyed (members : List (List UInt8 × Value)) (key : List UInt8)

/-- What has to follow, the innermost open container being the first. -/
inductive Reading where
  | value (stack : List Frame)
  /-- A value, or the end of the array that was just opened. -/
  | item (stack : List Frame)
  /-- A key, or if `mayEnd` the end of the object. -/
  | key (stack : List Frame) (mayEnd : Bool)
  | colon (stack : List Frame)
  /-- A comma, or the end of the innermost container. -/
  | next (stack : List Frame)
  | finished (value : Value)

namespace Reading

def supply (value : Value) : List Frame → Reading
  | [] => finished value
  | .array items :: stack => next (.array (value :: items) :: stack)
  | .keyed members raw :: stack => next (.object ((raw, value) :: members) :: stack)
  | .object members :: stack => next (.object members :: stack)

def start (stack : List Frame) : Word → Option Reading
  | .bare raw => some (supply (.bare raw) stack)
  | .string raw => some (supply (.string raw) stack)
  | .openBracket => some (item (.array [] :: stack))
  | .openBrace => some (key (.object [] :: stack) true)
  | _ => none

def step : Reading → Word → Option Reading
  | value stack, word => start stack word
  | item (.array items :: stack), .closeBracket => some (supply (.array items.reverse) stack)
  | item stack, word => start stack word
  | key (.object members :: stack) _, .string raw => some (colon (.keyed members raw :: stack))
  | key (.object members :: stack) true, .closeBrace =>
    some (supply (.object members.reverse) stack)
  | colon stack, .colon => some (value stack)
  | next (.array items :: stack), .comma => some (value (.array items :: stack))
  | next (.array items :: stack), .closeBracket => some (supply (.array items.reverse) stack)
  | next (.object members :: stack), .comma => some (key (.object members :: stack) false)
  | next (.object members :: stack), .closeBrace =>
    some (supply (.object members.reverse) stack)
  | _, _ => none

end Reading

namespace Value

def ofWords (words : List Word) : Option Value := do
  match ← words.foldlM Reading.step (.value []) with
  | .finished value => some value
  | _ => none

/-- The value that a text holds, if it holds one and nothing else. -/
def ofBytes (text : List UInt8) : Option Value := do ofWords (← words text)

/-- The number that some digits denote. -/
def natural (ds : List UInt8) : Nat := Nat.ofDigitChars 10 (ds.map Char.ofUInt8) 0

/-- The integer that a value denotes, if it is one written without point and exponent. There is no
negative zero. -/
def integer? : Value → Option Int
  | .bare (0x2D :: ds) => if isWhole ds && ds != [0x30] then some (-(natural ds : Int)) else none
  | .bare ds => if isWhole ds then some (natural ds) else none
  | _ => none

end Value
end ArithmeticGame.Json
