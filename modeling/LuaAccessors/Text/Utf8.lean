import LuaAccessors.Text.Escaped

/-!
# UTF-8

Bytes are read as UTF-8 from left to right; the first place where no character can be read is an
error that names the bytes concerned and the reason.

- `readChar`: the character at the start of some bytes, or why there is none;
- `decodeUtf8`: all characters, or the first error;
- `DecodeError.message`: what is said of an error.
-/

namespace LuaAccessors

/-! ## §1 Errors -/

/-- Why no character can be read. -/
inductive DecodeReason where
  /-- The first byte starts no character. -/
  | invalidStart
  /-- A byte cannot follow those before it. -/
  | invalidContinuation
  /-- The text ends inside a character. -/
  | unexpectedEnd
  deriving Repr, DecidableEq

/-- A place where no character can be read. -/
structure DecodeError where
  /-- The position of the first byte concerned. -/
  start : Nat
  /-- The byte there. -/
  byte : UInt8
  /-- How many bytes are concerned. -/
  size : Nat
  reason : DecodeReason
  deriving Repr, DecidableEq

/-- The wording of a reason. -/
def DecodeReason.text : DecodeReason → Text
  | .invalidStart => "invalid start byte"
  | .invalidContinuation => "invalid continuation byte"
  | .unexpectedEnd => "unexpected end of data"

/-- What is said of an error. -/
def DecodeError.message (e : DecodeError) : Text :=
  let place : Text :=
    if e.size ≤ 1 then
      "byte 0x".toList ++ hexDigits 2 e.byte.toNat ++ " in position ".toList ++ Text.ofNat e.start
    else
      "bytes in position ".toList ++ Text.ofNat e.start ++ '-' :: Text.ofNat (e.start + e.size - 1)
  "'utf-8' codec can't decode ".toList ++ place ++ ": ".toList ++ e.reason.text

/-! ## §2 One character -/

/-- What is read at the start of some bytes. -/
inductive ReadChar where
  /-- A character of `size + 1` bytes. -/
  | char (c : Char) (size : Nat)
  /-- None; `size` bytes are concerned. -/
  | bad (size : Nat) (reason : DecodeReason)
  deriving Repr, DecidableEq

/-- How many bytes must follow a first byte, if it starts a character. -/
def continuationCount (b : UInt8) : Option Nat :=
  if b < 0x80 then some 0
  else if b < 0xC2 then none
  else if b < 0xE0 then some 1
  else if b < 0xF0 then some 2
  else if b < 0xF5 then some 3
  else none

/-- Whether `b` may be the second byte behind `first`; overlong forms, surrogates and code points
beyond U+10FFFF are ruled out here. -/
def isSecond (first b : UInt8) : Bool :=
  if first = 0xE0 then 0xA0 ≤ b && b < 0xC0
  else if first = 0xED then 0x80 ≤ b && b < 0xA0
  else if first = 0xF0 then 0x90 ≤ b && b < 0xC0
  else if first = 0xF4 then 0x80 ≤ b && b < 0x90
  else 0x80 ≤ b && b < 0xC0

/-- Whether `b` may be a later byte of a character. -/
def isContinuation (b : UInt8) : Bool := 0x80 ≤ b && b < 0xC0

/-- How many of the bytes that should follow `first` are there and acceptable, and whether the bytes
end behind them; at most `count` are looked at. -/
def acceptable (accepts : UInt8 → Bool) : Nat → List UInt8 → Nat × Bool
  | 0, _ => (0, false)
  | _ + 1, [] => (0, true)
  | count + 1, b :: rest =>
    if accepts b then
      let (n, atEnd) := acceptable isContinuation count rest
      (n + 1, atEnd)
    else (0, false)

/-- The bits that a first byte with `count` bytes behind it contributes. -/
def leadBits (b : UInt8) (count : Nat) : Nat :=
  match count with
  | 0 => b.toNat
  | 1 => b.toNat - 0xC0
  | 2 => b.toNat - 0xE0
  | _ => b.toNat - 0xF0

/-- The character at the start of the bytes `first :: rest`. -/
def readChar (first : UInt8) (rest : List UInt8) : ReadChar :=
  match continuationCount first with
  | none => .bad 1 .invalidStart
  | some count =>
    let (n, atEnd) := acceptable (isSecond first) count rest
    if n = count then
      let code := (rest.take count).foldl (fun m b => m * 64 + (b.toNat - 0x80)) (leadBits first count)
      .char (Char.ofNat code) count
    else .bad (n + 1) (if atEnd then .unexpectedEnd else .invalidContinuation)

/-! ## §3 All characters -/

/-- The characters of some bytes, of which the first stands at `position`. -/
def decodeFrom (position : Nat) (bytes : List UInt8) : Except DecodeError Text :=
  match bytes with
  | [] => .ok []
  | b :: rest =>
    match readChar b rest with
    | .bad size reason => .error { start := position, byte := b, size, reason }
    | .char c size =>
      match decodeFrom (position + 1 + size) (rest.drop size) with
      | .ok t => .ok (c :: t)
      | .error e => .error e
termination_by bytes.length

/-- The text that bytes are in UTF-8. -/
def decodeUtf8 (bytes : List UInt8) : Except DecodeError Text := decodeFrom 0 bytes

/-- A character is read from its bytes, and a lone byte of it is not enough. -/
example : readChar 0xC3 [0xA9] = .char 'é' 1 ∧ readChar 0xC3 [] = .bad 1 .unexpectedEnd := by decide

end LuaAccessors
