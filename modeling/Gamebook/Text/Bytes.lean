import Gamebook.Number.Decimal
import Gamebook.Text.Quoted

/-!
# Bytes that spell a text

Reads bytes as UTF-8. The reading is strict: no byte may be left over, no character
may take more bytes than it needs, and no surrogate may be spelled. A failure tells
which bytes could not be read and why.
-/

namespace Gamebook.Text

/-- Why bytes spell no text. -/
inductive SpellingFault where
  | badStart
  | badContinuation
  | endsEarly
deriving DecidableEq

/-- The words of a message for a fault. -/
def SpellingFault.reason : SpellingFault → Text
  | badStart => "invalid start byte".toList
  | badContinuation => "invalid continuation byte".toList
  | endsEarly => "unexpected end of data".toList

/-- How many bytes follow a first byte, the value its own bits have, and the range the second byte
must lie in. -/
def leadByte? (a : Nat) : Option (Nat × Nat × Nat × Nat) :=
  if a < 0xc2 then none
  else if a < 0xe0 then some (1, a - 0xc0, 0x80, 0xbf)
  else if a == 0xe0 then some (2, 0, 0xa0, 0xbf)
  else if a == 0xed then some (2, 0xd, 0x80, 0x9f)
  else if a < 0xf0 then some (2, a - 0xe0, 0x80, 0xbf)
  else if a == 0xf0 then some (3, 0, 0x90, 0xbf)
  else if a < 0xf4 then some (3, a - 0xf0, 0x80, 0xbf)
  else if a == 0xf4 then some (3, 4, 0x80, 0x8f)
  else none

/-- Adds the bits of `count` more bytes, the first of them between `low` and `high`. A failure tells
how many bytes were good. -/
def takeContinuations (value low high : Nat) :
    Nat → Nat → List Nat → Except (Nat × SpellingFault) (Nat × List Nat)
  | 0, _, rest => .ok (value, rest)
  | _ + 1, good, [] => .error (good, .endsEarly)
  | count + 1, good, b :: rest =>
    if low ≤ b && b ≤ high then
      takeContinuations (value * 64 + (b - 0x80)) 0x80 0xbf count (good + 1) rest
    else .error (good, .badContinuation)

/-- The character at the start of the bytes, and the bytes after it. -/
def takeUtf8 : List Nat → Except (Nat × SpellingFault) (Option (Char × List Nat))
  | [] => .ok none
  | a :: rest =>
    if a < 0x80 then .ok (some (Char.ofNat a, rest))
    else
      match leadByte? a with
      | none => .error (1, .badStart)
      | some (count, value, low, high) => do
        let (n, rest) ← takeContinuations value low high count 1 rest
        return some (Char.ofNat n, rest)

/-- A failure to read bytes: where, which bytes, and why. -/
structure BytesError where
  position : Nat
  bytes : List Nat
  fault : SpellingFault
deriving DecidableEq

/-- The text of the error for bytes that spell no text. -/
def BytesError.message (e : BytesError) : Text :=
  let place := match e.bytes with
    | [b] => "byte 0x".toList ++ hexDigits 2 b ++ " in position ".toList ++
        Number.writeNat e.position
    | bs => "bytes in position ".toList ++ Number.writeNat e.position ++ ['-'] ++
        Number.writeNat (e.position + bs.length - 1)
  "'utf-8' codec can't decode ".toList ++ place ++ ": ".toList ++ e.fault.reason

/-- Reads at most `fuel` characters from bytes that begin at a position. -/
def readUtf8From : Nat → Nat → List Nat → Except BytesError Text
  | 0, _, _ => .ok []
  | fuel + 1, position, bytes =>
    match takeUtf8 bytes with
    | .error (count, fault) => .error ⟨position, bytes.take count, fault⟩
    | .ok none => .ok []
    | .ok (some (c, rest)) =>
      (readUtf8From fuel (position + (bytes.length - rest.length)) rest).map (c :: ·)

/-- The text that the bytes spell. -/
def readUtf8 (bytes : List Nat) : Except BytesError Text :=
  readUtf8From (bytes.length + 1) 0 bytes

/-- The text that the bytes spell, if they do. -/
def ofUtf8? (bytes : List Nat) : Option Text := (readUtf8 bytes).toOption

end Gamebook.Text
