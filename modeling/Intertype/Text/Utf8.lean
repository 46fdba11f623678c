/-
# Reading bytes as UTF-8

A character is one byte below 0x80, or a first byte that says how many more there are, each of which
carries six bits. Some second bytes are ruled out, so that every character has one form, none is a
surrogate and none is beyond the last code point.

Bytes that are no UTF-8 are reported by the place of the character that goes wrong and by what is wrong
with it. A character that the end of the data cuts short is met by itself, after all that is complete,
and its place is counted from there. Where a text is wanted at any rate, U+FFFD is put in the place of
such bytes.

Key definitions: `Text.Utf8.decode`, `Text.Utf8.Fault`, `Text.Utf8.decodeReplacing`.
-/

namespace Intertype
namespace Text
namespace Utf8

/-- What is wrong with bytes. -/
inductive Cause
  /-- No character starts with this byte. -/
  | invalidStart
  /-- A byte that should carry on a character does not. -/
  | invalidContinuation
  /-- The data ends within a character. -/
  | unexpectedEnd
  deriving DecidableEq, Repr

/-- The wording of a cause. -/
def Cause.message : Cause → String
  | .invalidStart => "invalid start byte"
  | .invalidContinuation => "invalid continuation byte"
  | .unexpectedEnd => "unexpected end of data"

/-- The bytes that are no character. -/
structure Fault where
  cause : Cause
  /-- The first of them. -/
  byte : UInt8
  /-- The place of the first. -/
  start : Nat
  /-- How many there are. -/
  count : Nat
  deriving DecidableEq, Repr

/-- A number below 256 in two hexadecimal digits. -/
def hexByte (n : Nat) : String :=
  String.ofList [Nat.digitChar (n / 16), Nat.digitChar (n % 16)]

/-- The wording of a fault. -/
def Fault.message (f : Fault) : String :=
  "'utf-8' codec can't decode " ++
  (if f.count = 1 then
    "byte 0x" ++ hexByte f.byte.toNat ++ " in position " ++ toString f.start
  else
    "bytes in position " ++ toString f.start ++ "-" ++ toString (f.start + f.count - 1)) ++
  ": " ++ f.cause.message

/-- A character of which some bytes are still to come. -/
structure Unfinished where
  /-- Its first byte. -/
  first : UInt8
  /-- How many of its bytes were met. -/
  met : Nat
  /-- How many are to come. -/
  owed : Nat
  /-- The least and the greatest byte that may come next. -/
  low : Nat
  high : Nat
  /-- The bits of the bytes met. -/
  bits : Nat

/-- What a first byte begins: a character of its own, one with more bytes, or none. -/
def begin? (b : UInt8) : Option (Char ⊕ Unfinished) :=
  let n := b.toNat
  if n < 0x80 then some (.inl (Char.ofNat n))
  else if n < 0xC2 then none
  else if n < 0xE0 then some (.inr ⟨b, 1, 1, 0x80, 0xBF, n - 0xC0⟩)
  else if n < 0xF0 then
    some (.inr ⟨b, 1, 2, if n = 0xE0 then 0xA0 else 0x80, if n = 0xED then 0x9F else 0xBF, n - 0xE0⟩)
  else if n < 0xF5 then
    some (.inr ⟨b, 1, 3, if n = 0xF0 then 0x90 else 0x80, if n = 0xF4 then 0x8F else 0xBF, n - 0xF0⟩)
  else none

/-- Reads the bytes from a place on, where a character may be unfinished. -/
def decodeFrom (place : Nat) (unfinished : Option Unfinished) (bytes : List UInt8) :
    Except Fault (List Char) :=
  match unfinished, bytes with
  | none, [] => .ok []
  | some p, [] => .error ⟨.unexpectedEnd, p.first, 0, p.met⟩
  | none, b :: rest =>
    match begin? b with
    | none => .error ⟨.invalidStart, b, place, 1⟩
    | some (.inl c) => (decodeFrom (place + 1) none rest).map (c :: ·)
    | some (.inr p) => decodeFrom (place + 1) (some p) rest
  | some p, b :: rest =>
    if p.low ≤ b.toNat ∧ b.toNat ≤ p.high then
      let bits := p.bits * 64 + b.toNat % 64
      if p.owed = 1 then (decodeFrom (place + 1) none rest).map (Char.ofNat bits :: ·)
      else decodeFrom (place + 1) (some ⟨p.first, p.met + 1, p.owed - 1, 0x80, 0xBF, bits⟩) rest
    else .error ⟨.invalidContinuation, p.first, place - p.met, p.met⟩

/-- The characters that bytes stand for. -/
def decode (bytes : List UInt8) : Except Fault (List Char) :=
  decodeFrom 0 none bytes

/-! ### Reading at any rate -/

/-- What stands for bytes that are no character. -/
def replacement : Char := '\uFFFD'

/-- The characters that are complete with a byte, where none was unfinished, and what it begins. -/
def meet (b : UInt8) : List Char × Option Unfinished :=
  match begin? b with
  | none => ([replacement], none)
  | some (.inl c) => ([c], none)
  | some (.inr p) => ([], some p)

/-- The characters that are complete with a byte, and the one that is unfinished then. -/
def carryOn : Option Unfinished → UInt8 → List Char × Option Unfinished
  | none, b => meet b
  | some p, b =>
    if p.low ≤ b.toNat ∧ b.toNat ≤ p.high then
      let bits := p.bits * 64 + b.toNat % 64
      if p.owed = 1 then ([Char.ofNat bits], none)
      else ([], some ⟨p.first, p.met + 1, p.owed - 1, 0x80, 0xBF, bits⟩)
    else (replacement :: (meet b).1, (meet b).2)

/-- Reads the bytes, where a character may be unfinished, with the replacement for what is none. -/
def decodeReplacingFrom (unfinished : Option Unfinished) : List UInt8 → List Char
  | [] => if unfinished.isSome then [replacement] else []
  | b :: rest =>
    let met := carryOn unfinished b
    met.1 ++ decodeReplacingFrom met.2 rest

/-- The characters that bytes stand for, with the replacement in place of bytes that are none. -/
def decodeReplacing (bytes : List UInt8) : List Char :=
  decodeReplacingFrom none bytes

example : decode [0x61, 0xC3, 0xA9, 0xF0, 0x9F, 0x98, 0x80] = .ok ['a', 'é', '😀'] := rfl

example : decode [0x61, 0xED, 0xA0, 0x80] = .error ⟨.invalidContinuation, 0xED, 1, 1⟩ := rfl

example : decode [0x61, 0xE2, 0x82] = .error ⟨.unexpectedEnd, 0xE2, 0, 2⟩ := rfl

example : decodeReplacing [0xED, 0xA0, 0x61, 0xE2, 0x82] = ['\uFFFD', '\uFFFD', 'a', '\uFFFD'] := rfl

example : (Fault.mk .invalidStart 0xFF 0 1).message =
    "'utf-8' codec can't decode byte 0xff in position 0: invalid start byte" := by decide

example : (Fault.mk .unexpectedEnd 0xE2 0 2).message =
    "'utf-8' codec can't decode bytes in position 0-1: unexpected end of data" := by decide

end Utf8
end Text
end Intertype
