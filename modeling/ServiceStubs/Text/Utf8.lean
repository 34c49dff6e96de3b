/-!
# Decoding UTF-8

Bytes are decoded strictly: overlong forms, surrogates and code points beyond the last plane are
refused. A refusal says where the first offending sequence starts, how many bytes of it were
acceptable so far, and why it cannot go on.
-/

namespace ServiceStubs.Text.Utf8

/-- Why a byte sequence is no character. -/
inductive Fault where
  | start
  | continuation
  | truncated
  deriving DecidableEq, Repr

/-- The wording of a fault. -/
def Fault.message : Fault → String
  | .start => "invalid start byte"
  | .continuation => "invalid continuation byte"
  | .truncated => "unexpected end of data"

/-- The first offending sequence of some bytes: its position, its first byte, its length and the
reason. -/
structure Refusal where
  position : Nat
  byte : UInt8
  length : Nat
  fault : Fault
  deriving DecidableEq, Repr

/-- The wording of a refusal. A single byte is shown, a longer sequence only located. -/
def Refusal.message (refusal : Refusal) : String :=
  let digits := Nat.toDigits 16 refusal.byte.toNat
  let shown := String.ofList (List.replicate (2 - digits.length) '0' ++ digits)
  let place :=
    if refusal.length = 1 then s!"byte 0x{shown} in position {refusal.position}"
    else
      let last := refusal.position + refusal.length - 1
      s!"bytes in position {refusal.position}-{last}"
  s!"'utf-8' codec can't decode {place}: {refusal.fault.message}"

/-- The range of the second byte after a first byte: narrower than the continuation bytes where a
full range would admit overlong forms, surrogates or code points beyond the last plane. -/
def secondByteRange (first : UInt8) : UInt8 × UInt8 :=
  if first = 0xe0 then (0xa0, 0xbf)
  else if first = 0xed then (0x80, 0x9f)
  else if first = 0xf0 then (0x90, 0xbf)
  else if first = 0xf4 then (0x80, 0x8f)
  else (0x80, 0xbf)

/-- Whether a byte lies in a closed range. -/
def inRange (range : UInt8 × UInt8) (byte : UInt8) : Bool :=
  range.1 ≤ byte && byte ≤ range.2

/-- How many bytes follow a first byte, when it can start a character at all. -/
def followers (first : UInt8) : Option Nat :=
  if first < 0x80 then some 0
  else if first < 0xc2 then none
  else if first < 0xe0 then some 1
  else if first < 0xf0 then some 2
  else if first < 0xf5 then some 3
  else none

/-- The longest acceptable part of the bytes after the first one, each paired with its range. -/
def acceptable : List (UInt8 × UInt8) → List UInt8 → List UInt8
  | range :: ranges, byte :: bytes =>
    if inRange range byte then byte :: acceptable ranges bytes else []
  | _, _ => []

/-- The code point of a first byte and its followers. -/
def codePoint (first : UInt8) (rest : List UInt8) : Nat :=
  let lead :=
    match rest.length with
    | 0 => first.toNat
    | 1 => first.toNat % 0x20
    | 2 => first.toNat % 0x10
    | _ => first.toNat % 0x08
  rest.foldl (fun code byte => code * 0x40 + byte.toNat % 0x40) lead

/-- Decode bytes whose first one stands at `position`. -/
def decodeFrom (position : Nat) : List UInt8 → Except Refusal (List Char)
  | [] => .ok []
  | first :: rest =>
    match followers first with
    | none => .error ⟨position, first, 1, .start⟩
    | some count =>
      let ranges := (secondByteRange first :: List.replicate 2 (0x80, 0xbf)).take count
      let accepted := acceptable ranges rest
      if accepted.length = count then
        match decodeFrom (position + count + 1) (rest.drop count) with
        | .error refusal => .error refusal
        | .ok text => .ok (Char.ofNat (codePoint first accepted) :: text)
      else if accepted.length = rest.length then
        .error ⟨position, first, accepted.length + 1, .truncated⟩
      else .error ⟨position, first, accepted.length + 1, .continuation⟩
termination_by bytes => bytes.length
decreasing_by
  simp only [List.length_drop, List.length_cons]
  omega

/-- Decode a whole byte sequence. -/
def decode (bytes : List UInt8) : Except Refusal (List Char) :=
  decodeFrom 0 bytes

/-- The bytes of a text. -/
def encode (text : String) : List UInt8 :=
  text.toUTF8.toList

end ServiceStubs.Text.Utf8
