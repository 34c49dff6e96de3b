import ServiceStubs.Text.Quoted

/-!
# Encodings that refuse texts

A text is written by an encoding, and an encoding may refuse some characters. UTF-8 has bytes for
every character. But a text of a run may also hold halves of surrogate pairs, which are no
characters: an argument whose bytes are not UTF-8 arrives so. A `String` cannot hold them, so a run
is told which of its characters stand for such halves. The bytes themselves are not given here.
-/

namespace ServiceStubs.Text

/-- Half of a surrogate pair on its own. -/
structure Surrogate where
  code : Nat
  isHalf : 0xd800 ≤ code ∧ code ≤ 0xdfff
  deriving DecidableEq, Repr

/-- What an encoding refuses, and how it says so. -/
structure Encoding where
  name : String
  reason : String
  /-- The code point that a character stands for, if it is refused. -/
  refused? : Char → Option Nat

namespace Encoding

/-- UTF-8, where some characters stand for halves of surrogate pairs. -/
def utf8 (surrogate? : Char → Option Surrogate) : Encoding where
  name := "utf-8"
  reason := "surrogates not allowed"
  refused? character := (surrogate? character).map Surrogate.code

/-- The first code points of a text that are refused: where they start, the first of them, and how
many follow one another. -/
structure Refusal where
  encoding : String
  reason : String
  position : Nat
  code : Nat
  length : Nat
  deriving DecidableEq, Repr

/-- A code point as an escape. -/
def Refusal.escape (code : Nat) : String :=
  String.ofList <|
    if code < 0x100 then '\\' :: 'x' :: Quoted.hexadecimal 2 code
    else if code < 0x10000 then '\\' :: 'u' :: Quoted.hexadecimal 4 code
    else '\\' :: 'U' :: Quoted.hexadecimal 8 code

/-- The wording of a refusal. A single code point is shown, several are only located. -/
def Refusal.message (refusal : Refusal) : String :=
  let place :=
    if refusal.length = 1 then
      "character '" ++ Refusal.escape refusal.code ++ s!"' in position {refusal.position}"
    else
      let last := refusal.position + refusal.length - 1
      s!"characters in position {refusal.position}-{last}"
  s!"'{refusal.encoding}' codec can't encode {place}: {refusal.reason}"

/-- Whether a character is refused. -/
def refuses (encoding : Encoding) (character : Char) : Bool :=
  (encoding.refused? character).isSome

/-- Where a text is refused first, if it is refused at all. -/
def refusal? (encoding : Encoding) (text : String) : Option Refusal :=
  let accepted := text.toList.takeWhile fun character => !encoding.refuses character
  match text.toList.drop accepted.length with
  | [] => none
  | first :: rest =>
    some {
      encoding := encoding.name
      reason := encoding.reason
      position := accepted.length
      code := (encoding.refused? first).getD first.toNat
      length := (rest.takeWhile encoding.refuses).length + 1 }

end Encoding

end ServiceStubs.Text
