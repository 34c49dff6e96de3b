/-!
# Floating point numbers

Numbers with a point are kept in sixty-four bits: a significand of at most fifty-three binary
digits, times a power of two. A decimal number becomes the nearest of them, and the even one of
two that are equally near. A number is shown with the fewest decimal digits that become this
number again, and with the nearest of these. Very small and very large numbers are shown with an
exponent.
-/

namespace ServiceStubs

/-- The number `significand · 2 ^ power`, which is not negative. -/
structure Double where
  significand : Nat
  power : Int
  deriving DecidableEq, Repr

namespace Double

/-- The fraction `numerator / denominator · base ^ power`. -/
def scale (base : Nat) (power : Int) (numerator denominator : Nat) : Nat × Nat :=
  if 0 ≤ power then (numerator * base.pow power.toNat, denominator)
  else (numerator, denominator * base.pow power.natAbs)

/-- The integer nearest to a fraction, and the even one of two. -/
def round (numerator denominator : Nat) : Nat :=
  let quotient := numerator / denominator
  let doubled := 2 * (numerator % denominator)
  if doubled < denominator ∨ (doubled = denominator ∧ quotient % 2 = 0) then quotient
  else quotient + 1

/-- The least number of fifty-three binary digits. -/
def leastFull : Nat := 0x10000000000000

/-- The least power of two. -/
def leastPower : Int := -1074

/-- The greatest power of two. -/
def greatestPower : Int := 971

/-- The number nearest to a fraction, without regard to the greatest power. -/
def nearest (numerator denominator : Nat) : Double :=
  let guess : Int := numerator.log2 - denominator.log2 - 52
  let guessed := scale 2 (-guess) numerator denominator
  let power := max leastPower (if guessed.1 / guessed.2 < leastFull then guess - 1 else guess)
  let scaled := scale 2 (-power) numerator denominator
  let significand := round scaled.1 scaled.2
  if significand = 2 * leastFull then ⟨leastFull, power + 1⟩ else ⟨significand, power⟩

/-- Whether a number is too large. -/
def isInfinite (number : Double) : Bool :=
  greatestPower < number.power

/-- The number as a fraction. -/
def fraction (number : Double) : Nat × Nat :=
  scale 2 number.power number.significand 1

/-- How many digits stand before the point; negative for zeros behind the point. -/
def magnitude (number : Double) : Int :=
  let (numerator, denominator) := number.fraction
  let guess : Int := (Nat.toDigits 10 numerator).length - (Nat.toDigits 10 denominator).length
  let guessed := scale 10 (-guess) numerator denominator
  if guessed.1 < guessed.2 then guess else guess + 1

/-- Whether the decimal number `digits · 10 ^ power` becomes the given number again. -/
def readsBack (number : Double) (power : Int) (digits : Nat) : Bool :=
  let (numerator, denominator) := scale 10 power digits 1
  nearest numerator denominator == number

/-- The nearest decimal number of so many digits that becomes the given number again, as digits and
a power of ten. -/
def decimal? (number : Double) (count : Nat) : Option (Nat × Int) :=
  let power := number.magnitude - count
  let (numerator, denominator) := number.fraction
  let scaled := scale 10 (-power) numerator denominator
  let below := scaled.1 / scaled.2
  let near := round scaled.1 scaled.2
  let far := if near = below then below + 1 else below
  ([near, far].find? (number.readsBack power)).map fun digits => (digits, power)

/-- The shortest decimal number that becomes the given number again. Seventeen digits always do. -/
def shortest (number : Double) : Nat × Int :=
  ((List.range' 1 17).findSome? number.decimal?).getD (0, 0)

/-- Digits with a point among them. -/
def pointed (digits : List Char) (point : Int) : List Char :=
  if point ≤ 0 then '0' :: '.' :: List.replicate point.natAbs '0' ++ digits
  else if digits.length ≤ point.toNat then
    digits ++ List.replicate (point.toNat - digits.length) '0' ++ ['.', '0']
  else digits.take point.toNat ++ '.' :: digits.drop point.toNat

/-- Digits with a point behind the first and an exponent of at least two digits. -/
def exponential (digits : List Char) (exponent : Int) : List Char :=
  let written := Nat.toDigits 10 exponent.natAbs
  digits.take 1 ++ (if digits.length ≤ 1 then [] else '.' :: digits.drop 1) ++
    ['e', if exponent < 0 then '-' else '+'] ++
    List.replicate (2 - written.length) '0' ++ written

/-- The number as it is shown. -/
def shown (number : Double) : List Char :=
  if number.significand = 0 then "0.0".toList
  else if number.isInfinite then "inf".toList
  else
    let (digits, power) := number.shortest
    let written := Nat.toDigits 10 digits
    let point := written.length + power
    let significant := (written.reverse.dropWhile (· == '0')).reverse
    if point ≤ -4 ∨ 16 < point then exponential significant (point - 1)
    else pointed significant point

end Double

end ServiceStubs
