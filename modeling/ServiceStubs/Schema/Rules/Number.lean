import ServiceStubs.Schema.Tree

/-!
# Numbers and ranges

Which numbers fields may have, and when ranges of numbers get along.
-/

namespace ServiceStubs.Schema

namespace NumberRange

/-- Whether a range holds a number. -/
def holds (range : NumberRange) (number : Int) : Bool :=
  range.first ≤ number && number ≤ range.last

/-- Whether two ranges share a number. -/
def overlaps (left right : NumberRange) : Bool :=
  left.first ≤ right.last && right.first ≤ left.last

/-- Whether a range runs forwards. -/
def isForward (range : NumberRange) : Bool :=
  range.first ≤ range.last

end NumberRange

/-- Whether no two ranges share a number. -/
def areDisjoint (ranges : List NumberRange) : Bool :=
  match ranges with
  | [] => true
  | range :: rest => !rest.any range.overlaps && areDisjoint rest

/-- The largest number a field may have. -/
def largestNumber : Int := 536870911

/-- The largest number an extension of a set of messages may have. -/
def largestSetNumber : Int := 2147483647

/-- The numbers that the language keeps for itself. -/
def ownNumbers : NumberRange := ⟨19000, 19999⟩

/-- Whether an extension may have a number, as far as the language itself is concerned. -/
def isExtensionNumber (number : Int) : Bool :=
  1 ≤ number && !ownNumbers.holds number

/-- Whether a field may have a number. -/
def isFieldNumber (number : Int) : Bool :=
  isExtensionNumber number && number ≤ largestNumber

/-- The ranges that a message opens for extensions. -/
def Message.openRanges (message : Message) : List NumberRange :=
  message.extensionRanges.map ExtensionRange.range

end ServiceStubs.Schema
