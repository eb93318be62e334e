import ImageAtlas.Schema.Basic

/-!
# Faults

The ways in which an operation on an image or its regions can fail. A fault is
a cause with the values that show it; its wording stands in `Fault.message`
alone.

Numbers are unbounded throughout, except where one has to fit a word of 64 bits
with a sign: an index, a capacity, a base.
-/

namespace ImageAtlas

/-- The least number that a word of 64 bits with a sign does not hold. -/
def wordBound : Int := 0x8000000000000000

/-- Why an operation on an image or its regions failed. -/
inductive Fault where
  /-- A schema text was refused. -/
  | schema (refusal : Schema.Refusal)
  /-- A byte was asked for outside the image. -/
  | outsideImage (address : Int) (size : Nat)
  /-- An index that counts from the end reaches beyond the beginning. -/
  | indexOutOfBounds (index : Int) (size : Nat)
  /-- An index does not fit a machine word. -/
  | indexTooLarge
  /-- An address lies outside the array from `start` to before `stop`. -/
  | outsideArray (address start stop : Int)
  /-- An array was given fewer than no elements. -/
  | negativeCount (count : Int)
  /-- An array was given a layout without segments. -/
  | noSegments
  /-- Segments of this kind cannot be matched. -/
  | noMatcher (kind : String)
  /-- Segments of this kind cannot be rendered. -/
  | noRenderer (kind : String)
  /-- The length rule is none of the known ones. -/
  | unsupportedLength
  /-- Elements of no bytes match without end. -/
  | endlessRun
  /-- The bytes of an image cannot be assigned. -/
  | readOnly
  /-- A number does not fit the machine word it is computed in. -/
  | overflow
  /-- A number has too many digits to be written in decimal. -/
  | tooManyDigits
deriving DecidableEq, Repr

/-- What a fault reports. An overflow reports nothing. -/
def Fault.message : Fault → String
  | .schema refusal => refusal.report
  | .outsideImage address size =>
      "Address 0x" ++ Text.hexadecimal 0 address ++ " is outside the image (size 0x"
        ++ Text.hexadecimal 0 size ++ ")"
  | .indexOutOfBounds index size =>
      "index " ++ Text.decimal index ++ " is out of bounds for axis 0 with size "
        ++ Text.decimal size
  | .indexTooLarge =>
      "only integers, slices (`:`), ellipsis (`...`), numpy.newaxis (`None`) and integer or "
        ++ "boolean arrays are valid indices"
  | .outsideArray address start stop =>
      "Address 0x" ++ Text.hexadecimal 0 address ++ " is outside array 0x"
        ++ Text.hexadecimal 0 start ++ "-0x" ++ Text.hexadecimal 0 stop
  | .negativeCount count => "element_count must be non-negative, got " ++ Text.decimal count
  | .noSegments => "Array regions need at least one segment"
  | .noMatcher kind => "No matcher for content kind: " ++ kind
  | .noRenderer kind => "No renderer for content kind: " ++ kind
  | .unsupportedLength => "Unsupported length specification: None"
  | .endlessRun => "Elements of no bytes match without end"
  | .readOnly => "assignment destination is read-only"
  | .overflow => ""
  | .tooManyDigits => Text.tooManyDigits

end ImageAtlas
