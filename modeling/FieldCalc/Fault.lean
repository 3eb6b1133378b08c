import FieldCalc.Json.Spelling

/-!
What a host or a user can do wrong, and how each case is worded. A fault stops the operation that
meets it; the operation says what it has changed by then.
-/

namespace FieldCalc

inductive Fault where
  | negativePlaces (places : Int)
  /-- A precision above what a text can be formatted with. -/
  | precisionTooBig
  /-- A precision above what can be asked for at all. -/
  | tooManyDigits
  | unknownKey (key : LooseText)
  | notOneDigit (value : Json)
  | unknownOperator (value : Json)
  | takesNoValue (kind : String)
  | unknownActionKind (name : String)
  | sessionClosed (state : String)
  | unknownField (name : Json)
  | unknownSession (id : String)
  /-- A field was to hold a negative number or one that is not finite. -/
  | invalidFieldValue (value : Binary64)
  /-- A text that spells no number was used as one. -/
  | notNumeral (text : LooseText)
  /-- A value of a kind that no number is made from was used as one. -/
  | notNumber (value : Json)
  /-- The same where texts are not read either. -/
  | notReal (value : Json)
  /-- A value of a kind that no number can be added to, or as the sign says taken from. -/
  | notAmount (sign : String) (value : Json)
  | integerTooLarge
  | infinityToInteger
  | nanToInteger
  | notInteger (text : LooseText)
  | integerTooLong (digits : Nat)
  /-- A value of a kind that no integer is made from was used as one. -/
  | notIntegral (value : Json)
  /-- A name was given by a value of a kind that names nothing. -/
  | notAName (value : Json)

inductive FaultKind where
  | missing
  | badValue
  | badType
  | overflow
  | closed
  deriving DecidableEq, Repr

namespace Fault

def kind : Fault → FaultKind
  | unknownField _ | unknownSession _ => .missing
  | notNumber _ | notReal _ | notAmount _ _ | notIntegral _ | notAName _ => .badType
  | integerTooLarge | infinityToInteger => .overflow
  | sessionClosed _ => .closed
  | _ => .badValue

def message : Fault → String
  | negativePlaces places => s!"decimal_places must be >= 0, got {places}"
  | precisionTooBig => "precision too big"
  | tooManyDigits => "Too many decimal digits in format string"
  | unknownKey key => "Unknown calculator key: " ++ String.ofList key.quoted
  | notOneDigit value => "Digit action needs a single digit, got " ++ String.ofList value.quoted
  | unknownOperator value => "Unknown operator: " ++ String.ofList value.quoted
  | takesNoValue kind => kind ++ " action takes no value"
  | unknownActionKind name => quotedString name ++ " is not a valid ActionKind"
  | sessionClosed state => "Session already " ++ state
  | unknownField name => String.ofList name.quoted
  | unknownSession id => quotedString id
  | invalidFieldValue value =>
      "Field values must be a finite number >= 0, got " ++ String.ofList (Shortest.text value)
  | notNumeral text => "could not convert string to float: " ++ String.ofList text.quoted
  | notNumber value =>
      "float() argument must be a string or a real number, not '" ++ value.kindName ++ "'"
  | notReal value => "must be real number, not " ++ value.kindName
  | notAmount sign value =>
      "unsupported operand type(s) for " ++ sign ++ "=: 'float' and '" ++ value.kindName ++ "'"
  | integerTooLarge => "int too large to convert to float"
  | infinityToInteger => "cannot convert float infinity to integer"
  | nanToInteger => "cannot convert float NaN to integer"
  | notInteger text =>
      "invalid literal for int() with base 10: " ++ String.ofList (text.quoted.take 200)
  | integerTooLong digits => Numeral.tooLongMessage digits
  | notIntegral value =>
      "int() argument must be a string, a bytes-like object or a real number, not '"
        ++ value.kindName ++ "'"
  | notAName value => "unhashable type: '" ++ value.kindName ++ "'"

end Fault

end FieldCalc
