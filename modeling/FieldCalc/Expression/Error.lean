import FieldCalc.Decimal.Shortest
import FieldCalc.Token

/-!
Why a text or a list of tokens has no value. Either it is malformed, or the arithmetic leaves the
finite numbers, or an operator token holds a text that names no operator.
-/

namespace FieldCalc

inductive ExpressionError (τ : Type := Text) where
  | invalidCharacter (c : Char)
  | badNumber (text : τ)
  | empty
  | missingOperand
  | unexpected (token : Token τ) (position : Nat)
  | unclosed (found : Option (Token τ)) (position : Nat)
  | tooDeep
  | divisionByZero
  | notFinite (value : Binary64)
  | unknownOperator (text : τ)
  deriving DecidableEq

namespace ExpressionError

variable {τ : Type}

def isMalformed : ExpressionError τ → Bool
  | divisionByZero => false
  | notFinite _ => false
  | unknownOperator _ => false
  | _ => true

def message [Wording τ] : ExpressionError τ → String
  | invalidCharacter c => "Invalid character " ++ String.ofList (Text.quoted [c])
  | badNumber text => "Bad number: " ++ String.ofList (Wording.quoted text)
  | empty => "Empty expression"
  | missingOperand => "Expression ends where a number was expected"
  | unexpected token position => "Unexpected " ++ token.described ++ s!" at position {position}"
  | unclosed found position =>
      s!"Expected close_paren at position {position}, got "
        ++ (match found with
          | some token => token.described
          | none => "None")
  | tooDeep => "Expression nested too deeply"
  | divisionByZero => "Division by zero"
  | notFinite value => "Non-finite result: " ++ String.ofList (Shortest.text value)
  | unknownOperator text => String.ofList (Wording.quoted text)

end ExpressionError

end FieldCalc
