import FieldCalc.Display
import FieldCalc.Token

/-!
The live expression. It is never empty: its tokens are the last one, on which every key works,
and those before it. Beside them it holds the operator that waits for its right side, whether the
display shows a result that the next key may replace, and whether the display shows an error. The
tokens are kept while it does.
-/

namespace FieldCalc

structure Buffer where
  before : List Token
  last : Token
  waiting : Bool
  pending : Option Operator
  error : Bool
  deriving DecidableEq

namespace Buffer

def fresh : Buffer := ⟨[], Token.zero, false, none, false⟩

def tokens (b : Buffer) : List Token := b.before ++ [b.last]

@[simp] theorem tokens_fresh : fresh.tokens = [Token.zero] := rfl

@[simp] theorem tokens_ne_nil (b : Buffer) : b.tokens ≠ [] := by
  simp [tokens]

def text (b : Buffer) : Text := if b.error then Display.errorText else Token.textOf b.tokens

/-- Whether the buffer is a lone zero, as a fresh one is. -/
def isZero (b : Buffer) : Bool := !b.error && b.before.isEmpty && b.last == Token.zero

def openCount (b : Buffer) : Nat := b.tokens.countP Token.isOpen

def closeCount (b : Buffer) : Nat := b.tokens.countP Token.isClose

def hasOperator (b : Buffer) : Bool := b.tokens.any Token.isOperator

/-! ## Changing the tokens -/

def push (b : Buffer) (token : Token) : Buffer := { b with before := b.tokens, last := token }

def append (b : Buffer) (tokens : List Token) : Buffer := tokens.foldl push b

def replaceLast (b : Buffer) (token : Token) : Buffer := { b with last := token }

/-- Removes the last token; a lone one leaves a zero. -/
def pop (b : Buffer) : Buffer :=
  match b.before.getLast? with
  | none => { b with last := Token.zero }
  | some token => { b with before := b.before.dropLast, last := token }

def loadNumber (b : Buffer) (text : Text) : Buffer :=
  { b with before := [], last := Token.number text, error := false }

def showError (b : Buffer) : Buffer := { b with error := true, pending := none, waiting := true }

@[simp] theorem tokens_push (b : Buffer) (token : Token) :
    (b.push token).tokens = b.tokens ++ [token] := rfl

@[simp] theorem tokens_append (b : Buffer) (tokens : List Token) :
    (b.append tokens).tokens = b.tokens ++ tokens := by
  induction tokens generalizing b with
  | nil => simp [append]
  | cons token rest ih =>
    have : (b.append (token :: rest)) = (b.push token).append rest := rfl
    rw [this, ih]
    simp

@[simp] theorem tokens_replaceLast (b : Buffer) (token : Token) :
    (b.replaceLast token).tokens = b.before ++ [token] := rfl

@[simp] theorem tokens_loadNumber (b : Buffer) (text : Text) :
    (b.loadNumber text).tokens = [Token.number text] := rfl

@[simp] theorem tokens_showError (b : Buffer) : b.showError.tokens = b.tokens := rfl

theorem tokens_pop (b : Buffer) :
    b.pop.tokens = if b.before = [] then [Token.zero] else b.before := by
  rcases List.eq_nil_or_concat b.before with h | ⟨init, token, h⟩
  · simp [pop, tokens, h]
  · simp [pop, tokens, h]

end Buffer

end FieldCalc
