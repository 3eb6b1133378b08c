import FieldCalc.Proofs.Binary64.SignBit
import FieldCalc.Proofs.Calculator.Reached
import FieldCalc.Proofs.Decimal.Readable
import FieldCalc.Proofs.Outcome

/-!
# The sign key

The sign key gives the last number the opposite sign and leaves everything else alone. It does so
in its text: a minus sign is put before the number, or taken away. No number that can be typed or
recalled has two signs, so pressing the key again gives the same text back, and a lone zero is a
lone zero again.
-/

namespace FieldCalc

namespace Buffer

variable {b : Buffer}

theorem toggleSign_number {t : Text} (h : b.last = .number t) :
    b.toggleSign = b.replaceLast (.number (flipSign t)) := by
  rw [toggleSign, h]

theorem toggleSign_other (h : b.last.isNumber = false) : b.toggleSign = b := by
  unfold toggleSign
  cases hlast : b.last with
  | number t =>
      rw [hlast] at h
      cases h
  | operator _ | openParen _ | closeParen _ => rfl

theorem toggleSign_toggleSign (h : Typable b.tokens) : b.toggleSign.toggleSign = b := by
  cases hlast : b.last with
  | number t =>
      rw [toggleSign_number hlast, toggleSign_number rfl,
        (isNumberText_last h hlast).flipSign_flipSign, ← hlast]
      rfl
  | operator _ | openParen _ | closeParen _ =>
      have hother : b.toggleSign = b := toggleSign_other (by rw [hlast]; rfl)
      rw [hother, hother]

end Buffer

namespace Calculator

variable {c : Calculator}

/-- What the sign key does to a number at the end, and to anything else there, and what pressing
it twice does. -/
structure TogglesSign (c : Calculator) : Prop where
  number : ∀ t, c.buffer.last = .number t → ∃ t' x, IsNumberText t' ∧
    (t' = '-' :: t ∨ t = '-' :: t') ∧ Numeral.read? t = some x ∧ Numeral.read? t' = some x.neg ∧
      x.neg.toBits = x.toBits ^^^ Binary64.signBits true ∧
        c.press .toggleSign = ⟨c.edit (·.replaceLast (.number t')), [], [.toggleSign], none⟩
  other : c.buffer.last.isNumber = false → c.press .toggleSign = ⟨c, [], [.toggleSign], none⟩
  twice : c.pressAll [.toggleSign, .toggleSign] = ⟨c, [], [.toggleSign, .toggleSign], none⟩

theorem press_toggleSign (ready : c.buffer.error = false) :
    c.press .toggleSign = ⟨c.edit Buffer.toggleSign, [], [.toggleSign], none⟩ :=
  press_quiet (.inl ready) rfl

end Calculator

open Calculator

/-- On every display but an error, the sign key negates the number at the end, bit for bit, and
pressed twice it changes nothing. -/
theorem Reached.togglesSign {c : Calculator} {tape : Tape} (h : Reached c tape)
    (ready : c.buffer.error = false) : c.TogglesSign where
  number t hlast := by
    have hnumber := Buffer.isNumberText_last h.typable hlast
    obtain ⟨x, hread⟩ := Numeral.read?_of_isNumberText hnumber
    have hnan : x ≠ .nan := by
      rintro rfl
      exact Numeral.read?_ne_nan hnumber hread
    have hflipped : Numeral.read? (Buffer.flipSign t) = some x.neg := by
      rw [Numeral.read?_flipSign hnumber, hread, Option.map_some]
    refine ⟨_, x, hnumber.flipSign, hnumber.flipSign_cases, hread, hflipped,
      Binary64.toBits_neg hnan, ?_⟩
    rw [press_toggleSign ready, edit, Buffer.toggleSign_number hlast]
    rfl
  other hlast := by
    rw [press_toggleSign ready, edit, Buffer.toggleSign_other hlast]
  twice := by
    have hagain : (c.edit Buffer.toggleSign).press .toggleSign = ⟨c, [], [.toggleSign], none⟩ := by
      rw [press_toggleSign (c := c.edit Buffer.toggleSign) (Buffer.error_edited ready .toggleSign)]
      simp only [edit, Buffer.toggleSign_toggleSign h.typable]
    calc c.pressAll [.toggleSign, .toggleSign]
      _ = (c.press .toggleSign).andThen fun c' => c'.press .toggleSign := by
        simp only [pressAll, Outcome.forEach_cons, Outcome.forEach_nil, Outcome.andThen_quiet]
      _ = ⟨c, [], [.toggleSign, .toggleSign], none⟩ := by
        rw [press_toggleSign ready, Outcome.andThen]
        simp only [hagain, List.cons_append, List.nil_append]

/-- A negative number after an operator loses its sign, and a lone zero gets one. -/
theorem togglesSign_signed :
    (∃ (c : Calculator) (tape : Tape), Reached c tape ∧ c.buffer.error = false ∧
      c.display = "3+-5".toList ∧ (c.press .toggleSign).state.display = "3+5".toList ∧
      c.TogglesSign) ∧
    Reached (fresh 2) .empty ∧ (fresh 2).buffer.error = false ∧
      (fresh 2).display = "0".toList ∧
      ((fresh 2).press .toggleSign).state.display = "-0".toList ∧
      Numeral.read? "-0".toList = some Binary64.zero.neg ∧ (fresh 2).TogglesSign := by
  have signed := ((((Reached.fresh 2).press (.digit 3)).press (.operator .plus)).press
    (.digit 5)).press .toggleSign
  have zero := Reached.fresh 2
  exact ⟨⟨_, _, signed, by decide +kernel, by decide +kernel, by decide +kernel,
    signed.togglesSign (by decide +kernel)⟩,
    zero, rfl, rfl, rfl, by decide +kernel, zero.togglesSign rfl⟩

end FieldCalc
