import FieldCalc.Text.Quoted

/-!
Kinds of texts that tokens may be made from. What is typed is made from texts, and what a host
hands over may be made from loose texts. A loose text that is no text spells no numeral and no
symbol, and so the evaluator asks a token for its text and goes by that.
-/

namespace FieldCalc

/-- A kind of text that holds every text and may hold more. -/
class Wording (τ : Type) where
  ofText : Text → τ
  text? : τ → Option Text
  /-- How messages show it. -/
  quoted : τ → Text
  text?_eq_some {t : τ} {u : Text} : text? t = some u ↔ t = ofText u
  quoted_ofText (t : Text) : quoted (ofText t) = t.quoted

namespace Wording

instance : Wording Text where
  ofText t := t
  text? := some
  quoted := Text.quoted
  text?_eq_some := Option.some_inj
  quoted_ofText _ := rfl

instance : Wording LooseText where
  ofText := LooseText.ofText
  text? := LooseText.text?
  quoted := LooseText.quoted
  text?_eq_some := LooseText.text?_eq_some
  quoted_ofText := LooseText.quoted_ofText

@[simp] theorem text?_ofText {τ : Type} [Wording τ] (t : Text) : text? (ofText t : τ) = some t :=
  text?_eq_some.mpr rfl

end Wording

end FieldCalc
