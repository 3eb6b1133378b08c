import FieldCalc.Proofs.Expression.Shape
import FieldCalc.Web.Server

/-!
# Evaluation on request

The answer to a request for the value of a text repeats the text and tells its value, and whether
the cheap test takes it for an expression. Where the text holds a symbol, there is no value that
the test would not allow.
-/

namespace FieldCalc

open Expression

theorem Expression.looksLikeMath_of_value {t : Text} (hsymbol : ∃ c ∈ t, mathChars.contains c = true)
    {x : Binary64} (h : textValue? t = some x) : looksLikeMath t = true := by
  obtain ⟨c, hc, hmath⟩ := hsymbol
  by_contra hlooks
  rw [notMath_of_looksLikeMath (by simpa using hlooks) h c hc] at hmath
  cases hmath

namespace Web

theorem evaluate_eq_ok {body data : Json} (h : evaluate body = .ok data) :
    ∃ expression : LooseText, data = .obj [
      ("expression", .str expression),
      ("result", .orNull ((textValue? expression.toText).map .float)),
      ("valid", .bool (wellShaped expression.toText))] := by
  unfold evaluate at h
  cases body with
  | obj members => exact ⟨_, (Except.ok.inj h).symm⟩
  | null | bool | str | float | int | arr => cases h

theorem ofResult_eq_success {status : Nat} {result : Except Problem Json} {data : Json}
    (h : Response.ofResult status result = .success status data) : result = .ok data := by
  cases result with
  | ok other =>
      simp only [Response.ofResult, Response.success, Response.mk.injEq, Content.json.injEq,
        Json.obj.injEq, List.cons.injEq, Prod.mk.injEq] at h
      rw [h.2.2.1.2]
  | error p => simp [Response.ofResult, Response.success, Response.failure] at h

theorem emptied_ne_success (response : Response) (status : Nat) (data : Json) :
    response.emptied ≠ .success status data := by
  obtain ⟨_, content⟩ := response
  cases content <;> simp [Response.emptied, Response.success]

theorem answer_eq_success {r : Registry} {request : Request} {route : Route}
    (hroute : request.leadsTo = .route route) {status : Nat} {data : Json}
    (h : (answer r request).2 = .success status data) :
    (serve r request.json route).2 = .success status data := by
  simp only [answer, answerTarget, hroute] at h
  split at h
  · exact absurd h (emptied_ne_success _ _ _)
  · exact h

/-- A text that looks like an expression and has a value passes the cheap test. So no answer tells
a value and at once that the test failed, if there is a symbol in the text. -/
theorem evaluation_consistent :
    (∀ t x, looksLikeMath t = true → textValue? t = some x → wellShaped t = true) ∧
    ∀ (r : Registry) request data, request.leadsTo = .route .evaluate →
      (answer r request).2 = .success 200 data →
      ∃ expression result valid,
        data = .obj [("expression", .str expression), ("result", result), ("valid", .bool valid)] ∧
          ((∃ c ∈ expression.toText, mathChars.contains c = true) → result ≠ .null →
            valid = true) := by
  refine ⟨fun t x hmath h => wellShaped_of_value hmath h, ?_⟩
  intro r request data hroute hanswer
  have hresult : (request.json >>= evaluate) = .ok data :=
    ofResult_eq_success (answer_eq_success hroute hanswer)
  obtain ⟨body, -, hevaluate⟩ : ∃ body, request.json = .ok body ∧ evaluate body = .ok data := by
    cases hbody : request.json with
    | ok body =>
        rw [hbody] at hresult
        exact ⟨body, rfl, hresult⟩
    | error p =>
        rw [hbody] at hresult
        cases hresult
  obtain ⟨expression, rfl⟩ := evaluate_eq_ok hevaluate
  refine ⟨expression, _, _, rfl, fun hsymbol hresult => ?_⟩
  cases hvalue : textValue? expression.toText with
  | none =>
      rw [hvalue] at hresult
      exact absurd rfl hresult
  | some x => exact wellShaped_of_value (looksLikeMath_of_value hsymbol hvalue) hvalue

theorem evaluation_consistent_glyphs :
    ∃ x, textValue? "12 × (3 − 1) =".toList = some x ∧ Numeral.read? "24".toList = some x ∧
      wellShaped "12 × (3 − 1) =".toList = true := by
  have hsame : textValue? "12 × (3 − 1) =".toList = Numeral.read? "24".toList := by
    decide +kernel
  have hsome : (Numeral.read? "24".toList).isSome = true := by decide +kernel
  obtain ⟨x, hx⟩ := Option.isSome_iff_exists.mp hsome
  exact ⟨x, hsame.trans hx, hx,
    evaluation_consistent.1 _ x (by decide) (hsame.trans hx)⟩

end Web

end FieldCalc
