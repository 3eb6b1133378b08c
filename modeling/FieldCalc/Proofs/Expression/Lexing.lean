import FieldCalc.Expression.Shape
import FieldCalc.Proofs.Decimal.Sign
import FieldCalc.Proofs.Expression.Phrase

/-!
# How a text is cut into tokens

A text is cut into tokens just where it is made of blanks, symbols and runs of digits and points
that nothing of their kind follows. What is left of it without the blanks is the text of its
tokens.
-/

namespace FieldCalc.Expression

open Token

/-! ## Characters -/

theorem notBlank_of_isNumberChar {c : Char} (h : isNumberChar c = true) : isBlank c = false := by
  rcases Bool.or_eq_true_iff.mp h with hdigit | hpoint
  · exact notBlank_of_isDigit hdigit
  · rw [beq_iff_eq.mp hpoint]
    decide

theorem notNumberChar_of_isBlank {c : Char} (h : isBlank c = true) : isNumberChar c = false := by
  by_contra hnumber
  rw [notBlank_of_isNumberChar (by simpa using hnumber)] at h
  cases h

theorem symbolToken?_eq_some {c : Char} {token : Token} (h : symbolToken? c = some token) :
    c ∈ "()+-*/".toList ∧ token.text = [c] ∧ token.isNumber = false := by
  unfold symbolToken? at h
  split at h
  · next hc =>
      cases h
      exact ⟨by rw [hc]; decide, by rw [hc]; rfl, rfl⟩
  · split at h
    · next hc =>
        cases h
        exact ⟨by rw [hc]; decide, by rw [hc]; rfl, rfl⟩
    · obtain ⟨op, hop, rfl⟩ := Option.map_eq_some_iff.mp h
      rw [← Operator.symbol_of_ofChar? hop]
      exact ⟨by cases op <;> decide, rfl, rfl⟩

theorem apart_of_symbol {c : Char} (h : c ∈ "()+-*/".toList) :
    isBlank c = false ∧ isNumberChar c = false := by
  have hall : "()+-*/".toList.all (fun c => !isBlank c && !isNumberChar c) = true := by decide
  simpa using List.all_eq_true.mp hall c h

/-! ## Cutting off one token -/

/-- A run is cut off whole where no digit or point follows it. -/
theorem lex_run {run rest : Text} (ne : run ≠ []) (hchars : ∀ c ∈ run, isNumberChar c = true)
    (hrun : isNumberRun run = true) (hrest : ∀ c ∈ rest.head?, isNumberChar c = false) :
    lex (run ++ rest) = (lex rest).map (number run :: ·) := by
  obtain ⟨c, more, rfl⟩ := List.exists_cons_of_ne_nil ne
  have hmore : ∀ d ∈ more, isNumberChar d = true :=
    fun d hd => hchars d (List.mem_cons_of_mem c hd)
  have hnone : rest.takeWhile isNumberChar = [] ∧ rest.dropWhile isNumberChar = rest := by
    cases rest with
    | nil => exact ⟨rfl, rfl⟩
    | cons d after => simp [hrest d rfl]
  have htake : (more ++ rest).takeWhile isNumberChar = more := by
    rw [List.takeWhile_append_of_pos hmore, hnone.1, List.append_nil]
  have hdrop : (more ++ rest).dropWhile isNumberChar = rest := by
    rw [List.dropWhile_append_of_pos hmore, hnone.2]
  have hc := hchars c List.mem_cons_self
  rw [List.cons_append, lex, notBlank_of_isNumberChar hc, hc]
  simp only [Bool.false_eq_true, if_false, if_true, htake, hdrop, hrun]
  cases lex rest <;> rfl

theorem lex_symbol {c : Char} {token : Token} (rest : Text) (h : symbolToken? c = some token) :
    lex (c :: rest) = (lex rest).map (token :: ·) := by
  obtain ⟨hblank, hnumber⟩ := apart_of_symbol (symbolToken?_eq_some h).1
  rw [lex, hblank, hnumber, h]
  simp only [Bool.false_eq_true, if_false]
  cases lex rest <;> rfl

theorem lex_blank {c : Char} (rest : Text) (h : isBlank c = true) :
    lex (c :: rest) = lex rest := by
  rw [lex, if_pos h]

/-! ## Tidying -/

theorem tidy_of_untouched {t : Text} (htrim : t.trim = t)
    (h : ∀ c ∈ t, Operator.plainGlyph c = c ∧ c ≠ ',' ∧ c ≠ '=') : tidy t = t := by
  have hmap : t.map Operator.plainGlyph = t :=
    (List.map_congr_left fun c hc => (h c hc).1).trans t.map_id
  have hfilter : t.filter (· != ',') = t := by
    refine List.filter_eq_self.mpr fun c hc => ?_
    simpa using (h c hc).2.1
  unfold tidy
  rw [htrim, hmap, hfilter, dropEquals, if_neg]
  intro hlast
  exact (h '=' (List.mem_of_getLast? hlast)).2.2 rfl

theorem exists_glyph_of_mem_tidy {t : Text} {d : Char} (h : d ∈ tidy t) :
    ∃ c ∈ t, Operator.plainGlyph c = d := by
  have hcleaned : d ∈ (t.trim.map Operator.plainGlyph).filter (· != ',') := by
    unfold tidy dropEquals at h
    split at h
    · exact List.dropLast_subset _ h
    · exact h
  obtain ⟨c, hc, rfl⟩ := List.mem_map.mp (List.mem_filter.mp hcleaned).1
  exact ⟨c, (Text.trimBy_isInfix t).subset hc, rfl⟩

theorem untouched_of_notMath {c : Char} (h : mathChars.contains c = false) :
    Operator.plainGlyph c = c ∧ c ≠ '=' ∧ c ∉ "()+-*/".toList := by
  have hmath : ∀ d ∈ mathChars, c ≠ d := by
    rintro d hd rfl
    rw [List.contains_iff_mem.mpr hd] at h
    cases h
  refine ⟨?_, hmath '=' (by decide), fun hc => ?_⟩
  · unfold Operator.plainGlyph
    split
    · exact absurd rfl (hmath '×' (by decide))
    · exact absurd rfl (hmath '÷' (by decide))
    · exact absurd rfl (hmath '−' (by decide))
    · rfl
  · have hall : "()+-*/".toList.all mathChars.contains = true := by decide
    exact hmath c (List.contains_iff_mem.mp (List.all_eq_true.mp hall c hc)) rfl

theorem notMath_of_isNumberChar {c : Char} (h : isNumberChar c = true) :
    mathChars.contains c = false := by
  have hnone : mathChars.all (fun d => !isNumberChar d) = true := by decide
  rw [Bool.eq_false_iff]
  intro hmem
  have hc := List.all_eq_true.mp hnone c (List.contains_iff_mem.mp hmem)
  rw [h] at hc
  contradiction

theorem notMath_of_isDecimalDigit {c : Char} (h : isDecimalDigit c = true) :
    mathChars.contains c = false :=
  notMath_of_isNumberChar (by simp [isNumberChar, isDigit, h])

/-! ## Whole texts -/

inductive Lexed : Text → List Token → Prop where
  | nil : Lexed [] []
  | blank {c : Char} {rest : Text} {tokens : List Token} (isBlank : isBlank c = true)
      (more : Lexed rest tokens) : Lexed (c :: rest) tokens
  | number {run rest : Text} {tokens : List Token} (ne : run ≠ [])
      (chars : ∀ c ∈ run, isNumberChar c = true) (isRun : isNumberRun run = true)
      (ends : ∀ c ∈ rest.head?, isNumberChar c = false) (more : Lexed rest tokens) :
      Lexed (run ++ rest) (.number run :: tokens)
  | symbol {c : Char} {rest : Text} {token : Token} {tokens : List Token}
      (named : symbolToken? c = some token) (more : Lexed rest tokens) :
      Lexed (c :: rest) (token :: tokens)

theorem bind_pure_eq_ok {token : Token} {x : Except ExpressionError (List Token)}
    {tokens : List Token} (h : (do let more ← x; pure (token :: more)) = .ok tokens) :
    ∃ more, x = .ok more ∧ tokens = token :: more := by
  cases x with
  | error e => cases h
  | ok more =>
      cases h
      exact ⟨more, rfl, rfl⟩

/-- The first run of a text that starts with a digit or a point. -/
theorem firstRun_spec {c : Char} (h : isNumberChar c = true) (rest : Text) :
    c :: rest = (c :: rest.takeWhile isNumberChar) ++ rest.dropWhile isNumberChar ∧
      (∀ d ∈ c :: rest.takeWhile isNumberChar, isNumberChar d = true) ∧
        ∀ d ∈ (rest.dropWhile isNumberChar).head?, isNumberChar d = false := by
  refine ⟨by rw [List.cons_append, List.takeWhile_append_dropWhile], fun d hd => ?_, fun d hd => ?_⟩
  · rcases List.mem_cons.mp hd with rfl | hd
    · exact h
    · exact List.mem_takeWhile_imp hd
  · have hstop := List.head?_dropWhile_not isNumberChar rest
    rw [hd] at hstop
    exact hstop

theorem lexed_of_lex {t : Text} {tokens : List Token} (h : lex t = .ok tokens) :
    Lexed t tokens := by
  fun_induction lex t generalizing tokens with
  | case1 =>
      cases h
      exact .nil
  | case2 c rest hblank ih => exact .blank hblank (ih h)
  | case3 c rest hblank hnumber run hrun =>
      rename_i ih
      obtain ⟨more, hmore, rfl⟩ := bind_pure_eq_ok h
      obtain ⟨hsplit, hchars, hends⟩ := firstRun_spec hnumber rest
      rw [hsplit]
      exact .number (List.cons_ne_nil _ _) hchars hrun hends (ih hmore)
  | case4 => cases h
  | case5 c rest hblank hnumber token htoken ih =>
      obtain ⟨more, hmore, rfl⟩ := bind_pure_eq_ok h
      exact .symbol htoken (ih hmore)
  | case6 => cases h

theorem lex_eq_ok_iff {t : Text} {tokens : List Token} : lex t = .ok tokens ↔ Lexed t tokens := by
  refine ⟨lexed_of_lex, fun h => ?_⟩
  induction h with
  | nil => rw [lex]
  | blank hblank _ ih => rw [lex_blank _ hblank, ih]
  | number ne chars isRun ends _ ih =>
      rw [lex_run ne chars isRun ends, ih]
      rfl
  | symbol named _ ih =>
      rw [lex_symbol _ named, ih]
      rfl

theorem isMalformed_of_lex {t : Text} {e : ExpressionError} (h : lex t = .error e) :
    e.isMalformed = true := by
  fun_induction lex t with
  | case1 => cases h
  | case2 _ _ _ ih => exact ih h
  | case3 c rest _ _ run _ =>
      rename_i ih
      cases hmore : lex (rest.dropWhile isNumberChar) with
      | error other =>
          rw [hmore] at h
          cases h
          exact ih hmore
      | ok more =>
          rw [hmore] at h
          cases h
  | case4 =>
      cases h
      rfl
  | case5 c rest _ _ token _ ih =>
      cases hmore : lex rest with
      | error other =>
          rw [hmore] at h
          cases h
          exact ih hmore
      | ok more =>
          rw [hmore] at h
          cases h
  | case6 =>
      cases h
      rfl

namespace Lexed

variable {t : Text} {tokens : List Token}

theorem textOf_eq (h : Lexed t tokens) : textOf tokens = t.filter (!isBlank ·) := by
  induction h with
  | nil => rfl
  | blank hblank _ ih => simp [ih, hblank]
  | @number run rest tokens ne chars isRun ends _ ih =>
      have hkept : run.filter (!isBlank ·) = run :=
        List.filter_eq_self.mpr fun c hc => by simp [notBlank_of_isNumberChar (chars c hc)]
      rw [textOf_cons, ih, List.filter_append, hkept]
      rfl
  | @symbol c rest token tokens named _ ih =>
      obtain ⟨hsymbol, htext, -⟩ := symbolToken?_eq_some named
      simp [ih, htext, (apart_of_symbol hsymbol).1]

/-- A text without operators and parentheses has no tokens but numbers. -/
theorem isNumber_of_mem (h : Lexed t tokens) (hsymbol : ∀ c ∈ t, c ∉ "()+-*/".toList) :
    ∀ token ∈ tokens, token.isNumber = true := by
  induction h with
  | nil => nofun
  | blank _ _ ih => exact ih fun c hc => hsymbol c (List.mem_cons_of_mem _ hc)
  | number _ _ _ _ _ ih =>
      intro token htoken
      rcases List.mem_cons.mp htoken with rfl | htoken
      · rfl
      · exact ih (fun c hc => hsymbol c (List.mem_append_right _ hc)) token htoken
  | symbol named _ _ =>
      exact absurd (symbolToken?_eq_some named).1 (hsymbol _ List.mem_cons_self)

theorem exists_numberChar (h : Lexed t tokens) {run : Text} (hrun : .number run ∈ tokens) :
    ∃ c ∈ t, isNumberChar c = true := by
  induction h with
  | nil => cases hrun
  | blank _ _ ih =>
      obtain ⟨c, hc, hnumber⟩ := ih hrun
      exact ⟨c, List.mem_cons_of_mem _ hc, hnumber⟩
  | @number first rest tokens ne chars _ _ _ _ =>
      obtain ⟨c, more, rfl⟩ := List.exists_cons_of_ne_nil ne
      exact ⟨c, List.mem_append_left _ List.mem_cons_self, chars c List.mem_cons_self⟩
  | @symbol c rest token tokens named _ ih =>
      rcases List.mem_cons.mp hrun with rfl | hrun
      · cases (symbolToken?_eq_some named).2.2
      · obtain ⟨d, hd, hnumber⟩ := ih hrun
        exact ⟨d, List.mem_cons_of_mem _ hd, hnumber⟩

/-- Every operator among the tokens is one of the four. -/
theorem exists_operator (h : Lexed t tokens) {text : Text} (htext : .operator text ∈ tokens) :
    ∃ op : Operator, text = op.text := by
  induction h with
  | nil => cases htext
  | blank _ _ ih => exact ih htext
  | number _ _ _ _ _ ih => exact ih (List.mem_of_ne_of_mem (by simp) htext)
  | @symbol c rest token tokens named _ ih =>
      rcases List.mem_cons.mp htext with rfl | htext
      · unfold symbolToken? at named
        split at named
        · cases named
        · split at named
          · cases named
          · obtain ⟨op, -, hop⟩ := Option.map_eq_some_iff.mp named
            exact ⟨op, (Token.operator.inj hop).symm⟩
      · exact ih htext

end Lexed

end FieldCalc.Expression
