import FieldCalc.Proofs.Expression.Lexing
import Mathlib.Data.List.SplitBy

/-!
# Longest runs

A text is cut into tokens at the ends of its longest runs of digits and points. Which these are is
said here without any reading from left to right, and so is which texts can be cut at all. The
other way round, tokens that can be written next to each other are cut apart again.
-/

namespace FieldCalc

/-- A token as it is cut from a text. -/
def Token.IsLexeme : Token → Prop
  | number run => (∀ c ∈ run, isDigit c = true ∨ c = '.') ∧ (∃ c ∈ run, isDigit c = true) ∧
      run.count '.' ≤ 1
  | operator text => ∃ op : Operator, text = op.text
  | openParen text => text = ['(']
  | closeParen text => text = [')']

instance : (token : Token) → Decidable token.IsLexeme
  | .number run => decidable_of_iff
      (run.all (fun c => isDigit c || c == '.') = true ∧ run.any isDigit = true ∧
        run.count '.' ≤ 1)
      (by simp [Token.IsLexeme])
  | .operator text => decidable_of_iff
      (text ∈ [Operator.plus, .minus, .times, .divide].map Operator.text)
      ⟨fun h => by
        obtain ⟨op, -, rfl⟩ := List.mem_map.mp h
        exact ⟨op, rfl⟩,
      fun ⟨op, h⟩ => List.mem_map.mpr ⟨op, by cases op <;> simp, h.symm⟩⟩
  | .openParen text => inferInstanceAs (Decidable (text = ['(']))
  | .closeParen text => inferInstanceAs (Decidable (text = [')']))

namespace Expression

open Token

/-! ## Pieces of a text -/

/-- A run of digits and points that nothing of their kind stands next to. -/
def IsLongestRun (run t : Text) : Prop :=
  ∃ front back, t = front ++ run ++ back ∧ run ≠ [] ∧ (∀ c ∈ run, isNumberChar c = true) ∧
    (∀ c ∈ front.getLast?, isNumberChar c = false) ∧ ∀ c ∈ back.head?, isNumberChar c = false

def together (c d : Char) : Bool := isNumberChar c && isNumberChar d

/-- The longest runs of a text, and its other characters one by one. -/
def pieces (t : Text) : List Text := t.splitBy together

/-- The pieces that are no blanks. -/
def writtenPieces (t : Text) : List Text := (pieces t).filter fun piece => piece.any (!isBlank ·)

theorem pieces_run {run : Text} (ne : run ≠ []) (hchars : ∀ c ∈ run, isNumberChar c = true) :
    pieces run = [run] := by
  refine List.splitBy_of_isChain ne (List.isChain_iff_forall_rel_of_append_cons_cons.mpr ?_)
  rintro c d front back rfl
  simp [together, hchars c (by simp), hchars d (by simp)]

theorem pieces_append {front back : Text}
    (h : (∀ c ∈ front.getLast?, isNumberChar c = false) ∨ ∀ c ∈ back.head?, isNumberChar c = false) :
    pieces (front ++ back) = pieces front ++ pieces back := by
  refine List.splitBy_append fun c hc d hd => ?_
  rcases h with hfront | hback
  · simp [together, hfront c hc]
  · simp [together, hback d hd]

theorem pieces_cons {c : Char} (h : isNumberChar c = false) (rest : Text) :
    pieces (c :: rest) = [c] :: pieces rest := by
  have hsplit := @pieces_append [c] rest (.inl (by simpa using h))
  exact hsplit

theorem isLongestRun_iff {run t : Text} : IsLongestRun run t ↔
    run ∈ pieces t ∧ ∀ c ∈ run, isNumberChar c = true := by
  constructor
  · rintro ⟨front, back, rfl, ne, hchars, hfront, hback⟩
    refine ⟨?_, hchars⟩
    rw [pieces_append (.inr hback), pieces_append (.inl hfront), pieces_run ne hchars]
    simp
  · rintro ⟨hrun, hchars⟩
    obtain ⟨before, after, hpieces⟩ := List.append_of_mem hrun
    have hne : ∀ piece ∈ pieces t, piece ≠ [] := fun _ => List.ne_nil_of_mem_splitBy
    have happart := List.isChain_getLast_head_splitBy together t
    have hwhole := List.flatten_splitBy together t
    rw [← pieces, hpieces] at happart hwhole
    rw [hpieces] at hne
    obtain ⟨-, hafter, hbefore⟩ := List.isChain_append.mp happart
    refine ⟨before.flatten, after.flatten, ?_, hne run (by simp), hchars, ?_, ?_⟩
    · rw [← hwhole]
      simp
    · intro c hc
      obtain ⟨init, last, rfl⟩ := (List.eq_nil_or_concat' before).resolve_left (by
        rintro rfl
        cases hc)
      obtain ⟨hlast, hhead, hrel⟩ := hbefore last List.getLast?_concat run rfl
      rw [List.flatten_concat, List.getLast?_append_of_ne_nil _ hlast] at hc
      obtain ⟨_, rfl⟩ := List.mem_getLast?_eq_getLast hc
      simpa [together, hchars _ (List.head_mem hhead)] using hrel
    · intro c hc
      cases after with
      | nil => cases hc
      | cons next more =>
          obtain ⟨hlast, hhead, hrel⟩ := (List.isChain_cons_cons.mp hafter).1
          rw [List.flatten_cons, List.head?_append_of_ne_nil _ hhead] at hc
          rw [← List.head_of_mem_head? hc]
          simpa [together, hchars _ (List.getLast_mem hlast)] using hrel

theorem isLongestRun_cons {c : Char} (h : isNumberChar c = false) {run rest : Text} :
    IsLongestRun run (c :: rest) ↔ IsLongestRun run rest := by
  rw [isLongestRun_iff, isLongestRun_iff, pieces_cons h, List.mem_cons, and_congr_left_iff]
  intro hchars
  refine or_iff_right ?_
  rintro rfl
  rw [hchars c List.mem_cons_self] at h
  cases h

theorem isLongestRun_append {first rest : Text} (ne : first ≠ [])
    (hchars : ∀ c ∈ first, isNumberChar c = true)
    (hrest : ∀ c ∈ rest.head?, isNumberChar c = false) {run : Text} :
    IsLongestRun run (first ++ rest) ↔ run = first ∨ IsLongestRun run rest := by
  rw [isLongestRun_iff, isLongestRun_iff, pieces_append (.inr hrest), pieces_run ne hchars,
    List.singleton_append, List.mem_cons, or_and_right, and_iff_left_of_imp]
  rintro rfl
  exact hchars

/-! ## Which texts can be cut -/

structure CanBeCut (t : Text) : Prop where
  known : ∀ c ∈ t, isBlank c = true ∨ isDigit c = true ∨ c = '.' ∨ c ∈ "()+-*/".toList
  runs : ∀ run, IsLongestRun run t → run.count '.' ≤ 1 ∧ run ≠ ['.']

theorem isNumberChar_iff {c : Char} : isNumberChar c = true ↔ isDigit c = true ∨ c = '.' := by
  simp [isNumberChar]

theorem isNumberRun_iff {run : Text} :
    isNumberRun run = true ↔ run.count '.' ≤ 1 ∧ run ≠ ['.'] := by
  simp [isNumberRun]

theorem exists_symbolToken {c : Char} (h : c ∈ "()+-*/".toList) :
    ∃ token, symbolToken? c = some token := by
  have hall : "()+-*/".toList.all (fun c => (symbolToken? c).isSome) = true := by decide
  exact Option.isSome_iff_exists.mp (List.all_eq_true.mp hall c h)

theorem canBeCut_nil : CanBeCut [] where
  known := nofun
  runs _ hrun := absurd (isLongestRun_iff.mp hrun).1 List.not_mem_nil

theorem canBeCut_cons {c : Char} (h : isNumberChar c = false) {rest : Text} :
    CanBeCut (c :: rest) ↔ (isBlank c = true ∨ c ∈ "()+-*/".toList) ∧ CanBeCut rest := by
  have hother : ¬(isDigit c = true ∨ c = '.') := fun hc => by
    rw [isNumberChar_iff.mpr hc] at h
    cases h
  constructor
  · intro hcut
    refine ⟨?_, fun d hd => hcut.known d (List.mem_cons_of_mem c hd),
      fun run hrun => hcut.runs run ((isLongestRun_cons h).mpr hrun)⟩
    rcases hcut.known c List.mem_cons_self with hblank | hdigit | hpoint | hsymbol
    · exact .inl hblank
    · exact absurd (.inl hdigit) hother
    · exact absurd (.inr hpoint) hother
    · exact .inr hsymbol
  · rintro ⟨hc, hcut⟩
    refine ⟨fun d hd => ?_, fun run hrun => hcut.runs run ((isLongestRun_cons h).mp hrun)⟩
    rcases List.mem_cons.mp hd with rfl | hd
    · exact hc.imp_right fun hsymbol => .inr (.inr hsymbol)
    · exact hcut.known d hd

theorem canBeCut_append {run rest : Text} (ne : run ≠ [])
    (hchars : ∀ c ∈ run, isNumberChar c = true)
    (hrest : ∀ c ∈ rest.head?, isNumberChar c = false) :
    CanBeCut (run ++ rest) ↔ isNumberRun run = true ∧ CanBeCut rest := by
  have hlongest := fun other => @isLongestRun_append run rest ne hchars hrest other
  constructor
  · intro hcut
    exact ⟨isNumberRun_iff.mpr (hcut.runs run ((hlongest run).mpr (.inl rfl))),
      fun c hc => hcut.known c (List.mem_append_right run hc),
      fun other hother => hcut.runs other ((hlongest other).mpr (.inr hother))⟩
  · rintro ⟨hrun, hcut⟩
    refine ⟨fun c hc => ?_, fun other hother => ?_⟩
    · rcases List.mem_append.mp hc with hc | hc
      · exact .inr ((isNumberChar_iff.mp (hchars c hc)).imp_right .inl)
      · exact hcut.known c hc
    · rcases (hlongest other).mp hother with rfl | hother
      · exact isNumberRun_iff.mp hrun
      · exact hcut.runs other hother

theorem exists_bind_pure {token : Token} {x : Except ExpressionError (List Token)} :
    (∃ tokens, (do let more ← x; pure (token :: more)) = .ok tokens) ↔ ∃ more, x = .ok more := by
  constructor
  · rintro ⟨tokens, h⟩
    obtain ⟨more, hmore, -⟩ := bind_pure_eq_ok h
    exact ⟨more, hmore⟩
  · rintro ⟨more, rfl⟩
    exact ⟨_, rfl⟩

theorem exists_lex_iff (t : Text) : (∃ tokens, lex t = .ok tokens) ↔ CanBeCut t := by
  fun_induction lex t with
  | case1 => exact iff_of_true ⟨_, rfl⟩ canBeCut_nil
  | case2 c rest hblank ih =>
      rw [ih, canBeCut_cons (notNumberChar_of_isBlank hblank), and_iff_right (.inl hblank)]
  | case3 c rest hblank hnumber run hrun =>
      rename_i ih
      obtain ⟨hsplit, hchars, hends⟩ := firstRun_spec hnumber rest
      rw [exists_bind_pure, ih, hsplit, canBeCut_append (List.cons_ne_nil _ _) hchars hends,
        and_iff_right hrun]
  | case4 c rest hblank hnumber run hrun =>
      obtain ⟨hsplit, hchars, hends⟩ := firstRun_spec hnumber rest
      rw [hsplit, canBeCut_append (List.cons_ne_nil _ _) hchars hends]
      exact iff_of_false (by simp) fun hcut => hrun hcut.1
  | case5 c rest hblank hnumber token htoken ih =>
      rw [exists_bind_pure, ih, canBeCut_cons (by simpa using hnumber),
        and_iff_right (.inr (symbolToken?_eq_some htoken).1)]
  | case6 c rest hblank hnumber hnone =>
      rw [canBeCut_cons (by simpa using hnumber)]
      refine iff_of_false (by simp) fun hcut => ?_
      rcases hcut.1 with hc | hsymbol
      · exact hblank hc
      · obtain ⟨token, htoken⟩ := exists_symbolToken hsymbol
        rw [hnone] at htoken
        cases htoken

/-! ## The tokens that are cut -/

theorem isLexeme_number_iff {run : Text} : (number run).IsLexeme ↔
    run ≠ [] ∧ (∀ c ∈ run, isNumberChar c = true) ∧ isNumberRun run = true := by
  simp only [IsLexeme, ← isNumberChar_iff, isNumberRun_iff]
  constructor
  · rintro ⟨hchars, ⟨c, hc, hdigit⟩, hcount⟩
    refine ⟨List.ne_nil_of_mem hc, hchars, hcount, ?_⟩
    rintro rfl
    obtain rfl := List.mem_singleton.mp hc
    exact absurd hdigit (by decide)
  · rintro ⟨ne, hchars, hcount, hpoint⟩
    refine ⟨hchars, ?_, hcount⟩
    by_contra hnone
    -- With points alone there is only one of them.
    have hpoints : ∀ c ∈ run, c = '.' := fun c hc =>
      (isNumberChar_iff.mp (hchars c hc)).resolve_left fun hdigit => hnone ⟨c, hc, hdigit⟩
    have hall := List.eq_replicate_of_mem hpoints
    rw [hall, List.count_replicate_self] at hcount
    have hlength := List.length_pos_iff.mpr ne
    rw [show run.length = 1 by omega] at hall
    exact hpoint hall

theorem isLexeme_symbol {c : Char} {token : Token} (h : symbolToken? c = some token) :
    token.IsLexeme := by
  unfold symbolToken? at h
  split at h
  · cases h
    rfl
  · split at h
    · cases h
      rfl
    · obtain ⟨op, -, rfl⟩ := Option.map_eq_some_iff.mp h
      exact ⟨op, rfl⟩

theorem exists_symbol {token : Token} (h : token.IsLexeme) (hnumber : token.isNumber = false) :
    ∃ c, token.text = [c] ∧ symbolToken? c = some token := by
  cases token with
  | number _ => cases hnumber
  | operator text =>
      obtain ⟨op, rfl⟩ := h
      exact ⟨op.symbol, rfl, by cases op <;> rfl⟩
  | openParen text =>
      cases h
      exact ⟨'(', rfl, rfl⟩
  | closeParen text =>
      cases h
      exact ⟨')', rfl, rfl⟩

namespace Lexed

variable {t : Text} {tokens : List Token}

theorem isLexeme (h : Lexed t tokens) : ∀ token ∈ tokens, token.IsLexeme := by
  induction h with
  | nil => nofun
  | blank _ _ ih => exact ih
  | number ne chars isRun _ _ ih =>
      exact List.forall_mem_cons.mpr ⟨isLexeme_number_iff.mpr ⟨ne, chars, isRun⟩, ih⟩
  | symbol named _ ih => exact List.forall_mem_cons.mpr ⟨isLexeme_symbol named, ih⟩

/-- There is one token for every longest run and one for every symbol. -/
theorem texts_eq (h : Lexed t tokens) :
    tokens.map Token.text = writtenPieces t := by
  unfold writtenPieces
  induction h with
  | nil => rfl
  | @blank c rest tokens hblank _ ih =>
      rw [pieces_cons (notNumberChar_of_isBlank hblank), List.filter_cons,
        if_neg (by simpa using hblank), ih]
  | @number run rest tokens ne chars _ ends _ ih =>
      obtain ⟨c, hc⟩ := List.exists_mem_of_ne_nil run ne
      have hkept : run.any (!isBlank ·) = true :=
        List.any_eq_true.mpr ⟨c, hc, by simp [notBlank_of_isNumberChar (chars c hc)]⟩
      rw [pieces_append (.inr ends), pieces_run ne chars, List.singleton_append,
        List.filter_cons, if_pos hkept, ← ih]
      rfl
  | @symbol c rest token tokens named _ ih =>
      obtain ⟨hsymbol, htext, -⟩ := symbolToken?_eq_some named
      obtain ⟨hblank, hnumber⟩ := apart_of_symbol hsymbol
      rw [pieces_cons hnumber, List.filter_cons, if_pos (by simpa using hblank), ← ih, ← htext]
      rfl

end Lexed

/-! ## Writing tokens next to each other -/

def NumbersApart (tokens : List Token) : Prop :=
  tokens.IsChain fun token next => token.isNumber = true → next.isNumber = false

instance (tokens : List Token) : Decidable (NumbersApart tokens) :=
  inferInstanceAs (Decidable (tokens.IsChain _))

theorem lexed_textOf {tokens : List Token} (hlexemes : ∀ token ∈ tokens, token.IsLexeme)
    (happart : NumbersApart tokens) : Lexed (textOf tokens) tokens := by
  induction tokens with
  | nil => exact .nil
  | cons token rest ih =>
      obtain ⟨htoken, hrest⟩ := List.forall_mem_cons.mp hlexemes
      have hmore := ih hrest happart.of_cons
      rw [textOf_cons]
      cases hnumber : token.isNumber with
      | false =>
          obtain ⟨c, htext, hnamed⟩ := exists_symbol htoken hnumber
          rw [htext]
          exact .symbol hnamed hmore
      | true =>
          cases token with
          | operator _ | openParen _ | closeParen _ => cases hnumber
          | number run =>
              obtain ⟨ne, hchars, hrun⟩ := isLexeme_number_iff.mp htoken
              refine .number ne hchars hrun (fun c hc => ?_) hmore
              -- What follows a number starts with a symbol.
              cases rest with
              | nil => cases hc
              | cons next more =>
                  have hnext := (List.isChain_cons_cons.mp happart).1 rfl
                  obtain ⟨d, htext, hnamed⟩ := exists_symbol (hrest next List.mem_cons_self) hnext
                  rw [textOf_cons, htext] at hc
                  cases hc
                  exact (apart_of_symbol (symbolToken?_eq_some hnamed).1).2

theorem untouched_of_isNumberChar {c : Char} (h : isNumberChar c = true) :
    isBlank c = false ∧ Operator.plainGlyph c = c ∧ c ≠ ',' ∧ c ≠ '=' := by
  obtain ⟨hglyph, hequals, -⟩ := untouched_of_notMath (notMath_of_isNumberChar h)
  refine ⟨notBlank_of_isNumberChar h, hglyph, ?_, hequals⟩
  rintro rfl
  exact absurd h (by decide)

theorem untouched_of_symbol {c : Char} (h : c ∈ "()+-*/".toList) :
    isBlank c = false ∧ Operator.plainGlyph c = c ∧ c ≠ ',' ∧ c ≠ '=' := by
  have hall : "()+-*/".toList.all
      (fun c => !isBlank c && Operator.plainGlyph c == c && c != ',' && c != '=') = true := by
    decide
  simpa [and_assoc] using List.all_eq_true.mp hall c h

theorem untouched_of_mem_textOf {tokens : List Token} (h : ∀ token ∈ tokens, token.IsLexeme) :
    ∀ c ∈ textOf tokens, isBlank c = false ∧ Operator.plainGlyph c = c ∧ c ≠ ',' ∧ c ≠ '=' := by
  intro c hc
  obtain ⟨token, htoken, hc⟩ := List.mem_flatMap.mp hc
  cases hnumber : token.isNumber with
  | false =>
      obtain ⟨d, htext, hnamed⟩ := exists_symbol (h token htoken) hnumber
      rw [htext] at hc
      obtain rfl := List.mem_singleton.mp hc
      exact untouched_of_symbol (symbolToken?_eq_some hnamed).1
  | true =>
      cases token with
      | operator _ | openParen _ | closeParen _ => cases hnumber
      | number run =>
          exact untouched_of_isNumberChar ((isLexeme_number_iff.mp (h _ htoken)).2.1 c hc)

theorem trim_textOf {tokens : List Token} (h : ∀ token ∈ tokens, token.IsLexeme) :
    (textOf tokens).trim = textOf tokens :=
  Text.trimBy_of_all_not fun c hc => (untouched_of_mem_textOf h c hc).1

theorem tidy_textOf {tokens : List Token} (h : ∀ token ∈ tokens, token.IsLexeme) :
    tidy (textOf tokens) = textOf tokens :=
  tidy_of_untouched (trim_textOf h) fun c hc => (untouched_of_mem_textOf h c hc).2

/-! ## Cutting typed text -/

/-- How a typed text is cut into tokens. -/
structure CutsExactly (t : Text) : Prop where
  ok_iff : (∃ tokens, tokenize t = .ok tokens) ↔ CanBeCut (tidy t)
  error : ∀ e, tokenize t = .error e → e.isMalformed = true
  texts : ∀ tokens, tokenize t = .ok tokens → tokens.map Token.text = writtenPieces (tidy t)
  lexemes : ∀ tokens, tokenize t = .ok tokens → ∀ token ∈ tokens, token.IsLexeme
  joined : ∀ tokens, tokenize t = .ok tokens → textOf tokens = (tidy t).filter (!isBlank ·)

/-- A tidy text is cut into its longest runs and its symbols, with nothing lost but blanks, unless
it holds another character or a run that is no number. Tokens that are written next to each other
are cut apart again, if no two numbers run together. -/
theorem tokenize_exact : (∀ t, CutsExactly t) ∧
    ∀ tokens, (∀ token ∈ tokens, token.IsLexeme) → NumbersApart tokens →
      tokenize (textOf tokens) = .ok tokens := by
  constructor
  · intro t
    exact {
      ok_iff := exists_lex_iff (tidy t)
      error := fun _ => isMalformed_of_lex
      texts := fun _ h => (lexed_of_lex h).texts_eq
      lexemes := fun _ h => (lexed_of_lex h).isLexeme
      joined := fun _ h => (lexed_of_lex h).textOf_eq }
  · intro tokens hlexemes happart
    rw [tokenize, tidy_textOf hlexemes]
    exact lex_eq_ok_iff.mpr (lexed_textOf hlexemes happart)

theorem tokenize_exact_scripts :
    let tokens := [number "12.".toList, ofOperator .times, opening, number "٣".toList,
      ofOperator .minus, number "²".toList, closing]
    tokenize (textOf tokens) = .ok tokens :=
  tokenize_exact.2 _ (by decide +kernel) (by decide)

end Expression

end FieldCalc
