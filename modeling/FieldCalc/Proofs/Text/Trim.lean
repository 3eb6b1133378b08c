import FieldCalc.Text.Basic
import Mathlib.Data.List.Basic
import Mathlib.Data.List.DropRight

/-!
# Trimming

What trimming leaves of a text, and where it cuts nothing.
-/

namespace FieldCalc.Text

variable {drop : Char → Bool}

theorem trimEndBy_eq (t : Text) : trimEndBy drop t = t.rdropWhile drop := rfl

theorem trimEndBy_isPrefix (t : Text) : trimEndBy drop t <+: t := List.rdropWhile_prefix drop t

theorem mem_of_mem_trimEndBy {t : Text} {c : Char} (h : c ∈ trimEndBy drop t) : c ∈ t :=
  (trimEndBy_isPrefix t).subset h

theorem trimEndBy_of_all_not {t : Text} (h : ∀ c ∈ t, drop c = false) : trimEndBy drop t = t := by
  rcases List.eq_nil_or_concat' t with rfl | ⟨init, c, rfl⟩
  · rfl
  · exact trimEndBy_concat_of_not (h c (by simp)) init

/-- Nothing is cut from a character on that is to stay. -/
theorem trimEndBy_append_cons {c : Char} (h : drop c = false) (front back : Text) :
    trimEndBy drop (front ++ c :: back) = front ++ c :: trimEndBy drop back := by
  induction back using List.reverseRecOn with
  | nil => exact trimEndBy_concat_of_not h front
  | append_singleton init d ih =>
      have hassoc : front ++ c :: (init ++ [d]) = (front ++ c :: init) ++ [d] := by simp
      rw [hassoc]
      cases hd : drop d with
      | false => rw [trimEndBy_concat_of_not hd, trimEndBy_concat_of_not hd, hassoc]
      | true => rw [trimEndBy_concat_of hd, trimEndBy_concat_of hd, ih]

theorem trimBy_of_all_not {t : Text} (h : ∀ c ∈ t, drop c = false) : trimBy drop t = t := by
  have hfront : t.dropWhile drop = t := by
    cases t with
    | nil => rfl
    | cons c rest => simp [h c List.mem_cons_self]
  have htrim : trimBy drop t = trimEndBy drop (t.dropWhile drop) := rfl
  rw [htrim, hfront, trimEndBy_of_all_not h]

theorem trimBy_isInfix (t : Text) : trimBy drop t <:+: t :=
  (trimEndBy_isPrefix (t.dropWhile drop)).isInfix.trans (List.dropWhile_suffix drop).isInfix

/-- Nothing is left to trim at either end of a text that trimming does not change. -/
theorem ends_of_trimBy_eq {t : Text} (h : trimBy drop t = t) :
    (∀ c ∈ t.head?, drop c = false) ∧ ∀ c ∈ t.getLast?, drop c = false := by
  have hprefix : t <+: t.dropWhile drop := by
    have := @trimEndBy_isPrefix drop (t.dropWhile drop)
    rwa [show trimEndBy drop (t.dropWhile drop) = t from h] at this
  have hfront : t.dropWhile drop = t :=
    (List.dropWhile_suffix drop).eq_of_length_le hprefix.length_le
  have hback : t.rdropWhile drop = t := by
    rw [← trimEndBy_eq]
    exact (congrArg (trimEndBy drop) hfront).symm.trans h
  constructor
  · intro c hc
    have := List.head?_dropWhile_not drop t
    rw [hfront, hc] at this
    exact this
  · intro c hc
    obtain ⟨hne, rfl⟩ := List.mem_getLast?_eq_getLast hc
    have hlast := List.rdropWhile_last_not drop t (by rwa [hback])
    simpa [hback] using hlast

theorem trimBy_trimBy (t : Text) : trimBy drop (trimBy drop t) = trimBy drop t := by
  have htrim : ∀ s, trimBy drop s = trimEndBy drop (s.dropWhile drop) := fun _ => rfl
  have hfront : (trimEndBy drop (t.dropWhile drop)).dropWhile drop =
      trimEndBy drop (t.dropWhile drop) := by
    have hprefix : trimEndBy drop (t.dropWhile drop) <+: t.dropWhile drop := trimEndBy_isPrefix _
    obtain ⟨back, hback⟩ := hprefix
    cases hkept : trimEndBy drop (t.dropWhile drop) with
    | nil => rfl
    | cons c rest =>
        have hhead : (t.dropWhile drop).head? = some c := by rw [← hback, hkept]; rfl
        have hc := List.head?_dropWhile_not drop t
        rw [hhead] at hc
        simp_all
  rw [htrim t, htrim, hfront, trimEndBy_eq, trimEndBy_eq, List.rdropWhile_idempotent]

end FieldCalc.Text
