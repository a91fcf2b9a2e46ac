import Mathlib.Data.List.DropRight
import Mathlib.Data.List.TakeWhile
import RobotAdmin.Text.Blank

namespace RobotAdmin.Text

theorem takeWhile_append_cons_of_neg {p : Char → Bool} {c : Char} (hc : p c = false) (before after : List Char) :
    (before ++ c :: after).takeWhile p = before.takeWhile p := by
  induction before with
  | nil => simp [hc]
  | cons d before ih => by_cases hd : p d = true <;> simp [hd, ih]

theorem dropWhile_append_cons_of_neg {p : Char → Bool} {c : Char} (hc : p c = false) (before after : List Char) :
    (before ++ c :: after).dropWhile p = before.dropWhile p ++ c :: after := by
  induction before with
  | nil => simp [hc]
  | cons d before ih => by_cases hd : p d = true <;> simp [hd, ih]

/-- Two texts with the same last occurrence of a character agree before it and behind it. -/
theorem append_cons_inj_of_notMem {c : Char} {first second before after : List Char} (hfirst : c ∉ before)
    (hsecond : c ∉ after) (hsame : first ++ c :: before = second ++ c :: after) : first = second ∧ before = after := by
  have hreverse : before.reverse ++ c :: first.reverse = after.reverse ++ c :: second.reverse := by
    simpa using congrArg List.reverse hsame
  have hplain {text : List Char} (htext : c ∉ text) : ∀ d ∈ text.reverse, (d != c) = true := by
    intro d hd
    have hne : d ≠ c := by
      rintro rfl
      exact htext (List.mem_reverse.mp hd)
    simpa using hne
  have htake := congrArg (List.takeWhile (· != c)) hreverse
  have hdrop := congrArg (List.dropWhile (· != c)) hreverse
  rw [takeWhile_append_cons_of_neg (by simp), takeWhile_append_cons_of_neg (by simp),
    List.takeWhile_eq_self_iff.mpr (hplain hfirst), List.takeWhile_eq_self_iff.mpr (hplain hsecond)] at htake
  rw [dropWhile_append_cons_of_neg (by simp), dropWhile_append_cons_of_neg (by simp),
    List.dropWhile_eq_nil_iff.mpr (hplain hfirst), List.dropWhile_eq_nil_iff.mpr (hplain hsecond)] at hdrop
  exact ⟨List.reverse_inj.mp (List.cons.inj hdrop).2, List.reverse_inj.mp htake⟩

theorem dropEnd_append_cons_of_neg {p : Char → Bool} {c : Char} (hc : p c = false) (before after : List Char) :
    dropEnd p (before ++ c :: after) = before ++ c :: dropEnd p after := by
  have h := dropWhile_append_cons_of_neg hc after.reverse before.reverse
  simp only [dropEnd, List.reverse_append, List.reverse_cons, List.append_assoc, List.singleton_append, h]
  simp

theorem dropEnd_dropEnd (p : Char → Bool) (text : List Char) : dropEnd p (dropEnd p text) = dropEnd p text :=
  List.rdropWhile_idempotent p text

theorem dropSlashes_dropSlashes (text : String) : dropSlashes (dropSlashes text) = dropSlashes text := by
  simp only [dropSlashes, String.toList_ofList, dropEnd_dropEnd]

end RobotAdmin.Text
