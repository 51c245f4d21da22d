/-!
# Splitting a text

Nothing is escaped where texts are joined. What was joined can be told from the whole as long as a
part ends where its own characters end, or where it is known to end by its length.
-/

namespace AjaxCallback.Text

/-! ### By the kind of the characters -/

/-- A run of characters of one kind splits in one way from what follows, which starts with a
character of another kind. -/
theorem append_cons_inj_of_forall {α : Type} {kind : α → Prop} {u v m n : List α} {a b : α}
    (hu : ∀ x ∈ u, kind x) (hv : ∀ x ∈ v, kind x) (ha : ¬ kind a) (hb : ¬ kind b)
    (h : u ++ a :: m = v ++ b :: n) : u = v ∧ a :: m = b :: n := by
  rcases List.append_eq_append_iff.mp h with ⟨as, rfl, hrest⟩ | ⟨bs, rfl, hrest⟩
  · cases as with
    | nil => exact ⟨(List.append_nil u).symm, hrest⟩
    | cons x as =>
        obtain rfl : a = x := (List.cons.inj hrest).1
        exact absurd (hv a (List.mem_append_right u List.mem_cons_self)) ha
  · cases bs with
    | nil => exact ⟨List.append_nil v, hrest.symm⟩
    | cons x bs =>
        obtain rfl : b = x := (List.cons.inj hrest).1
        exact absurd (hu b (List.mem_append_right v List.mem_cons_self)) hb

/-- The last quote of a text splits it in one way. -/
theorem append_cons_inj_of_not_mem {α : Type} {c : α} {u v m n : List α}
    (h : u ++ c :: m = v ++ c :: n) (hm : c ∉ m) (hn : c ∉ n) : u = v ∧ m = n := by
  have hback : m.reverse ++ c :: u.reverse = n.reverse ++ c :: v.reverse := by
    simpa using congrArg List.reverse h
  have hother {l : List α} (hl : c ∉ l) : ∀ x ∈ l.reverse, x ≠ c :=
    List.forall_mem_ne'.mpr (mt List.mem_reverse.mp hl)
  obtain ⟨hmn, huv⟩ := append_cons_inj_of_forall (hother hm) (hother hn) (not_not_intro rfl)
    (not_not_intro rfl) hback
  exact ⟨List.reverse_inj.mp (List.cons.inj huv).2, List.reverse_inj.mp hmn⟩

/-- A delimiter ends a run of characters that cannot start it. -/
theorem append_delimiter_inj (kind : Char → Prop) {a b delimiter s t : String} {c : Char}
    {rest : List Char} (ha : ∀ x ∈ a.toList, kind x) (hb : ∀ x ∈ b.toList, kind x)
    (hdelimiter : delimiter.toList = c :: rest) (hc : ¬ kind c)
    (h : a ++ (delimiter ++ s) = b ++ (delimiter ++ t)) : a = b ∧ s = t := by
  have hlist := congrArg String.toList h
  simp only [String.toList_append, hdelimiter, List.cons_append] at hlist
  obtain ⟨hab, hst⟩ := append_cons_inj_of_forall ha hb hc hc hlist
  have hrest := List.append_cancel_left (List.cons.inj hst).2
  exact ⟨String.toList_inj.mp hab, String.toList_inj.mp hrest⟩

/-! ### By their length -/

theorem append_inj_of_length_eq {a b s t : String} (h : a ++ s = b ++ t)
    (hlength : a.length = b.length) : a = b ∧ s = t := by
  have hlist := congrArg String.toList h
  rw [String.toList_append, String.toList_append] at hlist
  have hlistLength : a.toList.length = b.toList.length := by
    rw [String.length_toList, String.length_toList, hlength]
  obtain ⟨ha, hs⟩ := List.append_inj hlist hlistLength
  exact ⟨String.toList_inj.mp ha, String.toList_inj.mp hs⟩

theorem append_ne_append {a b : String} (hlength : a.length = b.length) (hne : a ≠ b)
    (s t : String) : a ++ s ≠ b ++ t :=
  fun h => hne (append_inj_of_length_eq h hlength).1

/-! ### Decimals -/

theorem isDigit_of_mem_toString {n : Nat} {c : Char} (h : c ∈ (toString n).toList) :
    c.isDigit = true := by
  rw [Nat.toString_eq_repr, Nat.toList_repr] at h
  exact Nat.isDigit_of_mem_toDigits (by decide) (by decide) h

theorem eq_of_toString_eq {m n : Nat} (h : toString m = toString n) : m = n := by
  rw [Nat.toString_eq_repr, Nat.toString_eq_repr] at h
  have hdigits : Nat.toDigits 10 m = Nat.toDigits 10 n := by
    rw [← Nat.toList_repr, ← Nat.toList_repr, h]
  calc m = Nat.ofDigitChars 10 (Nat.toDigits 10 m) 0 := Nat.ofDigitChars_ten_toDigits.symm
    _ = Nat.ofDigitChars 10 (Nat.toDigits 10 n) 0 := by rw [hdigits]
    _ = n := Nat.ofDigitChars_ten_toDigits

end AjaxCallback.Text
