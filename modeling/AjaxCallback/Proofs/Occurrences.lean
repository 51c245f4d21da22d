/-!
# Occurrences of a word

A text is put together from pieces, and a word may occur in the whole without occurring in a piece:
it may stand across a boundary. It does not when one of the two characters at the boundary is none
of the word. With that, the occurrences in the whole are those in the pieces.
-/

namespace AjaxCallback.Text

section Places

variable {α : Type} [DecidableEq α] {w u v s x : List α}

/-- The number of places at which a word begins. -/
def places (w : List α) : List α → Nat
  | [] => 0
  | a :: s => (if w <+: a :: s then 1 else 0) + places w s

theorem ite_le_ite_of_imp {p q : Prop} [Decidable p] [Decidable q] (h : p → q) :
    (if p then 1 else 0) ≤ if q then 1 else 0 := by
  by_cases hp : p
  · exact Nat.le_of_eq ((if_pos hp).trans (if_pos (h hp)).symm)
  · rw [if_neg hp]
    exact Nat.zero_le _

theorem places_eq_zero_iff (hw : w ≠ []) : places w s = 0 ↔ ¬ w <:+: s := by
  induction s with
  | nil => simp [places, hw]
  | cons a s ih =>
      rw [List.infix_cons_iff, not_or, ← ih, places]
      by_cases h : w <+: a :: s
      · simp [h]
      · simp [h]

theorem places_le_of_isPrefix (h : w <+: x) : places x s ≤ places w s := by
  induction s with
  | nil => exact Nat.le_refl 0
  | cons a s ih => exact Nat.add_le_add (ite_le_ite_of_imp h.trans) ih

theorem places_add_le : places w u + places w v ≤ places w (u ++ v) := by
  induction u with
  | nil => simp [places]
  | cons a u ih =>
      have hextend : w <+: a :: u → w <+: a :: (u ++ v) :=
        fun hw => hw.trans (List.prefix_append (a :: u) v)
      rw [List.cons_append, places, places, Nat.add_assoc]
      exact Nat.add_le_add (ite_le_ite_of_imp hextend) ih

theorem places_add_one_le (hu : u ≠ []) (h : w <+: u ++ v) :
    places w v + 1 ≤ places w (u ++ v) := by
  obtain ⟨a, u, rfl⟩ := List.exists_cons_of_ne_nil hu
  have hrest : places w u + places w v ≤ places w (u ++ v) := places_add_le
  rw [List.cons_append] at h ⊢
  rw [places, if_pos h]
  omega

/-- One of the two characters that meet is none of the word. -/
def Parted (w u v : List α) : Prop := (∀ c ∈ u.getLast?, c ∉ w) ∨ ∀ c ∈ v.head?, c ∉ w

omit [DecidableEq α] in
theorem Parted.isPrefix {a : α} (h : Parted w (a :: u) v) (hw : w <+: a :: u ++ v) :
    w <+: a :: u := by
  rcases List.prefix_or_prefix_of_prefix hw (List.prefix_append (a :: u) v) with hleft | hright
  · exact hleft
  · obtain ⟨x, rfl⟩ := hright
    cases x with
    | nil => simp
    | cons b x =>
        -- The occurrence reaches across the boundary, so both characters at it are of the word.
        obtain ⟨rest, hrest⟩ := (List.prefix_append_right_inj (a :: u)).mp hw
        rcases h with h | h
        · have hlast := List.getLast?_eq_some_getLast (List.cons_ne_nil a u)
          exact absurd (List.mem_append_left _ (List.getLast_mem _)) (h _ hlast)
        · have hhead : b ∈ v.head? := by simp [← hrest]
          exact absurd (by simp) (h b hhead)

omit [DecidableEq α] in
theorem Parted.tail {a : α} (h : Parted w (a :: u) v) : Parted w u v := by
  refine h.imp_left fun hlast c hc => hlast c ?_
  cases u with
  | nil => cases hc
  | cons b u => rwa [List.getLast?_cons_cons]

/-- No occurrence stands across a boundary that parts the word. -/
theorem places_append (h : Parted w u v) : places w (u ++ v) = places w u + places w v := by
  induction u with
  | nil => simp [places]
  | cons a u ih =>
      have hhead : w <+: a :: (u ++ v) ↔ w <+: a :: u :=
        ⟨fun hw => h.isPrefix hw, fun hw => hw.trans (List.prefix_append (a :: u) v)⟩
      rw [List.cons_append, places, places, ih h.tail, Nat.add_assoc]
      simp only [hhead]

/-- When a word occurs no more often than its extension, every occurrence goes on with that. -/
theorem isPrefix_of_places_le (hw : w ≠ []) (hle : places w s ≤ places (w ++ x) s)
    (hs : s = u ++ (w ++ v)) : x <+: v := by
  have hextend : w <+: w ++ x := List.prefix_append w x
  induction u generalizing s with
  | nil =>
      -- The word begins here: if it did not go on, it would count once more than its extension.
      obtain ⟨a, rest, hrest⟩ := List.exists_cons_of_ne_nil (List.append_ne_nil_of_left_ne_nil hw v)
      rw [List.nil_append] at hs
      rw [hs, hrest, places, places, if_pos (hrest ▸ List.prefix_append w v)] at hle
      have hfewer : places (w ++ x) rest ≤ places w rest := places_le_of_isPrefix hextend
      have hlong : w ++ x <+: w ++ v := by
        rw [hrest]
        refine Decidable.byContradiction fun hshort => ?_
        rw [if_neg hshort] at hle
        omega
      exact (List.prefix_append_right_inj w).mp hlong
  | cons a u ih =>
      refine ih ?_ rfl
      have hhead := ite_le_ite_of_imp (fun h : w ++ x <+: a :: (u ++ (w ++ v)) => hextend.trans h)
      rw [hs, List.cons_append, places, places] at hle
      omega

end Places

def occurrences (word text : String) : Nat := places word.toList text.toList

theorem occurrences_add_le (word s t : String) :
    occurrences word s + occurrences word t ≤ occurrences word (s ++ t) := by
  rw [occurrences, occurrences, occurrences, String.toList_append]
  exact places_add_le

theorem occurrences_append_le (word x text : String) :
    occurrences (word ++ x) text ≤ occurrences word text := by
  rw [occurrences, String.toList_append]
  exact places_le_of_isPrefix (List.prefix_append _ _)

theorem exists_eq_append_of_occurrences_le {word x text before after : String}
    (hword : word.toList ≠ []) (hle : occurrences word text ≤ occurrences (word ++ x) text)
    (htext : text = before ++ word ++ after) : ∃ rest : String, after = x ++ rest := by
  rw [occurrences, occurrences, String.toList_append] at hle
  have hlist : text.toList = before.toList ++ (word.toList ++ after.toList) := by
    rw [htext, String.toList_append, String.toList_append, List.append_assoc]
  obtain ⟨rest, hrest⟩ := isPrefix_of_places_le hword hle hlist
  refine ⟨String.ofList rest, String.toList_inj.mp ?_⟩
  rw [String.toList_append, String.toList_ofList, hrest]

end AjaxCallback.Text
