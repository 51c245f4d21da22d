import AjaxCallback.Proofs.Recording
import Mathlib.Data.Finset.Card
import Mathlib.Data.List.Induction

/-!
# The first contribution of each key

A new page head that hears a sequence of contributions keeps those whose key no earlier one of the
sequence has, in the order of the sequence. References, scripts with an id and scripts without one
have keys of their own kind, so one text may serve as all three. What is contributed later leaves
what was kept in its place, and to repeat a contribution changes nothing, whenever it is done.
-/

namespace AjaxCallback

namespace HeadItem

/-- Two contributions for one place in the head: the same reference, scripts with one id whatever
they say, or the same script twice without an id. -/
inductive SamePlace : HeadItem → HeadItem → Prop
  | reference (target : String) : SamePlace (reference target) (reference target)
  | scriptId (id text text' : String) : SamePlace (script text (some id)) (script text' (some id))
  | scriptText (text : String) : SamePlace (script text none) (script text none)

theorem key_eq_iff {a b : HeadItem} : a.key = b.key ↔ a.SamePlace b := by
  constructor
  · intro h
    match a, b, h with
    | reference target, reference _, rfl => exact .reference target
    | script text (some id), script text' (some _), rfl => exact .scriptId id text text'
    | script text none, script _ none, rfl => exact .scriptText text
  · intro h
    cases h with
    | reference target => rfl
    | scriptId id text text' => rfl
    | scriptText text => rfl

end HeadItem

namespace Head

/-- The contributions of a sequence whose key no earlier one of the sequence has. -/
def firsts (items : List HeadItem) : List HeadItem :=
  (items.zipIdx.filter fun p => p.1.key ∉ (items.take p.2).map HeadItem.key).map Prod.fst

/-- The earlier contributions do not see the new one, and it sees all of them. -/
theorem firsts_concat (items : List HeadItem) (item : HeadItem) :
    firsts (items ++ [item])
      = firsts items ++ if item.key ∈ items.map HeadItem.key then [] else [item] := by
  have hearlier : (items.zipIdx.filter fun p =>
        p.1.key ∉ ((items ++ [item]).take p.2).map HeadItem.key)
      = items.zipIdx.filter fun p => p.1.key ∉ (items.take p.2).map HeadItem.key := by
    apply List.filter_congr
    intro p hp
    have hlt : p.2 < items.length := by simpa using List.snd_lt_of_mem_zipIdx hp
    rw [List.take_append_of_le_length hlt.le]
  rw [firsts, List.zipIdx_append, List.filter_append, hearlier, List.map_append, firsts]
  by_cases h : item.key ∈ items.map HeadItem.key
  · simp [h]
  · simp [h]

/-! ### A head that was new -/

theorem mem_keys_recordAll_empty {items : List HeadItem} {key : HeadKey} :
    key ∈ (empty.recordAll items).keys ↔ key ∈ items.map HeadItem.key :=
  mem_keys_recordAll.trans (or_iff_right List.not_mem_nil)

/-- Induction on the last contribution: what is kept before it does not depend on it. -/
theorem items_recordAll_empty (items : List HeadItem) :
    (empty.recordAll items).items = firsts items := by
  induction items using List.reverseRecOn with
  | nil => rfl
  | append_singleton items item ih =>
      have hlast : empty.recordAll (items ++ [item]) = (empty.recordAll items).record item :=
        recordAll_append empty items [item]
      rw [hlast, firsts_concat, ← ih]
      by_cases h : item.key ∈ items.map HeadItem.key
      · rw [items_record_of_mem (mem_keys_recordAll_empty.mpr h), if_pos h, List.append_nil]
      · rw [items_record_of_not_mem (mt mem_keys_recordAll_empty.mp h), if_neg h]

theorem items_prefix_recordAll (head : Head) (items : List HeadItem) :
    head.items <+: (head.recordAll items).items := by
  rw [items_recordAll]
  exact List.prefix_append _ _

theorem size_recordAll_empty (items : List HeadItem) :
    (empty.recordAll items).size = (items.map HeadItem.key).toFinset.card := by
  let head := empty.recordAll items
  have hkeys : (items.map HeadItem.key).toFinset = head.keys.toFinset := by
    ext key
    rw [List.mem_toFinset, List.mem_toFinset]
    exact mem_keys_recordAll_empty.symm
  calc head.size = head.keys.length := (List.length_map _).symm
    _ = head.keys.toFinset.card := (List.toFinset_card_of_nodup head.nodup_keys).symm
    _ = (items.map HeadItem.key).toFinset.card := by rw [hkeys]

theorem recordAll_repeat {item : HeadItem} {before : List HeadItem} (h : item ∈ before)
    (after : List HeadItem) :
    empty.recordAll (before ++ item :: after) = empty.recordAll (before ++ after) := by
  have hkey : item.key ∈ (empty.recordAll before).keys :=
    mem_keys_recordAll_empty.mpr (List.mem_map_of_mem h)
  rw [recordAll_append, recordAll_cons, record_of_mem hkey, recordAll_append]

theorem hasReference_recordAll_empty {items : List HeadItem} {target : String} :
    (empty.recordAll items).hasReference target = true ↔ .reference target ∈ items := by
  rw [hasReference, decide_eq_true_iff, mem_keys_recordAll_empty]
  exact reference_mem_iff_key_mem.symm

/-- **The first contribution of each key.** A new head keeps the contributions whose key no earlier
one has, and two have one key only if they compete for one place. So what was kept stays in front,
there is one contribution for each key, and one that was made before does not show when it is made
again. -/
theorem recordAll_empty_firsts (items : List HeadItem) :
    let head := empty.recordAll items
    head.items = firsts items ∧
    (∀ a b : HeadItem, a.key = b.key ↔ a.SamePlace b) ∧
    (∀ n, (empty.recordAll (items.take n)).items <+: head.items) ∧
    head.size = (items.map HeadItem.key).toFinset.card ∧
    (∀ (before after : List HeadItem) (item : HeadItem), items = before ++ after →
      item ∈ before → empty.recordAll (before ++ item :: after) = head) ∧
    ∀ target, head.hasReference target = true ↔ .reference target ∈ items := by
  intro head
  refine ⟨items_recordAll_empty items, fun a b => HeadItem.key_eq_iff, fun n => ?_,
    size_recordAll_empty items, ?_, fun target => hasReference_recordAll_empty⟩
  · have hhead : head = (empty.recordAll (items.take n)).recordAll (items.drop n) := by
      rw [← recordAll_append, List.take_append_drop]
    rw [hhead]
    exact items_prefix_recordAll _ _
  · rintro before after item rfl hitem
    exact recordAll_repeat hitem after

/-- One text as a reference, as an id and as a script, each of them twice. -/
theorem recordAll_empty_firsts_overlapping :
    let early : List HeadItem := [.reference "a", .script "x" (some "a"), .script "a" none]
    let late : List HeadItem := [.script "y" (some "a"), .reference "a", .script "a" none,
      .reference "b"]
    let head := empty.recordAll (early ++ late)
    head.items = early ++ [.reference "b"] ∧ (empty.recordAll early).items <+: head.items ∧
      head.size = 4 ∧ .script "x" (some "a") ∈ early ∧
      empty.recordAll (early ++ .script "x" (some "a") :: late) = head ∧
      head.hasReference "a" = true ∧ ¬ head.hasReference "x" = true := by
  intro early late head
  obtain ⟨hitems, -, hprefix, hsize, hrepeat, hreference⟩ := recordAll_empty_firsts (early ++ late)
  have hmem : HeadItem.script "x" (some "a") ∈ early := List.mem_cons_of_mem _ List.mem_cons_self
  refine ⟨hitems.trans (by decide), hprefix 3, hsize.trans (by decide), hmem,
    hrepeat early late _ rfl hmem, (hreference "a").mpr List.mem_cons_self, ?_⟩
  rw [hreference]
  decide

end Head

end AjaxCallback
