import AjaxCallback.Head

/-!
# What a page head keeps

A head that records a sequence of contributions keeps the first one of each key. This is said twice:
as a list, where the later ones of a key are erased from the sequence, and key by key, where the head
holds the first contribution of the sequence that has the key, unless it held one before.
-/

namespace AjaxCallback

namespace HeadItem

def sameKey (a b : HeadItem) : Bool := a.key == b.key

end HeadItem

theorem reference_mem_iff_key_mem {target : String} {items : List HeadItem} :
    HeadItem.reference target ∈ items ↔ HeadKey.reference target ∈ items.map HeadItem.key := by
  constructor
  · exact fun h => List.mem_map_of_mem h
  · intro h
    obtain ⟨item, hitem, hkey⟩ := List.mem_map.mp h
    match item, hkey with
    | .reference _, rfl => exact hitem
    | .script _ (some _), hkey => cases hkey
    | .script _ none, hkey => cases hkey

namespace Head

variable {head : Head} {item : HeadItem} {items : List HeadItem} {key : HeadKey}

theorem record_of_mem (h : item.key ∈ head.keys) : head.record item = head := dif_pos h

theorem keys_record_of_not_mem (h : item.key ∉ head.keys) :
    (head.record item).keys = head.keys ++ [item.key] := by
  rw [keys, items_record_of_not_mem h, List.map_append]
  rfl

theorem recordAll_cons (head : Head) (item : HeadItem) (items : List HeadItem) :
    head.recordAll (item :: items) = (head.record item).recordAll items := rfl

theorem mem_keys_recordAll :
    key ∈ (head.recordAll items).keys ↔ key ∈ head.keys ∨ key ∈ items.map HeadItem.key := by
  induction items generalizing head with
  | nil => simp [recordAll]
  | cons item items ih =>
      rw [recordAll_cons, ih, mem_keys_record, or_assoc, List.map_cons, List.mem_cons]

/-- Recording again what a head has heard of already changes nothing. -/
theorem recordAll_of_mem_keys (h : ∀ item ∈ items, item.key ∈ head.keys) :
    head.recordAll items = head := by
  induction items with
  | nil => rfl
  | cons item items ih =>
      rw [List.forall_mem_cons] at h
      rw [recordAll_cons, record_of_mem h.1, ih h.2]

theorem items_recordAll (head : Head) (items : List HeadItem) :
    (head.recordAll items).items
      = head.items
        ++ (items.filter fun item => item.key ∉ head.keys).eraseDupsBy HeadItem.sameKey := by
  induction items generalizing head with
  | nil => simp [recordAll]
  | cons item items ih =>
      rw [recordAll_cons]
      by_cases h : item.key ∈ head.keys
      · rw [record_of_mem h, ih, List.filter_cons_of_neg (by simpa using h)]
      · have hfilter : (items.filter fun x => x.key ∉ (head.record item).keys)
            = (items.filter fun x => x.key ∉ head.keys).filter
                fun x => x.sameKey item = false := by
          rw [List.filter_filter, keys_record_of_not_mem h]
          apply List.filter_congr
          intro x _
          simp [HeadItem.sameKey, and_comm]
        rw [ih, items_record_of_not_mem h, hfilter, List.append_assoc,
          List.filter_cons_of_pos (by simpa using h), List.eraseDupsBy_cons]
        rfl

/-! ### Key by key -/

/-- The contribution that a head holds under a key. -/
def find? (head : Head) (key : HeadKey) : Option HeadItem :=
  head.items.find? fun item => item.key == key

theorem isSome_find? : (head.find? key).isSome ↔ key ∈ head.keys := by
  simp [find?, keys]

theorem find?_record (head : Head) (item : HeadItem) (key : HeadKey) :
    (head.record item).find? key
      = (head.find? key).or (if item.key = key then some item else none) := by
  by_cases h : item.key ∈ head.keys
  · rw [record_of_mem h]
    by_cases hkey : item.key = key
    · obtain ⟨held, hheld⟩ := Option.isSome_iff_exists.mp (isSome_find?.mpr (hkey ▸ h))
      rw [hheld, Option.some_or]
    · rw [if_neg hkey, Option.or_none]
  · rw [find?, items_record_of_not_mem h, List.find?_append, List.find?_singleton]
    simp only [beq_iff_eq]
    rfl

/-- A key keeps what it held, and else takes the first contribution that has it. -/
theorem find?_recordAll (head : Head) (items : List HeadItem) (key : HeadKey) :
    (head.recordAll items).find? key
      = (head.find? key).or (items.find? fun item => item.key == key) := by
  induction items generalizing head with
  | nil => exact (Option.or_none ..).symm
  | cons item items ih =>
      rw [recordAll_cons, ih, find?_record, Option.or_assoc]
      by_cases h : item.key = key
      · rw [if_pos h, List.find?_cons_of_pos (by simpa using h), Option.some_or]
      · rw [if_neg h, List.find?_cons_of_neg (by simpa using h), Option.none_or]

theorem filter_eq_toList_find? {items : List HeadItem} (h : (items.map HeadItem.key).Nodup)
    (key : HeadKey) :
    (items.filter fun item => item.key == key)
      = (items.find? fun item => item.key == key).toList := by
  induction items with
  | nil => rfl
  | cons item items ih =>
      rw [List.map_cons, List.nodup_cons] at h
      by_cases hkey : item.key = key
      · have hrest : (items.filter fun x => x.key == key) = [] := by
          rw [List.filter_eq_nil_iff]
          intro x hx hxkey
          apply h.1
          rw [hkey, ← beq_iff_eq.mp hxkey]
          exact List.mem_map_of_mem hx
        rw [List.filter_cons_of_pos (by simpa using hkey), hrest,
          List.find?_cons_of_pos (by simpa using hkey)]
        rfl
      · rw [List.filter_cons_of_neg (by simpa using hkey), ih h.2,
          List.find?_cons_of_neg (by simpa using hkey)]

theorem filter_key (head : Head) (key : HeadKey) :
    (head.items.filter fun item => item.key == key) = (head.find? key).toList :=
  filter_eq_toList_find? head.nodup_keys key

end Head

end AjaxCallback
