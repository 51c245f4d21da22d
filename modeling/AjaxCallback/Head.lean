/-!
# Contributions to the page head

Behaviors and decorations declare the scripts they depend on. A page head keeps them in the order in
which they were first recorded, one for each key.
-/

namespace AjaxCallback

inductive HeadItem where
  | reference (target : String)
  | script (text : String) (id : Option String)
deriving DecidableEq, Repr

inductive HeadKey where
  | reference (target : String)
  | scriptId (id : String)
  | scriptText (text : String)
deriving DecidableEq, Repr

namespace HeadItem

/-- A script is known by its id, and only one without an id by its text. -/
def key : HeadItem → HeadKey
  | reference target => .reference target
  | script _ (some id) => .scriptId id
  | script text none => .scriptText text

def describe : HeadItem → String
  | reference target => "reference " ++ target
  | script text (some id) => "script [" ++ id ++ "] " ++ text
  | script text none => "script " ++ text

end HeadItem

/-- A page head: contributions in the order recorded, no two of them with the same key. -/
structure Head where
  items : List HeadItem
  nodup_keys : (items.map HeadItem.key).Nodup

namespace Head

def empty : Head := ⟨[], List.nodup_nil⟩

def keys (head : Head) : List HeadKey := head.items.map HeadItem.key

/-- Adds a contribution unless its key is taken. -/
def record (head : Head) (item : HeadItem) : Head :=
  if h : item.key ∈ head.items.map HeadItem.key then head
  else ⟨head.items ++ [item], by
    rw [List.map_append, List.nodup_append]
    refine ⟨head.nodup_keys, by simp, fun a ha b hb => ?_⟩
    simp only [List.map_cons, List.map_nil, List.mem_singleton] at hb
    exact fun hab => h (hb ▸ hab ▸ ha)⟩

def recordAll (head : Head) (items : List HeadItem) : Head := items.foldl record head

def size (head : Head) : Nat := head.items.length

def isEmpty (head : Head) : Bool := head.items.isEmpty

def hasReference (head : Head) (target : String) : Bool :=
  (HeadKey.reference target) ∈ head.keys

theorem items_record_of_mem {head : Head} {item : HeadItem} (h : item.key ∈ head.keys) :
    (head.record item).items = head.items := by
  simp only [keys] at h
  simp [record, h]

theorem items_record_of_not_mem {head : Head} {item : HeadItem} (h : item.key ∉ head.keys) :
    (head.record item).items = head.items ++ [item] := by
  simp only [keys] at h
  simp [record, h]

theorem mem_keys_record (head : Head) (item : HeadItem) (key : HeadKey) :
    key ∈ (head.record item).keys ↔ key ∈ head.keys ∨ key = item.key := by
  by_cases h : item.key ∈ head.keys
  · simp only [keys, items_record_of_mem h]
    exact ⟨Or.inl, fun hk => hk.elim id fun he => he ▸ h⟩
  · simp [keys, items_record_of_not_mem h]

theorem recordAll_append (head : Head) (xs ys : List HeadItem) :
    head.recordAll (xs ++ ys) = (head.recordAll xs).recordAll ys := by
  simp [recordAll]

end Head

end AjaxCallback
