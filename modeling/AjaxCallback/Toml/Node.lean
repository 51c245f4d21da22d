import AjaxCallback.Toml.Value

/-!
# Tables under construction

Entries and headers of a document add to a tree of nodes. A node remembers how it came about,
because that decides what may still be added: a table is defined once, but its sub-tables may come
first, and a table made by dotted keys grows by dotted keys only.
-/

namespace AjaxCallback.Toml

/-- How a table under construction came about. -/
inductive Origin where
  /-- By the header of a table below it. -/
  | implied
  /-- By a dotted key. -/
  | dotted
  /-- By its own header. -/
  | defined
deriving DecidableEq, Repr

inductive Node where
  | leaf (value : Value)
  | table (origin : Origin) (entries : List (String × Node))
  /-- The elements of a list of tables, the last one first, and the earlier ones. -/
  | tables (last : List (String × Node)) (earlier : List (List (String × Node)))

/-- The entries of a table under construction, in ascending order of their keys. -/
abbrev Nodes := List (String × Node)

namespace Nodes

/-- Adds an entry, or replaces the one with the same key, and keeps the order. -/
def put (key : String) (node : Node) : Nodes → Nodes
  | [] => [(key, node)]
  | (k, n) :: rest =>
    if key < k then (key, node) :: (k, n) :: rest
    else if key = k then (key, node) :: rest
    else (k, n) :: put key node rest

theorem lookup_entry (key other : String) (a : α) (rest : List (String × α)) :
    ((key, a) :: rest).lookup other = if other = key then some a else rest.lookup other := by
  by_cases h : other = key
  · simp [h]
  · have hb : (other == key) = false := by simpa using h
    simp [List.lookup_cons, hb, h]

theorem lookup_put (key other : String) (node : Node) (nodes : Nodes) :
    (put key node nodes).lookup other = if other = key then some node else nodes.lookup other := by
  induction nodes with
  | nil => exact lookup_entry key other node []
  | cons entry rest ih =>
    obtain ⟨k, n⟩ := entry
    simp only [put]
    split
    · rw [lookup_entry]
    · split
      · rename_i heq
        subst heq
        by_cases h : other = key <;> simp [lookup_entry, h]
      · rename_i heq
        rw [lookup_entry, lookup_entry, ih]
        by_cases h : other = k
        · subst h
          simp [Ne.symm heq]
        · simp [h]

theorem mem_keys_put {key k : String} {node : Node} {nodes : Nodes}
    (h : k ∈ (put key node nodes).map Prod.fst) : k = key ∨ k ∈ nodes.map Prod.fst := by
  induction nodes with
  | nil => simpa [put] using h
  | cons entry rest ih =>
    simp only [put] at h
    split at h
    · simpa using h
    · split at h
      · simp only [List.map_cons, List.mem_cons] at h ⊢
        exact h.imp id Or.inr
      · simp only [List.map_cons, List.mem_cons] at h ⊢
        rcases h with h | h
        · exact Or.inr (Or.inl h)
        · exact (ih h).imp id Or.inr

theorem keys_put_pairwise (key : String) (node : Node) {nodes : Nodes}
    (h : (nodes.map Prod.fst).Pairwise (· < ·)) :
    ((put key node nodes).map Prod.fst).Pairwise (· < ·) := by
  induction nodes with
  | nil => simp [put]
  | cons entry rest ih =>
    obtain ⟨k, n⟩ := entry
    simp only [List.map_cons, List.pairwise_cons] at h
    obtain ⟨hk, hrest⟩ := h
    simp only [put]
    split
    · rename_i hlt
      simp only [List.map_cons, List.pairwise_cons]
      refine ⟨fun a ha => ?_, hk, hrest⟩
      rcases List.mem_cons.mp ha with rfl | ha
      · exact hlt
      · exact String.lt_trans hlt (hk a ha)
    · rename_i hlt
      split
      · rename_i heq
        subst heq
        simp only [List.map_cons, List.pairwise_cons]
        exact ⟨hk, hrest⟩
      · rename_i heq
        simp only [List.map_cons, List.pairwise_cons]
        refine ⟨fun a ha => ?_, ih hrest⟩
        rcases mem_keys_put ha with rfl | ha
        · exact Std.lt_of_le_of_ne (Std.not_lt.mp hlt) (Ne.symm heq)
        · exact hk a ha

/-- Changes the table at a path of headers, making the tables on the way that are missing. A list of
tables stands for its last element. -/
def within : List String → (Nodes → Option Nodes) → Nodes → Option Nodes
  | [], change, nodes => change nodes
  | key :: path, change, nodes =>
    match nodes.lookup key with
    | none => (within path change []).map fun sub => put key (.table .implied sub) nodes
    | some (.table origin sub) =>
      (within path change sub).map fun sub => put key (.table origin sub) nodes
    | some (.tables last earlier) =>
      (within path change last).map fun last => put key (.tables last earlier) nodes
    | some (.leaf _) => none

/-- Opens the table at the end of a path: its header may stand once, and not after dotted keys that
made it. -/
def openTable (key : String) (nodes : Nodes) : Option Nodes :=
  match nodes.lookup key with
  | none => some (put key (.table .defined []) nodes)
  | some (.table .implied sub) => some (put key (.table .defined sub) nodes)
  | some _ => none

def openElement (key : String) (nodes : Nodes) : Option Nodes :=
  match nodes.lookup key with
  | none => some (put key (.tables [] []) nodes)
  | some (.tables last earlier) => some (put key (.tables [] (last :: earlier)) nodes)
  | some _ => none

/-- Adds a value under a key, which may be dotted. The last part of the key goes only into a table
that is open: the table whose lines are being read, or one that dotted keys have made. -/
def insert : List String → Value → Bool → Nodes → Option Nodes
  | [], _, _, _ => none
  | [key], value, isOpen, nodes =>
    if isOpen && (nodes.lookup key).isNone then some (put key (.leaf value) nodes) else none
  | key :: path, value, _, nodes =>
    match nodes.lookup key with
    | none => (insert path value true []).map fun sub => put key (.table .dotted sub) nodes
    | some (.table .defined _) => none
    | some (.table .dotted sub) =>
      (insert path value true sub).map fun sub => put key (.table .dotted sub) nodes
    | some (.table .implied sub) =>
      (insert path value false sub).map fun sub => put key (.table .implied sub) nodes
    | some (.tables last earlier) =>
      (insert path value false last).map fun last => put key (.tables last earlier) nodes
    | some (.leaf _) => none

end Nodes

mutual

def Node.value : Node → Value
  | .leaf v => v
  | .table _ nodes => .table (Nodes.entries nodes)
  | .tables last earlier => .array (Nodes.elements earlier [.table (Nodes.entries last)])

def Nodes.entries : List (String × Node) → Entries
  | [] => []
  | (key, node) :: rest => (key, node.value) :: Nodes.entries rest

def Nodes.elements : List (List (String × Node)) → List Value → List Value
  | [], later => later
  | nodes :: earlier, later => Nodes.elements earlier (.table (Nodes.entries nodes) :: later)

end

end AjaxCallback.Toml
