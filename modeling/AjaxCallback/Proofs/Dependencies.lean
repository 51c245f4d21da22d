import AjaxCallback.Proofs.Flattening

/-!
# Which dependencies of a decoration are declared

A wrap names the external scripts that the texts it writes depend on. Decorating walks the whole
tree, while collecting the contributions to the page head walks along the delegates and asks each
link once. A link that decorates through one of its own answers for the first link of that one. What
the own one delegates to decorates all the same, and nobody is asked about it.
-/

namespace AjaxCallback

def Leaf.references : Leaf → List String
  | wrap w => w.references
  | cancelEvent | throttle _ => []

namespace Decoration

def references (d : Decoration) : List String := d.leaves.flatMap Leaf.references

/-- What the first link of a chain declares. -/
def firstReferences : Decoration → List String
  | wrap w _ => w.references
  | before own _ | after own _ => own.firstReferences
  | absent | cancelEvent _ | throttle _ _ | custom _ _ => []

def declared (d : Decoration) : List String := d.links.flatMap firstReferences

/-- What the leaves of a chain depend on that its first link does not declare. -/
def behindFirst : Decoration → List String
  | absent => []
  | cancelEvent d | throttle _ d | wrap _ d | custom _ d => d.references
  | before own d | after own d => own.behindFirst ++ d.references

/-- What stands behind the first link of an own decoration. -/
def undeclared : Decoration → List String
  | absent => []
  | cancelEvent d | throttle _ d | wrap _ d | custom _ d => d.undeclared
  | before own d | after own d => own.behindFirst ++ d.undeclared

/-! ### Walking along the delegates -/

theorem headItems_of_links_cons {d delegate : Decoration} (h : d.links = d :: delegate.links)
    (c : Component) :
    d.headItems c
      = (d.contributor.elim [] fun contribute => contribute c) ++ delegate.headItems c := by
  rw [headItems, contributors, h, List.filterMap_cons]
  cases d.contributor with
  | none => rfl
  | some contribute => rfl

theorem BuiltIn.elim_contributor {d : Decoration} (hd : d.BuiltIn) (c : Component) :
    (d.contributor.elim [] fun contribute => contribute c)
      = d.firstReferences.map HeadItem.reference := by
  induction hd with
  | absent => rfl
  | cancelEvent _ _ => rfl
  | throttle _ _ _ => rfl
  | wrap w _ _ =>
      rw [contributor, firstReferences]
      cases w.references with
      | nil => rfl
      | cons r rs => rfl
  | before _ _ ihown _ => exact ihown
  | after _ _ ihown _ => exact ihown

theorem BuiltIn.headItems_eq {d : Decoration} (hd : d.BuiltIn) (c : Component) :
    d.headItems c = d.declared.map HeadItem.reference := by
  have hstep {d delegate : Decoration} (hd : d.BuiltIn) (h : d.links = d :: delegate.links)
      (ih : delegate.headItems c = delegate.declared.map HeadItem.reference) :
      d.headItems c = d.declared.map HeadItem.reference := by
    rw [headItems_of_links_cons h, hd.elim_contributor, ih, declared, declared, h,
      List.flatMap_cons, List.map_append]
  induction hd with
  | absent => rfl
  | cancelEvent hd ih => exact hstep (.cancelEvent hd) rfl ih
  | throttle t hd ih => exact hstep (.throttle t hd) rfl ih
  | wrap w hd ih => exact hstep (.wrap w hd) rfl ih
  | before hown hd _ ih => exact hstep (.before hown hd) rfl ih
  | after hown hd _ ih => exact hstep (.after hown hd) rfl ih

theorem references_before (own d : Decoration) :
    (before own d).references = d.references ++ own.references := List.flatMap_append

theorem references_after (own d : Decoration) :
    (after own d).references = own.references ++ d.references := List.flatMap_append

theorem references_perm_first (d : Decoration) :
    d.references.Perm (d.firstReferences ++ d.behindFirst) := by
  -- Only the own part of a link has to be looked into: the delegate stands behind the first link.
  have hstep {own d : Decoration}
      (ihown : own.references.Perm (own.firstReferences ++ own.behindFirst)) :
      (own.references ++ d.references).Perm
        (own.firstReferences ++ (own.behindFirst ++ d.references)) := by
    rw [← List.append_assoc]
    exact ihown.append_right d.references
  induction d with
  | absent => exact .nil
  | cancelEvent d _ => exact .refl _
  | throttle t d _ => exact .refl _
  | wrap w d _ => exact .refl _
  | custom k d _ => exact .refl _
  | before own d ihown _ =>
      rw [references_before]
      exact List.perm_append_comm.trans (hstep ihown)
  | after own d ihown _ =>
      rw [references_after]
      exact hstep ihown

theorem perm_append_exchange {α : Type} (u v s t : List α) :
    ((u ++ v) ++ (s ++ t)).Perm ((u ++ s) ++ (v ++ t)) := by
  rw [List.append_assoc, List.append_assoc, ← List.append_assoc v, ← List.append_assoc s]
  exact (List.perm_append_comm.append_right t).append_left u

/-- A reference of a leaf is declared or stands behind the first link of an own decoration, and it
is counted on one of the two sides. -/
theorem references_perm (d : Decoration) : d.references.Perm (d.declared ++ d.undeclared) := by
  have hstep {own d : Decoration} (ihd : d.references.Perm (d.declared ++ d.undeclared)) :
      (own.references ++ d.references).Perm
        ((own.firstReferences ++ d.declared) ++ (own.behindFirst ++ d.undeclared)) :=
    ((references_perm_first own).append ihd).trans (perm_append_exchange ..)
  induction d with
  | absent => exact .nil
  | cancelEvent d ih => exact ih
  | throttle t d ih => exact ih
  | custom k d ih => exact ih
  | wrap w d ih =>
      have hall : (wrap w d).references.Perm (w.references ++ (d.declared ++ d.undeclared)) :=
        ih.append_left w.references
      rwa [← List.append_assoc] at hall
  | before own d _ ih =>
      rw [references_before]
      exact List.perm_append_comm.trans (hstep ih)
  | after own d _ ih =>
      rw [references_after]
      exact hstep ih

end Decoration

/-- **Which dependencies are declared.** The leaves of a tree are what decorates. Their references,
each as often as it is held, are those that the chain contributes to the head together with those
behind the first link of an own decoration. So every dependency is declared when there are none of
the latter, or when these are declared elsewhere too, and only then. -/
theorem references_perm_headItems {d : Decoration} (hd : d.BuiltIn) (c : Component) :
    (∀ (hook : Hook) (text : String),
      d.decorate hook c text = d.leaves.foldr (fun leaf => leaf.decorate hook) text) ∧
    ((d.leaves.flatMap Leaf.references).map HeadItem.reference).Perm
      (d.headItems c ++ d.undeclared.map HeadItem.reference) ∧
    ((∀ leaf ∈ d.leaves, ∀ r ∈ leaf.references, HeadItem.reference r ∈ d.headItems c) ↔
      ∀ r ∈ d.undeclared, HeadItem.reference r ∈ d.headItems c) := by
  have hperm : (d.references.map HeadItem.reference).Perm
      (d.headItems c ++ d.undeclared.map HeadItem.reference) := by
    rw [hd.headItems_eq, ← List.map_append]
    exact d.references_perm.map HeadItem.reference
  refine ⟨fun hook text => hd.decorate_eq_foldr hook c text, hperm, ?_⟩
  constructor
  · intro hall r hr
    have hmem : r ∈ d.references := d.references_perm.mem_iff.mpr (List.mem_append_right _ hr)
    obtain ⟨leaf, hleaf, hrleaf⟩ := List.mem_flatMap.mp hmem
    exact hall leaf hleaf r hrleaf
  · intro hundeclared leaf hleaf r hr
    have hmem : r ∈ d.references := List.mem_flatMap.mpr ⟨leaf, hleaf, hr⟩
    rcases List.mem_append.mp (d.references_perm.mem_iff.mp hmem) with hdeclared | hrest
    · rw [hd.headItems_eq]
      exact List.mem_map_of_mem hdeclared
    · exact hundeclared r hrest

def timed (references : List String) : Wrapping := { script := ⟨"timing.start();", ""⟩, references }

theorem references_perm_headItems_shadowed :
    let d : Decoration := .after (.wrap (timed ["own.js"]) (.wrap (timed ["t.js", "u.js"]) .absent))
      (.wrap (timed ["t.js"]) .absent)
    let page : Component := .root { markupId := "page" }
    d.BuiltIn ∧ d.headItems page = [.reference "own.js", .reference "t.js"] ∧
      [HeadItem.reference "own.js", .reference "t.js", .reference "u.js", .reference "t.js"].Perm
        ([.reference "own.js", .reference "t.js"] ++ [.reference "t.js", .reference "u.js"]) ∧
      ¬ ∀ leaf ∈ d.leaves, ∀ r ∈ leaf.references, HeadItem.reference r ∈ d.headItems page := by
  intro d page
  have hd : d.BuiltIn := .after (.wrap _ (.wrap _ .absent)) (.wrap _ .absent)
  obtain ⟨-, hperm, hiff⟩ := references_perm_headItems hd page
  refine ⟨hd, rfl, hperm, ?_⟩
  rw [hiff]
  decide

/-- The text of a wrap is written, and the script that it depends on is not in the head. -/
theorem headItems_omits_own_delegate :
    let d : Decoration := .before (.cancelEvent (.wrap (timed ["timing.js"]) .absent)) .absent
    let page : Component := .root { markupId := "page" }
    d.BuiltIn ∧ d.decorate .script page "go();" = "timing.start();go();return !wcall;" ∧
      Leaf.wrap (timed ["timing.js"]) ∈ d.leaves ∧
      "timing.js" ∈ (Leaf.wrap (timed ["timing.js"])).references ∧
      HeadItem.reference "timing.js" ∉ d.headItems page := by
  intro d page
  have hd : d.BuiltIn := .before (.cancelEvent (.wrap _ .absent)) .absent
  have hscript : d.decorate .script page "go();" = "timing.start();go();return !wcall;" := by
    decide
  have hleaf : Leaf.wrap (timed ["timing.js"]) ∈ d.leaves :=
    List.mem_cons_of_mem _ List.mem_cons_self
  exact ⟨hd, hscript, hleaf, List.mem_cons_self, List.not_mem_nil⟩

end AjaxCallback
