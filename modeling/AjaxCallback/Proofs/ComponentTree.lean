import AjaxCallback.Request
import Mathlib.Logic.Function.Iterate

/-!
# The tree above a component

A request lists a component and its ancestors, the nearest first, and the tree is put together from
the outermost ancestor down. Walking up from the component meets what was listed, in that order and
with nothing lost, and the tree says no more than the list does.
-/

namespace AjaxCallback

namespace Component

/-! ### Walking up -/

/-- What is met that many steps above a component. -/
def ancestor? (c : Component) (steps : Nat) : Option Component :=
  (fun site => site.bind parent)^[steps] (some c)

theorem ancestor?_root_succ (e : Element) (steps : Nat) :
    (root e).ancestor? (steps + 1) = none := by
  induction steps with
  | zero => rfl
  | succ steps ih =>
      rw [ancestor?, Function.iterate_succ_apply', ← ancestor?, ih]
      rfl

theorem map_element_ancestor? (c : Component) (steps : Nat) :
    (c.ancestor? steps).map element = c.lineage[steps]? := by
  induction c generalizing steps with
  | root e =>
      cases steps with
      | zero => rfl
      | succ steps =>
          rw [ancestor?_root_succ]
          rfl
  | child e p ih =>
      cases steps with
      | zero => rfl
      | succ steps => exact ih steps

theorem ancestor?_eq_none_iff {c : Component} {steps : Nat} :
    c.ancestor? steps = none ↔ c.lineage.length ≤ steps := by
  rw [← List.getElem?_eq_none_iff, ← map_element_ancestor?, Option.map_eq_none_iff]

theorem exists_eq_ofLineage (c : Component) : ∃ e ancestors, c = ofLineage e ancestors := by
  induction c with
  | root e => exact ⟨e, [], rfl⟩
  | child e p ih =>
      obtain ⟨a, ancestors, rfl⟩ := ih
      exact ⟨e, a :: ancestors, rfl⟩

/-- A tree is its lineage. -/
theorem eq_of_lineage_eq {c c' : Component} (h : c.lineage = c'.lineage) : c = c' := by
  obtain ⟨e, ancestors, rfl⟩ := c.exists_eq_ofLineage
  obtain ⟨e', ancestors', rfl⟩ := c'.exists_eq_ofLineage
  rw [lineage_ofLineage, lineage_ofLineage] at h
  cases h
  rfl

/-! ### Building down -/

/-- Puts an element below a tree, or makes it the root of a new one. -/
def place (e : Element) : Option Component → Component
  | none => root e
  | some parent => child e parent

def grow (above : Option Component) (e : Element) : Option Component := some (place e above)

def lineage? (above : Option Component) : List Element := above.elim [] lineage

theorem lineage_place (e : Element) (above : Option Component) :
    (place e above).lineage = e :: lineage? above := by
  cases above <;> rfl

/-- Each step puts its element in front of what stood there before. -/
theorem lineage?_foldl_grow (elements : List Element) (above : Option Component) :
    lineage? (elements.foldl grow above) = elements.reverse ++ lineage? above := by
  induction elements generalizing above with
  | nil => rfl
  | cons e elements ih =>
      have hstep : lineage? (grow above e) = e :: lineage? above := lineage_place e above
      rw [List.foldl_cons, ih, hstep, List.reverse_cons, List.append_assoc, List.singleton_append]

theorem ofLineage_eq_place (e : Element) (ancestors : List Element) :
    ofLineage e ancestors = place e (ancestors.reverse.foldl grow none) := by
  apply eq_of_lineage_eq
  rw [lineage_ofLineage, lineage_place, lineage?_foldl_grow, List.reverse_reverse]
  exact (congrArg _ (List.append_nil _)).symm

end Component

namespace ComponentSpec

def listed (spec : ComponentSpec) : List Element := spec.element :: spec.ancestors

theorem lineage_toComponent (spec : ComponentSpec) : spec.toComponent.lineage = spec.listed :=
  Component.lineage_ofLineage _ _

theorem listed_inj {spec spec' : ComponentSpec} : spec.listed = spec'.listed ↔ spec = spec' := by
  constructor
  · intro h
    obtain ⟨e, ancestors⟩ := spec
    obtain ⟨e', ancestors'⟩ := spec'
    obtain ⟨rfl, rfl⟩ : e = e' ∧ ancestors = ancestors' := List.cons.inj h
    rfl
  · rintro rfl
    rfl

/-- **The tree above a component.** The tree that is put together from the outermost ancestor down
has one node for each element listed. The nodes met on the way up show what was listed, an absent
indicator as absent and an empty one as empty, and there the way ends. So the list can be read back
from the tree. -/
theorem lineage_toComponent_eq_listed (spec : ComponentSpec) :
    spec.toComponent
      = Component.place spec.element (spec.ancestors.reverse.foldl Component.grow none) ∧
    (∀ steps, (spec.toComponent.ancestor? steps).map
        (fun node => (node.markupId, node.isPage, node.indicator))
      = spec.listed[steps]?.map fun e => (e.markupId, e.page, e.indicator)) ∧
    (∀ steps, spec.toComponent.ancestor? steps = none ↔ spec.ancestors.length < steps) ∧
    spec.toComponent.lineage = spec.listed ∧
    ∀ other : ComponentSpec,
      other.toComponent.lineage = spec.toComponent.lineage ↔ other = spec := by
  refine ⟨Component.ofLineage_eq_place _ _, fun steps => ?_, fun steps => ?_,
    spec.lineage_toComponent, fun other => ?_⟩
  · rw [← spec.lineage_toComponent, ← Component.map_element_ancestor?, Option.map_map]
    rfl
  · rw [Component.ancestor?_eq_none_iff, spec.lineage_toComponent]
    exact Nat.succ_le_iff
  · rw [other.lineage_toComponent, spec.lineage_toComponent]
    exact listed_inj

theorem lineage_toComponent_eq_listed_query :
    let spec : ComponentSpec :=
      { element := { markupId := "query" }
        ancestors := [{ markupId := "form", indicator := some "" },
          { markupId := "page", page := true, indicator := some "busy" }] }
    let unowned : ComponentSpec :=
      { spec with ancestors := [{ markupId := "form" },
          { markupId := "page", page := true, indicator := some "busy" }] }
    (spec.toComponent.ancestor? 1).map (fun node => (node.markupId, node.isPage, node.indicator))
        = some ("form", false, some "") ∧
      spec.toComponent.ancestor? 2 ≠ none ∧ spec.toComponent.ancestor? 3 = none ∧
      unowned.toComponent.lineage ≠ spec.toComponent.lineage := by
  intro spec unowned
  obtain ⟨-, hnodes, hend, -, hinj⟩ := lineage_toComponent_eq_listed spec
  exact ⟨hnodes 1, mt (hend 2).mp (by decide), (hend 3).mpr (by decide),
    mt (hinj unowned).mp (by decide)⟩

end ComponentSpec

end AjaxCallback
