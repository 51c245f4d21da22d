/-!
# Components and their busy indicators

The composer needs only a narrow view of the page: the markup id of a component, whether it is the
page, the indicator it owns, and its parent.
-/

namespace AjaxCallback

/-- One component, seen apart from the tree around it. -/
structure Element where
  markupId : String
  page : Bool := false
  indicator : Option String := none
deriving DecidableEq, Repr

/-- A component together with everything above it. -/
inductive Component where
  | root (element : Element)
  | child (element : Element) (parent : Component)
deriving DecidableEq, Repr

namespace Component

def element : Component → Element
  | root e => e
  | child e _ => e

def parent : Component → Option Component
  | root _ => none
  | child _ p => some p

def markupId (c : Component) : String := c.element.markupId

def isPage (c : Component) : Bool := c.element.page

def indicator (c : Component) : Option String := c.element.indicator

def lineage : Component → List Element
  | root e => [e]
  | child e p => e :: p.lineage

/-- Places an element below its ancestors, the nearest of which comes first. -/
def ofLineage (e : Element) : List Element → Component
  | [] => root e
  | a :: ancestors => child e (ofLineage a ancestors)

/-- The indicator of the nearest owner, this component included. -/
def nearestIndicator : Component → Option String
  | root e => e.indicator
  | child e p => e.indicator.or p.nearestIndicator

/-- The indicator of a call: that of the calling component, else that of the behavior, else that of
the nearest ancestor that owns one. An owner counts whether or not its id is blank. -/
def indicatorFor (site : Component) (behavior : Option String) : Option String :=
  site.indicator.or (behavior.or (site.parent.bind nearestIndicator))

@[simp]
theorem lineage_ofLineage (e : Element) (ancestors : List Element) :
    (ofLineage e ancestors).lineage = e :: ancestors := by
  induction ancestors generalizing e with
  | nil => rfl
  | cons a ancestors ih => simp [ofLineage, lineage, ih]

theorem nearestIndicator_eq_findSome? (c : Component) :
    c.nearestIndicator = c.lineage.findSome? Element.indicator := by
  induction c with
  | root e => cases h : e.indicator <;> simp [nearestIndicator, lineage, h]
  | child e p ih => cases h : e.indicator <;> simp [nearestIndicator, lineage, h, ih]

end Component

end AjaxCallback
