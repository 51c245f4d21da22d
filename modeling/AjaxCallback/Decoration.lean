import AjaxCallback.Component
import AjaxCallback.Head
import AjaxCallback.Throttle

/-!
# Decorations

A decoration changes the pieces of a composed call: the bodies of the two handlers and the whole
script. Decorations form a chain. Each link decorates on its own terms and decides when the rest of
the chain, its delegate, does so.
-/

namespace AjaxCallback

inductive Hook where
  | script
  | success
  | failure
deriving DecidableEq, Repr

structure Wrap where
  before : String := ""
  after : String := ""
deriving DecidableEq, Repr

def Wrap.around (w : Wrap) (script : String) : String := w.before ++ script ++ w.after

/-- A decoration given by data: a wrap for each hook and the external scripts it depends on. -/
structure Wrapping where
  script : Wrap := {}
  success : Wrap := {}
  failure : Wrap := {}
  references : List String := []
deriving DecidableEq, Repr

def Wrapping.wrap (w : Wrapping) : Hook → Wrap
  | .script => w.script
  | .success => w.success
  | .failure => w.failure

abbrev Contributor := Component → List HeadItem

/-- A decoration given by code. It is handed the work of its delegate and may use it or not. -/
structure CustomDecoration where
  decorate : Hook → Component → (String → String) → String → String
  contributor : Option Contributor := none

/-- A chain of decorations. The first link is the primary one, and `absent` ends the chain. -/
inductive Decoration where
  | absent
  /-- Cancels the event when the call was made. -/
  | cancelEvent (delegate : Decoration)
  | throttle (throttle : Throttle) (delegate : Decoration)
  | wrap (wrapping : Wrapping) (delegate : Decoration)
  /-- Lets `own` decorate before the delegate. -/
  | before (own delegate : Decoration)
  /-- Lets `own` decorate after the delegate. -/
  | after (own delegate : Decoration)
  | custom (custom : CustomDecoration) (delegate : Decoration)

namespace Decoration

instance : Inhabited Decoration := ⟨absent⟩

def cancel (hook : Hook) (text : String) : String :=
  match hook with
  | .script => text ++ Client.cancelEvent
  | .success | .failure => text

/-- What a throttle does to a text: it concerns the whole script only. -/
def throttled (t : Throttle) (hook : Hook) (text : String) : String :=
  match hook with
  | .script => t.apply text
  | .success | .failure => text

def decorate : Decoration → Hook → Component → String → String
  | absent, _, _, text => text
  | cancelEvent d, hook, c, text => cancel hook (d.decorate hook c text)
  | throttle t d, hook, c, text => throttled t hook (d.decorate hook c text)
  | wrap w d, hook, c, text => (w.wrap hook).around (d.decorate hook c text)
  | before own d, hook, c, text => d.decorate hook c (own.decorate hook c text)
  | after own d, hook, c, text => own.decorate hook c (d.decorate hook c text)
  | custom k d, hook, c, text => k.decorate hook c (d.decorate hook c) text

def isAbsent : Decoration → Bool
  | absent => true
  | _ => false

def delegate : Decoration → Decoration
  | absent => absent
  | cancelEvent d | throttle _ d | wrap _ d | before _ d | after _ d | custom _ d => d

def hasDelegate (d : Decoration) : Bool := !d.delegate.isAbsent

/-- The contributor of the first link. A link that decorates through one of its own stands for the
first link of that one. -/
def contributor : Decoration → Option Contributor
  | wrap w _ => if w.references.isEmpty then none else some fun _ => w.references.map .reference
  | before own _ | after own _ => own.contributor
  | custom k _ => k.contributor
  | absent | cancelEvent _ | throttle _ _ => none

/-- Every chain that starts at a link of this one, the longest first. -/
def links : Decoration → List Decoration
  | absent => []
  | cancelEvent d => cancelEvent d :: d.links
  | throttle t d => throttle t d :: d.links
  | wrap w d => wrap w d :: d.links
  | before own d => before own d :: d.links
  | after own d => after own d :: d.links
  | custom k d => custom k d :: d.links

def contributors (d : Decoration) : List Contributor := d.links.filterMap contributor

/-- The contributions of the whole chain, first link first and repetitions kept. -/
def headItems (d : Decoration) (c : Component) : List HeadItem :=
  d.contributors.flatMap fun contribute => contribute c

@[simp]
theorem decorate_absent (hook : Hook) (c : Component) (text : String) :
    absent.decorate hook c text = text := rfl

end Decoration

end AjaxCallback
