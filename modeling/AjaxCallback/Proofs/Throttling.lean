import AjaxCallback.Proofs.Frame
import AjaxCallback.Proofs.Surround

/-!
# Every throttle takes hold

A throttle that is handed a blank script leaves it unthrottled, which the decorated script does not
tell. The decoration below is the same one with a trace: each use of a throttle is listed with the
script it was handed. In a tree of built-in links no use fails, since a composed call is never
blank and no link makes it so.
-/

namespace AjaxCallback

open Text

structure ThrottleUse where
  throttle : Throttle
  script : String

namespace ThrottleUse

def outcome (use : ThrottleUse) : Except ThrottleError String :=
  throttleScript use.script use.throttle.id (some use.throttle.delay)

def result (use : ThrottleUse) : String :=
  match use.outcome with
  | .ok throttled => throttled
  | .error _ => use.script

theorem result_eq_apply (use : ThrottleUse) : use.result = use.throttle.apply use.script := rfl

def Wraps (use : ThrottleUse) : Prop :=
  use.outcome
    = .ok (throttleOpening use.throttle.id use.throttle.delay ++ use.script ++ throttleClosing)

theorem wraps_of_not_blank {use : ThrottleUse} (h : isBlank use.script = false) : use.Wraps :=
  throttleScript_of_not_blank h use.throttle.id_not_blank use.throttle.delay

end ThrottleUse

namespace Decoration

/-- Decorates the whole script and lists the uses of throttles in the order in which they happen.
What a link given by code does is not seen. -/
def decorateTraced : Decoration → Component → String → String × List ThrottleUse
  | absent, _, script => (script, [])
  | cancelEvent d, c, script =>
    let (inner, uses) := d.decorateTraced c script
    (cancel .script inner, uses)
  | throttle t d, c, script =>
    let (inner, uses) := d.decorateTraced c script
    let use : ThrottleUse := ⟨t, inner⟩
    (use.result, uses ++ [use])
  | wrap w d, c, script =>
    let (inner, uses) := d.decorateTraced c script
    (w.script.around inner, uses)
  | before own d, c, script =>
    let (first, uses) := own.decorateTraced c script
    let (second, more) := d.decorateTraced c first
    (second, uses ++ more)
  | after own d, c, script =>
    let (first, uses) := d.decorateTraced c script
    let (second, more) := own.decorateTraced c first
    (second, uses ++ more)
  | custom k d, c, script => (k.decorate .script c (d.decorate .script c) script, [])

theorem decorateTraced_fst (d : Decoration) (c : Component) (script : String) :
    (d.decorateTraced c script).1 = d.decorate .script c script := by
  induction d generalizing script with
  | absent => rfl
  | cancelEvent d ih => simp only [decorateTraced, decorate, ih]
  | throttle t d ih =>
      simp only [decorateTraced, decorate, ih, throttled, ThrottleUse.result_eq_apply]
  | wrap w d ih => simp only [decorateTraced, decorate, ih, Wrapping.wrap]
  | before own d ihown ihd => simp only [decorateTraced, decorate, ihown, ihd]
  | after own d ihown ihd => simp only [decorateTraced, decorate, ihown, ihd]
  | custom k d _ => rfl

end Decoration

def Leaf.throttle? : Leaf → Option Throttle
  | throttle t => some t
  | cancelEvent | wrap _ => none

namespace Decoration

def throttles (d : Decoration) : List Throttle := (d.leaves.filterMap Leaf.throttle?).reverse

/-- Each throttle of a tree was used once, innermost first, and no use failed. -/
def ThrottledOnce (d : Decoration) (uses : List ThrottleUse) : Prop :=
  uses.map ThrottleUse.throttle = d.throttles ∧ ∀ use ∈ uses, use.Wraps

theorem BuiltIn.map_throttle_decorateTraced {d : Decoration} (hd : d.BuiltIn) (c : Component)
    (script : String) :
    (d.decorateTraced c script).2.map ThrottleUse.throttle = d.throttles := by
  induction hd generalizing script with
  | absent => rfl
  | cancelEvent _ ih => exact ih script
  | throttle t _ ih =>
      simp only [decorateTraced, List.map_append, ih]
      simp [throttles, leaves, Leaf.throttle?]
  | wrap w _ ih => exact ih script
  | before _ _ ihown ihd =>
      simp only [decorateTraced, List.map_append, ihown, ihd]
      simp [throttles, leaves]
  | after _ _ ihown ihd =>
      simp only [decorateTraced, List.map_append, ihown, ihd]
      simp [throttles, leaves]

/-- The invariant is that the script stays other than blank from one link to the next. -/
theorem BuiltIn.wraps_of_mem_decorateTraced {d : Decoration} (hd : d.BuiltIn) (c : Component)
    {script : String} (hscript : isBlank script = false) :
    ∀ use ∈ (d.decorateTraced c script).2, use.Wraps := by
  induction hd generalizing script with
  | absent => simp [decorateTraced]
  | cancelEvent _ ih => exact ih hscript
  | throttle t hd ih =>
      rw [decorateTraced, List.forall_mem_append, List.forall_mem_singleton]
      refine ⟨ih hscript, ThrottleUse.wraps_of_not_blank ?_⟩
      rw [decorateTraced_fst]
      exact hd.isBlank_decorate_script c hscript
  | wrap w _ ih => exact ih hscript
  | before hown _ ihown ihd =>
      rw [decorateTraced, List.forall_mem_append, decorateTraced_fst]
      exact ⟨ihown hscript, ihd (hown.isBlank_decorate_script c hscript)⟩
  | after _ hd ihown ihd =>
      rw [decorateTraced, List.forall_mem_append, decorateTraced_fst]
      exact ⟨ihd hscript, ihown (hd.isBlank_decorate_script c hscript)⟩

theorem BuiltIn.throttledOnce {d : Decoration} (hd : d.BuiltIn) (c : Component) {script : String}
    (hscript : isBlank script = false) : d.ThrottledOnce (d.decorateTraced c script).2 :=
  ⟨hd.map_throttle_decorateTraced c script, hd.wraps_of_mem_decorateTraced c hscript⟩

end Decoration

/-- **Every throttle takes hold.** The two texts depend on the tree alone. What a composed call
hands to its decoration is never blank, so every throttle of the tree wraps it once. -/
theorem throttled_of_builtIn {d : Decoration} (hd : d.BuiltIn) :
    (∃ before after : String, ∀ (c : Component) (script : String), isBlank script = false →
      d.decorate .script c script = before ++ script ++ after ∧
      (d.decorateTraced c script).1 = d.decorate .script c script ∧
      d.ThrottledOnce (d.decorateTraced c script).2) ∧
    ∀ (c : Component) (request : CallRequest), request.decoration = d →
      isBlank (request.statement c) = false ∧
      (d.decorateTraced c (request.statement c)).1 = compose c request ∧
      d.ThrottledOnce (d.decorateTraced c (request.statement c)).2 := by
  refine ⟨⟨(d.surround .script).before, (d.surround .script).after, ?_⟩, ?_⟩
  · intro c script hscript
    exact ⟨hd.decorate_script c hscript, d.decorateTraced_fst c script,
      hd.throttledOnce c hscript⟩
  · rintro c request rfl
    have hstatement := request.isBlank_statement c
    refine ⟨hstatement, ?_, hd.throttledOnce c hstatement⟩
    rw [Decoration.decorateTraced_fst, compose]

/-- A tree with one throttle in a link of its own and one behind it. -/
def doublyThrottled (quick slow : Throttle) : Decoration :=
  .before (.throttle quick (.wrap { script := ⟨"a();", ""⟩ } .absent))
    (.cancelEvent (.after (.throttle slow .absent) .absent))

theorem throttled_of_builtIn_doubly :
    let quick : Throttle := ⟨"quick", .ofMilliseconds 50, by decide⟩
    let slow : Throttle := ⟨"slow", .ofSeconds 2 0, by decide⟩
    let d := doublyThrottled quick slow
    let page : Component := .root { markupId := "page" }
    d.BuiltIn ∧ isBlank "b();" = false ∧
      (∃ before after : String, d.decorate .script page "b();" = before ++ "b();" ++ after) ∧
      d.throttles = [quick, slow] ∧ d.ThrottledOnce (d.decorateTraced page "b();").2 := by
  intro quick slow d page
  have hd : d.BuiltIn := .before (.throttle _ (.wrap _ .absent))
    (.cancelEvent (.after (.throttle _ .absent) .absent))
  have hscript : isBlank "b();" = false := by decide
  obtain ⟨⟨before, after, h⟩, -⟩ := throttled_of_builtIn hd
  obtain ⟨haround, -, honce⟩ := h page "b();" hscript
  exact ⟨hd, hscript, ⟨before, after, haround⟩, rfl, honce⟩

end AjaxCallback
