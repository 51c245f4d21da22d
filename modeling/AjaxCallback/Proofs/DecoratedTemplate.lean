import AjaxCallback.Proofs.IndicatorStatements
import AjaxCallback.Proofs.Surround

/-!
# The template of a decorated call

A tree of built-in decorations puts fixed texts around the bodies of the two handlers and around the
whole script. A throttle does look at the script that it is handed, but only to see that it is not
blank, and a call never is. So the template of a call stays one under decoration, and the texts of
the request reach the composed script by being copied and in no other way.
-/

namespace AjaxCallback

open Text

namespace Template

theorem fill_congr {t : Template} {v w : Field → String}
    (h : ∀ f, Piece.field f ∈ t → v f = w f) : t.fill v = t.fill w := by
  induction t with
  | nil => rfl
  | cons p t ih =>
      have hrest : fill v t = fill w t := ih fun f hf => h f (List.mem_cons_of_mem p hf)
      cases p with
      | fixed text => rw [fill_fixed, fill_fixed, hrest]
      | field f => rw [fill_field, fill_field, hrest, h f List.mem_cons_self]

end Template

namespace Wrap

def aroundTemplate (w : Wrap) (t : Template) : Template := .fixed w.before :: t ++ [.fixed w.after]

theorem fill_aroundTemplate (w : Wrap) (t : Template) (values : Field → String) :
    (w.aroundTemplate t).fill values = w.around (t.fill values) := by
  simp [aroundTemplate, around, String.append_assoc]

theorem count_aroundTemplate (w : Wrap) (t : Template) (f : Field) :
    (w.aroundTemplate t).count (.field f) = t.count (.field f) := by
  simp [aroundTemplate]

end Wrap

namespace Pattern

/-- How often each text of a request is copied. -/
def uses (p : Pattern) : Field → Nat
  | .partialCall | .success | .failure => 1
  | .channel => if p.channel then 1 else 0
  | .precondition => if p.precondition then if p.indicator then 3 else 1 else 0
  | .indicator => if p.indicator then if p.precondition then 4 else 3 else 0

theorem count_plainTemplate (p : Pattern) (f : Field) :
    p.plainTemplate.count (.field f) = p.uses f := by
  rcases p with ⟨_ | _, _ | _, _ | _⟩ <;> cases f <;> decide

theorem count_callPart_congr (p : Pattern) {piece : Piece} {s s' t t' : Template}
    (hs : s.count piece = s'.count piece) (ht : t.count piece = t'.count piece) :
    (p.callPart s t).count piece = (p.callPart s' t').count piece := by
  simp only [callPart, List.count_append, hs, ht]

/-- What stands in the guard in front of the precondition that it returns. -/
def revertPart (p : Pattern) : Template :=
  if p.indicator then
    [.fixed "if (!function() \x7b", .field .precondition, .fixed "\x7d.bind(this)()) \x7b"]
      ++ indicatorTemplate Client.hideFunction ++ [.fixed "\x7d"]
  else []

theorem guardPart_eq {p : Pattern} (hp : p.precondition = true) :
    p.guardPart = [.fixed ", function() \x7b"] ++ p.revertPart
      ++ [.field .precondition, .fixed "\x7d.bind(this)"] := by
  simp [guardPart, guardBodyPart, revertPart, hp]

theorem count_precondition_showPart (p : Pattern) :
    p.showPart.count (.field .precondition) = if p.indicator && p.precondition then 1 else 0 := by
  rcases p with ⟨_ | _, _ | _, _ | _⟩ <;> decide

theorem count_precondition_revertPart (p : Pattern) :
    p.revertPart.count (.field .precondition) = if p.indicator then 1 else 0 := by
  rcases p with ⟨_ | _, _ | _, _ | _⟩ <;> decide

end Pattern

namespace Decoration

def successPart (d : Decoration) (p : Pattern) : Template :=
  (d.surround .success).aroundTemplate [.field .success] ++ p.hidePart

def failurePart (d : Decoration) (p : Pattern) : Template :=
  (d.surround .failure).aroundTemplate ([.field .failure] ++ p.hidePart)

def statementPart (d : Decoration) (p : Pattern) : Template :=
  p.showPart ++ [.fixed "var wcall="] ++ p.callPart (d.successPart p) (d.failurePart p)

def template (d : Decoration) (p : Pattern) : Template :=
  (d.surround .script).aroundTemplate (d.statementPart p)

theorem count_template (d : Decoration) (p : Pattern) (f : Field) :
    (d.template p).count (.field f) = p.uses f := by
  let success : Template := [.field .success] ++ p.hidePart
  let failure : Template := [.field .failure] ++ p.hidePart
  have hsuccess : (d.successPart p).count (.field f) = success.count (.field f) := by
    rw [successPart, List.count_append, Wrap.count_aroundTemplate, ← List.count_append]
  have hfailure : (d.failurePart p).count (.field f) = failure.count (.field f) :=
    Wrap.count_aroundTemplate _ _ _
  calc (d.template p).count (.field f)
      = (p.showPart ++ [Piece.fixed "var wcall="]).count (Piece.field f)
          + (p.callPart (d.successPart p) (d.failurePart p)).count (.field f) := by
        rw [template, Wrap.count_aroundTemplate, statementPart, List.count_append]
    _ = p.plainTemplate.count (.field f) := by
        rw [p.count_callPart_congr hsuccess hfailure, ← List.count_append]
        rfl
    _ = p.uses f := p.count_plainTemplate f

theorem exists_template_eq (d : Decoration) (p : Pattern) :
    ∃ before between after : Template,
      d.template p = before ++ p.showPart ++ between ++ p.guardPart ++ after := by
  let handlers : Template :=
    [.field .partialCall, .fixed ",function() \x7b "] ++ d.successPart p
      ++ [.fixed "\x7d.bind(this)", .fixed ",function() \x7b "] ++ d.failurePart p
      ++ [.fixed "\x7d.bind(this)"]
  refine ⟨[.fixed (d.surround .script).before], .fixed "var wcall=" :: handlers,
    p.channelPart ++ [.fixed ");", .fixed (d.surround .script).after], ?_⟩
  simp [template, statementPart, handlers, Pattern.callPart, Wrap.aroundTemplate]

end Decoration

namespace CallRequest

/-- The texts of a request as they were given; one that was not counts as the empty text. -/
def given (request : CallRequest) : Field → String
  | .partialCall => request.partialCall
  | .success => request.success.getD ""
  | .failure => request.failure.getD ""
  | .precondition => request.precondition.getD ""
  | .indicator => request.indicatorId.getD ""
  | .channel => (request.channel.map Channel.name).getD ""

/-- Only the id of the indicator may differ, and then it has no place in the template. -/
theorem plainValues_eq_given {request : CallRequest} {f : Field} (h : request.pattern.uses f ≠ 0) :
    request.plainValues f = request.given f := by
  cases f with
  | indicator =>
      cases hindicator : request.effectiveIndicator with
      | none => exact absurd (by simp [Pattern.uses, pattern, hindicator]) h
      | some id =>
          have hid : request.indicatorId = some id := Option.eq_some_of_filter_eq_some hindicator
          simp [plainValues, values, given, hindicator, hid]
  | _ => rfl

theorem fill_template_eq_given (request : CallRequest) :
    (request.decoration.template request.pattern).fill request.plainValues
      = (request.decoration.template request.pattern).fill request.given := by
  apply Template.fill_congr
  intro f hf
  apply plainValues_eq_given
  rw [← request.decoration.count_template]
  exact Nat.ne_of_gt (List.count_pos_iff.mpr hf)

variable {request : CallRequest} (hd : request.decoration.BuiltIn) (c : Component)

include hd

theorem fill_successPart :
    (request.decoration.successPart request.pattern).fill request.plainValues
      = (request.call c).onSuccess := by
  have hbody : request.decoration.decorate .success c (request.success.getD "")
      = (request.decoration.surround .success).around (request.success.getD "") :=
    hd.decorate_eq_around c nofun
  rw [Decoration.successPart, Template.fill_append, Wrap.fill_aroundTemplate, plainValues,
    request.fill_hidePart, Template.fill_field, Template.fill_nil, String.append_empty]
  exact congrArg (· ++ hideSuffix request.effectiveIndicator) hbody.symm

theorem fill_failurePart :
    (request.decoration.failurePart request.pattern).fill request.plainValues
      = (request.call c).onFailure := by
  have hbody (text : String) : request.decoration.decorate .failure c text
      = (request.decoration.surround .failure).around text :=
    hd.decorate_eq_around c nofun
  rw [Decoration.failurePart, Wrap.fill_aroundTemplate, Template.fill_append, plainValues,
    request.fill_hidePart, Template.fill_field, Template.fill_nil, String.append_empty]
  exact (hbody _).symm

theorem fill_statementPart :
    (request.decoration.statementPart request.pattern).fill request.plainValues
      = request.statement c := by
  rw [statement, request.render_call_eq_fill _ _ c (fill_successPart hd c) (fill_failurePart hd c),
    Decoration.statementPart, Template.fill_append, Template.fill_append, plainValues,
    request.fill_showPart, Template.fill_fixed, Template.fill_nil, String.append_empty,
    String.append_assoc]

end CallRequest

/-- **A composed call is a fixed template.** The template depends on the decoration and on which
parts a request has, and neither on the component nor on any text. It copies each text as often as
the pattern says; the last copy of the precondition ends the body of the guard. -/
theorem compose_eq_fill_template {d : Decoration} (hd : d.BuiltIn) (p : Pattern) :
    ∃ t : Template,
      (∀ (c : Component) (request : CallRequest), request.decoration = d → request.pattern = p →
        compose c request = t.fill request.given) ∧
      (∀ f, t.count (.field f) = p.uses f) ∧
      (p.precondition = true → ∃ before between revert after : Template,
        t = before ++ p.showPart ++ between
          ++ ([.fixed ", function() \x7b"] ++ revert
            ++ [.field .precondition, .fixed "\x7d.bind(this)"]) ++ after ∧
        p.showPart.count (.field .precondition) = (if p.indicator then 1 else 0) ∧
        revert.count (.field .precondition) = if p.indicator then 1 else 0) := by
  refine ⟨d.template p, ?_, d.count_template p, ?_⟩
  · rintro c request rfl rfl
    calc compose c request
        = (request.decoration.surround .script).around (request.statement c) :=
          hd.decorate_script c (request.isBlank_statement c)
      _ = (request.decoration.template request.pattern).fill request.plainValues := by
          rw [Decoration.template, Wrap.fill_aroundTemplate, CallRequest.fill_statementPart hd c]
      _ = (request.decoration.template request.pattern).fill request.given :=
          request.fill_template_eq_given
  · intro hp
    obtain ⟨before, between, after, htemplate⟩ := d.exists_template_eq p
    have hshow := p.count_precondition_showPart
    rw [hp, Bool.and_true] at hshow
    rw [Pattern.guardPart_eq hp] at htemplate
    exact ⟨before, between, p.revertPart, after, htemplate, hshow,
      p.count_precondition_revertPart⟩

/-- A call with all parts, and texts that look like the fixed ones. -/
def crowdedCall (d : Decoration) (text : String) : CallRequest where
  partialCall := "f(" ++ text
  success := some text
  precondition := some text
  indicatorId := some " busy "
  channel := some ⟨text⟩
  decoration := d

theorem compose_eq_fill_template_nested :
    let t : Throttle := ⟨"typing", .ofMilliseconds 500, by decide⟩
    let d : Decoration := .before (.throttle t (.wrap { failure := ⟨"log(", ");"⟩ } .absent))
      (.after (.cancelEvent .absent) .absent)
    let p : Pattern := ⟨true, true, true⟩
    let page : Component := .root { markupId := "page" }
    d.BuiltIn ∧ (crowdedCall d "").pattern = p ∧ (crowdedCall d "var wcall=").pattern = p ∧
      ∃ template : Template,
        compose page (crowdedCall d "") = template.fill (crowdedCall d "").given ∧
        compose page (crowdedCall d "var wcall=")
          = template.fill (crowdedCall d "var wcall=").given ∧
        template.count (.field .precondition) = 3 ∧ template.count (.field .indicator) = 4 ∧
        p.precondition = true ∧ ∃ before between revert after : Template,
          template = before ++ p.showPart ++ between
            ++ ([.fixed ", function() \x7b"] ++ revert
              ++ [.field .precondition, .fixed "\x7d.bind(this)"]) ++ after ∧
          p.showPart.count (.field .precondition) = 1 ∧
          revert.count (.field .precondition) = 1 := by
  intro t d p page
  have hd : d.BuiltIn := .before (.throttle t (.wrap _ .absent))
    (.after (.cancelEvent .absent) .absent)
  have hpattern (text : String) : (crowdedCall d text).pattern = p := by
    have hid : (crowdedCall d text).effectiveIndicator = some " busy " :=
      CallRequest.effectiveIndicator_eq_some rfl (by decide)
    rw [CallRequest.pattern, hid]
    rfl
  obtain ⟨template, hfill, hcount, hguard⟩ := compose_eq_fill_template hd p
  exact ⟨hd, hpattern "", hpattern "var wcall=", template, hfill page _ rfl (hpattern ""),
    hfill page _ rfl (hpattern "var wcall="), hcount .precondition, hcount .indicator, rfl,
    hguard rfl⟩

end AjaxCallback
