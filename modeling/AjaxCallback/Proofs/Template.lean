import AjaxCallback.Proofs.Frame
import AjaxCallback.Proofs.Occurrences

/-!
# The template of a composed call

Which of its optional parts a request has decides the fixed texts of the composed call and the
places of the request's own texts between them. Written down as a template, the whole call is open
to inspection: what holds of the fixed texts is evaluated, once for each of the eight patterns, and
a lemma about filling carries it to every request.
-/

namespace AjaxCallback

open Text

/-- A text of the request that composing copies. -/
inductive Field where
  | partialCall
  | success
  | failure
  | precondition
  | indicator
  | channel
deriving DecidableEq, Repr

inductive Piece where
  | fixed (text : String)
  | field (field : Field)
deriving DecidableEq, Repr

abbrev Template := List Piece

def Piece.fill (values : Field → String) : Piece → String
  | fixed text => text
  | field f => values f

namespace Template

def fill (values : Field → String) : Template → String
  | [] => ""
  | p :: t => p.fill values ++ fill values t

@[simp]
theorem fill_nil (values : Field → String) : fill values [] = "" := rfl

@[simp]
theorem fill_fixed (values : Field → String) (text : String) (t : Template) :
    fill values (.fixed text :: t) = text ++ fill values t := rfl

@[simp]
theorem fill_field (values : Field → String) (f : Field) (t : Template) :
    fill values (.field f :: t) = values f ++ fill values t := rfl

@[simp]
theorem fill_append (values : Field → String) (s t : Template) :
    fill values (s ++ t) = fill values s ++ fill values t := by
  induction s with
  | nil => simp
  | cons p s ih => rw [List.cons_append, fill, ih, fill, String.append_assoc]

end Template

/-! ### Words in a filled template -/

/-- The piece is a fixed text that ends in a character outside the word. -/
def Piece.endsOutside (w : List Char) : Piece → Bool
  | fixed text => text.toList.getLast?.any (· ∉ w)
  | field _ => false

def Piece.startsOutside (w : List Char) : Piece → Bool
  | fixed text => text.toList.head?.any (· ∉ w)
  | field _ => false

def Piece.places (w : List Char) : Piece → Nat
  | fixed text => Text.places w text.toList
  | field _ => 0

theorem Piece.parted_of_endsOutside {w : List Char} {p : Piece} (h : p.endsOutside w = true)
    (values : Field → String) (v : List Char) : Parted w (p.fill values).toList v := by
  cases p with
  | field _ => cases h
  | fixed text =>
      left
      intro c hc
      simp only [endsOutside, Option.any_eq_true, decide_eq_true_eq] at h
      obtain ⟨last, hlast, hout⟩ := h
      have heq : some last = some c := hlast.symm.trans hc
      exact Option.some.inj heq ▸ hout

theorem Piece.parted_of_startsOutside {w : List Char} {p : Piece} (h : p.startsOutside w = true)
    (values : Field → String) (u v : List Char) : Parted w u ((p.fill values).toList ++ v) := by
  cases p with
  | field _ => cases h
  | fixed text =>
      right
      intro c hc
      simp only [startsOutside, Option.any_eq_true, decide_eq_true_eq] at h
      obtain ⟨first, hfirst, hout⟩ := h
      have hhead : (text.toList ++ v).head? = some first := by simp [List.head?_append, hfirst]
      have heq : some first = some c := hhead.symm.trans hc
      exact Option.some.inj heq ▸ hout

namespace Template

/-- Every boundary between two pieces parts the word, whatever is filled in. -/
def parts (w : List Char) : Template → Bool
  | p :: q :: t => (p.endsOutside w || q.startsOutside w) && parts w (q :: t)
  | _ => true

def fixedPlaces (w : List Char) : Template → Nat
  | [] => 0
  | p :: t => p.places w + fixedPlaces w t

/-- In a template that parts a word, only the fixed texts can hold it. -/
theorem places_fill {w : List Char} {t : Template} {values : Field → String}
    (hparts : t.parts w = true) (hvalues : ∀ f, places w (values f).toList = 0) :
    places w (t.fill values).toList = t.fixedPlaces w := by
  have hpiece (p : Piece) : places w (p.fill values).toList = p.places w := by
    cases p with
    | fixed text => rfl
    | field f => exact hvalues f
  induction t with
  | nil => rfl
  | cons p t ih =>
      have hboundary : Parted w (p.fill values).toList (fill values t).toList := by
        cases t with
        | nil => exact Or.inr (by simp)
        | cons q t =>
            rw [parts, Bool.and_eq_true, Bool.or_eq_true] at hparts
            rcases hparts.1 with hp | hq
            · exact p.parted_of_endsOutside hp values _
            · rw [fill, String.toList_append]
              exact q.parted_of_startsOutside hq values _ _
      have hrest : parts w t = true := by
        cases t with
        | nil => rfl
        | cons q t =>
            rw [parts, Bool.and_eq_true] at hparts
            exact hparts.2
      rw [fill, String.toList_append, places_append hboundary, hpiece, ih hrest, fixedPlaces]

theorem fill_isPrefix {s t : Template} (h : s <+: t) (values : Field → String) :
    (fill values s).toList <+: (fill values t).toList := by
  obtain ⟨rest, rfl⟩ := h
  rw [fill_append, String.toList_append]
  exact List.prefix_append _ _

/-- A template that starts with a fixed text and stands in another one occurs in it when both are
filled, at least as often. -/
theorem places_le_places_fill {text : String} (htext : text.toList ≠ []) {sub : Template}
    (hsub : sub.head? = some (.fixed text)) (t : Template) (values : Field → String) :
    places sub t ≤ places (fill values sub).toList (fill values t).toList := by
  induction t with
  | nil => exact Nat.zero_le _
  | cons p t ih =>
      by_cases hplace : sub <+: p :: t
      -- The fixed text that the template starts with puts the new place in front of all others.
      · have hp : p = .fixed text := by
          obtain ⟨rest, hrest⟩ := hplace
          have hhead : (sub ++ rest).head? = some (.fixed text) := by
            simp [List.head?_append, hsub]
          rw [hrest] at hhead
          exact Option.some.inj hhead
        have hfilled := fill_isPrefix hplace values
        rw [fill, String.toList_append, hp] at hfilled
        have hmore := places_add_one_le htext hfilled
        rw [fill, String.toList_append, hp, places, if_pos (hp ▸ hplace), Nat.add_comm]
        exact Nat.le_trans (Nat.add_le_add_right ih 1) hmore
      · rw [fill, String.toList_append, places, if_neg hplace, Nat.zero_add]
        exact Nat.le_trans ih (Nat.le_trans (Nat.le_add_left _ _) places_add_le)

end Template

/-- Which of the optional parts of a call there are; the indicator counts when it is not blank. -/
structure Pattern where
  indicator : Bool
  precondition : Bool
  channel : Bool
deriving DecidableEq, Repr

/-- The statement that calls a function of the client with the id of the indicator. -/
def indicatorTemplate (function : String) : Template :=
  [.fixed function, .fixed "('", .field .indicator, .fixed "');"]

namespace Pattern

def condition (p : Pattern) : Template :=
  if p.precondition then
    [.fixed "function()\x7b", .field .precondition, .fixed "\x7d.bind(this)()"]
  else [.fixed "true"]

def showPart (p : Pattern) : Template :=
  if p.indicator then
    [.fixed "if ("] ++ p.condition ++ [.fixed ") \x7b "]
      ++ indicatorTemplate Client.showFunction ++ [.fixed "\x7d"]
  else []

def hidePart (p : Pattern) : Template :=
  if p.indicator then [.fixed ";"] ++ indicatorTemplate Client.hideFunction else []

def guardBodyPart (p : Pattern) : Template :=
  (if p.indicator then
    [.fixed "if (!function() \x7b", .field .precondition, .fixed "\x7d.bind(this)()) \x7b"]
      ++ indicatorTemplate Client.hideFunction ++ [.fixed "\x7d"]
  else []) ++ [.field .precondition]

def guardPart (p : Pattern) : Template :=
  if p.precondition then
    [.fixed ", function() \x7b"] ++ p.guardBodyPart ++ [.fixed "\x7d.bind(this)"]
  else if p.channel then [.fixed ", null"]
  else []

def channelPart (p : Pattern) : Template :=
  if p.channel then [.fixed ", '", .field .channel, .fixed "'"] else []

/-- The call behind its declaration, for given bodies of the two handlers. -/
def callPart (p : Pattern) (success failure : Template) : Template :=
  [.field .partialCall, .fixed ",function() \x7b "] ++ success
    ++ [.fixed "\x7d.bind(this)", .fixed ",function() \x7b "] ++ failure
    ++ [.fixed "\x7d.bind(this)"] ++ p.guardPart ++ p.channelPart ++ [.fixed ");"]

end Pattern

namespace CallRequest

def pattern (request : CallRequest) : Pattern where
  indicator := request.effectiveIndicator.isSome
  precondition := request.precondition.isSome
  channel := request.channel.isSome

/-- The texts of a request, with what is to stand for the two handlers. -/
def values (request : CallRequest) (success failure : String) : Field → String
  | .partialCall => request.partialCall
  | .success => success
  | .failure => failure
  | .precondition => request.precondition.getD ""
  | .indicator => request.effectiveIndicator.getD ""
  | .channel => (request.channel.map Channel.name).getD ""

variable (request : CallRequest) (success failure : String)

theorem fill_indicatorTemplate {id : String} (hid : request.effectiveIndicator = some id)
    (function : String) :
    (indicatorTemplate function).fill (request.values success failure)
      = function ++ "('" ++ id ++ "');" := by
  simp [indicatorTemplate, values, hid, String.append_assoc]

theorem fill_hidePart :
    request.pattern.hidePart.fill (request.values success failure)
      = hideSuffix request.effectiveIndicator := by
  cases hindicator : request.effectiveIndicator with
  | none => simp [Pattern.hidePart, pattern, hindicator, hideSuffix]
  | some id =>
      have hhide : (indicatorTemplate Client.hideFunction).fill (request.values success failure)
          = Client.hideIndicator id :=
        request.fill_indicatorTemplate success failure hindicator Client.hideFunction
      simp [Pattern.hidePart, pattern, hindicator, hideSuffix, hhide]

theorem fill_condition :
    request.pattern.condition.fill (request.values success failure)
      = showCondition request.precondition := by
  cases hprecondition : request.precondition with
  | none => simp [Pattern.condition, pattern, hprecondition, showCondition]
  | some p =>
      simp [Pattern.condition, pattern, values, hprecondition, showCondition, String.append_assoc]

theorem fill_showPart :
    request.pattern.showPart.fill (request.values success failure)
      = showStatement request.effectiveIndicator request.precondition := by
  cases hindicator : request.effectiveIndicator with
  | none => simp [Pattern.showPart, pattern, hindicator, showStatement]
  | some id =>
      have hshow : (indicatorTemplate Client.showFunction).fill (request.values success failure)
          = Client.showIndicator id :=
        request.fill_indicatorTemplate success failure hindicator Client.showFunction
      have hpart : request.pattern.showPart = [.fixed "if ("] ++ request.pattern.condition
          ++ [.fixed ") \x7b "] ++ indicatorTemplate Client.showFunction ++ [.fixed "\x7d"] := by
        simp [Pattern.showPart, pattern, hindicator]
      rw [hpart]
      simp [showStatement, fill_condition, hshow, String.append_assoc]

theorem fill_guardBodyPart {p : String} (hp : request.precondition = some p) :
    request.pattern.guardBodyPart.fill (request.values success failure)
      = guardBody request.effectiveIndicator p := by
  cases hindicator : request.effectiveIndicator with
  | none =>
      rw [guardBody_none]
      simp [Pattern.guardBodyPart, pattern, values, hindicator, hp]
  | some id =>
      have hhide : (indicatorTemplate Client.hideFunction).fill (request.values success failure)
          = Client.hideIndicator id :=
        request.fill_indicatorTemplate success failure hindicator Client.hideFunction
      rw [guardBody_some]
      simp [Pattern.guardBodyPart, pattern, values, hindicator, hp, hhide, String.append_assoc]

theorem fill_guardPart :
    request.pattern.guardPart.fill (request.values success failure)
      = guardArgument (request.precondition.map (guardBody request.effectiveIndicator))
          request.channel := by
  cases hprecondition : request.precondition with
  | none =>
      cases hchannel : request.channel with
      | none =>
          rw [Option.map_none, guardArgument_none_none]
          simp [Pattern.guardPart, pattern, hprecondition, hchannel]
      | some l =>
          rw [Option.map_none, guardArgument_none_some]
          simp [Pattern.guardPart, pattern, hprecondition, hchannel]
  | some p =>
      have hpart : request.pattern.guardPart = [.fixed ", function() \x7b"]
          ++ request.pattern.guardBodyPart ++ [.fixed "\x7d.bind(this)"] := by
        simp [Pattern.guardPart, pattern, hprecondition]
      rw [hpart, Option.map_some, guardArgument_some]
      simp [guardWrap, Wrap.around, request.fill_guardBodyPart success failure hprecondition,
        String.append_assoc]

theorem fill_channelPart :
    request.pattern.channelPart.fill (request.values success failure)
      = channelArgument request.channel := by
  cases hchannel : request.channel with
  | none =>
      rw [channelArgument_none]
      simp [Pattern.channelPart, pattern, hchannel]
  | some l =>
      rw [channelArgument_some]
      simp [Pattern.channelPart, pattern, values, hchannel, quotedWrap, Wrap.around,
        String.append_assoc]

/-- The whole call, when the two templates for the bodies give what the call has there. -/
theorem render_call_eq_fill (c : Component) {onSuccess onFailure : Template}
    (hsuccess : onSuccess.fill (request.values success failure) = (request.call c).onSuccess)
    (hfailure : onFailure.fill (request.values success failure) = (request.call c).onFailure) :
    (request.call c).render
      = "var wcall=" ++ (request.pattern.callPart onSuccess onFailure).fill
          (request.values success failure) := by
  rw [Call.render_eq, optionalArguments_eq, ← hsuccess, ← hfailure]
  simp only [Pattern.callPart, Template.fill_append, Template.fill_fixed, Template.fill_field,
    Template.fill_nil, fill_guardPart, fill_channelPart, handlerWrap, Wrap.around, call,
    String.append_assoc, String.append_empty]
  rfl

end CallRequest

end AjaxCallback
