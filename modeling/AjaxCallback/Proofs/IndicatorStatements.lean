import AjaxCallback.Proofs.Template

/-!
# How often the indicator is shown and hidden

The statements that show and hide the indicator are found in the composed text, and counted there,
as occurrences of the names of the two client functions. The texts of the request cannot hold these
names, and where they meet the fixed texts there is a character that is part of neither name, so all
occurrences are those of the template.
-/

namespace AjaxCallback

open Text

namespace Pattern

/-- The call behind its declaration when nothing decorates it. -/
def plainCallPart (p : Pattern) : Template :=
  p.callPart ([.field .success] ++ p.hidePart) ([.field .failure] ++ p.hidePart)

def plainTemplate (p : Pattern) : Template :=
  p.showPart ++ [.fixed "var wcall="] ++ p.plainCallPart

theorem parts_plainTemplate (p : Pattern) :
    p.plainTemplate.parts Client.showFunction.toList = true ∧
      p.plainTemplate.parts Client.hideFunction.toList = true := by
  rcases p with ⟨_ | _, _ | _, _ | _⟩ <;> decide

/-- How often the indicator is shown: in front of the call, if there is one. -/
def shows (p : Pattern) : Nat := if p.indicator then 1 else 0

/-- How often the indicator is hidden: in each handler, and in the guard if there is one. -/
def hides (p : Pattern) : Nat :=
  if p.indicator then if p.precondition then 3 else 2 else 0

theorem fixedPlaces_plainTemplate (p : Pattern) :
    p.plainTemplate.fixedPlaces Client.showFunction.toList = p.shows ∧
      p.plainTemplate.fixedPlaces Client.hideFunction.toList = p.hides := by
  rcases p with ⟨_ | _, _ | _, _ | _⟩ <;> decide

theorem places_showPart (p : Pattern) :
    places (indicatorTemplate Client.showFunction) p.showPart = p.shows := by
  rcases p with ⟨_ | _, _ | _, _ | _⟩ <;> decide

theorem places_plainCallPart (p : Pattern) :
    places (indicatorTemplate Client.hideFunction) p.plainCallPart = p.hides := by
  rcases p with ⟨_ | _, _ | _, _ | _⟩ <;> decide

theorem fill_plainTemplate_showPart (p : Pattern) (values : Field → String) :
    p.plainTemplate.fill values
      = "" ++ p.showPart.fill values ++ ("var wcall=" ++ p.plainCallPart.fill values) := by
  simp [plainTemplate]

theorem fill_plainTemplate_plainCallPart (p : Pattern) (values : Field → String) :
    p.plainTemplate.fill values
      = (p.showPart.fill values ++ "var wcall=") ++ p.plainCallPart.fill values ++ "" := by
  simp [plainTemplate, String.append_assoc]

end Pattern

/-- A part of a template holds a statement about the indicator as often as the whole has the name of
its function. So the function is called nowhere else, and with no other id. -/
theorem occurrences_of_template (function : String) (hfunction : function.toList ≠ [])
    {values : Field → String} (hvalues : ∀ f, places function.toList (values f).toList = 0)
    {t part : Template} {before after : String} {n : Nat}
    (ht : t.fill values = before ++ part.fill values ++ after)
    (hparts : t.parts function.toList = true) (hfixed : t.fixedPlaces function.toList = n)
    (hplaces : places (indicatorTemplate function) part = n) :
    occurrences function (t.fill values) = n ∧
      occurrences ((indicatorTemplate function).fill values) (t.fill values) = n ∧
      occurrences ((indicatorTemplate function).fill values) (part.fill values) = n := by
  -- The name bounds the statement from above, the places in the part bound it from below.
  have hname : occurrences function (t.fill values) = n :=
    (Template.places_fill hparts hvalues).trans hfixed
  generalize hstatement : (indicatorTemplate function).fill values = statement
  have hshort : occurrences statement (t.fill values) ≤ occurrences function (t.fill values) := by
    rw [← hstatement]
    exact occurrences_append_le _ _ _
  have hpart : n ≤ occurrences statement (part.fill values) := by
    rw [← hplaces, ← hstatement]
    exact Template.places_le_places_fill hfunction rfl part values
  have hwhole : occurrences statement (part.fill values)
      ≤ occurrences statement (t.fill values) := by
    have hbefore := occurrences_add_le statement before (part.fill values)
    have hafter := occurrences_add_le statement (before ++ part.fill values) after
    rw [← ht] at hafter
    omega
  omega

namespace CallRequest

def texts (request : CallRequest) : List String :=
  request.partialCall :: (request.success.toList ++ request.failure.toList
    ++ request.precondition.toList ++ request.indicatorId.toList
    ++ (request.channel.map Channel.name).toList)

def plainValues (request : CallRequest) : Field → String :=
  request.values (request.success.getD "") (request.failure.getD "")

theorem plainValues_mem_texts (request : CallRequest) (f : Field) :
    request.plainValues f = "" ∨ request.plainValues f ∈ request.texts := by
  have hgetD {text : Option String} (htext : ∀ s ∈ text, s ∈ request.texts) :
      text.getD "" = "" ∨ text.getD "" ∈ request.texts :=
    getD_empty_of_forall (P := fun s => s = "" ∨ s ∈ request.texts) (Or.inl rfl)
      fun s hs => Or.inr (htext s hs)
  cases f with
  | partialCall => exact Or.inr List.mem_cons_self
  | success => exact hgetD fun s hs => by simp_all [texts]
  | failure => exact hgetD fun s hs => by simp_all [texts]
  | precondition => exact hgetD fun s hs => by simp_all [texts]
  | indicator =>
      refine hgetD fun s hs => ?_
      have hid : request.indicatorId = some s := Option.eq_some_of_filter_eq_some hs
      simp [texts, hid]
  | channel => exact hgetD fun s hs => by simp_all [texts]

theorem places_plainValues_eq_zero {request : CallRequest} {word name : List Char}
    (hname : name ≠ []) (hword : word <:+: name)
    (hfree : ∀ text ∈ request.texts, ¬ word <:+: text.toList) (f : Field) :
    places name (request.plainValues f).toList = 0 := by
  rw [places_eq_zero_iff hname]
  rcases request.plainValues_mem_texts f with hempty | hmem
  · rw [hempty]
    exact fun h => hname (List.infix_nil.mp h)
  · exact fun h => hfree _ hmem (hword.trans h)

theorem render_call_of_absent {request : CallRequest} (hplain : request.decoration = .absent)
    (c : Component) :
    (request.call c).render
      = "var wcall=" ++ request.pattern.plainCallPart.fill request.plainValues := by
  apply request.render_call_eq_fill
  · rw [Template.fill_append, fill_hidePart]
    simp [call, hplain, values]
  · rw [Template.fill_append, fill_hidePart]
    simp [call, hplain, values]

theorem compose_of_absent {request : CallRequest} (hplain : request.decoration = .absent)
    (c : Component) :
    compose c request = request.pattern.showPart.fill request.plainValues
      ++ (request.call c).render := by
  rw [compose, hplain, plainValues, fill_showPart]
  rfl

theorem compose_eq_fill_plainTemplate {request : CallRequest}
    (hplain : request.decoration = .absent)
    (c : Component) :
    compose c request = request.pattern.plainTemplate.fill request.plainValues := by
  rw [compose_of_absent hplain, render_call_of_absent hplain, Pattern.plainTemplate,
    Template.fill_append, Template.fill_append, Template.fill_fixed, Template.fill_nil,
    String.append_empty, String.append_assoc]

end CallRequest

/-- **The indicator is shown once and hidden on every way out.** The text `start` stands in front of
the call and `rest` follows its declaration. -/
theorem compose_indicator_statements (c : Component) {request : CallRequest}
    (hplain : request.decoration = .absent)
    (hfree : ∀ text ∈ request.texts, ¬ "Incrementally".toList <:+: text.toList) :
    let script := compose c request
    ((∀ id ∈ request.indicatorId, isBlank id = true) →
      occurrences "Wicket.showIncrementally" script = 0 ∧
      occurrences "Wicket.hideIncrementally" script = 0) ∧
    ∀ id, request.indicatorId = some id → isBlank id = false →
      let statement (name : String) := name ++ "('" ++ id ++ "');"
      let count := if request.precondition.isSome then 3 else 2
      ∃ start rest : String,
        script = start ++ (request.call c).render ∧ (request.call c).render = "var wcall=" ++ rest ∧
        occurrences (statement "Wicket.showIncrementally") start = 1 ∧
        occurrences (statement "Wicket.showIncrementally") script = 1 ∧
        occurrences (statement "Wicket.hideIncrementally") rest = count ∧
        occurrences (statement "Wicket.hideIncrementally") script = count ∧
        ∀ name ∈ ["Wicket.showIncrementally", "Wicket.hideIncrementally"],
          ∀ before after : String, script = before ++ name ++ after →
            ∃ more : String, after = "('" ++ id ++ "');" ++ more := by
  intro script
  let p := request.pattern
  have hscript : script = p.plainTemplate.fill request.plainValues :=
    CallRequest.compose_eq_fill_plainTemplate hplain c
  have hshowName : "Incrementally".toList <:+: Client.showFunction.toList :=
    ⟨"Wicket.show".toList, [], by decide⟩
  have hhideName : "Incrementally".toList <:+: Client.hideFunction.toList :=
    ⟨"Wicket.hide".toList, [], by decide⟩
  have hshow := occurrences_of_template Client.showFunction (by decide)
    (CallRequest.places_plainValues_eq_zero (by decide) hshowName hfree)
    (p.fill_plainTemplate_showPart request.plainValues) p.parts_plainTemplate.1
    p.fixedPlaces_plainTemplate.1 p.places_showPart
  have hhide := occurrences_of_template Client.hideFunction (by decide)
    (CallRequest.places_plainValues_eq_zero (by decide) hhideName hfree)
    (p.fill_plainTemplate_plainCallPart request.plainValues) p.parts_plainTemplate.2
    p.fixedPlaces_plainTemplate.2 p.places_plainCallPart
  rw [← hscript] at hshow hhide
  refine ⟨?_, ?_⟩
  · intro hblank
    have hnone : request.effectiveIndicator = none := CallRequest.effectiveIndicator_eq_none hblank
    have hindicator : p.indicator = false := by simp [p, CallRequest.pattern, hnone]
    have hshows : p.shows = 0 := by simp [Pattern.shows, hindicator]
    have hhides : p.hides = 0 := by simp [Pattern.hides, hindicator]
    exact ⟨hshow.1.trans hshows, hhide.1.trans hhides⟩
  · intro id hid hblank statement count
    have hsome := CallRequest.effectiveIndicator_eq_some hid hblank
    have hshows : p.shows = 1 := by simp [Pattern.shows, p, CallRequest.pattern, hsome]
    have hhides : p.hides = count := by simp [Pattern.hides, count, p, CallRequest.pattern, hsome]
    have hstatement (function : String) :
        (indicatorTemplate function).fill request.plainValues = statement function :=
      request.fill_indicatorTemplate _ _ hsome function
    rw [hstatement, hshows] at hshow
    rw [hstatement, hhides] at hhide
    refine ⟨p.showPart.fill request.plainValues, p.plainCallPart.fill request.plainValues,
      CallRequest.compose_of_absent hplain c, CallRequest.render_call_of_absent hplain c,
      hshow.2.2, hshow.2.1, hhide.2.2, hhide.2.1, ?_⟩
    intro name hname before after hsplit
    have hargument (function : String) :
        statement function = function ++ ("('" ++ id ++ "');") := by
      simp [statement, String.append_assoc]
    rw [hargument] at hshow hhide
    simp only [List.mem_cons, List.not_mem_nil, or_false] at hname
    rcases hname with rfl | rfl
    · have hle := Nat.le_of_eq (hshow.1.trans hshow.2.1.symm)
      exact exists_eq_append_of_occurrences_le (by decide) hle hsplit
    · have hle := Nat.le_of_eq (hhide.1.trans hhide.2.1.symm)
      exact exists_eq_append_of_occurrences_le (by decide) hle hsplit

def lookalikeCall (id : String) : CallRequest where
  partialCall := "wicketAjaxGet('Wicket.show'"
  success := some "Wicket.hide"
  precondition := some "return Increment && ally();"
  indicatorId := some id
  channel := some ⟨"Wicket.showIncremental"⟩

theorem compose_indicator_statements_lookalike :
    let page : Component := .root { markupId := "page" }
    let lacks (id : String) : Prop :=
      ∀ text ∈ (lookalikeCall id).texts, ¬ "Incrementally".toList <:+: text.toList
    (lookalikeCall "Wicket.show").decoration = .absent ∧ lacks "Wicket.show" ∧
      isBlank "Wicket.show" = false ∧
      occurrences "Wicket.showIncrementally('Wicket.show');"
        (compose page (lookalikeCall "Wicket.show")) = 1 ∧
      occurrences "Wicket.hideIncrementally('Wicket.show');"
        (compose page (lookalikeCall "Wicket.show")) = 3 ∧
      lacks " " ∧
      occurrences "Wicket.hideIncrementally" (compose page (lookalikeCall " ")) = 0 := by
  intro page lacks
  have hlacks (id : String) (hid : places "Incrementally".toList id.toList = 0) : lacks id := by
    intro text htext
    rw [← places_eq_zero_iff (by decide)]
    simp only [CallRequest.texts, lookalikeCall, Option.toList, Option.map, List.mem_cons,
      List.mem_append, List.not_mem_nil, or_false] at htext
    rcases htext with rfl | (((rfl | rfl) | rfl) | rfl)
    · decide
    · decide
    · decide
    · exact hid
    · decide
  have hshown : lacks "Wicket.show" := hlacks _ (by decide)
  have hblank : lacks " " := hlacks _ (by decide)
  have hid : isBlank "Wicket.show" = false := by decide
  obtain ⟨start, rest, -, -, -, hshow, -, hhide, -⟩ :=
    (compose_indicator_statements page rfl hshown).2 "Wicket.show" rfl hid
  refine ⟨rfl, hshown, hid, hshow, hhide, hblank, ?_⟩
  refine ((compose_indicator_statements page rfl hblank).1 ?_).2
  rintro id ⟨⟩
  decide

end AjaxCallback
