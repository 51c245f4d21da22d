import AjaxCallback.Behavior
import AjaxCallback.Proofs.Flattening

/-!
# The first owner of an indicator

Those who may own the indicator of a call are asked in a fixed order, and the first owner decides:
also one whose id is blank, which leaves the call without an indicator. So the ancestors of a
component show in the script of a behavior only through the id of that owner, and a blank id shows no
more than none.
-/

namespace AjaxCallback

open Text

namespace Component

/-- Those who may own the indicator of a call, in the order in which they are asked. -/
def owners (e : Element) (ancestors : List Element) (behavior : Option String) :
    List (Option String) :=
  e.indicator :: behavior :: ancestors.map Element.indicator

@[simp]
theorem element_ofLineage (e : Element) (ancestors : List Element) :
    (ofLineage e ancestors).element = e := by
  cases ancestors <;> rfl

theorem indicatorFor_ofLineage (e : Element) (ancestors : List Element) (behavior : Option String) :
    (ofLineage e ancestors).indicatorFor behavior
      = (owners e ancestors behavior).findSome? id := by
  have hancestors : (ofLineage e ancestors).parent.bind nearestIndicator
      = (ancestors.map Element.indicator).findSome? id := by
    rw [List.findSome?_map]
    cases ancestors with
    | nil => rfl
    | cons a rest =>
        have hparent : (ofLineage e (a :: rest)).parent = some (ofLineage a rest) := rfl
        rw [hparent, Option.bind_some, nearestIndicator_eq_findSome?, lineage_ofLineage]
        rfl
  rw [indicatorFor, hancestors, indicator, element_ofLineage, owners]
  cases e.indicator <;> cases behavior <;> rfl

end Component

/-- The part of a found id that has an effect. -/
def effectiveId (id : Option String) : Option String := id.filter fun id => !isBlank id

theorem effectiveId_of_blank {id : String} (h : isBlank id = true) :
    effectiveId (some id) = none := by
  rw [effectiveId, Option.filter_some, h]
  rfl

/-- A composed script depends on the component and the indicator through the effective id only. -/
theorem compose_congr {request : CallRequest} (hd : request.decoration.BuiltIn) (c c' : Component)
    {found : Option String} (hfound : effectiveId found = effectiveId request.indicatorId) :
    compose c' { request with indicatorId := found } = compose c request := by
  have hdecorate (hook : Hook) (text : String) :
      request.decoration.decorate hook c' text = request.decoration.decorate hook c text := by
    rw [hd.decorate_eq_foldr, hd.decorate_eq_foldr]
  have heffective : ({ request with indicatorId := found } : CallRequest).effectiveIndicator
      = request.effectiveIndicator := hfound
  rw [compose, compose, CallRequest.statement, CallRequest.statement, CallRequest.call,
    CallRequest.call, heffective]
  simp only [hdecorate]

namespace Behavior

variable {b : Behavior} {site : Component} {own : Option String}

/-- What a behavior puts out stays when it moves to a component that has the same place in the markup
and finds the same effective indicator. -/
theorem complete_congr (hd : b.decoration.BuiltIn) (hpage : site.isPage = b.component.isPage)
    (hid : site.markupId = b.component.markupId)
    (hfound : effectiveId (site.indicatorFor own) = effectiveId b.indicatorId)
    (partialCall : String) :
    ({ b with component := site, indicator := own } : Behavior).complete partialCall
      = b.complete partialCall := by
  have hprecondition :
      ({ b with component := site, indicator := own } : Behavior).preconditionScript
        = b.preconditionScript := by
    simp only [preconditionScript, defaultPrecondition, hpage, hid]
  have hrequest : ({ b with component := site, indicator := own } : Behavior).request partialCall
      = { b.request partialCall with indicatorId := site.indicatorFor own } := by
    rw [request, hprecondition]
    rfl
  rw [complete, complete, hrequest]
  exact compose_congr hd _ _ hfound

def withAncestors (b : Behavior) (e : Element) (ancestors : List Element) : Behavior :=
  { b with component := .ofLineage e ancestors }

/-- The behavior where nobody owns an indicator. -/
def ownerless (b : Behavior) (e : Element) (ancestors : List Element) : Behavior :=
  { b with
    component := .ofLineage { e with indicator := none }
      (ancestors.map fun a => { a with indicator := none })
    indicator := none }

theorem indicatorId_ownerless (b : Behavior) (e : Element) (ancestors : List Element) :
    (b.ownerless e ancestors).indicatorId = none := by
  rw [indicatorId, ownerless, Component.indicatorFor_ofLineage, List.findSome?_eq_none_iff]
  simp [Component.owners]

end Behavior

/-- Two ids that come to the same: they are equal, both absent, or both blank. -/
def SameEffect (found found' : Option String) : Prop :=
  found = found' ∨
    ∃ id id', found = some id ∧ found' = some id' ∧ isBlank id = true ∧ isBlank id' = true

theorem SameEffect.effectiveId_eq {found found' : Option String} (h : SameEffect found found') :
    effectiveId found' = effectiveId found := by
  rcases h with rfl | ⟨id, id', rfl, rfl, hid, hid'⟩
  · rfl
  · rw [effectiveId_of_blank hid, effectiveId_of_blank hid']

/-- **The first owner decides.** The indicator of a call is that of the first owner among the
component, the behavior and the ancestors from the nearest on, whatever its id, and there is none if
nobody owns one. Apart from that the ancestors leave no trace: two behaviors that differ in them only
put out the same scripts if their first owners come to the same, and a blank first owner gives the
scripts that the behavior has when there are no owners at all. -/
theorem first_owner_decides :
    (∀ (e : Element) (ancestors : List Element) (own : Option String),
      let owners := e.indicator :: own :: ancestors.map Element.indicator
      let found := (Component.ofLineage e ancestors).indicatorFor own
      (∀ id, found = some id ↔
        ∃ before after, owners = before ++ some id :: after ∧ ∀ owner ∈ before, owner = none) ∧
      (found = none ↔ ∀ owner ∈ owners, owner = none)) ∧
    (∀ (b : Behavior) (e : Element) (ancestors ancestors' : List Element), b.decoration.BuiltIn →
      let left := b.withAncestors e ancestors
      let right := b.withAncestors e ancestors'
      SameEffect left.indicatorId right.indicatorId →
        left.callbackScript = right.callbackScript ∧
          ∀ partialCall, left.complete partialCall = right.complete partialCall) ∧
    ∀ (b : Behavior) (e : Element) (ancestors : List Element), b.decoration.BuiltIn →
      let owned := b.withAncestors e ancestors
      let ownerless := b.ownerless e ancestors
      ∀ id, owned.indicatorId = some id → isBlank id = true →
        owned.callbackScript = ownerless.callbackScript ∧
          ∀ partialCall, owned.complete partialCall = ownerless.complete partialCall := by
  refine ⟨?_, ?_, ?_⟩
  · intro e ancestors own owners found
    have hfound : found = owners.findSome? id := Component.indicatorFor_ofLineage e ancestors own
    refine ⟨fun id' => ?_, ?_⟩
    · rw [hfound, List.findSome?_eq_some_iff]
      constructor
      · rintro ⟨before, _, after, hsplit, rfl, hbefore⟩
        exact ⟨before, after, hsplit, hbefore⟩
      · rintro ⟨before, after, hsplit, hbefore⟩
        exact ⟨before, _, after, hsplit, rfl, hbefore⟩
    · rw [hfound, List.findSome?_eq_none_iff]
      rfl
  · intro b e ancestors ancestors' hd left right hsame
    have hcomplete (partialCall : String) :
        left.complete partialCall = right.complete partialCall := by
      have helement : (Component.ofLineage e ancestors').element = left.component.element := by
        rw [Component.element_ofLineage]
        exact (Component.element_ofLineage e ancestors).symm
      exact (Behavior.complete_congr (b := left) hd (congrArg Element.page helement)
        (congrArg Element.markupId helement) hsame.effectiveId_eq partialCall).symm
    exact ⟨hcomplete _, hcomplete⟩
  · intro b e ancestors hd owned ownerless id hid hblank
    have hcomplete (partialCall : String) :
        owned.complete partialCall = ownerless.complete partialCall := by
      have helement : ownerless.component.element = { e with indicator := none } :=
        Component.element_ofLineage _ _
      have hown : owned.component.element = e := Component.element_ofLineage e ancestors
      have hpage : ownerless.component.isPage = owned.component.isPage := by
        rw [Component.isPage, Component.isPage, helement, hown]
      have hmarkupId : ownerless.component.markupId = owned.component.markupId := by
        rw [Component.markupId, Component.markupId, helement, hown]
      have hfound : effectiveId ownerless.indicatorId = effectiveId owned.indicatorId := by
        rw [b.indicatorId_ownerless, hid, effectiveId_of_blank hblank]
        rfl
      exact (Behavior.complete_congr (b := owned) hd hpage hmarkupId hfound partialCall).symm
    exact ⟨hcomplete _, hcomplete⟩

theorem first_owner_decides_blank :
    let cell : Element := { markupId := "cell" }
    let b : Behavior :=
      { component := .root cell, callbackUrl := "?go", decoration := .cancelEvent .absent }
    let row : Element := { markupId := "row", indicator := some " " }
    let table : Element := { markupId := "table", indicator := some "busy" }
    let page : Element := { markupId := "page", page := true, indicator := some "" }
    (b.withAncestors cell [row, table]).indicatorId = some " " ∧
      (b.withAncestors cell [row, table]).callbackScript
        = (b.withAncestors cell [page]).callbackScript ∧
      (b.withAncestors cell [row, table]).complete "go("
        = (b.ownerless cell [row, table]).complete "go(" := by
  intro cell b row table page
  have hd : b.decoration.BuiltIn := .cancelEvent .absent
  have hrow : (b.withAncestors cell [row, table]).indicatorId = some " " :=
    ((first_owner_decides.1 cell [row, table] none).1 " ").mpr
      ⟨[none, none], [some "busy"], rfl, by simp⟩
  have hsame : SameEffect (b.withAncestors cell [row, table]).indicatorId
      (b.withAncestors cell [page]).indicatorId :=
    Or.inr ⟨" ", "", hrow, rfl, by decide, by decide⟩
  exact ⟨hrow, (first_owner_decides.2.1 b cell _ _ hd hsame).1,
    (first_owner_decides.2.2 b cell _ hd " " hrow (by decide)).2 "go("⟩

end AjaxCallback
