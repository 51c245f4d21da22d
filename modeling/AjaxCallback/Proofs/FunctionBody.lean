import AjaxCallback.Proofs.RequestScript
import AjaxCallback.Proofs.Template

/-!
# The function body in which the event is cancelled

The statement that cancels the event reads the variable that the call declares, so it has to stand
in the same function body. A throttle moves what it wraps into a function of its own. With braces
in the fixed texts only, the nesting depth between the declaration and a return statement tells how
many throttles were put between the two: the return statement sees the variable when there are none.
-/

namespace AjaxCallback.Text

def isBrace (c : Char) : Bool := c == '\x7b' || c == '\x7d'

def braces (w : List Char) : List Char := w.filter isBrace

/-- How much deeper in braces a text ends than it starts. -/
def depth (w : List Char) : Int := w.count '\x7b' - w.count '\x7d'

/-- The text ends in the function body in which it starts, and does not leave it in between. -/
structure SameBody (w : List Char) : Prop where
  level : depth w = 0
  inside : ∀ v, v <+: w → 0 ≤ depth v

def BraceFree (text : String) : Prop := ∀ c ∈ text.toList, isBrace c = false

instance : DecidablePred BraceFree :=
  fun text => decidable_of_iff (text.toList.all (!isBrace ·)) (by simp [BraceFree])

theorem depth_append (u v : List Char) : depth (u ++ v) = depth u + depth v := by
  simp only [depth, List.count_append]
  omega

theorem depth_braces (w : List Char) : depth (braces w) = depth w := by
  rw [depth, depth, braces, List.count_filter (by decide), List.count_filter (by decide)]

theorem braces_append (u v : List Char) : braces (u ++ v) = braces u ++ braces v :=
  List.filter_append ..

theorem braceFree_iff {text : String} : BraceFree text ↔ braces text.toList = [] := by
  rw [BraceFree, braces, List.filter_eq_nil_iff]
  simp

theorem braceFree_append {s t : String} : BraceFree (s ++ t) ↔ BraceFree s ∧ BraceFree t := by
  simp only [BraceFree, String.toList_append, List.forall_mem_append]

theorem braceFree_empty : BraceFree "" := by
  rw [braceFree_iff]
  rfl

theorem depth_of_braceFree {text : String} (h : BraceFree text) : depth text.toList = 0 := by
  rw [← depth_braces, braceFree_iff.mp h]
  rfl

theorem SameBody.of_braces {w : List Char} (h : SameBody (braces w)) : SameBody w where
  level := by rw [← depth_braces, h.level]
  inside := by
    intro v hv
    rw [← depth_braces]
    exact h.inside _ (hv.filter _)

theorem sameBody_iff_take (w : List Char) :
    SameBody w ↔ depth w = 0 ∧ ∀ n ≤ w.length, 0 ≤ depth (w.take n) := by
  constructor
  · exact fun h => ⟨h.level, fun n _ => h.inside _ (List.take_prefix n w)⟩
  · rintro ⟨hlevel, hinside⟩
    refine ⟨hlevel, fun v hv => ?_⟩
    rw [List.prefix_iff_eq_take.mp hv]
    exact hinside _ hv.length_le

instance : DecidablePred SameBody := fun w => decidable_of_iff _ (sameBody_iff_take w).symm

end AjaxCallback.Text

namespace AjaxCallback

open Text

/-! ### The call without its declaration -/

def Piece.braces : Piece → List Char
  | fixed text => Text.braces text.toList
  | field _ => []

/-- A template whose fields are free of braces has the braces of its fixed texts. -/
theorem Template.braces_fill {values : Field → String} (hvalues : ∀ f, BraceFree (values f))
    (t : Template) : braces (t.fill values).toList = t.flatMap Piece.braces := by
  induction t with
  | nil => rfl
  | cons p t ih =>
      rw [fill, String.toList_append, braces_append, ih, List.flatMap_cons]
      cases p with
      | fixed text => rfl
      | field f =>
          rw [Piece.fill, braceFree_iff.mp (hvalues f)]
          rfl

/-- Each function that the call opens it closes again. -/
theorem Pattern.sameBody_flatMap_callPart (p : Pattern) :
    SameBody ((p.callPart [.field .success] [.field .failure]).flatMap Piece.braces) := by
  rcases p with ⟨_ | _, _ | _, _ | _⟩ <;> decide

/-! ### The texts of a request -/

def DecorationSpec.texts : DecorationSpec → List String
  | cancelEvent => []
  | throttle id _ => [id]
  | wrap w => [w.script, w.success, w.failure].flatMap fun wrap => [wrap.before, wrap.after]

def PreconditionSpec.texts : PreconditionSpec → List String
  | enabled _ => []
  | script text => [text]

def Element.texts (e : Element) : List String := e.markupId :: e.indicator.toList

/-- The texts of a request that can end up in its script. -/
def Request.texts (request : Request) : List String :=
  request.callbackUrl.toList ++ request.partialCall.toList ++ request.success.toList
    ++ request.failure.toList ++ request.precondition.texts ++ request.indicator.toList
    ++ request.channel.toList
    ++ (request.component.element :: request.component.ancestors).flatMap Element.texts
    ++ request.decorations.flatMap DecorationSpec.texts

namespace DecorationSpec

def isThrottle : DecorationSpec → Bool
  | throttle _ _ => true
  | cancelEvent | wrap _ => false

theorem braceFree_surround {spec : DecorationSpec} (hspec : ∀ text ∈ spec.texts, BraceFree text)
    {hook : Hook} (hhook : hook = .script → spec.isThrottle = false) :
    BraceFree (spec.surround hook).before ∧ BraceFree (spec.surround hook).after := by
  cases spec with
  | cancelEvent => cases hook <;> decide
  | throttle id milliseconds =>
      cases hook with
      | script => exact absurd (hhook rfl) nofun
      | success => exact ⟨braceFree_empty, braceFree_empty⟩
      | failure => exact ⟨braceFree_empty, braceFree_empty⟩
  | wrap w =>
      have hmem : (w.wrap hook).before ∈ texts (.wrap w)
          ∧ (w.wrap hook).after ∈ texts (.wrap w) := by
        cases hook <;> simp [texts, Wrapping.wrap]
      exact ⟨hspec _ hmem.1, hspec _ hmem.2⟩

theorem depth_surround_after {spec : DecorationSpec} (hspec : ∀ text ∈ spec.texts, BraceFree text) :
    depth (spec.surround .script).after.toList = if spec.isThrottle then -1 else 0 := by
  cases hthrottle : spec.isThrottle with
  | true =>
      cases spec with
      | throttle id milliseconds =>
          have hclosing : depth "\x7d.bind(this));".toList = -1 := by decide
          exact hclosing
      | cancelEvent => cases hthrottle
      | wrap w => cases hthrottle
  | false =>
      rw [depth_of_braceFree (braceFree_surround hspec fun _ => hthrottle).2]
      rfl

theorem braceFree_nested {specs : List DecorationSpec}
    (hspecs : ∀ spec ∈ specs, ∀ text ∈ spec.texts, BraceFree text) {hook : Hook}
    (hhook : hook = .script → ∀ spec ∈ specs, spec.isThrottle = false) :
    BraceFree (Wrap.nested (specs.map fun spec => spec.surround hook)).before ∧
      BraceFree (Wrap.nested (specs.map fun spec => spec.surround hook)).after := by
  induction specs with
  | nil => exact ⟨braceFree_empty, braceFree_empty⟩
  | cons spec specs ih =>
      rw [List.forall_mem_cons] at hspecs
      have hfirst := braceFree_surround hspecs.1 fun h => hhook h spec List.mem_cons_self
      have hrest := ih hspecs.2 fun h s hs => hhook h s (List.mem_cons_of_mem _ hs)
      rw [List.map_cons, Wrap.before_nested_cons, Wrap.after_nested_cons, braceFree_append,
        braceFree_append]
      exact ⟨⟨hfirst.1, hrest.1⟩, hrest.2, hfirst.2⟩

/-- Behind the script each throttle closes one function. -/
theorem depth_after_nested {specs : List DecorationSpec}
    (hspecs : ∀ spec ∈ specs, ∀ text ∈ spec.texts, BraceFree text) :
    depth (Wrap.nested (specs.map fun spec => spec.surround .script)).after.toList
      = -(specs.countP isThrottle : Int) := by
  induction specs with
  | nil => rfl
  | cons spec specs ih =>
      rw [List.forall_mem_cons] at hspecs
      rw [List.map_cons, Wrap.after_nested_cons, String.toList_append, depth_append, ih hspecs.2,
        depth_surround_after hspecs.1, List.countP_cons]
      cases spec.isThrottle with
      | true => simp; omega
      | false => simp

end DecorationSpec

theorem Component.mem_of_indicatorFor {c : Component} {behavior : Option String} {id : String}
    (h : c.indicatorFor behavior = some id) :
    behavior = some id ∨ ∃ e ∈ c.lineage, e.indicator = some id := by
  rw [indicatorFor, Option.or_eq_some_iff, Option.or_eq_some_iff] at h
  rcases h with hown | ⟨-, hbehavior | ⟨-, hancestor⟩⟩
  · cases c <;> exact Or.inr ⟨_, List.mem_cons_self, hown⟩
  · exact Or.inl hbehavior
  · cases c with
    | root e => cases hancestor
    | child e p =>
        have hnearest : p.nearestIndicator = some id := hancestor
        rw [nearestIndicator_eq_findSome?] at hnearest
        obtain ⟨a, ha, hid⟩ := List.exists_of_findSome?_eq_some hnearest
        exact Or.inr ⟨a, List.mem_cons_of_mem _ ha, hid⟩

theorem braceFree_hideSuffix {indicator : Option String} (hid : ∀ id ∈ indicator, BraceFree id) :
    BraceFree (hideSuffix indicator) := by
  cases indicator with
  | none => exact braceFree_empty
  | some id =>
      rw [hideSuffix, Client.hideIndicator]
      simp only [braceFree_append]
      exact ⟨by decide, ⟨⟨by decide, by decide⟩, hid id rfl⟩, by decide⟩

theorem braceFree_getD {text : Option String} (htext : ∀ s ∈ text, BraceFree s) :
    BraceFree (text.getD "") :=
  getD_empty_of_forall braceFree_empty htext

theorem braceFree_defaultPrecondition {c : Component} (hid : BraceFree c.markupId) :
    BraceFree (defaultPrecondition c) := by
  rw [defaultPrecondition]
  cases c.isPage with
  | true =>
      have hpage : BraceFree "return true;" := by decide
      exact hpage
  | false =>
      simp only [Bool.false_eq_true, if_false, Client.elementExists, braceFree_append]
      exact ⟨⟨by decide, ⟨⟨by decide, by decide⟩, hid⟩, by decide⟩, by decide⟩

namespace Request

variable {request : Request} (hbraces : ∀ text ∈ request.texts, BraceFree text)

include hbraces

theorem braceFree_texts_of_mem {spec : DecorationSpec} (hspec : spec ∈ request.decorations) :
    ∀ text ∈ spec.texts, BraceFree text := by
  intro text htext
  exact hbraces text (List.mem_append_right _ (List.mem_flatMap.mpr ⟨spec, hspec, htext⟩))

theorem braceFree_indicator {id : String}
    (hid : request.undecorated.effectiveIndicator = some id) : BraceFree id := by
  have hfound : request.component.toComponent.indicatorFor request.indicator = some id :=
    Option.eq_some_of_filter_eq_some hid
  apply hbraces
  rcases Component.mem_of_indicatorFor hfound with hown | ⟨e, he, hindicator⟩
  · simp [texts, hown]
  · rw [ComponentSpec.toComponent, Component.lineage_ofLineage] at he
    have htext : id ∈ e.texts := by simp [Element.texts, hindicator]
    have hmem : id ∈ (request.component.element :: request.component.ancestors).flatMap
        Element.texts := List.mem_flatMap.mpr ⟨e, he, htext⟩
    simp only [texts, List.mem_append, hmem, true_or, or_true]

theorem braceFree_partialCall : BraceFree request.undecorated.partialCall := by
  rw [undecorated]
  cases hpartial : request.partialCall with
  | some partialCall => exact hbraces _ (by simp [texts, hpartial])
  | none =>
      have hurl : BraceFree (request.callbackUrl.getD "") :=
        braceFree_getD fun url hurl => hbraces url (by simp_all [texts])
      rw [Option.getD_none, braceFree_append, braceFree_append]
      exact ⟨⟨by decide, hurl⟩, by decide⟩

theorem braceFree_precondition {p : String} (hp : request.undecorated.precondition = some p) :
    BraceFree p := by
  rw [undecorated] at hp
  cases hspec : request.precondition with
  | script text =>
      obtain rfl : text = p := by simpa [hspec] using hp
      exact hbraces _ (by simp [texts, hspec, PreconditionSpec.texts])
  | enabled wanted =>
      cases wanted with
      | false => simp [hspec] at hp
      | true =>
          obtain rfl : defaultPrecondition request.component.toComponent = p := by
            simpa [hspec] using hp
          apply braceFree_defaultPrecondition
          have hid : request.component.toComponent.markupId
              = request.component.element.markupId := by
            rw [ComponentSpec.toComponent]
            cases request.component.ancestors <;> rfl
          rw [hid]
          exact hbraces _ (by simp [texts, Element.texts])

theorem braceFree_decorate {d : Decoration}
    (hchain : DecorationSpec.chain request.decorations = .ok d) (c : Component) (hook : Hook)
    (hhook : hook ≠ .script) {text : String} (htext : BraceFree text) :
    BraceFree (d.decorate hook c text) := by
  -- Only a throttle writes braces, and it leaves the bodies of the handlers alone.
  have hwrap := DecorationSpec.braceFree_nested
    (fun _ hspec => braceFree_texts_of_mem hbraces hspec) (fun h => absurd h hhook)
  rw [DecorationSpec.decorate_of_chain hchain c fun h => absurd h hhook, Wrap.around,
    braceFree_append, braceFree_append]
  exact ⟨⟨hwrap.1, htext⟩, hwrap.2⟩

theorem braceFree_values {d : Decoration}
    (hchain : DecorationSpec.chain request.decorations = .ok d) (c : Component) (f : Field) :
    let decorated : CallRequest := { request.undecorated with decoration := d }
    BraceFree (decorated.values (decorated.call c).onSuccess (decorated.call c).onFailure f) := by
  intro decorated
  have hhide : BraceFree (hideSuffix request.undecorated.effectiveIndicator) :=
    braceFree_hideSuffix fun id hid => braceFree_indicator hbraces hid
  cases f with
  | partialCall => exact braceFree_partialCall hbraces
  | success =>
      have hraw : BraceFree (request.success.getD "") :=
        braceFree_getD fun s hs => hbraces s (by simp_all [texts])
      have hbody := braceFree_decorate hbraces hchain c .success (by decide) hraw
      exact braceFree_append.mpr ⟨hbody, hhide⟩
  | failure =>
      have hraw : BraceFree (request.failure.getD "") :=
        braceFree_getD fun s hs => hbraces s (by simp_all [texts])
      exact braceFree_decorate hbraces hchain c .failure (by decide)
        (braceFree_append.mpr ⟨hraw, hhide⟩)
  | precondition => exact braceFree_getD fun p hp => braceFree_precondition hbraces hp
  | indicator => exact braceFree_getD fun id hid => braceFree_indicator hbraces hid
  | channel =>
      refine braceFree_getD fun name hname => hbraces name ?_
      simp_all [decorated, undecorated, texts]

end Request

/-- The decorations of a request around one that cancels the event, outside it and inside. -/
theorem Request.script_eq_around {request : Request} {call : ConfiguredCall}
    (hbuild : request.build = .ok call) {outer inner : List DecorationSpec}
    (hsplit : request.decorations = outer ++ .cancelEvent :: inner) :
    ∃ d : Decoration, DecorationSpec.chain request.decorations = .ok d ∧
      call.script = (Wrap.nested (outer.map fun spec => spec.surround .script)).around
        ((Wrap.nested (inner.map fun spec => spec.surround .script)).around
          (CallRequest.statement { request.undecorated with decoration := d }
            request.component.toComponent) ++ "return !wcall;") := by
  obtain ⟨d, hchain, rfl⟩ := Request.build_eq_ok hbuild
  refine ⟨d, hchain, ?_⟩
  have hcancel (text : String) :
      (DecorationSpec.cancelEvent.surround .script).around text = text ++ "return !wcall;" := by
    simp [DecorationSpec.surround, Wrap.around]
  rw [request.script_behavior, compose,
    DecorationSpec.decorate_of_chain hchain _ fun _ => CallRequest.isBlank_statement _ _, hsplit,
    List.map_append, List.map_cons, Wrap.around_nested_append, Wrap.around_nested_cons, hcancel]

/-- The call behind its declaration ends in the function body in which it starts. -/
theorem Request.exists_statement_eq_append {request : Request}
    (hbraces : ∀ text ∈ request.texts, BraceFree text) {d : Decoration}
    (hchain : DecorationSpec.chain request.decorations = .ok d) :
    let plain := request.undecorated
    ∃ rest : String, SameBody (braces rest.toList) ∧
      CallRequest.statement { plain with decoration := d } request.component.toComponent
        = showStatement plain.effectiveIndicator plain.precondition ++ ("var wcall=" ++ rest) := by
  intro plain
  let c := request.component.toComponent
  let decorated : CallRequest := { plain with decoration := d }
  let values := decorated.values (decorated.call c).onSuccess (decorated.call c).onFailure
  have hsuccess : Template.fill values [.field .success] = (decorated.call c).onSuccess :=
    String.append_empty
  have hfailure : Template.fill values [.field .failure] = (decorated.call c).onFailure :=
    String.append_empty
  -- No value holds a brace, so the braces of the call are those of the fixed texts of its pattern.
  refine ⟨_, ?_, congrArg (showStatement plain.effectiveIndicator plain.precondition ++ ·)
    (decorated.render_call_eq_fill _ _ c hsuccess hfailure)⟩
  rw [Template.braces_fill (Request.braceFree_values hbraces hchain c)]
  exact decorated.pattern.sameBody_flatMap_callPart

/-- **Where the event is cancelled.** Each decoration that cancels the event writes one return
statement, behind what the decorations inside it write. The text between the declaration and that
statement closes one function for each throttle inside, so the statement sees the variable when
there is none, and only then. -/
theorem cancel_return_sameBody_iff {request : Request} {call : ConfiguredCall}
    (hbuild : request.build = .ok call) (hbraces : ∀ text ∈ request.texts, BraceFree text)
    {outer inner : List DecorationSpec}
    (hsplit : request.decorations = outer ++ .cancelEvent :: inner) :
    let around (specs : List DecorationSpec) : Wrap :=
      .nested (specs.map fun spec => spec.surround .script)
    let plain := request.undecorated
    ∃ between : String,
      call.script = (around outer).before ++ (around inner).before
        ++ showStatement plain.effectiveIndicator plain.precondition
        ++ "var wcall=" ++ between ++ "return !wcall;" ++ (around outer).after ∧
      depth between.toList = -(inner.countP DecorationSpec.isThrottle : Int) ∧
      (SameBody between.toList ↔ ∀ spec ∈ inner, spec.isThrottle = false) := by
  intro around plain
  obtain ⟨d, hchain, hscript⟩ := Request.script_eq_around hbuild hsplit
  obtain ⟨rest, hrest, hstatement⟩ := Request.exists_statement_eq_append hbraces hchain
  have hinner : ∀ spec ∈ inner, ∀ text ∈ spec.texts, BraceFree text := by
    intro spec hspec
    apply Request.braceFree_texts_of_mem hbraces
    rw [hsplit]
    exact List.mem_append_right _ (List.mem_cons_of_mem _ hspec)
  -- The call gives no depth of its own: what remains are the functions that throttles close.
  have hdepth : depth (rest ++ (around inner).after).toList
      = -(inner.countP DecorationSpec.isThrottle : Int) := by
    rw [String.toList_append, depth_append, DecorationSpec.depth_after_nested hinner,
      ← depth_braces, hrest.level, Int.zero_add]
  refine ⟨rest ++ (around inner).after, ?_, hdepth, ?_, ?_⟩
  · rw [hscript, hstatement]
    simp only [Wrap.around, around, plain, String.append_assoc]
  · intro hsame
    have hcount : inner.countP DecorationSpec.isThrottle = 0 := by
      have hlevel := hsame.level
      omega
    intro spec hspec
    simpa using List.countP_eq_zero.mp hcount spec hspec
  · intro hnone
    have hafter : BraceFree (around inner).after :=
      (DecorationSpec.braceFree_nested hinner fun _ => hnone).2
    apply SameBody.of_braces
    rwa [String.toList_append, braces_append, braceFree_iff.mp hafter, List.append_nil]

def keyedRequest (decorations : List DecorationSpec) : Request where
  partialCall := some "wicketAjaxGet('?search'"
  precondition := .enabled false
  component := { element := { markupId := "query" } }
  decorations

def typingThrottle : Throttle := ⟨"typing", .ofMilliseconds 500, by decide⟩

theorem cancel_return_sameBody_iff_between :
    let request := keyedRequest [.cancelEvent, .throttle "typing" 500, .cancelEvent]
    let opening := "wicketThrottler.throttle( 'typing', 500, function() \x7b "
    ∃ call : ConfiguredCall, request.build = .ok call ∧ (∀ text ∈ request.texts, BraceFree text) ∧
      (∃ between : String, SameBody between.toList ∧
        call.script = opening ++ "var wcall=" ++ between ++ "return !wcall;"
          ++ "\x7d.bind(this));return !wcall;") ∧
      ∃ between : String, depth between.toList = -1 ∧ ¬ SameBody between.toList ∧
        call.script = opening ++ "var wcall=" ++ between ++ "return !wcall;" := by
  intro request opening
  have hbuild : request.build = .ok
      { behavior := request.behavior
          (.cancelEvent (.throttle typingThrottle (.cancelEvent .absent)))
        partialCall := some "wicketAjaxGet('?search'" } := rfl
  have hbraces : ∀ text ∈ request.texts, BraceFree text := by decide
  have hlast : request.decorations
      = [.cancelEvent, .throttle "typing" 500] ++ .cancelEvent :: [] := rfl
  have hfirst : request.decorations
      = [] ++ .cancelEvent :: [.throttle "typing" 500, .cancelEvent] := rfl
  obtain ⟨inside, hinside, -, hinsideBody⟩ := cancel_return_sameBody_iff hbuild hbraces hlast
  obtain ⟨outside, houtside, hdepth, houtsideBody⟩ :=
    cancel_return_sameBody_iff hbuild hbraces hfirst
  refine ⟨_, hbuild, hbraces, ⟨inside, hinsideBody.mpr nofun, hinside⟩, outside, hdepth, ?_,
    houtside.trans String.append_empty⟩
  intro hsame
  exact absurd (houtsideBody.mp hsame _ List.mem_cons_self) (by decide)

/-- With the throttle inside, the only statement reads the variable outside the function that
declares it. -/
theorem cancel_return_outside_throttle :
    let request := keyedRequest [.cancelEvent, .throttle "typing" 500]
    ∃ call : ConfiguredCall, request.build = .ok call ∧
      (∀ text ∈ request.texts, BraceFree text ∧ occurrences "wcall" text = 0) ∧
      occurrences "wcall" call.script = 2 ∧
      ∃ before between : String,
        call.script = before ++ "var wcall=" ++ between ++ "return !wcall;" ∧
        ¬ SameBody between.toList := by
  intro request
  let call : ConfiguredCall :=
    { behavior := request.behavior (.cancelEvent (.throttle typingThrottle .absent))
      partialCall := some "wicketAjaxGet('?search'" }
  let opening := "wicketThrottler.throttle( 'typing', 500, function() \x7b "
  let handler := ",function() \x7b \x7d.bind(this)"
  let between := "wicketAjaxGet('?search'" ++ handler ++ handler ++ ");\x7d.bind(this));"
  have hscript : call.script = opening ++ "var wcall=" ++ between ++ "return !wcall;" := by
    decide +kernel
  have hbody : ¬ SameBody between.toList := by decide +kernel
  have hcount : occurrences "wcall" call.script = 2 := by
    rw [hscript]
    decide +kernel
  exact ⟨call, rfl, by decide, hcount, opening, between, hscript, hbody⟩

end AjaxCallback
