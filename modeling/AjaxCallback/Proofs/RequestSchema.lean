import AjaxCallback.Proofs.DecorationTables

/-!
# Which data trees are requests

The entries of a request and of the records in it have to be of the declared types. Apart from the
numbers among the decorators, which have to be ones that can be held, that is all it takes.
-/

namespace AjaxCallback

open Toml

variable {entries : Entries}

/-! ### Preconditions -/

namespace PreconditionSpec

def written : PreconditionSpec → Value
  | enabled wanted => .boolean wanted
  | script text => .string text

theorem decode_eq_ok_iff {v : Value} {precondition : PreconditionSpec} :
    decode v = .ok precondition ↔ v = precondition.written := by
  cases v with
  | boolean b =>
      have hdecode : decode (.boolean b) = .ok (.enabled b) := rfl
      cases precondition <;> simp [hdecode, written]
  | string text =>
      have hdecode : decode (.string text) = .ok (.script text) := rfl
      cases precondition <;> simp [hdecode, written, eq_comm]
  | _ => cases precondition <;> simp [decode, check_bind_eq_ok_iff, written]

theorem isBoolean_or_isString_iff {v : Value} :
    IsBoolean v ∨ IsString v ↔ ∃ precondition : PreconditionSpec, v = precondition.written := by
  constructor
  · rintro (⟨wanted, rfl⟩ | ⟨text, rfl⟩)
    · exact ⟨.enabled wanted, rfl⟩
    · exact ⟨.script text, rfl⟩
  · rintro ⟨precondition, rfl⟩
    cases precondition with
    | enabled wanted => exact Or.inl ⟨wanted, rfl⟩
    | script text => exact Or.inr ⟨text, rfl⟩

theorem check_decode_eq_ok_iff {v : Value} :
    check decode v = .ok () ↔ IsBoolean v ∨ IsString v := by
  simp only [check_eq_ok_iff, decode_eq_ok_iff, isBoolean_or_isString_iff]

end PreconditionSpec

/-! ### Requests -/

namespace Request

def textNames : List String :=
  ["callback-url", "partial-call", "success", "failure", "indicator", "channel"]

structure Typed (entries : Entries) : Prop where
  only : entries.Only ["callback-url", "partial-call", "success", "failure", "precondition",
    "indicator", "channel", "component", "decorators"]
  texts : ∀ name ∈ textNames, entries.May name IsString
  precondition : entries.May "precondition" fun v => IsBoolean v ∨ IsString v
  component : entries.Has "component" (IsTable ComponentSpec.Typed)
  decorators : entries.May "decorators" (IsList (IsTable DecorationSpec.Typed))

/-- The tables of the decorators can be set aside. -/
def DecorationsHeld (entries : Entries) : Prop :=
  entries.May "decorators" (IsList (IsTable DecorationSpec.Held))

structure ReadFrom (request : Request) (entries : Entries) : Prop where
  callbackUrl : entries.lookup "callback-url" = request.callbackUrl.map .string
  partialCall : entries.lookup "partial-call" = request.partialCall.map .string
  success : entries.lookup "success" = request.success.map .string
  failure : entries.lookup "failure" = request.failure.map .string
  precondition :
    entries.OrElse "precondition" (.enabled true) PreconditionSpec.written request.precondition
  indicator : entries.lookup "indicator" = request.indicator.map .string
  channel : entries.lookup "channel" = request.channel.map .string
  component : ∃ fields : Entries, entries.lookup "component" = some (.table fields) ∧
    request.component.ReadFrom fields
  decorations : entries.Records "decorators" DecorationSpec.ReadFrom request.decorations

/-- No component, ancestor or decorator is written as a list of its fields. -/
structure RecordsInTables (entries : Entries) : Prop where
  component : entries.May "component" NotList
  ancestors : entries.May "component" fun v =>
    ∀ fields : Entries, v = .table fields → fields.May "ancestors" NoListOfLists
  decorators : entries.May "decorators" NoListOfLists

variable {request : Request}

/-- What both conditions on the decorators ask of their list. -/
def typedAndHeld : Value → Prop :=
  IsList (IsTable fun fields => DecorationSpec.Typed fields ∧ DecorationSpec.Held fields)

theorem may_typedAndHeld_iff :
    entries.May "decorators" typedAndHeld ↔
      entries.May "decorators" (IsList (IsTable DecorationSpec.Typed)) ∧
        DecorationsHeld entries := by
  simp only [Entries.May, typedAndHeld, isList_isTable_and_iff, DecorationsHeld, forall_and]

theorem RecordsInTables.component_eq_ok_iff (h : RecordsInTables entries) {v : Value}
    {component : ComponentSpec} (hv : ("component", v) ∈ entries) :
    ComponentSpec.decode v = .ok component ↔
      IsTable ComponentSpec.Typed v ∧ TableOf ComponentSpec.ReadFrom v component :=
  ComponentSpec.decode_eq_ok_iff (h.component v hv) (h.ancestors v hv)

theorem RecordsInTables.check_component_eq_ok_iff (h : RecordsInTables entries) :
    (entries.May "component" fun v => check ComponentSpec.decode v = .ok ()) ↔
      entries.May "component" (IsTable ComponentSpec.Typed) := by
  refine forall₂_congr fun v hv => ?_
  simp only [check_eq_ok_iff, h.component_eq_ok_iff hv]
  constructor
  · exact fun ⟨_, htyped, _⟩ => htyped
  · rintro ⟨fields, rfl, htyped⟩
    obtain ⟨component, hcomponent⟩ := htyped.exists_readFrom
    exact ⟨component, ⟨fields, rfl, htyped⟩, fields, rfl, hcomponent⟩

theorem RecordsInTables.required_component_eq_ok_iff (h : RecordsInTables entries)
    (htyped : entries.May "component" (IsTable ComponentSpec.Typed)) {component : ComponentSpec} :
    required entries "component" ComponentSpec.decode = .ok component ↔
      ∃ fields : Entries, entries.lookup "component" = some (.table fields) ∧
        component.ReadFrom fields := by
  rw [required_eq_ok_iff]
  constructor
  · rintro ⟨v, hv, hdecoded⟩
    obtain ⟨-, fields, rfl, hread⟩ :=
      (h.component_eq_ok_iff (mem_of_lookup_eq_some hv)).mp hdecoded
    exact ⟨fields, hv, hread⟩
  · rintro ⟨fields, hv, hread⟩
    have hmem := mem_of_lookup_eq_some hv
    exact ⟨_, hv, (h.component_eq_ok_iff hmem).mpr ⟨htyped _ hmem, fields, rfl, hread⟩⟩

theorem forM_checkEntry_eq_ok_iff (h : RecordsInTables entries) :
    entries.forM schema.checkEntry = .ok () ↔
      entries.Only ["callback-url", "partial-call", "success", "failure", "precondition",
        "indicator", "channel", "component", "decorators"] ∧
      (∀ name ∈ textNames, entries.May name IsString) ∧
      (entries.May "precondition" fun v => IsBoolean v ∨ IsString v) ∧
      entries.May "component" (IsTable ComponentSpec.Typed) ∧
      entries.May "decorators" typedAndHeld := by
  have hdecorators :
      (entries.May "decorators" fun v => check (list DecorationSpec.decode) v = .ok ()) ↔
        entries.May "decorators" typedAndHeld :=
    forall₂_congr fun v hv =>
      DecorationSpec.readsTables_decode.check_list_eq_ok_iff (h.decorators v hv)
  rw [Schema.forM_checkEntry_eq_ok_iff (by decide), ← h.check_component_eq_ok_iff, ← hdecorators]
  simp only [schema, Schema.names, textNames, List.forall_mem_cons, List.map_cons, List.map_nil,
    check_string_eq_ok_iff, PreconditionSpec.check_decode_eq_ok_iff]
  tauto

theorem ofEntries_eq_ok_iff (h : RecordsInTables entries) :
    ofEntries entries = .ok request ↔
      (Typed entries ∧ DecorationsHeld entries) ∧ request.ReadFrom entries := by
  rw [ofEntries, check_bind_eq_ok_iff, forM_checkEntry_eq_ok_iff h]
  simp only [bind_eq_ok_iff, pure_eq_ok_iff, optional_written_eq_ok_iff string_eq_ok_iff,
    defaulting_written_eq_ok_iff PreconditionSpec.decode_eq_ok_iff]
  constructor
  · rintro ⟨⟨honly, htexts, hprecondition, hcomponent, hdecorators⟩, callbackUrl, hcallbackUrl,
      partialCall, hpartialCall, success, hsuccess, failure, hfailure, precondition,
      hprecondition_read, indicator, hindicator, channel, hchannel, component, hcomponent_read,
      decorations, hdecorations, rfl⟩
    rw [h.required_component_eq_ok_iff hcomponent] at hcomponent_read
    rw [DecorationSpec.readsTables_decode.defaulting_eq_ok_iff h.decorators hdecorators]
      at hdecorations
    obtain ⟨fields, hlookup, hfields⟩ := hcomponent_read
    have htyped := may_typedAndHeld_iff.mp hdecorators
    have hhas := Entries.has_of_lookup hlookup hcomponent
    exact ⟨⟨⟨honly, htexts, hprecondition, hhas, htyped.1⟩, htyped.2⟩, hcallbackUrl, hpartialCall,
      hsuccess, hfailure, hprecondition_read, hindicator, hchannel, ⟨fields, hlookup, hfields⟩,
      hdecorations⟩
  · rintro ⟨⟨htyped, hheld⟩, hreads⟩
    have hdecorators := may_typedAndHeld_iff.mpr ⟨htyped.decorators, hheld⟩
    have hcomponent_read := (h.required_component_eq_ok_iff htyped.component.2).mpr hreads.component
    have hdecorations := (DecorationSpec.readsTables_decode.defaulting_eq_ok_iff h.decorators
      hdecorators).mpr hreads.decorations
    exact ⟨⟨htyped.only, htyped.texts, htyped.precondition, htyped.component.2, hdecorators⟩, _,
      hreads.callbackUrl, _, hreads.partialCall, _, hreads.success, _, hreads.failure, _,
      hreads.precondition, _, hreads.indicator, _, hreads.channel, _, hcomponent_read, _,
      hdecorations, rfl⟩

theorem exists_readFrom (htyped : Typed entries) (hheld : DecorationsHeld entries) :
    ∃ request : Request, request.ReadFrom entries := by
  have htext (name : String) (h : name ∈ textNames) :
      ∃ text : Option String, entries.lookup name = text.map .string :=
    (htyped.texts name h).exists_optional
  obtain ⟨callbackUrl, hcallbackUrl⟩ := htext "callback-url" (by decide)
  obtain ⟨partialCall, hpartialCall⟩ := htext "partial-call" (by decide)
  obtain ⟨success, hsuccess⟩ := htext "success" (by decide)
  obtain ⟨failure, hfailure⟩ := htext "failure" (by decide)
  obtain ⟨indicator, hindicator⟩ := htext "indicator" (by decide)
  obtain ⟨channel, hchannel⟩ := htext "channel" (by decide)
  have hwritten : entries.May "precondition" fun v => ∃ spec : PreconditionSpec, v = spec.written :=
    fun v hv => PreconditionSpec.isBoolean_or_isString_iff.mp (htyped.precondition v hv)
  obtain ⟨precondition, hprecondition⟩ := hwritten.exists_orElse (.enabled true)
  obtain ⟨_, hlookup, fields, rfl, hfields⟩ := htyped.component.exists_lookup
  obtain ⟨component, hcomponent⟩ := hfields.exists_readFrom
  obtain ⟨decorations, hdecorations⟩ := DecorationSpec.readsTables_decode.exists_records
    (may_typedAndHeld_iff.mpr ⟨htyped.decorators, hheld⟩)
  exact ⟨⟨callbackUrl, partialCall, success, failure, precondition, indicator, channel, component,
    decorations⟩, hcallbackUrl, hpartialCall, hsuccess, hfailure, hprecondition, hindicator,
    hchannel, ⟨fields, hlookup, hcomponent⟩, hdecorations⟩

/-- **Exactly the typed trees are requests.** Decoding succeeds when every field that is there has
its type and every number among the decorators can be held. The request has what is written down,
and an entry that no decoration of its kind has changes nothing if it can be set aside. -/
theorem decodes_exactly (h : RecordsInTables entries) :
    ((∃ request, ofEntries entries = .ok request) ↔ Typed entries ∧ DecorationsHeld entries) ∧
      (∀ request, ofEntries entries = .ok request → request.ReadFrom entries) ∧
        ∀ (before after : Entries) (name : String) (v : Value), v.Holdable → name ≠ "kind" →
          (∀ kind : DecorationSpec.Kind,
            List.lookup "kind" (before ++ after) = some (.string kind.name) →
              name ∉ kind.fieldNames) →
            DecorationSpec.decode (.table (before ++ (name, v) :: after)) =
              DecorationSpec.decode (.table (before ++ after)) := by
  refine ⟨⟨?_, ?_⟩, ?_, ?_⟩
  · rintro ⟨request, hrequest⟩
    exact ((ofEntries_eq_ok_iff h).mp hrequest).1
  · intro htyped
    obtain ⟨request, hrequest⟩ := exists_readFrom htyped.1 htyped.2
    exact ⟨request, (ofEntries_eq_ok_iff h).mpr ⟨htyped, hrequest⟩⟩
  · intro request hrequest
    exact ((ofEntries_eq_ok_iff h).mp hrequest).2
  · intro before after name v hv hname hextra
    exact DecorationSpec.ofEntries_extra hv hname hextra

/-- A throttled search below a form. -/
def search (remarks : Entries) : Entries :=
  [("callback-url", .string "?search"),
    ("component", .table [
      ("ancestors", .array [.table [("indicator", .string "busy"), ("markup-id", .string "form")]]),
      ("markup-id", .string "query")]),
    ("decorators", .array [.table (
      [("delay-ms", .integer 500), ("kind", .string "throttle")] ++ remarks ++
        [("throttle-id", .string "query")])]),
    ("precondition", .boolean false)]

def searchRequest : Request where
  callbackUrl := some "?search"
  precondition := .enabled false
  component := {
    element := { markupId := "query" }
    ancestors := [{ markupId := "form", indicator := some "busy" }] }
  decorations := [.throttle "query" 500]

theorem search_recordsInTables (remarks : Entries) : RecordsInTables (search remarks) where
  component := by simp [search, Entries.May, NotList]
  ancestors := by simp [search, Entries.May, NoListOfLists, NotList]
  decorators := by simp [search, Entries.May, NoListOfLists, NotList]

/-- A remark is no field of a throttle. -/
theorem search_decodes_exactly :
    let remarked := search [("remark", .integer 7)]
    RecordsInTables remarked ∧ (Typed remarked ∧ DecorationsHeld remarked) ∧
      searchRequest.ReadFrom remarked ∧
        DecorationSpec.decode (.table [("delay-ms", .integer 500), ("kind", .string "throttle"),
            ("remark", .integer 7), ("throttle-id", .string "query")]) =
          DecorationSpec.decode (.table [("delay-ms", .integer 500), ("kind", .string "throttle"),
            ("throttle-id", .string "query")]) := by
  intro remarked
  have hplain : RecordsInTables remarked := search_recordsInTables [("remark", .integer 7)]
  have hdecoded : ofEntries remarked = .ok searchRequest := by rfl
  have hheld : Value.Holdable (.integer 7) := by
    simp [Value.Holdable, Value.parts, Value.NumberFits]
  have hkind (kind : DecorationSpec.Kind) (h : Value.string "throttle" = .string kind.name) :
      "remark" ∉ kind.fieldNames := by
    cases kind with
    | throttle => decide
    | cancelEvent => simp [DecorationSpec.Kind.name] at h
    | wrap => simp [DecorationSpec.Kind.name] at h
  have hexact := decodes_exactly hplain
  refine ⟨hplain, hexact.1.mp ⟨_, hdecoded⟩, hexact.2.1 _ hdecoded, ?_⟩
  exact hexact.2.2 [("delay-ms", .integer 500), ("kind", .string "throttle")]
    [("throttle-id", .string "query")] "remark" (.integer 7) hheld (by decide)
    (fun kind h => hkind kind (Option.some.inj h))

/-- A decoration with a weight that has no nearest binary number. -/
def heavyDecoration : Entries :=
  [("kind", .string "cancel-event-if-no-ajax"), ("weight", .real (.finite ⟨false, 1, 400⟩))]

def heavy : Entries :=
  [("callback-url", .string "?search"), ("component", .table [("markup-id", .string "query")]),
    ("decorators", .array [.table heavyDecoration])]

/-- All types are right, there are no whole numbers, and a cancelled event has no weight. Yet the
weight is not passed over. -/
theorem heavy_not_decoded :
    RecordsInTables heavy ∧
      (∀ part ∈ (Value.table heavy).parts, ∀ n, part = .integer n →
        -9223372036854775808 ≤ n ∧ n ≤ 18446744073709551615) ∧
      Typed heavy ∧ ¬∃ request, ofEntries heavy = .ok request := by
  have hplain : RecordsInTables heavy := by
    constructor <;> simp [heavy, Entries.May, NoListOfLists, NotList]
  have hcomponent : ComponentSpec.Typed [("markup-id", .string "query")] := by
    refine ⟨⟨?_, ?_, ?_⟩, ?_, ?_⟩ <;> simp [Entries.Has, Entries.May, Entries.Only, IsString]
  have hdecoration : DecorationSpec.Typed heavyDecoration := by
    refine ⟨⟨by decide, ?_⟩, by simp [heavyDecoration], by simp [heavyDecoration]⟩
    intro v hv
    have hkind : v = .string "cancel-event-if-no-ajax" := by simpa [heavyDecoration] using hv
    exact ⟨.cancelEvent, hkind⟩
  have htyped : Typed heavy := by
    constructor
    case component => exact ⟨by decide, by simpa [heavy, Entries.May, IsTable] using hcomponent⟩
    case decorators => simpa [heavy, Entries.May, IsList, IsTable] using hdecoration
    all_goals simp [heavy, Entries.May, Entries.Only, textNames, IsString]
  have hfault : ofEntries heavy = .error .realOverflow := by rfl
  refine ⟨hplain, ?_, htyped, by simp [hfault]⟩
  simp [heavy, heavyDecoration, Value.parts, Value.partsOfEntries, Value.partsOfItems]

end Request

end AjaxCallback
