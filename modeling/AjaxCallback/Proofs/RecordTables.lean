import AjaxCallback.Proofs.TypedEntries
import AjaxCallback.Request.Schema

/-!
# Records in tables

Which tables are records of a request, and what is read from them: what is written there, or the
default of a field that is left out. Components with their ancestors come first, since they know all
of their fields and nothing in them is set aside.
-/

namespace AjaxCallback

open Toml

variable {entries : Entries}

/-! ### Records in tables -/

section Records

variable {α : Type}

def NotList (v : Value) : Prop := ∀ items, v ≠ .array items

/-- What stands in a list is no list itself. -/
def NoListOfLists (v : Value) : Prop := ∀ items, v = .array items → ∀ item ∈ items, NotList item

/-- The value is the table that a record is read from. -/
def TableOf (reads : α → Entries → Prop) (v : Value) (record : α) : Prop :=
  ∃ entries, v = .table entries ∧ reads record entries

/-- A field with a list of records, in their order. It may be left out if there are none. -/
def Toml.Entries.Records (entries : Entries) (name : String) (reads : α → Entries → Prop)
    (records : List α) : Prop :=
  entries.lookup name = none ∧ records = [] ∨
    ∃ items, entries.lookup name = some (.array items) ∧
      List.Forall₂ (TableOf reads) items records

/-- Unless it is given a list, the decoder takes the tables with entries of the right types. -/
structure ReadsTables (decode : Decoder α) (typed : Entries → Prop) (reads : α → Entries → Prop) :
    Prop where
  eq_ok_iff : ∀ {v record}, NotList v →
    (decode v = .ok record ↔ IsTable typed v ∧ TableOf reads v record)
  exists_reads : ∀ {entries}, typed entries → ∃ record, reads record entries

namespace ReadsTables

variable {decode : Decoder α} {typed : Entries → Prop} {reads : α → Entries → Prop}
  {v : Value} {name : String} {records : List α}

theorem exists_forall₂ (h : ReadsTables decode typed reads) {items : List Value}
    (htyped : ∀ item ∈ items, IsTable typed item) :
    ∃ records, List.Forall₂ (TableOf reads) items records := by
  induction items with
  | nil => exact ⟨[], .nil⟩
  | cons item items ih =>
      obtain ⟨⟨fields, rfl, hfields⟩, hitems⟩ := List.forall_mem_cons.mp htyped
      obtain ⟨record, hrecord⟩ := h.exists_reads hfields
      obtain ⟨records, hrecords⟩ := ih hitems
      exact ⟨record :: records, .cons ⟨fields, rfl, hrecord⟩ hrecords⟩

theorem list_eq_ok_iff (h : ReadsTables decode typed reads) (hv : NoListOfLists v) :
    list decode v = .ok records ↔
      IsList (IsTable typed) v ∧
        ∃ items, v = .array items ∧ List.Forall₂ (TableOf reads) items records := by
  have hitems (items : List Value) (hplain : ∀ item ∈ items, NotList item) :
      List.Forall₂ (fun v record => decode v = .ok record) items records ↔
        (∀ item ∈ items, IsTable typed item) ∧ List.Forall₂ (TableOf reads) items records := by
    rw [← List.forall₂_and_left]
    exact forall₂_congr_of_mem fun item hitem record => h.eq_ok_iff (hplain item hitem)
  rw [Toml.list_eq_ok_iff]
  constructor
  · rintro ⟨items, rfl, hdecoded⟩
    have hread := (hitems items (hv items rfl)).mp hdecoded
    exact ⟨⟨items, rfl, hread.1⟩, items, rfl, hread.2⟩
  · rintro ⟨⟨items, rfl, htyped⟩, _, heq, hread⟩
    cases heq
    exact ⟨items, rfl, (hitems items (hv items rfl)).mpr ⟨htyped, hread⟩⟩

theorem check_list_eq_ok_iff (h : ReadsTables decode typed reads) (hv : NoListOfLists v) :
    check (list decode) v = .ok () ↔ IsList (IsTable typed) v := by
  simp only [check_eq_ok_iff, h.list_eq_ok_iff hv]
  constructor
  · exact fun ⟨_, htyped, _⟩ => htyped
  · rintro ⟨items, rfl, htyped⟩
    obtain ⟨records, hrecords⟩ := h.exists_forall₂ htyped
    exact ⟨records, ⟨items, rfl, htyped⟩, items, rfl, hrecords⟩

theorem defaulting_eq_ok_iff (h : ReadsTables decode typed reads)
    (hplain : entries.May name NoListOfLists) (htyped : entries.May name (IsList (IsTable typed))) :
    defaulting entries name (list decode) [] = .ok records ↔
      entries.Records name reads records := by
  rw [Toml.defaulting_eq_ok_iff]
  refine or_congr_right ?_
  constructor
  · rintro ⟨v, hv, hdecoded⟩
    obtain ⟨-, items, rfl, hread⟩ :=
      (h.list_eq_ok_iff (hplain v (mem_of_lookup_eq_some hv))).mp hdecoded
    exact ⟨items, hv, hread⟩
  · rintro ⟨items, hv, hread⟩
    have hmem := mem_of_lookup_eq_some hv
    exact ⟨_, hv, (h.list_eq_ok_iff (hplain _ hmem)).mpr ⟨htyped _ hmem, items, rfl, hread⟩⟩

theorem exists_records (h : ReadsTables decode typed reads)
    (htyped : entries.May name (IsList (IsTable typed))) :
    ∃ records, entries.Records name reads records := by
  cases hlookup : entries.lookup name with
  | none => exact ⟨[], Or.inl ⟨hlookup, rfl⟩⟩
  | some v =>
      obtain ⟨items, rfl, hitems⟩ := htyped v (mem_of_lookup_eq_some hlookup)
      obtain ⟨records, hrecords⟩ := h.exists_forall₂ hitems
      exact ⟨records, Or.inr ⟨items, hlookup, hrecords⟩⟩

end ReadsTables

/-! A date or time reads as a table too, but not as one of a record. -/

variable {expected : String} {ofItems : List Value → Except Fault α}
  {ofEntries : Entries → Except Fault α}

theorem record_eq_ok_iff {v : Value} {a : α} (hv : NotList v)
    (hmoment : ∀ text, ofEntries [("$__toml_private_datetime", .string text)] ≠ .ok a) :
    record expected ofItems ofEntries v = .ok a ↔
      ∃ entries, v = .table entries ∧ ofEntries entries = .ok a := by
  cases v with
  | table fields => simp [record, recordEntries?]
  | array items => exact absurd rfl (hv items)
  | moment text => simp [record, recordEntries?, hmoment]
  | _ => simp [record, recordEntries?]

theorem ReadsTables.of_record {typed : Entries → Prop} {reads : α → Entries → Prop}
    (hofEntries : ∀ {entries a}, ofEntries entries = .ok a ↔ typed entries ∧ reads a entries)
    (hmoment : ∀ text, ¬typed [("$__toml_private_datetime", .string text)])
    (hexists : ∀ {entries}, typed entries → ∃ a, reads a entries) :
    ReadsTables (record expected ofItems ofEntries) typed reads where
  eq_ok_iff := by
    intro v a hv
    rw [record_eq_ok_iff hv fun text hok => hmoment text (hofEntries.mp hok).1]
    simp only [hofEntries, IsTable, TableOf]
    constructor
    · rintro ⟨fields, rfl, htyped, hreads⟩
      exact ⟨⟨fields, rfl, htyped⟩, fields, rfl, hreads⟩
    · rintro ⟨⟨fields, rfl, htyped⟩, _, heq, hreads⟩
      cases heq
      exact ⟨fields, rfl, htyped, hreads⟩
  exists_reads := hexists

end Records

/-! ### Components and their ancestors -/

namespace Element

/-- The types of the fields that components and their ancestors have in common. -/
structure Typed (entries : Entries) : Prop where
  markupId : entries.Has "markup-id" IsString
  page : entries.May "page" IsBoolean
  indicator : entries.May "indicator" IsString

/-- An ancestor has no other fields. -/
structure TypedAlone (entries : Entries) : Prop extends Typed entries where
  only : entries.Only ["markup-id", "page", "indicator"]

structure ReadFrom (element : Element) (entries : Entries) : Prop where
  markupId : entries.lookup "markup-id" = some (.string element.markupId)
  page : entries.OrElse "page" false .boolean element.page
  indicator : entries.lookup "indicator" = element.indicator.map .string

variable {element : Element}

theorem ofFields_eq_ok_iff : ofFields entries = .ok element ↔ element.ReadFrom entries := by
  simp only [ofFields, bind_eq_ok_iff, pure_eq_ok_iff, required_written_eq_ok_iff string_eq_ok_iff,
    defaulting_written_eq_ok_iff boolean_eq_ok_iff, optional_written_eq_ok_iff string_eq_ok_iff]
  constructor
  · rintro ⟨markupId, hmarkupId, page, hpage, indicator, hindicator, rfl⟩
    exact ⟨hmarkupId, hpage, hindicator⟩
  · rintro ⟨hmarkupId, hpage, hindicator⟩
    exact ⟨_, hmarkupId, _, hpage, _, hindicator, rfl⟩

theorem Typed.exists_readFrom (h : Typed entries) :
    ∃ element : Element, element.ReadFrom entries := by
  obtain ⟨_, hmarkupId, markupId, rfl⟩ := h.markupId.exists_lookup
  obtain ⟨page, hpage⟩ := h.page.exists_orElse false
  obtain ⟨indicator, hindicator⟩ := h.indicator.exists_optional
  exact ⟨⟨markupId, page, indicator⟩, hmarkupId, hpage, hindicator⟩

theorem forM_checkEntry_eq_ok_iff :
    entries.forM schema.checkEntry = .ok () ↔
      entries.Only ["markup-id", "page", "indicator"] ∧ entries.May "markup-id" IsString ∧
        entries.May "page" IsBoolean ∧ entries.May "indicator" IsString := by
  rw [Schema.forM_checkEntry_eq_ok_iff (by decide)]
  simp [schema, Schema.names, check_string_eq_ok_iff, check_boolean_eq_ok_iff]

theorem ofEntries_eq_ok_iff :
    ofEntries entries = .ok element ↔ TypedAlone entries ∧ element.ReadFrom entries := by
  rw [ofEntries, check_bind_eq_ok_iff, forM_checkEntry_eq_ok_iff, ofFields_eq_ok_iff]
  refine and_congr_left fun hreads => ?_
  constructor
  · rintro ⟨honly, hmarkupId, hpage, hindicator⟩
    exact ⟨⟨Entries.has_of_lookup hreads.markupId hmarkupId, hpage, hindicator⟩, honly⟩
  · rintro ⟨⟨hmarkupId, hpage, hindicator⟩, honly⟩
    exact ⟨honly, hmarkupId.2, hpage, hindicator⟩

theorem readsTables_decode : ReadsTables decode TypedAlone ReadFrom :=
  .of_record ofEntries_eq_ok_iff (fun _ h => by simpa using h.only _ List.mem_cons_self)
    fun h => h.exists_readFrom

end Element

namespace ComponentSpec

structure Typed (entries : Entries) : Prop extends Element.Typed entries where
  ancestors : entries.May "ancestors" (IsList (IsTable Element.TypedAlone))
  only : entries.Only ["markup-id", "page", "indicator", "ancestors"]

structure ReadFrom (component : ComponentSpec) (entries : Entries) : Prop where
  element : component.element.ReadFrom entries
  ancestors : entries.Records "ancestors" Element.ReadFrom component.ancestors

variable {component : ComponentSpec}

theorem Typed.exists_readFrom (h : Typed entries) :
    ∃ component : ComponentSpec, component.ReadFrom entries := by
  obtain ⟨element, helement⟩ := h.toTyped.exists_readFrom
  obtain ⟨ancestors, hancestors⟩ := Element.readsTables_decode.exists_records h.ancestors
  exact ⟨⟨element, ancestors⟩, helement, hancestors⟩

theorem forM_checkEntry_eq_ok_iff (hplain : entries.May "ancestors" NoListOfLists) :
    entries.forM schema.checkEntry = .ok () ↔
      entries.Only ["markup-id", "page", "indicator", "ancestors"] ∧
        entries.May "markup-id" IsString ∧ entries.May "page" IsBoolean ∧
          entries.May "indicator" IsString ∧
            entries.May "ancestors" (IsList (IsTable Element.TypedAlone)) := by
  have hancestors : entries.May "ancestors" (fun v => check (list Element.decode) v = .ok ()) ↔
      entries.May "ancestors" (IsList (IsTable Element.TypedAlone)) :=
    forall₂_congr fun v hv => Element.readsTables_decode.check_list_eq_ok_iff (hplain v hv)
  rw [Schema.forM_checkEntry_eq_ok_iff (by decide), ← hancestors]
  simp [schema, Element.schema, Schema.names, check_string_eq_ok_iff, check_boolean_eq_ok_iff]

theorem ofEntries_eq_ok_iff (hplain : entries.May "ancestors" NoListOfLists) :
    ofEntries entries = .ok component ↔ Typed entries ∧ component.ReadFrom entries := by
  rw [ofEntries, check_bind_eq_ok_iff, forM_checkEntry_eq_ok_iff hplain]
  simp only [bind_eq_ok_iff, pure_eq_ok_iff, Element.ofFields_eq_ok_iff]
  constructor
  · rintro ⟨⟨honly, hmarkupId, hpage, hindicator, htyped⟩, element, helement, ancestors,
      hancestors, rfl⟩
    rw [Element.readsTables_decode.defaulting_eq_ok_iff hplain htyped] at hancestors
    have hhas := Entries.has_of_lookup helement.markupId hmarkupId
    exact ⟨⟨⟨hhas, hpage, hindicator⟩, htyped, honly⟩, helement, hancestors⟩
  · rintro ⟨⟨⟨hmarkupId, hpage, hindicator⟩, htyped, honly⟩, helement, hancestors⟩
    rw [← Element.readsTables_decode.defaulting_eq_ok_iff hplain htyped] at hancestors
    exact ⟨⟨honly, hmarkupId.2, hpage, hindicator, htyped⟩, _, helement, _, hancestors, rfl⟩

theorem decode_eq_ok_iff {v : Value} (hv : NotList v)
    (hplain : ∀ fields : Entries, v = .table fields → fields.May "ancestors" NoListOfLists) :
    decode v = .ok component ↔ IsTable Typed v ∧ TableOf ReadFrom v component := by
  have hmoment (text : String) :
      ofEntries [("$__toml_private_datetime", .string text)] ≠ .ok component := by
    rw [Ne, ofEntries_eq_ok_iff (by simp [Entries.May])]
    intro h
    simpa using h.1.only _ List.mem_cons_self
  rw [decode, record_eq_ok_iff hv hmoment]
  constructor
  · rintro ⟨fields, rfl, hok⟩
    obtain ⟨htyped, hreads⟩ := (ofEntries_eq_ok_iff (hplain fields rfl)).mp hok
    exact ⟨⟨fields, rfl, htyped⟩, fields, rfl, hreads⟩
  · rintro ⟨⟨fields, rfl, htyped⟩, _, heq, hreads⟩
    cases heq
    exact ⟨fields, rfl, (ofEntries_eq_ok_iff (hplain fields rfl)).mpr ⟨htyped, hreads⟩⟩

end ComponentSpec

end AjaxCallback
