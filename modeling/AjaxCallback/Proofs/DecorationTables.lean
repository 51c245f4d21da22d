import AjaxCallback.Proofs.HeldNumbers
import AjaxCallback.Proofs.RecordTables

/-!
# Decorations in tables

The kind of a decoration says which entries of its table count. The table is set aside until the
kind is known, so that an entry without a meaning is passed over only if it can be set aside.
-/

namespace AjaxCallback

open Toml

variable {entries : Entries}

namespace DecorationSpec

def Kind.name : Kind → String
  | cancelEvent => "cancel-event-if-no-ajax"
  | throttle => "throttle"
  | wrap => "script"

def scriptNames : List String :=
  ["before-script", "after-script", "before-success", "after-success", "before-failure",
    "after-failure"]

structure Typed (entries : Entries) : Prop where
  kind : entries.Has "kind" fun v => ∃ kind : Kind, v = .string kind.name
  throttle : entries.lookup "kind" = some (.string "throttle") →
    entries.Has "throttle-id" IsString ∧ entries.Has "delay-ms" IsWord
  script : entries.lookup "kind" = some (.string "script") →
    (∀ name ∈ scriptNames, entries.May name IsString) ∧
      entries.May "header-references" (IsList IsString)

/-- The whole table is set aside before the kind is known. -/
def Held (entries : Entries) : Prop := ∀ entry ∈ entries, entry.2.Holdable

structure WrapReadFrom (wrapping : Wrapping) (entries : Entries) : Prop where
  beforeScript : entries.OrElse "before-script" "" .string wrapping.script.before
  afterScript : entries.OrElse "after-script" "" .string wrapping.script.after
  beforeSuccess : entries.OrElse "before-success" "" .string wrapping.success.before
  afterSuccess : entries.OrElse "after-success" "" .string wrapping.success.after
  beforeFailure : entries.OrElse "before-failure" "" .string wrapping.failure.before
  afterFailure : entries.OrElse "after-failure" "" .string wrapping.failure.after
  references :
    entries.OrElse "header-references" [] (fun texts => .array (texts.map .string))
      wrapping.references

def ReadFrom (decoration : DecorationSpec) (entries : Entries) : Prop :=
  match decoration with
  | cancelEvent => entries.lookup "kind" = some (.string "cancel-event-if-no-ajax")
  | throttle id milliseconds =>
    entries.lookup "kind" = some (.string "throttle") ∧
      entries.lookup "throttle-id" = some (.string id) ∧
        entries.lookup "delay-ms" = some (.integer milliseconds)
  | wrap wrapping =>
    entries.lookup "kind" = some (.string "script") ∧ WrapReadFrom wrapping entries

variable {decoration : DecorationSpec}

theorem Kind.decode_eq_ok_iff {v : Value} {kind : Kind} :
    decode v = .ok kind ↔ v = .string kind.name := by
  unfold decode
  split
  · cases kind <;> simp [name]
  · cases kind <;> simp [name]
  · cases kind <;> simp [name]
  · cases kind <;> simp_all [name]
  · split <;> simp
  · cases kind <;> simp_all [name]

theorem check_kind_eq_ok_iff {v : Value} :
    check Kind.decode v = .ok () ↔ ∃ kind : Kind, v = .string kind.name := by
  simp only [check_eq_ok_iff, Kind.decode_eq_ok_iff]

/-- A kind can be set aside like any other text. -/
theorem checkAside_eq_ok_iff {name : String} {v : Value} :
    checkAside (name, v) = .ok () ↔
      (name = "kind" → ∃ kind : Kind, v = .string kind.name) ∧ v.Holdable := by
  rw [checkAside, ← hold_eq_ok_iff]
  by_cases hname : name = "kind"
  · rw [if_pos hname, check_kind_eq_ok_iff]
    constructor
    · rintro ⟨kind, rfl⟩
      exact ⟨fun _ => ⟨kind, rfl⟩, rfl⟩
    · exact fun h => h.1 hname
  · rw [if_neg hname]
    exact ⟨fun h => ⟨fun heq => absurd heq hname, h⟩, fun h => h.2⟩

theorem forM_checkAside_eq_ok_iff :
    entries.forM checkAside = .ok () ↔
      (entries.May "kind" fun v => ∃ kind : Kind, v = .string kind.name) ∧ Held entries := by
  simp only [forM_eq_ok_iff, Prod.forall, checkAside_eq_ok_iff]
  constructor
  · intro hall
    exact ⟨fun v hv => (hall "kind" v hv).1 rfl, fun entry hentry => (hall _ _ hentry).2⟩
  · rintro ⟨hkind, hheld⟩ name v hv
    refine ⟨fun hname => hkind v ?_, hheld _ hv⟩
    rwa [← hname]

theorem forM_throttle_eq_ok_iff :
    entries.forM throttleSchema.checkKnown = .ok () ↔
      entries.May "throttle-id" IsString ∧ entries.May "delay-ms" IsWord := by
  rw [Schema.forM_checkKnown_eq_ok_iff (by decide)]
  simp [throttleSchema, check_string_eq_ok_iff, check_word_eq_ok_iff]

theorem forM_wrap_eq_ok_iff :
    entries.forM wrapSchema.checkKnown = .ok () ↔
      (∀ name ∈ scriptNames, entries.May name IsString) ∧
        entries.May "header-references" (IsList IsString) := by
  rw [Schema.forM_checkKnown_eq_ok_iff (by decide)]
  simp [wrapSchema, scriptNames, check_string_eq_ok_iff, Toml.check_list_eq_ok_iff, and_assoc]

theorem throttleOfEntries_eq_ok_iff :
    throttleOfEntries entries = .ok decoration ↔
      (entries.May "throttle-id" IsString ∧ entries.May "delay-ms" IsWord) ∧
        ∃ (id : String) (milliseconds : Nat), entries.lookup "throttle-id" = some (.string id) ∧
          entries.lookup "delay-ms" = some (.integer milliseconds) ∧
            decoration = .throttle id milliseconds := by
  rw [throttleOfEntries, check_bind_eq_ok_iff, forM_throttle_eq_ok_iff]
  simp only [bind_eq_ok_iff, pure_eq_ok_iff, required_written_eq_ok_iff string_eq_ok_iff,
    required_eq_ok_iff, word_eq_ok_iff]
  constructor
  · rintro ⟨htypes, id, hid, milliseconds, ⟨_, hdelay, -, rfl⟩, rfl⟩
    exact ⟨htypes, id, milliseconds, hid, hdelay, rfl⟩
  · rintro ⟨htypes, id, milliseconds, hid, hdelay, rfl⟩
    obtain ⟨n, hn, heq⟩ := htypes.2 _ (mem_of_lookup_eq_some hdelay)
    have hword : milliseconds ≤ 18446744073709551615 := by
      rw [Value.integer.injEq] at heq
      omega
    exact ⟨htypes, id, hid, milliseconds, ⟨_, hdelay, hword, rfl⟩, rfl⟩

theorem wrapOfEntries_eq_ok_iff :
    wrapOfEntries entries = .ok decoration ↔
      ((∀ name ∈ scriptNames, entries.May name IsString) ∧
        entries.May "header-references" (IsList IsString)) ∧
          ∃ wrapping, WrapReadFrom wrapping entries ∧ decoration = .wrap wrapping := by
  rw [wrapOfEntries, check_bind_eq_ok_iff, forM_wrap_eq_ok_iff]
  simp only [bind_eq_ok_iff, pure_eq_ok_iff, defaulting_written_eq_ok_iff string_eq_ok_iff,
    defaulting_written_eq_ok_iff list_string_eq_ok_iff]
  refine and_congr_right fun _ => ?_
  constructor
  · rintro ⟨_, hbefore, _, hafter, _, hbeforeSuccess, _, hafterSuccess, _, hbeforeFailure, _,
      hafterFailure, _, hreferences, rfl⟩
    exact ⟨_, ⟨hbefore, hafter, hbeforeSuccess, hafterSuccess, hbeforeFailure, hafterFailure,
      hreferences⟩, rfl⟩
  · rintro ⟨_, h, rfl⟩
    exact ⟨_, h.beforeScript, _, h.afterScript, _, h.beforeSuccess, _, h.afterSuccess, _,
      h.beforeFailure, _, h.afterFailure, _, h.references, rfl⟩

theorem ofEntries_eq_ok_iff :
    ofEntries entries = .ok decoration ↔
      (Typed entries ∧ Held entries) ∧ decoration.ReadFrom entries := by
  rw [ofEntries, check_bind_eq_ok_iff, forM_checkAside_eq_ok_iff, bind_eq_ok_iff]
  simp only [required_written_eq_ok_iff Kind.decode_eq_ok_iff]
  constructor
  · rintro ⟨⟨hkind, hheld⟩, kind, hlookup, hfields⟩
    have hhas := Entries.has_of_lookup hlookup hkind
    cases kind with
    | cancelEvent =>
        cases hfields
        exact ⟨⟨⟨hhas, by simp [hlookup, Kind.name], by simp [hlookup, Kind.name]⟩, hheld⟩, hlookup⟩
    | throttle =>
        obtain ⟨htypes, id, milliseconds, hid, hdelay, rfl⟩ :=
          throttleOfEntries_eq_ok_iff.mp hfields
        have hid_has := Entries.has_of_lookup hid htypes.1
        have hdelay_has := Entries.has_of_lookup hdelay htypes.2
        exact ⟨⟨⟨hhas, fun _ => ⟨hid_has, hdelay_has⟩, by simp [hlookup, Kind.name]⟩, hheld⟩,
          hlookup, hid, hdelay⟩
    | wrap =>
        obtain ⟨htypes, wrapping, hreads, rfl⟩ := wrapOfEntries_eq_ok_iff.mp hfields
        exact ⟨⟨⟨hhas, by simp [hlookup, Kind.name], fun _ => htypes⟩, hheld⟩, hlookup, hreads⟩
  · rintro ⟨⟨htyped, hheld⟩, hreads⟩
    refine ⟨⟨htyped.kind.2, hheld⟩, ?_⟩
    cases decoration with
    | cancelEvent => exact ⟨.cancelEvent, hreads, rfl⟩
    | throttle id milliseconds =>
        have hfields := htyped.throttle hreads.1
        refine ⟨.throttle, hreads.1, throttleOfEntries_eq_ok_iff.mpr ?_⟩
        exact ⟨⟨hfields.1.2, hfields.2.2⟩, id, milliseconds, hreads.2.1, hreads.2.2, rfl⟩
    | wrap wrapping =>
        refine ⟨.wrap, hreads.1, wrapOfEntries_eq_ok_iff.mpr ?_⟩
        exact ⟨htyped.script hreads.1, wrapping, hreads.2, rfl⟩

theorem exists_wrapReadFrom (htexts : ∀ name ∈ scriptNames, entries.May name IsString)
    (hreferences : entries.May "header-references" (IsList IsString)) :
    ∃ wrapping, WrapReadFrom wrapping entries := by
  have htext (name : String) (h : name ∈ scriptNames) :
      ∃ text, entries.OrElse name "" .string text := (htexts name h).exists_orElse ""
  obtain ⟨beforeScript, h₁⟩ := htext "before-script" (by decide)
  obtain ⟨afterScript, h₂⟩ := htext "after-script" (by decide)
  obtain ⟨beforeSuccess, h₃⟩ := htext "before-success" (by decide)
  obtain ⟨afterSuccess, h₄⟩ := htext "after-success" (by decide)
  obtain ⟨beforeFailure, h₅⟩ := htext "before-failure" (by decide)
  obtain ⟨afterFailure, h₆⟩ := htext "after-failure" (by decide)
  have hlist : entries.May "header-references" fun v => ∃ texts : List String,
      v = .array (texts.map .string) := by
    intro v hv
    have hchecked : check (list string) v = .ok () := by
      rw [Toml.check_list_eq_ok_iff]
      simpa only [check_string_eq_ok_iff] using hreferences v hv
    obtain ⟨texts, htexts⟩ := check_eq_ok_iff.mp hchecked
    exact ⟨texts, list_string_eq_ok_iff.mp htexts⟩
  obtain ⟨references, h₇⟩ := hlist.exists_orElse []
  exact ⟨⟨⟨beforeScript, afterScript⟩, ⟨beforeSuccess, afterSuccess⟩, ⟨beforeFailure, afterFailure⟩,
    references⟩, h₁, h₂, h₃, h₄, h₅, h₆, h₇⟩

theorem Typed.exists_readFrom (h : Typed entries) :
    ∃ decoration : DecorationSpec, decoration.ReadFrom entries := by
  obtain ⟨_, hlookup, kind, rfl⟩ := h.kind.exists_lookup
  cases kind with
  | cancelEvent => exact ⟨.cancelEvent, hlookup⟩
  | throttle =>
      obtain ⟨hid, hdelay⟩ := h.throttle hlookup
      obtain ⟨_, hid, id, rfl⟩ := hid.exists_lookup
      obtain ⟨_, hdelay, milliseconds, -, rfl⟩ := hdelay.exists_lookup
      exact ⟨.throttle id milliseconds, hlookup, hid, hdelay⟩
  | wrap =>
      obtain ⟨htexts, hreferences⟩ := h.script hlookup
      obtain ⟨wrapping, hwrapping⟩ := exists_wrapReadFrom htexts hreferences
      exact ⟨.wrap wrapping, hlookup, hwrapping⟩

theorem readsTables_decode :
    ReadsTables decode (fun entries => Typed entries ∧ Held entries) ReadFrom :=
  .of_record ofEntries_eq_ok_iff (fun _ h => by simpa using h.1.kind.1) fun h => h.1.exists_readFrom

/-! What a decoration of its kind does not know is passed over. -/

def Kind.fieldNames : Kind → List String
  | cancelEvent => ["kind"]
  | throttle => ["kind", "throttle-id", "delay-ms"]
  | wrap => "kind" :: scriptNames ++ ["header-references"]

section Extra

variable {before after : Entries} {name : String} {v : Value}

theorem throttleOfEntries_extra (h : name ∉ Kind.throttle.fieldNames) :
    throttleOfEntries (before ++ (name, v) :: after) = throttleOfEntries (before ++ after) := by
  simp only [Kind.fieldNames, List.mem_cons, not_or] at h
  obtain ⟨-, hid, hdelay, -⟩ := h
  have hknown : throttleSchema.checkKnown (name, v) = .ok () :=
    Schema.checkKnown_of_notMem (by simp [throttleSchema, Schema.names, hid, hdelay])
  rw [throttleOfEntries, throttleOfEntries, forM_append_cons hknown, required_extra (Ne.symm hid),
    required_extra (Ne.symm hdelay)]

theorem wrapOfEntries_extra (h : name ∉ Kind.wrap.fieldNames) :
    wrapOfEntries (before ++ (name, v) :: after) = wrapOfEntries (before ++ after) := by
  have hknown : wrapSchema.checkKnown (name, v) = .ok () :=
    Schema.checkKnown_of_notMem fun hmem => h (List.mem_cons_of_mem _ hmem)
  simp only [Kind.fieldNames, scriptNames, List.cons_append, List.nil_append, List.mem_cons, not_or]
    at h
  obtain ⟨-, h₁, h₂, h₃, h₄, h₅, h₆, h₇, -⟩ := h
  rw [wrapOfEntries, wrapOfEntries, forM_append_cons hknown]
  simp only [defaulting_extra (Ne.symm h₁), defaulting_extra (Ne.symm h₂),
    defaulting_extra (Ne.symm h₃), defaulting_extra (Ne.symm h₄), defaulting_extra (Ne.symm h₅),
    defaulting_extra (Ne.symm h₆), defaulting_extra (Ne.symm h₇)]

/-- An entry that is no field of the kind in question is passed over, when it can be set aside. -/
theorem ofEntries_extra (hv : v.Holdable) (hname : name ≠ "kind")
    (hextra : ∀ kind : Kind, List.lookup "kind" (before ++ after) = some (.string kind.name) →
      name ∉ kind.fieldNames) :
    ofEntries (before ++ (name, v) :: after) = ofEntries (before ++ after) := by
  have haside : checkAside (name, v) = .ok () :=
    checkAside_eq_ok_iff.mpr ⟨fun heq => absurd heq hname, hv⟩
  rw [ofEntries, ofEntries, forM_append_cons haside, required_extra (Ne.symm hname)]
  refine congrArg _ (funext fun _ => ?_)
  cases hkind : required (before ++ after) "kind" Kind.decode with
  | error fault => rfl
  | ok kind =>
      -- The extra entry is no kind, so that both tables are of the same one.
      have hnot := hextra kind ((required_written_eq_ok_iff Kind.decode_eq_ok_iff).mp hkind)
      cases kind with
      | cancelEvent => rfl
      | throttle => exact throttleOfEntries_extra hnot
      | wrap => exact wrapOfEntries_extra hnot

end Extra

end DecorationSpec

end AjaxCallback
