import AjaxCallback.Proofs.Results
import AjaxCallback.Toml.Load

/-!
# Entries of known types

Which values a decoder takes, said about the values alone, and which entries pass the checks of a
record. Every entry of a name counts for the checks and the first one is read; a table that stands
in a document has no second one.
-/

namespace AjaxCallback.Toml

variable {α : Type}

/-! ### Values -/

def IsString (v : Value) : Prop := ∃ text, v = .string text

def IsBoolean (v : Value) : Prop := ∃ b, v = .boolean b

/-- A whole number of 64 bits without a sign. -/
def IsWord (v : Value) : Prop := ∃ n : Nat, n ≤ 18446744073709551615 ∧ v = .integer n

def IsList (P : Value → Prop) (v : Value) : Prop :=
  ∃ items, v = .array items ∧ ∀ item ∈ items, P item

def IsTable (P : Entries → Prop) (v : Value) : Prop := ∃ entries, v = .table entries ∧ P entries

section

variable {P Q : Entries → Prop} {S T : Value → Prop} {v : Value}

theorem IsTable.imp (h : IsTable P v) (himp : ∀ entries, P entries → Q entries) : IsTable Q v := by
  obtain ⟨entries, rfl, hentries⟩ := h
  exact ⟨entries, rfl, himp entries hentries⟩

theorem IsList.imp (h : IsList S v) (himp : ∀ item, S item → T item) : IsList T v := by
  obtain ⟨items, rfl, hitems⟩ := h
  exact ⟨items, rfl, fun item hitem => himp item (hitems item hitem)⟩

theorem isList_isTable_and_iff :
    IsList (IsTable fun entries => P entries ∧ Q entries) v ↔
      IsList (IsTable P) v ∧ IsList (IsTable Q) v := by
  constructor
  · intro h
    exact ⟨h.imp fun _ hitem => hitem.imp fun _ hentries => hentries.1,
      h.imp fun _ hitem => hitem.imp fun _ hentries => hentries.2⟩
  · rintro ⟨⟨items, rfl, hleft⟩, _, heq, hright⟩
    cases heq
    refine ⟨items, rfl, fun item hitem => ?_⟩
    obtain ⟨entries, rfl, hentries⟩ := hleft item hitem
    obtain ⟨_, heq, hentries'⟩ := hright _ hitem
    cases heq
    exact ⟨entries, rfl, hentries, hentries'⟩

end

theorem string_eq_ok_iff {v : Value} {text : String} : string v = .ok text ↔ v = .string text := by
  cases v with
  | string t => simp [string]
  | _ => simp [string]

theorem boolean_eq_ok_iff {v : Value} {b : Bool} : boolean v = .ok b ↔ v = .boolean b := by
  cases v with
  | boolean c => simp [boolean]
  | _ => simp [boolean]

theorem fitsWord_iff {n : Int} :
    fitsWord n = true ↔ -9223372036854775808 ≤ n ∧ n ≤ 18446744073709551615 := by
  rw [fitsWord, Bool.and_eq_true, decide_eq_true_iff, decide_eq_true_iff]
  rfl

theorem word_eq_ok_iff {v : Value} {n : Nat} :
    word v = .ok n ↔ n ≤ 18446744073709551615 ∧ v = .integer n := by
  cases v with
  | integer i =>
      simp only [word, fitsWord_iff]
      split
      · simp
        omega
      · split
        · simp
          omega
        · simp
          omega
  | _ => simp [word]

theorem list_eq_ok_iff {item : Decoder α} {v : Value} {as : List α} :
    list item v = .ok as ↔
      ∃ items, v = .array items ∧ List.Forall₂ (fun v a => item v = .ok a) items as := by
  cases v with
  | array items => simp [list, mapM_eq_ok_iff]
  | _ => simp [list]

theorem list_string_eq_ok_iff {v : Value} {texts : List String} :
    list string v = .ok texts ↔ v = .array (texts.map .string) := by
  have hitems (items : List Value) : List.Forall₂ (fun v text => string v = .ok text) items texts ↔
      items = texts.map .string := by
    simp only [string_eq_ok_iff]
    rw [← List.forall₂_map_right_iff, List.forall₂_eq_eq_eq]
  simp only [list_eq_ok_iff, hitems]
  simp

theorem exists_list_eq_ok_iff {item : Decoder α} {v : Value} :
    (∃ as, list item v = .ok as) ↔ IsList (fun v => ∃ a, item v = .ok a) v := by
  cases v with
  | array items => simp [list, IsList, exists_mapM_eq_ok_iff]
  | _ => simp [list, IsList]

theorem check_eq_ok_iff {decode : Decoder α} {v : Value} :
    check decode v = .ok () ↔ ∃ a, decode v = .ok a := by
  rw [check, bind_eq_ok_iff]
  exact ⟨fun ⟨a, ha, _⟩ => ⟨a, ha⟩, fun ⟨a, ha⟩ => ⟨a, ha, rfl⟩⟩

theorem check_string_eq_ok_iff {v : Value} : check string v = .ok () ↔ IsString v := by
  simp only [check_eq_ok_iff, string_eq_ok_iff, IsString]

theorem check_boolean_eq_ok_iff {v : Value} : check boolean v = .ok () ↔ IsBoolean v := by
  simp only [check_eq_ok_iff, boolean_eq_ok_iff, IsBoolean]

theorem check_word_eq_ok_iff {v : Value} : check word v = .ok () ↔ IsWord v := by
  simp only [check_eq_ok_iff, word_eq_ok_iff, IsWord]

theorem check_list_eq_ok_iff {item : Decoder α} {v : Value} :
    check (list item) v = .ok () ↔ IsList (fun v => check item v = .ok ()) v := by
  simp only [check_eq_ok_iff, exists_list_eq_ok_iff]

/-! ### Entries -/

namespace Entries

/-- What stands under the name, if anything does, has the type. -/
def May (entries : Entries) (name : String) (type : Value → Prop) : Prop :=
  ∀ v, (name, v) ∈ entries → type v

/-- Something stands under the name, and it has the type. -/
def Has (entries : Entries) (name : String) (type : Value → Prop) : Prop :=
  name ∈ entries.map Prod.fst ∧ May entries name type

/-- The table has no entries of other names. -/
def Only (entries : Entries) (names : List String) : Prop := ∀ entry ∈ entries, entry.1 ∈ names

/-- A field of which the value is written down, or which is left out and has its default. -/
def OrElse (entries : Entries) (name : String) (default : α) (written : α → Value) (a : α) : Prop :=
  entries.lookup name = none ∧ a = default ∨ entries.lookup name = some (written a)

end Entries

variable {entries : Entries} {name : String} {decode : Decoder α}

theorem mem_of_lookup_eq_some {v : Value} (h : entries.lookup name = some v) :
    (name, v) ∈ entries := by
  obtain ⟨before, after, rfl, -⟩ := List.lookup_eq_some_iff.mp h
  exact List.mem_append_right before List.mem_cons_self

theorem exists_lookup_eq_some_iff {β : Type} {pairs : List (String × β)} :
    (∃ b, pairs.lookup name = some b) ↔ name ∈ pairs.map Prod.fst := by
  rw [← Option.isSome_iff_exists, List.lookup_isSome_iff, List.mem_map]
  refine exists_congr fun entry => and_congr_right fun _ => ?_
  rw [beq_iff_eq]
  exact eq_comm

theorem required_eq_ok_iff {a : α} :
    required entries name decode = .ok a ↔
      ∃ v, entries.lookup name = some v ∧ decode v = .ok a := by
  rw [required]
  cases entries.lookup name with
  | none => exact ⟨nofun, fun ⟨_, hv, _⟩ => nomatch hv⟩
  | some v => exact ⟨fun h => ⟨v, rfl, h⟩, fun ⟨_, hv, h⟩ => Option.some.inj hv ▸ h⟩

theorem optional_eq_ok_iff {o : Option α} :
    optional entries name decode = .ok o ↔
      entries.lookup name = none ∧ o = none ∨
        ∃ v a, entries.lookup name = some v ∧ decode v = .ok a ∧ o = some a := by
  rw [optional]
  cases entries.lookup name with
  | none => simp [eq_comm]
  | some v =>
      simp only [map_eq_ok_iff, reduceCtorEq, false_and, false_or, Option.some.injEq]
      constructor
      · rintro ⟨a, ha, rfl⟩
        exact ⟨v, a, rfl, ha, rfl⟩
      · rintro ⟨_, a, rfl, ha, rfl⟩
        exact ⟨a, ha, rfl⟩

theorem defaulting_eq_ok_iff {default a : α} :
    defaulting entries name decode default = .ok a ↔
      entries.lookup name = none ∧ a = default ∨
        ∃ v, entries.lookup name = some v ∧ decode v = .ok a := by
  simp only [defaulting, map_eq_ok_iff, optional_eq_ok_iff]
  constructor
  · rintro ⟨o, ⟨hnone, rfl⟩ | ⟨v, a', hv, ha, rfl⟩, rfl⟩
    · exact Or.inl ⟨hnone, rfl⟩
    · exact Or.inr ⟨v, hv, ha⟩
  · rintro (⟨hnone, rfl⟩ | ⟨v, hv, ha⟩)
    · exact ⟨none, Or.inl ⟨hnone, rfl⟩, rfl⟩
    · exact ⟨some a, Or.inr ⟨v, a, hv, ha, rfl⟩, rfl⟩

/-! A decoder that takes one way of writing a value reads it back. -/

section Written

variable {written : α → Value} (hdecode : ∀ {v a}, decode v = .ok a ↔ v = written a)

include hdecode

theorem required_written_eq_ok_iff {a : α} :
    required entries name decode = .ok a ↔ entries.lookup name = some (written a) := by
  simp [required_eq_ok_iff, hdecode]

theorem optional_written_eq_ok_iff {o : Option α} :
    optional entries name decode = .ok o ↔ entries.lookup name = o.map written := by
  rw [optional_eq_ok_iff]
  cases o with
  | none => simp
  | some a => simp [hdecode]

theorem defaulting_written_eq_ok_iff {default a : α} :
    defaulting entries name decode default = .ok a ↔
      Entries.OrElse entries name default written a := by
  simp [defaulting_eq_ok_iff, hdecode, Entries.OrElse]

end Written

/-! Entries of the right types can be read. -/

namespace Entries

variable {type : Value → Prop} {written : α → Value}

theorem Has.exists_lookup (h : Has entries name type) :
    ∃ v, entries.lookup name = some v ∧ type v := by
  obtain ⟨v, hv⟩ := exists_lookup_eq_some_iff.mpr h.1
  exact ⟨v, hv, h.2 v (mem_of_lookup_eq_some hv)⟩

theorem has_of_lookup {v : Value} (hv : entries.lookup name = some v) (h : May entries name type) :
    Has entries name type :=
  ⟨exists_lookup_eq_some_iff.mp ⟨v, hv⟩, h⟩

theorem May.exists_optional (h : May entries name fun v => ∃ a, v = written a) :
    ∃ o : Option α, entries.lookup name = o.map written := by
  cases hlookup : entries.lookup name with
  | none => exact ⟨none, rfl⟩
  | some v =>
      obtain ⟨a, rfl⟩ := h v (mem_of_lookup_eq_some hlookup)
      exact ⟨some a, rfl⟩

theorem May.exists_orElse (h : May entries name fun v => ∃ a, v = written a) (default : α) :
    ∃ a, OrElse entries name default written a := by
  obtain ⟨o, ho⟩ := h.exists_optional
  cases o with
  | none => exact ⟨default, Or.inl ⟨ho, rfl⟩⟩
  | some a => exact ⟨a, Or.inr ho⟩

end Entries

/-! An entry of another name does not matter. -/

section Extra

variable {before after : Entries} {other : String} {v : Value}

theorem lookup_extra (h : other ≠ name) :
    List.lookup other (before ++ (name, v) :: after) = List.lookup other (before ++ after) := by
  have hne : (other == name) = false := beq_false_of_ne h
  rw [List.lookup_append, List.lookup_append, List.lookup_cons, hne]

theorem required_extra (h : other ≠ name) :
    required (before ++ (name, v) :: after) other decode =
      required (before ++ after) other decode := by
  rw [required, required, lookup_extra h]

theorem defaulting_extra {default : α} (h : other ≠ name) :
    defaulting (before ++ (name, v) :: after) other decode default =
      defaulting (before ++ after) other decode default := by
  rw [defaulting, defaulting, Toml.optional, Toml.optional, lookup_extra h]

end Extra

/-! ### Schemas -/

namespace Schema

variable {schema : Schema}

theorem lookup_eq_some_iff (h : schema.names.Nodup) {check : Value → Except Fault Unit} :
    schema.lookup name = some check ↔ (name, check) ∈ schema := by
  refine ⟨fun hlookup => ?_, fun hmem => ?_⟩
  · obtain ⟨before, after, hsplit, -⟩ := List.lookup_eq_some_iff.mp hlookup
    rw [hsplit]
    exact List.mem_append_right before List.mem_cons_self
  · obtain ⟨before, after, hsplit⟩ := List.append_of_mem hmem
    refine List.lookup_eq_some_iff.mpr ⟨before, after, hsplit, fun field hfield => ?_⟩
    rw [names, hsplit, List.map_append, List.map_cons, List.nodup_append] at h
    have hne := h.2.2 field.1 (List.mem_map_of_mem hfield) name List.mem_cons_self
    simpa using Ne.symm hne

theorem checkKnown_of_notMem {v : Value} (h : name ∉ schema.names) :
    schema.checkKnown (name, v) = .ok () := by
  have hnone : schema.lookup name = none := by
    rwa [names, ← exists_lookup_eq_some_iff, not_exists, ← Option.eq_none_iff_forall_ne_some] at h
  rw [checkKnown, hnone]

theorem forM_checkKnown_eq_ok_iff (h : schema.names.Nodup) :
    entries.forM schema.checkKnown = .ok () ↔
      ∀ field ∈ schema, Entries.May entries field.1 fun v => field.2 v = .ok () := by
  rw [forM_eq_ok_iff]
  constructor
  · intro hall field hfield v hv
    have hentry := hall (field.1, v) hv
    rwa [checkKnown, (lookup_eq_some_iff h).mpr hfield] at hentry
  · intro hall entry hentry
    rw [checkKnown]
    cases hlookup : schema.lookup entry.1 with
    | none => rfl
    | some check => exact hall _ ((lookup_eq_some_iff h).mp hlookup) entry.2 hentry

/-- A record that has no other fields checks its known entries in the same way. -/
theorem checkEntry_eq_ok_iff {entry : String × Value} :
    schema.checkEntry entry = .ok () ↔
      entry.1 ∈ schema.names ∧ schema.checkKnown entry = .ok () := by
  rw [checkEntry, checkKnown, names, ← exists_lookup_eq_some_iff]
  cases schema.lookup entry.1 with
  | none => simp
  | some check => simp

theorem forM_checkEntry_eq_ok_iff (h : schema.names.Nodup) :
    entries.forM schema.checkEntry = .ok () ↔
      Entries.Only entries schema.names ∧
        ∀ field ∈ schema, Entries.May entries field.1 fun v => field.2 v = .ok () := by
  rw [← forM_checkKnown_eq_ok_iff h]
  simp only [forM_eq_ok_iff, checkEntry_eq_ok_iff, forall_and, Entries.Only]

end Schema

/-! ### Documents and files -/

variable {decodeEntries : Entries → Except Fault α} {text : String} {file : File} {a : α}

theorem readText_eq_ok_iff :
    readText decodeEntries text = .ok a ↔
      ∃ entries, parse? text = some entries ∧ decodeEntries entries = .ok a := by
  unfold readText
  cases parse? text with
  | none => exact ⟨nofun, fun ⟨_, hentries, _⟩ => nomatch hentries⟩
  | some entries =>
      rw [mapError_eq_ok_iff]
      exact ⟨fun h => ⟨entries, rfl, h⟩, fun ⟨_, hentries, h⟩ => Option.some.inj hentries ▸ h⟩

theorem readText_eq_error_iff {e : DocumentError} :
    readText decodeEntries text = .error e ↔
      parse? text = none ∧ e = .malformed ∨
        ∃ entries fault, parse? text = some entries ∧ decodeEntries entries = .error fault ∧
          e = .data fault := by
  unfold readText
  cases parse? text with
  | none => simp [eq_comm]
  | some entries => simp [mapError_eq_error_iff]

theorem text?_ofText (text : String) : (File.ofText text).text? = some text := by
  unfold File.ofText File.text? String.fromUTF8?
  exact dif_pos text.isValidUTF8

theorem readFile_eq_ok_iff :
    readFile decodeEntries file = .ok a ↔
      ∃ text, file.text? = some text ∧ readText decodeEntries text = .ok a := by
  unfold readFile
  cases file.text? with
  | none => exact ⟨nofun, fun ⟨_, htext, _⟩ => nomatch htext⟩
  | some text =>
      rw [mapError_eq_ok_iff]
      exact ⟨fun h => ⟨text, rfl, h⟩, fun ⟨_, htext, h⟩ => Option.some.inj htext ▸ h⟩

theorem readFile_eq_error_iff {e : FileError} :
    readFile decodeEntries file = .error e ↔
      file.text? = none ∧ e = .unreadable ∨
        ∃ text e', file.text? = some text ∧ readText decodeEntries text = .error e' ∧
          e = .invalid e' := by
  unfold readFile
  cases file.text? with
  | none => simp [eq_comm]
  | some text => simp [mapError_eq_error_iff]

end AjaxCallback.Toml
