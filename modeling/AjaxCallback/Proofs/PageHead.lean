import AjaxCallback.Behavior
import AjaxCallback.Proofs.Dependencies
import AjaxCallback.Proofs.Recording

/-!
# One page head for several behaviors

The behaviors of a page are rendered into its head one after the other, each under its own settings.
All of them contribute the client's scripts, and the settings of the first one decide what these say;
a decoration of built-in links adds references and can take no id of a script away.
-/

namespace AjaxCallback

open Text

structure Rendering where
  behavior : Behavior
  settings : Settings

namespace Rendering

def items (r : Rendering) : List HeadItem := r.behavior.headItems r.settings

def render (head : Head) (r : Rendering) : Head := r.behavior.renderHead r.settings head

end Rendering

def pageHead (renderings : List Rendering) : Head := renderings.foldl Rendering.render .empty

theorem pageHead_eq_recordAll (renderings : List Rendering) :
    pageHead renderings = Head.empty.recordAll (renderings.flatMap Rendering.items) := by
  rw [Head.recordAll, List.foldl_flatMap]
  rfl

theorem pageHead_append_cons (before : List Rendering) (r : Rendering) (after : List Rendering) :
    pageHead (before ++ r :: after)
      = after.foldl Rendering.render (Rendering.render (pageHead before) r) := by
  rw [pageHead, List.foldl_append]
  rfl

theorem find?_pageHead (renderings : List Rendering) (key : HeadKey) :
    (pageHead renderings).find? key
      = renderings.findSome? fun r => r.items.find? fun item => item.key == key := by
  rw [pageHead_eq_recordAll, Head.find?_recordAll, List.find?_flatMap]
  rfl

/-! ### What one rendering contributes -/

def frameworkReferences (settings : Settings) : List String :=
  ["wicket-event.js", "wicket-ajax.js"]
    ++ if settings.debugMode then ["wicket-ajax-debug.js"] else []

def baseUrlItem (settings : Settings) : HeadItem :=
  .script ("Wicket.Ajax.baseUrl=\"" ++ escapeMarkup settings.baseUrl ++ "\";")
    (some "wicket-ajax-base-url")

def debugItem : HeadItem :=
  .script "wicketAjaxDebugEnable=true;" (some "wicket-ajax-debug-enable")

theorem clientItems_eq (settings : Settings) :
    Behavior.clientItems settings
      = [.reference "wicket-event.js", .reference "wicket-ajax.js"]
        ++ (if settings.debugMode then [.reference "wicket-ajax-debug.js", debugItem] else [])
        ++ [baseUrlItem settings] := rfl

theorem reference_mem_clientItems {settings : Settings} {target : String} :
    HeadItem.reference target ∈ Behavior.clientItems settings ↔
      target ∈ frameworkReferences settings := by
  rw [clientItems_eq, frameworkReferences]
  cases settings.debugMode <;> simp [baseUrlItem, debugItem]

theorem find?_script_declared (id : String) (references : List String) :
    ((references.map HeadItem.reference).find? fun item => item.key == .scriptId id) = none := by
  rw [List.find?_eq_none]
  intro item hitem
  obtain ⟨r, -, rfl⟩ := List.mem_map.mp hitem
  simp [HeadItem.key]

namespace Rendering

variable (r : Rendering)

theorem items_eq (hd : r.behavior.decoration.BuiltIn) :
    r.items = Behavior.clientItems r.settings
      ++ r.behavior.decoration.declared.map HeadItem.reference := by
  rw [items, Behavior.headItems, hd.headItems_eq]

theorem find?_baseUrl (hd : r.behavior.decoration.BuiltIn) :
    (r.items.find? fun item => item.key == .scriptId "wicket-ajax-base-url")
      = some (baseUrlItem r.settings) := by
  rw [r.items_eq hd, clientItems_eq]
  cases r.settings.debugMode with
  | false => rfl
  | true => rfl

theorem find?_debug (hd : r.behavior.decoration.BuiltIn) :
    (r.items.find? fun item => item.key == .scriptId "wicket-ajax-debug-enable")
      = if r.settings.debugMode then some debugItem else none := by
  rw [r.items_eq hd, clientItems_eq]
  cases r.settings.debugMode with
  | false =>
      rw [List.find?_append, find?_script_declared]
      rfl
  | true => rfl

theorem reference_mem_items (target : String) :
    HeadItem.reference target ∈ r.items ↔ target ∈ frameworkReferences r.settings ∨
      HeadItem.reference target ∈ r.behavior.decoration.headItems r.behavior.component := by
  rw [items, Behavior.headItems, List.mem_append, reference_mem_clientItems]

end Rendering

/-! ### What the head of a page holds -/

theorem items_pageHead_cons (r : Rendering) (rest : List Rendering) :
    ∃ more : List HeadItem, (pageHead (r :: rest)).items
      = [.reference "wicket-event.js", .reference "wicket-ajax.js"] ++ more := by
  let start := (Head.empty.record (.reference "wicket-event.js")).record
    (.reference "wicket-ajax.js")
  obtain ⟨others, hothers⟩ : ∃ others, (r :: rest).flatMap Rendering.items
      = .reference "wicket-event.js" :: .reference "wicket-ajax.js" :: others := ⟨_, rfl⟩
  have hhead : pageHead (r :: rest) = start.recordAll others := by
    rw [pageHead_eq_recordAll, hothers]
    rfl
  rw [hhead, Head.items_recordAll]
  exact ⟨_, rfl⟩

theorem reference_mem_pageHead {target : String} {renderings : List Rendering} :
    HeadItem.reference target ∈ (pageHead renderings).items ↔
      ∃ r ∈ renderings, target ∈ frameworkReferences r.settings ∨
        HeadItem.reference target ∈ r.behavior.decoration.headItems r.behavior.component := by
  have hkeys : HeadKey.reference target ∈ (pageHead renderings).keys ↔
      HeadKey.reference target ∈ (renderings.flatMap Rendering.items).map HeadItem.key := by
    rw [pageHead_eq_recordAll, Head.mem_keys_recordAll]
    exact or_iff_right List.not_mem_nil
  calc HeadItem.reference target ∈ (pageHead renderings).items
      ↔ HeadKey.reference target ∈ (pageHead renderings).keys := reference_mem_iff_key_mem
    _ ↔ HeadItem.reference target ∈ renderings.flatMap Rendering.items :=
        hkeys.trans reference_mem_iff_key_mem.symm
    _ ↔ _ := by simp only [List.mem_flatMap, Rendering.reference_mem_items]

theorem Head.count_items_le_one (head : Head) (item : HeadItem) : head.items.count item ≤ 1 := by
  have hnodup : head.items.Nodup :=
    List.Pairwise.of_map HeadItem.key (fun _ _ hkey heq => hkey (congrArg HeadItem.key heq))
      head.nodup_keys
  exact List.nodup_iff_count.mp hnodup item

/-- What a behavior contributes is all known once it was rendered. -/
theorem render_pageHead_of_mem {r : Rendering} {renderings : List Rendering}
    (hr : r ∈ renderings) : Rendering.render (pageHead renderings) r = pageHead renderings := by
  apply Head.recordAll_of_mem_keys
  intro item hitem
  rw [pageHead_eq_recordAll, Head.mem_keys_recordAll]
  exact Or.inr (List.mem_map_of_mem (List.mem_flatMap.mpr ⟨r, hr, hitem⟩))

theorem find?_debug_pageHead {renderings : List Rendering}
    (hbuiltIn : ∀ r ∈ renderings, r.behavior.decoration.BuiltIn) :
    (pageHead renderings).find? (.scriptId "wicket-ajax-debug-enable")
      = if renderings.any (·.settings.debugMode) then some debugItem else none := by
  rw [find?_pageHead]
  induction renderings with
  | nil => rfl
  | cons r rest ih =>
      rw [List.forall_mem_cons] at hbuiltIn
      rw [List.findSome?_cons, r.find?_debug hbuiltIn.1, List.any_cons]
      cases r.settings.debugMode with
      | false => exact ih hbuiltIn.2
      | true => rfl

/-- **One page head for several behaviors.** The settings of the first one decide the base url, and
debugging is on when any of them asks for it. Rendering a behavior once more, at whatever point after
its first time, does not show in the end. -/
theorem pageHead_shared {first : Rendering} {rest : List Rendering}
    (hbuiltIn : ∀ r ∈ first :: rest, r.behavior.decoration.BuiltIn) :
    let renderings := first :: rest
    let items := (pageHead renderings).items
    (∃ more : List HeadItem,
      items = [.reference "wicket-event.js", .reference "wicket-ajax.js"] ++ more) ∧
    (items.filter fun item => item.key == .scriptId "wicket-ajax-base-url")
      = [baseUrlItem first.settings] ∧
    (items.filter fun item => item.key == .scriptId "wicket-ajax-debug-enable")
      = (if renderings.any (·.settings.debugMode) then [debugItem] else []) ∧
    (∀ target, items.count (.reference target) ≤ 1) ∧
    (∀ target, .reference target ∈ items ↔ ∃ r ∈ renderings,
      target ∈ frameworkReferences r.settings ∨
        .reference target ∈ r.behavior.decoration.headItems r.behavior.component) ∧
    ∀ (before after : List Rendering) (r : Rendering), renderings = before ++ after → r ∈ before →
      (pageHead (before ++ r :: after)).items = items := by
  intro renderings items
  refine ⟨items_pageHead_cons first rest, ?_, ?_, fun target => Head.count_items_le_one _ _,
    fun target => reference_mem_pageHead, ?_⟩
  · have hfirst := first.find?_baseUrl (hbuiltIn first List.mem_cons_self)
    rw [Head.filter_key, find?_pageHead, List.findSome?_cons, hfirst]
    rfl
  · rw [Head.filter_key, find?_debug_pageHead hbuiltIn]
    cases renderings.any (·.settings.debugMode) <;> rfl
  · intro before after r hsplit hr
    have hwhole : items = (after.foldl Rendering.render (pageHead before)).items := by
      rw [pageHead, ← List.foldl_append, ← hsplit]
      rfl
    rw [pageHead_append_cons, render_pageHead_of_mem hr, hwhole]

def linkRendering (settings : Settings) (references : List String) : Rendering where
  behavior :=
    { component := .root { markupId := "link" }
      callbackUrl := "?x"
      decoration := .cancelEvent (.wrap { references } .absent) }
  settings := settings

theorem pageHead_shared_two :
    let quiet := linkRendering { baseUrl := "a&b" } ["timing.js", "wicket-ajax.js"]
    let loud := linkRendering { debugMode := true } ["wicket-ajax-debug.js", "timing.js"]
    let items := (pageHead [quiet, loud]).items
    (∀ r ∈ [quiet, loud], r.behavior.decoration.BuiltIn) ∧
      (items.filter fun item => item.key == .scriptId "wicket-ajax-base-url")
        = [baseUrlItem quiet.settings] ∧
      (items.filter fun item => item.key == .scriptId "wicket-ajax-debug-enable") = [debugItem] ∧
      items.count (.reference "wicket-ajax.js") ≤ 1 ∧ .reference "timing.js" ∈ items ∧
      (pageHead [quiet, quiet, loud]).items = items := by
  intro quiet loud items
  have hbuiltIn : ∀ r ∈ [quiet, loud], r.behavior.decoration.BuiltIn := by
    intro r hr
    have hlink : ∃ settings references, r = linkRendering settings references := by
      simp only [List.mem_cons, List.not_mem_nil, or_false] at hr
      rcases hr with rfl | rfl
      · exact ⟨_, _, rfl⟩
      · exact ⟨_, _, rfl⟩
    obtain ⟨settings, references, rfl⟩ := hlink
    exact .cancelEvent (.wrap _ .absent)
  obtain ⟨-, hbase, hdebug, hcount, hmem, hagain⟩ := pageHead_shared hbuiltIn
  refine ⟨hbuiltIn, hbase, hdebug, hcount "wicket-ajax.js", (hmem "timing.js").mpr ?_,
    hagain [quiet] [loud] quiet rfl List.mem_cons_self⟩
  exact ⟨quiet, List.mem_cons_self, Or.inr List.mem_cons_self⟩

end AjaxCallback
