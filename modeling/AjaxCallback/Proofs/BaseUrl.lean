import AjaxCallback.Proofs.PageHead
import AjaxCallback.Proofs.StringLiteral

/-!
# The base url in the page head

A rendered head tells the client the base url by a statement that assigns it, escaped for markup.
It is recorded before any decoration contributes, so no decoration can take its id. The url can
always be read back from the markup. As a script the statement is another matter: it ends where it
should unless the url brings a line end along or a backslash that escapes the closing quote.
-/

namespace AjaxCallback

open Text

namespace Behavior

/-- What the head of a behavior on a page of its own holds under the id of the base url. -/
def baseUrlItems (b : Behavior) (settings : Settings) : List HeadItem :=
  (b.renderHead settings .empty).items.filter fun item =>
    item.key == .scriptId "wicket-ajax-base-url"

theorem baseUrlItems_eq (b : Behavior) (settings : Settings) :
    b.baseUrlItems settings = [baseUrlItem settings] := by
  have hfind : (b.renderHead settings .empty).find? (.scriptId "wicket-ajax-base-url")
      = some (baseUrlItem settings) := by
    rw [renderHead, Head.find?_recordAll, headItems, clientItems_eq]
    cases settings.debugMode with
    | false => rfl
    | true => rfl
  rw [baseUrlItems, Head.filter_key, hfind]
  rfl

/-- **The base url can be read back.** The escaped url holds no character that means something in
markup, except ampersands that start an entity, and reading the entities back gives the url. So the
statements for different urls differ. -/
theorem unescape_baseUrlItems (b : Behavior) (settings : Settings) :
    (∃ escaped : String,
      b.baseUrlItems settings
        = [.script ("Wicket.Ajax.baseUrl=\"" ++ escaped ++ "\";") (some "wicket-ajax-base-url")] ∧
      unescape escaped = settings.baseUrl ∧
      (∀ c ∈ ['<', '>', '"', '\''], c ∉ escaped.toList) ∧
      ∀ rest, '&' :: rest <:+ escaped.toList →
        ∃ entity ∈ ["&amp;", "&lt;", "&gt;", "&quot;", "&#039;"], entity.toList <+: '&' :: rest) ∧
    ∀ (b' : Behavior) (settings' : Settings),
      b'.baseUrlItems settings' = b.baseUrlItems settings →
        settings'.baseUrl = settings.baseUrl := by
  constructor
  · refine ⟨escapeMarkup settings.baseUrl, baseUrlItems_eq b settings, unescape_escapeMarkup _,
      fun c hc => not_mem_escapeMarkup hc _, fun rest hrest => ?_⟩
    obtain ⟨r, hr, hprefix⟩ := entity_prefix_of_suffix hrest
    exact ⟨r.text, List.mem_map_of_mem (f := Replacement.text) hr, hprefix⟩
  · intro b' settings' h
    rw [baseUrlItems_eq, baseUrlItems_eq] at h
    have htext := (HeadItem.script.inj (List.cons.inj h).1).1
    rw [String.append_left_inj, String.append_right_inj] at htext
    calc settings'.baseUrl = unescape (escapeMarkup settings'.baseUrl) :=
          (unescape_escapeMarkup _).symm
      _ = unescape (escapeMarkup settings.baseUrl) := congrArg unescape htext
      _ = settings.baseUrl := unescape_escapeMarkup _

def searchPage : Behavior where
  component := .root { markupId := "page", page := true }
  callbackUrl := "?search"
  decoration := .custom
    { decorate := fun _ _ _ text => text
      contributor := some fun _ => [.script "steal();" (some "wicket-ajax-base-url")] } .absent

theorem unescape_baseUrlItems_entity :
    (∃ escaped : String,
      searchPage.baseUrlItems { baseUrl := "?a&amp;lt;" }
        = [.script ("Wicket.Ajax.baseUrl=\"" ++ escaped ++ "\";") (some "wicket-ajax-base-url")] ∧
      unescape escaped = "?a&amp;lt;" ∧ '<' ∉ escaped.toList) ∧
    searchPage.baseUrlItems { baseUrl := "?a&lt;" }
      ≠ searchPage.baseUrlItems { baseUrl := "?a&amp;lt;" } := by
  obtain ⟨⟨escaped, hitems, hunescape, hfree, -⟩, hinjective⟩ :=
    unescape_baseUrlItems searchPage { baseUrl := "?a&amp;lt;" }
  refine ⟨⟨escaped, hitems, hunescape, hfree '<' (by decide)⟩, fun h => ?_⟩
  exact absurd (hinjective searchPage { baseUrl := "?a&lt;" } h) (by decide)

/-- **When the base url statement is one statement.** The escaped url never holds a quote. Between
the quotes of the statement it is read to the closing one if and only if it can stand in a literal,
and that is the case if the url has no line end and ends with an even number of backslashes. -/
theorem literalBody_baseUrlItems_iff (b : Behavior) (settings : Settings) :
    let url := settings.baseUrl.toList
    ∃ escaped : String,
      b.baseUrlItems settings
        = [.script ("Wicket.Ajax.baseUrl=\"" ++ escaped ++ "\";") (some "wicket-ajax-base-url")] ∧
      '"' ∉ escaped.toList ∧
      (readLiteral false (escaped ++ "\";").toList = some (escaped.toList, [';']) ↔
        LiteralBody false escaped.toList) ∧
      (LiteralBody false escaped.toList ↔
        '\n' ∉ url ∧ '\r' ∉ url ∧ (url.reverse.takeWhile (· == '\\')).length % 2 = 0) := by
  intro url
  refine ⟨escapeMarkup settings.baseUrl, baseUrlItems_eq b settings,
    not_mem_escapeMarkup (by decide) _, ?_, literalBody_escapeMarkup_iff⟩
  rw [String.toList_append]
  exact readLiteral_eq_some_iff

/-- A backslash at the end of the url escapes the closing quote. -/
theorem baseUrlItems_open_literal :
    searchPage.baseUrlItems { baseUrl := "\\" }
      = [.script "Wicket.Ajax.baseUrl=\"\\\";" (some "wicket-ajax-base-url")] ∧
    ¬LiteralBody false "\\".toList ∧ readLiteral false "\\\";".toList = none := by
  refine ⟨?_, fun h => absurd h.ends_unescaped (by decide), by decide⟩
  rw [Behavior.baseUrlItems_eq]
  decide

end Behavior

end AjaxCallback
