import AjaxCallback.Proofs.Flattening

/-!
# What a tree of decorations puts around a text

On a text that is not blank every leaf acts as one wrap for each hook. A throttle does inspect the
script it is handed, but only to see that it is not blank, and no leaf makes a blank text of one
that is not. Wraps nest, so a whole tree acts as a single wrap.
-/

namespace AjaxCallback

open Text

namespace Wrap

/-- The wraps of a list as one, the first of them outermost. -/
def nested (wraps : List Wrap) : Wrap where
  before := String.join (wraps.map Wrap.before)
  after := String.join (wraps.reverse.map Wrap.after)

@[simp]
theorem around_nested_nil (text : String) : (nested []).around text = text := by
  simp [nested, around]

theorem before_nested_cons (w : Wrap) (wraps : List Wrap) :
    (nested (w :: wraps)).before = w.before ++ (nested wraps).before := by
  simp [nested]

theorem after_nested_cons (w : Wrap) (wraps : List Wrap) :
    (nested (w :: wraps)).after = (nested wraps).after ++ w.after := by
  simp [nested, String.join_append]

@[simp]
theorem around_nested_cons (w : Wrap) (wraps : List Wrap) (text : String) :
    (nested (w :: wraps)).around text = w.around ((nested wraps).around text) := by
  simp only [around, before_nested_cons, after_nested_cons, String.append_assoc]

theorem around_nested_append (outer inner : List Wrap) (text : String) :
    (nested (outer ++ inner)).around text = (nested outer).around ((nested inner).around text) := by
  induction outer with
  | nil => simp
  | cons w outer ih => rw [List.cons_append, around_nested_cons, ih, around_nested_cons]

theorem isBlank_around (w : Wrap) {text : String} (htext : isBlank text = false) :
    isBlank (w.around text) = false := by
  rw [around, isBlank_append, isBlank_append, htext]
  simp

end Wrap

namespace Leaf

/-- What a leaf puts around a text that is not blank. -/
def surround : Leaf → Hook → Wrap
  | cancelEvent, .script => { after := Client.cancelEvent }
  | cancelEvent, .success | cancelEvent, .failure => {}
  | throttle t, .script => { before := throttleOpening t.id t.delay, after := throttleClosing }
  | throttle _, .success | throttle _, .failure => {}
  | wrap w, hook => w.wrap hook

/-- Only the whole script has to hold something: the bodies of the handlers may be blank. -/
theorem decorate_eq_around (leaf : Leaf) {hook : Hook} {text : String}
    (htext : hook = .script → isBlank text = false) :
    leaf.decorate hook text = (leaf.surround hook).around text := by
  cases leaf with
  | cancelEvent => cases hook <;> simp [decorate, Decoration.cancel, surround, Wrap.around]
  | throttle t =>
      cases hook with
      | script =>
          have happly := t.apply_of_not_blank (htext rfl)
          simp only [decorate, Decoration.throttled, surround, Wrap.around, happly]
      | success => simp [decorate, Decoration.throttled, surround, Wrap.around]
      | failure => simp [decorate, Decoration.throttled, surround, Wrap.around]
  | wrap w => rfl

end Leaf

/-- Decorating by leaves is wrapping, as long as what reaches a throttle is not blank: the
invariant of the induction is that a wrap keeps it so. -/
theorem foldr_decorate_eq_around (leaves : List Leaf) {hook : Hook} {text : String}
    (htext : hook = .script → isBlank text = false) :
    leaves.foldr (fun leaf => leaf.decorate hook) text
      = (Wrap.nested (leaves.map fun leaf => leaf.surround hook)).around text := by
  induction leaves with
  | nil => simp
  | cons leaf leaves ih =>
      rw [List.foldr_cons, ih, List.map_cons, Wrap.around_nested_cons]
      apply leaf.decorate_eq_around
      intro hscript
      exact Wrap.isBlank_around _ (htext hscript)

namespace Decoration

def surround (d : Decoration) (hook : Hook) : Wrap :=
  .nested (d.leaves.map fun leaf => leaf.surround hook)

theorem BuiltIn.decorate_eq_around {d : Decoration} (hd : d.BuiltIn) {hook : Hook} (c : Component)
    {text : String} (htext : hook = .script → isBlank text = false) :
    d.decorate hook c text = (d.surround hook).around text := by
  rw [hd.decorate_eq_foldr, foldr_decorate_eq_around d.leaves htext, surround]

theorem BuiltIn.decorate_script {d : Decoration} (hd : d.BuiltIn) (c : Component) {script : String}
    (hscript : isBlank script = false) :
    d.decorate .script c script = (d.surround .script).around script :=
  hd.decorate_eq_around c fun _ => hscript

theorem BuiltIn.isBlank_decorate_script {d : Decoration} (hd : d.BuiltIn) (c : Component)
    {script : String} (hscript : isBlank script = false) :
    isBlank (d.decorate .script c script) = false := by
  rw [hd.decorate_script c hscript]
  exact Wrap.isBlank_around _ hscript

end Decoration

end AjaxCallback
