import AjaxCallback.Decoration

/-!
# Flattening a tree of decorations

A tree branches in two places: a link may decorate through one of its own, and it has a delegate.
Both orders in which the two may run come down to one list, the leaves of the tree with the
outermost first, and every hook of the tree applies the leaves of that list from the last to the
first.
-/

namespace AjaxCallback

/-- A link that decorates by itself, seen apart from its delegate. -/
inductive Leaf where
  | cancelEvent
  | throttle (throttle : Throttle)
  | wrap (wrapping : Wrapping)

namespace Leaf

def decorate : Leaf → Hook → String → String
  | cancelEvent, hook, text => Decoration.cancel hook text
  | throttle t, hook, text => Decoration.throttled t hook text
  | wrap w, hook, text => (w.wrap hook).around text

def link : Leaf → Decoration → Decoration
  | cancelEvent, d => .cancelEvent d
  | throttle t, d => .throttle t d
  | wrap w, d => .wrap w d

theorem decorate_link (leaf : Leaf) (d : Decoration) (hook : Hook) (c : Component)
    (text : String) :
    (leaf.link d).decorate hook c text = leaf.decorate hook (d.decorate hook c text) := by
  cases leaf <;> rfl

def alone (leaf : Leaf) : Decoration := leaf.link .absent

theorem decorate_alone (leaf : Leaf) (hook : Hook) (c : Component) :
    leaf.alone.decorate hook c = leaf.decorate hook := by
  funext text
  exact leaf.decorate_link .absent hook c text

end Leaf

namespace Decoration

/-- The trees that hold no link given by code. -/
inductive BuiltIn : Decoration → Prop
  | absent : BuiltIn absent
  | cancelEvent {d : Decoration} (hd : BuiltIn d) : BuiltIn (cancelEvent d)
  | throttle {d : Decoration} (t : Throttle) (hd : BuiltIn d) : BuiltIn (throttle t d)
  | wrap {d : Decoration} (w : Wrapping) (hd : BuiltIn d) : BuiltIn (wrap w d)
  | before {own d : Decoration} (hown : BuiltIn own) (hd : BuiltIn d) : BuiltIn (before own d)
  | after {own d : Decoration} (hown : BuiltIn own) (hd : BuiltIn d) : BuiltIn (after own d)

theorem BuiltIn.link {d : Decoration} (hd : d.BuiltIn) (leaf : Leaf) : (leaf.link d).BuiltIn := by
  cases leaf with
  | cancelEvent => exact .cancelEvent hd
  | throttle t => exact .throttle t hd
  | wrap w => exact .wrap w hd

/-- The leaves of a tree, the outermost first. A link given by code is no leaf. -/
def leaves : Decoration → List Leaf
  | absent => []
  | cancelEvent d => .cancelEvent :: d.leaves
  | throttle t d => .throttle t :: d.leaves
  | wrap w d => .wrap w :: d.leaves
  | before own d => d.leaves ++ own.leaves
  | after own d => own.leaves ++ d.leaves
  | custom _ d => d.leaves

@[simp]
theorem leaves_link (leaf : Leaf) (d : Decoration) : (leaf.link d).leaves = leaf :: d.leaves := by
  cases leaf <;> rfl

/-- Every hook of a tree applies its leaves, the innermost first. -/
theorem BuiltIn.decorate_eq_foldr {d : Decoration} (hd : d.BuiltIn) (hook : Hook) (c : Component)
    (text : String) :
    d.decorate hook c text = d.leaves.foldr (fun leaf => leaf.decorate hook) text := by
  induction hd generalizing text with
  | absent => rfl
  | cancelEvent _ ih => rw [decorate, ih]; rfl
  | throttle t _ ih => rw [decorate, ih]; rfl
  | wrap w _ ih => rw [decorate, ih]; rfl
  | before _ _ ihown ihd => rw [decorate, ihown, ihd, leaves, List.foldr_append]
  | after _ _ ihown ihd => rw [decorate, ihd, ihown, leaves, List.foldr_append]

/-- No hook tells the two apart. -/
def Indistinguishable (d e : Decoration) : Prop :=
  ∀ (hook : Hook) (c : Component) (text : String), d.decorate hook c text = e.decorate hook c text

theorem BuiltIn.indistinguishable {d e : Decoration} (hd : d.BuiltIn) (he : e.BuiltIn)
    (hleaves : d.leaves = e.leaves) : d.Indistinguishable e := by
  intro hook c text
  rw [hd.decorate_eq_foldr, he.decorate_eq_foldr, hleaves]

theorem leaves_after_alone (leaf : Leaf) (d : Decoration) :
    (after leaf.alone d).leaves = (leaf.link d).leaves := by
  rw [leaves, Leaf.alone, leaves_link, leaves_link, leaves, List.singleton_append]

theorem leaves_after_after (own between d : Decoration) :
    (after (after own between) d).leaves = (after own (after between d)).leaves := by
  simp only [leaves, List.append_assoc]

/-- **Flattening.** A tree of built-in links is its list of leaves: it applies them one after the
other, each without a delegate, from the last to the first. How the tree branches leaves no other
trace, so a leaf may be taken off its delegate and put in front of it, and decorating afterwards is
associative. -/
theorem decorate_eq_foldr_leaves :
    (∀ d : Decoration, d.BuiltIn → ∀ (hook : Hook) (c : Component) (text : String),
      d.decorate hook c text = d.leaves.foldr (fun leaf => leaf.alone.decorate hook c) text) ∧
    (∀ d e : Decoration, d.BuiltIn → e.BuiltIn → d.leaves = e.leaves → d.Indistinguishable e) ∧
    (∀ (leaf : Leaf) (d : Decoration), d.BuiltIn →
      (leaf.link d).Indistinguishable (after leaf.alone d)) ∧
    ∀ own between d : Decoration, own.BuiltIn → between.BuiltIn → d.BuiltIn →
      (after (after own between) d).Indistinguishable (after own (after between d)) := by
  refine ⟨?_, fun d e hd he => hd.indistinguishable he, ?_, ?_⟩
  · intro d hd hook c text
    simp only [Leaf.decorate_alone]
    exact hd.decorate_eq_foldr hook c text
  · intro leaf d hd
    have halone : leaf.alone.BuiltIn := BuiltIn.absent.link leaf
    exact (hd.link leaf).indistinguishable (.after halone hd) (leaves_after_alone leaf d).symm
  · intro own between d hown hbetween hd
    exact BuiltIn.indistinguishable (.after (.after hown hbetween) hd)
      (.after hown (.after hbetween hd)) (leaves_after_after own between d)

theorem decorate_eq_foldr_leaves_branching :
    let t : Throttle := ⟨"typing", .ofMilliseconds 500, by decide⟩
    let w : Wrapping := { script := ⟨"go(", ");"⟩ }
    let tree : Decoration :=
      .before (.throttle t .absent) (.after (.cancelEvent .absent) (.wrap w .absent))
    let chain : Decoration := .cancelEvent (.wrap w (.throttle t .absent))
    let page : Component := .root { markupId := "page" }
    tree.BuiltIn ∧ chain.BuiltIn ∧ tree.leaves = [.cancelEvent, .wrap w, .throttle t] ∧
      tree.leaves = chain.leaves ∧ tree.Indistinguishable chain ∧
      tree.decorate .script page " " = "go( );return !wcall;" ∧
      chain.Indistinguishable (.after (.cancelEvent .absent) (.wrap w (.throttle t .absent))) ∧
      Indistinguishable (.after (.after tree chain) chain) (.after tree (.after chain chain)) := by
  intro t w tree chain page
  have htree : tree.BuiltIn :=
    .before (.throttle t .absent) (.after (.cancelEvent .absent) (.wrap w .absent))
  have hchain : chain.BuiltIn := .cancelEvent (.wrap w (.throttle t .absent))
  have hrest : BuiltIn (.wrap w (.throttle t .absent)) := .wrap w (.throttle t .absent)
  refine ⟨htree, hchain, rfl, rfl, decorate_eq_foldr_leaves.2.1 tree chain htree hchain rfl, ?_,
    decorate_eq_foldr_leaves.2.2.1 .cancelEvent _ hrest,
    decorate_eq_foldr_leaves.2.2.2 tree chain chain htree hchain hchain⟩
  rw [decorate_eq_foldr_leaves.1 tree htree]
  decide

end Decoration

end AjaxCallback
