import AjaxCallback.Decoration
import Mathlib.Data.List.Basic
import Mathlib.Data.List.Nodup
import Mathlib.Logic.Function.Iterate

/-!
# Walking along a chain

A chain is resolved link by link, from the primary one on to the delegate of each until there is
none. The walk ends, for every link stands in front of a shorter chain. It meets the successive
delegates of the primary link and no other link: what a link does through one of its own is one step
of the walk. Asked for its contributor, such a link refers to the first link of the own one, which
may refer on.
-/

namespace AjaxCallback

namespace Decoration

/-! ### The links are the successive delegates -/

theorem links_eq (d : Decoration) :
    d.links = if d.isAbsent then [] else d :: d.delegate.links := by
  cases d <;> rfl

theorem links_delegate (d : Decoration) : d.delegate.links = d.links.tail := by
  cases d <;> rfl

theorem eq_absent_of_isAbsent {d : Decoration} (h : d.isAbsent = true) : d = absent := by
  cases d with
  | absent => rfl
  | cancelEvent _ | throttle _ _ | wrap _ _ | before _ _ | after _ _ | custom _ _ => cases h

theorem links_iterate_delegate (d : Decoration) (n : Nat) :
    (delegate^[n] d).links = d.links.drop n := by
  induction n generalizing d with
  | zero => rfl
  | succ n ih => rw [Function.iterate_succ_apply, ih, links_delegate, List.drop_tail]

theorem getElem?_links (d : Decoration) (i : Nat) :
    d.links[i]? = if (delegate^[i] d).isAbsent then none else some (delegate^[i] d) := by
  rw [← List.head?_drop, ← links_iterate_delegate, links_eq]
  split <;> rfl

theorem getD_getElem?_links (d : Decoration) (i : Nat) :
    d.links[i]?.getD absent = delegate^[i] d := by
  rw [getElem?_links]
  split
  case isTrue h => exact (eq_absent_of_isAbsent h).symm
  case isFalse => rfl

theorem delegate_of_getElem?_links {d link : Decoration} {i : Nat} (h : d.links[i]? = some link) :
    link.delegate = d.links[i + 1]?.getD absent := by
  have hlink : link = delegate^[i] d := by rw [← getD_getElem?_links, h, Option.getD_some]
  rw [getD_getElem?_links, Function.iterate_succ_apply', ← hlink]

theorem isAbsent_iterate_delegate_iff {d : Decoration} {n : Nat} :
    (delegate^[n] d).isAbsent = true ↔ d.links.length ≤ n := by
  rw [← List.getElem?_eq_none_iff, getElem?_links]
  simp

/-- A link that is met later stands in front of a shorter chain. -/
theorem nodup_links (d : Decoration) : d.links.Nodup := by
  have hmet {k : Nat} (hk : k < d.links.length) : d.links[k]? = some (delegate^[k] d) := by
    rw [getElem?_links, if_neg (mt isAbsent_iterate_delegate_iff.mp (Nat.not_le.mpr hk))]
  rw [List.nodup_iff_getElem?_ne_getElem?]
  intro i j hij hj heq
  rw [hmet (Nat.lt_trans hij hj), hmet hj, Option.some_inj] at heq
  have hlength := congrArg (fun link => link.links.length) heq
  simp only [links_iterate_delegate, List.length_drop] at hlength
  omega

/-! ### The walk, round by round -/

/-- What a walk has collected, and the chain that is still ahead of it. -/
structure Walk where
  links : List Decoration
  contributors : List Contributor
  ahead : Decoration

namespace Walk

def start (primary : Decoration) : Walk := ⟨[], [], primary⟩

/-- The first link ahead is asked for its contributor and taken down, and the walk goes on to its
delegate. At the end of the chain it rests. -/
def round (w : Walk) : Walk :=
  if w.ahead.isAbsent then w
  else
    { links := w.links ++ [w.ahead]
      contributors := w.contributors ++ w.ahead.contributor.toList
      ahead := w.ahead.delegate }

/-- Every round takes down one of the links ahead, as long as there are any. -/
theorem iterate_round (w : Walk) (n : Nat) :
    round^[n] w =
      { links := w.links ++ w.ahead.links.take n
        contributors := w.contributors ++ (w.ahead.links.take n).filterMap contributor
        ahead := delegate^[n] w.ahead } := by
  induction n with
  | zero => simp
  | succ n ih =>
      have htake := List.take_add_one (l := w.ahead.links) (i := n)
      rw [getElem?_links] at htake
      rw [Function.iterate_succ_apply', Function.iterate_succ_apply', ih]
      by_cases h : (delegate^[n] w.ahead).isAbsent = true
      · rw [if_pos h, Option.toList_none, List.append_nil] at htake
        rw [round, if_pos h, htake, eq_absent_of_isAbsent h]
        rfl
      · have hcontributor : [delegate^[n] w.ahead].filterMap contributor
            = (delegate^[n] w.ahead).contributor.toList := by
          rw [List.filterMap_eq_flatMap_toList, List.flatMap_singleton]
        rw [if_neg h, Option.toList_some] at htake
        rw [round, if_neg h, htake, List.filterMap_append, hcontributor, List.append_assoc,
          List.append_assoc]

theorem ahead_iterate_round_start (d : Decoration) (n : Nat) :
    (round^[n] (start d)).ahead.isAbsent = true ↔ d.links.length ≤ n := by
  rw [iterate_round]
  exact isAbsent_iterate_delegate_iff

theorem iterate_round_start (d : Decoration) :
    round^[d.links.length] (start d) = ⟨d.links, d.contributors, absent⟩ := by
  have hend : delegate^[d.links.length] d = absent :=
    eq_absent_of_isAbsent (isAbsent_iterate_delegate_iff.mpr (Nat.le_refl _))
  rw [iterate_round, start, List.take_length, hend]
  rfl

end Walk

/-! ### Who is asked, and what is contributed -/

def throughOwn : Decoration → Bool
  | before _ _ | after _ _ => true
  | absent | cancelEvent _ | throttle _ _ | wrap _ _ | custom _ _ => false

/-- The link that answers when a link is asked for its contributor. -/
def answering : Decoration → Decoration
  | before own _ | after own _ => own.answering
  | absent => absent
  | cancelEvent d => cancelEvent d
  | throttle t d => throttle t d
  | wrap w d => wrap w d
  | custom k d => custom k d

theorem contributor_answering (d : Decoration) : d.answering.contributor = d.contributor := by
  induction d with
  | before own d ihown _ => exact ihown
  | after own d ihown _ => exact ihown
  | absent | cancelEvent _ _ | throttle _ _ _ | wrap _ _ _ | custom _ _ _ => rfl

theorem throughOwn_answering (d : Decoration) : d.answering.throughOwn = false := by
  induction d with
  | before own d ihown _ => exact ihown
  | after own d ihown _ => exact ihown
  | absent | cancelEvent _ _ | throttle _ _ _ | wrap _ _ _ | custom _ _ _ => rfl

/-- What a link contributes that answers for itself. -/
def ownItems : Decoration → Component → List HeadItem
  | wrap w _, _ => w.references.map .reference
  | custom k _, c => k.contributor.elim [] fun contribute => contribute c
  | absent, _ | cancelEvent _, _ | throttle _ _, _ | before _ _, _ | after _ _, _ => []

theorem flatMap_contributor_toList (d : Decoration) (c : Component) :
    (d.contributor.toList.flatMap fun contribute => contribute c) = d.answering.ownItems c := by
  induction d with
  | before own d ihown _ => exact ihown
  | after own d ihown _ => exact ihown
  | absent | cancelEvent _ _ | throttle _ _ _ => rfl
  | wrap w d _ =>
      rw [contributor, answering, ownItems]
      cases w.references with
      | nil => rfl
      | cons r rs => exact List.flatMap_singleton ..
  | custom k d _ =>
      rw [contributor, answering, ownItems]
      cases k.contributor with
      | none => rfl
      | some contribute => exact List.flatMap_singleton ..

theorem headItems_eq_flatMap (d : Decoration) (c : Component) :
    d.headItems c = d.links.flatMap fun link => link.answering.ownItems c := by
  rw [headItems, contributors, List.filterMap_eq_flatMap_toList, List.flatMap_assoc]
  simp only [flatMap_contributor_toList]

/-- **Walking along a chain.** The links are the successive delegates of the primary one, no link is
met twice, and the walk ends after as many rounds as there are links, with these and with the
contributors of those that have one. A link that decorates through one of its own is followed by its
own delegate and contributes what the first link of the own one does. To ask the contributors one
after the other makes the calls of all of them in that order, whatever responds to the calls. -/
theorem walk_visits_links (d : Decoration) :
    (∀ i, d.links[i]? = if (delegate^[i] d).isAbsent then none else some (delegate^[i] d)) ∧
    d.links.Nodup ∧
    (∀ n, (Walk.round^[n] (.start d)).ahead.isAbsent = true ↔ d.links.length ≤ n) ∧
    Walk.round^[d.links.length] (.start d) = ⟨d.links, d.contributors, absent⟩ ∧
    d.contributors = d.links.filterMap contributor ∧
    (∀ own e : Decoration,
      (before own e).links = before own e :: e.links ∧
      (after own e).links = after own e :: e.links ∧
      (before own e).contributor = own.contributor ∧ (after own e).contributor = own.contributor) ∧
    (∀ link : Decoration,
      link.contributor = link.answering.contributor ∧ link.answering.throughOwn = false) ∧
    ∀ c : Component,
      d.headItems c = (d.links.flatMap fun link => link.answering.ownItems c) ∧
      ∀ (σ : Type) (respond : σ → HeadItem → σ) (s : σ),
        d.contributors.foldl (fun s contribute => (contribute c).foldl respond s) s
          = (d.headItems c).foldl respond s := by
  refine ⟨d.getElem?_links, d.nodup_links, Walk.ahead_iterate_round_start d,
    Walk.iterate_round_start d, rfl, fun own e => ⟨rfl, rfl, rfl, rfl⟩,
    fun link => ⟨link.contributor_answering.symm, link.throughOwn_answering⟩,
    fun c => ⟨d.headItems_eq_flatMap c, fun σ respond s => ?_⟩⟩
  exact (List.foldl_flatMap ..).symm

/-- A chain of three links, the first of which refers through two of its own. -/
theorem walk_visits_links_nested :
    let wrapped (target : String) : Decoration → Decoration := .wrap { references := [target] }
    let boot : CustomDecoration :=
      { decorate := fun _ _ inner text => inner text
        contributor := some fun c => [.script c.markupId none, .reference "own.js"] }
    let own : Decoration := .after (wrapped "own.js" (wrapped "behind.js" .absent)) .absent
    let last : Decoration := .custom boot (.cancelEvent .absent)
    let chain : Decoration := .before own last
    let page : Component := .root { markupId := "page" }
    chain.links = [chain, last, .cancelEvent .absent] ∧
      chain.links[1]? = (if chain.delegate.isAbsent then none else some chain.delegate) ∧
      (Walk.round^[2] (.start chain)).ahead.isAbsent ≠ true ∧
      (Walk.round^[3] (.start chain)).ahead.isAbsent = true ∧
      chain.answering = wrapped "own.js" (wrapped "behind.js" .absent) ∧
      chain.headItems page = [.reference "own.js", .script "page" none, .reference "own.js"] := by
  intro wrapped boot own last chain page
  obtain ⟨hlinks, -, hend, -, -, -, -, hitems⟩ := walk_visits_links chain
  refine ⟨rfl, hlinks 1, mt (hend 2).mp (by decide), (hend 3).mpr (by decide), rfl, ?_⟩
  exact (hitems page).1

end Decoration

end AjaxCallback
