import AjaxCallback.Proofs.Splitting
import AjaxCallback.Text.Blank

/-!
# Nested brackets

A text is balanced when its brackets, all else left out, form a correctly nested word. Reading the
text with a stack of the brackets that are still owed decides this. The stack is what makes pieces
compose: a balanced piece leaves it as it was, so it can be put anywhere into a text without
changing whether the text is balanced.
-/

namespace AjaxCallback.Text

def partner : Char → Option Char
  | '(' => some ')'
  | '[' => some ']'
  | '\x7b' => some '\x7d'
  | _ => none

def isCloser (c : Char) : Bool := c == ')' || c == ']' || c == '\x7d'

def isBracket (c : Char) : Bool := (partner c).isSome || isCloser c

def brackets (s : String) : List Char := s.toList.filter isBracket

inductive Nested : List Char → Prop
  | nil : Nested []
  | pair {opener closer : Char} {inside rest : List Char} (hpartner : partner opener = some closer)
      (hinside : Nested inside) (hrest : Nested rest) :
      Nested (opener :: (inside ++ closer :: rest))

def Balanced (s : String) : Prop := Nested (brackets s)

/-! ### Reading with a stack -/

/-- Reads one character with the stack of closing brackets that are owed. -/
def readBracket (stack : List Char) (c : Char) : Option (List Char) :=
  match partner c with
  | some closer => some (closer :: stack)
  | none =>
    if isCloser c then
      match stack with
      | [] => none
      | top :: rest => if top = c then some rest else none
    else some stack

def scan (stack w : List Char) : Option (List Char) := w.foldlM readBracket stack

theorem scan_cons (stack : List Char) (c : Char) (w : List Char) :
    scan stack (c :: w) = (readBracket stack c).bind fun next => scan next w := rfl

theorem scan_append (stack v w : List Char) :
    scan stack (v ++ w) = (scan stack v).bind fun next => scan next w := by
  rw [scan, List.foldlM_append]
  rfl

theorem readBracket_of_not_isBracket {c : Char} (h : isBracket c = false) (stack : List Char) :
    readBracket stack c = some stack := by
  rw [isBracket, Bool.or_eq_false_iff, Option.isSome_eq_false_iff, Option.isNone_iff_eq_none] at h
  simp [readBracket, h.1, h.2]

theorem scan_filter_isBracket (stack w : List Char) :
    scan stack (w.filter isBracket) = scan stack w := by
  induction w generalizing stack with
  | nil => rfl
  | cons c w ih =>
      cases h : isBracket c with
      | true =>
          rw [List.filter_cons_of_pos h, scan_cons, scan_cons]
          exact congrArg _ (funext fun next => ih next)
      | false =>
          rw [List.filter_cons_of_neg (by simp [h]), scan_cons, readBracket_of_not_isBracket h]
          exact ih stack

theorem readBracket_of_opener {opener closer : Char} (h : partner opener = some closer)
    (stack : List Char) : readBracket stack opener = some (closer :: stack) := by
  simp [readBracket, h]

theorem readBracket_of_closer {opener closer : Char} (h : partner opener = some closer)
    (stack : List Char) : readBracket (closer :: stack) closer = some stack := by
  have hcloser : partner closer = none ∧ isCloser closer = true := by
    unfold partner at h
    split at h <;> cases h <;> decide
  simp [readBracket, hcloser.1, hcloser.2]

/-- A nested word leaves every stack as it was. -/
theorem Nested.scan_eq {w : List Char} (hw : Nested w) (stack : List Char) :
    scan stack w = some stack := by
  induction hw generalizing stack with
  | nil => rfl
  | @pair opener closer inside rest hpartner _ _ ihinside ihrest =>
      rw [scan_cons, readBracket_of_opener hpartner, Option.bind_some, scan_append, ihinside,
        Option.bind_some, scan_cons, readBracket_of_closer hpartner, Option.bind_some, ihrest]

/-- The words that pay what a stack owes, with nested words in between. -/
inductive Closes : List Char → List Char → Prop
  | nil {w : List Char} (hw : Nested w) : Closes [] w
  | cons {closer : Char} {stack inside rest : List Char} (hinside : Nested inside)
      (hrest : Closes stack rest) : Closes (closer :: stack) (inside ++ closer :: rest)

theorem Closes.opening {opener closer : Char} {stack w : List Char}
    (hpartner : partner opener = some closer) (h : Closes (closer :: stack) w) :
    Closes stack (opener :: w) := by
  obtain _ | ⟨hinside, hrest⟩ := h
  cases hrest with
  | nil hw => exact .nil (.pair hpartner hinside hw)
  | cons hinside' hrest' =>
      have hpair := Nested.pair hpartner hinside hinside'
      simpa using Closes.cons hpair hrest'

theorem closes_of_scan {stack w : List Char} (h : scan stack w = some []) :
    Closes stack (w.filter isBracket) := by
  induction w generalizing stack with
  | nil =>
      obtain rfl : stack = [] := Option.some.inj h
      exact .nil .nil
  | cons c w ih =>
      rw [scan_cons] at h
      cases hpartner : partner c with
      | some closer =>
          rw [readBracket_of_opener hpartner, Option.bind_some] at h
          have hbracket : isBracket c = true := by simp [isBracket, hpartner]
          rw [List.filter_cons_of_pos hbracket]
          exact (ih h).opening hpartner
      | none =>
          cases hcloser : isCloser c with
          | false =>
              have hbracket : isBracket c = false := by simp [isBracket, hpartner, hcloser]
              rw [readBracket_of_not_isBracket hbracket] at h
              rw [List.filter_cons_of_neg (by simp [hbracket])]
              exact ih h
          | true =>
              have hbracket : isBracket c = true := by simp [isBracket, hcloser]
              rw [List.filter_cons_of_pos hbracket]
              cases stack with
              | nil => simp [readBracket, hpartner, hcloser] at h
              | cons top stack =>
                  by_cases htop : top = c
                  · subst htop
                    simp only [readBracket, hpartner, hcloser, if_true, Option.bind_some] at h
                    exact .cons .nil (ih h)
                  · simp [readBracket, hpartner, hcloser, htop] at h

theorem balanced_iff_scan {s : String} : Balanced s ↔ scan [] s.toList = some [] := by
  constructor
  · intro h
    rw [← scan_filter_isBracket]
    exact h.scan_eq []
  · intro h
    obtain hw | _ := closes_of_scan h
    exact hw

instance : DecidablePred Balanced := fun _ => decidable_of_iff _ balanced_iff_scan.symm

/-! ### Putting texts together -/

theorem Balanced.scan_eq {s : String} (hs : Balanced s) (stack : List Char) :
    scan stack s.toList = some stack := by
  rw [← scan_filter_isBracket]
  exact Nested.scan_eq hs stack

theorem Balanced.append {s t : String} (hs : Balanced s) (ht : Balanced t) :
    Balanced (s ++ t) := by
  rw [balanced_iff_scan, String.toList_append, scan_append, hs.scan_eq, Option.bind_some,
    ht.scan_eq]

/-- A balanced text can be put anywhere into a balanced one. -/
theorem Balanced.insert {before after s : String} (h : Balanced (before ++ after))
    (hs : Balanced s) : Balanced (before ++ (s ++ after)) := by
  rw [balanced_iff_scan, String.toList_append, scan_append] at h ⊢
  simp only [String.toList_append, scan_append, hs.scan_eq, Option.bind_some]
  exact h

theorem Balanced.insert_two {before between after s t : String}
    (h : Balanced (before ++ between ++ after)) (hs : Balanced s) (ht : Balanced t) :
    Balanced (before ++ (s ++ (between ++ (t ++ after)))) := by
  have hlast := h.insert ht
  rw [String.append_assoc] at hlast
  exact hlast.insert hs

theorem balanced_empty : Balanced "" := by decide

theorem isBracket_of_isDigit {c : Char} (h : c.isDigit = true) : isBracket c = false := by
  have hpartner : partner c = none := by
    unfold partner
    split
    · exact absurd h (by decide)
    · exact absurd h (by decide)
    · exact absurd h (by decide)
    · rfl
  have hcloser : isCloser c = false := by
    simp only [isCloser, Bool.or_eq_false_iff, beq_eq_false_iff_ne]
    refine ⟨⟨?_, ?_⟩, ?_⟩
    · rintro rfl
      exact absurd h (by decide)
    · rintro rfl
      exact absurd h (by decide)
    · rintro rfl
      exact absurd h (by decide)
  rw [isBracket, hpartner, hcloser]
  rfl

theorem balanced_of_not_isBracket {s : String} (h : ∀ c ∈ s.toList, isBracket c = false) :
    Balanced s := by
  have hnone : brackets s = [] := List.filter_eq_nil_iff.mpr fun c hc => by simp [h c hc]
  rw [Balanced, hnone]
  exact .nil

theorem balanced_toString (n : Nat) : Balanced (toString n) := by
  apply balanced_of_not_isBracket
  intro c hc
  exact isBracket_of_isDigit (isDigit_of_mem_toString hc)

end AjaxCallback.Text
