namespace AjaxCallback

/-- Takes a value from the front of the input and gives it with the rest. -/
abbrev Reader (σ α : Type) := List σ → Option (α × List σ)

namespace Reader

/-- Reads at most `limit` values, as long as the reader succeeds. -/
def atMost (read : Reader σ α) : Nat → List σ → List α × List σ
  | 0, input => ([], input)
  | limit + 1, input =>
    match read input with
    | none => ([], input)
    | some (a, rest) =>
      let (as, last) := atMost read limit rest
      (a :: as, last)

/-- Reads as many values as there are. A reader that uses up some of the input for each value cannot
succeed more often than the input is long. -/
def many (read : Reader σ α) (input : List σ) : List α × List σ := atMost read input.length input

def Progresses (read : Reader σ α) : Prop :=
  ∀ input a rest, read input = some (a, rest) → rest.length < input.length

theorem atMost_eq_of_le {read : Reader σ α} (h : Progresses read) {m n : Nat} {input : List σ}
    (hm : input.length ≤ m) (hn : input.length ≤ n) :
    atMost read m input = atMost read n input := by
  induction m generalizing n input with
  | zero =>
    cases n with
    | zero => rfl
    | succ n =>
      cases hr : read input with
      | none => simp [atMost, hr]
      | some p =>
        have := h input p.1 p.2 hr
        omega
  | succ m ih =>
    cases n with
    | zero =>
      cases hr : read input with
      | none => simp [atMost, hr]
      | some p =>
        have := h input p.1 p.2 hr
        omega
    | succ n =>
      cases hr : read input with
      | none => simp [atMost, hr]
      | some p =>
        have hlt := h input p.1 p.2 hr
        have hrec : atMost read m p.2 = atMost read n p.2 := ih (by omega) (by omega)
        simp [atMost, hr, hrec]

theorem many_of_none {read : Reader σ α} {input : List σ} (h : read input = none) :
    many read input = ([], input) := by
  cases input <;> simp [many, atMost, h]

theorem many_of_some {read : Reader σ α} (hp : Progresses read) {input rest : List σ} {a : α}
    (h : read input = some (a, rest)) :
    many read input = (a :: (many read rest).1, (many read rest).2) := by
  have hlt := hp input a rest h
  obtain ⟨n, hn⟩ : ∃ n, input.length = n + 1 := ⟨input.length - 1, by omega⟩
  have hrec : atMost read n rest = many read rest :=
    atMost_eq_of_le hp (by omega) (Nat.le_refl _)
  simp [many, hn, atMost, h, hrec]

end Reader

end AjaxCallback
