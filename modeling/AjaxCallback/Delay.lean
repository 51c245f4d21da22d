namespace AjaxCallback

/-- A span of time, exact to the nanosecond and without an upper bound. -/
structure Delay where
  nanoseconds : Nat
deriving DecidableEq, Repr

namespace Delay

def ofMilliseconds (n : Nat) : Delay := ⟨n * 1000000⟩

def ofSeconds (seconds nanoseconds : Nat) : Delay := ⟨seconds * 1000000000 + nanoseconds⟩

def wholeMilliseconds (d : Delay) : Nat := d.nanoseconds / 1000000

@[simp]
theorem wholeMilliseconds_ofMilliseconds (n : Nat) : (ofMilliseconds n).wholeMilliseconds = n := by
  simp [ofMilliseconds, wholeMilliseconds]

theorem wholeMilliseconds_ofSeconds (seconds nanoseconds : Nat) :
    (ofSeconds seconds nanoseconds).wholeMilliseconds = seconds * 1000 + nanoseconds / 1000000 := by
  simp only [ofSeconds, wholeMilliseconds]
  omega

theorem ofMilliseconds_injective {m n : Nat} (h : ofMilliseconds m = ofMilliseconds n) : m = n := by
  simpa using congrArg wholeMilliseconds h

end Delay

end AjaxCallback
