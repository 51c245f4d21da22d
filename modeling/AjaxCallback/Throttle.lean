import AjaxCallback.Client
import AjaxCallback.Delay
import AjaxCallback.Text.Blank

/-!
# Throttling

A throttled script runs at most once per delay, however often it is triggered. The client keeps the
state of a throttle under its id.
-/

namespace AjaxCallback

open Text

inductive ThrottleError where
  | blankScript
  | blankId
  | missingDelay
deriving DecidableEq, Repr

def ThrottleError.message : ThrottleError → String
  | blankScript => "Argument 'script' may not be null or empty."
  | blankId => "Argument 'throttleId' may not be null or empty."
  | missingDelay => "Argument 'throttleDelay' may not be null."

def throttleOpening (id : String) (delay : Delay) : String :=
  Client.throttleFunction ++ "( '" ++ id ++ "', " ++ toString delay.wholeMilliseconds ++
    ", function() \x7b "

def throttleClosing : String := "\x7d.bind(this));"

/-- Wraps a script, whose text and throttle id may not be blank, so that it runs at most once per
delay. -/
def throttleScript (script id : String) (delay : Option Delay) : Except ThrottleError String :=
  if isBlank script then .error .blankScript
  else if isBlank id then .error .blankId
  else match delay with
    | none => .error .missingDelay
    | some delay => .ok (throttleOpening id delay ++ script ++ throttleClosing)

theorem throttleScript_of_not_blank {script id : String} (hscript : isBlank script = false)
    (hid : isBlank id = false) (delay : Delay) : throttleScript script id (some delay)
      = .ok (throttleOpening id delay ++ script ++ throttleClosing) := by
  simp [throttleScript, hscript, hid]

/-- The id and delay of a throttle that can be applied to any script that is not blank. -/
structure Throttle where
  id : String
  delay : Delay
  id_not_blank : isBlank id = false

namespace Throttle

def ofId (id : String) (delay : Delay) : Except ThrottleError Throttle :=
  if h : isBlank id = false then .ok ⟨id, delay, h⟩ else .error .blankId

/-- Throttles a script; a blank one is left as it is. -/
def apply (t : Throttle) (script : String) : String :=
  match throttleScript script t.id (some t.delay) with
  | .ok throttled => throttled
  | .error _ => script

theorem apply_of_not_blank (t : Throttle) {script : String} (h : isBlank script = false) :
    t.apply script = throttleOpening t.id t.delay ++ script ++ throttleClosing := by
  rw [apply, throttleScript_of_not_blank h t.id_not_blank]

theorem apply_of_blank (t : Throttle) {script : String} (h : isBlank script = true) :
    t.apply script = script := by
  simp [apply, throttleScript, h]

end Throttle

end AjaxCallback
