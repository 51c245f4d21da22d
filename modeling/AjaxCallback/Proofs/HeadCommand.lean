import AjaxCallback.Proofs.ConfigurationRun
import AjaxCallback.Proofs.FileCommand
import AjaxCallback.Proofs.PageHead
import AjaxCallback.Proofs.RequestScript

/-!
# What the head command answers

The command loads the settings, then the request, and prints the head that the behavior of the
request has on a page of its own: the client's items, which depend on the settings, and the
references of the decorations. Whichever of the two fails first is reported, and nothing is printed.
-/

namespace AjaxCallback

open Text Toml

namespace DecorationSpec

def references : DecorationSpec → List String
  | wrap w => w.references
  | cancelEvent | throttle _ _ => []

end DecorationSpec

def Request.references (request : Request) : List String :=
  request.decorations.flatMap DecorationSpec.references

def searchRequest : Request where
  partialCall := some "find("
  component := { element := { markupId := "q" } }
  decorations := [.wrap { references := ["a.js", "wicket-ajax.js", "a.js"] }]

end AjaxCallback
