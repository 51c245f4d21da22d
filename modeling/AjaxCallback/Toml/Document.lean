import AjaxCallback.Toml.Node
import AjaxCallback.Toml.Scalar
import AjaxCallback.Toml.Token

/-!
# Documents

A document is a sequence of lines: headers of tables and entries with their values. Lists and inline
tables may run over several lines.
-/

namespace AjaxCallback.Toml

open Token

def skipBlank : List Token → List Token
  | blank _ :: rest => rest
  | rest => rest

def skipLayout : List Token → List Token
  | blank _ :: rest => skipLayout rest
  | newline :: rest => skipLayout rest
  | rest => rest

/-- How deep values may be nested, and how many keys a path may have. -/
def maxDepth : Nat := 80

def isKeyChar (c : Char) : Bool := c.isAlphanum || c == '-' || c == '_'

def simpleKey : Reader Token String
  | quoted text :: rest => some (text, rest)
  | bare text :: rest => if text.toList.all isKeyChar then some (text, rest) else none
  | _ => none

def dottedKey : Reader Token String := fun input =>
  match skipBlank input with
  | dot :: rest => simpleKey (skipBlank rest)
  | _ => none

def keyPath : Reader Token (List String) := fun input => do
  let (key, rest) ← simpleKey input
  let (keys, rest) := Reader.many dottedKey rest
  if keys.length < maxDepth then some (key :: keys, rest) else none

/-- The text of the tokens in front that belong to one unquoted value. A blank belongs to it if more
of it follows. -/
def scalarText : List Token → String × List Token
  | dot :: rest => let (text, rest) := scalarText rest; ("." ++ text, rest)
  | bare s :: rest => let (text, rest) := scalarText rest; (s ++ text, rest)
  | blank s :: dot :: rest => let (text, rest) := scalarText (dot :: rest); (s ++ text, rest)
  | blank s :: bare t :: rest => let (text, rest) := scalarText (bare t :: rest); (s ++ text, rest)
  | rest => ("", rest)

def scalar : Reader Token Value := fun input =>
  let (text, rest) := scalarText input
  (scalar? text).map fun v => (v, rest)

/-- At most `limit` values up to the closing token, with commas between them and perhaps after the
last. -/
def separated (close : Token) (read : Reader Token α) :
    Nat → List Token → Option (List α × List Token)
  | 0, _ => none
  | limit + 1, input =>
    match skipLayout input with
    | [] => none
    | token :: rest =>
      if token = close then some ([], rest)
      else do
        let (a, rest) ← read (token :: rest)
        match skipLayout rest with
        | [] => none
        | token :: rest =>
          if token = close then return ([a], rest)
          else if token = comma then do
            let (as, rest) ← separated close read limit rest
            return (a :: as, rest)
          else none

/-- Values up to the closing token, of which there cannot be more than there are tokens. -/
def enclosed (close : Token) (read : Reader Token α) (input : List Token) :
    Option (List α × List Token) :=
  separated close read (input.length + 1) input

def inlineEntry (value : Reader Token Value) : Reader Token (List String × Value) := fun input => do
  let (path, rest) ← keyPath input
  match skipLayout rest with
  | equals :: rest => do
    let (v, rest) ← value (skipLayout rest)
    return ((path, v), rest)
  | _ => none

def inlineTable (entries : List (List String × Value)) : Option Value :=
  (entries.foldlM (fun (nodes : Nodes) (path, v) => Nodes.insert path v true nodes) []).map
    fun nodes => .table (Nodes.entries nodes)

/-- A value in which lists and inline tables are nested at most `depth` deep. -/
def value : Nat → Reader Token Value
  | _, quoted text :: rest => some (.string text, rest)
  | _, block text :: rest => some (.string text, rest)
  | depth + 1, openBracket :: rest =>
    (enclosed closeBracket (value depth) rest).map fun (items, rest) => (.array items, rest)
  | depth + 1, openBrace :: rest => do
    let (entries, rest) ← enclosed closeBrace (inlineEntry (value depth)) rest
    return (← inlineTable entries, rest)
  | _, input => scalar input

inductive Line where
  | table (path : List String) (key : String)
  | element (path : List String) (key : String)
  | entry (path : List String) (value : Value)

def lineEnd (input : List Token) : Option (List Token) :=
  match skipBlank input with
  | [] => some []
  | newline :: rest => some rest
  | _ => none

def splitPath (keys : List String) : Option (List String × String) :=
  keys.getLast?.map fun key => (keys.dropLast, key)

def line : Reader Token (Option Line) := fun input =>
  match skipBlank input with
  | [] => none
  | newline :: rest => some (none, rest)
  | openBracket :: openBracket :: rest => do
    let (keys, rest) ← keyPath (skipBlank rest)
    let (path, key) ← splitPath keys
    match skipBlank rest with
    | closeBracket :: closeBracket :: rest => return (some (.element path key), ← lineEnd rest)
    | _ => none
  | openBracket :: rest => do
    let (keys, rest) ← keyPath (skipBlank rest)
    let (path, key) ← splitPath keys
    match skipBlank rest with
    | closeBracket :: rest => return (some (.table path key), ← lineEnd rest)
    | _ => none
  | rest => do
    let (path, rest) ← keyPath rest
    match skipBlank rest with
    | equals :: rest => do
      let (v, rest) ← value maxDepth (skipBlank rest)
      return (some (.entry path v), ← lineEnd rest)
    | _ => none

/-- The tables so far and the path of the one to which entries are added. -/
structure Draft where
  nodes : Nodes := []
  current : List String := []

def Draft.add (draft : Draft) : Line → Option Draft
  | .table path key =>
    (draft.nodes.within path (Nodes.openTable key)).map fun nodes => ⟨nodes, path ++ [key]⟩
  | .element path key =>
    (draft.nodes.within path (Nodes.openElement key)).map fun nodes => ⟨nodes, path ++ [key]⟩
  | .entry path v =>
    (draft.nodes.within draft.current (Nodes.insert path v true)).map fun nodes =>
      { draft with nodes }

/-- The lines of a text that is a sequence of lines and nothing else. -/
def lines? (text : String) : Option (List Line) := do
  let tokens ← Token.ofText text
  let (lines, rest) := Reader.many line tokens
  if (skipBlank rest).isEmpty then some (lines.filterMap id) else none

/-- The root table of a document, or none if the text is not well-formed. -/
def parse? (text : String) : Option Entries := do
  let draft ← (← lines? text).foldlM Draft.add {}
  return Nodes.entries draft.nodes

end AjaxCallback.Toml
