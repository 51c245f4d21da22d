import AjaxCallback.Reading

/-!
# Quoted texts

A text stands between single or double quotes, on one line or, with three quotes at each end, on
several. Between single quotes every character stands for itself; between double quotes a backslash
starts an escape. Each reader here starts after the opening quotes.
-/

namespace AjaxCallback.Toml

/-- The characters that may stand in a line: all but the control characters, of which the tab is
allowed. -/
def isLineChar (c : Char) : Bool := c == '\t' || (0x20 ≤ c.toNat && c.toNat != 0x7F)

def hexDigit? (c : Char) : Option Nat :=
  if '0' ≤ c ∧ c ≤ '9' then some (c.toNat - '0'.toNat)
  else if 'a' ≤ c ∧ c ≤ 'f' then some (c.toNat - 'a'.toNat + 10)
  else if 'A' ≤ c ∧ c ≤ 'F' then some (c.toNat - 'A'.toNat + 10)
  else none

def hexNumber? (digits : List Char) : Option Nat :=
  digits.foldlM (fun n c => (hexDigit? c).map (16 * n + ·)) 0

/-- A character given by exactly `width` hexadecimal digits; surrogates are refused. -/
def codePoint (width : Nat) : Reader Char Char := fun input => do
  let digits := input.take width
  if digits.length < width then none
  else
    let n ← hexNumber? digits
    if n.isValidChar then some (Char.ofNat n, input.drop width) else none

/-- What a backslash and the text after it stand for. -/
def escape : Reader Char Char
  | 'b' :: rest => some ('\x08', rest)
  | 't' :: rest => some ('\t', rest)
  | 'n' :: rest => some ('\n', rest)
  | 'f' :: rest => some ('\x0c', rest)
  | 'r' :: rest => some ('\r', rest)
  | 'e' :: rest => some ('\x1b', rest)
  | '"' :: rest => some ('"', rest)
  | '\\' :: rest => some ('\\', rest)
  | 'x' :: rest => codePoint 2 rest
  | 'u' :: rest => codePoint 4 rest
  | 'U' :: rest => codePoint 8 rest
  | _ => none

def basicPiece : Reader Char (List Char)
  | '"' :: _ => none
  | '\\' :: rest => (escape rest).map fun (c, rest) => ([c], rest)
  | c :: rest => if isLineChar c then some ([c], rest) else none
  | [] => none

def literalPiece : Reader Char (List Char)
  | '\'' :: _ => none
  | c :: rest => if isLineChar c then some ([c], rest) else none
  | [] => none

def blockChar : Reader Char (List Char)
  | '\n' :: rest => some (['\n'], rest)
  | '\r' :: '\n' :: rest => some (['\r', '\n'], rest)
  | c :: rest => if isLineChar c then some ([c], rest) else none
  | [] => none

def dropLayout : List Char → List Char
  | ' ' :: rest => dropLayout rest
  | '\t' :: rest => dropLayout rest
  | '\n' :: rest => dropLayout rest
  | '\r' :: '\n' :: rest => dropLayout rest
  | rest => rest

def lineEnds (input : List Char) : Bool :=
  match input.dropWhile fun c => c == ' ' || c == '\t' with
  | '\n' :: _ => true
  | '\r' :: '\n' :: _ => true
  | _ => false

/-- A piece of a text on several lines between double quotes. A backslash at the end of a line joins
it with the next line that is not blank. -/
def basicBlockPiece : Reader Char (List Char)
  | '"' :: '"' :: '"' :: _ => none
  | '\\' :: rest =>
    if lineEnds rest then some ([], dropLayout rest)
    else (escape rest).map fun (c, rest) => ([c], rest)
  | input => blockChar input

/-- A piece of a text on several lines between single quotes. -/
def literalBlockPiece : Reader Char (List Char)
  | '\'' :: '\'' :: '\'' :: _ => none
  | input => blockChar input

def lineText (quote : Char) (piece : Reader Char (List Char)) : Reader Char String := fun input =>
  match Reader.many piece input with
  | (pieces, c :: rest) => if c = quote then some (String.ofList pieces.flatten, rest) else none
  | (_, []) => none

/-- The three closing quotes, and in front of them up to two that belong to the text. -/
def closeBlock (quote : Char) (input : List Char) : Option (List Char × List Char) :=
  let quotes := (input.takeWhile (· == quote)).length
  if quotes < 3 then none
  else
    let inside := min (quotes - 3) 2
    some (List.replicate inside quote, input.drop (inside + 3))

/-- A line end right after the opening quotes is no part of the text. -/
def dropFirstLineEnd : List Char → List Char
  | '\n' :: rest => rest
  | '\r' :: '\n' :: rest => rest
  | rest => rest

def blockText (quote : Char) (piece : Reader Char (List Char)) : Reader Char String := fun input =>
  let (pieces, rest) := Reader.many piece (dropFirstLineEnd input)
  (closeBlock quote rest).map fun (quotes, rest) =>
    (String.ofList (pieces.flatten ++ quotes), rest)

end AjaxCallback.Toml
