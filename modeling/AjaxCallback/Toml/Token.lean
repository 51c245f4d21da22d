import AjaxCallback.Toml.Text

namespace AjaxCallback.Toml

inductive Token where
  | dot
  | equals
  | comma
  | openBracket
  | closeBracket
  | openBrace
  | closeBrace
  | newline
  | blank (text : String)
  /-- A text in quotes on one line, which may also be a key. -/
  | quoted (text : String)
  | block (text : String)
  /-- Anything else, up to the next character with a meaning of its own. -/
  | bare (text : String)
deriving DecidableEq, Repr

namespace Token

def isDelimiter (c : Char) : Bool :=
  ['.', '=', ',', '[', ']', '\x7b', '\x7d', ' ', '\t', '#', '\r', '\n'].contains c

def comment (input : List Char) : Option (List Char) :=
  match input.dropWhile isLineChar with
  | [] => some []
  | '\n' :: rest => some ('\n' :: rest)
  | '\r' :: '\n' :: rest => some ('\n' :: rest)
  | _ => none

def next : Reader Char (Option Token)
  | '.' :: rest => some (some dot, rest)
  | '=' :: rest => some (some equals, rest)
  | ',' :: rest => some (some comma, rest)
  | '[' :: rest => some (some openBracket, rest)
  | ']' :: rest => some (some closeBracket, rest)
  | '\x7b' :: rest => some (some openBrace, rest)
  | '\x7d' :: rest => some (some closeBrace, rest)
  | '\n' :: rest => some (some newline, rest)
  | '\r' :: '\n' :: rest => some (some newline, rest)
  | '#' :: rest => (comment rest).map fun rest => (none, rest)
  | '"' :: '"' :: '"' :: rest =>
    (blockText '"' basicBlockPiece rest).map fun (s, rest) => (some (block s), rest)
  | '\'' :: '\'' :: '\'' :: rest =>
    (blockText '\'' literalBlockPiece rest).map fun (s, rest) => (some (block s), rest)
  | '"' :: rest => (lineText '"' basicPiece rest).map fun (s, rest) => (some (quoted s), rest)
  | '\'' :: rest => (lineText '\'' literalPiece rest).map fun (s, rest) => (some (quoted s), rest)
  | input =>
    let isBlank (c : Char) : Bool := c == ' ' || c == '\t'
    match input.takeWhile isBlank with
    | c :: cs => some (some (blank (String.ofList (c :: cs))), input.dropWhile isBlank)
    | [] =>
      match input.takeWhile fun c => !isDelimiter c with
      | c :: cs =>
        some (some (bare (String.ofList (c :: cs))), input.dropWhile fun c => !isDelimiter c)
      | [] => none

/-- The tokens of a text, of which a leading byte order mark is no part. -/
def ofText (text : String) : Option (List Token) :=
  let input := match text.toList with
    | '\uFEFF' :: rest => rest
    | input => input
  match Reader.many next input with
  | (tokens, []) => some (tokens.filterMap id)
  | (_, _ :: _) => none

end Token

end AjaxCallback.Toml
