import AjaxCallback.Reading

/-!
# The grammar of the command line

Options may stand before or after the name of the command and, with it, before or after its
operands. After `--` everything is an operand.
-/

namespace AjaxCallback

inductive Command where
  | compose (request : String)
  | head (request : String)
  | throttle (id : String) (milliseconds : Option Nat) (script : String)
deriving DecidableEq, Repr

structure Invocation where
  command : Command
  config : Option String := none
  verbosity : Nat := 0
deriving DecidableEq, Repr

/-- Why no command is run. -/
inductive Halt where
  | version
  | help
  | misuse
deriving DecidableEq, Repr

inductive Argument where
  | option (name value : String)
  | flag (name : String)
  | shortFlags (names : List Char)
  | operands (words : List String)
  /-- An option that lacks its value, or a flag that was given one. -/
  | faulty
deriving DecidableEq, Repr

namespace Argument

/-- Whether a word can be an operand or the value of an option: it is no option itself. A single
dash is a word like any other. -/
def isOperand (word : String) : Bool :=
  match word.toList with
  | '-' :: _ :: _ => false
  | _ => true

def splitLong (text : List Char) : String × Option String :=
  match text.dropWhile (· != '=') with
  | [] => (String.ofList text, none)
  | _ :: value => (String.ofList (text.takeWhile (· != '=')), some (String.ofList value))

/-- The next option, of which those in `valued` take a value. -/
def nextOption (valued : List String) : Reader String Argument
  | [] => none
  | "--" :: _ => none
  | word :: rest =>
    match word.toList with
    | '-' :: '-' :: text =>
      match splitLong text with
      | (name, some value) =>
        some (if valued.contains name then option name value else faulty, rest)
      | (name, none) =>
        if valued.contains name then
          match rest with
          | value :: rest =>
            some (if isOperand value then option name value else faulty, rest)
          | [] => some (faulty, [])
        else some (flag name, rest)
    | '-' :: c :: cs => some (shortFlags (c :: cs), rest)
    | _ => none

def next (valued : List String) : Reader String Argument := fun words =>
  match words with
  | [] => none
  | "--" :: rest => some (operands rest, [])
  | word :: rest => (nextOption valued words).or (some (operands [word], rest))

end Argument

def maxMilliseconds : Nat := 18446744073709551615

/-- A whole number of at most 64 bits, perhaps with a plus sign. -/
def parseMilliseconds (text : String) : Option Nat :=
  let digits := match text.toList with
    | '+' :: rest => rest
    | cs => cs
  if digits.isEmpty || !digits.all Char.isDigit then none
  else
    let n := digits.foldl (fun n c => 10 * n + (c.toNat - '0'.toNat)) 0
    if n ≤ maxMilliseconds then some n else none

/-- What has been given so far to the program or to one of its commands. -/
structure Given where
  config : Option String := none
  verbosity : Nat := 0
  id : Option String := none
  delay : Option Nat := none
  operands : List String := []

/-- What may be given: the options that take a value, the operands, and whether they name files. -/
structure Form where
  valued : List String
  operandCount : Nat
  operandsAreFiles : Bool := false
  hasVersion : Bool := false

namespace Form

def program : Form := { valued := ["config"], operandCount := 0, hasVersion := true }

def file : Form := { valued := ["config"], operandCount := 1, operandsAreFiles := true }

def throttle : Form := { valued := ["config", "id", "delay-ms"], operandCount := 1 }

def addFlag (form : Form) (given : Given) : String → Except Halt Given
  | "verbose" => .ok { given with verbosity := given.verbosity + 1 }
  | "help" => .error .help
  | "version" => .error (if form.hasVersion then .version else .misuse)
  | _ => .error .misuse

def shortName : Char → String
  | 'v' => "verbose"
  | 'h' => "help"
  | 'V' => "version"
  | _ => ""

/-- Each option may be given once, and a file has a name. -/
def addOption (given : Given) (name value : String) : Except Halt Given :=
  match name with
  | "config" =>
    if given.config.isSome || value.isEmpty then .error .misuse
    else .ok { given with config := some value }
  | "id" =>
    if given.id.isSome then .error .misuse else .ok { given with id := some value }
  | "delay-ms" =>
    match given.delay, parseMilliseconds value with
    | none, some n => .ok { given with delay := some n }
    | _, _ => .error .misuse
  | _ => .error .misuse

def addOperand (form : Form) (given : Given) (word : String) : Except Halt Given :=
  if form.operandCount ≤ given.operands.length || (form.operandsAreFiles && word.isEmpty) then
    .error .misuse
  else .ok { given with operands := given.operands ++ [word] }

def add (form : Form) (given : Given) : Argument → Except Halt Given
  | .option name value => addOption given name value
  | .flag name => form.addFlag given name
  | .shortFlags names => names.foldlM (fun given c => form.addFlag given (shortName c)) given
  | .operands words => words.foldlM form.addOperand given
  | .faulty => .error .misuse

def readAll (form : Form) (words : List String) : Except Halt Given :=
  (Reader.many (Argument.next form.valued) words).1.foldlM form.add {}

end Form

def helpTopic : List String → Halt
  | [] => .help
  | [name] =>
    if ["compose", "head", "throttle", "help"].contains name then .help else .misuse
  | _ => .misuse

def Command.parse (name : String) (words : List String) : Except Halt (Command × Given) := do
  match name with
  | "compose" =>
    let given ← Form.file.readAll words
    match given.operands with
    | [request] => return (.compose request, given)
    | _ => throw .misuse
  | "head" =>
    let given ← Form.file.readAll words
    match given.operands with
    | [request] => return (.head request, given)
    | _ => throw .misuse
  | "throttle" =>
    let given ← Form.throttle.readAll words
    match given.operands, given.id with
    | [script], some id => return (.throttle id given.delay script, given)
    | _, _ => throw .misuse
  | "help" => throw (helpTopic words)
  | _ => throw .misuse

/-- The command that a command line asks for. What is given after its name wins over what is given
before. -/
def Invocation.parse (words : List String) : Except Halt Invocation := do
  let (options, rest) := Reader.many (Argument.nextOption Form.program.valued) words
  let outer ← options.foldlM Form.program.add {}
  match rest with
  | [] => throw .misuse
  | name :: words =>
    let (command, inner) ← Command.parse name words
    return {
      command
      config := inner.config.or outer.config
      verbosity := if inner.verbosity = 0 then outer.verbosity else inner.verbosity }

end AjaxCallback
