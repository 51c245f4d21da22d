import AjaxCallback.File
import AjaxCallback.Toml.Decode
import AjaxCallback.Toml.Document

namespace AjaxCallback.Toml

/-- Why a text does not yield what was expected of it. The whole text is parsed before its data is
looked at. -/
inductive DocumentError where
  | malformed
  | data (fault : Fault)
deriving DecidableEq, Repr

def DocumentError.message : DocumentError → String
  | malformed => "TOML parse error"
  | data fault => fault.message

def readText (decode : Entries → Except Fault α) (text : String) : Except DocumentError α :=
  match parse? text with
  | none => .error .malformed
  | some entries => (decode entries).mapError .data

inductive FileError where
  | unreadable
  | invalid (error : DocumentError)
deriving DecidableEq, Repr

def readFile (decode : Entries → Except Fault α) (file : File) : Except FileError α :=
  match file.text? with
  | none => .error .unreadable
  | some text => (readText decode text).mapError .invalid

end AjaxCallback.Toml
