namespace AjaxCallback

inductive File where
  | missing
  | directory
  /-- A file that is there but cannot be read. -/
  | unreadable
  | regular (content : ByteArray)

namespace File

def ofText (text : String) : File := regular text.toUTF8

def isRegular : File → Bool
  | regular _ | unreadable => true
  | missing | directory => false

/-- The text of a file; none if it cannot be read or is not UTF-8. -/
def text? : File → Option String
  | regular content => String.fromUTF8? content
  | missing | directory | unreadable => none

end File

/-- A file under the path by which the user knows it. -/
structure NamedFile where
  path : String
  file : File

end AjaxCallback
