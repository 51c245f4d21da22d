namespace AjaxCallback.Text

def replaceChar (c : Char) (text : String) (s : String) : String :=
  String.ofList (s.toList.flatMap fun d => if d = c then text.toList else [d])

/-- Makes a text safe inside markup attributes and scripts. The ampersand goes first, so that the
entities written for the other characters are left alone. -/
def escapeMarkup (s : String) : String :=
  let s := replaceChar '&' "&amp;" s
  let s := replaceChar '<' "&lt;" s
  let s := replaceChar '>' "&gt;" s
  let s := replaceChar '"' "&quot;" s
  replaceChar '\'' "&#039;" s

theorem toList_replaceChar (c : Char) (t s : String) :
    (replaceChar c t s).toList = s.toList.flatMap fun d => if d = c then t.toList else [d] := by
  simp [replaceChar]

end AjaxCallback.Text
