import AjaxCallback.Proofs.Escaping
import AjaxCallback.Reading

/-!
# Texts between double quotes in a script

In a string literal a backslash escapes the character behind it, so a quote closes the literal
unless it is escaped, and a line end breaks it off. Escaping for markup leaves no quote but keeps
backslashes and line ends: an escaped text can stand between quotes when the text has no line end
and ends with an even number of backslashes.
-/

namespace AjaxCallback.Text

/-- Whether the character behind this one is escaped. -/
def escapesNext (escaped : Bool) (c : Char) : Bool := !escaped && c == '\\'

/-- Reads a literal from behind its opening quote to behind its closing one. -/
def readLiteral (escaped : Bool) : Reader Char (List Char)
  | [] => none
  | c :: rest =>
    if c = '"' ∧ escaped = false then some ([], rest)
    else if c = '\n' ∨ c = '\r' then none
    else (readLiteral (escapesNext escaped c) rest).map fun (body, last) => (c :: body, last)

/-- What can stand between the quotes of a literal; `escaped` says how it is read at its start. -/
structure LiteralBody (escaped : Bool) (body : List Char) : Prop where
  quotes_escaped : ∀ before after, body = before ++ '"' :: after →
    before.foldl escapesNext escaped = true
  no_lineFeed : '\n' ∉ body
  no_carriageReturn : '\r' ∉ body
  ends_unescaped : body.foldl escapesNext escaped = false

theorem literalBody_nil {escaped : Bool} : LiteralBody escaped [] ↔ escaped = false :=
  ⟨fun h => h.ends_unescaped, fun h => ⟨by simp, List.not_mem_nil, List.not_mem_nil, h⟩⟩

theorem literalBody_cons {escaped : Bool} {c : Char} {body : List Char} :
    LiteralBody escaped (c :: body) ↔
      ¬(c = '"' ∧ escaped = false) ∧ ¬(c = '\n' ∨ c = '\r') ∧
        LiteralBody (escapesNext escaped c) body := by
  constructor
  · intro h
    refine ⟨?_, ?_, ?_, ?_, ?_, h.ends_unescaped⟩
    · rintro ⟨rfl, rfl⟩
      exact absurd (h.quotes_escaped [] body rfl) Bool.false_ne_true
    · rintro (rfl | rfl)
      · exact h.no_lineFeed List.mem_cons_self
      · exact h.no_carriageReturn List.mem_cons_self
    · rintro before after rfl
      exact h.quotes_escaped (c :: before) after rfl
    · exact fun hmem => h.no_lineFeed (List.mem_cons_of_mem _ hmem)
    · exact fun hmem => h.no_carriageReturn (List.mem_cons_of_mem _ hmem)
  · rintro ⟨hquote, hline, h⟩
    rw [not_or] at hline
    refine ⟨?_, ?_, ?_, h.ends_unescaped⟩
    · intro before after hsplit
      rcases List.cons_eq_append_iff.mp hsplit with ⟨rfl, hafter⟩ | ⟨before, rfl, hbody⟩
      · cases escaped with
        | true => rfl
        | false => exact absurd ⟨(List.cons.inj hafter).1.symm, rfl⟩ hquote
      · exact h.quotes_escaped before after hbody
    · exact List.not_mem_cons_of_ne_of_not_mem (Ne.symm hline.1) h.no_lineFeed
    · exact List.not_mem_cons_of_ne_of_not_mem (Ne.symm hline.2) h.no_carriageReturn

/-- A text can stand between quotes exactly if the literal ends with the closing one. -/
theorem readLiteral_eq_some_iff {escaped : Bool} {body rest : List Char} :
    readLiteral escaped (body ++ '"' :: rest) = some (body, rest) ↔ LiteralBody escaped body := by
  induction body generalizing escaped with
  | nil =>
      rw [literalBody_nil]
      cases escaped with
      | false => exact ⟨fun _ => rfl, fun _ => rfl⟩
      -- Behind an escape the quote does not close: it is read as a part of the literal.
      | true => simp [readLiteral]
  | cons c body ih =>
      rw [literalBody_cons, ← ih, List.cons_append, readLiteral]
      by_cases hquote : c = '"' ∧ escaped = false
      · simp [hquote]
      · by_cases hline : c = '\n' ∨ c = '\r'
        · simp [hquote, hline]
        · rw [if_neg hquote, if_neg hline, Option.map_eq_some_iff]
          constructor
          · rintro ⟨⟨body', last⟩, hread, hpair⟩
            obtain ⟨hbody, rfl⟩ := Prod.mk.inj hpair
            obtain rfl := (List.cons.inj hbody).2
            exact ⟨hquote, hline, hread⟩
          · rintro ⟨-, -, hread⟩
            exact ⟨_, hread, rfl⟩

/-! ### Escaped texts as literals -/

def trailingBackslashes (cs : List Char) : Nat := (cs.reverse.takeWhile (· == '\\')).length

/-- Of a run of backslashes every other one is escaped. -/
theorem foldl_escapesNext (cs : List Char) :
    cs.foldl escapesNext false = (trailingBackslashes cs % 2 == 1) := by
  -- The last run alone counts, so the text is taken from its end.
  obtain ⟨last, rfl⟩ : ∃ last : List Char, cs = last.reverse := ⟨cs.reverse, by simp⟩
  rw [trailingBackslashes, List.reverse_reverse, List.foldl_reverse]
  induction last with
  | nil => rfl
  | cons c last ih =>
      rw [List.foldr_cons, ih, List.takeWhile_cons, escapesNext]
      by_cases hc : c = '\\'
      · rw [Bool.eq_iff_iff]
        simp [hc]
        omega
      · simp [hc]

theorem foldl_escapesNext_substitute (escaped : Bool) (c : Char) :
    (substitute entities c).toList.foldl escapesNext escaped = escapesNext escaped c := by
  have hentities : ∀ r ∈ entities, ∀ escaped,
      r.text.toList.foldl escapesNext escaped = escapesNext escaped r.char := by decide
  rcases toList_substitute_eq_or entities c with ⟨r, hr, hc, htext⟩ | ⟨-, htext⟩
  · rw [htext, hc, hentities r hr]
  · rw [htext]
    rfl

theorem foldl_escapesNext_escapeMarkup (s : String) :
    (escapeMarkup s).toList.foldl escapesNext false = s.toList.foldl escapesNext false := by
  rw [toList_escapeMarkup, List.foldl_flatMap]
  simp only [foldl_escapesNext_substitute]

theorem literalBody_escapeMarkup_iff {s : String} :
    LiteralBody false (escapeMarkup s).toList ↔
      '\n' ∉ s.toList ∧ '\r' ∉ s.toList ∧ trailingBackslashes s.toList % 2 = 0 := by
  have hlineFeed : '\n' ∈ (escapeMarkup s).toList ↔ '\n' ∈ s.toList :=
    mem_escapeMarkup_iff (by decide)
  have hcarriageReturn : '\r' ∈ (escapeMarkup s).toList ↔ '\r' ∈ s.toList :=
    mem_escapeMarkup_iff (by decide)
  have hends : (escapeMarkup s).toList.foldl escapesNext false = false ↔
      trailingBackslashes s.toList % 2 = 0 := by
    rw [foldl_escapesNext_escapeMarkup, foldl_escapesNext, beq_eq_false_iff_ne]
    omega
  rw [← hlineFeed, ← hcarriageReturn, ← hends]
  constructor
  · exact fun h => ⟨h.no_lineFeed, h.no_carriageReturn, h.ends_unescaped⟩
  · rintro ⟨hn, hr, he⟩
    refine ⟨fun before after hsplit => ?_, hn, hr, he⟩
    have hquote : '"' ∉ (escapeMarkup s).toList := not_mem_escapeMarkup (by decide) s
    exact absurd (hsplit ▸ List.mem_append_right _ List.mem_cons_self) hquote

end AjaxCallback.Text
