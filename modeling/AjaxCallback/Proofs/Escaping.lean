import AjaxCallback.Text.Markup

/-!
# Escaping

A text is escaped by replacements that run over all of it, each over what the earlier ones wrote.
Their order matters: no character that is still to be replaced occurs in what an earlier one wrote,
so together they come to a single pass that takes each character for itself. Read from left to
right, the entities give the text back.
-/

namespace AjaxCallback.Text

/-! ### Replacements in order -/

/-- A character and the text that takes its place. -/
structure Replacement where
  char : Char
  text : String
deriving DecidableEq

def replaceAll (rules : List Replacement) (s : String) : String :=
  rules.foldl (fun s r => replaceChar r.char r.text s) s

/-- What a single pass writes for a character. -/
def substitute : List Replacement → Char → String
  | [], c => c.toString
  | r :: rest, c => if c = r.char then r.text else substitute rest c

def Independent (rules : List Replacement) : Prop :=
  rules.Pairwise fun earlier later => later.char ∉ earlier.text.toList

variable {rules : List Replacement}

theorem toList_substitute_of_forall_ne {c : Char} (h : ∀ r ∈ rules, c ≠ r.char) :
    (substitute rules c).toList = [c] := by
  induction rules with
  | nil => exact String.toList_singleton c
  | cons r rest ih =>
      rw [List.forall_mem_cons] at h
      rw [substitute, if_neg h.1, ih h.2]

theorem toList_substitute_eq_or (rules : List Replacement) (c : Char) :
    (∃ r ∈ rules, c = r.char ∧ (substitute rules c).toList = r.text.toList) ∨
      (∀ r ∈ rules, c ≠ r.char) ∧ (substitute rules c).toList = [c] := by
  induction rules with
  | nil => exact Or.inr ⟨nofun, String.toList_singleton c⟩
  | cons r rest ih =>
      by_cases hr : c = r.char
      · exact Or.inl ⟨r, List.mem_cons_self, hr, by rw [substitute, if_pos hr]⟩
      · rw [substitute, if_neg hr]
        rcases ih with ⟨r', hr', hc, htext⟩ | ⟨hne, htext⟩
        · exact Or.inl ⟨r', List.mem_cons_of_mem _ hr', hc, htext⟩
        · exact Or.inr ⟨List.forall_mem_cons.mpr ⟨hr, hne⟩, htext⟩

theorem flatMap_substitute_of_not_mem {text : List Char} (h : ∀ r ∈ rules, r.char ∉ text) :
    (text.flatMap fun c => (substitute rules c).toList) = text := by
  induction text with
  | nil => rfl
  | cons c text ih =>
      have hc : (substitute rules c).toList = [c] :=
        toList_substitute_of_forall_ne fun r hr hrc => h r hr (hrc ▸ List.mem_cons_self)
      have htext : ∀ r ∈ rules, r.char ∉ text :=
        fun r hr hmem => h r hr (List.mem_cons_of_mem _ hmem)
      rw [List.flatMap_cons, hc, ih htext]
      rfl

/-- The first replacement can be put in front of the pass of the others, which leave alone what it
wrote. -/
theorem toList_replaceAll (h : Independent rules) (s : String) :
    (replaceAll rules s).toList = s.toList.flatMap fun c => (substitute rules c).toList := by
  induction rules generalizing s with
  | nil => simp [replaceAll, substitute]
  | cons r rest ih =>
      obtain ⟨hfirst, hrest⟩ := List.pairwise_cons.mp h
      have hchar (c : Char) :
          ((if c = r.char then r.text.toList else [c]).flatMap fun d =>
              (substitute rest d).toList)
            = (substitute (r :: rest) c).toList := by
        by_cases hc : c = r.char
        · rw [substitute, if_pos hc, if_pos hc, flatMap_substitute_of_not_mem hfirst]
        · rw [substitute, if_neg hc, if_neg hc, List.flatMap_singleton]
      calc (replaceAll (r :: rest) s).toList
          = (replaceAll rest (replaceChar r.char r.text s)).toList := rfl
        _ = (replaceChar r.char r.text s).toList.flatMap fun d => (substitute rest d).toList :=
            ih hrest _
        _ = s.toList.flatMap fun c =>
              (if c = r.char then r.text.toList else [c]).flatMap fun d =>
                (substitute rest d).toList := by
            rw [toList_replaceChar, List.flatMap_assoc]
        _ = _ := by simp only [hchar]

/-! ### What a replacement meets -/

/-- A character of a text under replacement, and whether a replacement wrote it. -/
structure Traced where
  char : Char
  written : Bool

def Traced.replace (r : Replacement) (x : Traced) : List Traced :=
  if x.char = r.char then r.text.toList.map (⟨·, true⟩) else [x]

/-- The replacements on a text that remembers what they wrote. -/
def Traced.replaceAll (rules : List Replacement) (xs : List Traced) : List Traced :=
  rules.foldl (fun xs r => xs.flatMap (Traced.replace r)) xs

/-- A text after the replacements. Its own characters come in as not written by one. -/
def traced (rules : List Replacement) (s : String) : List Traced :=
  Traced.replaceAll rules (s.toList.map (⟨·, false⟩))

theorem map_char_replaceAll (rules : List Replacement) {xs : List Traced} {s : String}
    (h : xs.map Traced.char = s.toList) :
    (Traced.replaceAll rules xs).map Traced.char = (replaceAll rules s).toList := by
  induction rules generalizing xs s with
  | nil => exact h
  | cons r rest ih =>
      have hreplace (x : Traced) : (x.replace r).map Traced.char
          = if x.char = r.char then r.text.toList else [x.char] := by
        by_cases hx : x.char = r.char <;> simp [Traced.replace, hx, Function.comp_def]
      apply ih
      rw [toList_replaceChar, ← h, List.map_flatMap, List.flatMap_map]
      simp only [hreplace]

theorem map_char_traced (rules : List Replacement) (s : String) :
    (traced rules s).map Traced.char = (replaceAll rules s).toList :=
  map_char_replaceAll rules (by simp [Function.comp_def])

/-- What is there after the replacements was written by one of them or stood there before. -/
theorem mem_replaceAll {rules : List Replacement} {xs : List Traced} {x : Traced}
    (hx : x ∈ Traced.replaceAll rules xs) :
    (∃ r ∈ rules, x.char ∈ r.text.toList) ∨ x ∈ xs := by
  induction rules generalizing xs with
  | nil => exact Or.inr hx
  | cons r rest ih =>
      rcases ih hx with ⟨r', hr', hchar⟩ | hmem
      · exact Or.inl ⟨r', List.mem_cons_of_mem _ hr', hchar⟩
      · obtain ⟨y, hy, hxy⟩ := List.mem_flatMap.mp hmem
        rw [Traced.replace] at hxy
        split at hxy
        · obtain ⟨c, hc, rfl⟩ := List.mem_map.mp hxy
          exact Or.inl ⟨r, List.mem_cons_self, hc⟩
        · rw [List.mem_singleton] at hxy
          exact Or.inr (hxy ▸ hy)

theorem written_eq_false_of_independent {before after : List Replacement} {r : Replacement}
    (h : Independent (before ++ r :: after)) {s : String} {x : Traced} (hx : x ∈ traced before s)
    (hchar : x.char = r.char) : x.written = false := by
  rcases mem_replaceAll hx with ⟨earlier, hearlier, hmem⟩ | hgiven
  · exact absurd (hchar ▸ hmem)
      ((List.pairwise_append.mp h).2.2 earlier hearlier r List.mem_cons_self)
  · obtain ⟨c, -, rfl⟩ := List.mem_map.mp hgiven
    rfl

/-! ### Escaping in one pass -/

/-- The replacements of an escaped text, in their order. -/
def entities : List Replacement :=
  [⟨'&', "&amp;"⟩, ⟨'<', "&lt;"⟩, ⟨'>', "&gt;"⟩, ⟨'"', "&quot;"⟩, ⟨'\'', "&#039;"⟩]

theorem escapeMarkup_eq_replaceAll (s : String) : escapeMarkup s = replaceAll entities s := rfl

theorem independent_entities : Independent entities := by
  unfold Independent
  decide

theorem toList_escapeMarkup (s : String) :
    (escapeMarkup s).toList = s.toList.flatMap fun c => (substitute entities c).toList := by
  rw [escapeMarkup_eq_replaceAll, toList_replaceAll independent_entities]

theorem escapeMarkup_append (a b : String) :
    escapeMarkup (a ++ b) = escapeMarkup a ++ escapeMarkup b := by
  apply String.toList_inj.mp
  simp only [toList_escapeMarkup, String.toList_append, List.flatMap_append]

/-- **Escaping is a single pass.** An escaped text is put together from what the characters of the
text come to, each on its own. When one of the replacements has its turn, no character that it
replaces was written by an earlier one. -/
theorem escapeMarkup_simultaneous :
    (∀ s, escapeMarkup s = String.join (s.toList.map (substitute entities))) ∧
    (∀ a b, escapeMarkup (a ++ b) = escapeMarkup a ++ escapeMarkup b) ∧
    ∀ s, escapeMarkup s = replaceAll entities s ∧
      ∀ before r after, entities = before ++ r :: after →
        (traced before s).map Traced.char = (replaceAll before s).toList ∧
          ∀ x ∈ traced before s, x.char = r.char → x.written = false := by
  refine ⟨fun s => ?_, escapeMarkup_append, fun s => ⟨escapeMarkup_eq_replaceAll s, ?_⟩⟩
  · apply String.toList_inj.mp
    rw [toList_escapeMarkup, String.toList_join, List.flatMap_map]
  · intro before r after hsplit
    have hindependent : Independent (before ++ r :: after) := hsplit ▸ independent_entities
    exact ⟨map_char_traced before s, fun x hx => written_eq_false_of_independent hindependent hx⟩

theorem escapeMarkup_simultaneous_entity :
    let rest : List Replacement := [⟨'>', "&gt;"⟩, ⟨'"', "&quot;"⟩, ⟨'\'', "&#039;"⟩]
    entities = [⟨'&', "&amp;"⟩] ++ ⟨'<', "&lt;"⟩ :: rest ∧
      escapeMarkup "&lt;<" = String.join ["&amp;", "l", "t", ";", "&lt;"] ∧
      escapeMarkup ("&lt" ++ ";<") = escapeMarkup "&lt" ++ escapeMarkup ";<" ∧
      ∀ x ∈ traced [⟨'&', "&amp;"⟩] "&lt;<", x.char = '<' → x.written = false := by
  intro rest
  obtain ⟨hjoin, happend, hpasses⟩ := escapeMarkup_simultaneous
  have hsecond := (hpasses "&lt;<").2 [⟨'&', "&amp;"⟩] ⟨'<', "&lt;"⟩ rest rfl
  exact ⟨rfl, hjoin "&lt;<", happend "&lt" ";<", hsecond.2⟩

/-! ### Reading the entities back -/

/-- One pass from left to right. An ampersand that starts no entity stays. -/
def unescapeChars : List Char → List Char
  | '&' :: 'a' :: 'm' :: 'p' :: ';' :: rest => '&' :: unescapeChars rest
  | '&' :: 'l' :: 't' :: ';' :: rest => '<' :: unescapeChars rest
  | '&' :: 'g' :: 't' :: ';' :: rest => '>' :: unescapeChars rest
  | '&' :: 'q' :: 'u' :: 'o' :: 't' :: ';' :: rest => '"' :: unescapeChars rest
  | '&' :: '#' :: '0' :: '3' :: '9' :: ';' :: rest => '\'' :: unescapeChars rest
  | c :: rest => c :: unescapeChars rest
  | [] => []

def unescape (s : String) : String := String.ofList (unescapeChars s.toList)

theorem unescapeChars_cons_of_ne {c : Char} (h : c ≠ '&') (rest : List Char) :
    unescapeChars (c :: rest) = c :: unescapeChars rest := by
  simp [unescapeChars, h]

theorem unescapeChars_entity {r : Replacement} (hr : r ∈ entities) (rest : List Char) :
    unescapeChars (r.text.toList ++ rest) = r.char :: unescapeChars rest := by
  simp only [entities, List.mem_cons, List.not_mem_nil, or_false] at hr
  rcases hr with rfl | rfl | rfl | rfl | rfl <;> rfl

theorem unescapeChars_substitute (c : Char) (rest : List Char) :
    unescapeChars ((substitute entities c).toList ++ rest) = c :: unescapeChars rest := by
  rcases toList_substitute_eq_or entities c with ⟨r, hr, hc, htext⟩ | ⟨hne, htext⟩
  · rw [htext, hc]
    exact unescapeChars_entity hr rest
  · rw [htext]
    exact unescapeChars_cons_of_ne (hne _ List.mem_cons_self) rest

theorem unescape_escapeMarkup (s : String) : unescape (escapeMarkup s) = s := by
  have hchars (cs : List Char) :
      unescapeChars (cs.flatMap fun c => (substitute entities c).toList) = cs := by
    induction cs with
    | nil => rfl
    | cons c cs ih => rw [List.flatMap_cons, unescapeChars_substitute, ih]
  rw [unescape, toList_escapeMarkup, hchars, String.ofList_toList]

/-! ### What an escaped text holds -/

theorem mem_escapeMarkup {c : Char} {s : String} (h : c ∈ (escapeMarkup s).toList) :
    (∃ r ∈ entities, c ∈ r.text.toList) ∨ c ∈ s.toList ∧ ∀ r ∈ entities, c ≠ r.char := by
  rw [toList_escapeMarkup] at h
  obtain ⟨d, hd, hcd⟩ := List.mem_flatMap.mp h
  rcases toList_substitute_eq_or entities d with ⟨r, hr, -, htext⟩ | ⟨hne, htext⟩
  · exact Or.inl ⟨r, hr, htext ▸ hcd⟩
  · rw [htext, List.mem_singleton] at hcd
    exact Or.inr (hcd ▸ ⟨hd, hne⟩)

theorem not_mem_escapeMarkup {c : Char} (hc : c ∈ ['<', '>', '"', '\'']) (s : String) :
    c ∉ (escapeMarkup s).toList := by
  have hreplaced : (∀ r ∈ entities, c ∉ r.text.toList) ∧ ∃ r ∈ entities, c = r.char := by
    simp only [List.mem_cons, List.not_mem_nil, or_false] at hc
    rcases hc with rfl | rfl | rfl | rfl <;> decide
  intro hmem
  rcases mem_escapeMarkup hmem with ⟨r, hr, htext⟩ | ⟨-, hne⟩
  · exact hreplaced.1 r hr htext
  · obtain ⟨r, hr, hcr⟩ := hreplaced.2
    exact hne r hr hcr

/-- A character that no replacement takes away or writes. -/
theorem mem_escapeMarkup_iff {c : Char} (h : ∀ r ∈ entities, c ≠ r.char ∧ c ∉ r.text.toList)
    {s : String} : c ∈ (escapeMarkup s).toList ↔ c ∈ s.toList := by
  constructor
  · intro hmem
    rcases mem_escapeMarkup hmem with ⟨r, hr, htext⟩ | ⟨hc, -⟩
    · exact absurd htext (h r hr).2
    · exact hc
  · intro hc
    have hself := toList_substitute_of_forall_ne fun r hr => (h r hr).1
    rw [toList_escapeMarkup, List.mem_flatMap]
    exact ⟨c, hc, hself ▸ List.mem_singleton_self c⟩

/-- A suffix that starts with an ampersand starts behind a part without one. -/
theorem suffix_of_suffix_append {rest body cs : List Char} (hbody : '&' ∉ body)
    (h : '&' :: rest <:+ body ++ cs) : '&' :: rest <:+ cs := by
  induction body with
  | nil => exact h
  | cons b body ih =>
      rw [List.mem_cons, not_or] at hbody
      rcases List.suffix_cons_iff.mp h with heq | hsuffix
      · exact absurd (List.cons.inj heq).1 hbody.1
      · exact ih hbody.2 hsuffix

theorem entity_prefix_of_suffix {rest : List Char} {s : String}
    (h : '&' :: rest <:+ (escapeMarkup s).toList) :
    ∃ r ∈ entities, r.text.toList <+: '&' :: rest := by
  -- An entity has its ampersand in front, and what follows in the entity has none.
  have hentities : ∀ r ∈ entities,
      r.text.toList = '&' :: r.text.toList.tail ∧ '&' ∉ r.text.toList.tail := by decide
  rw [toList_escapeMarkup] at h
  generalize s.toList = given at h
  induction given with
  | nil => exact absurd h (by simp)
  | cons c cs ih =>
      rw [List.flatMap_cons] at h
      rcases toList_substitute_eq_or entities c with ⟨r, hr, -, htext⟩ | ⟨hne, htext⟩
      · obtain ⟨hamp, htail⟩ := hentities r hr
        rw [htext, hamp, List.cons_append] at h
        rcases List.suffix_cons_iff.mp h with heq | hsuffix
        · exact ⟨r, hr, heq ▸ hamp ▸ List.prefix_append _ _⟩
        · exact ih (suffix_of_suffix_append htail hsuffix)
      · rw [htext] at h
        have hc : '&' ∉ [c] := by
          rw [List.mem_singleton]
          exact fun hamp => hne _ List.mem_cons_self hamp.symm
        exact ih (suffix_of_suffix_append hc h)

end AjaxCallback.Text
