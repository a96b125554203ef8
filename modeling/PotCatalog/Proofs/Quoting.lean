/-
  Reading quoted text.

  `untilQuote` reads a text up to its closing quote and undoes the escapes on
  the way.  `untilQuote_escapeChars`: it reads back every escaped text,
  whatever follows the quote, so a quoted text ends where its own closing
  quote stands and nowhere before.
-/
import PotCatalog.Catalog

namespace PotCatalog

/-! ## Reading -/

/-- The character that a backslash and the given character stand for. -/
def unescapeChar : Char → Char
  | 'n' => '\n'
  | 'r' => '\r'
  | 't' => '\t'
  | c => c

/-- The text before the closing quote, and what follows the quote. -/
def untilQuote : List Char → Option (List Char × List Char)
  | [] => none
  | [c] => if c = '"' then some ([], []) else none
  | c :: d :: rest =>
    if c = '"' then some ([], d :: rest)
    else if c = '\\' then (untilQuote rest).map fun (text, after) => (unescapeChar d :: text, after)
    else (untilQuote (d :: rest)).map fun (text, after) => (c :: text, after)

/-- The text that stands in quotes, if there is nothing else. -/
def unquote? : List Char → Option String
  | '"' :: rest =>
    match untilQuote rest with
    | some (text, []) => some (String.ofList text)
    | _ => none
  | _ => none

/-! ## Escaped text -/

/-- A character is written as itself, or as a backslash and a character that
    stands for it. -/
theorem escapeChar_cases (c : Char) :
    (∃ d ∈ ['\\', '"', 'n', 'r', 't'], escapeChar c = ['\\', d] ∧ unescapeChar d = c) ∨
      (escapeChar c = [c] ∧ c ∉ ['\\', '"', '\n', '\r', '\t']) := by
  unfold escapeChar
  split
  · exact Or.inl ⟨'\\', by decide, rfl, rfl⟩
  · exact Or.inl ⟨'"', by decide, rfl, rfl⟩
  · exact Or.inl ⟨'n', by decide, rfl, rfl⟩
  · exact Or.inl ⟨'r', by decide, rfl, rfl⟩
  · exact Or.inl ⟨'t', by decide, rfl, rfl⟩
  · rename_i h₁ h₂ h₃ h₄ h₅
    have hc : c ≠ '\\' ∧ c ≠ '"' ∧ c ≠ '\n' ∧ c ≠ '\r' ∧ c ≠ '\t' := ⟨h₁, h₂, h₃, h₄, h₅⟩
    exact Or.inr ⟨rfl, by simpa using hc⟩

/-- Line breaks and tabs are never written as themselves. -/
theorem notMem_escapeChar {b : Char} (hb : b ∈ ['\n', '\r', '\t']) (c : Char) :
    b ∉ escapeChar c := by
  rcases escapeChar_cases c with ⟨d, hd, h, -⟩ | ⟨h, hc⟩
  · have hapart : ∀ b ∈ ['\n', '\r', '\t'], b ∉ ['\\', '"', 'n', 'r', 't'] := by simp
    rw [h, List.mem_cons, List.mem_singleton]
    rintro (rfl | rfl)
    · exact hapart '\\' hb List.mem_cons_self
    · exact hapart b hb hd
  · rw [h, List.mem_singleton]
    rintro rfl
    exact hc (List.mem_append_right ['\\', '"'] hb)

theorem notMem_escapeChars {b : Char} (hb : b ∈ ['\n', '\r', '\t']) (cs : List Char) :
    b ∉ escapeChars cs := by
  intro h
  obtain ⟨c, -, hc⟩ := List.mem_flatMap.1 h
  exact notMem_escapeChar hb c hc

theorem escapeChars_cons (c : Char) (cs : List Char) :
    escapeChars (c :: cs) = escapeChar c ++ escapeChars cs := rfl

/-- One written character is read as one character. -/
theorem untilQuote_escapeChar (c : Char) {rest : List Char} (hr : rest ≠ []) :
    untilQuote (escapeChar c ++ rest) =
      (untilQuote rest).map fun (text, after) => (c :: text, after) := by
  rcases escapeChar_cases c with ⟨d, -, h, hd⟩ | ⟨h, hc⟩
  · rw [h, ← hd]; rfl
  · obtain ⟨e, es, rfl⟩ := List.exists_cons_of_ne_nil hr
    obtain ⟨hb, hq, -⟩ := by simpa using hc
    rw [h]; simp [untilQuote, hq, hb]

/-- **Escaped text reads back**, whatever follows its closing quote. -/
theorem untilQuote_escapeChars (cs after : List Char) :
    untilQuote (escapeChars cs ++ '"' :: after) = some (cs, after) := by
  induction cs with
  | nil => cases after <;> simp [escapeChars, untilQuote]
  | cons c cs ih =>
    rw [escapeChars_cons, List.append_assoc, untilQuote_escapeChar c (by simp), ih]
    rfl

theorem toList_quote (text : String) :
    (quote text).toList = '"' :: (escapeChars text.toList ++ ['"']) := by
  simp [quote, escape]

theorem unquote?_quote (text : String) : unquote? (quote text).toList = some text := by
  rw [toList_quote]
  simp [unquote?, untilQuote_escapeChars]

theorem newline_notMem_quote (text : String) : '\n' ∉ (quote text).toList := by
  have h := notMem_escapeChars (show '\n' ∈ ['\n', '\r', '\t'] by decide) text.toList
  rw [toList_quote]
  simp [h]

end PotCatalog
