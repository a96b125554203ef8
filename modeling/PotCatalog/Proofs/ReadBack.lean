/-
  Reading catalogs back.

  The entries of a catalog are read line by line: lines are cut at newlines,
  entries at blank lines, and an entry is read from its first line to its last.

  * `readEntry_entryLines`: the lines of an entry give back its message;
  * `toList_entries`: the text of several entries is made of their lines, with
    a blank line between any two entries;
  * `readEntries_catalog`: what follows the header of a catalog gives back its
    messages, in order and with all their places.
-/
import PotCatalog.Path
import PotCatalog.Proofs.Quoting

namespace PotCatalog

/-! ## The reader -/

/-- A place, cut at its last colon: paths may hold colons and line numbers
    hold none. -/
def readLocation (text : List Char) : Option Location :=
  match text.reverse.dropWhile (· != ':') with
  | [] => none
  | _ :: path =>
    let digits := (text.reverse.takeWhile (· != ':')).reverse
    some ⟨String.ofList path.reverse, Nat.ofDigitChars 10 digits 0⟩

/-- The quoted text of a line that starts with the given word. -/
def readField (word : String) (line : List Char) : Option String :=
  (stripStart? word.toList line).bind unquote?

/-- The lines from the message of an entry on. -/
def readTexts : List (List Char) → Option Message
  | [first, second] => do
    let msgid ← readField "msgid " first
    if second = "msgstr \"\"".toList then some ⟨msgid, none, []⟩ else none
  | [first, second, third, fourth] => do
    let msgid ← readField "msgid " first
    let plural ← readField "msgid_plural " second
    if third = "msgstr[0] \"\"".toList ∧ fourth = "msgstr[1] \"\"".toList then
      some ⟨msgid, some plural, []⟩
    else none
  | _ => none

/-- The lines of an entry: places as long as there are any, then the texts. -/
def readEntry : List (List Char) → Option Message
  | [] => none
  | line :: rest =>
    match stripStart? "#: ".toList line with
    | some place => do
      let location ← readLocation place
      let message ← readEntry rest
      return { message with locations := location :: message.locations }
    | none => readTexts (line :: rest)

/-- The entries of a catalog, each line with a newline behind it. -/
def readEntries (text : String) : Option (List Message) :=
  if text.isEmpty then some []
  else
    let lines := text.toList.splitOn '\n'
    if lines.getLast? = some [] then (lines.dropLast.splitOn []).mapM readEntry else none

/-! ## One entry -/

theorem colon_notMem_digits (n : Nat) : ∀ c ∈ (Nat.toDigits 10 n).reverse, (c != ':') = true := by
  intro c hc
  have hd := Nat.isDigit_of_mem_toDigits (by omega) (by omega) (List.mem_reverse.1 hc)
  rw [bne_iff_ne]
  rintro rfl
  exact absurd hd (by decide)

theorem readLocation_text (l : Location) : readLocation l.text.toList = some l := by
  have htext : l.text.toList = l.path.toList ++ ':' :: Nat.toDigits 10 l.line := by
    simp [Location.text, Nat.toString_eq_repr]
  have hdrop : l.text.toList.reverse.dropWhile (· != ':') = ':' :: l.path.toList.reverse := by
    rw [htext, List.reverse_append, List.reverse_cons, List.append_assoc,
      List.dropWhile_append_of_pos (colon_notMem_digits l.line)]
    simp
  have htake : l.text.toList.reverse.takeWhile (· != ':') = (Nat.toDigits 10 l.line).reverse := by
    rw [htext, List.reverse_append, List.reverse_cons, List.append_assoc,
      List.takeWhile_append_of_pos (colon_notMem_digits l.line)]
    simp
  simp [readLocation, hdrop, htake]

theorem readField_quote (word text : String) :
    readField word (word ++ quote text).toList = some text := by
  have h : stripStart? word.toList (word ++ quote text).toList = some (quote text).toList :=
    stripStart?_eq_some_iff.2 (by simp)
  rw [readField, h, Option.bind_some, unquote?_quote]

theorem readTexts_entryLines (msgid : String) (plural : Option String) :
    readTexts ((Message.entryLines ⟨msgid, plural, []⟩).map String.toList) =
      some ⟨msgid, plural, []⟩ := by
  cases plural with
  | none =>
    simp only [Message.entryLines, List.map_nil, List.nil_append, List.map_cons, readTexts,
      readField_quote]
    rfl
  | some plural =>
    simp only [Message.entryLines, List.map_nil, List.nil_append, List.map_cons, readTexts,
      readField_quote]
    rfl

theorem Message.entryLines_cons (msgid : String) (plural : Option String) (l : Location)
    (locations : List Location) :
    Message.entryLines ⟨msgid, plural, l :: locations⟩ =
      ("#: " ++ l.text) :: Message.entryLines ⟨msgid, plural, locations⟩ := rfl

/-- **The lines of an entry give back its message.** -/
theorem readEntry_entryLines (m : Message) : readEntry (m.entryLines.map String.toList) = some m := by
  obtain ⟨msgid, plural, locations⟩ := m
  induction locations with
  | nil =>
    have hno : stripStart? "#: ".toList ("msgid " ++ quote msgid).toList = none := by
      simp [stripStart?]
    rw [← readTexts_entryLines]
    simp only [Message.entryLines, List.map_nil, List.nil_append, List.map_cons, readEntry, hno]
  | cons l locations ih =>
    have hl : stripStart? "#: ".toList ("#: " ++ l.text).toList = some l.text.toList :=
      stripStart?_eq_some_iff.2 (by simp)
    rw [Message.entryLines_cons, List.map_cons, readEntry, hl]
    simp only [readLocation_text, ih]
    rfl

/-! ## Lines -/

/-- The lines of an entry, as characters. -/
def Message.lines (m : Message) : List (List Char) := m.entryLines.map String.toList

theorem Message.lines_ne_nil (m : Message) : m.lines ≠ [] := by
  simp [Message.lines, Message.entryLines]

theorem Message.blank_notMem_lines (m : Message) : [] ∉ m.lines := by
  obtain ⟨msgid, plural, locations⟩ := m
  cases plural <;> simp [Message.lines, Message.entryLines]

theorem newline_notMem_location {l : Location} (h : '\n' ∉ l.path.toList) :
    '\n' ∉ ("#: " ++ l.text).toList := by
  have hd : '\n' ∉ Nat.toDigits 10 l.line := by
    intro hn
    have := Nat.isDigit_of_mem_toDigits (by omega) (by omega) hn
    exact absurd this (by decide)
  simp [Location.text, Nat.toString_eq_repr, h, hd]

theorem Message.newline_notMem_lines {m : Message}
    (h : ∀ l ∈ m.locations, '\n' ∉ l.path.toList) : ∀ line ∈ m.lines, '\n' ∉ line := by
  obtain ⟨msgid, plural, locations⟩ := m
  intro line hline
  obtain ⟨text, htext, rfl⟩ := List.mem_map.1 hline
  rcases List.mem_append.1 htext with hl | ht
  · obtain ⟨l, hmem, rfl⟩ := List.mem_map.1 hl
    exact newline_notMem_location (h l hmem)
  · have hq := newline_notMem_quote
    cases plural with
    | none =>
      simp only [List.mem_cons, List.not_mem_nil, or_false] at ht
      rcases ht with rfl | rfl <;> simp [hq]
    | some plural =>
      simp only [List.mem_cons, List.not_mem_nil, or_false] at ht
      rcases ht with rfl | rfl | rfl | rfl <;> simp [hq]

/-- The lines of several entries, each entry but the last with a blank line
    behind it. -/
def entriesLines (messages : List Message) : List (List Char) :=
  [[]].intercalate (messages.map Message.lines)

theorem entriesLines_cons (m m' : Message) (messages : List Message) :
    entriesLines (m :: m' :: messages) = m.lines ++ [] :: entriesLines (m' :: messages) := by
  simp [entriesLines, List.intercalate_cons_cons]

theorem entriesLines_ne_nil (m : Message) (messages : List Message) :
    entriesLines (m :: messages) ≠ [] := by
  cases messages with
  | nil => simpa [entriesLines] using m.lines_ne_nil
  | cons m' messages => simp [entriesLines_cons]

theorem newline_notMem_entriesLines {messages : List Message}
    (h : ∀ m ∈ messages, ∀ l ∈ m.locations, '\n' ∉ l.path.toList) :
    ∀ line ∈ entriesLines messages, '\n' ∉ line := by
  induction messages with
  | nil => simp [entriesLines]
  | cons m messages ih =>
    have hm := m.newline_notMem_lines (h m (by simp))
    have ih := ih fun m' hm' => h m' (by simp [hm'])
    cases messages with
    | nil => simpa [entriesLines] using hm
    | cons m' messages =>
      rw [entriesLines_cons]
      intro line hline
      rcases List.mem_append.1 hline with hl | hl
      · exact hm line hl
      · rcases List.mem_cons.1 hl with rfl | hl
        · simp
        · exact ih line hl

theorem splitOn_entriesLines (m : Message) (messages : List Message) :
    (entriesLines (m :: messages)).splitOn [] = (m :: messages).map Message.lines := by
  refine List.splitOn_intercalate [] ?_ (by simp)
  intro lines hlines
  obtain ⟨m', -, rfl⟩ := List.mem_map.1 hlines
  exact m'.blank_notMem_lines

theorem intercalate_append {α : Type} {s : List α} {xs ys : List (List α)} (hx : xs ≠ [])
    (hy : ys ≠ []) : s.intercalate (xs ++ ys) = s.intercalate xs ++ s ++ s.intercalate ys := by
  induction xs with
  | nil => exact absurd rfl hx
  | cons x xs ih =>
    cases xs with
    | nil => rw [List.singleton_append, List.intercalate_cons_of_ne_nil hy]; simp
    | cons x' xs =>
      rw [List.cons_append, List.cons_append, List.intercalate_cons_cons,
        List.intercalate_cons_cons, ← List.cons_append, ih (by simp)]
      simp

theorem Message.toList_entry (m : Message) : m.entry.toList = ['\n'].intercalate m.lines := by
  simp [Message.entry, Message.lines, String.toList_intercalate]

/-- The text of several entries is made of their lines. -/
theorem toList_entries (m : Message) (messages : List Message) :
    (entries (m :: messages)).toList =
      ['\n'].intercalate (entriesLines (m :: messages) ++ [[]]) := by
  rw [intercalate_append (entriesLines_ne_nil m messages) (by simp)]
  have key : ("\n\n".intercalate ((m :: messages).map Message.entry)).toList =
      ['\n'].intercalate (entriesLines (m :: messages)) := by
    induction messages generalizing m with
    | nil => simp [entriesLines, Message.toList_entry]
    | cons m' messages ih =>
      have ih := ih m'
      rw [String.toList_intercalate] at ih ⊢
      rw [entriesLines_cons, intercalate_append m.lines_ne_nil (by simp),
        List.intercalate_cons_of_ne_nil (entriesLines_ne_nil m' messages), ← ih]
      simp [List.intercalate_cons_cons, Message.toList_entry]
  have hentries : entries (m :: messages) =
      "\n\n".intercalate ((m :: messages).map Message.entry) ++ "\n" := rfl
  rw [hentries, String.toList_append, key]
  simp

/-! ## The catalog -/

theorem mapM_readEntry (messages : List Message) :
    (messages.map Message.lines).mapM readEntry = some messages := by
  induction messages with
  | nil => rfl
  | cons m messages ih =>
    have hm : readEntry m.lines = some m := readEntry_entryLines m
    simp [hm, ih]

theorem readEntries_entries {messages : List Message}
    (h : ∀ m ∈ messages, ∀ l ∈ m.locations, '\n' ∉ l.path.toList) :
    readEntries (entries messages) = some messages := by
  cases messages with
  | nil => rfl
  | cons m messages =>
    have hlines : (entries (m :: messages)).toList.splitOn '\n' =
        entriesLines (m :: messages) ++ [[]] := by
      rw [toList_entries]
      refine List.splitOn_intercalate '\n' ?_ (by simp)
      intro line hline
      rcases List.mem_append.1 hline with hl | hl
      · exact newline_notMem_entriesLines h line hl
      · simp [List.mem_singleton.1 hl]
    have hne : (entries (m :: messages)).isEmpty = false := by
      rw [Bool.eq_false_iff]
      intro hempty
      rw [String.isEmpty_iff.1 hempty] at hlines
      exact entriesLines_ne_nil m messages (by simpa using hlines.symm)
    rw [readEntries, hne, hlines]
    simp only [Bool.false_eq_true, ↓reduceIte, List.getLast?_concat, List.dropLast_concat,
      splitOn_entriesLines]
    exact mapM_readEntry (m :: messages)

/-- **A catalog can be read back without loss.**  What follows the header of a
    catalog gives back its messages, whatever their texts are, as long as no
    path is broken by a newline. -/
theorem readEntries_catalog (date : String) (messages : List Message)
    (h : ∀ m ∈ messages, ∀ l ∈ m.locations, '\n' ∉ l.path.toList) :
    ∃ body, catalog messages date = header date ++ body ∧ readEntries body = some messages :=
  ⟨entries messages, rfl, readEntries_entries h⟩

/-- Messages whose texts look like lines of a catalog. -/
def hostileMessages : List Message :=
  [⟨"a\n\n#: x:1\nmsgid \"", some "\"\nmsgstr \"\" \\", [⟨"src:2/a b.js", 10⟩, ⟨"#: c.js:7", 0⟩]⟩,
   ⟨"", none, []⟩,
   ⟨"\\", none, [⟨"", 120⟩]⟩]

theorem readEntries_catalog_hostile :
    (∀ m ∈ hostileMessages, ∀ l ∈ m.locations, '\n' ∉ l.path.toList) ∧
      ∃ body, catalog hostileMessages "2024-05-01 12:30+0000" =
        header "2024-05-01 12:30+0000" ++ body ∧ readEntries body = some hostileMessages := by
  have h : ∀ m ∈ hostileMessages, ∀ l ∈ m.locations, '\n' ∉ l.path.toList := by decide
  exact ⟨h, readEntries_catalog "2024-05-01 12:30+0000" hostileMessages h⟩

end PotCatalog
