/-
  Where quoted text ends.

  A quote is bare if an even number of backslashes stands right before it: the
  backslashes pair up, and none is left to escape it.  `bareQuote?` looks for
  the first one from the left, passing over a backslash together with the
  character behind it.

  * `bareQuote?_eq_some_iff`: it finds the first bare quote of a text, and
    nothing else;
  * `untilQuote_eq`: reading up to the closing quote is undoing the escapes of
    what stands before the first bare quote;
  * `cutQuoted_quote`: a quoted text can be cut off whatever follows it;
  * `quoting_lossless_and_delimited`: escapes are undone, and a text in quotes
    ends at its only other bare quote.
-/
import Mathlib.Algebra.Group.Nat.Even
import PotCatalog.Proofs.Quoting

namespace PotCatalog

/-! ## Undoing escapes -/

/-- What escaped characters stand for, read from left to right.  A backslash at
    the end stands for itself. -/
def unescapeChars : List Char → List Char
  | [] => []
  | [c] => [c]
  | c :: d :: rest =>
    if c = '\\' then unescapeChar d :: unescapeChars rest else c :: unescapeChars (d :: rest)

/-- What an escaped text stands for. -/
def unescape (text : String) : String := String.ofList (unescapeChars text.toList)

theorem unescapeChars_cons {c : Char} (h : c ≠ '\\') (rest : List Char) :
    unescapeChars (c :: rest) = c :: unescapeChars rest := by
  cases rest <;> simp [unescapeChars, h]

theorem unescapeChars_pair (d : Char) (rest : List Char) :
    unescapeChars ('\\' :: d :: rest) = unescapeChar d :: unescapeChars rest := by
  simp [unescapeChars]

/-! ## Bare quotes -/

/-- The number of backslashes at the end of a text. -/
def trailingBackslashes (text : List Char) : Nat := (text.reverse.takeWhile (· = '\\')).length

/-- A quote with an even number of backslashes right before it. -/
def IsBareQuote (text : List Char) (n : Nat) : Prop :=
  text[n]? = some '"' ∧ Even (trailingBackslashes (text.take n))

/-- A text in front adds either none of the backslashes at its end or all of them. -/
theorem trailingBackslashes_append (front text : List Char) :
    trailingBackslashes (front ++ text) = trailingBackslashes text ∨
      trailingBackslashes (front ++ text) =
        trailingBackslashes text + trailingBackslashes front := by
  unfold trailingBackslashes
  rw [List.reverse_append, List.takeWhile_append]
  split
  next h => exact Or.inr (by rw [List.length_append, h])
  next => exact Or.inl rfl

theorem even_trailingBackslashes_append {front : List Char} (h : Even (trailingBackslashes front))
    (text : List Char) :
    Even (trailingBackslashes (front ++ text)) ↔ Even (trailingBackslashes text) := by
  rcases trailingBackslashes_append front text with heq | heq
  · rw [heq]
  · rw [heq, Nat.even_add]
    exact iff_true_right h

/-- A front that leaves no backslash unpaired makes no difference to the quotes
    behind it. -/
theorem isBareQuote_append {front : List Char} (h : Even (trailingBackslashes front))
    (text : List Char) (n : Nat) :
    IsBareQuote (front ++ text) (front.length + n) ↔ IsBareQuote text n := by
  have hget : (front ++ text)[front.length + n]? = text[n]? := by
    rw [List.getElem?_append_right (Nat.le_add_right _ _), Nat.add_sub_cancel_left]
  rw [IsBareQuote, IsBareQuote, hget, List.take_length_add_append,
    even_trailingBackslashes_append h]

theorem IsBareQuote.lt_length {text : List Char} {n : Nat} (h : IsBareQuote text n) :
    n < text.length :=
  (List.getElem?_eq_some_iff.1 h.1).1

theorem isBareQuote_zero (c : Char) (rest : List Char) :
    IsBareQuote (c :: rest) 0 ↔ c = '"' := by
  simp [IsBareQuote, trailingBackslashes]

theorem isBareQuote_succ {c : Char} (h : c ≠ '\\') (rest : List Char) (n : Nat) :
    IsBareQuote (c :: rest) (n + 1) ↔ IsBareQuote rest n := by
  have hfront : Even (trailingBackslashes [c]) := by simp [trailingBackslashes, h]
  rw [Nat.add_comm]
  exact isBareQuote_append hfront rest n

theorem not_isBareQuote_escaped (d : Char) (rest : List Char) :
    ¬ IsBareQuote ('\\' :: d :: rest) 1 := by
  simp [IsBareQuote, trailingBackslashes]

theorem isBareQuote_pair (d : Char) (rest : List Char) (n : Nat) :
    IsBareQuote ('\\' :: d :: rest) (n + 2) ↔ IsBareQuote rest n := by
  -- a second backslash is paired with the first, any other character ends the row
  have hfront : Even (trailingBackslashes ['\\', d]) := by
    by_cases hd : d = '\\'
    · exact ⟨1, by simp [trailingBackslashes, hd]⟩
    · simp [trailingBackslashes, hd]
  rw [Nat.add_comm]
  exact isBareQuote_append hfront rest n

/-! ## The scan -/

/-- The place of the first quote that is met if a backslash is passed over
    together with the character behind it. -/
def bareQuote? : List Char → Option Nat
  | [] => none
  | [c] => if c = '"' then some 0 else none
  | c :: d :: rest =>
    if c = '"' then some 0
    else if c = '\\' then (bareQuote? rest).map (· + 2)
    else (bareQuote? (d :: rest)).map (· + 1)

/-- What the scan finds is a bare quote. -/
theorem isBareQuote_of_bareQuote? {text : List Char} {n : Nat} (h : bareQuote? text = some n) :
    IsBareQuote text n := by
  fun_induction bareQuote? text generalizing n with
  | case1 => cases h
  | case2 => cases h; simp [isBareQuote_zero]
  | case3 => cases h
  | case4 => cases h; simp [isBareQuote_zero]
  | case5 d rest _ ih =>
    obtain ⟨m, hm, rfl⟩ := Option.map_eq_some_iff.1 h
    exact (isBareQuote_pair d rest m).2 (ih hm)
  | case6 c d rest _ hc ih =>
    obtain ⟨m, hm, rfl⟩ := Option.map_eq_some_iff.1 h
    exact (isBareQuote_succ hc (d :: rest) m).2 (ih hm)

/-- The scan passes over no bare quote. -/
theorem exists_bareQuote?_le {text : List Char} {n : Nat} (h : IsBareQuote text n) :
    ∃ m ≤ n, bareQuote? text = some m := by
  fun_induction bareQuote? text generalizing n with
  | case1 => cases h.lt_length
  | case2 | case4 => exact ⟨0, Nat.zero_le n, rfl⟩
  | case3 c hc =>
    obtain rfl : n = 0 := by simpa using h.lt_length
    exact absurd ((isBareQuote_zero c []).1 h) hc
  | case5 d rest hq ih =>
    -- neither the backslash nor the character behind it is a bare quote
    match n, h with
    | 0, h => exact absurd ((isBareQuote_zero _ _).1 h) hq
    | 1, h => exact absurd h (not_isBareQuote_escaped d rest)
    | n + 2, h =>
      obtain ⟨m, hle, hm⟩ := ih ((isBareQuote_pair d rest n).1 h)
      exact ⟨m + 2, by omega, by rw [hm]; rfl⟩
  | case6 c d rest hq hc ih =>
    match n, h with
    | 0, h => exact absurd ((isBareQuote_zero _ _).1 h) hq
    | n + 1, h =>
      obtain ⟨m, hle, hm⟩ := ih ((isBareQuote_succ hc (d :: rest) n).1 h)
      exact ⟨m + 1, by omega, by rw [hm]; rfl⟩

/-- **The scan finds the first bare quote.** -/
theorem bareQuote?_eq_some_iff {text : List Char} {n : Nat} :
    bareQuote? text = some n ↔ IsBareQuote text n ∧ ∀ m < n, ¬ IsBareQuote text m := by
  constructor
  · intro h
    refine ⟨isBareQuote_of_bareQuote? h, fun m hlt hm => ?_⟩
    obtain ⟨k, hle, hk⟩ := exists_bareQuote?_le hm
    obtain rfl := Option.some.inj (h.symm.trans hk)
    omega
  · rintro ⟨h, hfirst⟩
    obtain ⟨m, hle, hm⟩ := exists_bareQuote?_le h
    have hnlt : ¬ m < n := fun hlt => hfirst m hlt (isBareQuote_of_bareQuote? hm)
    rw [hm, show m = n by omega]

example : bareQuote? "a\\\"\\\\\" \"".toList = some 5 := by decide

/-- **Reading up to the closing quote** is undoing the escapes of what stands
    before the first bare quote. -/
theorem untilQuote_eq (text : List Char) :
    untilQuote text =
      (bareQuote? text).map fun n => (unescapeChars (text.take n), text.drop (n + 1)) := by
  fun_induction bareQuote? text with
  | case1 => rfl
  | case2 => rfl
  | case3 c hc => simp [untilQuote, hc]
  | case4 => simp [untilQuote, unescapeChars]
  | case5 d rest hq ih =>
    have hread : untilQuote ('\\' :: d :: rest) =
        (untilQuote rest).map (Prod.map (unescapeChar d :: ·) id) := by
      rw [untilQuote, if_neg hq, if_pos rfl]
      rfl
    rw [hread, ih, Option.map_map, Option.map_map]
    exact Option.map_congr fun n _ => by simp [unescapeChars_pair]
  | case6 c d rest hq hc ih =>
    have hread : untilQuote (c :: d :: rest) =
        (untilQuote (d :: rest)).map (Prod.map (c :: ·) id) := by
      rw [untilQuote, if_neg hq, if_neg hc]
      rfl
    rw [hread, ih, Option.map_map, Option.map_map]
    exact Option.map_congr fun n _ => by simp [unescapeChars_cons hc]

/-! ## Escaped text -/

/-- The first bare quote behind an escaped text is the one that follows it, and
    the text can be read back.  Both are parts of what `untilQuote` finds. -/
theorem escapeChars_spec (cs after : List Char) :
    bareQuote? (escapeChars cs ++ '"' :: after) = some (escapeChars cs).length ∧
      unescapeChars (escapeChars cs) = cs := by
  have hread := untilQuote_escapeChars cs after
  rw [untilQuote_eq] at hread
  obtain ⟨n, hn, hparts⟩ := Option.map_eq_some_iff.1 hread
  obtain ⟨htext, hafter⟩ := Prod.mk.inj hparts
  have hlength : n = (escapeChars cs).length := by
    have hlt := (isBareQuote_of_bareQuote? hn).lt_length
    have hrest := congrArg List.length hafter
    simp only [List.length_drop, List.length_append, List.length_cons] at hlt hrest
    omega
  refine ⟨by rw [hn, hlength], ?_⟩
  rwa [hlength, List.take_left] at htext

theorem unescape_escape (text : String) : unescape (escape text) = text := by
  rw [unescape, escape, String.toList_ofList, (escapeChars_spec text.toList []).2,
    String.ofList_toList]

/-! ## Quoted text -/

/-- The place of the quote that closes a text, which starts with a quote. -/
def closingQuote? (text : String) : Option Nat :=
  match text.toList with
  | '"' :: rest => (bareQuote? rest).map (· + 1)
  | _ => none

/-- The quoted text that a text starts with, and what follows it. -/
def cutQuoted (text : String) : Option (String × String) :=
  (closingQuote? text).map fun n =>
    (String.ofList (text.toList.take (n + 1)), String.ofList (text.toList.drop (n + 1)))

theorem length_quote (text : String) :
    (quote text).length = (escapeChars text.toList).length + 2 := by
  rw [← String.length_toList, toList_quote]
  simp

theorem closingQuote?_quote_append (text after : String) :
    closingQuote? (quote text ++ after) = some ((quote text).length - 1) := by
  have hlist : (quote text ++ after).toList =
      '"' :: (escapeChars text.toList ++ '"' :: after.toList) := by
    simp [toList_quote]
  rw [closingQuote?, hlist, length_quote]
  simp [(escapeChars_spec text.toList after.toList).1]

/-- **A quoted text can be cut off**, whatever follows it. -/
theorem cutQuoted_quote (text after : String) :
    cutQuoted (quote text ++ after) = some (quote text, after) := by
  have hlength : (quote text).length - 1 + 1 = (quote text).toList.length := by
    rw [String.length_toList, length_quote]
    rfl
  rw [cutQuoted, closingQuote?_quote_append, Option.map_some, hlength, String.toList_append,
    List.take_left, List.drop_left, String.ofList_toList, String.ofList_toList]

theorem quote_injective : Function.Injective quote := by
  intro text text' h
  have hread := unquote?_quote text
  rw [h, unquote?_quote] at hread
  exact (Option.some.inj hread).symm

/-- Two texts that start with quoted texts are equal only part by part. -/
theorem quote_append_inj {text text' after after' : String} :
    quote text ++ after = quote text' ++ after' ↔ text = text' ∧ after = after' := by
  constructor
  · intro h
    have hcut := cutQuoted_quote text after
    rw [h, cutQuoted_quote] at hcut
    obtain ⟨hquote, hafter⟩ := Prod.mk.inj (Option.some.inj hcut)
    exact ⟨(quote_injective hquote).symm, hafter.symm⟩
  · rintro ⟨rfl, rfl⟩
    rfl

/-- The bare quotes of a quoted text are its first and its last character. -/
theorem isBareQuote_quote_iff (text : String) (n : Nat) :
    IsBareQuote (quote text).toList n ↔ n = 0 ∨ n = (quote text).length - 1 := by
  obtain ⟨hlast, hfirst⟩ := bareQuote?_eq_some_iff.1 (escapeChars_spec text.toList []).1
  rw [toList_quote, length_quote]
  cases n with
  | zero => simp [isBareQuote_zero]
  | succ n =>
    rw [isBareQuote_succ (by decide)]
    constructor
    · intro h
      have hlt := h.lt_length
      rw [List.length_append, List.length_singleton] at hlt
      have hnlt : ¬ n < (escapeChars text.toList).length := fun hn => hfirst n hn h
      omega
    · intro h
      obtain rfl : n = (escapeChars text.toList).length := by omega
      exact hlast

/-- **Quoting is lossless, and a quoted text shows where it ends.**  Escapes are
    undone and leave no line break and no tab.  The scan from the opening quote
    stops at the last character, the only other bare quote.  So two quoted texts are
    equal only if their texts are, and what follows a quoted text is told from it. -/
theorem quoting_lossless_and_delimited :
    (∀ text, unescape (escape text) = text) ∧
      (∀ text, '\n' ∉ (escape text).toList ∧ '\r' ∉ (escape text).toList ∧
        '\t' ∉ (escape text).toList) ∧
      (∀ text, closingQuote? (quote text) = some ((quote text).length - 1) ∧
        ∀ n, IsBareQuote (quote text).toList n ↔ n = 0 ∨ n = (quote text).length - 1) ∧
      Function.Injective quote ∧
      (∀ text after, cutQuoted (quote text ++ after) = some (quote text, after)) ∧
      ∀ text text' after after', quote text ++ after = quote text' ++ after' ↔
        text = text' ∧ after = after' := by
  refine ⟨unescape_escape, fun text => ?_, fun text => ⟨?_, isBareQuote_quote_iff text⟩,
    quote_injective, cutQuoted_quote, fun _ _ _ _ => quote_append_inj⟩
  · have h : ∀ b ∈ ['\n', '\r', '\t'], b ∉ (escape text).toList := fun b hb => by
      rw [escape, String.toList_ofList]
      exact notMem_escapeChars hb text.toList
    exact ⟨h _ (by decide), h _ (by decide), h _ (by decide)⟩
  · simpa using closingQuote?_quote_append text ""

end PotCatalog
