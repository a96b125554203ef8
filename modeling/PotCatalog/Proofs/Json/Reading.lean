/-
  Reading what was written.

  `Takes r cs rest a` says that a reader takes exactly the characters `cs`,
  leaves `rest` and yields `a`.  There is one rule for each way to put readers
  together and one for each step of reading, so that no proof about a larger
  reader has to look at places and marks.

  `takes_readText`: a string that was written is read up to its own closing
  quote, whatever characters it has and whatever follows it.
-/
import Mathlib.Data.List.Basic
import PotCatalog.Json.Container
import PotCatalog.Json.Writer

namespace PotCatalog.Json

open Reader

/-- The mark behind characters. -/
def Mark.past (m : Mark) (cs : List Char) : Mark := cs.foldl Mark.step m

/-- A reader takes the characters `cs`, leaves `rest` and yields `a`. -/
def Takes {α : Type} (r : Reader α) (cs rest : List Char) (a : α) : Prop :=
  ∀ m, StateT.run r ⟨cs ++ rest, m⟩ = .ok (a, ⟨rest, m.past cs⟩)

/-- Characters that are all white space. -/
def Spaces (cs : List Char) : Prop := ∀ c ∈ cs, isSpace c = true

/-! ## Rules -/

section
variable {α β : Type} {r : Reader α} {f : α → Reader β} {a : α} {b : β}
  {c : Char} {cs ds rest : List Char}

theorem Takes.pure (a : α) (rest : List Char) : Takes (pure a) [] rest a := fun _ => rfl

theorem Takes.bind (hr : Takes r cs (ds ++ rest) a) (hf : Takes (f a) ds rest b) :
    Takes (r >>= f) (cs ++ ds) rest b := by
  intro m
  rw [List.append_assoc, StateT.run_bind, hr m]
  show StateT.run (f a) _ = _
  rw [hf, Mark.past, Mark.past, Mark.past, List.foldl_append]

/-- A reader that looks ahead, before another one. -/
theorem Takes.look (hr : Takes r [] (cs ++ rest) a) (hf : Takes (f a) cs rest b) :
    Takes (r >>= f) cs rest b :=
  Takes.bind hr hf

/-- A reader behind which nothing more is taken. -/
theorem Takes.stay (hr : Takes r cs rest a) (hf : Takes (f a) [] rest b) :
    Takes (r >>= f) cs rest b := by
  have h : Takes (r >>= f) (cs ++ []) rest b := .bind hr hf
  rwa [List.append_nil] at h

/-- A reader whose result is changed. -/
theorem Takes.map (g : α → β) (hr : Takes r cs rest a) :
    Takes (r >>= fun x => Pure.pure (g x)) cs rest (g a) :=
  .stay hr (.pure (g a) rest)

theorem Takes.get {f : Place → Reader β} (h : ∀ m, Takes (f ⟨cs ++ rest, m⟩) cs rest b) :
    Takes (get >>= f) cs rest b := by
  intro m
  rw [StateT.run_bind, StateT.run_get]
  exact h m m

theorem takes_peek (c : Char) (rest : List Char) : Takes peek [] (c :: rest) (some c) := fun _ => rfl

theorem takes_bump (c : Char) (rest : List Char) : Takes bump [c] rest () := fun _ => rfl

theorem Takes.bump {f : Unit → Reader β} (c : Char) (hf : Takes (f ()) cs rest b) :
    Takes (bump >>= f) (c :: cs) rest b :=
  Takes.bind (takes_bump c (cs ++ rest)) hf

theorem takes_bumpOver (cs rest : List Char) : Takes (bumpOver cs.length) cs rest () := by
  induction cs with
  | nil => exact .pure () rest
  | cons c cs ih => exact .bump c ih

theorem takes_run {p : Char → Bool} (hcs : ∀ c ∈ cs, p c = true)
    (hrest : ∀ c ∈ rest.head?, p c = false) : Takes (run p) cs rest cs := by
  have htake : (cs ++ rest).takeWhile p = cs := by
    rw [List.takeWhile_append_of_pos hcs]
    cases rest with
    | nil => simp
    | cons c rest => simp [hrest c rfl]
  refine .get fun m => ?_
  dsimp only
  rw [htake]
  exact .map (fun _ => cs) (takes_bumpOver cs rest)

theorem takes_peekPastSpace (hcs : Spaces cs) (hc : isSpace c = false) (rest : List Char) :
    Takes peekPastSpace cs (c :: rest) (some c) :=
  .stay (takes_run hcs (by simpa using hc)) (takes_peek c rest)

/-- A reader that looks past white space at the first character it takes. -/
theorem Takes.pastSpace {f : Option Char → Reader β} {spaces : List Char} (hspaces : Spaces spaces)
    (hc : isSpace c = false) (hf : Takes (f (some c)) (c :: cs) rest b) :
    Takes (peekPastSpace >>= f) (spaces ++ c :: cs) rest b :=
  .bind (takes_peekPastSpace hspaces hc (cs ++ rest)) hf

/-- A reader that looks past white space at a character it does not take. -/
theorem Takes.upTo {f : Option Char → Reader β} (hcs : Spaces cs) (hc : isSpace c = false)
    (hf : Takes (f (some c)) [] (c :: rest) b) : Takes (peekPastSpace >>= f) cs (c :: rest) b :=
  .stay (takes_peekPastSpace hcs hc rest) hf

theorem takes_openValue (wanted : Wanted) (hcs : Spaces cs) (hc : isSpace c = false)
    (rest : List Char) : Takes (openValue wanted c) (cs ++ [c]) rest () := by
  refine .pastSpace hcs hc ?_
  dsimp only
  rw [if_pos rfl]
  exact takes_bump c rest

theorem Takes.run_start (h : Takes r cs [] a) : (StateT.run r ⟨cs, .start⟩).map (·.1) = .ok a := by
  have hrun := h .start
  rw [List.append_nil] at hrun
  rw [hrun]
  rfl

/-- A text that a reader takes as a whole. -/
theorem Takes.parse {text : String} (h : Takes r text.toList [] a) : Json.parse r text = .ok a := by
  have hend : Takes peekPastSpace [] [] none := fun _ => rfl
  exact Takes.run_start (.stay h (.stay hend (.pure a [])))

end

/-! ## Strings -/

/-- Characters as they are written between quotes. -/
def escapedChars (cs : List Char) : List Char := cs.flatMap fun c => (escapedPiece c).toList

theorem toList_stringText (text : String) :
    (stringText text).toList = '"' :: (escapedChars text.toList ++ ['"']) := by
  simp [stringText, escapedChars, List.flatMap_map]

/-- The two digits of a control character. -/
theorem readDigits_control : ∀ n < 32,
    ((if n < 16 then ['0'] else []) ++ Nat.toDigits 16 n).length = 2 ∧
      readDigits 16 ('0' :: '0' :: ((if n < 16 then ['0'] else []) ++ Nat.toDigits 16 n)) =
        some n := by
  decide +kernel

/-- A character is written as itself, as a backslash and a character that stands
    for it, or as a backslash and four digits. -/
theorem escapedPiece_cases (c : Char) :
    (∃ d, (escapedPiece c).toList = ['\\', d] ∧ d ≠ 'u' ∧ simpleEscape d = some c) ∨
      (∃ digits, (escapedPiece c).toList = '\\' :: 'u' :: digits ∧ digits.length = 4 ∧
        readDigits 16 digits = some c.toNat ∧ c.toNat < 32) ∨
      ((escapedPiece c).toList = [c] ∧ c ≠ '"' ∧ c ≠ '\\' ∧ ¬ c < ' ') := by
  by_cases hsimple : c ∈ ['"', '\\', '\x08', '\x0c', '\n', '\r', '\t']
  · refine .inl ?_
    simp only [List.mem_cons, List.not_mem_nil, or_false] at hsimple
    rcases hsimple with rfl | rfl | rfl | rfl | rfl | rfl | rfl
    · exact ⟨'"', rfl, by decide, rfl⟩
    · exact ⟨'\\', rfl, by decide, rfl⟩
    · exact ⟨'b', rfl, by decide, rfl⟩
    · exact ⟨'f', rfl, by decide, rfl⟩
    · exact ⟨'n', rfl, by decide, rfl⟩
    · exact ⟨'r', rfl, by decide, rfl⟩
    · exact ⟨'t', rfl, by decide, rfl⟩
  simp only [List.mem_cons, List.not_mem_nil, or_false, not_or] at hsimple
  obtain ⟨hquote, hslash, hb, hf, hn, hr, ht⟩ := hsimple
  unfold escapedPiece
  rw [if_neg hquote, if_neg hslash, if_neg hb, if_neg hf, if_neg hn, if_neg hr, if_neg ht]
  by_cases hcontrol : c < ' '
  · rw [if_pos hcontrol]
    have hlt : c.toNat < 32 := hcontrol
    obtain ⟨hlength, hvalue⟩ := readDigits_control c.toNat hlt
    refine .inr (.inl ⟨_, ?_, congrArg (· + 2) hlength, hvalue, hlt⟩)
    split_ifs <;> simp [hexadecimal]
  · rw [if_neg hcontrol]
    exact .inr (.inr ⟨by simp, hquote, hslash, hcontrol⟩)

theorem length_le_utf8Length (cs : List Char) : cs.length ≤ utf8Length cs := by
  induction cs with
  | nil => simp
  | cons c cs ih =>
    have hpos := c.utf8Size_pos
    simp only [List.length_cons, utf8Length]
    omega

theorem takes_readUnit {digits : List Char} {unit : Nat} (hlength : digits.length = 4)
    (hvalue : readDigits 16 digits = some unit) (rest : List Char) :
    Takes readUnit digits rest unit := by
  have hbytes : ¬ utf8Length (digits ++ rest) < 4 := by
    have hle := length_le_utf8Length (digits ++ rest)
    rw [List.length_append] at hle
    omega
  have htake : (digits ++ rest).take 4 = digits := by
    rw [← hlength, List.take_left]
  refine .get fun m => ?_
  dsimp only
  rw [if_neg hbytes, htake, hvalue, ← hlength]
  exact .map (fun _ => unit) (takes_bumpOver digits rest)

theorem takes_readUnicodeEscape {digits : List Char} {unit : Nat} (hlength : digits.length = 4)
    (hvalue : readDigits 16 digits = some unit) (hunit : unit < 0xD800) (rest : List Char) :
    Takes readUnicodeEscape digits rest (Char.ofNat unit) := by
  have hlow : ¬ 0xDC00 ≤ unit := by omega
  refine .stay (takes_readUnit hlength hvalue rest) ?_
  simp only [hlow, hunit, decide_false, Bool.false_and, Bool.false_eq_true, if_false, decide_true,
    Bool.true_or, if_true]
  exact .pure _ rest

theorem takes_readEscape_simple {c d : Char} (hd : d ≠ 'u') (hmeant : simpleEscape d = some c)
    (rest : List Char) : Takes readEscape [d] rest c := by
  refine .look (takes_peek d rest) ?_
  split
  · rename_i hnone
    cases hnone
  · rename_i hu
    exact absurd (Option.some.inj hu) hd
  · rename_i hsome
    obtain rfl := Option.some.inj hsome
    rw [hmeant]
    exact .map (fun _ => c) (takes_bump d rest)

theorem takes_readEscape_digits {digits : List Char} {unit : Nat} (hlength : digits.length = 4)
    (hvalue : readDigits 16 digits = some unit) (hunit : unit < 0xD800) (rest : List Char) :
    Takes readEscape ('u' :: digits) rest (Char.ofNat unit) :=
  .look (takes_peek 'u' (digits ++ rest))
    (.bump 'u' (takes_readUnicodeEscape hlength hvalue hunit rest))

/-- One written character is read as one character. -/
theorem takes_readCharacters_cons {fuel : Nat} {ds rest text : List Char}
    (h : Takes (readCharacters fuel) ds rest text) (c : Char) :
    Takes (readCharacters (fuel + 1)) ((escapedPiece c).toList ++ ds) rest (c :: text) := by
  rcases escapedPiece_cases c with ⟨d, hpiece, hd, hmeant⟩ |
    ⟨digits, hpiece, hlength, hvalue, hlt⟩ | ⟨hpiece, hquote, hslash, hcontrol⟩
  · rw [hpiece]
    refine .look (takes_peek '\\' _) (.bump '\\' ?_)
    exact .bind (takes_readEscape_simple hd hmeant _) (.map (c :: ·) h)
  · rw [hpiece]
    refine .look (takes_peek '\\' _) (.bump '\\' ?_)
    have hescape := takes_readEscape_digits hlength hvalue (by omega) (ds ++ rest)
    rw [Char.ofNat_toNat] at hescape
    exact .bind hescape (.map (c :: ·) h)
  · rw [hpiece]
    refine .look (takes_peek c _) ?_
    split
    · rename_i hnone
      cases hnone
    · rename_i hsome
      exact absurd (Option.some.inj hsome) hquote
    · rename_i hsome
      exact absurd (Option.some.inj hsome) hslash
    · rename_i hsome
      obtain rfl := Option.some.inj hsome
      rw [if_neg hcontrol]
      exact .bump c (.map (c :: ·) h)

theorem takes_readCharacters {fuel : Nat} {text : List Char} (hfuel : text.length < fuel)
    (rest : List Char) : Takes (readCharacters fuel) (escapedChars text ++ ['"']) rest text := by
  induction text generalizing fuel with
  | nil =>
    obtain ⟨fuel, rfl⟩ := Nat.exists_eq_succ_of_ne_zero (by omega : fuel ≠ 0)
    exact .look (takes_peek '"' rest) (.map (fun _ => []) (takes_bump '"' rest))
  | cons c text ih =>
    obtain ⟨fuel, rfl⟩ := Nat.exists_eq_succ_of_ne_zero (by omega : fuel ≠ 0)
    rw [List.length_cons] at hfuel
    have hrest := takes_readCharacters_cons (ih (by omega : text.length < fuel)) c
    rwa [← List.append_assoc] at hrest

theorem length_le_escapedChars (cs : List Char) : cs.length ≤ (escapedChars cs).length := by
  induction cs with
  | nil => simp
  | cons c cs ih =>
    have hpos : 0 < (escapedPiece c).toList.length := by
      rcases escapedPiece_cases c with ⟨d, hpiece, -⟩ | ⟨digits, hpiece, -⟩ | ⟨hpiece, -⟩ <;>
        simp [hpiece]
    rw [escapedChars, List.flatMap_cons, List.length_append, List.length_cons]
    rw [escapedChars] at ih
    omega

/-- **A string reads back**, whatever follows it. -/
theorem takes_readString (text : String) (rest : List Char) :
    Takes readString (escapedChars text.toList ++ ['"']) rest text := by
  refine .get fun m => ?_
  have hlength := length_le_escapedChars text.toList
  have hread := takes_readCharacters
    (by simp only [List.length_append]; omega :
      text.toList.length < ((escapedChars text.toList ++ ['"']) ++ rest).length + 1) rest
  have h := Takes.map String.ofList hread
  rwa [String.ofList_toList] at h

theorem takes_readText {spaces : List Char} (hspaces : Spaces spaces) (text : String)
    (rest : List Char) : Takes readText (spaces ++ (stringText text).toList) rest text := by
  have h : Takes readText ((spaces ++ ['"']) ++ (escapedChars text.toList ++ ['"'])) rest text :=
    .bind (takes_openValue .string hspaces (by decide) _) (takes_readString text rest)
  rw [toList_stringText]
  simpa using h

end PotCatalog.Json
