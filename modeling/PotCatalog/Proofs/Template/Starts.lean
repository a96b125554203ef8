/-
  What the tokens of a template start with.

  A scanner moves its cursor over the text it is given (`Cursor.Behind`).
  Outside of tags it stands at the start of the text, at a tag, behind the brace
  that closes one, or at a character that is no blank, and a token in a tag
  starts with no blank.  So no token starts in the middle of a line ending
  (`scan_startsIn`).
-/
import PotCatalog.Proofs.Template.Offsets
import PotCatalog.Proofs.Text.LastLine

namespace PotCatalog

/-! ## Cursors in a text -/

/-- A cursor has moved over the start of a text. -/
structure Cursor.Behind (c : Cursor) (text before : List Char) : Prop where
  text_eq : text = before ++ c.rest
  offset_eq : c.offset = utf8Length before

/-- A cursor stands in a text. -/
def Cursor.IsIn (c : Cursor) (text : List Char) : Prop := ∃ before, c.Behind text before

/-- A cursor stands in a text, but not in one of its line endings. -/
def Cursor.IsOnLine (c : Cursor) (text : List Char) : Prop :=
  ∃ before, c.Behind text before ∧ ¬ SplitsEnding before c.rest

/-- A character of a text starts at a byte offset that is not in a line ending. -/
def StartsIn (text : List Char) (start : Nat) : Prop :=
  ∃ before first rest, text = before ++ first :: rest ∧ start = utf8Length before ∧
    ¬ SplitsEnding before (first :: rest)

theorem StartsIn.append {start : Nat} (h : StartsIn text start) (rest : List Char) :
    StartsIn (text ++ rest) start := by
  obtain ⟨before, first, inner, rfl, hstart, hsplits⟩ := h
  exact ⟨before, first, inner ++ rest, by simp, hstart, hsplits⟩

namespace Cursor

variable {c : Cursor} {text before : List Char}

theorem Behind.past (h : c.Behind text before) {taken rest : List Char}
    (hrest : c.rest = taken ++ rest) : (c.past taken rest).Behind text (before ++ taken) where
  text_eq := by rw [h.text_eq, hrest, List.append_assoc]; rfl
  offset_eq := by rw [utf8Length_append, ← h.offset_eq]; rfl

theorem skip_eq (c : Cursor) (n : Nat) : c.skip n = c.past (c.rest.take n) (c.rest.drop n) := by
  induction n generalizing c with
  | zero => simp [skip, Cursor.past, utf8Length]
  | succ n ih =>
    rw [skip, ih]
    obtain ⟨rest, offset⟩ := c
    cases rest with
    | nil => simp [advance, Cursor.past, utf8Length]
    | cons first rest => simp [advance, Cursor.past, utf8Length, Nat.add_assoc]

theorem Behind.skip (h : c.Behind text before) (n : Nat) :
    (c.skip n).Behind text (before ++ c.rest.take n) := by
  rw [skip_eq]
  exact h.past (List.take_append_drop n c.rest).symm

theorem Behind.skipWhile (h : c.Behind text before) (p : Char → Bool) :
    (c.skipWhile p).Behind text (before ++ c.run p) :=
  h.past List.takeWhile_append_dropWhile.symm

theorem IsIn.past (h : c.IsIn text) {taken rest : List Char} (hrest : c.rest = taken ++ rest) :
    (c.past taken rest).IsIn text :=
  h.imp' _ fun _ hbefore => hbefore.past hrest

theorem IsIn.skip (h : c.IsIn text) (n : Nat) : (c.skip n).IsIn text :=
  h.imp' _ fun _ hbefore => hbefore.skip n

theorem IsIn.skipWhile (h : c.IsIn text) (p : Char → Bool) : (c.skipWhile p).IsIn text :=
  h.imp' _ fun _ hbefore => hbefore.skipWhile p

theorem IsOnLine.isIn (h : c.IsOnLine text) : c.IsIn text := h.imp fun _ hbefore => hbefore.1

/-- No line ending goes on with another sign than a newline. -/
theorem IsIn.isOnLine (h : c.IsIn text) (hhead : c.rest.head? ≠ some '\n') : c.IsOnLine text :=
  h.imp fun _ hbefore => ⟨hbefore, fun hsplits => hhead hsplits.2⟩

theorem IsOnLine.startsIn (h : c.IsOnLine text) (hrest : c.rest ≠ []) : StartsIn text c.offset := by
  obtain ⟨before, hbefore, hsplits⟩ := h
  obtain ⟨first, rest, hcons⟩ := List.exists_cons_of_ne_nil hrest
  exact ⟨before, first, rest, hcons ▸ hbefore.text_eq, hbefore.offset_eq, hcons ▸ hsplits⟩

end Cursor

namespace Template

variable {c : Cursor} {text : List Char}

/-! ## Behind a tag -/

/-- A cursor that moves behind a brace is in no line ending, whether it moves on
    over blanks or not. -/
theorem behind_isOnLine (h : c.IsIn text) {length : Nat}
    (hbrace : (c.rest.take length).getLast? = some '}') (trims : Bool) :
    (behind c length trims).IsOnLine text := by
  obtain ⟨before, hbefore⟩ := h
  unfold behind
  dsimp only
  cases trims with
  | true =>
    refine Cursor.IsIn.isOnLine ⟨_, (hbefore.skip length).skipWhile isBlank⟩ fun hhead => ?_
    have hblank := List.head?_dropWhile_not isBlank (c.skip length).rest
    have hnewline : ((c.skip length).rest.dropWhile isBlank).head? = some '\n' := hhead
    rw [hnewline] at hblank
    exact absurd hblank (by decide)
  | false =>
    refine ⟨_, hbefore.skip length, fun hsplits => ?_⟩
    have hlast := hsplits.1
    rw [List.getLast?_append, hbrace] at hlast
    cases hlast

theorem closing?_getLast? {delimiter : List Char} {length : Nat} {trims : Bool}
    (h : closing? delimiter text = some (length, trims)) (hbrace : delimiter.getLast? = some '}') :
    (text.take length).getLast? = some '}' := by
  unfold closing? at h
  split at h
  · rename_i sign cs
    split_ifs at h with hsign hopen
    · cases h
      obtain ⟨rest, rfl⟩ := List.isPrefixOf_iff_prefix.1 (Bool.and_eq_true_iff.1 hsign).2
      rw [List.take_succ_cons, List.take_left, List.getLast?_cons, hbrace]
      rfl
    · cases h
      obtain ⟨rest, hrest⟩ := List.isPrefixOf_iff_prefix.1 hopen
      rw [← hrest, List.take_left, hbrace]
  · cases h

theorem wordTag?_getLast? {word : List Char} {length : Nat} {trims : Bool}
    (h : wordTag? word text = some (length, trims)) : (text.take length).getLast? = some '}' := by
  unfold wordTag? at h
  dsimp only at h
  split_ifs at h
  generalize htail : ((text.dropWhile isAsciiBlank).drop word.length).dropWhile isAsciiBlank = tail at h
  obtain ⟨front, hfront⟩ : tail <:+ text := by
    rw [← htail]
    exact (List.dropWhile_suffix _).trans ((List.drop_suffix ..).trans (List.dropWhile_suffix _))
  split at h
  · rename_i inner trims' hclosing
    cases h
    have hbrace := closing?_getLast? hclosing rfl
    rw [← hfront, List.length_append, Nat.add_sub_cancel, List.take_length_add_append,
      List.getLast?_append, hbrace]
    rfl
  · cases h

theorem cutRaw_getLast? {body : List Char} {length : Nat} {trims : Bool}
    (h : cutRaw text = some (body, length, trims)) : (text.take length).getLast? = some '}' := by
  induction text generalizing body length with
  | nil => cases h
  | cons first text ih =>
    rw [cutRaw] at h
    dsimp only at h
    split at h
    · rename_i found htag
      cases h
      split_ifs at htag
      obtain ⟨⟨inner, trims⟩, hinner, heq⟩ := Option.map_eq_some_iff.1 htag
      cases heq
      rw [List.take_add, List.getLast?_append, wordTag?_getLast? hinner]
      rfl
    · obtain ⟨⟨body, length, trims⟩, hrest, heq⟩ := Option.map_eq_some_iff.1 h
      cases heq
      rw [List.take_succ_cons, List.getLast?_cons, ih hrest]
      rfl

theorem cutAt_eq {word before rest : List Char} (h : cutAt word text = some (before, rest)) :
    text = before ++ rest ∧ word <+: rest := by
  induction text generalizing before with
  | nil =>
    rw [cutAt] at h
    split_ifs at h with hword
    cases h
    exact ⟨rfl, by simp_all⟩
  | cons first text ih =>
    rw [cutAt] at h
    split_ifs at h with hword
    · cases h
      exact ⟨rfl, List.isPrefixOf_iff_prefix.1 hword⟩
    · obtain ⟨⟨before, rest⟩, hrest, heq⟩ := Option.map_eq_some_iff.1 h
      cases heq
      exact (ih hrest).imp_left fun heq => by rw [heq, List.cons_append]

/-! ## Pieces of a text -/

theorem cutData_append (text : List Char) : text = (cutData text).1 ++ (cutData text).2 := by
  induction text with
  | nil => rfl
  | cons first text ih =>
    rw [cutData]
    split
    · rfl
    · exact congrArg (first :: ·) ih

/-- A text runs up to a tag. -/
theorem head?_cutData (text : List Char) : (cutData text).2.head? ≠ some '\n' := by
  induction text with
  | nil => simp [cutData]
  | cons first text ih =>
    rw [cutData]
    split
    · rename_i hopening
      intro hhead
      obtain rfl : first = '\n' := Option.some.inj hhead
      cases hopening
    · exact ih

theorem cutString_eq {delimiter : Char} {inside rest : List Char}
    (h : cutString delimiter text = some (inside, rest)) : text = inside ++ delimiter :: rest := by
  induction text using cutString.induct delimiter generalizing inside with
  | case1 => cases h
  | case2 first text ih =>
    rw [cutString] at h
    obtain ⟨⟨inside, rest⟩, hrest, heq⟩ := Option.map_eq_some_iff.1 h
    cases heq
    rw [ih hrest, List.cons_append, List.cons_append]
  | case3 first text hescape hdelimiter =>
    rw [cutString.eq_3 delimiter first text hescape, if_pos hdelimiter] at h
    cases h
    rw [eq_of_beq hdelimiter, List.nil_append]
  | case4 first text hescape hdelimiter hslash =>
    rw [cutString.eq_3 delimiter first text hescape, if_neg hdelimiter, if_pos hslash] at h
    cases h
  | case5 first text hescape hdelimiter hslash ih =>
    rw [cutString.eq_3 delimiter first text hescape, if_neg hdelimiter, if_neg hslash] at h
    obtain ⟨⟨inside, rest⟩, hrest, heq⟩ := Option.map_eq_some_iff.1 h
    cases heq
    rw [ih hrest, List.cons_append]

theorem scanNumber_append (base : Nat) (part : NumberPart) (text : List Char) :
    text = (scanNumber base part text).1 ++ (scanNumber base part text).2.2 := by
  induction text generalizing part with
  | nil => rfl
  | cons first text ih =>
    rw [scanNumber]
    split
    · rfl
    · exact congrArg (first :: ·) (ih _)

/-! ## One step -/

/-- Where a scanner stands: in a tag anywhere, and outside not in a line ending. -/
def Place.Holds (text : List Char) : Place → Cursor → Prop
  | .outside, c => c.IsOnLine text
  | _, c => c.IsIn text

/-- A step moves a cursor in a text, and yields a token that starts in the text. -/
def Step.Reads (text : List Char) : Step → Prop
  | .finish | .fail _ _ => True
  | .skip place next => place.Holds text next
  | .emit _ start place next => StartsIn text start ∧ place.Holds text next

theorem openTag_reads (tag : Tag) (h : c.IsOnLine text) (hrest : c.rest ≠ []) :
    (openTag tag c).Reads text := by
  have hinside : (c.skip (openingLength c.rest)).IsIn text := h.isIn.skip _
  unfold openTag
  dsimp only
  cases tag with
  | «variable» => exact ⟨h.startsIn hrest, hinside⟩
  | comment =>
    dsimp only
    split
    · trivial
    · rename_i body rest hcut
      obtain ⟨htext, ⟨tail, hend⟩⟩ := cutAt_eq hcut
      refine behind_isOnLine (hinside.skip body.length) ?_ _
      rw [Cursor.skip_eq, htext]
      simp [Cursor.past, ← hend]
  | block =>
    dsimp only
    split
    · exact ⟨h.startsIn hrest, hinside⟩
    · rename_i length trims hword
      have hraw := behind_isOnLine hinside (wordTag?_getLast? hword) trims
      split
      · trivial
      · rename_i hcut
        exact ⟨hraw.startsIn (cutRaw_pos hcut).1,
          behind_isOnLine hraw.isIn (cutRaw_getLast? hcut) _⟩

theorem stepOutside_reads (h : c.IsOnLine text) : (stepOutside c).Reads text := by
  unfold stepOutside
  split
  · trivial
  · rename_i hrest
    split
    · exact openTag_reads _ h hrest
    · have hnext : (c.past (cutData c.rest).1 (cutData c.rest).2).IsOnLine text :=
        (h.isIn.past (cutData_append c.rest)).isOnLine (head?_cutData c.rest)
      dsimp only
      generalize (if (cutData c.rest).2[2]? = some '-' then _ else _ : List Char) = kept
      split_ifs
      · exact hnext
      · exact ⟨h.startsIn hrest, hnext⟩

theorem Place.holds_of_ne {place : Place} (hplace : place ≠ .outside) (h : c.IsIn text) :
    place.Holds text c := by
  cases place with
  | outside => exact absurd rfl hplace
  | «variable» => exact h
  | block => exact h

theorem stepString_reads {delimiter : Char} {rest : List Char} {place : Place}
    (hplace : place ≠ .outside) (h : c.IsIn text) (hrest : c.rest = delimiter :: rest)
    (hstart : StartsIn text c.offset) : (stepString delimiter place c).Reads text := by
  have hadvance : c.advance.rest = rest := by
    obtain ⟨_, _⟩ := c
    cases hrest
    rfl
  unfold stepString
  rw [hadvance]
  split
  · trivial
  · rename_i inside behind hcut
    have hnext : (c.past (delimiter :: inside ++ [delimiter]) behind).IsIn text :=
      h.past (by rw [hrest, cutString_eq hcut]; simp)
    dsimp only
    split_ifs
    · split
      · exact ⟨hstart, Place.holds_of_ne hplace hnext⟩
      · trivial
    · exact ⟨hstart, Place.holds_of_ne hplace hnext⟩

theorem stepNumber_reads {place : Place} (hplace : place ≠ .outside) (h : c.IsIn text)
    (hstart : StartsIn text c.offset) : (stepNumber place c).Reads text := by
  unfold stepNumber
  dsimp only
  split
  · refine ⟨hstart, Place.holds_of_ne hplace (Cursor.IsIn.past ?_ (scanNumber_append ..))⟩
    split_ifs
    · exact h
    · exact h.skip 2
  · trivial

theorem stepInside_reads {place : Place} (hplace : place ≠ .outside) (balance : Int)
    (h : c.IsIn text) : (stepInside place balance c).Reads text := by
  unfold stepInside
  split
  · trivial
  · rename_i first rest hrest
    by_cases hblank : isAsciiBlank first = true
    · rw [if_pos hblank]
      exact Place.holds_of_ne hplace (h.skipWhile _)
    · rw [if_neg hblank]
      have hstart : StartsIn text c.offset := by
        refine (h.isOnLine ?_).startsIn (hrest ▸ List.cons_ne_nil first rest)
        intro hnewline
        rw [hrest, List.head?_cons, Option.some.injEq] at hnewline
        exact hblank (hnewline ▸ rfl)
      have hcloser : place.closer.1.getLast? = some '}' := by cases place <;> rfl
      dsimp only
      split
      · rename_i length trims hclosing
        split_ifs at hclosing
        exact ⟨hstart, behind_isOnLine h (closing?_getLast? hclosing hcloser) trims⟩
      · split
        · exact ⟨hstart, Place.holds_of_ne hplace (h.skip _)⟩
        · split_ifs with hquote
          · exact stepString_reads hplace h hrest hstart
          · exact stepNumber_reads hplace h hstart
          · exact ⟨hstart, Place.holds_of_ne hplace (h.skipWhile _)⟩
          · trivial

/-- **A step stays in its text,** and outside of tags out of its line endings. -/
theorem step_reads (balance : Int) {place : Place} (h : place.Holds text c) :
    (step place balance c).Reads text := by
  cases place with
  | outside => exact stepOutside_reads h
  | «variable» => exact stepInside_reads (by decide) balance h
  | block => exact stepInside_reads (by decide) balance h

/-! ## All tokens -/

theorem scanFrom_startsIn (n : Nat) {place : Place} (balance : Int) (h : place.Holds text c) :
    ∀ lexeme ∈ (scanFrom n place balance c).lexemes, StartsIn text lexeme.start := by
  induction n generalizing place balance c with
  | zero => simp [scanFrom]
  | succ n ih =>
    have hstep := step_reads balance h
    intro lexeme hmem
    rw [scanFrom] at hmem
    split at hmem
    · cases hmem
    · cases hmem
    · rename_i heq
      rw [heq] at hstep
      exact ih balance hstep lexeme hmem
    · rename_i heq
      rw [heq] at hstep
      rcases List.mem_cons.1 hmem with rfl | hmem
      · exact hstep.1
      · exact ih _ hstep.2 lexeme hmem

theorem dropFinalNewline_prefix (text : List Char) : dropFinalNewline text <+: text := by
  unfold dropFinalNewline
  dsimp only
  split_ifs
  · exact (List.dropLast_prefix _).trans (List.dropLast_prefix _)
  · exact List.dropLast_prefix _
  · exact List.dropLast_prefix _
  · exact List.prefix_refl _

/-- **Each token starts in its text,** and none in the middle of a line ending. -/
theorem scan_startsIn (source : String) :
    ∀ lexeme ∈ (scan source).lexemes, StartsIn source.toList lexeme.start := by
  obtain ⟨dropped, hdropped⟩ := dropFinalNewline_prefix source.toList
  intro lexeme hmem
  rw [← hdropped]
  refine (scanFrom_startsIn _ 0 ?_ lexeme hmem).append dropped
  exact ⟨[], ⟨rfl, rfl⟩, fun hsplits => by cases hsplits.1⟩

end Template

end PotCatalog
