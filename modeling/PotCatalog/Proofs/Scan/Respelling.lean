/-
  Respelling paths.

  A path can be respelled: its text in UTF-8 with each byte spelled as a character
  (`spellChars`), or the bytes that its characters spell read as a text
  (`readChars`).  Both leave the slashes and dots alone that make up a path
  (`KeepsSigns`), and so the path has the same components as before, respelled
  (`KeepsSigns.components_respelled`), and the same name below a base directory, if
  no two components become the same (`KeepsSigns.displayPath_respelled`).
-/
import PotCatalog.RawPath
import PotCatalog.Proofs.Scan.Naming
import PotCatalog.Proofs.Text.Utf8

namespace PotCatalog

/-! ## Respelling paths -/

/-- A respelling of texts leaves the slashes where they are and makes no others, and
    neither does it with the parts that are one or two dots.  Of the texts it may be
    asked that they have certain characters only. -/
structure KeepsSigns (Of : Char → Prop) (f : List Char → List Char) : Prop where
  append_slash : ∀ xs ys, f (xs ++ '/' :: ys) = f xs ++ '/' :: f ys
  slash_notMem : ∀ {xs}, (∀ c ∈ xs, Of c) → '/' ∉ xs → '/' ∉ f xs
  dots : ∀ dots ∈ [[], ['.'], ['.', '.']], f dots = dots
  eq_dots : ∀ dots ∈ [[], ['.'], ['.', '.']], ∀ {xs}, (∀ c ∈ xs, Of c) → f xs = dots → xs = dots

/-- A path with its text respelled. -/
def Path.respelled (f : List Char → List Char) (p : Path) : Path := ⟨String.ofList (f p.text.toList)⟩

/-- A component with its name respelled. -/
def Component.respelled (f : List Char → List Char) : Component → Component
  | name text => name (String.ofList (f text.toList))
  | c => c

namespace KeepsSigns

variable {Of : Char → Prop} {f : List Char → List Char} (hf : KeepsSigns Of f)
include hf

theorem nil_eq : f [] = [] := hf.dots [] (by simp)

theorem joinSlash_map (parts : List (List Char)) : f (joinSlash parts) = joinSlash (parts.map f) := by
  induction parts with
  | nil => exact hf.nil_eq
  | cons part parts ih =>
    cases parts with
    | nil => rfl
    | cons next parts =>
      show f (part ++ '/' :: joinSlash (next :: parts)) = f part ++ '/' :: joinSlash (f next :: parts.map f)
      rw [hf.append_slash, ih]
      rfl

variable {cs part : List Char}

theorem splitSlash_eq (hcs : ∀ c ∈ cs, Of c) : splitSlash (f cs) = (splitSlash cs).map f := by
  have hslash : ∀ part ∈ (splitSlash cs).map f, '/' ∉ part := by
    intro part hpart
    obtain ⟨other, hother, rfl⟩ := List.mem_map.1 hpart
    exact hf.slash_notMem (fun c hc => hcs c (subset_of_mem_splitSlash hother hc))
      (slash_notMem_of_mem_splitSlash hother)
  have hread := splitSlash_joinSlash hslash (by simpa using splitSlash_ne_nil cs)
  rwa [← hf.joinSlash_map, joinSlash_splitSlash] at hread

theorem eq_dots_iff {dots : List Char} (hdots : dots ∈ [[], ['.'], ['.', '.']])
    (hpart : ∀ c ∈ part, Of c) : f part = dots ↔ part = dots :=
  ⟨hf.eq_dots dots hdots hpart, fun h => h ▸ hf.dots dots hdots⟩

theorem isIdlePart_eq (hpart : ∀ c ∈ part, Of c) : isIdlePart (f part) = isIdlePart part := by
  have hnil : f part = [] ↔ part = [] := hf.eq_dots_iff (by simp) hpart
  have hdot : f part = ['.'] ↔ part = ['.'] := hf.eq_dots_iff (by simp) hpart
  rw [Bool.eq_iff_iff]
  simp [isIdlePart, hnil, hdot]

theorem ofPart?_eq (hpart : ∀ c ∈ part, Of c) :
    Component.ofPart? (f part) = (Component.ofPart? part).map (.respelled f) := by
  have hdots : f part = ['.', '.'] ↔ part = ['.', '.'] := hf.eq_dots_iff (by simp) hpart
  simp only [Component.ofPart?, hf.isIdlePart_eq hpart, hdots]
  split_ifs
  · rfl
  · rfl
  · simp [Component.respelled]

variable {p : Path} (hp : ∀ c ∈ p.text.toList, Of c)
include hp

theorem splitSlash_respelled :
    splitSlash (p.respelled f).text.toList = (splitSlash p.text.toList).map f := by
  rw [Path.respelled, String.toList_ofList, hf.splitSlash_eq hp]

/-- The part at the start is a dot, or empty, if it was before. -/
theorem exists_splitSlash_eq_cons : ∃ first rest, splitSlash p.text.toList = first :: rest ∧
    splitSlash (p.respelled f).text.toList = f first :: rest.map f ∧
    (f first = [] ↔ first = []) ∧ (f first = ['.'] ↔ first = ['.']) := by
  obtain ⟨first, rest, hsplit⟩ := List.exists_cons_of_ne_nil (splitSlash_ne_nil p.text.toList)
  have hfirst : ∀ c ∈ first, Of c := fun c hc =>
    hp c (subset_of_mem_splitSlash (hsplit ▸ List.mem_cons_self) hc)
  refine ⟨first, rest, hsplit, ?_, hf.eq_dots_iff (by simp) hfirst, hf.eq_dots_iff (by simp) hfirst⟩
  rw [hf.splitSlash_respelled hp, hsplit, List.map_cons]

theorem isAbsolute_respelled : (p.respelled f).isAbsolute = p.isAbsolute := by
  obtain ⟨first, rest, hsplit, hsplit', hnil, -⟩ := hf.exists_splitSlash_eq_cons hp
  rw [Bool.eq_iff_iff, Path.isAbsolute_iff, Path.isAbsolute_iff, hsplit, hsplit']
  cases rest <;> simp [hnil]

theorem startsAtDot_respelled : (p.respelled f).startsAtDot = p.startsAtDot := by
  obtain ⟨first, rest, hsplit, hsplit', -, hdot⟩ := hf.exists_splitSlash_eq_cons hp
  rw [Bool.eq_iff_iff, Path.startsAtDot_iff, Path.startsAtDot_iff, hsplit, hsplit']
  simp [hdot]

theorem steps_respelled : (p.respelled f).steps = p.steps.map (.respelled f) := by
  have hinner : ∀ parts : List (List Char), (∀ part ∈ parts, ∀ c ∈ part, Of c) →
      (parts.map f).filterMap Component.ofPart? =
        (parts.filterMap Component.ofPart?).map (.respelled f) := by
    intro parts hparts
    rw [List.filterMap_map, List.map_filterMap]
    exact List.filterMap_congr fun part hpart => hf.ofPart?_eq (hparts part hpart)
  rw [Path.steps_eq, Path.steps_eq, hf.isAbsolute_respelled hp, hf.splitSlash_respelled hp, hinner,
    List.map_append]
  · split <;> rfl
  · exact fun part hpart c hc => hp c (subset_of_mem_splitSlash hpart hc)

theorem components_respelled : (p.respelled f).components = p.components.map (.respelled f) := by
  rw [Path.components_eq_steps, Path.components_eq_steps, hf.startsAtDot_respelled hp,
    hf.steps_respelled hp, List.map_append]
  split <;> rfl

omit hp

theorem text_respelled (c : Component) : (c.respelled f).text = String.ofList (f c.text.toList) := by
  have hslash : f ['/'] = ['/'] := by
    have h := hf.append_slash [] []
    rwa [hf.nil_eq] at h
  cases c with
  | root => exact (congrArg String.ofList hslash).symm
  | current => exact (congrArg String.ofList (hf.dots ['.'] (by simp))).symm
  | parent => exact (congrArg String.ofList (hf.dots ['.', '.'] (by simp))).symm
  | name text => rfl

theorem intercalate_respelled (steps : List Component) :
    ("/".intercalate ((steps.map (.respelled f)).map Component.text)).toList =
      f ("/".intercalate (steps.map Component.text)).toList := by
  have hslash : "/".toList = ['/'] := rfl
  rw [String.toList_intercalate, String.toList_intercalate, hslash, ← joinSlash_eq_intercalate,
    ← joinSlash_eq_intercalate, hf.joinSlash_map, List.map_map, List.map_map, List.map_map, List.map_map]
  exact congrArg joinSlash (List.map_congr_left fun c _ => by simp [hf.text_respelled c])

theorem render_respelled (steps : List Component) :
    (Component.render (steps.map (.respelled f))).toList = f (Component.render steps).toList := by
  cases steps with
  | nil => exact hf.nil_eq.symm
  | cons c rest =>
    have hrest := hf.intercalate_respelled (c :: rest)
    cases c with
    | root =>
      have hroot := hf.append_slash [] ("/".intercalate (rest.map Component.text)).toList
      rw [hf.nil_eq, List.nil_append, List.nil_append] at hroot
      rw [List.map_cons, Component.toList_render_root, hroot, ← hf.intercalate_respelled]
      exact Component.toList_render_root _
    | current => exact hrest
    | parent => exact hrest
    | name text => exact hrest

end KeepsSigns

/-! ## Names below a base directory -/

theorem stripStart?_map {α β : Type} [DecidableEq α] [DecidableEq β] {f : α → β}
    (hf : Function.Injective f) (start list : List α) :
    stripStart? (start.map f) (list.map f) = (stripStart? start list).map (List.map f) := by
  induction start generalizing list with
  | nil => rfl
  | cons a start ih =>
    cases list with
    | nil => rfl
    | cons b list =>
      simp only [List.map_cons, stripStart?, hf.eq_iff, ih]
      split <;> rfl

/-- Names are respelled like the paths, unless components become the same. -/
theorem KeepsSigns.displayPath_respelled {Of : Char → Prop} {f : List Char → List Char}
    (hf : KeepsSigns Of f) (hinj : Function.Injective (Component.respelled f)) (base p : Path)
    (hbase : ∀ c ∈ base.text.toList, Of c) (hp : ∀ c ∈ p.text.toList, Of c) :
    (displayPath (base.respelled f) (p.respelled f)).toList = f (displayPath base p).toList := by
  have hcurrent : (fun c : Component => decide (c ≠ .current)) ∘ Component.respelled f =
      fun c => decide (c ≠ .current) := by
    funext c
    cases c <;> rfl
  rw [displayPath, hf.components_respelled hbase, hf.components_respelled hp, stripStart?_map hinj,
    Option.getD_map, List.filter_map, hcurrent, hf.render_respelled]
  rfl

/-! ## Spelling bytes -/

/-- A text with each byte of it spelled as a character. -/
def spellChars (cs : List Char) : List Char := (cs.flatMap String.utf8EncodeChar).map Char.ofUInt8

/-- The characters that are read from the bytes that characters spell. -/
def readChars (cs : List Char) : List Char := readBytes none (spelledBytes cs)

/-- Whether a character spells a byte. -/
def IsByte (c : Char) : Prop := c.toNat < 0x100

theorem spelledBytes_map_ofUInt8 (bytes : List UInt8) :
    spelledBytes (bytes.map Char.ofUInt8) = bytes := by
  rw [spelledBytes, List.map_map, Function.LeftInverse.comp_eq_id toUInt8_ofUInt8, List.map_id]

theorem map_ofUInt8_spelledBytes {cs : List Char} (hcs : ∀ c ∈ cs, IsByte c) :
    (spelledBytes cs).map Char.ofUInt8 = cs := by
  rw [spelledBytes, List.map_map]
  exact (List.map_congr_left fun c hc => ofUInt8_toUInt8 (hcs c hc)).trans (List.map_id cs)

theorem readChars_spellChars (cs : List Char) : readChars (spellChars cs) = cs := by
  rw [readChars, spellChars, spelledBytes_map_ofUInt8, readBytes_flatMap_utf8EncodeChar]

theorem isByte_of_mem_map_ofUInt8 {bytes : List UInt8} : ∀ c ∈ bytes.map Char.ofUInt8, IsByte c := by
  intro c hc
  obtain ⟨byte, -, rfl⟩ := List.mem_map.1 hc
  rw [IsByte, toNat_ofUInt8]
  exact byte.toNat_lt

theorem readChars_append_slash (xs ys : List Char) :
    readChars (xs ++ '/' :: ys) = readChars xs ++ '/' :: readChars ys := by
  rw [readChars, spelledBytes, List.map_append, List.map_cons,
    readBytes_append_cons (by simp) _ _ (by decide)]
  rfl

theorem spellChars_dots : ∀ dots ∈ [[], ['.'], ['.', '.']], spellChars dots = dots := by decide

theorem keepsSigns_spellChars : KeepsSigns (fun _ => True) spellChars where
  append_slash := by
    intro xs ys
    rw [spellChars, List.flatMap_append, List.map_append, List.flatMap_cons, List.map_append]
    rfl
  slash_notMem := by
    intro xs _ hslash hmem
    -- a slash in the bytes is read as a slash of the text
    obtain ⟨before, after, hsplit⟩ := List.append_of_mem hmem
    have hread := readChars_spellChars xs
    rw [hsplit, readChars_append_slash] at hread
    exact hslash (hread ▸ List.mem_append_right _ List.mem_cons_self)
  dots := spellChars_dots
  eq_dots := by
    intro dots hdots xs _ hspell
    have hread := readChars_spellChars dots
    rw [spellChars_dots dots hdots] at hread
    rw [← readChars_spellChars xs, hspell, hread]

theorem respelled_readChars_respelled_spellChars (c : Component) :
    (c.respelled spellChars).respelled readChars = c := by
  cases c with
  | name text => simp [Component.respelled, readChars_spellChars]
  | _ => rfl

end PotCatalog
