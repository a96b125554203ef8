/-
  The directories above a path.

  `Path.up k p` is the path `k` levels above `p`.  A parent is a shorter text
  (`Path.length_parent?_lt`), so going up comes to an end, and the ancestors of a
  path are everything above it (`Path.getElem?_ancestors`).

  What is joined with a path has that path as its parent, less the idle parts at
  its end (`Path.parent?_join_eq_trimmed`); a parent has none
  (`Path.trimmed_of_parent?`).
-/
import Mathlib.Data.List.DropRight
import PotCatalog.Proofs.Scan.Following

namespace PotCatalog

/-! ## Parts without idle ones at the end -/

theorem trimParts_prefix_self (parts : List (List Char)) : trimParts parts <+: parts :=
  List.rdropWhile_prefix isIdlePart parts

theorem trimParts_concat_of_idle (parts : List (List Char)) {part : List Char}
    (h : isIdlePart part = true) : trimParts (parts ++ [part]) = trimParts parts :=
  List.rdropWhile_concat_pos isIdlePart parts part h

theorem trimParts_concat_of_step (parts : List (List Char)) {part : List Char}
    (h : isIdlePart part = false) : trimParts (parts ++ [part]) = parts ++ [part] :=
  List.rdropWhile_concat_neg isIdlePart parts part (by simp [h])

theorem trimParts_cases (parts : List (List Char)) :
    trimParts parts = [] ∨
      ∃ front part, trimParts parts = front ++ [part] ∧ isIdlePart part = false := by
  induction parts using List.reverseRecOn with
  | nil => exact Or.inl rfl
  | append_singleton parts part ih =>
    cases hidle : isIdlePart part with
    | true => rwa [trimParts_concat_of_idle parts hidle]
    | false => exact Or.inr ⟨parts, part, trimParts_concat_of_step parts hidle, hidle⟩

theorem joinSlash_eq_intercalate (parts : List (List Char)) :
    joinSlash parts = ['/'].intercalate parts := by
  induction parts with
  | nil => rfl
  | cons part parts ih =>
    cases parts with
    | nil => simp [joinSlash]
    | cons next parts =>
      show part ++ '/' :: joinSlash (next :: parts) = _
      rw [ih]
      simp

theorem joinSlash_splitSlash (cs : List Char) : joinSlash (splitSlash cs) = cs := by
  rw [joinSlash_eq_intercalate, splitSlash_eq_splitOn, List.intercalate_splitOn]

theorem splitSlash_joinSlash {parts : List (List Char)} (hslash : ∀ part ∈ parts, '/' ∉ part)
    (hne : parts ≠ []) : splitSlash (joinSlash parts) = parts := by
  rw [joinSlash_eq_intercalate, splitSlash_eq_splitOn, List.splitOn_intercalate '/' hslash hne]

theorem joinSlash_ne_nil {parts : List (List Char)} (h : ∃ part ∈ parts, part ≠ []) :
    joinSlash parts ≠ [] := by
  obtain ⟨part, hmem, hne⟩ := h
  cases parts with
  | nil => simp at hmem
  | cons first parts =>
    cases parts with
    | nil => rwa [List.mem_singleton.1 hmem] at hne
    | cons next parts => simp [joinSlash]

/-- More parts make a longer text, unless they are an empty one behind nothing. -/
theorem length_joinSlash_lt (front : List (List Char)) {more : List (List Char)}
    (h : ∃ part ∈ more, part ≠ []) :
    (joinSlash front).length < (joinSlash (front ++ more)).length := by
  induction front with
  | nil => exact List.length_pos_iff.2 (joinSlash_ne_nil h)
  | cons first front ih =>
    cases front with
    | nil =>
      cases more with
      | nil => simp at h
      | cons next more => simp [joinSlash]
    | cons next front => simpa [joinSlash] using ih

namespace Path

/-! ## Anchors and parts -/

theorem ofAnatomy_anatomy (p : Path) : ofAnatomy p.anatomy.1 p.anatomy.2 = p := by
  have htext : p.text = String.ofList (joinSlash (splitSlash p.text.toList)) := by
    rw [joinSlash_splitSlash, String.ofList_toList]
  obtain ⟨text⟩ := p
  unfold anatomy
  split
  case h_1 part parts hsplit =>
    rw [hsplit] at htext
    exact congrArg Path.mk htext.symm
  case h_2 parts hsplit =>
    rw [hsplit] at htext
    cases parts with
    | nil => exact congrArg Path.mk htext.symm
    | cons part parts => exact congrArg Path.mk htext.symm
  case h_3 => exact congrArg Path.mk htext.symm

theorem anatomy_fst_eq (p : Path) :
    p.anatomy.1 = if p.isAbsolute then .root else if p.startsAtDot then .current else .plain := by
  rw [anatomy_eq]
  split_ifs <;> rfl

theorem anatomy_snd_eq (p : Path) :
    p.anatomy.2 =
      if p.isAbsolute || p.startsAtDot then (splitSlash p.text.toList).tail
      else splitSlash p.text.toList := by
  rw [anatomy_eq]
  cases p.isAbsolute <;> cases p.startsAtDot <;> rfl

theorem slash_notMem_of_mem_anatomy {p : Path} {part : List Char} (h : part ∈ p.anatomy.2) :
    '/' ∉ part := by
  rw [anatomy_snd_eq] at h
  split at h
  · exact slash_notMem_of_mem_splitSlash (List.mem_of_mem_tail h)
  · exact slash_notMem_of_mem_splitSlash h

/-- A path without idle parts at its end. -/
def trimmed (p : Path) : Path := ofAnatomy p.anatomy.1 (trimParts p.anatomy.2)

theorem parent?_eq (p : Path) :
    p.parent? =
      if trimParts p.anatomy.2 = [] then if p.anatomy.1 = .current then some ⟨""⟩ else none
      else some (ofAnatomy p.anatomy.1 (trimParts (trimParts p.anatomy.2).dropLast)) := by
  unfold parent?
  obtain ⟨anchor, parts⟩ := p.anatomy
  dsimp only
  split
  case h_1 hkept => rw [if_pos hkept]
  case h_2 hkept => rw [if_neg hkept]

theorem length_ofAnatomy_lt (anchor : Anchor) (front : List (List Char)) {more : List (List Char)}
    (h : ∃ part ∈ more, part ≠ []) :
    (ofAnatomy anchor front).text.length < (ofAnatomy anchor (front ++ more)).text.length := by
  have hlt := length_joinSlash_lt front h
  cases anchor with
  | root => simpa [ofAnatomy] using hlt
  | plain => simpa [ofAnatomy] using hlt
  | current =>
    cases front with
    | cons first front => simpa [ofAnatomy] using hlt
    | nil =>
      cases more with
      | nil => simp at h
      | cons next more =>
        have hpos : 0 < "/".length + (joinSlash (next :: more)).length :=
          Nat.add_pos_left (by decide) _
        simpa [ofAnatomy] using hpos

theorem anatomy_of_text_eq_empty {p : Path} (h : p.text = "") : p.anatomy = (.plain, [[]]) := by
  rw [anatomy, h]
  rfl

theorem text_ne_empty_of_current {p : Path} (h : p.anatomy.1 = .current) : p.text ≠ "" := by
  intro hempty
  simp [anatomy_of_text_eq_empty hempty] at h

/-- **A parent is a shorter text.** -/
theorem length_parent?_lt {p q : Path} (h : p.parent? = some q) : q.text.length < p.text.length := by
  rw [parent?_eq] at h
  rcases trimParts_cases p.anatomy.2 with hnil | ⟨front, part, hkept, hpart⟩
  · rw [if_pos hnil] at h
    split_ifs at h with hcurrent
    cases h
    exact Nat.pos_of_ne_zero (mt String.length_eq_zero_iff.1 (text_ne_empty_of_current hcurrent))
  · rw [hkept, if_neg (by simp), List.dropLast_concat] at h
    cases h
    -- idle parts may stand before and behind the last step
    obtain ⟨before, hbefore⟩ := trimParts_prefix_self front
    obtain ⟨behind, hbehind⟩ := trimParts_prefix_self p.anatomy.2
    have hparts : p.anatomy.2 = trimParts front ++ (before ++ part :: behind) := by
      rw [← hbehind, hkept, ← List.append_assoc, hbefore, List.append_assoc]
      rfl
    have hmore : ∃ other ∈ before ++ part :: behind, other ≠ [] :=
      ⟨part, by simp, fun hempty => by simp [hempty, isIdlePart] at hpart⟩
    have hlt := length_ofAnatomy_lt p.anatomy.1 (trimParts front) hmore
    rwa [← hparts, ofAnatomy_anatomy] at hlt

/-! ## Going up -/

/-- The path some levels above a path. -/
def up : Nat → Path → Option Path
  | 0, p => some p
  | k + 1, p => p.parent?.bind (up k)

theorem getElem?_above {fuel : Nat} {p : Path} (h : p.text.length < fuel) (k : Nat) :
    (p :: above fuel p)[k]? = up k p := by
  induction fuel generalizing p k with
  | zero => exact absurd h (Nat.not_lt_zero _)
  | succ fuel ih =>
    cases k with
    | zero => rfl
    | succ k =>
      rw [List.getElem?_cons_succ, above, up]
      cases hparent : p.parent? with
      | none => rfl
      | some q => exact ih (Nat.lt_of_lt_of_le (length_parent?_lt hparent) (Nat.le_of_lt_succ h)) k

/-- **The ancestors of a path are everything above it.** -/
theorem getElem?_ancestors (p : Path) (k : Nat) : (p :: p.ancestors)[k]? = up k p :=
  getElem?_above (Nat.lt_succ_self _) k

theorem up_succ_eq_some {k : Nat} {p q : Path} (h : up (k + 1) p = some q) :
    ∃ r, up k p = some r ∧ r.parent? = some q := by
  induction k generalizing p with
  | zero =>
    obtain ⟨r, hr, h⟩ := Option.bind_eq_some_iff.1 h
    cases h
    exact ⟨p, rfl, hr⟩
  | succ k ih =>
    obtain ⟨r, hr, h⟩ := Option.bind_eq_some_iff.1 h
    obtain ⟨last, hlast, hparent⟩ := ih h
    refine ⟨last, ?_, hparent⟩
    rw [up, hr]
    exact hlast

/-! ## The parent of a join -/

theorem startsAtDot_eq_false_of_singleton {p : Path} {part : List Char}
    (hsplit : splitSlash p.text.toList = [part]) (hpart : isIdlePart part = false) :
    p.startsAtDot = false := by
  rw [Bool.eq_false_iff, Ne, startsAtDot_iff, hsplit]
  rintro ⟨parts, hparts⟩
  simp [(List.cons.inj hparts).1, isIdlePart] at hpart

theorem isAbsolute_eq_false_of_singleton {p : Path} {part : List Char}
    (hsplit : splitSlash p.text.toList = [part]) : p.isAbsolute = false := by
  rw [Bool.eq_false_iff, Ne, isAbsolute_iff, hsplit]
  simp

/-- A name that is joined with a path stands behind the parts of that path. -/
theorem exists_anatomy_join (base : Path) {name : String} (hslash : '/' ∉ name.toList)
    (hname : isIdlePart name.toList = false) :
    (base.join ⟨name⟩).anatomy.1 = base.anatomy.1 ∧
      ∃ parts, (base.join ⟨name⟩).anatomy.2 = parts ++ [name.toList] ∧
        (base.anatomy.2 = parts ∨ base.anatomy.2 = parts ++ [[]]) := by
  have hrel := isAbsolute_of_slash_notMem hslash
  by_cases hbase : base.text = ""
  · have hsplit : splitSlash (Path.mk name).text.toList = [name.toList] := splitSlash_of_notMem hslash
    have hdot := startsAtDot_eq_false_of_singleton hsplit hname
    rw [join_of_text_eq_empty hbase, anatomy_of_text_eq_empty hbase, anatomy_fst_eq, anatomy_snd_eq,
      hrel, hdot, hsplit]
    exact ⟨rfl, [], rfl, Or.inr rfl⟩
  · obtain ⟨parts, hne, hjoin, hparts⟩ := exists_splitSlash_join hrel hbase
    rw [splitSlash_of_notMem hslash] at hjoin
    rw [anatomy_fst_eq, anatomy_fst_eq base, anatomy_snd_eq, anatomy_snd_eq base,
      isAbsolute_join hrel, startsAtDot_join hrel hbase, hjoin]
    refine ⟨rfl, ?_⟩
    split
    · refine ⟨parts.tail, List.tail_append_of_ne_nil hne, ?_⟩
      rcases hparts with h | h
      · exact Or.inl (congrArg List.tail h)
      · exact Or.inr (by rw [h, List.tail_append_of_ne_nil hne])
    · exact ⟨parts, rfl, hparts⟩

theorem parent?_join_eq_trimmed (base : Path) {name : String} (hslash : '/' ∉ name.toList)
    (hname : isIdlePart name.toList = false) : (base.join ⟨name⟩).parent? = some base.trimmed := by
  obtain ⟨hanchor, parts, hjoin, hbase⟩ := exists_anatomy_join base hslash hname
  have htrim : trimParts base.anatomy.2 = trimParts parts := by
    rcases hbase with h | h
    · rw [h]
    · rw [h, trimParts_concat_of_idle parts rfl]
  rw [parent?_eq, hanchor, hjoin, trimParts_concat_of_step parts hname, if_neg (by simp),
    List.dropLast_concat, trimmed, htrim]

/-! ## Paths that end in no idle part -/

theorem EndsInStep.exists_anatomy {p : Path} (h : p.EndsInStep) :
    ∃ front part, p.anatomy.2 = front ++ [part] ∧ isIdlePart part = false := by
  obtain ⟨parts, part, hsplit, hpart⟩ := h
  rw [anatomy_snd_eq]
  by_cases hparts : parts = []
  · rw [hparts, List.nil_append] at hsplit
    rw [isAbsolute_eq_false_of_singleton hsplit, startsAtDot_eq_false_of_singleton hsplit hpart, hsplit]
    exact ⟨[], part, rfl, hpart⟩
  · rw [hsplit]
    split
    · exact ⟨parts.tail, part, List.tail_append_of_ne_nil hparts, hpart⟩
    · exact ⟨parts, part, rfl, hpart⟩

theorem EndsInStep.trimmed_eq {p : Path} (h : p.EndsInStep) : p.trimmed = p := by
  obtain ⟨front, part, hparts, hpart⟩ := h.exists_anatomy
  rw [trimmed, hparts, trimParts_concat_of_step front hpart, ← hparts, ofAnatomy_anatomy]

theorem endsInStep_ofAnatomy (anchor : Anchor) {front : List (List Char)} {part : List Char}
    (hslash : ∀ other ∈ front ++ [part], '/' ∉ other) (hpart : isIdlePart part = false) :
    (ofAnatomy anchor (front ++ [part])).EndsInStep := by
  have hsplit := splitSlash_joinSlash hslash (by simp)
  cases anchor with
  | root =>
    refine ⟨[] :: front, part, ?_, hpart⟩
    rw [ofAnatomy, String.toList_ofList, splitSlash_slash, hsplit]
    rfl
  | plain =>
    refine ⟨front, part, ?_, hpart⟩
    rw [ofAnatomy, String.toList_ofList, hsplit]
  | current =>
    refine ⟨['.'] :: front, part, ?_, hpart⟩
    have hdot := splitSlash_append ['.'] (joinSlash (front ++ [part]))
    rw [hsplit] at hdot
    rw [ofAnatomy, String.toList_ofList]
    · exact hdot
    · simp

/-- A parent ends in no idle part. -/
theorem trimmed_of_parent? {p q : Path} (h : p.parent? = some q) : q.trimmed = q := by
  have hempty : ∀ anchor, (ofAnatomy anchor []).trimmed = ofAnatomy anchor [] := by
    intro anchor
    cases anchor <;> rfl
  rw [parent?_eq] at h
  split_ifs at h
  · cases h
    exact hempty .plain
  · cases h
    generalize hkept : trimParts (trimParts p.anatomy.2).dropLast = kept
    rcases trimParts_cases (trimParts p.anatomy.2).dropLast with hnil | ⟨front, part, hlast, hpart⟩
    · rw [hkept] at hnil
      rw [hnil]
      exact hempty _
    · rw [hkept] at hlast
      rw [hlast]
      refine (endsInStep_ofAnatomy _ (fun other hother => ?_) hpart).trimmed_eq
      rw [← hlast, ← hkept] at hother
      have hdrop := List.dropLast_subset _ ((trimParts_prefix_self _).subset hother)
      exact slash_notMem_of_mem_anatomy ((trimParts_prefix_self _).subset hdrop)

end Path

end PotCatalog
