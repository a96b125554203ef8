/-
  Values of strings and the texts they are.

  A value is a list of code points, in which a pair of surrogates stands for
  one character.  `CodePoints.text?_eq_some_iff`: a value is a text exactly if
  both have the same units in UTF-16, so half of a pair is never part of a text.
-/
import PotCatalog.Script.Token

namespace PotCatalog.Script.CodePoints

/-- The units of a number in UTF-16: two for a code point that does not fit
    into one. -/
def units (n : Nat) : List Nat :=
  if 0x10000 ≤ n ∧ n ≤ 0x10FFFF then
    [0xD800 + (n - 0x10000) / 0x400, 0xDC00 + (n - 0x10000) % 0x400]
  else [n]

/-- A value is a text: both have the same units. -/
def Spells (value : CodePoints) (text : String) : Prop :=
  value.flatMap units = (text.toList.map Char.toNat).flatMap units

/-! ## Pairs -/

/-- Whether two units stand for one character. -/
def IsPair (high low : Nat) : Prop :=
  0xD800 ≤ high ∧ high < 0xDC00 ∧ 0xDC00 ≤ low ∧ low < 0xE000

theorem joinSurrogates_of_not_isPair {high low : Nat} (h : ¬ IsPair high low) :
    joinSurrogates high low = none := by
  rw [joinSurrogates, if_neg]
  simpa [IsPair, and_assoc] using h

theorem IsPair.exists_join {high low : Nat} (h : IsPair high low) :
    ∃ c, joinSurrogates high low = some c ∧
      c.toNat = 0x10000 + (high - 0xD800) * 0x400 + (low - 0xDC00) := by
  have hjoin : joinSurrogates high low =
      some (Char.ofNat (0x10000 + (high - 0xD800) * 0x400 + (low - 0xDC00))) := by
    rw [joinSurrogates, if_pos]
    simpa [IsPair, and_assoc] using h
  refine ⟨_, hjoin, ?_⟩
  have hvalid : (0x10000 + (high - 0xD800) * 0x400 + (low - 0xDC00)).isValidChar := by
    obtain ⟨h1, h2, h3, h4⟩ := h
    refine Or.inr ⟨?_, ?_⟩ <;> omega
  rw [Char.ofNat, dif_pos hvalid]
  rfl

theorem isPair_of_join {high low : Nat} {c : Char} (h : joinSurrogates high low = some c) :
    IsPair high low ∧ c.toNat = 0x10000 + (high - 0xD800) * 0x400 + (low - 0xDC00) := by
  have hpair : IsPair high low := Classical.byContradiction fun hnot => by
    rw [joinSurrogates_of_not_isPair hnot] at h
    cases h
  obtain ⟨d, hd, hnat⟩ := hpair.exists_join
  obtain rfl := Option.some.inj (h.symm.trans hd)
  exact ⟨hpair, hnat⟩

theorem IsPair.lt {high low : Nat} (h : IsPair high low) : high < 0x10000 ∧ low < 0x10000 := by
  obtain ⟨h1, h2, h3, h4⟩ := h
  omega

theorem units_of_lt {n : Nat} (h : n < 0x10000) : units n = [n] := if_neg (by omega)

theorem IsPair.units_eq {high low : Nat} (h : IsPair high low) :
    units (0x10000 + (high - 0xD800) * 0x400 + (low - 0xDC00)) = [high, low] := by
  obtain ⟨h1, h2, h3, h4⟩ := h
  rw [units, if_pos (by omega)]
  simp only [List.cons.injEq, and_true]
  constructor <;> omega

/-- A number takes two units that are a pair, or is one unit itself. -/
theorem units_cases (n : Nat) :
    units n = [n] ∨ ∃ high low, units n = [high, low] ∧ IsPair high low ∧
      n = 0x10000 + (high - 0xD800) * 0x400 + (low - 0xDC00) := by
  by_cases h : 0x10000 ≤ n ∧ n ≤ 0x10FFFF
  · refine Or.inr ⟨_, _, if_pos h, ?_, ?_⟩
    · rw [IsPair]
      omega
    · omega
  · exact Or.inl (if_neg h)

/-! ## Joining -/

theorem joined_pair {high low : Nat} (h : IsPair high low) (rest : CodePoints) :
    joined (high :: low :: rest) =
      (0x10000 + (high - 0xD800) * 0x400 + (low - 0xDC00)) :: joined rest := by
  obtain ⟨c, hjoin, hc⟩ := h.exists_join
  rw [joined, hjoin, ← hc]

/-- A number that forms no pair with what follows it stays what it is. -/
theorem joined_cons {n : Nat} {rest : CodePoints} (h : ∀ low ∈ rest.head?, ¬ IsPair n low) :
    joined (n :: rest) = n :: joined rest := by
  cases rest with
  | nil => rfl
  | cons low rest => rw [joined, joinSurrogates_of_not_isPair (h low rfl)]

theorem flatMap_units_joined (value : CodePoints) :
    value.joined.flatMap units = value.flatMap units := by
  fun_induction joined value with
  | case1 high low rest c hjoin ih =>
    obtain ⟨hpair, hc⟩ := isPair_of_join hjoin
    obtain ⟨hhigh, hlow⟩ := hpair.lt
    rw [List.flatMap_cons, ih, hc, hpair.units_eq, List.flatMap_cons, List.flatMap_cons,
      units_of_lt hhigh, units_of_lt hlow]
    rfl
  | case2 high low rest hjoin ih => rw [List.flatMap_cons, ih, ← List.flatMap_cons]
  | case3 => rfl

theorem head?_flatMap_units {n : Nat} {value : CodePoints}
    (h : ∀ low ∈ value.head?, ¬ IsPair n low) : ∀ low ∈ (value.flatMap units).head?, ¬ IsPair n low := by
  cases value with
  | nil => exact h
  | cons first rest =>
    rw [List.flatMap_cons]
    rcases units_cases first with hunits | ⟨high, low, hunits, hpair, -⟩
    · rw [hunits]
      exact h
    · -- the first unit of a pair never ends one
      rw [hunits]
      rintro _ ⟨⟩ hn
      have hhigh := hpair.2.1
      have hlow := hn.2.2.1
      omega

theorem joined_units_append (n : Nat) {rest : CodePoints} (h : ∀ low ∈ rest.head?, ¬ IsPair n low) :
    joined (units n ++ rest) = n :: joined rest := by
  rcases units_cases n with hunits | ⟨high, low, hunits, hpair, hn⟩
  · rw [hunits]
    exact joined_cons h
  · rw [hunits, hn]
    exact joined_pair hpair rest

/-- Joining looks at the units only. -/
theorem joined_flatMap_units (value : CodePoints) : joined (value.flatMap units) = value.joined := by
  fun_induction joined value with
  | case1 high low rest c hjoin ih =>
    obtain ⟨hpair, hc⟩ := isPair_of_join hjoin
    obtain ⟨hhigh, hlow⟩ := hpair.lt
    rw [List.flatMap_cons, List.flatMap_cons, units_of_lt hhigh, units_of_lt hlow, hc, ← ih]
    exact joined_pair hpair _
  | case2 high low rest hjoin ih =>
    have hnot : ∀ other ∈ (low :: rest).head?, ¬ IsPair high other := by
      rintro _ ⟨⟩ hpair
      obtain ⟨c, hsome, -⟩ := hpair.exists_join
      rw [hjoin] at hsome
      cases hsome
    rw [List.flatMap_cons, joined_units_append high (head?_flatMap_units hnot), ih]
  | case3 value hshort =>
    match value, hshort with
    | [], _ => rfl
    | [n], _ => exact joined_units_append n nofun
    | high :: low :: rest, hshort => exact absurd rfl (hshort high low rest)

/-! ## Texts -/

theorem joined_toNat (cs : List Char) : joined (cs.map Char.toNat) = cs.map Char.toNat := by
  induction cs with
  | nil => rfl
  | cons c cs ih =>
    rw [List.map_cons, joined_cons, ih]
    intro low _ hpair
    -- no character is a surrogate
    have hvalid : c.toNat < 0xD800 ∨ 0xDFFF < c.toNat ∧ c.toNat < 0x110000 := c.valid
    obtain ⟨h1, h2, -⟩ := hpair
    omega

theorem character?_eq_some_iff {n : Nat} {c : Char} : character? n = some c ↔ n = c.toNat := by
  unfold character?
  constructor
  · intro h
    split at h
    · rename_i hvalid
      rw [← Option.some.inj h, Char.ofNat, dif_pos hvalid]
      rfl
    · cases h
  · rintro rfl
    have hvalid : c.toNat.isValidChar := c.valid
    rw [if_pos hvalid, Char.ofNat_toNat]

theorem mapM_character?_eq_some_iff {value : CodePoints} {cs : List Char} :
    value.mapM character? = some cs ↔ value = cs.map Char.toNat := by
  induction value generalizing cs with
  | nil => cases cs <;> simp
  | cons n value ih =>
    cases cs with
    | nil => simp [List.mapM_cons, Option.bind_eq_some_iff]
    | cons c cs => simp [List.mapM_cons, Option.bind_eq_some_iff, character?_eq_some_iff, ih]

theorem text?_eq_some_iff_joined {value : CodePoints} {text : String} :
    value.text? = some text ↔ value.joined = text.toList.map Char.toNat := by
  rw [text?, Option.map_eq_some_iff]
  simp only [mapM_character?_eq_some_iff]
  constructor
  · rintro ⟨cs, hcs, rfl⟩
    rw [hcs, String.toList_ofList]
  · intro h
    exact ⟨text.toList, h, String.ofList_toList⟩

/-- **A value has a text exactly if it spells it.** -/
theorem text?_eq_some_iff {value : CodePoints} {text : String} :
    value.text? = some text ↔ value.Spells text := by
  rw [text?_eq_some_iff_joined, Spells]
  constructor
  · intro h
    rw [← flatMap_units_joined, h]
  · intro h
    rw [← joined_flatMap_units, h, joined_flatMap_units, joined_toNat]

end PotCatalog.Script.CodePoints
