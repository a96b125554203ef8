/-
  Reading lists and objects that were written on several lines.

  `toList_blockText` says what stands between the brackets of a block, item by
  item.  The steps of a reader through a list or an object take exactly these
  pieces: what stands before an item, the item, and what stands before the
  closing bracket.

  * `takes_readTexts`: a list of strings is read up to its own closing bracket;
  * `takes_nextKey`, `takes_readColon`: an object is read key by key.
-/
import PotCatalog.Proofs.Json.Reading

namespace PotCatalog.Json

open Reader

/-! ## Blocks -/

/-- The start of a line: a line break and blanks. -/
def margin (depth : Nat) : List Char := '\n' :: (indent depth).toList

/-- What stands before an item: a comma, unless it is the first one, and the start
    of its line. -/
def lead (isFirst : Bool) (depth : Nat) : List Char :=
  (if isFirst then [] else [',']) ++ margin depth

/-- What stands before the closing bracket: the start of its line, unless there is
    no item. -/
def trail (isFirst : Bool) (depth : Nat) : List Char := if isFirst then [] else margin depth

/-- What stands between the brackets of a block, from an item on. -/
def blockChars (depth : Nat) : Bool → List String → List Char
  | isFirst, [] => trail isFirst depth
  | isFirst, item :: items =>
    lead isFirst (depth + 1) ++ (item.toList ++ blockChars depth false items)

theorem toList_intercalate_items (depth : Nat) (item : String) (items : List String) :
    (",\n".intercalate ((item :: items).map (indent (depth + 1) ++ ·))).toList ++ margin depth =
      (indent (depth + 1)).toList ++ (item.toList ++ blockChars depth false items) := by
  induction items generalizing item with
  | nil => simp [blockChars, trail]
  | cons next items ih =>
    rw [List.map_cons, List.map_cons, String.intercalate_cons_cons, ← List.map_cons,
      String.toList_append, List.append_assoc, ih]
    simp [blockChars, lead, margin]

/-- **A block** is written item by item. -/
theorem toList_blockText (opening closing : String) (depth : Nat) (items : List String) :
    (blockText opening closing depth items).toList =
      opening.toList ++ (blockChars depth true items ++ closing.toList) := by
  cases items with
  | nil => simp [blockText, blockChars, trail]
  | cons item items =>
    have hitems := toList_intercalate_items depth item items
    have hlines : (blockText opening closing depth (item :: items)).toList =
        opening.toList ++ '\n' ::
          ((",\n".intercalate ((item :: items).map (indent (depth + 1) ++ ·))).toList ++
            margin depth) ++ closing.toList := by
      simp [blockText, margin]
    rw [hlines, hitems]
    simp [blockChars, lead, margin]

theorem length_le_blockChars (depth : Nat) (isFirst : Bool) (items : List String) :
    items.length ≤ (blockChars depth isFirst items).length := by
  induction items generalizing isFirst with
  | nil => exact Nat.zero_le _
  | cons item items ih =>
    have hrest := ih false
    simp only [blockChars, lead, margin, List.length_append, List.length_cons]
    omega

/-- The text from the first item on is longer than the number of items. -/
theorem length_lt_fuel {α : Type} (depth : Nat) (write : α → String) (values : List α)
    (closing rest : List Char) :
    values.length < ((blockChars depth true (values.map write) ++ closing) ++ rest).length + 1 := by
  have hle := length_le_blockChars depth true (values.map write)
  simp only [List.length_append, List.length_map] at hle ⊢
  omega

theorem spaces_margin (depth : Nat) : Spaces (margin depth) := by
  intro c hc
  rcases List.mem_cons.1 hc with rfl | hc
  · rfl
  · rw [indent, String.toList_ofList] at hc
    rw [List.eq_of_mem_replicate hc]
    rfl

theorem spaces_trail (isFirst : Bool) (depth : Nat) : Spaces (trail isFirst depth) := by
  cases isFirst with
  | true => exact List.forall_mem_nil _
  | false => exact spaces_margin depth

/-! ## Lists -/

/-- The step to a string of a list. -/
theorem takes_nextItem (isFirst : Bool) (depth : Nat) (text : String) (rest : List Char) :
    Takes (nextItem isFirst) (lead isFirst depth) ((stringText text).toList ++ rest) true := by
  rw [toList_stringText]
  cases isFirst with
  | true => exact .upTo (spaces_margin depth) (by decide) (.pure true _)
  | false =>
    refine .look (takes_peekPastSpace (List.forall_mem_nil _) (by decide) _) (.bump ',' ?_)
    exact .upTo (spaces_margin depth) (by decide) (.pure true _)

theorem takes_nextItem_end (isFirst : Bool) (depth : Nat) (rest : List Char) :
    Takes (nextItem isFirst) (trail isFirst depth) (']' :: rest) false :=
  .upTo (spaces_trail isFirst depth) (by decide) (.pure false _)

theorem takes_readItems {fuel : Nat} {texts : List String} (hfuel : texts.length < fuel)
    (depth : Nat) (isFirst : Bool) (rest : List Char) :
    Takes (readItems readText fuel isFirst) (blockChars depth isFirst (texts.map stringText))
      (']' :: rest) texts := by
  -- one unit of fuel goes to each string and one to the end; only the first string has no comma
  induction texts generalizing fuel isFirst with
  | nil =>
    obtain ⟨fuel, rfl⟩ := Nat.exists_eq_succ_of_ne_zero (by omega : fuel ≠ 0)
    exact .stay (takes_nextItem_end isFirst depth rest) (.pure [] _)
  | cons text texts ih =>
    obtain ⟨fuel, rfl⟩ := Nat.exists_eq_succ_of_ne_zero (by omega : fuel ≠ 0)
    rw [List.length_cons] at hfuel
    have hrest := ih (by omega : texts.length < fuel) false
    have hnext := takes_nextItem isFirst (depth + 1) text
      (blockChars depth false (texts.map stringText) ++ ']' :: rest)
    rw [← List.append_assoc] at hnext
    refine .bind hnext ?_
    exact .bind (takes_readText (List.forall_mem_nil _) text _) (.map (text :: ·) hrest)

/-- **A list of strings reads back**, whatever follows it. -/
theorem takes_readTexts {spaces : List Char} (hspaces : Spaces spaces) (depth : Nat)
    (texts : List String) (rest : List Char) :
    Takes (readList readText) (spaces ++ (stringsText depth texts).toList) rest texts := by
  have hopen := takes_openValue .sequence hspaces (by decide : isSpace '[' = false)
  have hfuel := length_lt_fuel depth stringText texts [']'] rest
  rw [stringsText, listText, toList_blockText, ← List.append_assoc]
  refine .bind (hopen _) (.get fun m => ?_)
  exact .bind (takes_readItems hfuel depth true rest) (.map (fun _ => texts) (takes_bump ']' rest))

/-! ## Objects -/

/-- A member of an object. -/
def memberText (key value : String) : String := stringText key ++ ": " ++ value

/-- An object is a block of its members. -/
theorem toList_objectText {α : Type} (depth : Nat) (key value : α → String) (members : List α) :
    (objectText depth (members.map fun m => (key m, value m))).toList =
      '\x7b' :: (blockChars depth true (members.map fun m => memberText (key m) (value m)) ++
        ['\x7d']) := by
  rw [objectText, List.map_map]
  exact toList_blockText "\x7b" "\x7d" depth _

/-- A member is read in three steps: its key, the colon, and its value behind a
    blank. -/
theorem blockChars_member (depth : Nat) (isFirst : Bool) (key value : String)
    (members : List String) :
    blockChars depth isFirst (memberText key value :: members) =
      (lead isFirst (depth + 1) ++ (stringText key).toList) ++
        ([':'] ++ (([' '] ++ value.toList) ++ blockChars depth false members)) := by
  simp [blockChars, memberText]

theorem spaces_blank : Spaces [' '] := by
  intro c hc
  rw [List.mem_singleton.1 hc]
  rfl

/-- The step to a key of an object. -/
theorem takes_nextKey (isFirst : Bool) (depth : Nat) (key : String) (rest : List Char) :
    Takes (nextKey isFirst) (lead isFirst depth ++ (stringText key).toList) rest (some key) := by
  rw [toList_stringText]
  have hkey := takes_readString key rest
  cases isFirst with
  | true => 
    refine .pastSpace (spaces_margin depth) (by decide) ?_
    exact .bump '"' (.map some hkey)
  | false =>
    refine .look (takes_peekPastSpace (List.forall_mem_nil _) (by decide) _) (.bump ',' ?_)
    refine .pastSpace (spaces_margin depth) (by decide) ?_
    exact .bump '"' (.map some hkey)

theorem takes_nextKey_end (isFirst : Bool) (depth : Nat) (rest : List Char) :
    Takes (nextKey isFirst) (trail isFirst depth) ('\x7d' :: rest) none :=
  .upTo (spaces_trail isFirst depth) (by decide) (.pure none _)

theorem takes_readColon (rest : List Char) : Takes readColon [':'] rest () :=
  .look (takes_peekPastSpace (List.forall_mem_nil _) (by decide) rest) (takes_bump ':' rest)

end PotCatalog.Json
