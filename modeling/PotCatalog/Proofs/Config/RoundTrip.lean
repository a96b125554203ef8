/-
  Configurations read back.

  `parse_text` says what is read from the text of any configuration: every field
  as it was, whatever characters its strings have, and the targets added one
  after the other.  `addTargets_eq_self_iff` says when that changes no target:
  adding keeps outputs distinct, and leaves targets with distinct outputs as they
  are, in their order.  Together they say which configurations read back.
-/
import Mathlib.Data.List.Nodup
import PotCatalog.Config.Read
import PotCatalog.Proofs.Json.Blocks

namespace PotCatalog.Config

open Json Json.Reader

/-! ## Adding targets -/

/-- Adds targets one after the other. -/
def addTargets (before targets : List Target) : List Target := targets.foldl addTarget before

theorem addTarget_of_new {targets : List Target} {new : Target}
    (hnew : new.output ∉ targets.map Target.output) : addTarget targets new = targets ++ [new] := by
  unfold addTarget
  rw [if_neg]
  intro hany
  obtain ⟨t, ht, hsame⟩ := List.any_eq_true.1 hany
  exact hnew (List.mem_map.2 ⟨t, ht, of_decide_eq_true hsame⟩)

/-- Adding a target adds its output, unless it is there. -/
theorem outputs_addTarget (targets : List Target) (new : Target) :
    (addTarget targets new).map Target.output =
      if new.output ∈ targets.map Target.output then targets.map Target.output
      else targets.map Target.output ++ [new.output] := by
  by_cases hthere : new.output ∈ targets.map Target.output
  · obtain ⟨t, ht, hsame⟩ := List.mem_map.1 hthere
    unfold addTarget
    rw [if_pos hthere, if_pos (List.any_eq_true.2 ⟨t, ht, decide_eq_true hsame⟩), List.map_map]
    refine List.map_congr_left fun u _ => ?_
    simp only [Function.comp_apply]
    split <;> simp_all
  · rw [if_neg hthere, addTarget_of_new hthere, List.map_append]
    rfl

theorem addTargets_nodup (before targets : List Target)
    (hbefore : (before.map Target.output).Nodup) :
    ((addTargets before targets).map Target.output).Nodup := by
  induction targets generalizing before with
  | nil => exact hbefore
  | cons t targets ih =>
    refine ih (addTarget before t) ?_
    rw [outputs_addTarget]
    split
    · exact hbefore
    · rename_i hnew
      exact hbefore.append (List.nodup_singleton _) (List.disjoint_singleton.2 hnew)

theorem addTargets_of_distinct {before targets : List Target}
    (hdistinct : ((before ++ targets).map Target.output).Nodup) :
    addTargets before targets = before ++ targets := by
  induction targets generalizing before with
  | nil => exact (List.append_nil before).symm
  | cons t targets ih =>
    have hnew : t.output ∉ before.map Target.output := by
      rw [List.map_append, List.map_cons, List.nodup_middle, List.nodup_cons] at hdistinct
      exact fun h => hdistinct.1 (List.mem_append_left _ h)
    rw [List.append_cons, ← addTarget_of_new hnew] at hdistinct ⊢
    exact ih hdistinct

theorem addTargets_eq_self_iff (targets : List Target) :
    addTargets [] targets = targets ↔ (targets.map Target.output).Nodup := by
  refine ⟨fun h => ?_, fun hdistinct => addTargets_of_distinct hdistinct⟩
  have hnodup := addTargets_nodup [] targets List.nodup_nil
  rwa [h] at hnodup

/-! ## Reading targets -/

/-- A target as it is written. -/
def targetText (t : Target) : String := memberText t.output (stringsText 2 t.sources)

theorem takes_readTargetsFrom {fuel : Nat} {targets : List Target} (hfuel : targets.length < fuel)
    (isFirst : Bool) (before : List Target) (rest : List Char) :
    Takes (readTargetsFrom fuel isFirst before) (blockChars 1 isFirst (targets.map targetText))
      ('}' :: rest) (addTargets before targets) := by
  induction targets generalizing fuel before isFirst with
  | nil =>
    obtain ⟨fuel, rfl⟩ := Nat.exists_eq_succ_of_ne_zero (by omega : fuel ≠ 0)
    exact .stay (takes_nextKey_end isFirst 1 rest) (.pure before _)
  | cons t targets ih =>
    obtain ⟨fuel, rfl⟩ := Nat.exists_eq_succ_of_ne_zero (by omega : fuel ≠ 0)
    have hrest := ih (Nat.lt_of_succ_lt_succ hfuel) false (addTarget before t)
    rw [List.map_cons, targetText, blockChars_member]
    refine .bind (takes_nextKey isFirst 2 t.output _) ?_
    refine .bind (takes_readColon _) ?_
    exact .bind (takes_readTexts spaces_blank 2 t.sources _) hrest

theorem takes_readTargets {spaces : List Char} (hspaces : Spaces spaces) (targets : List Target)
    (rest : List Char) :
    Takes readTargets
      (spaces ++ (objectText 1 (targets.map fun t => (t.output, stringsText 2 t.sources))).toList)
      rest (addTargets [] targets) := by
  have hopen := takes_openValue .map hspaces (by decide : isSpace '{' = false)
  have hfuel := length_lt_fuel 1 targetText targets ['}'] rest
  rw [toList_objectText, List.append_cons]
  refine .bind (hopen _) (.get fun m => ?_)
  exact .bind (takes_readTargetsFrom hfuel true [] rest)
    (.map (fun _ => addTargets [] targets) (takes_bump '}' rest))

/-! ## Reading fields -/

/-- The fields in the order in which they are written. -/
def Field.all : List Field := [.targets, .ignores, .templateExtensions, .scriptExtensions]

/-- The value of a field as it is written. -/
def valueText (c : Config) : Field → String
  | .targets => objectText 1 (c.targets.map fun t => (t.output, stringsText 2 t.sources))
  | .ignores => stringsText 1 c.ignores
  | .templateExtensions => stringsText 1 c.templateExtensions
  | .scriptExtensions => stringsText 1 c.scriptExtensions

/-- Puts the value of a field, as it is read from its text, to those read before. -/
def Fields.put (c : Config) (fields : Fields) : Field → Fields
  | .targets => { fields with targets := some (addTargets [] c.targets) }
  | .ignores => { fields with ignores := some c.ignores }
  | .templateExtensions => { fields with templateExtensions := some c.templateExtensions }
  | .scriptExtensions => { fields with scriptExtensions := some c.scriptExtensions }

theorem Fields.has_empty (field : Field) : Fields.has {} field = false := by
  cases field <;> rfl

theorem Fields.has_put (c : Config) (fields : Fields) (field other : Field) :
    (fields.put c field).has other = (decide (field = other) || fields.has other) := by
  cases field <;> cases other <;> rfl

theorem Field.ofKey?_key (field : Field) : Field.ofKey? field.key = some field := by
  cases field <;> decide

theorem takes_readValue (c : Config) (fields : Fields) (field : Field) (rest : List Char) :
    Takes (fields.readValue field) ([' '] ++ (c.valueText field).toList) rest
      (fields.put c field) := by
  cases field with
  | targets => exact .map _ (takes_readTargets spaces_blank c.targets rest)
  | ignores => exact .map _ (takes_readTexts spaces_blank 1 c.ignores rest)
  | templateExtensions => exact .map _ (takes_readTexts spaces_blank 1 c.templateExtensions rest)
  | scriptExtensions => exact .map _ (takes_readTexts spaces_blank 1 c.scriptExtensions rest)

/-- Distinct fields that were not read before are read one after the other. -/
theorem takes_readMembers (c : Config) {fuel : Nat} {todo : List Field} {fields : Fields}
    (hfuel : todo.length < fuel) (htodo : todo.Nodup)
    (hnew : ∀ field ∈ todo, fields.has field = false) (isFirst : Bool) (rest : List Char) :
    Takes (readMembers fuel isFirst fields)
      (blockChars 0 isFirst (todo.map fun field => memberText field.key (c.valueText field)))
      ('}' :: rest) (todo.foldl (Fields.put c) fields) := by
  -- a field that was read before would be a fault, so the fields still to come stay new
  induction todo generalizing fuel fields isFirst with
  | nil =>
    obtain ⟨fuel, rfl⟩ := Nat.exists_eq_succ_of_ne_zero (by omega : fuel ≠ 0)
    exact .stay (takes_nextKey_end isFirst 0 rest) (.pure fields _)
  | cons field todo ih =>
    obtain ⟨fuel, rfl⟩ := Nat.exists_eq_succ_of_ne_zero (by omega : fuel ≠ 0)
    obtain ⟨hfield, htodo⟩ := List.nodup_cons.1 htodo
    have hnext : ∀ other ∈ todo, (fields.put c field).has other = false := by
      intro other hother
      have hne : field ≠ other := fun h => hfield (h ▸ hother)
      rw [Fields.has_put, hnew other (List.mem_cons_of_mem _ hother), decide_eq_false hne]
      rfl
    have hrest := ih (Nat.lt_of_succ_lt_succ hfuel) htodo hnext false
    rw [List.map_cons, blockChars_member]
    refine .bind (takes_nextKey isFirst 1 field.key _) ?_
    dsimp only
    rw [Field.ofKey?_key]
    dsimp only
    rw [hnew field List.mem_cons_self, if_neg Bool.false_ne_true]
    refine .bind (takes_readColon _) ?_
    exact .bind (takes_readValue c fields field _) hrest

/-! ## Configurations -/

theorem text_eq (c : Config) :
    c.text = objectText 0 (Field.all.map fun field => (field.key, c.valueText field)) := rfl

theorem config_foldl_put (c : Config) :
    (Field.all.foldl (Fields.put c) {}).config = { c with targets := addTargets [] c.targets } :=
  rfl

theorem takes_reader (c : Config) (rest : List Char) :
    Takes reader c.text.toList rest { c with targets := addTargets [] c.targets } := by
  have hmembers := takes_readMembers c
    (length_lt_fuel 0 (fun field => memberText field.key (c.valueText field)) Field.all ['}'] rest)
    (by decide) (fun field _ => Fields.has_empty field) true rest
  rw [text_eq, toList_objectText, ← config_foldl_put]
  refine .look (takes_peekPastSpace (List.forall_mem_nil _) (by decide) _) (.bump '{' ?_)
  refine .get fun m => ?_
  exact .bind hmembers (.map (fun _ => Fields.config _) (takes_bump '}' rest))

/-- **The text of a configuration is read**, with the targets added one after the
    other. -/
theorem parse_text (c : Config) :
    Config.parse c.text = .ok { c with targets := addTargets [] c.targets } :=
  (takes_reader c []).parse

/-- **Configurations read back.**  Exactly the configurations whose targets have
    distinct outputs are read from their text as they were, with the targets in the
    same order. -/
theorem parse_text_eq_self_iff (c : Config) :
    Config.parse c.text = .ok c ↔ (c.targets.map Target.output).Nodup := by
  rw [parse_text, ← addTargets_eq_self_iff]
  constructor
  · intro h
    exact congrArg Config.targets (Except.ok.inj h)
  · intro h
    rw [h]

end PotCatalog.Config
