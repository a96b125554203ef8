/-
  The kinds of sources in a valid configuration.

  Of the extensions of a valid configuration none is empty and none stands for
  two kinds (`Config.validate_eq_ok_iff`).  Hence the order in which the lists
  are searched does not matter (`ExtensionMap.kindOfScriptsFirst_eq`), nor does
  the spelling of an extension (`Respelling.mem_normalized_iff`).

  `kindFor_of_validate`: the kind of a path is that of the list which holds its
  extension, however this is spelled there.
-/
import Mathlib.Data.List.TakeWhile
import PotCatalog.Config.Validate
import PotCatalog.Proofs.Scan.Gathering

namespace PotCatalog

/-! ## Spellings -/

theorem trimEnd_append_of_blank (cs : List Char) {blanks : List Char}
    (h : ∀ c ∈ blanks, isBlank c = true) : trimEnd (cs ++ blanks) = trimEnd cs := by
  rw [trimEnd, trimEnd, List.reverse_append, List.dropWhile_append_of_pos]
  simpa using h

theorem trimEnd_append_of_not_blank {front : List Char} (cs : List Char)
    (h : ∀ c ∈ front, isBlank c = false) : trimEnd (front ++ cs) = front ++ trimEnd cs := by
  have hfront : front.reverse.dropWhile isBlank = front.reverse := by
    rw [List.dropWhile_eq_self_iff]
    intro hlength
    simp [h]
  rw [trimEnd, trimEnd, List.reverse_append, List.dropWhile_append, hfront]
  split
  case isTrue hnone => simp [List.isEmpty_iff.1 hnone]
  case isFalse => simp

theorem trim_surround {before after : List Char} (cs : List Char)
    (hbefore : ∀ c ∈ before, isBlank c = true) (hafter : ∀ c ∈ after, isBlank c = true) :
    trim (before ++ cs ++ after) = trim cs := by
  rw [trim, trim, List.append_assoc, List.dropWhile_append_of_pos hbefore, List.dropWhile_append]
  split
  case isTrue hnone =>
    rw [List.isEmpty_iff.1 hnone, List.dropWhile_eq_nil_iff.2 hafter]
  case isFalse => rw [trimEnd_append_of_blank _ hafter]

theorem trim_of_head? {cs : List Char} (h : ∀ c, cs.head? = some c → isBlank c = false) :
    trim cs = trimEnd cs := by
  cases cs with
  | nil => rfl
  | cons c cs => rw [trim, List.dropWhile_cons_of_neg (by simp [h c rfl])]

theorem normalizeExtension_surround {before after : String} (e : String)
    (hbefore : ∀ c ∈ before.toList, isBlank c = true)
    (hafter : ∀ c ∈ after.toList, isBlank c = true) :
    normalizeExtension (before ++ e ++ after) = normalizeExtension e := by
  rw [normalizeExtension, normalizeExtension, String.toList_append, String.toList_append,
    trim_surround _ hbefore hafter]

theorem normalizeExtension_dots {dots e : String} (hdots : ∀ c ∈ dots.toList, c = '.')
    (he : ∀ c, e.toList.head? = some c → isBlank c = false) :
    normalizeExtension (dots ++ e) = normalizeExtension e := by
  have hblank : ∀ c ∈ dots.toList, isBlank c = false := by
    intro c hc
    rw [hdots c hc]
    decide
  have hhead : ∀ c, (dots ++ e).toList.head? = some c → isBlank c = false := by
    intro c hc
    rw [String.toList_append] at hc
    cases hlist : dots.toList with
    | nil =>
      rw [hlist] at hc
      exact he c hc
    | cons d ds =>
      rw [hlist] at hc
      cases hc
      exact hblank c (hlist ▸ List.mem_cons_self ..)
  rw [normalizeExtension, normalizeExtension, trim_of_head? hhead, trim_of_head? he,
    String.toList_append, trimEnd_append_of_not_blank _ hblank, List.dropWhile_append_of_pos]
  intro c hc
  rw [hdots c hc]
  rfl

/-- The same extensions, in another order, more often or in another spelling. -/
inductive Respelling : List String → List String → Prop where
  | reordered {l l'} (h : l.Perm l') : Respelling l l'
  | repeated {l e} (h : e ∈ l) : Respelling l (e :: l)
  /-- Blanks around an extension. -/
  | surrounded {l before e after} (hbefore : ∀ c ∈ before.toList, isBlank c = true)
      (hafter : ∀ c ∈ after.toList, isBlank c = true) :
      Respelling (e :: l) ((before ++ e ++ after) :: l)
  /-- Dots before an extension that does not begin with a blank. -/
  | dotted {l dots e} (hdots : ∀ c ∈ dots.toList, c = '.')
      (he : ∀ c, e.toList.head? = some c → isBlank c = false) :
      Respelling (e :: l) ((dots ++ e) :: l)
  | trans {l l' l''} (h : Respelling l l') (h' : Respelling l' l'') : Respelling l l''

theorem Respelling.mem_normalized_iff {l l' : List String} (h : Respelling l l') (e : String) :
    e ∈ l'.map normalizeExtension ↔ e ∈ l.map normalizeExtension := by
  induction h with
  | reordered h => exact (h.map normalizeExtension).mem_iff.symm
  | repeated h =>
    have hmem := List.mem_map_of_mem (f := normalizeExtension) h
    rw [List.map_cons, List.mem_cons, or_iff_right_of_imp]
    rintro rfl
    exact hmem
  | surrounded hbefore hafter =>
    rw [List.map_cons, List.map_cons, normalizeExtension_surround _ hbefore hafter]
  | dotted hdots he => rw [List.map_cons, List.map_cons, normalizeExtension_dots hdots he]
  | trans _ _ ih ih' => exact ih'.trans ih

/-! ## Clear extensions -/

namespace ExtensionMap

/-- No extension is empty or stands for two kinds. -/
structure IsClear (m : ExtensionMap) : Prop where
  template : "" ∉ m.template
  script : "" ∉ m.script
  disjoint : ∀ e ∈ m.template, e ∉ m.script

/-- The kind of an extension if scripts came first. -/
def kindOfScriptsFirst (m : ExtensionMap) (extension : String) : Option SourceKind :=
  if extension ∈ m.script then some .script
  else if extension ∈ m.template then some .template
  else none

variable {m m' : ExtensionMap} {e : String} {p : Path}

theorem kindOf_eq_template_iff : m.kindOf e = some .template ↔ e ∈ m.template := by
  rw [kindOf]
  split_ifs <;> simp_all

theorem kindOf_eq_script_iff (h : m.IsClear) : m.kindOf e = some .script ↔ e ∈ m.script := by
  rw [kindOf]
  split
  case isTrue htemplate => simp [h.disjoint e htemplate]
  case isFalse => split <;> simp_all

theorem kindOfScriptsFirst_eq (h : m.IsClear) : m.kindOfScriptsFirst e = m.kindOf e := by
  rw [kindOfScriptsFirst]
  split
  case isTrue hscript => exact ((kindOf_eq_script_iff h).2 hscript).symm
  case isFalse hscript => rw [kindOf, if_neg hscript]

theorem kindOf_empty (h : m.IsClear) : m.kindOf "" = none := by
  rw [kindOf, if_neg h.template, if_neg h.script]

/-- Only the members of the two lists count. -/
theorem kindOf_congr (htemplate : e ∈ m.template ↔ e ∈ m'.template)
    (hscript : e ∈ m.script ↔ e ∈ m'.script) : m.kindOf e = m'.kindOf e := by
  simp only [kindOf, htemplate, hscript]

theorem kindFor_eq_template_iff :
    m.kindFor p = some .template ↔ ∃ e ∈ m.template, p.extension? = some e := by
  rw [kindFor, Option.bind_eq_some_iff]
  simp only [kindOf_eq_template_iff, and_comm]

theorem kindFor_eq_script_iff (h : m.IsClear) :
    m.kindFor p = some .script ↔ ∃ e ∈ m.script, p.extension? = some e := by
  rw [kindFor, Option.bind_eq_some_iff]
  simp only [kindOf_eq_script_iff h, and_comm]

theorem supports_eq_false_iff : m.supports p = false ↔ m.kindFor p = none := by
  rw [supports, Option.isSome_eq_false_iff, Option.isNone_iff_eq_none]

end ExtensionMap

/-! ## Valid configurations -/

theorem forM_eq_ok_iff {ε α : Type} {f : α → Except ε Unit} {l : List α} :
    l.forM f = .ok () ↔ ∀ a ∈ l, f a = .ok () := by
  induction l with
  | nil => exact iff_of_true rfl (by simp)
  | cons a l ih =>
    rw [List.forall_mem_cons, ← ih]
    show (f a >>= fun _ => l.forM f) = .ok () ↔ _
    rw [bind_eq_ok]
    constructor
    · rintro ⟨⟨⟩, ha, hl⟩
      exact ⟨ha, hl⟩
    · rintro ⟨ha, hl⟩
      exact ⟨(), ha, hl⟩

namespace Config

variable {c : Config} {templates scripts : List String}

theorem checkTemplateExtension_eq_ok_iff {text : String} :
    checkTemplateExtension scripts text = .ok () ↔
      normalizeExtension text ≠ "" ∧ normalizeExtension text ∉ scripts.map normalizeExtension := by
  unfold checkTemplateExtension
  dsimp only
  split_ifs <;> simp_all

theorem checkScriptExtensions_eq_ok_iff :
    checkScriptExtensions scripts = .ok () ↔ "" ∉ scripts.map normalizeExtension := by
  rw [checkScriptExtensions]
  split_ifs <;> simp_all

/-- **Validation** reads the ignores, checks the targets, and makes sure that
    the extensions are clear. -/
theorem validate_eq_ok_iff :
    c.validate = .ok () ↔
      (∃ patterns, readIgnores c.ignores = .ok patterns) ∧
        (∀ target ∈ c.targets, checkTarget target = .ok ()) ∧ c.extensionMap.IsClear := by
  have hclear : c.extensionMap.IsClear ↔
      (∀ text ∈ c.templateExtensions,
        checkTemplateExtension c.scriptExtensions text = .ok ()) ∧
      checkScriptExtensions c.scriptExtensions = .ok () := by
    simp only [checkTemplateExtension_eq_ok_iff, checkScriptExtensions_eq_ok_iff]
    constructor
    · intro h
      refine ⟨fun text htext => ?_, h.script⟩
      have hmem := List.mem_map_of_mem (f := normalizeExtension) htext
      exact ⟨fun hempty => h.template (hempty ▸ hmem), h.disjoint _ hmem⟩
    · rintro ⟨htemplate, hscript⟩
      refine ⟨fun hmem => ?_, hscript, fun e he => ?_⟩
      · obtain ⟨text, htext, hempty⟩ := List.mem_map.1 hmem
        exact (htemplate text htext).1 hempty
      · obtain ⟨text, htext, rfl⟩ := List.mem_map.1 he
        exact (htemplate text htext).2
  rw [hclear, ← forM_eq_ok_iff, ← forM_eq_ok_iff, validate, bind_eq_ok]
  constructor
  · rintro ⟨patterns, hignores, h⟩
    obtain ⟨⟨⟩, htargets, h⟩ := bind_eq_ok.1 h
    obtain ⟨⟨⟩, htemplates, hscripts⟩ := bind_eq_ok.1 h
    exact ⟨⟨patterns, hignores⟩, htargets, htemplates, hscripts⟩
  · rintro ⟨⟨patterns, hignores⟩, htargets, htemplates, hscripts⟩
    refine ⟨patterns, hignores, bind_eq_ok.2 ⟨(), htargets, ?_⟩⟩
    exact bind_eq_ok.2 ⟨(), htemplates, hscripts⟩

/-- A configuration with other extensions. -/
def withExtensions (c : Config) (templates scripts : List String) : Config :=
  { c with templateExtensions := templates, scriptExtensions := scripts }

/-- Respelled extensions stand for the same kinds. -/
theorem kindOf_withExtensions (htemplates : Respelling c.templateExtensions templates)
    (hscripts : Respelling c.scriptExtensions scripts) (e : String) :
    (c.withExtensions templates scripts).extensionMap.kindOf e = c.extensionMap.kindOf e :=
  ExtensionMap.kindOf_congr (htemplates.mem_normalized_iff e) (hscripts.mem_normalized_iff e)

theorem isClear_withExtensions (h : c.extensionMap.IsClear)
    (htemplates : Respelling c.templateExtensions templates)
    (hscripts : Respelling c.scriptExtensions scripts) :
    (c.withExtensions templates scripts).extensionMap.IsClear where
  template := mt (htemplates.mem_normalized_iff "").1 h.template
  script := mt (hscripts.mem_normalized_iff "").1 h.script
  disjoint e he := mt (hscripts.mem_normalized_iff e).1
    (h.disjoint e ((htemplates.mem_normalized_iff e).1 he))

theorem validate_withExtensions (h : c.validate = .ok ())
    (htemplates : Respelling c.templateExtensions templates)
    (hscripts : Respelling c.scriptExtensions scripts) :
    (c.withExtensions templates scripts).validate = .ok () := by
  obtain ⟨hignores, htargets, hclear⟩ := validate_eq_ok_iff.1 h
  exact validate_eq_ok_iff.2 ⟨hignores, htargets, isClear_withExtensions hclear htemplates hscripts⟩

/-- **A valid configuration classifies paths without ambiguity.**  A path is a
    template exactly if its extension is that of an entry for templates, and a
    script exactly if it is that of an entry for scripts; never are both the
    case, so the lists can be searched in either order.  No path without an
    extension, or with an empty one, is supported.  Respelling the entries
    keeps the configuration valid and changes no kind. -/
theorem kindFor_of_validate (c : Config) (hvalid : c.validate = .ok ()) :
    (∀ p : Path,
      (c.extensionMap.kindFor p = some .template ↔
        ∃ e ∈ c.templateExtensions, p.extension? = some (normalizeExtension e)) ∧
      (c.extensionMap.kindFor p = some .script ↔
        ∃ e ∈ c.scriptExtensions, p.extension? = some (normalizeExtension e)) ∧
      ¬ ((∃ e ∈ c.templateExtensions, p.extension? = some (normalizeExtension e)) ∧
        ∃ e ∈ c.scriptExtensions, p.extension? = some (normalizeExtension e)) ∧
      p.extension?.bind c.extensionMap.kindOfScriptsFirst = c.extensionMap.kindFor p ∧
      (p.extension? = none ∨ p.extension? = some "" → c.extensionMap.supports p = false)) ∧
    ∀ templates scripts, Respelling c.templateExtensions templates →
      Respelling c.scriptExtensions scripts →
      (c.withExtensions templates scripts).validate = .ok () ∧
        ∀ p, (c.withExtensions templates scripts).extensionMap.kindFor p =
          c.extensionMap.kindFor p := by
  obtain ⟨-, -, hclear⟩ := validate_eq_ok_iff.1 hvalid
  refine ⟨fun p => ?_, fun templates scripts htemplates hscripts => ⟨?_, fun p => ?_⟩⟩
  · have htemplate : c.extensionMap.kindFor p = some .template ↔
        ∃ e ∈ c.templateExtensions, p.extension? = some (normalizeExtension e) := by
      rw [ExtensionMap.kindFor_eq_template_iff]
      simp only [extensionMap, ExtensionMap.ofLists, List.mem_map, exists_exists_and_eq_and]
    have hscript : c.extensionMap.kindFor p = some .script ↔
        ∃ e ∈ c.scriptExtensions, p.extension? = some (normalizeExtension e) := by
      rw [ExtensionMap.kindFor_eq_script_iff hclear]
      simp only [extensionMap, ExtensionMap.ofLists, List.mem_map, exists_exists_and_eq_and]
    refine ⟨htemplate, hscript, ?_, ?_, ?_⟩
    · rintro ⟨ht, hs⟩
      cases (htemplate.2 ht).symm.trans (hscript.2 hs)
    · rw [ExtensionMap.kindFor]
      exact congrArg p.extension?.bind (funext fun e => ExtensionMap.kindOfScriptsFirst_eq hclear)
    · rw [ExtensionMap.supports_eq_false_iff, ExtensionMap.kindFor]
      rintro (hnone | hempty)
      · rw [hnone, Option.bind_none]
      · rw [hempty, Option.bind_some, ExtensionMap.kindOf_empty hclear]
  · exact validate_withExtensions hvalid htemplates hscripts
  · rw [ExtensionMap.kindFor, ExtensionMap.kindFor]
    exact congrArg p.extension?.bind (funext (kindOf_withExtensions htemplates hscripts))

/-- A configuration with blanks around an extension and dots before others. -/
def spelled : Config := ⟨[], [], [" .html\n", "njk"], ["js", "..mjs"]⟩

/-- Further dots before `js` change nothing. -/
theorem spelled_kindFor :
    spelled.validate = .ok () ∧ Respelling ["js", "..mjs"] ["...js", "..mjs"] ∧
      spelled.extensionMap.kindFor ⟨"a.html"⟩ = some .template ∧
      (spelled.withExtensions [" .html\n", "njk"] ["...js", "..mjs"]).extensionMap.kindFor ⟨"b/c.js"⟩ =
        some .script := by
  have hvalid : spelled.validate = .ok () := rfl
  have hdots : Respelling ["js", "..mjs"] ["...js", "..mjs"] := by
    have hdotted : Respelling ["js", "..mjs"] ["..." ++ "js", "..mjs"] :=
      .dotted (by simp) (by simp [isBlank])
    exact hdotted
  obtain ⟨hkinds, hrespelled⟩ := kindFor_of_validate spelled hvalid
  obtain ⟨-, hkept⟩ := hrespelled _ _ (.reordered (.refl _)) hdots
  refine ⟨hvalid, hdots, (hkinds ⟨"a.html"⟩).1.2 ⟨" .html\n", by decide, by decide⟩, ?_⟩
  exact (hkept _).trans ((hkinds ⟨"b/c.js"⟩).2.1.2 ⟨"js", by decide, by decide⟩)

end Config

end PotCatalog
