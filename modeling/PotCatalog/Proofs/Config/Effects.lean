/-
  Extensions that have an effect.

  The extension of a path is what stands behind the last dot of its last step,
  so it holds neither a dot nor a slash; and every text without these is the
  extension of some path (`exists_extension?_iff`).  A configuration may list
  other texts too, such as `html.j2`, but no path has them as its extension.

  `simple_entries_take_effect`: in a valid configuration every entry without
  dots and slashes gives its kind to the paths that end in it, and the other
  entries could be dropped without changing the kind of any path.
-/
import PotCatalog.Proofs.Config.Extensions
import PotCatalog.Proofs.Scan.Kinds

namespace PotCatalog

/-! ## Extensions of paths -/

/-- A text without dots and slashes. -/
def IsSimple (text : String) : Prop := '.' ∉ text.toList ∧ '/' ∉ text.toList

instance (text : String) : Decidable (IsSimple text) := inferInstanceAs (Decidable (_ ∧ _))

namespace Path

variable {p : Path}

theorem slash_notMem_of_fileName? {name : String} (h : p.fileName? = some name) :
    '/' ∉ name.toList := by
  have hmem : .name name ∈ p.steps := List.mem_of_getLast? (fileName?_eq_some_iff.1 h)
  obtain ⟨inner, hinner, hsteps⟩ := areSteps_steps p
  rcases hsteps with hsteps | hsteps
  · exact (hinner _ (hsteps ▸ hmem)).2
  · rw [hsteps] at hmem
    rcases List.mem_cons.1 hmem with hroot | hmem
    · cases hroot
    · exact (hinner _ hmem).2

theorem extensionOf_eq_some {name extension : List Char}
    (h : extensionOf name = some extension) : '.' ∉ extension ∧ extension ⊆ name := by
  unfold extensionOf at h
  split at h
  · cases h
  · cases h
  · obtain rfl := Option.some.inj h
    constructor
    · intro hdot
      have hne := List.mem_takeWhile_imp (List.mem_reverse.1 hdot)
      simp at hne
    · intro c hc
      exact List.mem_reverse.1 ((List.takeWhile_sublist _).subset (List.mem_reverse.1 hc))

/-- The last dot of a name is in front of its extension. -/
theorem extensionOf_append {stem extension : List Char} (hstem : stem ≠ [])
    (h : '.' ∉ extension) : extensionOf (stem ++ '.' :: extension) = some extension := by
  have hplain : ∀ c ∈ extension.reverse, (c != '.') = true := by
    intro c hc
    exact bne_iff_ne.2 (ne_of_mem_of_not_mem (List.mem_reverse.1 hc) h)
  have hreverse : (stem ++ '.' :: extension).reverse =
      extension.reverse ++ '.' :: stem.reverse := by simp
  obtain ⟨c, cs, hcs⟩ := List.exists_cons_of_ne_nil (mt List.reverse_eq_nil_iff.1 hstem)
  rw [extensionOf, hreverse, List.dropWhile_append_of_pos hplain,
    List.takeWhile_append_of_pos hplain, hcs]
  simp

theorem isSimple_of_extension? {extension : String} (h : p.extension? = some extension) :
    IsSimple extension := by
  obtain ⟨name, hname, h⟩ := Option.bind_eq_some_iff.1 h
  obtain ⟨chars, hchars, rfl⟩ := Option.map_eq_some_iff.1 h
  obtain ⟨hdot, hsubset⟩ := extensionOf_eq_some hchars
  rw [IsSimple, String.toList_ofList]
  exact ⟨hdot, fun hslash => slash_notMem_of_fileName? hname (hsubset hslash)⟩

theorem extension?_of_isSimple {extension : String} (h : IsSimple extension) :
    (Path.mk ("x." ++ extension)).extension? = some extension := by
  have hlist : ("x." ++ extension).toList = ['x'] ++ '.' :: extension.toList := by
    rw [String.toList_append]
    rfl
  have hinner : (Component.name ("x." ++ extension)).IsInner := by
    constructor
    · rw [Component.text, Component.ofPart?, if_neg (by simp [hlist, isIdlePart]),
        if_neg (by simp [hlist]), String.ofList_toList]
    · rw [Component.text, hlist]
      simpa using h.2
  have hname : (Path.mk ("x." ++ extension)).fileName? = some ("x." ++ extension) := by
    rw [fileName?_eq_some_iff, hinner.steps_eq]
    rfl
  rw [extension?, hname, Option.bind_some, hlist, extensionOf_append (by simp) h.1,
    Option.map_some, String.ofList_toList]

/-- **The texts without dots and slashes** are the extensions of paths. -/
theorem exists_extension?_iff {extension : String} :
    (∃ p : Path, p.extension? = some extension) ↔ IsSimple extension :=
  ⟨fun ⟨_, h⟩ => isSimple_of_extension? h, fun h => ⟨_, extension?_of_isSimple h⟩⟩

end Path

/-! ## Entries -/

/-- The entries whose normalized form has no dots and slashes. -/
def simpleEntries (entries : List String) : List String :=
  entries.filter fun entry => IsSimple (normalizeExtension entry)

theorem mem_normalized_simpleEntries_iff {entries : List String} {extension : String}
    (h : IsSimple extension) :
    extension ∈ (simpleEntries entries).map normalizeExtension ↔
      extension ∈ entries.map normalizeExtension := by
  simp only [List.mem_map, simpleEntries, List.mem_filter, decide_eq_true_eq]
  constructor
  · rintro ⟨entry, ⟨hentry, -⟩, heq⟩
    exact ⟨entry, hentry, heq⟩
  · rintro ⟨entry, hentry, rfl⟩
    exact ⟨entry, ⟨hentry, h⟩, rfl⟩

namespace Config

/-- A configuration with its simple entries only. -/
def withSimpleEntries (c : Config) : Config :=
  c.withExtensions (simpleEntries c.templateExtensions) (simpleEntries c.scriptExtensions)

theorem kindFor_withSimpleEntries (c : Config) (p : Path) :
    c.withSimpleEntries.extensionMap.kindFor p = c.extensionMap.kindFor p := by
  rw [ExtensionMap.kindFor, ExtensionMap.kindFor]
  refine Option.bind_congr fun extension h => ?_
  have hsimple := Path.isSimple_of_extension? h
  exact ExtensionMap.kindOf_congr (mem_normalized_simpleEntries_iff hsimple)
    (mem_normalized_simpleEntries_iff hsimple)

/-- **Simple entries take effect.**  In a valid configuration the name `x.` with
    an entry that has no dots and slashes is that of a source of the entry's
    kind.  Entries with dots or slashes are the extension of no path, and
    without them every path has the same kind. -/
theorem simple_entries_take_effect (c : Config) (hvalid : c.validate = .ok ()) :
    (∀ entry ∈ c.templateExtensions, IsSimple (normalizeExtension entry) →
      c.extensionMap.supports ⟨"x." ++ normalizeExtension entry⟩ = true ∧
      c.extensionMap.kindFor ⟨"x." ++ normalizeExtension entry⟩ = some .template) ∧
    (∀ entry ∈ c.scriptExtensions, IsSimple (normalizeExtension entry) →
      c.extensionMap.supports ⟨"x." ++ normalizeExtension entry⟩ = true ∧
      c.extensionMap.kindFor ⟨"x." ++ normalizeExtension entry⟩ = some .script) ∧
    (∀ entry, ¬ IsSimple (normalizeExtension entry) →
      ∀ p : Path, p.extension? ≠ some (normalizeExtension entry)) ∧
    ∀ p, c.withSimpleEntries.extensionMap.kindFor p = c.extensionMap.kindFor p := by
  obtain ⟨-, -, hclear⟩ := validate_eq_ok_iff.1 hvalid
  have htemplate : ∀ entry ∈ c.templateExtensions, IsSimple (normalizeExtension entry) →
      c.extensionMap.kindFor ⟨"x." ++ normalizeExtension entry⟩ = some .template := by
    intro entry hentry hsimple
    exact ExtensionMap.kindFor_eq_template_iff.2
      ⟨_, List.mem_map_of_mem hentry, Path.extension?_of_isSimple hsimple⟩
  have hscript : ∀ entry ∈ c.scriptExtensions, IsSimple (normalizeExtension entry) →
      c.extensionMap.kindFor ⟨"x." ++ normalizeExtension entry⟩ = some .script := by
    intro entry hentry hsimple
    exact (ExtensionMap.kindFor_eq_script_iff hclear).2
      ⟨_, List.mem_map_of_mem hentry, Path.extension?_of_isSimple hsimple⟩
  refine ⟨fun entry hentry hsimple => ?_, fun entry hentry hsimple => ?_, ?_,
    c.kindFor_withSimpleEntries⟩
  · have hkind := htemplate entry hentry hsimple
    exact ⟨by rw [ExtensionMap.supports, hkind]; rfl, hkind⟩
  · have hkind := hscript entry hentry hsimple
    exact ⟨by rw [ExtensionMap.supports, hkind]; rfl, hkind⟩
  · intro entry hcompound p hp
    exact hcompound (Path.isSimple_of_extension? hp)

/-- A configuration with two entries that no path ends in. -/
def compound : Config := ⟨[], [], [" .html", "html.j2"], ["js", "lib/ts"]⟩

/-- Of the entries of `compound`, `html` and `js` have an effect. -/
theorem compound_simple_entries :
    compound.validate = .ok () ∧
      compound.extensionMap.kindFor ⟨"x.html"⟩ = some .template ∧
      compound.extensionMap.kindFor ⟨"x.js"⟩ = some .script ∧
      compound.withSimpleEntries = ⟨[], [], [" .html"], ["js"]⟩ := by
  have hvalid : compound.validate = .ok () := rfl
  obtain ⟨htemplate, hscript, -, -⟩ := simple_entries_take_effect compound hvalid
  exact ⟨hvalid, (htemplate " .html" (by decide) (by decide)).2,
    (hscript "js" (by decide) (by decide)).2, by decide⟩

/-- The name that ends in `html.j2` is not that of a source. -/
theorem compound_entry_idle :
    compound.validate = .ok () ∧ "html.j2" ∈ compound.templateExtensions ∧
      compound.extensionMap.supports ⟨"x." ++ normalizeExtension "html.j2"⟩ = false ∧
      compound.extensionMap.kindFor ⟨"x." ++ normalizeExtension "html.j2"⟩ = none := by
  exact ⟨rfl, by decide, by decide, by decide⟩

end Config

end PotCatalog
