/-
  What a scan finds.

  `FileTree.Finds` says to which paths a source leads: the file it names, the
  files below the directory it names, and for a pattern its matches and the
  files below those.  Every file that a scan lists is the name of such a path
  (`exists_finds_of_mem_files`).
-/
import PotCatalog.Scan
import PotCatalog.Proofs.Scan.Expansion

namespace PotCatalog

/-- A source leads to a path, from a base directory. -/
inductive FileTree.Finds (t : FileTree) (base : Path) (source : String) : Path → Prop where
  | named (hsource : Glob.isPattern source = false)
      (hfile : t.isFile (base.join ⟨source⟩) = true) : Finds t base source (base.join ⟨source⟩)
  | walked {p} (hsource : Glob.isPattern source = false)
      (hfolder : t.isFolder (base.join ⟨source⟩) = true)
      (hwalk : .file p ∈ t.walk (base.join ⟨source⟩)) : Finds t base source p
  | matched {pattern p} (hsource : Glob.isPattern source = true)
      (hparse : Glob.PathPattern.parse (base.join ⟨source⟩).text = .ok pattern)
      (hmatch : .path p ∈ pattern.expand t) (hfolder : t.isFolder p = false) :
      Finds t base source p
  /-- A file below a directory that a pattern matches. -/
  | walkedMatch {pattern folder p} (hsource : Glob.isPattern source = true)
      (hparse : Glob.PathPattern.parse (base.join ⟨source⟩).text = .ok pattern)
      (hmatch : .path folder ∈ pattern.expand t) (hfolder : t.isFolder folder = true)
      (hwalk : .file p ∈ t.walk folder) : Finds t base source p

namespace Scanner

variable {s : Scanner} {source f : String} {p : Path} {found : Found}

theorem exists_walk_of_mem_ofFolder (h : f ∈ (s.ofFolder p).files) :
    ∃ q, .file q ∈ s.tree.walk p ∧ f = s.nameOf q := by
  obtain ⟨part, hpart, hf⟩ := List.mem_flatMap.1 h
  obtain ⟨visit, hvisit, rfl⟩ := List.mem_map.1 hpart
  cases visit with
  | blocked q => simp [ofVisit, Found.notice] at hf
  | file q =>
    rw [ofVisit] at hf
    split at hf
    · exact ⟨q, hvisit, List.mem_singleton.1 hf⟩
    · simp [Found.nothing] at hf

theorem exists_finds_of_mem_ofPath (h : s.ofPath (s.base.join ⟨source⟩) = .ok found)
    (hsource : Glob.isPattern source = false) (hf : f ∈ found.files) :
    ∃ p, s.tree.Finds s.base source p ∧ f = s.nameOf p := by
  rw [ofPath] at h
  split at h
  case isTrue hfolder =>
    cases h
    obtain ⟨p, hwalk, hname⟩ := exists_walk_of_mem_ofFolder hf
    exact ⟨p, .walked hsource hfolder hwalk, hname⟩
  case isFalse =>
    split at h
    case isTrue hfile =>
      cases h
      exact ⟨_, .named hsource hfile, List.mem_singleton.1 hf⟩
    case isFalse => cases h

theorem exists_finds_of_mem_ofPattern (h : s.ofPattern source = .ok found)
    (hsource : Glob.isPattern source = true) (hf : f ∈ found.files) :
    ∃ p, s.tree.Finds s.base source p ∧ f = s.nameOf p := by
  obtain ⟨pattern, hpattern, h⟩ := bind_eq_ok.1 h
  have hparse : Glob.PathPattern.parse (s.base.join ⟨source⟩).text = .ok pattern := by
    cases hp : Glob.PathPattern.parse (s.base.join ⟨source⟩).text with
    | error fault => simp [hp, Except.mapError] at hpattern
    | ok parsed => simpa [hp, Except.mapError] using hpattern
  cases h
  obtain ⟨part, hpart, hf⟩ := List.mem_flatMap.1 hf
  rcases List.mem_append.1 hpart with hpart | hpart
  · obtain ⟨hit, hhit, rfl⟩ := List.mem_map.1 hpart
    cases hit with
    | unreadable q error => simp [ofHit, Found.notice] at hf
    | path q =>
      rw [ofHit] at hf
      split at hf
      case isTrue hfolder =>
        obtain ⟨p, hwalk, hname⟩ := exists_walk_of_mem_ofFolder hf
        exact ⟨p, .walkedMatch hsource hparse hhit hfolder hwalk, hname⟩
      case isFalse hfolder =>
        split at hf
        · simp [Found.nothing] at hf
        · exact ⟨q, .matched hsource hparse hhit (by simpa using hfolder), List.mem_singleton.1 hf⟩
  · split at hpart
    · simp at hpart
    · simp [List.mem_singleton.1 hpart, Found.notice] at hf

theorem exists_finds_of_mem_ofSource (h : s.ofSource source = .ok found) (hf : f ∈ found.files) :
    ∃ p, s.tree.Finds s.base source p ∧ f = s.nameOf p := by
  rw [ofSource] at h
  split at h
  case isTrue hsource => exact exists_finds_of_mem_ofPattern h hsource hf
  case isFalse hsource => exact exists_finds_of_mem_ofPath h (by simpa using hsource) hf

end Scanner

/-! ## All sources -/

theorem Logged.bind_result_eq_ok {α β : Type} {x : Logged α} {f : α → Logged β} {b : β} :
    (x >>= f).result = .ok b ↔ ∃ a, x.result = .ok a ∧ (f a).result = .ok b := by
  show (Logged.andThen x f).result = .ok b ↔ _
  rw [Logged.andThen]
  cases x.result <;> simp

theorem Scan.mem_addFiles {known files : List String} {f : String}
    (h : f ∈ Scan.addFiles known files) : f ∈ known ∨ f ∈ files := by
  induction files generalizing known with
  | nil => exact Or.inl h
  | cons file rest ih =>
    rcases ih h with h | h
    · split at h
      · exact Or.inl h
      · rcases List.mem_append.1 h with h | h
        · exact Or.inl h
        · exact Or.inr (by simp [List.mem_singleton.1 h])
    · exact Or.inr (List.mem_cons_of_mem _ h)

theorem Scanner.mem_files_of_scanFrom {s : Scanner} {verbose : Bool} {scan final : Scan}
    {sources : List String} {f : String}
    (h : (s.scanFrom verbose scan sources).result = .ok final) (hf : f ∈ final.files) :
    f ∈ scan.files ∨
      ∃ source ∈ sources, ∃ found, s.ofSource source = .ok found ∧ f ∈ found.files := by
  induction sources generalizing scan with
  | nil =>
    cases h
    exact Or.inl hf
  | cons source rest ih =>
    obtain ⟨found, hfound, h⟩ := Logged.bind_result_eq_ok.1 h
    obtain ⟨-, -, h⟩ := Logged.bind_result_eq_ok.1 h
    rcases ih h with hscan | ⟨other, hmem, hother⟩
    · rcases Scan.mem_addFiles hscan with hscan | hfile
      · exact Or.inl hscan
      · exact Or.inr ⟨source, List.mem_cons_self .., found, hfound, hfile⟩
    · exact Or.inr ⟨other, List.mem_cons_of_mem _ hmem, hother⟩

/-- **Every file of a scan is the name of a path that a source leads to.** -/
theorem exists_finds_of_mem_files {t : FileTree} {base : Path} {sources ignores : List String}
    {extensions : ExtensionMap} {verbose : Bool} {scan : Scan} {f : String}
    (h : (scanSources t base sources ignores extensions verbose).result = .ok scan)
    (hf : f ∈ scan.files) :
    ∃ source ∈ sources, ∃ p, t.Finds base source p ∧ f = displayPath base p := by
  obtain ⟨patterns, -, h⟩ := Logged.bind_result_eq_ok.1 h
  rcases Scanner.mem_files_of_scanFrom h hf with hnone | ⟨source, hmem, found, hfound, hfile⟩
  · simp at hnone
  · exact ⟨source, hmem, Scanner.exists_finds_of_mem_ofSource hfound hfile⟩

end PotCatalog
