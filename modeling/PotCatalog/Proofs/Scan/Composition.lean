/-
  Scans of some sources and then of others.

  A scan knows the files that it has listed.  Files that are added to known ones
  are those of a scan that starts afresh, without the known ones
  (`Scan.addFiles_eq_append`), so a scan that goes on and a scan of its own find
  the same.

  `scanSources_composes`: a scan of two lists of sources is made of the scans of
  each list, and lists no file twice.
-/
import PotCatalog.Proofs.Scan.Gathering

namespace PotCatalog

namespace Scan

/-! ## Known files -/

variable (known listed files : List String)

/-- One more file does to a list behind known files what it does to the list
    alone, except that a known file is left out. -/
theorem addFile_behind (file : String) :
    (if file ∈ known ++ listed.filter (· ∉ known) then known ++ listed.filter (· ∉ known)
      else known ++ listed.filter (· ∉ known) ++ [file]) =
      known ++ (if file ∈ listed then listed else listed ++ [file]).filter (· ∉ known) := by
  by_cases hknown : file ∈ known
  · by_cases hlisted : file ∈ listed <;> simp [hknown, hlisted]
  · by_cases hlisted : file ∈ listed <;> simp [hknown, hlisted]

theorem addFiles_behind :
    addFiles (known ++ listed.filter (· ∉ known)) files =
      known ++ (addFiles listed files).filter (· ∉ known) := by
  induction files generalizing listed with
  | nil => rfl
  | cons file rest ih => rw [addFiles, addFile_behind, ih, addFiles]

/-- Files that are added to known ones are those of a list that starts afresh,
    without the known ones. -/
theorem addFiles_eq_append :
    addFiles known files = known ++ (addFiles [] files).filter (· ∉ known) := by
  have h := addFiles_behind known [] files
  rwa [List.filter_nil, List.append_nil] at h

theorem addFiles_nodup (h : known.Nodup) : (addFiles known files).Nodup := by
  induction files generalizing known with
  | nil => exact h
  | cons file rest ih =>
    rw [addFiles]
    split
    case isTrue => exact ih known h
    case isFalse hnew =>
      refine ih _ (List.nodup_append.2 ⟨h, List.nodup_cons.2 ⟨List.not_mem_nil, .nil⟩, ?_⟩)
      rintro other hother last hlast rfl
      exact hnew (List.mem_singleton.1 hlast ▸ hother)

/-! ## Two scans in a row -/

/-- What two scans find together: the files of the first, and behind them those
    of the second that the first did not find. -/
def followedBy (first second : Scan) : Scan :=
  ⟨first.files ++ second.files.filter (· ∉ first.files), first.skipped + second.skipped⟩

/-- To go on with a scan is to scan the rest afresh and to leave out what was
    listed before. -/
theorem gather_eq_followedBy (scan : Scan) (founds : List Found) :
    scan.gather founds = scan.followedBy (gather ⟨[], 0⟩ founds) :=
  calc scan.gather founds
      = ⟨(scan.gather founds).files, (scan.gather founds).skipped⟩ := rfl
    _ = scan.followedBy (gather ⟨[], 0⟩ founds) := by
        rw [followedBy, files_gather, skipped_gather, files_gather, skipped_gather,
          addFiles_eq_append, Nat.zero_add]

theorem gather_nodup (founds : List Found) : (gather ⟨[], 0⟩ founds).files.Nodup := by
  rw [files_gather]
  exact addFiles_nodup [] _ .nil

end Scan

section
variable (t : FileTree) (base : Path) (ignores : List String) (extensions : ExtensionMap)
variable (verbose : Bool) (s₁ s₂ : List String)

/-- A scan goes on from what the first sources yield; the first error ends it. -/
theorem scanSources_append :
    (scanSources t base (s₁ ++ s₂) ignores extensions verbose).result = (do
      let first ← (scanSources t base s₁ ignores extensions verbose).result
      let second ← (scanSources t base s₂ ignores extensions verbose).result
      return first.followedBy second) := by
  rw [scanSources_result, scanSources_result, scanSources_result]
  cases readIgnores ignores with
  | error e => rfl
  | ok patterns =>
    simp only [Except.bind, List.mapM_append]
    cases s₁.mapM (Scanner.ofSource ⟨t, base, patterns, extensions⟩) with
    | error e => rfl
    | ok firsts =>
      cases s₂.mapM (Scanner.ofSource ⟨t, base, patterns, extensions⟩) with
      | error e => rfl
      | ok seconds =>
        show Except.ok (Scan.gather ⟨[], 0⟩ (firsts ++ seconds)) = .ok _
        rw [Scan.gather_append, Scan.gather_eq_followedBy]

theorem scanSources_nodup {scan : Scan}
    (h : (scanSources t base s₁ ignores extensions verbose).result = .ok scan) :
    scan.files.Nodup := by
  rw [scanSources_result] at h
  obtain ⟨patterns, -, h⟩ := bind_eq_ok.1 h
  cases hfounds : s₁.mapM (Scanner.ofSource ⟨t, base, patterns, extensions⟩) with
  | error e => simp [hfounds, Except.map] at h
  | ok founds =>
    rw [hfounds] at h
    cases h
    exact Scan.gather_nodup founds

/-- **Scanning is compositional.**  A scan of two lists of sources succeeds if
    and only if both lists can be scanned.  It then lists the files of the first
    scan and behind them, in their order, the files of the second that the first
    does not list, and skips what both skip.  If it fails, it fails as the first
    list does, or else as the second.  No file is listed twice. -/
theorem scanSources_composes :
    (∀ both, (scanSources t base (s₁ ++ s₂) ignores extensions verbose).result = .ok both ↔
      ∃ first second,
        (scanSources t base s₁ ignores extensions verbose).result = .ok first ∧
        (scanSources t base s₂ ignores extensions verbose).result = .ok second ∧
        both.files = first.files ++ second.files.filter (· ∉ first.files) ∧
        both.skipped = first.skipped + second.skipped) ∧
    (∀ e, (scanSources t base (s₁ ++ s₂) ignores extensions verbose).result = .error e ↔
      (scanSources t base s₁ ignores extensions verbose).result = .error e ∨
        (∃ first, (scanSources t base s₁ ignores extensions verbose).result = .ok first) ∧
          (scanSources t base s₂ ignores extensions verbose).result = .error e) ∧
    ∀ both, (scanSources t base (s₁ ++ s₂) ignores extensions verbose).result = .ok both →
      both.files.Nodup := by
  refine ⟨fun both => ?_, fun e => ?_, fun both => scanSources_nodup t base ignores extensions verbose _⟩
  · rw [scanSources_append, bind_eq_ok]
    refine exists_congr fun first => ?_
    rw [bind_eq_ok, exists_and_left]
    refine and_congr_right fun _ => exists_congr fun second => and_congr_right fun _ => ?_
    constructor
    · intro h
      cases h
      exact ⟨rfl, rfl⟩
    · rintro ⟨hfiles, hskipped⟩
      show Except.ok (first.followedBy second) = .ok both
      rw [Scan.followedBy, ← hfiles, ← hskipped]
  · rw [scanSources_append]
    cases (scanSources t base s₁ ignores extensions verbose).result with
    | error e' => simp [bind, Except.bind]
    | ok first =>
      cases (scanSources t base s₂ ignores extensions verbose).result with
      | error e' => simp [bind, Except.bind]
      | ok second => simp [bind, Except.bind, pure, Except.pure]

end

end PotCatalog
