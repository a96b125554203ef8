/-
  What a scan makes of its sources.

  A scan finds out what each source stands for and then lists the files, each
  once: `scanSources_result` says so without the notices in between, and
  `Scan.files_gather` that the files of a scan are those of its sources, in
  their order and without those that were listed before.
-/
import Mathlib.Data.List.Forall2
import PotCatalog.Proofs.Scan.Sources

namespace PotCatalog

/-! ## Listing each file once -/

namespace Scan

variable (known files more : List String)

theorem addFiles_append : addFiles known (files ++ more) = addFiles (addFiles known files) more := by
  induction files generalizing known with
  | nil => rfl
  | cons file rest ih => exact ih _

/-- Files that are added stand behind those that are known, in their order. -/
theorem exists_addFiles : ∃ new, addFiles known files = known ++ new ∧ new.Sublist files := by
  induction files generalizing known with
  | nil => exact ⟨[], (List.append_nil _).symm, .slnil⟩
  | cons file rest ih =>
    rw [addFiles]
    split
    · obtain ⟨new, hnew, hsub⟩ := ih known
      exact ⟨new, hnew, hsub.cons file⟩
    · obtain ⟨new, hnew, hsub⟩ := ih (known ++ [file])
      exact ⟨file :: new, by rw [hnew, List.append_assoc]; rfl, hsub.cons_cons file⟩

theorem mem_addFiles_iff {f : String} : f ∈ addFiles known files ↔ f ∈ known ∨ f ∈ files := by
  induction files generalizing known with
  | nil => simp [addFiles]
  | cons file rest ih =>
    rw [addFiles, ih, List.mem_cons]
    split
    · rename_i hknown
      constructor
      · rintro (h | h)
        · exact Or.inl h
        · exact Or.inr (Or.inr h)
      · rintro (h | rfl | h)
        · exact Or.inl h
        · exact Or.inl hknown
        · exact Or.inr h
    · rw [List.mem_append, List.mem_singleton, or_assoc]

/-- A scan with what some sources stand for. -/
def gather (scan : Scan) (founds : List Found) : Scan := founds.foldl add scan

theorem gather_append (scan : Scan) (founds others : List Found) :
    scan.gather (founds ++ others) = (scan.gather founds).gather others :=
  List.foldl_append

theorem files_gather (scan : Scan) (founds : List Found) :
    (scan.gather founds).files = addFiles scan.files (founds.flatMap Found.files) := by
  induction founds generalizing scan with
  | nil => rfl
  | cons found founds ih =>
    rw [List.flatMap_cons, addFiles_append]
    exact ih (scan.add found)

theorem skipped_gather (scan : Scan) (founds : List Found) :
    (scan.gather founds).skipped =
      scan.skipped + (founds.flatMap Found.notices).countP Notice.isSkip := by
  induction founds generalizing scan with
  | nil => rfl
  | cons found founds ih =>
    rw [List.flatMap_cons, List.countP_append, ← Nat.add_assoc]
    exact ih (scan.add found)

end Scan

/-! ## Results of scans -/

theorem Logged.result_bind {α β : Type} (x : Logged α) (f : α → Logged β) :
    (x >>= f).result = x.result >>= fun a => (f a).result := by
  show (Logged.andThen x f).result = _
  rw [Logged.andThen]
  cases x.result <;> rfl

theorem mapM_eq_ok_iff {ε α β : Type} {f : α → Except ε β} {l : List α} {r : List β} :
    l.mapM f = .ok r ↔ List.Forall₂ (fun a b => f a = .ok b) l r := by
  induction l generalizing r with
  | nil => cases r <;> simp [pure, Except.pure]
  | cons a l ih =>
    rw [List.mapM_cons, bind_eq_ok, List.forall₂_cons_left_iff]
    refine exists_congr fun b => ⟨?_, ?_⟩
    · rintro ⟨hb, h⟩
      obtain ⟨others, hothers, h⟩ := bind_eq_ok.1 h
      cases h
      exact ⟨others, hb, ih.1 hothers, rfl⟩
    · rintro ⟨others, hb, hothers, rfl⟩
      exact ⟨hb, bind_eq_ok.2 ⟨others, ih.2 hothers, rfl⟩⟩

theorem exists_mapM_eq_ok {ε α β : Type} {f : α → Except ε β} {l : List α}
    (h : ∀ a ∈ l, ∃ b, f a = .ok b) : ∃ r, l.mapM f = .ok r := by
  induction l with
  | nil => exact ⟨[], rfl⟩
  | cons a l ih =>
    obtain ⟨⟨b, hb⟩, h⟩ := List.forall_mem_cons.1 h
    obtain ⟨others, hothers⟩ := ih h
    exact ⟨b :: others, mapM_eq_ok_iff.2 (.cons hb (mapM_eq_ok_iff.1 hothers))⟩

theorem exists_of_forall₂ {α β : Type} {R : α → β → Prop} {l : List α} {r : List β}
    (h : List.Forall₂ R l r) {a : α} (ha : a ∈ l) : ∃ b ∈ r, R a b := by
  induction h with
  | nil => simp at ha
  | cons hab _ ih =>
    rcases List.mem_cons.1 ha with rfl | ha
    · exact ⟨_, List.mem_cons_self .., hab⟩
    · obtain ⟨b, hb, hR⟩ := ih ha
      exact ⟨b, List.mem_cons_of_mem _ hb, hR⟩

theorem Scanner.scanFrom_result (s : Scanner) (verbose : Bool) (scan : Scan)
    (sources : List String) :
    (s.scanFrom verbose scan sources).result = (sources.mapM s.ofSource).map scan.gather := by
  induction sources generalizing scan with
  | nil => rfl
  | cons source rest ih =>
    rw [scanFrom, Logged.result_bind, List.mapM_cons]
    show (s.ofSource source >>= _) = _
    cases s.ofSource source with
    | error e => rfl
    | ok found =>
      show (s.scanFrom verbose (scan.add found) rest).result = _
      rw [ih]
      show _ = Except.map _ (Except.bind (rest.mapM s.ofSource) _)
      cases rest.mapM s.ofSource <;> rfl

/-- **The result of a scan**: what its ignores say is read first, then what each
    source stands for; the files are listed at the end. -/
theorem scanSources_result (t : FileTree) (base : Path) (sources ignores : List String)
    (extensions : ExtensionMap) (verbose : Bool) :
    (scanSources t base sources ignores extensions verbose).result =
      (readIgnores ignores).bind fun patterns =>
        (sources.mapM (Scanner.ofSource ⟨t, base, patterns, extensions⟩)).map
          (Scan.gather ⟨[], 0⟩) := by
  rw [scanSources, Logged.result_bind]
  show (readIgnores ignores).bind _ = _
  congr 1
  funext patterns
  exact Scanner.scanFrom_result _ verbose _ sources

end PotCatalog
