/-
  Canonical paths.

  The canonical path of a directory is spelled with the names that lead down to
  it from the root.  It leads there, and what a name below the directory leads
  to it leads to below the canonical path (`locate_absolute_join`), as long as
  all directories on the way down can be entered.  They can wherever moves lead
  from a place with that property (`Leads.opensTo`).
-/
import PotCatalog.Proofs.Files.Change
import PotCatalog.Proofs.Files.Parents
import PotCatalog.Proofs.Scan.Descent
import PotCatalog.Proofs.Scan.Opening

namespace PotCatalog

/-! ## The names of a place -/

theorem Node.isInner_of_at? {root node : Node} {names : List String} (hroot : root.isProper = true)
    (h : root.at? names = some node) : ∀ name ∈ names, (Component.name name).IsInner := by
  induction names generalizing root with
  | nil => simp
  | cons name names ih =>
    obtain ⟨child, hchild, hat⟩ := Option.bind_eq_some_iff.1 h
    cases root with
    | file | link => simp [Node.child?] at hchild
    | folder isOpen entries =>
      obtain ⟨hname, hproper⟩ :=
        (Node.isProper_folder_iff.1 hroot).2 name child (Entries.mem_of_find? hchild)
      exact List.forall_mem_cons.2 ⟨hname, ih hproper hat⟩

namespace FileTree

theorem absolute_eq_render (names : List String) :
    absolute names = ⟨Component.render (.root :: names.map .name)⟩ := by
  simp [absolute, Component.render, Component.text, Function.comp_def]

theorem areSteps_absolute {names : List String} (h : ∀ name ∈ names, (Component.name name).IsInner) :
    Component.AreSteps (.root :: names.map .name) := by
  refine ⟨names.map .name, fun c hc => ?_, Or.inr rfl⟩
  obtain ⟨name, hname, rfl⟩ := List.mem_map.1 hc
  exact h name hname

theorem steps_absolute {names : List String} (h : ∀ name ∈ names, (Component.name name).IsInner) :
    (absolute names).steps = .root :: names.map .name := by
  rw [absolute_eq_render, Path.steps_render (areSteps_absolute h)]

theorem trimmed_absolute {names : List String} (h : ∀ name ∈ names, (Component.name name).IsInner) :
    (absolute names).trimmed = absolute names := by
  rcases List.eq_nil_or_concat names with rfl | ⟨front, last, rfl⟩
  · decide
  · have hsteps := areSteps_absolute h
    rw [absolute_eq_render]
    rw [List.concat_eq_append, List.map_append, List.map_singleton, ← List.cons_append] at hsteps ⊢
    exact (Path.endsInStep_render hsteps (by simp)).trimmed_eq

end FileTree

/-! ## Places that can be entered -/

/-- All directories above a place can be entered. -/
def Node.OpensTo (root : Node) (place : List String) : Prop :=
  ∀ above name, above ++ [name] <+: place → ∃ entries, root.at? above = some (.folder true entries)

section
variable {root : Node} {links left : Nat} {here below place names : List String}
variable {entries : Entries} {moves rest : List Move}

namespace Node.OpensTo

theorem nil (root : Node) : root.OpensTo [] := by
  intro above name h
  simp at h

theorem dropLast (h : root.OpensTo here) : root.OpensTo here.dropLast :=
  fun above name habove => h above name (habove.trans (List.dropLast_prefix here))

theorem concat (h : root.OpensTo here) (hhere : root.at? here = some (.folder true entries))
    (name : String) : root.OpensTo (here ++ [name]) := by
  intro above other habove
  rcases List.prefix_concat_iff.1 habove with heq | habove
  · obtain ⟨rfl, -⟩ := List.append_inj' heq rfl
    exact ⟨entries, hhere⟩
  · exact h above other habove

theorem of_prefix (h : root.OpensTo place) (hplace : root.at? place = some (.folder true entries))
    {above : List String} (habove : above <+: place) :
    ∃ entries, root.at? above = some (.folder true entries) := by
  obtain ⟨below, rfl⟩ := habove
  cases below with
  | nil => exact ⟨entries, by rwa [List.append_nil] at hplace⟩
  | cons name below => exact h above name ⟨below, by simp⟩

theorem keep {root' : Node} (h : root.OpensTo place) (hways : root.KeepsWays root') :
    root'.OpensTo place := by
  intro above name habove
  obtain ⟨entries, hat⟩ := h above name habove
  exact hways.folder hat

end Node.OpensTo

/-- Moves only go through directories that can be entered. -/
theorem Leads.opensTo (h : Leads root links here moves names) (hhere : root.OpensTo here) :
    root.OpensTo names := by
  induction h with
  | done => exact hhere
  | slash _ _ ih | stay _ _ ih => exact ih hhere
  | up _ _ ih => exact ih hhere.dropLast
  | free hfolder _ _ => exact hhere.concat hfolder _
  | link _ _ _ ih =>
    apply ih
    split
    · exact .nil _
    · exact hhere
  | down hfolder _ _ _ ih => exact ih (hhere.concat hfolder _)

theorem Leads.mono (h : Leads root left here moves names) (hle : left ≤ links) :
    Leads root links here moves names := by
  induction h generalizing links with
  | done => exact .done
  | slash hhere _ ih => exact .slash hhere (ih hle)
  | stay hhere _ ih => exact .stay hhere (ih hle)
  | up hhere _ ih => exact .up hhere (ih hle)
  | free hhere hfind hrest => exact .free hhere hfind hrest
  | link hhere hfind _ ih =>
    obtain ⟨links, rfl⟩ := Nat.exists_eq_add_of_lt hle
    exact .link hhere hfind (ih (Nat.le_add_right _ _))
  | down hhere hfind hnode _ ih => exact .down hhere hfind hnode (ih hle)

/-- Names lead down to a place through directories that can be entered. -/
theorem leads_down (hopen : root.OpensTo (here ++ below))
    (hplace : root.at? (here ++ below) = some (.folder true entries))
    (h : Leads root links (here ++ below) rest names) :
    Leads root links here (below.map .down ++ rest) names := by
  induction below generalizing here with
  | nil => rwa [List.append_nil] at h
  | cons name below ih =>
    obtain ⟨_, hhere⟩ := hopen.of_prefix hplace (List.prefix_append here (name :: below))
    rw [List.append_cons] at hopen hplace h
    obtain ⟨_, hnext⟩ := hopen.of_prefix hplace (List.prefix_append (here ++ [name]) below)
    rw [Node.at?_concat hhere] at hnext
    exact .down hhere hnext (by simp) (ih hopen hplace h)

end

/-! ## Names below a path -/

section
variable {start : Path} {name : String} (hname : (Component.name name).IsInner)
include hname

theorem Component.IsInner.moveOfPart?_eq : Move.ofPart? name.toList = some (.down name) := by
  have hpart : Component.ofPart? name.toList = some (.name name) := hname.1
  unfold Component.ofPart? at hpart
  split_ifs at hpart with hidle hdots
  · simp at hpart
  · obtain ⟨hempty, hdot⟩ : name.toList.isEmpty = false ∧ name.toList ≠ ['.'] := by
      simpa [isIdlePart] using hidle
    simp [Move.ofPart?, hempty, hdot, hdots]

/-- A name that is joined with a path is one more move. -/
theorem Path.moves_join_name (hstart : start.text ≠ "") :
    (start.join ⟨name⟩).moves = start.written.filterMap Move.ofPart? ++ [.down name] := by
  have hslash : '/' ∉ name.toList := hname.2
  have hne : name.toList ≠ [] := by
    intro hempty
    have hpart := hname.moveOfPart?_eq
    simp [Move.ofPart?, hempty] at hpart
  have hwritten : (Path.mk name).written = [name.toList] := by
    rw [written, hname.splitSlash_eq]
    simp [hne]
  have hends : (start.join ⟨name⟩).endsInSlash = false := by
    have hlast : name.toList.getLast? ≠ some '/' := fun h => hslash (List.mem_of_getLast? h)
    rw [endsInSlash_join hstart hname.isAbsolute_eq]
    simpa [endsInSlash, hlast] using hne
  rw [moves_eq_written, hends, written_join hname.isAbsolute_eq, hwritten, List.filterMap_append]
  simp [hname.moveOfPart?_eq]

end

namespace FileTree

variable {t t' : FileTree} {start : Path} {place names : List String} {name : String}

/-- All directories above the one that a path starts at can be entered.  For an
    absolute path there are none; for a relative one it is what the canonical path
    leads through above the working directory. -/
def OpensStart (t : FileTree) (p : Path) : Prop :=
  t.root.OpensTo (if p.isAbsolute then [] else t.workingDir)

theorem OpensStart.keep (h : t.OpensStart start) (hdir : t'.workingDir = t.workingDir)
    (hways : t.root.KeepsWays t'.root) : t'.OpensStart start := by
  rw [OpensStart, hdir]
  exact Node.OpensTo.keep h hways

theorem OpensStart.opensTo (h : t.OpensStart start) (hplace : t.locate .inspect start = .ok place) :
    t.root.OpensTo place := by
  have hleads := (locate_eq_ok_iff.1 hplace).2
  simp only [← Path.isAbsolute_iff_root_mem_steps] at hleads
  exact hleads.opensTo h

/-- The place to which the parts of a path lead is the place of the path, if it
    is a directory that can be entered. -/
theorem locate_of_passes {left : Nat} {entries : List (String × Node)}
    (hstart : start.text ≠ "")
    (hpass : Passes t.root maxLinks (if start.isAbsolute then [] else t.workingDir)
      (start.written.filterMap Move.ofPart?) left place)
    (hplace : t.root.at? place = some (.folder true entries)) :
    t.locate .inspect start = .ok place := by
  have hslashed := hpass .inspect (by decide) [.slash] (List.cons_ne_nil _ _)
  rw [follow_eq_ok_iff.2 (.slash hplace .done), follow_eq_ok_iff] at hslashed
  rw [locate_eq_ok_iff, Path.moves_eq_written]
  simp only [← Path.isAbsolute_iff_root_mem_steps]
  refine ⟨hstart, ?_⟩
  by_cases hslash : start.endsInSlash = true
  · rw [if_pos hslash]
    exact hslashed
  · rw [if_neg hslash, List.append_nil]
    exact hslashed.drop_slash

theorem canonical_of_locate {node : Node} (h : t.locate .inspect start = .ok place)
    (hplace : t.root.at? place = some node) : t.canonical start = .ok (absolute place) := by
  rw [canonical, h]
  simp [bind, Except.bind, hplace, pure, Except.pure]

/-- Something can only be reached through a directory that can be entered. -/
theorem exists_place_of_join (hname : (Component.name name).IsInner) (hstart : start.text ≠ "")
    (h : t.locate .inspect (start.join ⟨name⟩) = .ok names) (hnode : (t.root.at? names).isSome) :
    ∃ place entries, t.locate .inspect start = .ok place ∧
      t.root.at? place = some (.folder true entries) ∧
      Leads t.root maxLinks place [.down name] names := by
  have hleads := (locate_eq_ok_iff.1 h).2
  simp only [← Path.isAbsolute_iff_root_mem_steps, Path.isAbsolute_join hname.isAbsolute_eq,
    Path.moves_join_name hname hstart] at hleads
  -- the last move starts at a directory, and that is where the start leads
  obtain ⟨left, hleft, place, hpass, hrest⟩ := hleads.exists_passes hnode
  obtain ⟨entries, hplace⟩ := hrest.exists_open (by simp)
  exact ⟨place, entries, locate_of_passes hstart hpass hplace, hplace, hrest.mono hleft⟩

/-- **A name below a canonical path** leads where it leads from the directory. -/
theorem locate_absolute_join (hplace : ∀ n ∈ place, (Component.name n).IsInner)
    (hname : (Component.name name).IsInner) (hopen : t.root.OpensTo place)
    (h : Leads t.root maxLinks place [.down name] names) :
    t.locate .inspect ((absolute place).join ⟨name⟩) = .ok names := by
  obtain ⟨entries, hat⟩ := h.exists_open (by simp)
  have hdown : Leads t.root maxLinks [] (place.map .down ++ [.down name]) names :=
    leads_down hopen hat h
  have hmoves : (.root :: place.map .name ++ [.name name] : List Component).filterMap
      Component.move? = place.map .down ++ [.down name] := by
    rw [List.cons_append, List.filterMap_cons_none rfl, List.filterMap_append, List.filterMap_map,
      show Component.move? ∘ Component.name = some ∘ Move.down from rfl, List.filterMap_eq_map]
    rfl
  refine Reaches.locate ?_ hname.endsInStep.join
  rw [Path.steps_join hname.isAbsolute_eq, hname.steps_eq, steps_absolute hplace, Reaches, hmoves,
    if_pos (List.mem_append_left _ (List.mem_cons_self ..))]
  exact hdown

theorem trimmed_of_canonical (ht : t.WellFormed) {p : Path} (h : t.canonical start = .ok p) :
    p.trimmed = p := by
  obtain ⟨names, -, h⟩ := bind_eq_ok.1 h
  split at h
  case isTrue hat =>
    obtain ⟨node, hnode⟩ := Option.isSome_iff_exists.1 hat
    cases h
    exact trimmed_absolute (Node.isInner_of_at? ht.isProper hnode)
  case isFalse => cases h

end FileTree

end PotCatalog
