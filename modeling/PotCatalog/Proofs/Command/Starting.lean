/-
  Making a configuration file.

  A run that makes a configuration file creates that one file or changes
  nothing (`runInit_cases`), and once there is a configuration file, further
  runs fail and leave it as it is (`inits_of_exists`).

  `init_creates_usable_config`: what was created is the configuration that holds
  for the directory it was made in, whatever configurations and repositories are
  above it, if the directories above the working directory can be entered.  Below
  one that cannot, the file is not found again
  (`init_below_closed_or_through_link`).
-/
import PotCatalog.Command.Init
import PotCatalog.Proofs.Config.Discovery
import PotCatalog.Proofs.Config.Extensions
import PotCatalog.Proofs.Config.RoundTrip

namespace PotCatalog

/-- The path of the configuration file in a directory. -/
abbrev configPath (folder : Path) : Path := folder.join ⟨configFileName⟩

/-! ## Creating one file -/

namespace FileTree

/-- A change that creates a file with a text, to which a path leads from then on.
    All other places stay as they are. -/
structure Creates (t : FileTree) (p : Path) (names : List String) (text : String)
    (t' : FileTree) : Prop extends t.Sets p names (.ofText text) t' where
  free : t.root.at? names = none

variable {t t' : FileTree} {p root : Path} {place names : List String} {text : String}

/-- Setting a file adds no directories and no links. -/
theorem Sets.keepsWays_back (h : t.Sets p names (.ofText text) t') : t'.root.KeepsWays t.root := by
  refine Node.keepsWays_of_other (fun node hnode => ?_) fun place hplace => (h.other place hplace).symm
  rw [h.after] at hnode
  cases hnode
  rfl

/-- What leads to a place after a file was set led there before, if something stood
    there. -/
theorem Sets.locate_before {q : Path} {node : Node} (h : t.Sets p names (.ofText text) t')
    (hq : t'.locate .inspect q = .ok place) (hafter : (t'.root.at? place).isSome)
    (hbefore : t.root.at? place = some node) (hlink : ∀ target, node ≠ .link target) :
    t.locate .inspect q = .ok place :=
  locate_keep h.workingDir.symm h.keepsWays_back hq hafter hbefore hlink

theorem write_creates (hfree : t.pathExists p = false) (h : t.write p text.toUTF8 = .ok t') :
    ∃ names, t.Creates p names text t' := by
  obtain ⟨names, hsets⟩ := write_sets h
  refine ⟨names, hsets, ?_⟩
  cases hat : t.root.at? names with
  | none => rfl
  | some node =>
    -- what the path leads to afterwards it would have led to before
    have hfile := hsets.before node hat
    have hlocate := Sets.locate_before hsets hsets.leads (by rw [hsets.after]; rfl) hat
      (by rintro target rfl; simp [Node.isFile] at hfile)
    have hexists := pathExists_iff.2 ⟨names, hlocate, by rw [hat]; rfl⟩
    rw [hfree] at hexists
    cases hexists

theorem Creates.keeps_files (h : t.Creates p names text t') {content : ByteArray}
    (hat : t.root.at? place = some (.file content)) : t'.root.at? place = some (.file content) := by
  have hplace : place ≠ names := by
    rintro rfl
    rw [h.free] at hat
    cases hat
  rw [← Node.faceAt?_eq_some_iff rfl] at hat ⊢
  rw [h.other place hplace, hat]

theorem Creates.pathExists (h : t.Creates p names text t') : t'.pathExists p = true :=
  pathExists_iff.2 ⟨names, h.leads, by rw [h.after]; rfl⟩

/-- The directory in which a file is created stands where it stood before. -/
theorem Creates.exists_place {name : String} (hname : (Component.name name).IsInner)
    (hroot : root.text ≠ "") (h : t.Creates (root.join ⟨name⟩) names text t') :
    ∃ place entries, t.root.at? place = some (.folder true entries) ∧
      t.locate .inspect root = .ok place ∧ t'.locate .inspect root = .ok place ∧
      (t'.root.at? place).isSome ∧ Leads t'.root maxLinks place [.down name] names := by
  obtain ⟨place, entries, hplace, hat, hrest⟩ :=
    exists_place_of_join hname hroot h.leads (by rw [h.after]; rfl)
  have hsome : (t'.root.at? place).isSome := by rw [hat]; rfl
  obtain ⟨entries', hat'⟩ := h.keepsWays_back.folder hat
  exact ⟨place, entries', hat', h.locate_before hplace hsome hat' (by simp), hplace, hsome, hrest⟩

/-- A file that is created in a directory stands in the directory where a search
    starts, which is the same as before. -/
theorem Creates.stands_at_start {name : String} (ht : t.WellFormed) (hopen : t.OpensStart root)
    (hname : (Component.name name).IsInner) (h : t.Creates (root.join ⟨name⟩) names text t') :
    searchStart t' root = searchStart t root ∧
      (root.text ≠ "" → t.canonical root = .ok (searchStart t root)) ∧
      (searchStart t root).trimmed = searchStart t root ∧
      t'.locate .inspect ((searchStart t root).join ⟨name⟩) = .ok names := by
  by_cases hroot : root.text = ""
  · obtain ⟨text⟩ := root
    cases hroot
    exact ⟨rfl, fun hne => absurd rfl hne, rfl, h.leads⟩
  · obtain ⟨place, entries, hat, hbefore, hplace, hsome, hrest⟩ := h.exists_place hname hroot
    obtain ⟨node, hat'⟩ := Option.isSome_iff_exists.1 hsome
    have hcanonical := canonical_of_locate hbefore hat
    have hstart : searchStart t root = absolute place := by
      rw [searchStart, hcanonical]
    have hstart' : searchStart t' root = absolute place := by
      rw [searchStart, canonical_of_locate hplace hat']
    have hinner := Node.isInner_of_at? ht.isProper hat
    have hopen' := (hopen.keep h.workingDir h.keepsWays).opensTo hplace
    rw [hstart, hstart']
    exact ⟨rfl, fun _ => hcanonical, trimmed_absolute hinner,
      locate_absolute_join hinner hname hopen' hrest⟩

end FileTree

/-! ## Runs -/

section
variable {t t' : FileTree} {options : InitOptions}

theorem runInit_of_exists (h : t.pathExists (configPath options.root) = true) :
    (runInit t options).tree = t ∧ (runInit t options).status = .failure := by
  simp only [runInit, h, if_true, and_self]

theorem runInit_of_error {e : SystemError} (hfree : t.pathExists (configPath options.root) = false)
    (h : t.write (configPath options.root) Config.starter.text.toUTF8 = .error e) :
    (runInit t options).tree = t ∧ (runInit t options).status = .aborted := by
  simp only [runInit, hfree, h, Bool.false_eq_true, if_false, Outcome.aborted, and_self]

theorem runInit_of_ok (hfree : t.pathExists (configPath options.root) = false)
    (h : t.write (configPath options.root) Config.starter.text.toUTF8 = .ok t') :
    (runInit t options).tree = t' ∧ (runInit t options).status = .success := by
  simp only [runInit, hfree, h, Bool.false_eq_true, if_false, and_self]

/-- A run creates a configuration file or leaves the tree as it is. -/
theorem runInit_cases (t : FileTree) (options : InitOptions) :
    (runInit t options).tree = t ∨
      ∃ names, t.Creates (configPath options.root) names Config.starter.text
        (runInit t options).tree := by
  cases hexists : t.pathExists (configPath options.root) with
  | true => exact .inl (runInit_of_exists hexists).1
  | false =>
    cases hwrite : t.write (configPath options.root) Config.starter.text.toUTF8 with
    | error e => exact .inl (runInit_of_error hexists hwrite).1
    | ok written =>
      rw [(runInit_of_ok hexists hwrite).1]
      exact .inr (FileTree.write_creates hexists hwrite)

theorem runInit_keeps_files (t : FileTree) (options : InitOptions) {place : List String}
    {content : ByteArray} (hat : t.root.at? place = some (.file content)) :
    (runInit t options).tree.root.at? place = some (.file content) := by
  rcases runInit_cases t options with hsame | ⟨names, hcreates⟩
  · rwa [hsame]
  · exact hcreates.keeps_files hat

end

/-- Runs one after the other, each on the tree that the one before left behind. -/
def inits (t : FileTree) : List InitOptions → List Outcome
  | [] => []
  | options :: rest => runInit t options :: inits (runInit t options).tree rest

/-- Once there is a configuration file, all further runs fail and change
    nothing. -/
theorem inits_of_exists {t : FileTree} {root : Path} {more : List InitOptions}
    (h : t.pathExists (configPath root) = true) (hmore : ∀ again ∈ more, again.root = root) :
    ∀ later ∈ inits t more, later.tree = t ∧ later.status = .failure := by
  induction more with
  | nil => simp [inits]
  | cons again more ih =>
    obtain ⟨rfl, hmore⟩ := List.forall_mem_cons.1 hmore
    obtain ⟨htree, hstatus⟩ := runInit_of_exists h
    rw [inits, htree]
    exact List.forall_mem_cons.2 ⟨⟨htree, hstatus⟩, ih hmore⟩

/-! ## The configuration that was made -/

theorem Config.parse_starter : Config.parse Config.starter.text = .ok Config.starter :=
  (Config.parse_text_eq_self_iff Config.starter).2 (List.nodup_singleton _)

theorem Config.validate_starter : Config.starter.validate = .ok () := by
  refine Config.validate_eq_ok_iff.2 ⟨?_, by decide, ⟨by decide, by decide, by decide⟩⟩
  obtain ⟨pattern, hpattern⟩ : ∃ p, Glob.Pattern.parse "**/node_modules/**" = .ok p := by
    simp [Glob.Pattern.parse, Glob.readTokens]
  refine ⟨[pattern], ?_⟩
  rw [readIgnores, Config.starter, List.mapM_cons, hpattern]
  rfl

/-- A configuration holds for a root: it is loaded from the file at a place, which
    stands in the base directory of its targets. -/
structure FileTree.Configures (t : FileTree) (root base : Path) (names : List String)
    (config : Config) : Prop where
  leads : t.locate .inspect (configPath base) = .ok names
  loads : loadConfig t root = .ok ⟨config, some (configPath base)⟩
  baseDir : ∀ fallback, LoadedConfig.baseDir ⟨config, some (configPath base)⟩ fallback = base

/-- The file that is created comes first in every search from its directory,
    whatever configurations and repositories there are. -/
theorem FileTree.Creates.configures {t t' : FileTree} {root : Path} {names : List String}
    (ht : t.WellFormed) (hopen : t.OpensStart root)
    (h : t.Creates (configPath root) names Config.starter.text t') :
    (root.text ≠ "" → t.canonical root = .ok (searchStart t root)) ∧
      t'.Configures root (searchStart t root) names Config.starter := by
  obtain ⟨hstart, hcanonical, htrimmed, hleads⟩ := h.stands_at_start ht hopen (by decide)
  have hexists : t'.HasConfig (searchStart t' root) :=
    pathExists_iff.2 ⟨names, hstart ▸ hleads, by rw [h.after]; rfl⟩
  have hfirst : t'.ServesFirst (searchStart t' root) 0 (searchStart t root) :=
    servesFirst_iff.2 ⟨congrArg some hstart, hstart ▸ hexists,
      fun k hk => absurd hk (Nat.not_lt_zero k)⟩
  refine ⟨hcanonical, hleads, ?_, fun fallback => ?_⟩
  · refine (loadConfig_of_servesFirst hfirst).2 ⟨rfl, readConfigFile_eq_ok_iff.2 ?_⟩
    exact ⟨_, read_of_locate hleads h.after, Config.parse_starter, Config.validate_starter⟩
  · exact LoadedConfig.baseDir_eq_of_trimmed htrimmed rfl fallback

/-- **Making a configuration file is safe, and what it makes can be used.**  No
    file that was there changes.  Where there is a configuration file, or none can
    be written, nothing changes, with status 1 or 2.  Otherwise one file is
    created, with status 0, in the place to which its path leads, and all further
    runs fail with status 1.  The file holds the starting configuration; if the
    directories above the working directory can be entered, that is from then on
    the one that holds for the root, with the resolved root as its base
    directory. -/
theorem init_creates_usable_config (t : FileTree) (options : InitOptions) :
    (∀ place content, t.root.at? place = some (.file content) →
      (runInit t options).tree.root.at? place = some (.file content)) ∧
    (t.pathExists (configPath options.root) = true →
      (runInit t options).tree = t ∧ (runInit t options).status.code = 1) ∧
    (t.pathExists (configPath options.root) = false →
      (∃ e, t.write (configPath options.root) Config.starter.text.toUTF8 = .error e) →
        (runInit t options).tree = t ∧ (runInit t options).status.code = 2) ∧
    (t.pathExists (configPath options.root) = false →
      (∃ t', t.write (configPath options.root) Config.starter.text.toUTF8 = .ok t') →
        (runInit t options).status.code = 0 ∧
        (∃ names,
          t.Creates (configPath options.root) names Config.starter.text (runInit t options).tree ∧
          (t.WellFormed → t.OpensStart options.root →
            (options.root.text ≠ "" → t.canonical options.root = .ok (searchStart t options.root)) ∧
            (runInit t options).tree.Configures options.root (searchStart t options.root) names
              Config.starter)) ∧
        ∀ more : List InitOptions, (∀ again ∈ more, again.root = options.root) →
          ∀ later ∈ inits (runInit t options).tree more,
            later.tree = (runInit t options).tree ∧ later.status.code = 1) := by
  refine ⟨fun place content => runInit_keeps_files t options, fun hexists => ?_,
    fun hfree ⟨e, hwrite⟩ => ?_, fun hfree ⟨t', hwrite⟩ => ?_⟩
  · obtain ⟨htree, hstatus⟩ := runInit_of_exists hexists
    exact ⟨htree, by rw [hstatus]; rfl⟩
  · obtain ⟨htree, hstatus⟩ := runInit_of_error hfree hwrite
    exact ⟨htree, by rw [hstatus]; rfl⟩
  · obtain ⟨htree, hstatus⟩ := runInit_of_ok hfree hwrite
    obtain ⟨names, hcreates⟩ := FileTree.write_creates hfree hwrite
    rw [htree]
    refine ⟨by rw [hstatus]; rfl, ⟨names, hcreates, fun ht hopen => hcreates.configures ht hopen⟩,
      fun more hmore later hlater => ?_⟩
    obtain ⟨hsame, hfails⟩ := inits_of_exists hcreates.pathExists hmore later hlater
    exact ⟨hsame, by rw [hfails]; rfl⟩

/-- A repository inside a directory with a configuration of its own. -/
def outerConfig : FileTree :=
  ⟨.folder true [("project", .folder true
    [(configFileName, .ofText "\x7b\x7d"), ("sub", .folder true [(repositoryName, .emptyFolder)])])],
    ["project"]⟩

theorem outerConfig_locate (purpose : Purpose) :
    outerConfig.locate purpose ⟨"sub"⟩ = .ok ["project", "sub"] ∧
      outerConfig.locate purpose (configPath ⟨"sub"⟩) = .ok ["project", "sub", configFileName] := by
  have hjoin : configPath ⟨"sub"⟩ = ⟨"sub/.potgenrc.json"⟩ := by decide
  rw [hjoin]
  constructor <;>
    simp [FileTree.locate, Path.moves, splitSlash, Move.ofPart?, Path.endsInSlash, Path.isAbsolute,
      outerConfig, configFileName, repositoryName, FileTree.follow, Node.at?, Node.child?,
      Entries.find?, List.lookup_cons]

theorem outerConfig_init_creates_usable_config :
    (outerConfig.WellFormed ∧ outerConfig.OpensStart ⟨"sub"⟩) ∧
    (runInit outerConfig ⟨⟨"sub"⟩, false⟩).status.code = 0 ∧
    loadConfig (runInit outerConfig ⟨⟨"sub"⟩, false⟩).tree ⟨"sub"⟩ =
      .ok ⟨Config.starter, some ⟨"/project/sub/.potgenrc.json"⟩⟩ := by
  have ht : outerConfig.WellFormed := ⟨by decide, by decide, ⟨_, rfl, rfl⟩⟩
  have hopen : outerConfig.OpensStart ⟨"sub"⟩ := (Node.OpensTo.nil _).concat rfl "project"
  have hfree : outerConfig.pathExists (configPath ⟨"sub"⟩) = false := by
    rw [FileTree.pathExists, FileTree.resolve, (outerConfig_locate .inspect).2]
    rfl
  have hwrite : ∃ t', outerConfig.write (configPath ⟨"sub"⟩) Config.starter.text.toUTF8 = .ok t' := by
    rw [FileTree.write, (outerConfig_locate .write).2]
    exact ⟨_, rfl⟩
  have hstart : searchStart outerConfig ⟨"sub"⟩ = ⟨"/project/sub"⟩ := by
    rw [searchStart, FileTree.canonical, (outerConfig_locate .inspect).1]
    decide
  obtain ⟨-, -, -, hcreates⟩ := init_creates_usable_config outerConfig ⟨⟨"sub"⟩, false⟩
  obtain ⟨hcode, ⟨names, -, husable⟩, -⟩ := hcreates hfree hwrite
  obtain ⟨-, -, hloads, -⟩ := husable ht hopen
  rw [hstart, show configPath ⟨"/project/sub"⟩ = ⟨"/project/sub/.potgenrc.json"⟩ by decide] at hloads
  exact ⟨⟨ht, hopen⟩, hcode, hloads⟩

/-- A working directory with some entries, below a directory that cannot be
    entered. -/
def belowClosed (entries : Entries) : FileTree :=
  ⟨.folder true [("a", .folder false [("b", .folder true entries)])], ["a", "b"]⟩

theorem belowClosed_locate (purpose : Purpose) (entries : Entries) :
    (belowClosed []).locate purpose (configPath ⟨"."⟩) = .ok ["a", "b", configFileName] ∧
      (belowClosed entries).locate purpose ⟨"."⟩ = .ok ["a", "b"] := by
  have hjoin : configPath ⟨"."⟩ = ⟨"./.potgenrc.json"⟩ := by decide
  rw [hjoin]
  constructor <;>
    simp [FileTree.locate, Path.moves, splitSlash, Move.ofPart?, Path.endsInSlash, Path.isAbsolute,
      belowClosed, configFileName, FileTree.follow, Node.at?, Node.child?, Entries.find?]

/-- On the way from the root, no configuration file is found in the working
    directory or above it. -/
theorem belowClosed_not_hasConfig (entries : Entries) :
    ∀ folder ∈ [Path.mk "/a/b", ⟨"/a"⟩, ⟨"/"⟩], ¬ (belowClosed entries).HasConfig folder := by
  have hjoins : configPath ⟨"/a/b"⟩ = ⟨"/a/b/.potgenrc.json"⟩ ∧
      configPath ⟨"/a"⟩ = ⟨"/a/.potgenrc.json"⟩ ∧ configPath ⟨"/"⟩ = ⟨"/.potgenrc.json"⟩ := by decide
  simp only [List.forall_mem_cons, FileTree.HasConfig, hjoins]
  simp [FileTree.pathExists, FileTree.resolve, FileTree.locate, Path.moves, splitSlash, Move.ofPart?,
    Path.endsInSlash, Path.isAbsolute, belowClosed, FileTree.follow, Node.at?, Node.child?,
    Entries.find?, List.lookup_cons]
  exact ⟨rfl, rfl⟩

theorem belowClosed_runInit :
    (runInit (belowClosed []) ⟨⟨"."⟩, false⟩).tree =
        belowClosed [(configFileName, .ofText Config.starter.text)] ∧
      (runInit (belowClosed []) ⟨⟨"."⟩, false⟩).status = .success := by
  have hfree : (belowClosed []).pathExists (configPath ⟨"."⟩) = false := by
    rw [FileTree.pathExists, FileTree.resolve, (belowClosed_locate .inspect []).1]
    rfl
  have hwrite : (belowClosed []).write (configPath ⟨"."⟩) Config.starter.text.toUTF8 =
      .ok (belowClosed [(configFileName, .ofText Config.starter.text)]) := by
    rw [FileTree.write, (belowClosed_locate .write []).1]
    rfl
  exact runInit_of_ok hfree hwrite

theorem belowClosed_loadConfig (entries : Entries) :
    loadConfig (belowClosed entries) ⟨"."⟩ = .ok ⟨.default, none⟩ := by
  have hstart : searchStart (belowClosed entries) ⟨"."⟩ = ⟨"/a/b"⟩ := by
    rw [searchStart, FileTree.canonical, (belowClosed_locate .inspect entries).2]
    rfl
  have hancestors : (Path.mk "/a/b").ancestors = [⟨"/a"⟩, ⟨"/"⟩] := by decide
  refine loadConfig_of_none fun k folder hserves => ?_
  have habove := hserves.above
  rw [hstart, ← Path.getElem?_ancestors, hancestors] at habove
  exact belowClosed_not_hasConfig entries folder (List.mem_of_getElem? habove) hserves.hasConfig

/-- A directory in which the name of the configuration file is a link to another
    name. -/
def linkedConfig (more : Entries) : FileTree :=
  ⟨.folder true ((configFileName, .link ⟨"elsewhere.json"⟩) :: more), []⟩

theorem linkedConfig_locate {purpose : Purpose} (hpurpose : purpose ≠ .entry) :
    (linkedConfig []).locate purpose (configPath ⟨"."⟩) = .ok ["elsewhere.json"] := by
  have hjoin : configPath ⟨"."⟩ = ⟨"./.potgenrc.json"⟩ := by decide
  rw [hjoin]
  simp [FileTree.locate, Path.moves, splitSlash, Move.ofPart?, Path.endsInSlash, Path.isAbsolute,
    linkedConfig, configFileName, FileTree.follow, Node.at?, Entries.find?, List.lookup_cons, maxLinks,
    hpurpose]

theorem linkedConfig_runInit :
    (runInit (linkedConfig []) ⟨⟨"."⟩, false⟩).tree =
        linkedConfig [("elsewhere.json", .ofText Config.starter.text)] ∧
      (runInit (linkedConfig []) ⟨⟨"."⟩, false⟩).status = .success := by
  have hfree : (linkedConfig []).pathExists (configPath ⟨"."⟩) = false := by
    rw [FileTree.pathExists, FileTree.resolve, linkedConfig_locate (by decide)]
    rfl
  have hwrite : (linkedConfig []).write (configPath ⟨"."⟩) Config.starter.text.toUTF8 =
      .ok (linkedConfig [("elsewhere.json", .ofText Config.starter.text)]) := by
    rw [FileTree.write, linkedConfig_locate (by decide)]
    rfl
  exact runInit_of_ok hfree hwrite

/-- Below a directory that cannot be entered, the configuration that was made does
    not hold for the directory it was made in.  A link that leads nowhere counts as
    no configuration file, and the file is made where it leads. -/
theorem init_below_closed_or_through_link :
    ((belowClosed []).WellFormed ∧
      (runInit (belowClosed []) ⟨⟨"."⟩, false⟩).status.code = 0 ∧
      loadConfig (runInit (belowClosed []) ⟨⟨"."⟩, false⟩).tree ⟨"."⟩ = .ok ⟨.default, none⟩) ∧
    ((linkedConfig []).WellFormed ∧
      ((linkedConfig []).root.at? [configFileName]).isSome ∧
      (runInit (linkedConfig []) ⟨⟨"."⟩, false⟩).status.code = 0 ∧
      (linkedConfig []).root.at? ["elsewhere.json"] = none ∧
      (runInit (linkedConfig []) ⟨⟨"."⟩, false⟩).tree.root.at? ["elsewhere.json"] =
        some (.ofText Config.starter.text)) := by
  refine ⟨⟨⟨by decide, by decide, ⟨_, rfl, rfl⟩⟩, ?_, ?_⟩,
    ⟨⟨by decide, by decide, ⟨_, rfl, rfl⟩⟩, rfl, ?_, rfl, ?_⟩⟩
  · rw [belowClosed_runInit.2]
    rfl
  · rw [belowClosed_runInit.1, belowClosed_loadConfig]
  · rw [linkedConfig_runInit.2]
    rfl
  · rw [linkedConfig_runInit.1]
    rfl

end PotCatalog
