/-
  What changes in a tree of files, and what does not.

  A tree is seen place by place: `Node.faceAt?` is what stands at a place,
  without what stands below it.  `FileTree.Sets` says that a change sets one
  place, to which a path then leads, and leaves all others alone; writing a file
  and making a directory do so (`write_sets`, `create_sets`).  Making
  several directories only adds some (`makeFolders_foldersAdded`).

  What a path led to before such a change it leads to afterwards
  (`Leads.keep`), since the directories and links along its way stay.
-/
import PotCatalog.Proofs.Files.Outline

namespace PotCatalog

/-! ## Places -/

/-- A node without what stands below it. -/
def Node.face : Node → Node
  | .folder isOpen _ => .folder isOpen []
  | .file content => .file content
  | .link target => .link target

/-- What stands at a place. -/
def Node.faceAt? (root : Node) (names : List String) : Option Node :=
  (root.at? names).map Node.face

theorem Node.face_eq_folder_iff {node : Node} {isOpen : Bool} :
    node.face = .folder isOpen [] ↔ ∃ entries, node = .folder isOpen entries := by
  cases node <;> simp [Node.face]

theorem Node.face_eq_self {node : Node} (h : node.isFolder = false) : node.face = node := by
  cases node with
  | file | link => rfl
  | folder => simp [Node.isFolder] at h

theorem Node.isFolder_face (node : Node) : node.face.isFolder = node.isFolder := by
  cases node <;> rfl

theorem Node.faceAt?_eq_folder_iff {root : Node} {names : List String} {isOpen : Bool} :
    root.faceAt? names = some (.folder isOpen []) ↔
      ∃ entries, root.at? names = some (.folder isOpen entries) := by
  simp [Node.faceAt?, Node.face_eq_folder_iff]

theorem Node.faceAt?_eq_some_iff {root node : Node} {names : List String}
    (h : node.isFolder = false) : root.faceAt? names = some node ↔ root.at? names = some node := by
  rw [Node.faceAt?, Option.map_eq_some_iff]
  constructor
  · rintro ⟨other, hat, hface⟩
    rw [← hface, Node.isFolder_face] at h
    rw [hat, ← hface, Node.face_eq_self h]
  · intro hat
    exact ⟨node, hat, Node.face_eq_self h⟩

theorem Node.faceAt?_eq_none_iff {root : Node} {names : List String} :
    root.faceAt? names = none ↔ root.at? names = none := by
  rw [Node.faceAt?, Option.map_eq_none_iff]

theorem Node.at?_concat {root : Node} {here : List String} {isOpen : Bool} {entries : Entries}
    (h : root.at? here = some (.folder isOpen entries)) (name : String) :
    root.at? (here ++ [name]) = entries.find? name := by
  rw [Node.at?_append, h, Option.bind_some]
  cases hfind : entries.find? name <;> simp [Node.at?, Node.child?, hfind]

/-! ## Setting one place -/

theorem Entries.find?_set_self (name : String) (node : Node) (entries : Entries) :
    Entries.find? (Entries.set name node entries) name = some node := by
  induction entries with
  | nil => simp [Entries.set, Entries.find?]
  | cons entry rest ih =>
    obtain ⟨other, old⟩ := entry
    rw [Entries.set]
    split_ifs with heq hlt
    · simp [Entries.find?]
    · simp [Entries.find?]
    · rw [Entries.find?, List.lookup_cons, beq_false_of_ne heq]
      exact ih

theorem Entries.find?_set_of_ne {name other : String} (h : other ≠ name) (node : Node)
    (entries : Entries) :
    Entries.find? (Entries.set name node entries) other = entries.find? other := by
  induction entries with
  | nil => simp [Entries.set, Entries.find?, List.lookup_cons, beq_false_of_ne h]
  | cons entry rest ih =>
    obtain ⟨first, old⟩ := entry
    rw [Entries.set]
    split_ifs with heq hlt
    · rw [Entries.find?, Entries.find?, List.lookup_cons, List.lookup_cons, ← heq,
        beq_false_of_ne h]
    · rw [Entries.find?, Entries.find?, List.lookup_cons, beq_false_of_ne h]
    · rw [Entries.find?, Entries.find?, List.lookup_cons, List.lookup_cons]
      cases other == first with
      | true => rfl
      | false => exact ih

theorem Node.at?_put_self {root : Node} {here : List String} {isOpen : Bool} {entries : Entries}
    (h : root.at? here = some (.folder isOpen entries)) (name : String) (new : Node) :
    (root.put (here ++ [name]) new).at? (here ++ [name]) = some new := by
  induction here generalizing root with
  | nil =>
    cases h
    cases hfind : Entries.find? entries name <;>
      simp [Node.put, hfind, Node.at?, Node.child?, Entries.find?_set_self]
  | cons first here ih =>
    obtain ⟨child, hchild, hat⟩ := Option.bind_eq_some_iff.1 h
    cases root with
    | file | link => simp [Node.child?] at hchild
    | folder isOpen' entries' =>
      rw [Node.child?] at hchild
      simp only [List.cons_append, Node.put, hchild, Node.at?, Node.child?,
        Entries.find?_set_self, Option.bind_some]
      exact ih hat

theorem Node.at?_put_of_isSome {root : Node} {names : List String} (h : (root.at? names).isSome)
    (new : Node) : (root.put names new).at? names = some new := by
  induction names generalizing root with
  | nil => cases root <;> rfl
  | cons name names ih =>
    cases root with
    | file | link => simp [Node.at?, Node.child?] at h
    | folder isOpen entries =>
      cases hfind : Entries.find? entries name with
      | none => simp [Node.at?, Node.child?, hfind] at h
      | some old =>
        rw [Node.at?, Node.child?, hfind, Option.bind_some] at h
        simp only [Node.put, hfind, Node.at?, Node.child?, Entries.find?_set_self, Option.bind_some]
        exact ih h

theorem Node.faceAt?_cons (node : Node) (name : String) (names : List String) :
    node.faceAt? (name :: names) = (node.child? name).bind (·.faceAt? names) := by
  rw [Node.faceAt?, Node.at?]
  cases node.child? name <;> rfl

theorem Node.faceAt?_cons_of_face {node : Node} (h : node.face = node) (name : String)
    (names : List String) : node.faceAt? (name :: names) = none := by
  rw [Node.faceAt?_cons]
  cases node with
  | file | link => rfl
  | folder isOpen entries =>
    cases h
    rfl

/-- Setting one entry changes nothing but what is at that name and below. -/
theorem Node.faceAt?_set {isOpen : Bool} {entries : Entries} {name : String}
    {names other : List String} {node : Node} (hne : other ≠ name :: names)
    (hnode : ∀ rest, rest ≠ names →
      node.faceAt? rest = (Entries.find? entries name).bind (·.faceAt? rest)) :
    (Node.folder isOpen (Entries.set name node entries)).faceAt? other =
      (Node.folder isOpen entries).faceAt? other := by
  cases other with
  | nil => rfl
  | cons first rest =>
    rw [Node.faceAt?_cons, Node.faceAt?_cons, Node.child?, Node.child?]
    by_cases hfirst : first = name
    · subst hfirst
      rw [Entries.find?_set_self, Option.bind_some]
      exact hnode rest fun heq => hne (by rw [heq])
    · rw [Entries.find?_set_of_ne hfirst]

/-- A node with nothing below it, put where no directory is, changes no other
    place. -/
theorem Node.faceAt?_put_of_ne {root new : Node} {names other : List String} (hne : other ≠ names)
    (hplace : ∀ node, root.at? names = some node → node.isFolder = false)
    (hnew : new.face = new) : (root.put names new).faceAt? other = root.faceAt? other := by
  induction names generalizing root other with
  | nil =>
    obtain ⟨name, rest, rfl⟩ := List.exists_cons_of_ne_nil hne
    have hroot := Node.face_eq_self (hplace root rfl)
    have hput : root.put [] new = new := by cases root <;> rfl
    rw [hput, Node.faceAt?_cons_of_face hnew, Node.faceAt?_cons_of_face hroot]
  | cons name names ih =>
    cases root with
    | file | link => rfl
    | folder isOpen entries =>
      cases hfind : Entries.find? entries name with
      | none =>
        simp only [Node.put, hfind]
        split_ifs with hnames
        · refine Node.faceAt?_set hne fun rest hrest => ?_
          obtain ⟨first, rest, rfl⟩ := List.exists_cons_of_ne_nil (hnames ▸ hrest)
          rw [Node.faceAt?_cons_of_face hnew, hfind, Option.bind_none]
        · rfl
      | some old =>
        simp only [Node.put, hfind]
        refine Node.faceAt?_set hne fun rest hrest => ?_
        rw [hfind, Option.bind_some]
        exact ih hrest fun node hnode => hplace node (by simp [Node.at?, Node.child?, hfind, hnode])

/-! ## Paths after a change -/

/-- The directories and links of a tree are all in another one. -/
def Node.KeepsWays (root root' : Node) : Prop :=
  ∀ place face, face.isFile = false → root.faceAt? place = some face →
    root'.faceAt? place = some face

section
variable {root root' : Node} {links : Nat} {here names : List String} {moves : List Move}

theorem Node.KeepsWays.folder (h : root.KeepsWays root') {place : List String} {isOpen : Bool}
    {entries : Entries} (hat : root.at? place = some (.folder isOpen entries)) :
    ∃ entries', root'.at? place = some (.folder isOpen entries') :=
  Node.faceAt?_eq_folder_iff.1 (h place _ rfl (Node.faceAt?_eq_folder_iff.2 ⟨entries, hat⟩))

theorem Node.keepsWays_of_other
    (hnames : ∀ node, root.at? names = some node → node.isFile = true)
    (hother : ∀ place, place ≠ names → root'.faceAt? place = root.faceAt? place) :
    root.KeepsWays root' := by
  intro place face hface hat
  by_cases hplace : place = names
  · subst hplace
    obtain ⟨node, hnode, rfl⟩ := Option.map_eq_some_iff.1 hat
    have hfile := hnames node hnode
    cases node with
    | file => simp [Node.face, Node.isFile] at hface
    | link | folder => simp [Node.isFile] at hfile
  · rw [hother place hplace, hat]

theorem Leads.eq_of_file {content : ByteArray} (h : Leads root links here moves names)
    (hfile : root.at? here = some (.file content)) : names = here := by
  cases h with
  | done => rfl
  | slash hhere | stay hhere | up hhere | free hhere | link hhere | down hhere =>
    rw [hfile] at hhere
    cases hhere

/-- Moves lead where they led before, if something stands there.  Where a file
    is new, they have to be moves along which a file may be written. -/
theorem Leads.keep {node : Node} (h : Leads root links here moves names)
    (hways : root.KeepsWays root') (hnode : root'.at? names = some node)
    (hlink : ∀ target, node ≠ .link target)
    (hwrite : root.at? names = none → node.isFolder = false →
      FileTree.follow root .write links here moves = .ok names) :
    Leads root' links here moves names := by
  induction h with
  | done => exact .done
  | slash hhere hrest ih =>
    obtain ⟨entries', hhere'⟩ := hways.folder hhere
    refine .slash hhere' (ih hnode fun hnone hfile => ?_)
    simpa [FileTree.follow, hhere] using hwrite hnone hfile
  | stay hhere hrest ih =>
    obtain ⟨entries', hhere'⟩ := hways.folder hhere
    refine .stay hhere' (ih hnode fun hnone hfile => ?_)
    simpa [FileTree.follow, hhere] using hwrite hnone hfile
  | up hhere hrest ih =>
    obtain ⟨entries', hhere'⟩ := hways.folder hhere
    refine .up hhere' (ih hnode fun hnone hfile => ?_)
    simpa [FileTree.follow, hhere] using hwrite hnone hfile
  | @free links here rest name entries hhere hfind hrest =>
    obtain ⟨entries', hhere'⟩ := hways.folder hhere
    have hfind' := (Node.at?_concat hhere' name).symm.trans hnode
    refine .down hhere' hfind' hlink ?_
    rcases hrest with rfl | rfl
    · exact .done
    · cases node with
      | folder => exact .slash hnode .done
      | link target => exact absurd rfl (hlink target)
      | file =>
        have hnone := (Node.at?_concat hhere name).trans hfind
        simpa [FileTree.follow, hhere] using hwrite hnone rfl
  | @link links here rest names name entries target hhere hfind hrest ih =>
    obtain ⟨entries', hhere'⟩ := hways.folder hhere
    have hat := (Node.at?_concat hhere name).trans hfind
    have hat' := (Node.faceAt?_eq_some_iff rfl).1
      (hways _ _ rfl ((Node.faceAt?_eq_some_iff rfl).2 hat))
    refine .link hhere' ((Node.at?_concat hhere' name).symm.trans hat')
      (ih hnode fun hnone hfile => ?_)
    have hfollow := hwrite hnone hfile
    rw [FileTree.follow, hhere] at hfollow
    by_cases hslash : rest = [.slash] <;> simp_all
  | @down links here rest names name entries old hhere hfind hold hrest ih =>
    obtain ⟨entries', hhere'⟩ := hways.folder hhere
    have hat := (Node.at?_concat hhere name).trans hfind
    have hrest' := ih hnode fun hnone hfile => by
      have hfollow := hwrite hnone hfile
      rw [FileTree.follow, hhere] at hfollow
      by_cases hslash : rest = [.slash] <;> simp_all
    cases old with
    | link target => exact absurd rfl (hold target)
    | file content =>
      obtain rfl := hrest.eq_of_file hat
      exact .down hhere' ((Node.at?_concat hhere' name).symm.trans hnode) hlink hrest'
    | folder isOpen below =>
      obtain ⟨below', hat'⟩ := hways.folder hat
      exact .down hhere' ((Node.at?_concat hhere' name).symm.trans hat') (by simp) hrest'

theorem Leads.exists_folder {m : Move} {rest : List Move}
    (h : Leads root links here (m :: rest) names) :
    ∃ isOpen entries, root.at? here = some (.folder isOpen entries) := by
  cases h with
  | slash hhere | stay hhere | up hhere | free hhere | link hhere | down hhere =>
    exact ⟨_, _, hhere⟩

theorem Node.isFolder_of_at? {isOpen : Bool} {entries : Entries}
    (h : root.at? here = some (.folder isOpen entries)) : root.isFolder = true := by
  cases here with
  | nil =>
    cases h
    rfl
  | cons name here =>
    cases root with
    | folder => rfl
    | file | link => simp [Node.at?, Node.child?] at h

theorem Node.isSome_at?_dropLast (h : (root.at? here).isSome) :
    (root.at? here.dropLast).isSome := by
  rcases List.eq_nil_or_concat here with rfl | ⟨before, name, rfl⟩
  · rfl
  · rw [List.concat_eq_append, Node.at?_append] at h
    rw [List.concat_eq_append, List.dropLast_concat]
    exact Option.isSome_of_isSome_bind h

/-- A node can be put wherever moves lead. -/
theorem Leads.at?_put (h : Leads root links here moves names) (hhere : (root.at? here).isSome)
    (new : Node) : (root.put names new).at? names = some new := by
  induction h with
  | done => exact Node.at?_put_of_isSome hhere new
  | slash _ _ ih | stay _ _ ih => exact ih hhere
  | up _ _ ih => exact ih (Node.isSome_at?_dropLast hhere)
  | free hfolder _ _ => exact Node.at?_put_self hfolder _ new
  | link _ _ _ ih =>
    apply ih
    split
    · rfl
    · exact hhere
  | down hfolder hfind _ _ ih => exact ih (by rw [Node.at?_concat hfolder, hfind]; rfl)

end

/-! ## Changes of a tree -/

namespace FileTree

/-- A change that sets one place, to which a path leads from then on.  All other
    places stay as they are, and no directory or link is replaced. -/
structure Sets (t : FileTree) (p : Path) (names : List String) (new : Node) (t' : FileTree) :
    Prop where
  workingDir : t'.workingDir = t.workingDir
  before : ∀ node, t.root.at? names = some node → node.isFile = true
  after : t'.root.at? names = some new
  other : ∀ place, place ≠ names → t'.root.faceAt? place = t.root.faceAt? place
  leads : t'.locate .inspect p = .ok names

variable {t t' t'' : FileTree} {p : Path} {names : List String}

theorem locate_keep {node : Node} (hdir : t'.workingDir = t.workingDir)
    (hways : t.root.KeepsWays t'.root) (h : t.locate .inspect p = .ok names)
    (hbefore : (t.root.at? names).isSome) (hafter : t'.root.at? names = some node)
    (hlink : ∀ target, node ≠ .link target) : t'.locate .inspect p = .ok names := by
  obtain ⟨htext, hleads⟩ := locate_eq_ok_iff.1 h
  rw [locate_eq_ok_iff, hdir]
  refine ⟨htext, hleads.keep hways hafter hlink fun hnone _ => ?_⟩
  rw [hnone] at hbefore
  cases hbefore

theorem Sets.keepsWays {new : Node} (h : t.Sets p names new t') : t.root.KeepsWays t'.root :=
  Node.keepsWays_of_other h.before h.other

theorem text_ne_empty_of_locate {purpose : Purpose} (h : t.locate purpose p = .ok names) :
    p.text ≠ "" := by
  intro hempty
  simp [locate, hempty] at h

/-- The start of a path is a directory, if the path leads anywhere. -/
theorem leads_of_locate {purpose : Purpose} (h : t.locate purpose p = .ok names)
    (hentry : purpose = .entry → ∀ target, t.root.at? names ≠ some (.link target)) :
    Leads t.root maxLinks (if p.isAbsolute then [] else t.workingDir) p.moves names ∧
      ∃ isOpen entries, t.root.at? (if p.isAbsolute then [] else t.workingDir) =
        some (.folder isOpen entries) := by
  have htext := text_ne_empty_of_locate h
  rw [locate, if_neg (by simpa using htext)] at h
  have hleads := leads_of_follow h hentry
  obtain ⟨m, rest, hmoves⟩ := List.exists_cons_of_ne_nil (Path.moves_ne_nil htext)
  exact ⟨hleads, (hmoves ▸ hleads).exists_folder⟩

theorem put_sets {purpose : Purpose} {new : Node} (h : t.locate purpose p = .ok names)
    (hbefore : ∀ node, t.root.at? names = some node → node.isFile = true)
    (hnew : new.face = new) (hlink : ∀ target, new ≠ .link target)
    (hpurpose : purpose = .write ∨ new.isFolder = true) :
    t.Sets p names new (t.put names new) := by
  have hentry : purpose = .entry → ∀ target, t.root.at? names ≠ some (.link target) := by
    intro _ target hat
    have hfile := hbefore _ hat
    simp [Node.isFile] at hfile
  obtain ⟨hleads, isOpen, entries, hstart⟩ := leads_of_locate h hentry
  have hafter : (t.root.put names new).at? names = some new := hleads.at?_put (by rw [hstart]; rfl) new
  have hother : ∀ place, place ≠ names →
      (t.root.put names new).faceAt? place = t.root.faceAt? place := by
    intro place hplace
    refine Node.faceAt?_put_of_ne hplace (fun node hnode => ?_) hnew
    have hfile := hbefore node hnode
    cases node <;> simp_all [Node.isFile, Node.isFolder]
  have hways := Node.keepsWays_of_other hbefore hother
  refine ⟨rfl, hbefore, hafter, hother, ?_⟩
  have htext := text_ne_empty_of_locate h
  rw [locate, if_neg (by simpa using htext), follow_eq_ok_iff]
  refine hleads.keep hways hafter hlink fun _ hfolder => ?_
  rcases hpurpose with rfl | hnewFolder
  · rwa [locate, if_neg (by simpa using htext)] at h
  · rw [hnewFolder] at hfolder
    cases hfolder

theorem write_sets {content : ByteArray} (h : t.write p content = .ok t') :
    ∃ names, t.Sets p names (.file content) t' := by
  obtain ⟨names, hlocate, h⟩ := bind_eq_ok.1 h
  obtain ⟨hleads, isOpen, entries, hstart⟩ := leads_of_locate hlocate nofun
  have hlink : ∀ target, t.root.at? names ≠ some (.link target) :=
    hleads.at?_ne_link (Node.isFolder_of_at? hstart) (by simp [hstart])
  have hbefore : ∀ node, t.root.at? names = some node → node.isFile = true := by
    intro node hnode
    cases node with
    | file => rfl
    | link target => exact absurd hnode (hlink target)
    | folder => simp [hnode] at h
  have hput : t' = t.put names (.file content) := by
    cases hat : t.root.at? names with
    | none => simpa [hat, pure, Except.pure, eq_comm] using h
    | some node =>
      have hfile := hbefore node hat
      cases node with
      | file => simpa [hat, pure, Except.pure, eq_comm] using h
      | link | folder => simp [Node.isFile] at hfile
  rw [hput]
  exact ⟨names, put_sets hlocate hbefore rfl (by simp) (.inl rfl)⟩

theorem create_sets (h : t.create p .emptyFolder = .ok t') :
    ∃ names, t.root.at? names = none ∧ t.Sets p names .emptyFolder t' := by
  obtain ⟨names, hlocate, h⟩ := bind_eq_ok.1 h
  cases hat : t.root.at? names with
  | some node => simp [hat] at h
  | none =>
    rw [hat] at h
    cases h
    exact ⟨names, hat, put_sets hlocate (by simp [hat]) rfl (by simp [Node.emptyFolder]) (.inr rfl)⟩

/-! ## Adding directories -/

/-- A place stays as it is, or it was free and holds a directory to which a
    path of the given kind leads. -/
def KeptOrAdded (kind : Path → Prop) (t t' : FileTree) (place : List String) : Prop :=
  t'.root.faceAt? place = t.root.faceAt? place ∨
    t.root.faceAt? place = none ∧ t'.root.faceAt? place = some .emptyFolder ∧
      ∃ q, kind q ∧ t'.locate .inspect q = .ok place

/-- A change that only adds directories, each where a path of the given kind
    leads from then on. -/
structure FoldersAdded (kind : Path → Prop) (t t' : FileTree) : Prop where
  workingDir : t'.workingDir = t.workingDir
  places : ∀ place, KeptOrAdded kind t t' place

variable {kind : Path → Prop}

theorem FoldersAdded.refl (kind : Path → Prop) (t : FileTree) : FoldersAdded kind t t :=
  ⟨rfl, fun _ => .inl rfl⟩

theorem FoldersAdded.keepsWays (h : FoldersAdded kind t t') : t.root.KeepsWays t'.root := by
  intro place face _ hat
  rcases h.places place with hsame | ⟨hbefore, -⟩
  · rw [hsame, hat]
  · rw [hbefore] at hat
    cases hat

/-- Added directories stay where they are when a place of another change keeps
    what it holds. -/
theorem KeptOrAdded.keep {place : List String} (h : KeptOrAdded kind t t' place)
    (hdir : t''.workingDir = t'.workingDir) (hways : t'.root.KeepsWays t''.root)
    (hplace : t''.root.faceAt? place = t'.root.faceAt? place) : KeptOrAdded kind t t'' place := by
  rcases h with hsame | ⟨hbefore, hafter, q, hq, hlocate⟩
  · exact .inl (hplace.trans hsame)
  · obtain ⟨entries, hat⟩ := Node.faceAt?_eq_folder_iff.1 hafter
    obtain ⟨entries', hat'⟩ := hways.folder hat
    exact .inr ⟨hbefore, hplace.trans hafter, q, hq,
      locate_keep hdir hways hlocate (by rw [hat]; rfl) hat' (by simp)⟩

theorem FoldersAdded.trans (h : FoldersAdded kind t t') (h' : FoldersAdded kind t' t'') :
    FoldersAdded kind t t'' := by
  refine ⟨h'.workingDir.trans h.workingDir, fun place => ?_⟩
  rcases h'.places place with hsame | ⟨hfree, hafter, hpath⟩
  · exact (h.places place).keep h'.workingDir h'.keepsWays hsame
  · rcases h.places place with hfirst | ⟨-, hmade, -⟩
    · exact .inr ⟨hfirst ▸ hfree, hafter, hpath⟩
    · rw [hmade] at hfree
      cases hfree

theorem foldersAdded_of_create (h : t.create p .emptyFolder = .ok t') (hp : kind p) :
    FoldersAdded kind t t' := by
  obtain ⟨names, hfree, hsets⟩ := create_sets h
  refine ⟨hsets.workingDir, fun place => ?_⟩
  by_cases hplace : place = names
  · subst hplace
    have hafter : t'.root.faceAt? place = some .emptyFolder :=
      Node.faceAt?_eq_folder_iff.2 ⟨[], hsets.after⟩
    exact .inr ⟨Node.faceAt?_eq_none_iff.2 hfree, hafter, p, hp, hsets.leads⟩
  · exact .inl (hsets.other place hplace)

theorem makeFolders_foldersAdded (t : FileTree) {paths : List Path} (h : ∀ p ∈ paths, kind p) :
    FoldersAdded kind t (t.makeFolders paths).1 := by
  induction paths with
  | nil => exact .refl _ t
  | cons p above ih =>
    obtain ⟨hp, habove⟩ := List.forall_mem_cons.1 h
    rw [makeFolders]
    cases hcreate : t.create p .emptyFolder with
    | ok made => exact foldersAdded_of_create hcreate hp
    | error e =>
      cases e with
      | notFound =>
        have hmade := ih habove
        generalize t.makeFolders above = made at hmade
        obtain ⟨t', result⟩ := made
        cases result with
        | error e => exact hmade
        | ok =>
          dsimp only
          split
          · rename_i made hagain
            exact hmade.trans (foldersAdded_of_create hagain hp)
          · exact hmade
      | _ => exact .refl _ t

end FileTree

end PotCatalog
