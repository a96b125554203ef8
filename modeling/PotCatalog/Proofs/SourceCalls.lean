/-
  From the calls of sources to the contents of catalogs.

  A source is a tree, and its calls are those at the positions of the tree
  (`SourceTree.HasCall`), with their names and literal arguments.  A list of them
  with their positions says which calls of a file are looked at
  (`SourceTree.Lists`), and `Job.Reads` what a file holds, whatever program
  finds it.

  `buildCatalog_accounts_outside_chains`: the contents of a catalog are those of
  the calls of all its files, chains of comparisons in templates apart.  Nothing
  is lost exactly if no chain holds a call, and `chained` is a template in which a
  message is lost.
-/
import Mathlib.Data.List.Nodup
import Mathlib.Data.List.Perm.Subperm
import Mathlib.Tactic.Tauto
import PotCatalog.Proofs.Accounting
import PotCatalog.Proofs.Scan.Following
import PotCatalog.Proofs.Script.Survey
import PotCatalog.Proofs.Template.Names

namespace PotCatalog

/-! ## Call sites -/

/-- A call site is determined by its place, its name and its literal arguments. -/
theorem CallSite.eq_of_observed {a b : CallSite} {named : String → Prop} {count : Nat}
    {literal : Nat → String → Prop} (hposition : a.position = b.position)
    (hcallee : ∀ name, a.callee = some name ↔ named name)
    (hcallee' : ∀ name, b.callee = some name ↔ named name)
    (hlength : a.args.length = count) (hlength' : b.args.length = count)
    (hliteral : ∀ i text, a.args[i]? = some (.literal text) ↔ literal i text)
    (hliteral' : ∀ i text, b.args[i]? = some (.literal text) ↔ literal i text) : a = b := by
  obtain ⟨callee, position, args⟩ := a
  obtain ⟨callee', position', args'⟩ := b
  obtain rfl : callee = callee' :=
    Option.ext fun name => (hcallee name).trans (hcallee' name).symm
  obtain rfl : position = position' := hposition
  have hargs : args = args' := by
    refine List.ext_getElem? fun i => ?_
    have hi := fun text => (hliteral i text).trans (hliteral' i text).symm
    have hlengths : args.length = args'.length := hlength.trans hlength'.symm
    -- an argument that is no literal is an expression
    rcases h : args[i]? with _ | ⟨text⟩ | _
    · rw [List.getElem?_eq_none_iff] at h
      exact (List.getElem?_eq_none (by omega)).symm
    · exact ((hi text).1 h).symm
    · rcases h' : args'[i]? with _ | ⟨text⟩ | _
      · have hlt := (List.getElem?_eq_some_iff.1 h).1
        rw [List.getElem?_eq_none_iff] at h'
        omega
      · have hsome := (hi text).2 h'
        rw [h] at hsome
        cases hsome
      · rfl
  rw [hargs]

namespace Template

/-- A call site keeps the name of a call, if its callee is a variable, and the
    texts of those arguments that are string constants given by position. -/
structure Call.Lowered (c : Call) (site : CallSite) : Prop where
  callee_iff : ∀ name, site.callee = some name ↔ ∃ start args, c = .mk start (.var name) args
  length_args : site.args.length = c.args.length
  literal_iff : ∀ (i : Nat) (text : String), site.args[i]? = some (.literal text) ↔
    c.args[i]? = some (.positional (.constant (.text text)))

theorem Argument.site_eq_literal_iff {a : Argument} {text : String} :
    a.site = .literal text ↔ a = .positional (.constant (.text text)) := by
  unfold Argument.site
  split
  · simp
  · rename_i hother
    simp only [reduceCtorEq, false_iff]
    exact hother text

theorem Call.site_lowered (text : List Char) (c : Call) : c.Lowered (c.site text) where
  callee_iff name := by
    obtain ⟨start, callee, args⟩ := c
    cases callee <;> simp [Call.site, Call.name?]
  length_args := List.length_map _
  literal_iff i literal := by
    rw [Call.site, List.getElem?_map, Option.map_eq_some_iff]
    simp [Argument.site_eq_literal_iff]

end Template

/-! ## Trees of sources -/

/-- What a source is parsed to. -/
inductive SourceTree where
  | template (tree : Template.Tree)
  | script (program : Script.Program)

/-- The tree that the parser for a kind of source makes of it. -/
def SourceKind.parse : SourceKind → String → Except ParseError SourceTree
  | .template, source =>
    ((Template.parse source).mapError (Template.Failure.error source)).map .template
  | .script, source => (Script.read source).map .script

namespace SourceTree

/-- A call is at a position of the tree of a source: the site has its place in the
    source, its name and its literal arguments. -/
def HasCall (source : String) : SourceTree → List Nat → CallSite → Prop
  | template tree, position, site =>
    ∃ c, (Template.Part.tree tree).at? position = some (.call c) ∧ c.Lowered site ∧
      site.position = positionAt source c.start
  | script program, position, site =>
    ∃ c, (Script.Part.program program).callAt? position = some c ∧ c.Lowered site ∧
      site.position = Script.positionIn (Script.withoutMark source.toList) c.start

/-- Whether a position is inside a chain of comparisons of a template. -/
def hides : SourceTree → List Nat → Prop
  | template tree, position => (Template.Part.tree tree).hides position
  | script _, _ => False

/-- Calls listed with their positions, those at certain positions left out: each
    position once, and an outer call before the calls inside it. -/
structure Lists (tree : SourceTree) (source : String) (omitted : List Nat → Prop)
    (found : List (List Nat × CallSite)) : Prop where
  nodup : (found.map Prod.fst).Nodup
  outer_first : found.Pairwise fun a b => ¬ b.1 <+: a.1
  mem_iff : ∀ position site,
    (position, site) ∈ found ↔ tree.HasCall source position site ∧ ¬ omitted position

/-- The sites of calls that are listed with their positions. -/
theorem Lists.of_calls {tree : SourceTree} {source : String} {omitted : List Nat → Prop}
    {α : Type} {calls : List (List Nat × α)} (site : α → CallSite)
    (hnodup : (calls.map Prod.fst).Nodup) (houter : calls.Pairwise fun a b => ¬ b.1 <+: a.1)
    (hmem : ∀ position s, (∃ c, (position, c) ∈ calls ∧ site c = s) ↔
      tree.HasCall source position s ∧ ¬ omitted position) :
    tree.Lists source omitted (calls.map (Prod.map id site)) where
  nodup := by
    have hfst : (calls.map (Prod.map id site)).map Prod.fst = calls.map Prod.fst := by
      rw [List.map_map]
      rfl
    rwa [hfst]
  outer_first := List.pairwise_map.2 houter
  mem_iff position s := by
    rw [← hmem, List.mem_map]
    constructor
    · rintro ⟨⟨position', c⟩, hc, heq⟩
      obtain ⟨rfl, rfl⟩ := Prod.mk.inj heq
      exact ⟨c, hc, rfl⟩
    · rintro ⟨c, hc, rfl⟩
      exact ⟨(position, c), hc, rfl⟩

/-- A list that leaves nothing out has no more calls than one that leaves some out
    exactly if no call is left out. -/
theorem Lists.complete_iff {tree : SourceTree} {source : String} {omitted : List Nat → Prop}
    {found : List (List Nat × CallSite)} (h : tree.Lists source omitted found) :
    (∃ all, all.map Prod.snd = found.map Prod.snd ∧ tree.Lists source (fun _ => False) all) ↔
      ∀ position site, tree.HasCall source position site → ¬ omitted position := by
  constructor
  · rintro ⟨all, hsites, hall⟩ position site hcall
    have hlength : all.length = found.length := by
      simpa using congrArg List.length hsites
    have hsub : found ⊆ all := fun ⟨position, site⟩ hmem =>
      (hall.mem_iff position site).2 ⟨((h.mem_iff position site).1 hmem).1, not_false⟩
    have hperm : found.Perm all := (List.subperm_of_subset (List.Nodup.of_map _ h.nodup)
      hsub).perm_of_length_le (Nat.le_of_eq hlength)
    have hmem := hperm.mem_iff.2 ((hall.mem_iff position site).2 ⟨hcall, not_false⟩)
    exact ((h.mem_iff position site).1 hmem).2
  · intro hnone
    refine ⟨found, rfl, h.nodup, h.outer_first, fun position site => ?_⟩
    rw [h.mem_iff, not_false_eq_true, and_true]
    exact ⟨And.left, fun hcall => ⟨hcall, hnone position site hcall⟩⟩

end SourceTree

namespace Template

theorem hasCall_iff {source : String} {tree : Tree} {position : List Nat} {site : CallSite} :
    SourceTree.HasCall source (.template tree) position site ↔
      ∃ c, (Part.tree tree).at? position = some (.call c) ∧ site = c.site source.toList := by
  refine exists_congr fun c => and_congr_right fun _ => ⟨fun ⟨hlowered, hposition⟩ => ?_, ?_⟩
  · have hsite := c.site_lowered source.toList
    exact CallSite.eq_of_observed hposition hlowered.callee_iff hsite.callee_iff
      hlowered.length_args hsite.length_args hlowered.literal_iff hsite.literal_iff
  · rintro rfl
    exact ⟨c.site_lowered source.toList, rfl⟩

/-- **The calls of a template** outside of chains, with their sites. -/
theorem exists_lists {source : String} {tree : Tree} (h : parse source = .ok tree) :
    ∃ found, found.map Prod.snd = tree.calls.map (Call.site source.toList) ∧
      SourceTree.Lists (.template tree) source (Part.tree tree).hides found := by
  obtain ⟨calls, hcalls⟩ := Part.survey (parse_plainNames h)
  have hsnd : calls.map Prod.snd = tree.calls := hcalls.calls_eq
  refine ⟨_, ?_, .of_calls (Call.site source.toList) hcalls.nodup hcalls.outer_first ?_⟩
  · rw [← hsnd, List.map_map, List.map_map]
    rfl
  · intro position site
    rw [hasCall_iff, exists_and_right.symm]
    refine exists_congr fun c => ?_
    rw [hcalls.mem_iff, eq_comm (a := site)]
    tauto

/-- All calls are outside of chains exactly if no chain holds a call. -/
theorem forall_not_hides_iff {source : String} {tree : Tree} :
    (∀ position site, SourceTree.HasCall source (.template tree) position site →
        ¬ (Part.tree tree).hides position) ↔
      (Part.tree tree).All fun q => q.isChain = true → q.CallFree := by
  constructor
  · intro h above q hq hchain below r hr
    cases r with
    | call c =>
      cases below with
      | nil =>
        rw [Part.at?_nil, Option.some.injEq] at hr
        rw [hr] at hchain
        simp [Part.isChain] at hchain
      | cons i below =>
        have hat : (Part.tree tree).at? (above ++ i :: below) = some (.call c) := by
          rw [Part.at?_append, hq]
          exact hr
        exact absurd ⟨above, i :: below, q, rfl, by simp, hq, hchain⟩
          (h _ _ (hasCall_iff.2 ⟨c, hat, rfl⟩))
    | _ => rfl
  · rintro hfree position site hcall ⟨above, below, q, rfl, -, hq, hchain⟩
    obtain ⟨c, hat, -⟩ := hasCall_iff.1 hcall
    rw [Part.at?_append, hq] at hat
    exact absurd (hfree above q hq hchain below _ hat) (by simp [Part.isCall])

end Template

namespace Script

theorem hasCall_iff {source : String} {program : Program} {position : List Nat}
    {site : CallSite} :
    SourceTree.HasCall source (.script program) position site ↔
      ∃ c, (Part.program program).callAt? position = some c ∧
        site = c.site (withoutMark source.toList) := by
  refine exists_congr fun c => and_congr_right fun _ => ⟨fun ⟨hlowered, hposition⟩ => ?_, ?_⟩
  · have hsite := c.site_lowered (withoutMark source.toList)
    exact CallSite.eq_of_observed hposition hlowered.callee_iff hsite.callee_iff
      hlowered.length_args hsite.length_args hlowered.literal_iff hsite.literal_iff
  · rintro rfl
    exact ⟨c.site_lowered _, rfl⟩

theorem sites_of_error {source : String} {e : ParseError} (h : read source = .error e) :
    sites source = .error e := by
  unfold sites
  rw [h]

/-- **The calls of a script**, with their sites. -/
theorem Program.exists_lists (program : Program) (source : String) :
    ∃ found, found.map Prod.snd = program.calls.map (Call.site (withoutMark source.toList)) ∧
      SourceTree.Lists (.script program) source (fun _ => False) found := by
  obtain ⟨calls, hsnd, hcalls⟩ := program.exists_surveyed
  refine ⟨_, ?_, .of_calls (Call.site (withoutMark source.toList)) hcalls.nodup hcalls.outer_first ?_⟩
  · rw [← hsnd, List.map_map, List.map_map]
    rfl
  · intro position site
    rw [hasCall_iff, not_false_eq_true, and_true]
    exact exists_congr fun c => by rw [hcalls.mem_iff, eq_comm (a := site)]

end Script

/-! ## Files -/

/-- What the file of a job holds: an error, or a list of its calls, those at certain
    positions left out. -/
inductive Job.Reads (t : FileTree) (base : Path) (job : Job)
    (omitted : SourceTree → List Nat → Prop) : FileReading → Prop where
  | unread {e : SystemError} (hread : t.read (base.join ⟨job.file⟩) = .error e) :
      Reads t base job omitted (.unread e)
  | unparsed {source : String} {e : ParseError}
      (hread : t.read (base.join ⟨job.file⟩) = .ok source)
      (hparse : job.kind.parse source = .error e) : Reads t base job omitted (.unparsed source e)
  | parsed {source : String} {tree : SourceTree} {found : List (List Nat × CallSite)}
      (hread : t.read (base.join ⟨job.file⟩) = .ok source)
      (hparse : job.kind.parse source = .ok tree)
      (hlists : tree.Lists source (omitted tree) found) :
      Reads t base job omitted (.parsed source (found.map Prod.snd))

/-- Chains of comparisons of a source, if it is a template, hold no calls. -/
def SourceTree.ChainsCallFree : SourceTree → Prop
  | template tree => (Template.Part.tree tree).All fun q => q.isChain = true → q.CallFree
  | script _ => True

theorem SourceTree.forall_not_hides_iff {source : String} {tree : SourceTree} :
    (∀ position site, tree.HasCall source position site → ¬ tree.hides position) ↔
      tree.ChainsCallFree := by
  cases tree with
  | template tree => exact Template.forall_not_hides_iff
  | script program => exact iff_of_true (fun _ _ _ => not_false) trivial

theorem SourceKind.parse_template (source : String) : SourceKind.template.parse source =
    ((Template.parse source).mapError (Template.Failure.error source)).map .template := rfl

theorem SourceKind.parse_script (source : String) :
    SourceKind.script.parse source = (Script.read source).map .script := rfl

/-- **The sites of a source** are those of its tree outside of chains. -/
theorem SourceKind.exists_tree_of_sites (kind : SourceKind) (source : String) :
    (∃ e, kind.sites source = .error e ∧ kind.parse source = .error e) ∨
    ∃ tree found, kind.sites source = .ok (found.map Prod.snd) ∧ kind.parse source = .ok tree ∧
      tree.Lists source tree.hides found := by
  cases kind with
  | template =>
    cases h : Template.parse source with
    | error f => exact .inl ⟨_, Template.sites_of_failure h, by rw [parse_template, h]; rfl⟩
    | ok tree =>
      obtain ⟨found, hfound, hlists⟩ := Template.exists_lists h
      have hsites : SourceKind.template.sites source = .ok _ := Template.sites_of_parse h
      exact .inr ⟨.template tree, found, hfound ▸ hsites, by rw [parse_template, h]; rfl, hlists⟩
  | script =>
    cases h : Script.read source with
    | error e => exact .inl ⟨e, Script.sites_of_error h, by rw [parse_script, h]; rfl⟩
    | ok program =>
      obtain ⟨found, hfound, hlists⟩ := program.exists_lists source
      have hsites : SourceKind.script.sites source = .ok _ := Script.sites_of_read h
      exact .inr ⟨.script program, found, hfound ▸ hsites, by rw [parse_script, h]; rfl, hlists⟩

theorem Job.reading_reads (t : FileTree) (base : Path) (job : Job) :
    job.Reads t base SourceTree.hides (job.reading t base) := by
  unfold Job.reading
  cases hread : t.read (base.join ⟨job.file⟩) with
  | error e => exact .unread hread
  | ok source =>
    dsimp only
    rcases job.kind.exists_tree_of_sites source with
      ⟨e, hsites, hparse⟩ | ⟨tree, found, hsites, hparse, hlists⟩
    · rw [hsites]
      exact .unparsed hread hparse
    · rw [hsites]
      exact .parsed hread hparse hlists

/-- What is read of a file are all its calls exactly if no chain holds a call. -/
theorem Job.reading_complete_iff (t : FileTree) (base : Path) (job : Job) :
    job.Reads t base (fun _ _ => False) (job.reading t base) ↔
      ∀ source tree, t.read (base.join ⟨job.file⟩) = .ok source →
        job.kind.parse source = .ok tree → tree.ChainsCallFree := by
  have hreads := job.reading_reads t base
  generalize job.reading t base = reading at hreads ⊢
  cases hreads with
  | unread hread => exact iff_of_true (.unread hread) fun _ _ h => by rw [hread] at h; cases h
  | unparsed hread hparse =>
    refine iff_of_true (.unparsed hread hparse) fun source tree h htree => ?_
    rw [hread] at h
    cases h
    rw [hparse] at htree
    cases htree
  | @parsed source tree found hread hparse hlists =>
    have hcomplete := hlists.complete_iff.trans SourceTree.forall_not_hides_iff
    constructor
    · generalize hsites : found.map Prod.snd = sites
      rintro (_ | _ | ⟨hread', hparse', hall⟩) source' tree' h htree
      rw [hread] at h hread'
      cases h
      cases hread'
      rw [hparse] at htree hparse'
      cases htree
      cases hparse'
      exact hcomplete.1 ⟨_, hsites.symm, hall⟩
    · intro h
      obtain ⟨all, hsites, hall⟩ := hcomplete.2 (h source tree hread hparse)
      rw [← hsites]
      exact .parsed hread hparse hall

/-! ## Catalogs -/

/-- **Calls and catalogs.**  The files of a catalog can be listed with their calls,
    those inside chains of comparisons left out, such that the messages have the
    places of the valid calls among these, in their order, and the issues are those
    of the files, in the order of the jobs, and then the conflicts of the valid
    calls.  All calls are listed exactly if no chain holds a call. -/
theorem buildCatalog_accounts_outside_chains (t : FileTree) (base : Path) (jobs : List Job) :
    ∃ read : List (Job × FileReading),
      read.map Prod.fst = jobs ∧
      (∀ file ∈ read, file.1.Reads t base SourceTree.hides file.2) ∧
      ((∀ file ∈ read, file.1.Reads t base (fun _ _ => False) file.2) ↔
        ∀ job ∈ jobs, ∀ source tree, t.read (base.join ⟨job.file⟩) = .ok source →
          job.kind.parse source = .ok tree → tree.ChainsCallFree) ∧
      ∀ valid, valid = read.flatMap (fun file => file.2.validCalls file.1) →
        (∀ m ∈ (buildCatalog t base jobs).messages,
          m.locations = (valid.filter (·.msgid = m.msgid)).map ValidCall.location) ∧
        (∀ msgid, (∃ m ∈ (buildCatalog t base jobs).messages, m.msgid = msgid) ↔
          ∃ call ∈ valid, call.msgid = msgid) ∧
        ((buildCatalog t base jobs).messages.map Message.msgid).Nodup ∧
        (buildCatalog t base jobs).issues =
          read.flatMap (fun file => file.2.issues file.1) ++
            (valid.filterMap (ValidCall.conflict? valid)).map .pluralConflict ∧
        (buildCatalog t base jobs).fileCount = jobs.length := by
  refine ⟨jobs.map fun job => (job, job.reading t base), ?_, ?_, ?_, fun valid hvalid => ?_⟩
  · rw [List.map_map]
    exact List.map_id jobs
  · intro file hfile
    obtain ⟨job, -, rfl⟩ := List.mem_map.1 hfile
    exact job.reading_reads t base
  · rw [List.forall_mem_map]
    exact forall_congr' fun job => forall_congr' fun _ => job.reading_complete_iff t base
  · rw [List.flatMap_map] at hvalid ⊢
    subst hvalid
    exact buildCatalog_accounts t base jobs

/-- A template with a valid call in a chain of comparisons. -/
def chained : String := "\x7b\x7b 1 < _(\"a\") < 3 \x7d\x7d"

/-- A directory with this template in it. -/
def chainedTree : FileTree := ⟨.folder true [("a.html", .ofText chained)], []⟩

theorem chainedTree_read : chainedTree.read (Path.join ⟨"."⟩ ⟨"a.html"⟩) = .ok chained := by
  have hjoin : Path.join ⟨"."⟩ ⟨"a.html"⟩ = ⟨"./a.html"⟩ := by decide
  have hmoves : Path.moves ⟨"./a.html"⟩ = [.stay, .down "a.html"] := by decide
  have hrelative : Path.isAbsolute ⟨"./a.html"⟩ = false := by decide
  have hlocate : chainedTree.locate .inspect ⟨"./a.html"⟩ = .ok ["a.html"] := by
    simp [FileTree.locate, hmoves, hrelative, chainedTree, FileTree.follow, Node.at?, Entries.find?,
      Node.ofText]
  rw [hjoin]
  exact FileTree.read_of_locate hlocate rfl

/-- The site of the call in it. -/
def chainedCall : CallSite := ⟨some "_", ⟨1, 8⟩, [.literal "a"]⟩

theorem exists_tree_of_chained : ∃ tree, SourceKind.template.parse chained = .ok tree ∧
    tree.HasCall chained [0, 0, 1, 0] chainedCall := by
  obtain ⟨tree, htree, hat⟩ : ∃ tree, Template.parse chained = .ok tree ∧
      ((Template.Part.tree tree).at? [0, 0, 1, 0]).bind (fun part =>
        part.own.head?.map (Template.Call.site chained.toList)) = some chainedCall :=
    exists_ok_of_toOption_map (by decide +kernel)
  obtain ⟨part, hpart, hsite⟩ := Option.bind_eq_some_iff.1 hat
  refine ⟨.template tree, by rw [SourceKind.parse_template, htree]; rfl, ?_⟩
  cases part with
  | call c => exact Template.hasCall_iff.2 ⟨c, hpart, (Option.some.inj hsite).symm⟩
  | _ => cases hsite

/-- **A lost message.**  The template holds a valid call, which is found wherever all
    calls of the file are listed; the catalog has neither a message nor an issue. -/
theorem chained_call_lost :
    (∃ tree, SourceKind.template.parse chained = .ok tree ∧
      tree.HasCall chained [0, 0, 1, 0] chainedCall) ∧
    (∀ reading,
      Job.Reads chainedTree ⟨"."⟩ ⟨"a.html", .template⟩ (fun _ _ => False) reading →
        ⟨⟨"a.html", 1⟩, "a", none⟩ ∈ reading.validCalls ⟨"a.html", .template⟩) ∧
    (buildCatalog chainedTree ⟨"."⟩ [⟨"a.html", .template⟩]).messages = [] ∧
    (buildCatalog chainedTree ⟨"."⟩ [⟨"a.html", .template⟩]).issues = [] := by
  have hextract : (extract .template "a.html" chained).messages = [] ∧
      (extract .template "a.html" chained).issues = [] := by decide +kernel
  have hjob : runJob chainedTree ⟨"."⟩ ⟨"a.html", .template⟩ = ⟨[], []⟩ := by
    unfold runJob
    rw [chainedTree_read]
    dsimp only
    generalize extract .template "a.html" chained = nothing at hextract ⊢
    obtain ⟨messages, issues⟩ := nothing
    obtain ⟨rfl, rfl⟩ := hextract
    rfl
  refine ⟨exists_tree_of_chained, fun reading hreads => ?_, ?_, ?_⟩
  · obtain ⟨tree, htree, hcall⟩ := exists_tree_of_chained
    rcases hreads with hread | ⟨hread, hparse⟩ | ⟨hread, hparse, hlists⟩
    · rw [chainedTree_read] at hread
      cases hread
    · rw [chainedTree_read] at hread
      cases hread
      rw [htree] at hparse
      cases hparse
    · rw [chainedTree_read] at hread
      cases hread
      rw [htree] at hparse
      cases hparse
      have hmem := (hlists.mem_iff _ _).2 ⟨hcall, not_false⟩
      exact List.mem_filterMap.2 ⟨chainedCall, List.mem_map_of_mem hmem, rfl⟩
  · simp [buildCatalog, hjob, merge, dedupe]
  · simp [buildCatalog, hjob, merge, dedupe]

end PotCatalog
