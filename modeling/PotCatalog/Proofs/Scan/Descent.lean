/-
  Going down to a base directory with a pattern.

  A pattern is read from its base directory by joining both texts.  If the base
  has no wildcards, its parts are components that stand for themselves
  (`PathPattern.parse_join`), and an expansion goes down through them without
  a choice (`expandFrom_goDown`).  From there on it mirrors the expansion in
  the tree that holds the base directory alone (`exists_expand_mirrors`).
-/
import PotCatalog.Proofs.Scan.Gathering
import PotCatalog.Proofs.Scan.Mirroring

namespace PotCatalog

/-! ## Directories along a way -/

section
variable {root node : Node} {links : Nat} {here names : List String} {xs ms : List Move}

/-- What leads to a directory starts from one. -/
theorem Leads.exists_folder_here (h : Leads root links here ms names)
    (hat : root.at? names = some node) (hfolder : node.isFolder = true) :
    ∃ isOpen entries, root.at? here = some (.folder isOpen entries) := by
  cases h with
  | done =>
    match node, hat, hfolder with
    | .folder isOpen entries, hat, _ => exact ⟨isOpen, entries, hat⟩
  | slash hhere | stay hhere | up hhere | free hhere | link hhere | down hhere =>
    exact ⟨_, _, hhere⟩

theorem Leads.drop_slash (h : Leads root links here (xs ++ [.slash]) names) :
    Leads root links here xs names := by
  have hexchange : Leads root links here (xs ++ []) names := by
    refine h.exchange (List.cons_ne_nil _ _) (fun _ => rfl) ?_
    intro links here names h
    cases h with
    | slash _ hrest => exact hrest
  rwa [List.append_nil] at hexchange

theorem Leads.add_slash (h : Leads root links here xs names) (hat : root.at? names = some node)
    (hfolder : node.isFolder = true) : Leads root links here (xs ++ [.slash]) names := by
  rw [← List.append_nil xs] at h
  obtain ⟨left, -, place, hpass, hrest⟩ := h.exists_passes (by simp [hat])
  obtain ⟨isOpen, entries, hplace⟩ := hrest.exists_folder_here hat hfolder
  cases hrest
  rw [← follow_eq_ok_iff, hpass .inspect (by decide) _ (List.cons_ne_nil _ _), follow_eq_ok_iff]
  exact .slash hplace .done

end

/-! ## On the way to a base directory -/

/-- A path that leads through the first parts of a base directory; `rest` are
    the parts ahead. -/
structure OnWay (base d : Path) (rest : List (List Char)) : Prop where
  written : d.written ++ rest.filter (!·.isEmpty) = base.written
  anchored : d.isAbsolute = base.isAbsolute
  text_ne : d.text ≠ ""

section
variable {base d : Path} {part : List Char} {rest : List (List Char)}

theorem Path.written_of_slash_notMem (h : '/' ∉ part) :
    (Path.mk (String.ofList part)).written = [part].filter (!·.isEmpty) := by
  rw [Path.written, String.toList_ofList, splitSlash_of_notMem h]

theorem OnWay.join (h : OnWay base d (part :: rest)) (hslash : '/' ∉ part) :
    OnWay base (d.join ⟨String.ofList part⟩) rest := by
  have hrel : (Path.mk (String.ofList part)).isAbsolute = false :=
    Path.isAbsolute_of_slash_notMem (by simpa using hslash)
  refine ⟨?_, (Path.isAbsolute_join hrel).trans h.anchored, ?_⟩
  · rw [Path.written_join hrel, Path.written_of_slash_notMem hslash, List.append_assoc,
      ← List.filter_append]
    exact h.written
  · cases habs : d.isAbsolute with
    | true => exact Path.text_ne_empty_of_isAbsolute ((Path.isAbsolute_join hrel).trans habs)
    | false =>
      apply Path.text_ne_empty_of_written
      rw [Path.written_join hrel]
      exact List.append_ne_nil_of_left_ne_nil (Path.written_ne_nil habs h.text_ne) _

theorem OnWay.mem_base (h : OnWay base d rest) (hpart : part ∈ d.written) : part ∈ base.written :=
  h.written ▸ List.mem_append_left _ hpart

namespace FileTree.Houses

variable {t : FileTree} {node : Node}

/-- Every path on the way to a base directory is an entry. -/
theorem hasEntry_of_onWay (h : t.Houses base node) (hway : OnWay base d rest) :
    t.hasEntry d = true := by
  obtain ⟨names, hlocate, hat⟩ := resolve_eq_ok_iff.1 h.resolve
  have hsome : (t.root.at? names).isSome := by simp [hat]
  have hleads := (locate_eq_ok_iff.1 hlocate).2
  simp only [← Path.isAbsolute_iff_root_mem_steps] at hleads
  rw [Path.moves_eq_written, ← hway.written, List.filterMap_append, List.append_assoc] at hleads
  have hfollow : t.locate .entry d =
      follow t.root .entry maxLinks (if base.isAbsolute then [] else t.workingDir) d.moves := by
    rw [locate, if_neg (mt String.isEmpty_iff.1 hway.text_ne), hway.anchored]
  rw [hasEntry, hfollow, Path.moves_eq_written]
  by_cases hslash : d.endsInSlash = true
  · -- a slash asks for a directory, which whatever is ahead starts from
    obtain ⟨left, -, place, hpass, hrest⟩ := hleads.exists_passes hsome
    obtain ⟨isOpen, entries, hplace⟩ := hrest.exists_folder_here hat h.isFolder
    rw [if_pos hslash, hpass .entry (by decide) _ (List.cons_ne_nil _ _), follow, hplace]
    simp [follow, hplace]
  · have hmoves : d.written.filterMap Move.ofPart? ≠ [] := by
      have hne := Path.moves_ne_nil hway.text_ne
      rwa [Path.moves_eq_written, if_neg hslash, List.append_nil] at hne
    obtain ⟨init, m, hlast⟩ := (List.eq_nil_or_concat _).resolve_left hmoves
    rw [List.concat_eq_append] at hlast
    obtain ⟨name, rfl⟩ : ∃ name, m = .down name := by
      have hmem : m ∈ d.written.filterMap Move.ofPart? := by simp [hlast]
      obtain ⟨part, hpart, hm⟩ := List.mem_filterMap.1 hmem
      obtain ⟨hdot, hdots⟩ := h.plain part (hway.mem_base hpart)
      unfold Move.ofPart? at hm
      split_ifs at hm
      exact ⟨_, (Option.some.inj hm).symm⟩
    rw [hlast, List.append_assoc] at hleads
    obtain ⟨left, -, place, hpass, hrest⟩ := hleads.exists_passes hsome
    rw [if_neg hslash, List.append_nil, hlast, hpass .entry (by decide) _ (List.cons_ne_nil _ _),
      follow]
    cases hrest with
    | free hhere hfree _ => simp [Node.at?_append, hhere, Node.at?, Node.child?, hfree] at hsome
    | link hhere hfind _ => simp [hhere, hfind, Node.at?_append, Node.at?, Node.child?]
    | down hhere hfind hnode _ =>
      simp [hhere, hfind, follow, Node.at?_append, Node.at?, Node.child?]

/-- At the end of the way lies the base directory. -/
theorem of_onWay (h : t.Houses base node) (hway : OnWay base d []) :
    t.Houses d node ∧ d.components = base.components := by
  have hwritten : d.written = base.written := by simpa using hway.written
  refine ⟨⟨?_, h.isFolder, h.linkless, fun part hpart => h.plain part (hwritten ▸ hpart)⟩, ?_⟩
  · obtain ⟨names, hlocate, hat⟩ := resolve_eq_ok_iff.1 h.resolve
    have hleads := (locate_eq_ok_iff.1 hlocate).2
    refine resolve_eq_ok_iff.2 ⟨names, locate_eq_ok_iff.2 ⟨hway.text_ne, ?_⟩, hat⟩
    simp only [← Path.isAbsolute_iff_root_mem_steps] at hleads ⊢
    rw [Path.moves_eq_written] at hleads ⊢
    rw [hway.anchored, hwritten]
    generalize (if base.isAbsolute = true then [] else t.workingDir) = start at hleads ⊢
    have hbare : Leads t.root maxLinks start (base.written.filterMap Move.ofPart?) names := by
      split at hleads
      · exact hleads.drop_slash
      · rwa [List.append_nil] at hleads
    split
    · exact hbare.add_slash hat h.isFolder
    · rwa [List.append_nil]
  · rw [Path.components_eq_written, Path.components_eq_written base, hway.anchored, hwritten]

end FileTree.Houses

end

/-! ## Going down without a choice -/

namespace Glob

section
variable {t : FileTree} {base d : Path} {node : Node} {parts : List (List Char)}
variable {rest : List Pattern} {foldersOnly : Bool}

/-- A component without wildcards whose entry exists is no choice. -/
theorem expandFrom_literal {part : List Char} (hrest : rest ≠ [])
    (hdots : part ≠ ['.'] ∧ part ≠ ['.', '.'])
    (hentry : t.hasEntry (within d (String.ofList part)) = true) (fuel : Nat) :
    expandFrom t foldersOnly (fuel + 1) (part.map .literal :: rest) d =
      expandFrom t foldersOnly fuel rest (within d (String.ofList part)) := by
  have hname : String.ofList part ∉ dotNames := by
    have htext : ∀ text, String.ofList part = text → part = text.toList := by
      rintro _ rfl
      rw [String.toList_ofList]
    simp only [dotNames, List.mem_cons, List.not_mem_nil, or_false, not_or]
    exact ⟨fun h => hdots.2 (htext _ h), fun h => hdots.1 (htext _ h)⟩
  rw [expandFrom, literalText?_map_literal]
  simp only [expandLiteral, if_neg hname, hentry, if_true]
  cases rest with
  | nil => exact absurd rfl hrest
  | cons pattern rest => rfl

theorem within_of_onWay (hplain : base.IsPlain) (hway : OnWay base d parts) (name : String) :
    within d name = d.join ⟨name⟩ := by
  have hd : d.IsPlain := fun part hpart => hplain part (hway.mem_base hpart)
  exact within_eq_join hd.current_notMem name

theorem onWay_goDown (hplain : base.IsPlain) (hway : OnWay base d parts)
    (hparts : ∀ part ∈ parts, '/' ∉ part) : OnWay base (goDown d parts) [] := by
  induction parts generalizing d with
  | nil => exact hway
  | cons part parts ih =>
    obtain ⟨hslash, hparts⟩ := List.forall_mem_cons.1 hparts
    rw [Glob.goDown, List.foldl_cons, within_of_onWay hplain hway]
    exact ih (hway.join hslash) hparts

/-- Components without wildcards lead down to the base directory. -/
theorem expandFrom_goDown (h : t.Houses base node) (hway : OnWay base d parts)
    (hparts : ∀ part ∈ parts, '/' ∉ part ∧ part ≠ ['.'] ∧ part ≠ ['.', '.']) (hrest : rest ≠ [])
    (fuel : Nat) :
    expandFrom t foldersOnly (fuel + parts.length) (parts.map (·.map .literal) ++ rest) d =
      expandFrom t foldersOnly fuel rest (goDown d parts) := by
  induction parts generalizing d with
  | nil => rfl
  | cons part parts ih =>
    obtain ⟨⟨hslash, hdots⟩, hparts⟩ := List.forall_mem_cons.1 hparts
    have hwithin := within_of_onWay h.plain hway (String.ofList part)
    have hnext := hway.join hslash
    rw [goDown, List.foldl_cons, List.length_cons, ← Nat.add_assoc, List.map_cons, List.cons_append,
      expandFrom_literal (List.append_ne_nil_of_right_ne_nil _ hrest) hdots
        (hwithin ▸ h.hasEntry_of_onWay hnext), hwithin]
    exact ih hnext hparts

end

/-! ## Reading a pattern below a base directory -/

theorem isOk_bind_pure {ε α β : Type} (x : Except ε α) (f : α → β) :
    (x >>= fun a => pure (f a)).isOk = x.isOk := by
  cases x <;> rfl

theorem readTokens_class {cs after : List Char} {token : Token}
    (h : readClass cs = some (token, after)) (position : Nat) (fresh : Bool) :
    readTokens position fresh ('[' :: cs) =
      readTokens (position + 1 + (cs.length - after.length)) false after >>= fun tokens =>
        pure (token :: tokens) := by
  rw [readTokens]
  split
  · simp_all
  · rename_i hclass
    rw [h] at hclass
    cases hclass
    rfl

/-- Where a text stands does not matter for whether it can be read. -/
theorem readTokens_isOk (position position' : Nat) (fresh : Bool) (cs : List Char) :
    (readTokens position fresh cs).isOk = (readTokens position' fresh cs).isOk := by
  fun_induction readTokens position fresh cs generalizing position' with
  | case1 => rw [readTokens]
  | case2 =>
    rw [readTokens]
    rfl
  | case3 position fresh rest hstar hfresh =>
    by_cases hrest : rest = [] ∨ ∃ more, rest = '/' :: more
    · obtain rfl | ⟨more, rfl⟩ := hrest <;> rw [readTokens, if_pos hfresh] <;> rfl
    · rw [not_or, not_exists] at hrest
      rw [readTokens, if_pos hfresh]
      · rfl
      · exact hstar
      · exact hrest.1
      · exact hrest.2
  | case4 => rw [readTokens]; simp_all
  | case5 position fresh hfresh rest _ ih =>
    rw [readTokens]
    rw [if_neg (by simpa using hfresh), isOk_bind_pure, isOk_bind_pure]
    exact ih _
  | case6 position fresh rest hstar hfresh hnil hslash =>
    rw [readTokens, if_neg hfresh]
    · rfl
    · exact hstar
    · exact hnil
    · exact hslash
  | case7 position fresh rest hstar hstars ih =>
    rw [readTokens, isOk_bind_pure, isOk_bind_pure]
    · exact ih _
    · exact hstar
    · exact hstars
  | case8 position fresh rest ih =>
    rw [readTokens, isOk_bind_pure, isOk_bind_pure]
    exact ih _
  | case9 position fresh rest hclass =>
    rw [readTokens]
    split <;> simp_all [Except.isOk, Except.toBool]
  | case10 position fresh rest token after hclass hlt ih =>
    rw [readTokens_class hclass, isOk_bind_pure, isOk_bind_pure]
    exact ih _
  | case11 position fresh c rest _ _ _ _ _ ih =>
    rw [readTokens, isOk_bind_pure, isOk_bind_pure]
    · exact ih _
    all_goals assumption

/-- Text without wildcards in front of a slash stands for itself. -/
theorem readTokens_join {before : List Char} (hbefore : ∀ c ∈ before, isWildcard c = false)
    (position : Nat) (fresh : Bool) (cs : List Char) :
    (readTokens position fresh (before ++ '/' :: cs)).isOk = (readTokens 0 true cs).isOk := by
  induction before generalizing position fresh with
  | nil =>
    rw [List.nil_append, readTokens]
    · exact (isOk_bind_pure _ _).trans (readTokens_isOk _ _ _ _)
    all_goals simp
  | cons c before ih =>
    obtain ⟨⟨hstar, hmark⟩, hbracket⟩ : (c ≠ '*' ∧ c ≠ '?') ∧ c ≠ '[' := by
      simpa [isWildcard] using hbefore c (List.mem_cons_self ..)
    rw [List.cons_append, readTokens]
    · exact (isOk_bind_pure _ _).trans (ih (fun d hd => hbefore d (List.mem_cons_of_mem _ hd)) _ _)
    all_goals simp_all

/-- The parts of a pattern: an empty part at the end only says that directories
    are wanted. -/
def wantedParts (parts : List (List Char)) : List (List Char) :=
  if parts.getLast? == some [] then parts.dropLast else parts

theorem wantedParts_append {parts : List (List Char)} (before : List (List Char)) (h : parts ≠ []) :
    wantedParts (before ++ parts) = before ++ wantedParts parts := by
  rw [wantedParts, wantedParts, List.getLast?_append_of_ne_nil _ h,
    List.dropLast_append_of_ne_nil h]
  split <;> rfl

/-- The parts of a path behind its root. -/
def bodyParts (p : Path) : List (List Char) :=
  splitSlash (if p.isAbsolute then p.text.toList.drop 1 else p.text.toList)

theorem bodyParts_top_join {r : Path} (hr : r.isAbsolute = false) :
    bodyParts (Path.top.join r) = splitSlash r.text.toList := by
  have htext : (Path.top.join r).text.toList = '/' :: r.text.toList := by
    simp [Path.join, hr, Path.top, Path.endsInSlash]
  rw [bodyParts, Path.isAbsolute_join hr, htext]
  rfl

/-- The parts of a base directory stand in front of what is joined with it. -/
theorem exists_bodyParts_join {base r : Path} (hb : base.text ≠ "") (hr : r.isAbsolute = false) :
    ∃ before ⊆ splitSlash base.text.toList,
      bodyParts (base.join r) = before ++ splitSlash r.text.toList ∧
      before.filter (!·.isEmpty) = base.written ∧
      (base.isAbsolute = false → ∃ part rest, before = part :: rest ∧ part ≠ []) := by
  obtain ⟨parts, hne, hjoin, hbase⟩ := Path.exists_splitSlash_join hr hb
  have hwritten : parts.filter (!·.isEmpty) = base.written := by
    rw [Path.written]
    rcases hbase with h | h <;> simp [h]
  have hsub : parts ⊆ splitSlash base.text.toList := by
    rcases hbase with h | h <;> simp [h]
  obtain ⟨part, rest, rfl⟩ := List.exists_cons_of_ne_nil hne
  cases habs : base.isAbsolute with
  | true =>
    have hjoinAbs : (base.join r).isAbsolute = true := (Path.isAbsolute_join hr).trans habs
    obtain ⟨first, others, hsplit⟩ := (Path.isAbsolute_iff base).1 habs
    obtain ⟨cs, hcs⟩ : ∃ cs, (base.join r).text.toList = '/' :: cs := by
      rw [Path.isAbsolute, beq_iff_eq, List.head?_eq_some_iff] at hjoinAbs
      exact hjoinAbs
    have hpart : part = [] := by
      rcases hbase with h | h <;> rw [hsplit] at h <;> exact (List.cons.inj h).1.symm
    subst hpart
    refine ⟨rest, fun x hx => hsub (List.mem_cons_of_mem _ hx), ?_, ?_, fun h => Bool.noConfusion h⟩
    · rw [hcs, splitSlash_slash, List.cons_append] at hjoin
      rw [bodyParts, hjoinAbs, if_pos rfl, hcs]
      exact (List.cons.inj hjoin).2
    · rwa [List.filter_cons_of_neg (by simp)] at hwritten
  | false =>
    have hjoinRel : (base.join r).isAbsolute = false := (Path.isAbsolute_join hr).trans habs
    refine ⟨part :: rest, hsub, ?_, hwritten, fun _ => ⟨part, rest, rfl, ?_⟩⟩
    · rw [bodyParts, hjoinRel, if_neg Bool.false_ne_true, hjoin]
    · rintro rfl
      -- a relative path with an empty first part is empty
      have hrel := mt (Path.isAbsolute_iff base).2 (by simp [habs])
      have hnil := Path.written_ne_nil habs hb
      cases rest with
      | cons x xs => rcases hbase with h | h <;> exact hrel ⟨_, _, h⟩
      | nil => exact hnil (by rw [← hwritten]; rfl)

namespace PathPattern

theorem parse_eq (text : String) :
    PathPattern.parse text = (Pattern.parse text).bind fun _ =>
      ((wantedParts (bodyParts ⟨text⟩)).mapM (readTokens 0 true)).map fun parts =>
        ⟨if (Path.mk text).isAbsolute then ⟨"/"⟩ else ⟨"."⟩, parts, (Path.mk text).endsInSlash⟩ :=
  rfl

theorem parse_isOk {base r : Path} (hb : base.text ≠ "") (hplain : isPattern base.text = false)
    (hr : r.isAbsolute = false) :
    (Pattern.parse (base.join r).text).isOk = (readTokens 0 true r.text.toList).isOk := by
  obtain ⟨before, hsub, hjoin⟩ := Path.exists_text_join hb hr
  rw [Pattern.parse, hjoin]
  exact readTokens_join (fun c hc => isWildcard_eq_false hplain c (hsub hc)) 0 true _

/-- **A pattern below a base directory without wildcards** begins with the parts
    of the base, and is read like a pattern below the root otherwise. -/
theorem parse_join {base r : Path} (hb : base.text ≠ "") (hplain : isPattern base.text = false)
    (hr : r.isAbsolute = false) :
    ∃ before ⊆ splitSlash base.text.toList,
      before.filter (!·.isEmpty) = base.written ∧
      (base.isAbsolute = false → ∃ part rest, before = part :: rest ∧ part ≠ []) ∧
      (PathPattern.parse (base.join r).text).toOption =
        (PathPattern.parse (Path.top.join r).text).toOption.map fun pattern =>
          ⟨if base.isAbsolute then ⟨"/"⟩ else ⟨"."⟩,
            before.map (·.map .literal) ++ pattern.parts, pattern.foldersOnly⟩ := by
  obtain ⟨before, hsub, hbody, hwritten, hfirst⟩ := exists_bodyParts_join hb hr
  refine ⟨before, hsub, hwritten, hfirst, ?_⟩
  have hliteral : before.mapM (readTokens 0 true) = .ok (before.map (·.map .literal)) :=
    mapM_readTokens_of_plain fun part hpart c hc =>
      isWildcard_eq_false hplain c (subset_of_mem_splitSlash (hsub hpart) hc)
  have hends : (base.join r).endsInSlash = (Path.top.join r).endsInSlash := by
    rw [Path.endsInSlash_join hb hr, Path.endsInSlash_join Path.top_text_ne hr]
  have hok := parse_isOk hb hplain hr
  rw [← parse_isOk Path.top_text_ne (by decide) hr] at hok
  rw [parse_eq, parse_eq, hbody, bodyParts_top_join hr, hends, Path.isAbsolute_join hr,
    Path.isAbsolute_join hr, wantedParts_append before (splitSlash_ne_nil _), List.mapM_append,
    hliteral]
  cases hbase : Pattern.parse (base.join r).text with
  | error e =>
    cases htopParse : Pattern.parse (Path.top.join r).text with
    | error e' => rfl
    | ok tokens => simp [hbase, htopParse, Except.isOk, Except.toBool] at hok
  | ok tokens =>
    cases htopParse : Pattern.parse (Path.top.join r).text with
    | error e' => simp [hbase, htopParse, Except.isOk, Except.toBool] at hok
    | ok tokens' =>
      cases hparts : (wantedParts (splitSlash r.text.toList)).mapM (readTokens 0 true) with
      | error e => rfl
      | ok parts => rfl

theorem mapM_of_parse {r : Path} {pattern : PathPattern} (hr : r.isAbsolute = false)
    (hparse : PathPattern.parse (Path.top.join r).text = .ok pattern) :
    (wantedParts (splitSlash r.text.toList)).mapM (readTokens 0 true) = .ok pattern.parts := by
  rw [parse_eq, bodyParts_top_join hr] at hparse
  obtain ⟨_, -, hmap⟩ := bind_eq_ok.1 hparse
  cases hparts : (wantedParts (splitSlash r.text.toList)).mapM (readTokens 0 true) with
  | error fault => simp [hparts, Except.map] at hmap
  | ok parts =>
    rw [hparts] at hmap
    cases hmap
    rfl

end PathPattern

/-! ## Expansions below a base directory -/

/-- A relative path without two dots, of which no part takes the two dots as a
    pattern. -/
structure StaysBelow (source : Path) : Prop where
  inward : source.IsInward
  inside : ∀ part ∈ source.written, ∀ pattern, readTokens 0 true part = .ok pattern →
    pattern.head? = some (.literal '.') → pattern.isMatch ".." = false

theorem StaysBelow.staysInside {source : Path} {pattern : PathPattern} (h : StaysBelow source)
    (hparse : PathPattern.parse (Path.top.join source).text = .ok pattern) :
    ∀ tokens ∈ pattern.parts, StaysInside tokens := by
  intro tokens htokens
  obtain ⟨part, hmem, hpart⟩ :=
    exists_mem_of_mapM (PathPattern.mapM_of_parse h.inward.relative hparse) htokens
  have hsplit : part ∈ splitSlash source.text.toList := by
    rw [wantedParts] at hmem
    split at hmem
    · exact List.dropLast_subset _ hmem
    · exact hmem
  constructor
  · intro name hname
    rw [literalText?_readTokens hpart hname]
    exact slash_notMem_of_mem_splitSlash hsplit
  · cases part with
    | nil =>
      rw [readTokens] at hpart
      cases hpart
      intro hhead
      cases hhead
    | cons c cs => exact h.inside _ (List.mem_filter.2 ⟨hsplit, rfl⟩) tokens hpart

theorem parts_ne_nil {source : Path} {pattern : PathPattern} (h : source.isAbsolute = false)
    (hne : source.text ≠ "")
    (hparse : PathPattern.parse (Path.top.join source).text = .ok pattern) :
    pattern.parts ≠ [] := by
  intro hnil
  have hmapM := PathPattern.mapM_of_parse h hparse
  rw [hnil, mapM_eq_ok_iff] at hmapM
  have hwanted := List.forall₂_nil_right_iff.1 hmapM
  apply Path.written_ne_nil h hne
  rw [Path.written]
  rw [wantedParts] at hwanted
  split at hwanted
  case isTrue hlast =>
    rcases List.eq_nil_or_concat (splitSlash source.text.toList) with hsplit | ⟨init, last, hsplit⟩
    · exact absurd hsplit (splitSlash_ne_nil _)
    · rw [hsplit] at hlast hwanted ⊢
      simp_all
  case isFalse => exact absurd hwanted (splitSlash_ne_nil _)

/-- The parts of a base directory lead down to it, from where a pattern starts. -/
theorem exists_goDown {t : FileTree} {base : Path} {node : Node} (h : t.Houses base node)
    {before : List (List Char)} (hsub : before ⊆ splitSlash base.text.toList)
    (hwritten : before.filter (!·.isEmpty) = base.written)
    (hfirst : base.isAbsolute = false → ∃ part rest, before = part :: rest ∧ part ≠ []) :
    ∃ b, OnWay base b [] ∧ ∀ (foldersOnly : Bool) (fuel : Nat) (rest : List Pattern), rest ≠ [] →
      expandFrom t foldersOnly (fuel + before.length) (before.map (·.map .literal) ++ rest)
          (if base.isAbsolute then ⟨"/"⟩ else ⟨"."⟩) = expandFrom t foldersOnly fuel rest b := by
  have hparts : ∀ part ∈ before, '/' ∉ part ∧ part ≠ ['.'] ∧ part ≠ ['.', '.'] := by
    intro part hpart
    refine ⟨slash_notMem_of_mem_splitSlash (hsub hpart), ?_, ?_⟩
    · rintro rfl
      exact (h.plain _ (hwritten ▸ List.mem_filter.2 ⟨hpart, rfl⟩)).1 rfl
    · rintro rfl
      exact (h.plain _ (hwritten ▸ List.mem_filter.2 ⟨hpart, rfl⟩)).2 rfl
  cases habs : base.isAbsolute with
  | true =>
    have hway : OnWay base ⟨"/"⟩ before := ⟨hwritten, habs.symm, by decide⟩
    refine ⟨_, onWay_goDown h.plain hway fun part hpart => (hparts part hpart).1, ?_⟩
    intro foldersOnly fuel rest hrest
    exact expandFrom_goDown h hway hparts hrest fuel
  | false =>
    obtain ⟨part, more, rfl, hne⟩ := hfirst habs
    obtain ⟨⟨hslash, hdots⟩, hmore⟩ := List.forall_mem_cons.1 hparts
    have hslash' : '/' ∉ (String.ofList part).toList := by simpa using hslash
    have hway : OnWay base ⟨String.ofList part⟩ more := by
      refine ⟨?_, (Path.isAbsolute_of_slash_notMem hslash').trans habs.symm, ?_⟩
      · rw [Path.written_of_slash_notMem hslash, ← List.filter_append]
        exact hwritten
      · intro hempty
        exact hne (String.ofList_eq_empty_iff.1 hempty)
    have hwithin : within ⟨"."⟩ (String.ofList part) = ⟨String.ofList part⟩ := rfl
    refine ⟨_, onWay_goDown h.plain hway fun part hpart => (hmore part hpart).1, ?_⟩
    intro foldersOnly fuel rest hrest
    rw [List.length_cons, ← Nat.add_assoc, List.map_cons, List.cons_append,
      if_neg Bool.false_ne_true, expandFrom_literal (List.append_ne_nil_of_right_ne_nil _ hrest)
        hdots (hwithin ▸ h.hasEntry_of_onWay hway), hwithin]
    exact expandFrom_goDown h hway hmore hrest fuel

/-- **An expansion below a base directory without wildcards** mirrors the one in
    the tree that holds the directory alone.  The matches are spelled with
    single slashes, so they go on from another spelling of the base. -/
theorem exists_expand_mirrors {t : FileTree} {base source : Path} {node : Node}
    {pattern : PathPattern} (h : t.Houses base node) (hnode : node.isProper = true)
    (hplain : isPattern base.text = false) (hsource : StaysBelow source) (hne : source.text ≠ "")
    (hparse : PathPattern.parse (Path.top.join source).text = .ok pattern) :
    ∃ pattern' b, PathPattern.parse (base.join source).text = .ok pattern' ∧
      t.Houses b node ∧ b.components = base.components ∧
      List.Forall₂ (HitsMirror b) (pattern'.expand t) (pattern.expand node.alone) := by
  obtain ⟨before, hsub, hwritten, hfirst, hjoin⟩ :=
    PathPattern.parse_join h.text_ne_empty hplain hsource.inward.relative
  obtain ⟨b, hway, hdown⟩ := exists_goDown h hsub hwritten hfirst
  obtain ⟨hb, hcomponents⟩ := h.of_onWay hway
  rw [hparse] at hjoin
  have hstart : pattern.start = .top := by
    rw [(PathPattern.parse_eq_ok hparse).1, Path.isAbsolute_join hsource.inward.relative]
    rfl
  have hheight : node.height ≤ t.root.height := by
    obtain ⟨names, -, hat⟩ := FileTree.resolve_eq_ok_iff.1 h.resolve
    exact Node.height_le_of_at? hat
  have hheightAt := node.heightAt_le .top
  cases hbase : PathPattern.parse (base.join source).text with
  | error fault => simp [hbase, Except.toOption] at hjoin
  | ok pattern' =>
    rw [hbase] at hjoin
    cases Option.some.inj hjoin
    refine ⟨_, b, rfl, hb, hcomponents, ?_⟩
    have hlength : (before.map (·.map Token.literal) ++ pattern.parts).length +
        (maxLinks + 1) * (t.root.height + 1) + 1 =
          pattern.parts.length + (maxLinks + 1) * (t.root.height + 1) + 1 + before.length := by
      rw [List.length_append, List.length_map]
      omega
    have hrest := parts_ne_nil hsource.inward.relative hne hparse
    rw [PathPattern.expand, PathPattern.expand, PathPattern.bound, PathPattern.bound, hstart,
      hlength, hdown _ _ _ hrest]
    refine expandFrom_mirrors hb hnode _ ?_ ?_ (hsource.staysInside hparse) (Mirrors.top b)
      (Nat.add_le_add_left hheightAt _)
    · rw [maxLinks]
      omega
    · show _ ≤ pattern.parts.length + (40 + 1) * (node.height + 1) + 1
      omega

end Glob

end PotCatalog
