/-
  Where the matches of a pattern lie.

  An expansion goes down from directory to directory (`Next`), so whatever it
  yields extends the path that it starts from.  Components without wildcards
  are taken as they are; hence all matches of a pattern below a base directory
  without wildcards start with the steps of the base, but not with a dot
  (`PathPattern.steps_prefix_of_mem_expand`).
-/
import PotCatalog.Glob.Expand
import PotCatalog.Proofs.Scan.Walking

namespace PotCatalog.Glob

/-! ## Components of a pattern -/

theorem readClass_ne_literal {cs after : List Char} {token : Token} {c : Char}
    (h : readClass cs = some (token, after)) : token ≠ .literal c := by
  unfold readClass at h
  rintro rfl
  split at h
  · obtain ⟨body, -, hbody⟩ := Option.map_eq_some_iff.1 h
    simp at hbody
  · obtain ⟨body, -, hbody⟩ := Option.map_eq_some_iff.1 h
    simp at hbody

/-- A component without wildcards stands for its own text. -/
theorem literalText?_readTokens {position : Nat} {fresh : Bool} {cs name : List Char}
    {pattern : Pattern} (h : readTokens position fresh cs = .ok pattern)
    (hname : pattern.literalText? = some name) : name = cs := by
  fun_induction readTokens position fresh cs generalizing pattern name with
  | case1 =>
    cases h
    simpa [Pattern.literalText?] using hname.symm
  | case2 | case3 | case6 | case9 => cases h
  | case4 =>
    cases h
    simp [Pattern.literalText?] at hname
  | case5 | case7 | case8 =>
    obtain ⟨rest, -, hrest⟩ := bind_eq_ok.1 h
    cases hrest
    simp [Pattern.literalText?] at hname
  | case10 position fresh rest token after hclass =>
    obtain ⟨rest, -, hrest⟩ := bind_eq_ok.1 h
    cases hrest
    cases token with
    | literal c => exact absurd rfl (readClass_ne_literal hclass)
    | anyOne | anyRun | anyFolders | oneOf | noneOf => simp [Pattern.literalText?] at hname
  | case11 position fresh c rest _ _ _ _ _ ih =>
    obtain ⟨tokens, htokens, hrest⟩ := bind_eq_ok.1 h
    cases hrest
    obtain ⟨text, htext, rfl⟩ := Option.map_eq_some_iff.1 hname
    rw [ih htokens htext]

/-- Whether a character is a wildcard or starts one. -/
def isWildcard (c : Char) : Bool := c == '*' || c == '?' || c == '['

theorem readTokens_of_plain {cs : List Char} (h : ∀ c ∈ cs, isWildcard c = false) (position : Nat)
    (fresh : Bool) : readTokens position fresh cs = .ok (cs.map .literal) := by
  induction cs generalizing position fresh with
  | nil => rw [readTokens]; rfl
  | cons c cs ih =>
    obtain ⟨⟨hstar, hmark⟩, hbracket⟩ : (c ≠ '*' ∧ c ≠ '?') ∧ c ≠ '[' := by
      simpa [isWildcard] using h c (List.mem_cons_self ..)
    rw [readTokens, ih fun d hd => h d (List.mem_cons_of_mem _ hd)]
    · rfl
    all_goals simp_all

theorem literalText?_map_literal (cs : List Char) :
    Pattern.literalText? (cs.map .literal) = some cs := by
  induction cs with
  | nil => rfl
  | cons c cs ih => rw [List.map_cons, Pattern.literalText?, ih]; rfl

/-! ## Steps of an expansion -/

/-- One path is one step below another one. -/
inductive Next (t : FileTree) (folder : Path) : Path → Prop where
  /-- An entry of a directory. -/
  | entry {entries name node} (hlist : t.list folder = .ok entries)
      (hmem : (name, node) ∈ entries) : Next t folder (within folder name)
  /-- A name that every directory has. -/
  | dots {name} (hname : name ∈ dotNames) : Next t folder (folder.join ⟨name⟩)
  /-- A component without wildcards. -/
  | literal {name} (hslash : '/' ∉ name.toList) : Next t folder (within folder name)

/-- A match that is a path itself, or is found further down with some of the
    patterns. -/
def Yields (deeper : List Pattern → Path → List Hit) (patterns : List Pattern) (path p : Path) :
    Prop :=
  p = path ∨ ∃ rest ⊆ patterns, .path p ∈ deeper rest path

section
variable {t : FileTree} {foldersOnly : Bool} {deeper : List Pattern → Path → List Hit}
variable {pattern : Pattern} {patterns rest : List Pattern} {folder path p : Path} {name : String}

theorem Yields.mono (h : Yields deeper rest path p) (hsub : rest ⊆ patterns) :
    Yields deeper patterns path p := by
  rcases h with rfl | ⟨rest', hrest, h⟩
  · exact Or.inl rfl
  · exact Or.inr ⟨rest', List.Subset.trans hrest hsub, h⟩

theorem yields_of_mem_advance (h : .path p ∈ advance t foldersOnly deeper rest path) :
    Yields deeper rest path p := by
  unfold advance at h
  split at h
  · split at h
    · exact Or.inl (by simpa using h)
    · simp at h
  · exact Or.inr ⟨rest, List.Subset.refl rest, h⟩

theorem yields_of_mem_compareName
    (h : .path p ∈ compareName t foldersOnly deeper patterns path name) :
    Yields deeper patterns path p := by
  unfold compareName at h
  split at h
  · simp at h
  · split at h
    · exact (yields_of_mem_advance h).mono (List.subset_cons_self _ _)
    · simp at h

theorem yields_of_mem_compareEntry
    (h : .path p ∈ compareEntry t foldersOnly deeper patterns folder name) :
    Yields deeper patterns (within folder name) p := by
  unfold compareEntry at h
  cases patterns with
  | nil => simp at h
  | cons pattern rest =>
    have hsub : rest.dropWhile Pattern.isRecursive ⊆ rest := (List.dropWhile_sublist _).subset
    have hsub' : rest.dropWhile Pattern.isRecursive ⊆ pattern :: rest :=
      List.Subset.trans hsub (List.subset_cons_self _ _)
    dsimp only at h
    split at h
    · split at h
      · rcases List.mem_append.1 h with h | h
        · split at h
          · exact Or.inl (by simpa using h)
          · exact (yields_of_mem_compareName h).mono hsub'
        -- the recursive pattern goes on below the entry
        · exact Or.inr ⟨_, List.cons_subset_cons _ hsub, h⟩
      · exact (yields_of_mem_compareName h).mono hsub'
    · exact yields_of_mem_compareName h

theorem exists_next_of_mem_expandFolder
    (h : .path p ∈ expandFolder t foldersOnly deeper pattern rest folder) :
    ∃ q, Next t folder q ∧ Yields deeper (pattern :: rest) q p := by
  unfold expandFolder at h
  split at h
  · simp at h
  · split at h
    · simp at h
    · rename_i entries hlist
      rcases List.mem_append.1 h with h | h
      · obtain ⟨name, hname, h⟩ := List.mem_flatMap.1 h
        refine ⟨folder.join ⟨name⟩, .dots ?_, ?_⟩
        · split at hname
          · exact List.mem_of_mem_filter hname
          · simp at hname
        · exact (yields_of_mem_advance h).mono (List.subset_cons_self _ _)
      · obtain ⟨⟨name, node⟩, hmem, h⟩ := List.mem_flatMap.1 h
        exact ⟨within folder name, .entry hlist hmem, yields_of_mem_compareEntry h⟩

theorem mem_advance_of_mem_expandLiteral
    (h : .path p ∈ expandLiteral t foldersOnly deeper name rest folder) :
    .path p ∈ advance t foldersOnly deeper rest (within folder name) := by
  simp only [expandLiteral, List.mem_ite_nil_right] at h
  exact h.2

/-- Whether all names that patterns stand for can be parts of a path. -/
def Slashless (patterns : List Pattern) : Prop :=
  ∀ pattern ∈ patterns, ∀ name, pattern.literalText? = some name → '/' ∉ name

theorem exists_next_of_mem_expandFrom {fuel : Nat} (hpatterns : Slashless patterns)
    (h : .path p ∈ expandFrom t foldersOnly (fuel + 1) patterns path) :
    ∃ q, Next t path q ∧ Yields (expandFrom t foldersOnly fuel) patterns q p := by
  cases patterns with
  | nil => simp [expandFrom] at h
  | cons pattern rest =>
    rw [expandFrom] at h
    split at h
    · rename_i name hname
      have hslash : '/' ∉ (String.ofList name).toList := by
        simpa using hpatterns pattern (List.mem_cons_self ..) name hname
      refine ⟨within path (String.ofList name), .literal hslash, ?_⟩
      exact (yields_of_mem_advance (mem_advance_of_mem_expandLiteral h)).mono
        (List.subset_cons_self _ _)
    · exact exists_next_of_mem_expandFolder h

/-! ## Matches extend their start -/

theorem within_extends (hname : (Path.mk name).isAbsolute = false) :
    (within folder name).Extends folder := by
  unfold within
  split
  · rename_i hfolder
    have hsteps : folder.steps = [] := by rw [Path.steps, hfolder]; rfl
    have hrel : folder.isAbsolute = false := by
      rw [Bool.eq_false_iff, Ne, Path.isAbsolute_iff_root_mem_steps, hsteps]
      simp
    exact ⟨hname.trans hrel.symm, fun hne => absurd hsteps hne⟩
  · exact Path.extends_join hname

theorem Next.extends (ht : t.WellFormed) (h : Next t folder path) : path.Extends folder := by
  cases h with
  | entry hlist hmem =>
    have hname := ht.isInner_of_list hlist hmem
    exact within_extends hname.isAbsolute_eq
  | dots hname =>
    have hslash : ∀ name ∈ dotNames, '/' ∉ name.toList := by decide
    exact Path.extends_join (Path.isAbsolute_of_slash_notMem (hslash _ hname))
  | literal hslash => exact within_extends (Path.isAbsolute_of_slash_notMem hslash)

/-- Whatever an expansion yields goes on from where it starts. -/
theorem expandFrom_extends (ht : t.WellFormed) {fuel : Nat} (hpatterns : Slashless patterns)
    (h : .path p ∈ expandFrom t foldersOnly fuel patterns path) : p.Extends path := by
  induction fuel generalizing patterns path with
  | zero => simp [expandFrom] at h
  | succ fuel ih =>
    obtain ⟨q, hnext, hyields⟩ := exists_next_of_mem_expandFrom hpatterns h
    rcases hyields with rfl | ⟨rest, hsub, h⟩
    · exact hnext.extends ht
    · exact (ih (fun pattern hmem => hpatterns pattern (hsub hmem)) h).trans (hnext.extends ht)

/-! ## Components without wildcards -/

/-- The path that components without wildcards lead to. -/
def goDown (path : Path) (parts : List (List Char)) : Path :=
  parts.foldl (fun d part => within d (String.ofList part)) path

/-- What begins with components without wildcards yields only matches that go
    on from where these lead. -/
theorem extends_goDown_of_mem_expandFrom (ht : t.WellFormed) {parts : List (List Char)} {fuel : Nat}
    (hrest : Slashless rest)
    (h : .path p ∈ expandFrom t foldersOnly fuel (parts.map (·.map .literal) ++ rest) path) :
    p.Extends (goDown path parts) := by
  induction parts generalizing fuel path with
  | nil => exact expandFrom_extends ht hrest h
  | cons part parts ih =>
    cases fuel with
    | zero => simp [expandFrom] at h
    | succ fuel =>
      rw [List.map_cons, List.cons_append, expandFrom, literalText?_map_literal] at h
      have hadvance := mem_advance_of_mem_expandLiteral h
      unfold advance at hadvance
      split at hadvance
      · rename_i hnil
        obtain ⟨hparts, -⟩ := List.append_eq_nil_iff.1 hnil
        obtain rfl := List.map_eq_nil_iff.1 hparts
        rw [List.mem_ite_nil_right, List.mem_singleton] at hadvance
        cases hadvance.2
        exact Path.Extends.refl _
      · exact ih hadvance

/-- A path that starts with a dot only if it is the working directory. -/
structure Bare (path : Path) : Prop where
  relative : path.isAbsolute = false
  within_eq : path.steps = [] → ∀ name, within path name = ⟨name⟩
  startsAtDot : path.steps ≠ [] → path.startsAtDot = false

theorem bare_dot : Bare ⟨"."⟩ where
  relative := rfl
  within_eq _ _ := rfl
  startsAtDot h := absurd rfl h

theorem bare_of_slash_notMem {text : String} (h : '/' ∉ text.toList) : Bare ⟨text⟩ where
  relative := Path.isAbsolute_of_slash_notMem h
  within_eq hsteps name := by
    rw [Path.steps_of_slash_notMem h] at hsteps
    have hidle : isIdlePart text.toList = true := by
      by_contra hne
      unfold Component.ofPart? at hsteps
      split_ifs at hsteps <;> simp at hsteps
    have htext : text = "" ∨ text.toList = ['.'] := by simpa [isIdlePart] using hidle
    rcases htext with rfl | hdot
    · rw [within, Path.join_of_text_eq_empty rfl, ite_self]
    · obtain rfl : text = "." := String.toList_inj.1 hdot
      rfl
  startsAtDot hsteps := by
    rw [Bool.eq_false_iff, Ne, Path.startsAtDot_iff, splitSlash_of_notMem h]
    rintro ⟨parts, hparts⟩
    apply hsteps
    rw [Path.steps_of_slash_notMem h, (List.cons.inj hparts).1]
    rfl

theorem Bare.within (h : Bare path) (hname : '/' ∉ name.toList) :
    Bare (within path name) ∧
      (Glob.within path name).steps = path.steps ++ (Path.mk name).steps := by
  by_cases hsteps : path.steps = []
  · rw [h.within_eq hsteps, hsteps]
    exact ⟨bare_of_slash_notMem hname, rfl⟩
  · have hrel := Path.isAbsolute_of_slash_notMem hname
    have hjoin : Glob.within path name = path.join ⟨name⟩ := by
      rw [Glob.within, if_neg]
      intro hcurrent
      exact hsteps (by rw [Path.steps, hcurrent]; rfl)
    have hne := Path.text_ne_empty_of_steps_ne_nil hsteps
    have hsteps' : (path.join ⟨name⟩).steps = path.steps ++ (Path.mk name).steps :=
      Path.steps_join hrel
    rw [hjoin]
    refine ⟨⟨(Path.isAbsolute_join hrel).trans h.relative, ?_, ?_⟩, hsteps'⟩
    · intro hnil
      rw [hsteps'] at hnil
      exact absurd (List.append_eq_nil_iff.1 hnil).1 hsteps
    · intro _
      rw [Path.startsAtDot_join hrel hne]
      exact h.startsAtDot hsteps

theorem Bare.goDown {parts : List (List Char)} (h : Bare path) (hparts : ∀ part ∈ parts, '/' ∉ part) :
    Bare (goDown path parts) ∧
      (Glob.goDown path parts).steps = path.steps ++ parts.filterMap Component.ofPart? := by
  induction parts generalizing path with
  | nil => exact ⟨h, (List.append_nil _).symm⟩
  | cons part parts ih =>
    have hslash : '/' ∉ (String.ofList part).toList := by
      simpa using hparts part (List.mem_cons_self ..)
    obtain ⟨hbare, hsteps⟩ := h.within hslash
    obtain ⟨hbare', hsteps'⟩ := ih hbare fun other hmem => hparts other (List.mem_cons_of_mem _ hmem)
    refine ⟨hbare', hsteps'.trans ?_⟩
    rw [hsteps, Path.steps_of_slash_notMem hslash, String.toList_ofList, List.append_assoc]
    cases hpart : Component.ofPart? part <;> simp [hpart]

end

/-! ## Patterns below a base directory -/

theorem exists_mem_of_mapM {ε α β : Type} {f : α → Except ε β} {l : List α} {r : List β} {b : β}
    (h : l.mapM f = .ok r) (hb : b ∈ r) : ∃ a ∈ l, f a = .ok b := by
  induction l generalizing r with
  | nil =>
    cases h
    simp at hb
  | cons a l ih =>
    rw [List.mapM_cons] at h
    obtain ⟨first, hfirst, h⟩ := bind_eq_ok.1 h
    obtain ⟨others, hothers, h⟩ := bind_eq_ok.1 h
    cases h
    rcases List.mem_cons.1 hb with rfl | hb
    · exact ⟨a, List.mem_cons_self .., hfirst⟩
    · obtain ⟨other, hmem, hother⟩ := ih hothers hb
      exact ⟨other, List.mem_cons_of_mem _ hmem, hother⟩

theorem mapM_readTokens_of_plain {parts : List (List Char)}
    (h : ∀ part ∈ parts, ∀ c ∈ part, isWildcard c = false) :
    parts.mapM (readTokens 0 true) = .ok (parts.map (·.map .literal)) := by
  induction parts with
  | nil => rfl
  | cons part parts ih =>
    rw [List.mapM_cons, readTokens_of_plain (h part (List.mem_cons_self ..)),
      ih fun other hmem => h other (List.mem_cons_of_mem _ hmem)]
    rfl

namespace PathPattern

variable {t : FileTree} {text : String} {pattern : PathPattern} {p : Path}

theorem parse_eq_ok (h : PathPattern.parse text = .ok pattern) :
    pattern.start = (if (Path.mk text).isAbsolute then ⟨"/"⟩ else ⟨"."⟩) ∧
      ∃ whole parts,
        splitSlash (if (Path.mk text).isAbsolute then text.toList.drop 1 else text.toList) = whole ∧
        (parts = whole ∨ parts = whole.dropLast) ∧
        parts.mapM (readTokens 0 true) = .ok pattern.parts := by
  rw [PathPattern.parse] at h
  obtain ⟨_, -, h⟩ := bind_eq_ok.1 h
  obtain ⟨parts, hparts, h⟩ := bind_eq_ok.1 h
  cases h
  refine ⟨rfl, _, _, rfl, ?_, hparts⟩
  generalize splitSlash _ = whole
  split
  · exact Or.inr rfl
  · exact Or.inl rfl

theorem slashless_parts (h : PathPattern.parse text = .ok pattern) : Slashless pattern.parts := by
  obtain ⟨-, whole, parts, rfl, hwhole, hparts⟩ := parse_eq_ok h
  intro tokens htokens name hname
  obtain ⟨part, hmem, hpart⟩ := exists_mem_of_mapM hparts htokens
  rw [literalText?_readTokens hpart hname]
  rcases hwhole with rfl | rfl
  · exact slash_notMem_of_mem_splitSlash hmem
  · exact slash_notMem_of_mem_splitSlash (List.dropLast_subset _ hmem)

/-- The matches of a pattern are absolute exactly if the pattern is. -/
theorem isAbsolute_of_mem_expand (ht : t.WellFormed) (hparse : PathPattern.parse text = .ok pattern)
    (h : .path p ∈ pattern.expand t) : p.isAbsolute = (Path.mk text).isAbsolute := by
  rw [(expandFrom_extends ht (slashless_parts hparse) h).1, (parse_eq_ok hparse).1]
  cases (Path.mk text).isAbsolute <;> rfl

theorem isWildcard_eq_false {text : String} (h : isPattern text = false) :
    ∀ c ∈ text.toList, isWildcard c = false := by
  simpa [isPattern, isWildcard] using h

/-- A pattern below a base directory without wildcards begins with the parts of
    the base. -/
theorem exists_parts_of_plain {base source : Path} (hbase : base.isAbsolute = false)
    (hplain : isPattern base.text = false) (hne : base.text ≠ "")
    (hsource : source.isAbsolute = false)
    (hparse : PathPattern.parse (base.join source).text = .ok pattern) :
    ∃ (before : List (List Char)) (rest : List Pattern),
      pattern.parts = before.map (·.map .literal) ++ rest ∧
      before.filterMap Component.ofPart? = base.steps ∧ ∀ part ∈ before, '/' ∉ part := by
  obtain ⟨before, -, hjoin, hbefore⟩ := Path.exists_splitSlash_join hsource hne
  have hrel : (base.join source).isAbsolute = false := (Path.isAbsolute_join hsource).trans hbase
  have hmem : ∀ part ∈ before, part ∈ splitSlash base.text.toList := by
    intro part hpart
    rcases hbefore with heq | heq <;> simp [heq, hpart]
  have hwild : ∀ part ∈ before, ∀ c ∈ part, isWildcard c = false := by
    intro part hpart c hc
    exact isWildcard_eq_false hplain c (subset_of_mem_splitSlash (hmem part hpart) hc)
  obtain ⟨-, whole, parts, hwhole, htrim, hparts⟩ := parse_eq_ok hparse
  rw [hrel, if_neg Bool.false_ne_true, hjoin] at hwhole
  obtain ⟨after, rfl⟩ : ∃ after, parts = before ++ after := by
    rcases htrim with rfl | rfl
    · exact ⟨_, hwhole.symm⟩
    · exact ⟨_, by rw [← hwhole, List.dropLast_append_of_ne_nil (splitSlash_ne_nil _)]⟩
  rw [List.mapM_append, mapM_readTokens_of_plain hwild] at hparts
  obtain ⟨first, hfirst, hparts⟩ := bind_eq_ok.1 hparts
  obtain ⟨rest, -, hparts⟩ := bind_eq_ok.1 hparts
  cases hfirst
  refine ⟨before, rest, (Except.ok.inj hparts).symm, ?_, ?_⟩
  · rw [Path.steps_eq, hbase]
    rcases hbefore with heq | heq <;> simp [heq, Component.ofPart?_nil]
  · intro part hpart
    exact slash_notMem_of_mem_splitSlash (hmem part hpart)

/-- **The matches of a pattern below a base directory start with the steps of
    the base,** and not with a dot, if the base has no wildcards. -/
theorem steps_prefix_of_mem_expand {base source : Path} (ht : t.WellFormed)
    (hbase : base.isAbsolute = false) (hplain : isPattern base.text = false)
    (hsteps : base.steps ≠ []) (hsource : source.isAbsolute = false)
    (hparse : PathPattern.parse (base.join source).text = .ok pattern)
    (h : .path p ∈ pattern.expand t) : base.steps <+: p.components := by
  obtain ⟨before, rest, hparts, hbefore, hslash⟩ := exists_parts_of_plain hbase hplain
    (Path.text_ne_empty_of_steps_ne_nil hsteps) hsource hparse
  have hrel : (base.join source).isAbsolute = false := (Path.isAbsolute_join hsource).trans hbase
  have hstart : pattern.start = ⟨"."⟩ := by rw [(parse_eq_ok hparse).1, hrel]; rfl
  have hrest : Slashless rest := by
    intro tokens htokens
    exact slashless_parts hparse tokens (hparts ▸ List.mem_append_right _ htokens)
  rw [expand, hparts, hstart] at h
  obtain ⟨hbare, hdown⟩ := bare_dot.goDown hslash
  have hdown' : (goDown ⟨"."⟩ before).steps = base.steps := hdown.trans hbefore
  have hcomponents : (goDown ⟨"."⟩ before).components = base.steps := by
    rw [Path.components_eq_steps, hbare.startsAtDot (hdown' ▸ hsteps), hdown']
    rfl
  rw [← hcomponents]
  exact (extends_goDown_of_mem_expandFrom ht hrest h).2 (hdown' ▸ hsteps)

end PathPattern

end PotCatalog.Glob
