/-
  Where the moves of a path lead.

  `Leads` says what it means to follow moves, as a relation with one rule for
  each kind of move; `follow_eq_ok_iff` is its agreement with `follow`.  Idle
  moves may be dropped anywhere and added in front of any other move, so where
  a path that ends in a step leads depends only on its steps
  (`reaches_of_locate`, `Reaches.locate`).
-/
import PotCatalog.Files.Tree
import PotCatalog.Proofs.Scan.Steps

namespace PotCatalog

/-! ## Results and places -/

theorem bind_eq_ok {ε α β : Type} {x : Except ε α} {f : α → Except ε β} {b : β} :
    x >>= f = .ok b ↔ ∃ a, x = .ok a ∧ f a = .ok b := by
  cases x with
  | error e => simp [bind, Except.bind]
  | ok a => simp [bind, Except.bind]

theorem Node.at?_append (node : Node) (xs ys : List String) :
    node.at? (xs ++ ys) = (node.at? xs).bind (·.at? ys) := by
  induction xs generalizing node with
  | nil => rfl
  | cons x xs ih =>
    cases h : node.child? x <;> simp [Node.at?, h, ih]

/-! ## Following as a relation -/

/-- Moves lead from a directory to a place, through at most `links` links. -/
inductive Leads (root : Node) : (links : Nat) → (here : List String) → List Move →
    List String → Prop where
  | done {links here} : Leads root links here [] here
  | slash {links here rest names isOpen entries}
      (hhere : root.at? here = some (.folder isOpen entries))
      (hrest : Leads root links here rest names) :
      Leads root links here (.slash :: rest) names
  | stay {links here rest names entries}
      (hhere : root.at? here = some (.folder true entries))
      (hrest : Leads root links here rest names) :
      Leads root links here (.stay :: rest) names
  | up {links here rest names entries}
      (hhere : root.at? here = some (.folder true entries))
      (hrest : Leads root links here.dropLast rest names) :
      Leads root links here (.up :: rest) names
  /-- The last name may be free. -/
  | free {links here rest name entries}
      (hhere : root.at? here = some (.folder true entries))
      (hfind : Entries.find? entries name = none)
      (hrest : rest = [] ∨ rest = [.slash]) :
      Leads root links here (.down name :: rest) (here ++ [name])
  | link {links here rest names name entries target}
      (hhere : root.at? here = some (.folder true entries))
      (hfind : Entries.find? entries name = some (.link target))
      (hrest : Leads root links (if target.isAbsolute then [] else here)
        (target.moves ++ rest) names) :
      Leads root (links + 1) here (.down name :: rest) names
  | down {links here rest names name entries node}
      (hhere : root.at? here = some (.folder true entries))
      (hfind : Entries.find? entries name = some node)
      (hnode : ∀ target, node ≠ .link target)
      (hrest : Leads root links (here ++ [name]) rest names) :
      Leads root links here (.down name :: rest) names

section
variable {root : Node} {links : Nat} {here names : List String} {moves : List Move}

/-- Whatever moves are followed for, they lead where they lead to be looked at,
    unless a link itself is asked for. -/
theorem leads_of_follow {purpose : Purpose}
    (h : FileTree.follow root purpose links here moves = .ok names)
    (hentry : purpose = .entry → ∀ target, root.at? names ≠ some (.link target)) :
    Leads root links here moves names := by
  fun_induction FileTree.follow root purpose links here moves with
  | case1 => cases h; exact .done
  | case2 | case3 | case4 | case5 | case9 | case11 | case13 => cases h
  | case6 links here rest isOpen entries hhere hopen ih =>
    obtain rfl : isOpen = true := by simpa using hopen
    exact .stay hhere (ih h)
  | case7 links here rest isOpen entries hhere hopen ih => exact .slash hhere (ih h)
  | case8 links here rest isOpen entries hhere hopen ih =>
    obtain rfl : isOpen = true := by simpa using hopen
    exact .up hhere (ih h)
  | case10 links here rest isOpen entries hhere name _ hfind hrest hopen =>
    obtain rfl : isOpen = true := by simpa using hopen
    cases h
    exact .free hhere hfind (by simpa using hrest)
  | case12 links here rest isOpen entries hhere name _ target hfind hlast =>
    cases h
    refine absurd ?_ (hentry (by simp_all) target)
    simp [Node.at?_append, hhere, Node.at?, Node.child?, hfind]
  | case14 here rest isOpen entries hhere name _ target hfind _ links hopen ih =>
    obtain rfl : isOpen = true := by simpa using hopen
    exact .link hhere hfind (ih h)
  | case15 links here rest isOpen entries hhere name _ node hnode hfind hopen ih =>
    obtain rfl : isOpen = true := by simpa using hopen
    exact .down hhere hfind hnode (ih h)

theorem Leads.follow_eq (h : Leads root links here moves names) :
    FileTree.follow root .inspect links here moves = .ok names := by
  induction h with
  | done => rw [FileTree.follow]
  | slash hhere hrest ih => rw [FileTree.follow, hhere]; simpa using ih
  | stay hhere hrest ih => rw [FileTree.follow, hhere]; simpa using ih
  | up hhere hrest ih => rw [FileTree.follow, hhere]; simpa using ih
  | free hhere hfind hrest => rw [FileTree.follow, hhere]; simp [hfind, hrest]
  | link hhere hfind hrest ih => rw [FileTree.follow, hhere]; simpa [hfind] using ih
  | down hhere hfind hnode hrest ih => rw [FileTree.follow, hhere]; simpa [hfind] using ih

theorem follow_eq_ok_iff :
    FileTree.follow root .inspect links here moves = .ok names ↔ Leads root links here moves names :=
  ⟨fun h => leads_of_follow h nofun, Leads.follow_eq⟩

theorem Leads.unique {names' : List String} (h : Leads root links here moves names)
    (h' : Leads root links here moves names') : names = names' :=
  Except.ok.inj (h.follow_eq.symm.trans h'.follow_eq)

/-! ## Idle moves -/

/-- Whether a move leads nowhere. -/
def Move.isIdle : Move → Bool
  | stay | slash => true
  | up | down _ => false

/-- What comes last may be exchanged for moves that lead to the same places. -/
theorem Leads.exchange {xs ms ms' : List Move} (h : Leads root links here (xs ++ ms) names)
    (hne : ms ≠ []) (hslash : ms = [.slash] → ms' = [])
    (hms : ∀ links here names, Leads root links here ms names → Leads root links here ms' names) :
    Leads root links here (xs ++ ms') names := by
  -- a link puts its own moves in front, so `xs` has to vary along the run
  generalize hmoves : xs ++ ms = moves at h
  induction h generalizing xs with
  | done => exact absurd (List.append_eq_nil_iff.1 hmoves).2 hne
  | slash hhere hrest ih =>
    cases xs with
    | nil =>
      rw [List.nil_append] at hmoves ⊢
      exact hms _ _ _ (hmoves ▸ .slash hhere hrest)
    | cons x xs =>
      obtain ⟨rfl, rfl⟩ := List.cons.inj hmoves
      exact .slash hhere (ih rfl)
  | stay hhere hrest ih =>
    cases xs with
    | nil =>
      rw [List.nil_append] at hmoves ⊢
      exact hms _ _ _ (hmoves ▸ .stay hhere hrest)
    | cons x xs =>
      obtain ⟨rfl, rfl⟩ := List.cons.inj hmoves
      exact .stay hhere (ih rfl)
  | up hhere hrest ih =>
    cases xs with
    | nil =>
      rw [List.nil_append] at hmoves ⊢
      exact hms _ _ _ (hmoves ▸ .up hhere hrest)
    | cons x xs =>
      obtain ⟨rfl, rfl⟩ := List.cons.inj hmoves
      exact .up hhere (ih rfl)
  | free hhere hfind hrest =>
    cases xs with
    | nil =>
      rw [List.nil_append] at hmoves ⊢
      exact hms _ _ _ (hmoves ▸ .free hhere hfind hrest)
    | cons x xs =>
      obtain ⟨rfl, rfl⟩ := List.cons.inj hmoves
      have hlast : xs = [] ∧ ms = [.slash] := by
        simpa [hne, List.append_eq_singleton_iff] using hrest
      exact .free hhere hfind (Or.inl (by simp [hlast.1, hslash hlast.2]))
  | link hhere hfind hrest ih =>
    cases xs with
    | nil =>
      rw [List.nil_append] at hmoves ⊢
      exact hms _ _ _ (hmoves ▸ .link hhere hfind hrest)
    | cons x xs =>
      obtain ⟨rfl, rfl⟩ := List.cons.inj hmoves
      have hrest' := ih (List.append_assoc ..)
      rw [List.append_assoc] at hrest'
      exact .link hhere hfind hrest'
  | down hhere hfind hnode hrest ih =>
    cases xs with
    | nil =>
      rw [List.nil_append] at hmoves ⊢
      exact hms _ _ _ (hmoves ▸ .down hhere hfind hnode hrest)
    | cons x xs =>
      obtain ⟨rfl, rfl⟩ := List.cons.inj hmoves
      exact .down hhere hfind hnode (ih rfl)

theorem Leads.exists_open {m : Move} {rest : List Move} (hm : m ≠ .slash)
    (h : Leads root links here (m :: rest) names) :
    ∃ entries, root.at? here = some (.folder true entries) := by
  cases h with
  | slash => exact absurd rfl hm
  | stay hhere | up hhere | free hhere | link hhere | down hhere => exact ⟨_, hhere⟩

theorem Leads.drop_idle {xs ms : List Move} (h : Leads root links here (xs ++ ms) names) :
    Leads root links here (xs ++ ms.filter (!·.isIdle)) names := by
  induction ms generalizing xs with
  | nil => exact h
  | cons m ms ih =>
    cases hm : m.isIdle with
    | true =>
      rw [List.filter_cons_of_neg (by simp [hm])]
      refine ih (h.exchange (by simp) (by simp) ?_)
      intro links here names h
      cases h with
      | stay _ hrest | slash _ hrest => exact hrest
      | up | free | link | down => simp [Move.isIdle] at hm
    | false =>
      rw [List.filter_cons_of_pos (by simp [hm]), List.append_cons]
      apply ih
      rwa [← List.append_cons]

theorem Leads.add_stays {xs ms : List Move} {m : Move} (hm : m ≠ .slash) (hms : .slash ∉ ms)
    (h : Leads root links here (xs ++ (ms.filter (!·.isIdle) ++ [m])) names) :
    Leads root links here (xs ++ (ms ++ [m])) names := by
  induction ms generalizing xs with
  | nil => exact h
  | cons a ms ih =>
    obtain ⟨ha, hslash⟩ : .slash ≠ a ∧ .slash ∉ ms := by simpa using hms
    cases hidle : a.isIdle with
    | true =>
      obtain rfl : a = .stay := by cases a <;> simp_all [Move.isIdle]
      rw [List.filter_cons_of_neg (by simp [hidle])] at h
      obtain ⟨b, rest, hb, hcons⟩ : ∃ b rest, b ≠ .slash ∧ ms ++ [m] = b :: rest := by
        cases ms with
        | nil => exact ⟨m, [], hm, rfl⟩
        | cons b ms => exact ⟨b, ms ++ [m], fun hb => hslash (by simp [hb]), rfl⟩
      have hrest := ih hslash h
      rw [List.cons_append, hcons] at *
      refine hrest.exchange (by simp) (by simp [hb]) ?_
      intro links here names h
      obtain ⟨entries, hhere⟩ := h.exists_open hb
      exact .stay hhere h
    | false =>
      rw [List.filter_cons_of_pos (by simp [hidle]), List.cons_append, List.append_cons] at h
      rw [List.cons_append, List.append_cons]
      exact ih hslash h

/-! ## Going down -/

theorem Leads.down_from {name : String} {entries : Entries} {node : Node}
    (h : Leads root links here moves names) (hnames : root.at? names = some (.folder true entries))
    (hfind : Entries.find? entries name = some node) (hnode : ∀ target, node ≠ .link target) :
    Leads root links here (moves ++ [.down name]) (names ++ [name]) := by
  induction h with
  | done => exact .down hnames hfind hnode .done
  | slash hhere _ ih => exact .slash hhere (ih hnames)
  | stay hhere _ ih => exact .stay hhere (ih hnames)
  | up hhere _ ih => exact .up hhere (ih hnames)
  | free hhere hfree _ => simp [Node.at?_append, hhere, Node.at?, Node.child?, hfree] at hnames
  | link hhere hlink _ ih =>
    have hrest := ih hnames
    rw [List.append_assoc] at hrest
    exact .link hhere hlink hrest
  | down hhere hdown hnode _ ih => exact .down hhere hdown hnode (ih hnames)

theorem Node.at?_dropLast_ne_link (hroot : root.isFolder = true)
    (hhere : (root.at? here).isSome) (target : Path) :
    root.at? here.dropLast ≠ some (.link target) := by
  intro hlink
  rcases List.eq_nil_or_concat here with rfl | ⟨before, name, rfl⟩
  · cases hlink
    simp [Node.isFolder] at hroot
  · rw [List.concat_eq_append, List.dropLast_concat] at hlink
    simp [Node.at?_append, hlink, Node.at?, Node.child?] at hhere

/-- Links are followed to their end. -/
theorem Leads.at?_ne_link (hroot : root.isFolder = true) (h : Leads root links here moves names)
    (hhere : ∀ target, root.at? here ≠ some (.link target)) (target : Path) :
    root.at? names ≠ some (.link target) := by
  induction h with
  | done => exact hhere target
  | slash hat _ ih | stay hat _ ih => exact ih (by simp [hat])
  | up hat _ ih => exact ih (Node.at?_dropLast_ne_link hroot (by simp [hat]))
  | free hat hfree _ => simp [Node.at?_append, hat, Node.at?, Node.child?, hfree]
  | link hat _ _ ih =>
    apply ih
    intro other hother
    split at hother
    · cases hother
      simp [Node.isFolder] at hroot
    · rw [hat] at hother
      cases hother
  | down hat hfind hnode _ ih =>
    apply ih
    intro other hother
    rw [Node.at?_append, hat, Option.bind_some, Node.at?, Node.child?, hfind] at hother
    exact hnode other (Option.some.inj hother)

end

/-! ## Steps -/

/-- The move that a step stands for. -/
def Component.move? : Component → Option Move
  | root | current => none
  | parent => some .up
  | name text => some (.down text)

theorem Move.filter_ofPart? (part : List Char) :
    (Move.ofPart? part).filter (!·.isIdle) = (Component.ofPart? part).bind Component.move? := by
  by_cases hempty : part.isEmpty = true
  · simp [Move.ofPart?, Component.ofPart?, isIdlePart, hempty]
  · by_cases hdot : part = ['.']
    · rw [hdot]
      rfl
    · by_cases hdots : part = ['.', '.']
      · rw [hdots]
        rfl
      · simp [Move.ofPart?, Component.ofPart?, isIdlePart, hempty, hdot, hdots, Move.isIdle,
          Component.move?]

theorem Path.filter_moves (p : Path) :
    p.moves.filter (!·.isIdle) = p.steps.filterMap Component.move? := by
  have hslash : (if p.endsInSlash then [Move.slash] else []).filter (!·.isIdle) = [] := by
    split <;> rfl
  have hroot : (if p.isAbsolute then [Component.root] else []).filterMap Component.move? = [] := by
    split <;> rfl
  rw [Path.moves, Path.steps_eq, List.filter_append, List.filterMap_append, hslash, hroot,
    List.append_nil, List.nil_append, List.filter_filterMap, List.filterMap_filterMap]
  exact List.filterMap_congr fun part _ => Move.filter_ofPart? part

theorem Move.ofPart?_ne_slash {part : List Char} {m : Move} (h : Move.ofPart? part = some m) :
    m ≠ .slash := by
  unfold Move.ofPart? at h
  rintro rfl
  split_ifs at h <;> simp at h

theorem exists_part_of_mem {cs : List Char} {c : Char} (h : c ∈ cs) (hc : c ≠ '/') :
    ∃ part ∈ splitSlash cs, part ≠ [] := by
  induction cs with
  | nil => simp at h
  | cons a cs ih =>
    rw [splitSlash]
    obtain ⟨first, parts, hsplit⟩ := List.exists_cons_of_ne_nil (splitSlash_ne_nil cs)
    split_ifs with ha
    · have hmem : c ∈ cs := by
        rcases List.mem_cons.1 h with rfl | h
        · exact absurd ha hc
        · exact h
      obtain ⟨part, hpart, hne⟩ := ih hmem
      exact ⟨part, List.mem_cons_of_mem _ hpart, hne⟩
    · rw [hsplit]
      exact ⟨a :: first, List.mem_cons_self .., List.cons_ne_nil _ _⟩

theorem Path.moves_ne_nil {p : Path} (h : p.text ≠ "") : p.moves ≠ [] := by
  intro hmoves
  obtain ⟨hparts, hslash⟩ := List.append_eq_nil_iff.1 hmoves
  obtain ⟨xs, c, hlast⟩ : ∃ xs c, p.text.toList = xs ++ [c] := by
    rcases List.eq_nil_or_concat p.text.toList with hnil | ⟨xs, c, hlast⟩
    · exact absurd (String.toList_eq_nil_iff.1 hnil) h
    · exact ⟨xs, c, by rw [hlast, List.concat_eq_append]⟩
  have hc : c ≠ '/' := by
    rintro rfl
    simp [Path.endsInSlash, hlast] at hslash
  have hmem : c ∈ p.text.toList := by simp [hlast]
  obtain ⟨part, hpart, hne⟩ := exists_part_of_mem hmem hc
  have hnone := List.filterMap_eq_nil_iff.1 hparts part hpart
  unfold Move.ofPart? at hnone
  split_ifs at hnone with hempty
  exact hne (List.isEmpty_iff.1 hempty)

/-- A path whose last part is a step. -/
def Path.EndsInStep (p : Path) : Prop :=
  ∃ parts part, splitSlash p.text.toList = parts ++ [part] ∧ isIdlePart part = false

theorem Path.EndsInStep.exists_moves {p : Path} (h : p.EndsInStep) :
    ∃ ms m, p.moves = ms ++ [m] ∧ .slash ∉ ms ∧ m.isIdle = false := by
  obtain ⟨parts, part, hs, hpart⟩ := h
  obtain ⟨m, hm, hidle⟩ : ∃ m, Move.ofPart? part = some m ∧ m.isIdle = false := by
    obtain ⟨hempty, hdot⟩ : part.isEmpty = false ∧ part ≠ ['.'] := by
      simpa [isIdlePart] using hpart
    by_cases hdots : part = ['.', '.']
    · exact ⟨.up, by rw [hdots]; rfl, rfl⟩
    · exact ⟨.down (String.ofList part), by simp [Move.ofPart?, hempty, hdot, hdots], rfl⟩
  have hslash : p.endsInSlash = false := by
    rw [Bool.eq_false_iff]
    intro hslash
    obtain ⟨xs, hxs⟩ := List.getLast?_eq_some_iff.1 (beq_iff_eq.1 hslash)
    rw [hxs, splitSlash_append] at hs
    obtain rfl : part = [] := (List.append_inj_right' hs rfl |> List.cons.inj).1.symm
    simp [isIdlePart] at hpart
  refine ⟨parts.filterMap Move.ofPart?, m, ?_, ?_, hidle⟩
  · simp [Path.moves, hs, hslash, hm]
  · intro hmem
    obtain ⟨other, -, hother⟩ := List.mem_filterMap.1 hmem
    exact Move.ofPart?_ne_slash hother rfl

theorem Path.EndsInStep.join {base p : Path} (h : p.EndsInStep) : (base.join p).EndsInStep := by
  cases hp : p.isAbsolute with
  | true => rwa [Path.join_of_isAbsolute hp]
  | false =>
    by_cases hb : base.text = ""
    · rwa [Path.join_of_text_eq_empty hb]
    · obtain ⟨before, -, hjoin, -⟩ := Path.exists_splitSlash_join hp hb
      obtain ⟨parts, part, hs, hpart⟩ := h
      refine ⟨before ++ parts, part, ?_, hpart⟩
      rw [hjoin, hs, List.append_assoc]

namespace FileTree

/-- Steps lead to a place in a tree. -/
def Reaches (t : FileTree) (steps : List Component) (names : List String) : Prop :=
  Leads t.root maxLinks (if .root ∈ steps then [] else t.workingDir)
    (steps.filterMap Component.move?) names

variable {t : FileTree} {p : Path} {names : List String}

theorem locate_eq_ok_iff :
    t.locate .inspect p = .ok names ↔
      p.text ≠ "" ∧
        Leads t.root maxLinks (if .root ∈ p.steps then [] else t.workingDir) p.moves names := by
  rw [locate, ← follow_eq_ok_iff]
  by_cases hp : p.text = ""
  · simp [hp]
  · simp [hp, Path.isAbsolute_iff_root_mem_steps]

theorem resolve_eq_ok_iff {node : Node} :
    t.resolve p = .ok node ↔
      ∃ names, t.locate .inspect p = .ok names ∧ t.root.at? names = some node := by
  rw [resolve, bind_eq_ok]
  refine exists_congr fun names => and_congr_right fun _ => ?_
  cases t.root.at? names with
  | none => simp
  | some other => simp [pure, Except.pure]

theorem pathExists_iff :
    t.pathExists p = true ↔
      ∃ names, t.locate .inspect p = .ok names ∧ (t.root.at? names).isSome := by
  have htest : t.pathExists p = true ↔ ∃ node, t.resolve p = .ok node := by
    rw [pathExists]
    cases t.resolve p <;> simp
  simp only [htest, resolve_eq_ok_iff, Option.isSome_iff_exists]
  constructor
  · rintro ⟨node, names, hlocate, hat⟩
    exact ⟨names, hlocate, node, hat⟩
  · rintro ⟨names, hlocate, node, hat⟩
    exact ⟨node, names, hlocate, hat⟩

theorem read_of_locate {text : String} (h : t.locate .inspect p = .ok names)
    (hat : t.root.at? names = some (.ofText text)) : t.read p = .ok text := by
  have htext : String.fromUTF8? text.toUTF8 = some text := by
    unfold String.fromUTF8?
    exact dif_pos text.isValidUTF8
  simp only [read, resolve_eq_ok_iff.2 ⟨names, h, hat⟩, bind, Except.bind, Node.ofText, htext]
  rfl

theorem isFile_iff :
    t.isFile p = true ↔
      ∃ names content, t.locate .inspect p = .ok names ∧
        t.root.at? names = some (.file content) := by
  have htest : t.isFile p = true ↔ ∃ node, t.resolve p = .ok node ∧ node.isFile = true := by
    rw [isFile]
    cases t.resolve p <;> simp
  rw [htest]
  constructor
  · rintro ⟨node, hnode, hfile⟩
    obtain ⟨names, hlocate, hat⟩ := resolve_eq_ok_iff.1 hnode
    cases node with
    | file content => exact ⟨names, content, hlocate, hat⟩
    | link | folder => simp [Node.isFile] at hfile
  · rintro ⟨names, content, hlocate, hat⟩
    exact ⟨_, resolve_eq_ok_iff.2 ⟨names, hlocate, hat⟩, rfl⟩

theorem isFolder_iff :
    t.isFolder p = true ↔
      ∃ names isOpen entries, t.locate .inspect p = .ok names ∧
        t.root.at? names = some (.folder isOpen entries) := by
  have htest : t.isFolder p = true ↔ ∃ node, t.resolve p = .ok node ∧ node.isFolder = true := by
    rw [isFolder]
    cases t.resolve p <;> simp
  rw [htest]
  constructor
  · rintro ⟨node, hnode, hfolder⟩
    obtain ⟨names, hlocate, hat⟩ := resolve_eq_ok_iff.1 hnode
    cases node with
    | folder isOpen entries => exact ⟨names, isOpen, entries, hlocate, hat⟩
    | link | file => simp [Node.isFolder] at hfolder
  · rintro ⟨names, isOpen, entries, hlocate, hat⟩
    exact ⟨_, resolve_eq_ok_iff.2 ⟨names, hlocate, hat⟩, rfl⟩

theorem reaches_of_locate (h : t.locate .inspect p = .ok names) : t.Reaches p.steps names := by
  have hmoves := (locate_eq_ok_iff.1 h).2
  rw [← List.nil_append p.moves] at hmoves
  rw [Reaches, ← Path.filter_moves]
  exact hmoves.drop_idle

theorem Reaches.locate (h : t.Reaches p.steps names) (hp : p.EndsInStep) :
    t.locate .inspect p = .ok names := by
  obtain ⟨ms, m, hmoves, hslash, hm⟩ := hp.exists_moves
  have hne : p.text ≠ "" := by
    intro hempty
    simp [Path.moves, hempty, splitSlash, Path.endsInSlash, Move.ofPart?] at hmoves
  have hlast : m ≠ .slash := by
    rintro rfl
    simp [Move.isIdle] at hm
  rw [Reaches, ← Path.filter_moves, hmoves, List.filter_append,
    List.filter_cons_of_pos (by simp [hm]), List.filter_nil, ← List.nil_append (_ ++ _)] at h
  rw [locate_eq_ok_iff, hmoves]
  exact ⟨hne, h.add_stays hlast hslash⟩

theorem Reaches.down {steps : List Component} {name : String} {entries : Entries} {node : Node}
    (h : t.Reaches steps names) (hnames : t.root.at? names = some (.folder true entries))
    (hfind : Entries.find? entries name = some node) (hnode : ∀ target, node ≠ .link target) :
    t.Reaches (steps ++ [.name name]) (names ++ [name]) := by
  have hdown := Leads.down_from h hnames hfind hnode
  simpa [Reaches, Component.move?] using hdown

end FileTree

end PotCatalog
