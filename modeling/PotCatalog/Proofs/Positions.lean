/-
  Positions in a tree, and what is listed along them.

  A tree is given by the children of each node.  A position is a list of
  numbers, each the choice of one child, and `nodeAt?` is the node at a
  position.  Some nodes hold an item (`own`).

  `exists_listing`: a list that is made, for every node, of its own item and
  then of the lists of its children holds the item at each position exactly
  once, an outer item before the items inside it.
-/
import Mathlib.Data.List.Basic

namespace PotCatalog

variable {α β : Type} (children : α → List α) (own : α → Option β)

/-! ## Positions -/

/-- The node at a position. -/
def nodeAt? : α → List Nat → Option α
  | node, [] => some node
  | node, i :: position => (children node)[i]?.bind (nodeAt? · position)

/-- The item at a position. -/
def itemAt? (node : α) (position : List Nat) : Option β := (nodeAt? children node position).bind own

/-- The item at a position below one of several nodes: the first number chooses
    the node. -/
def itemIn? (nodes : List α) : List Nat → Option β
  | [] => none
  | i :: position => nodes[i]?.bind (itemAt? children own · position)

theorem itemAt?_nil (node : α) : itemAt? children own node [] = own node := rfl

theorem itemAt?_cons (node : α) (i : Nat) (position : List Nat) :
    itemAt? children own node (i :: position) = itemIn? children own (children node) (i :: position) := by
  rw [itemAt?, nodeAt?, itemIn?, Option.bind_assoc]
  rfl

/-! ## Listings -/

/-- Items listed with their positions: those at all positions that have one, an
    outer item before the items inside it. -/
structure Listing (look : List Nat → Option β) (found : List (List Nat × β)) : Prop where
  mem_iff : ∀ position item, (position, item) ∈ found ↔ look position = some item
  outer_first : found.Pairwise fun a b => ¬ b.1 <+: a.1

theorem Listing.nodup {look : List Nat → Option β} {found : List (List Nat × β)}
    (h : Listing look found) : (found.map Prod.fst).Nodup := by
  rw [List.Nodup, List.pairwise_map]
  exact h.outer_first.imp fun {a b} hab he => hab (by simp [he])

variable {children own}

theorem Listing.ne_nil {nodes : List α} {found : List (List Nat × β)}
    (h : Listing (itemIn? children own nodes) found) : ∀ a ∈ found, a.1 ≠ [] := by
  rintro ⟨position, item⟩ ha rfl
  simpa [itemIn?] using (h.mem_iff [] item).1 ha

/-- **One more node in front of some nodes.**  The positions below it begin
    with a zero, and those of all other nodes move on by one. -/
theorem Listing.cons {node : α} {nodes : List α} {first rest : List (List Nat × β)}
    (hfirst : Listing (itemAt? children own node) first)
    (hrest : Listing (itemIn? children own nodes) rest) :
    Listing (itemIn? children own (node :: nodes))
      (first.map (fun a => (0 :: a.1, a.2)) ++ rest.map fun a => (a.1.modifyHead (· + 1), a.2)) where
  mem_iff position item := by
    rw [List.mem_append, List.mem_map, List.mem_map]
    constructor
    · rintro (⟨⟨below, _⟩, hmem, heq⟩ | ⟨⟨old, _⟩, hmem, heq⟩)
      · obtain ⟨rfl, rfl⟩ := Prod.mk.inj heq
        exact (hfirst.mem_iff below _).1 hmem
      · obtain ⟨rfl, rfl⟩ := Prod.mk.inj heq
        obtain ⟨i, below, rfl⟩ := List.exists_cons_of_ne_nil (hrest.ne_nil _ hmem)
        exact (hrest.mem_iff (i :: below) _).1 hmem
    · intro h
      match position, h with
      | 0 :: below, h => exact Or.inl ⟨(below, item), (hfirst.mem_iff below item).2 h, rfl⟩
      | (i + 1) :: below, h => exact Or.inr ⟨(i :: below, item), (hrest.mem_iff _ item).2 h, rfl⟩
  outer_first := by
    rw [List.pairwise_append, List.pairwise_map, List.pairwise_map]
    refine ⟨?_, ?_, ?_⟩
    · refine hfirst.outer_first.imp fun hab => ?_
      simpa [List.cons_prefix_cons] using hab
    · refine hrest.outer_first.imp_of_mem fun {a b} ha hb hab => ?_
      obtain ⟨i, p, hp⟩ := List.exists_cons_of_ne_nil (hrest.ne_nil a ha)
      obtain ⟨j, q, hq⟩ := List.exists_cons_of_ne_nil (hrest.ne_nil b hb)
      rw [hp, hq] at hab ⊢
      simpa [List.cons_prefix_cons] using hab
    · intro a ha b hb
      obtain ⟨a, -, rfl⟩ := List.mem_map.1 ha
      obtain ⟨b, hmem, rfl⟩ := List.mem_map.1 hb
      obtain ⟨j, q, hq⟩ := List.exists_cons_of_ne_nil (hrest.ne_nil b hmem)
      simp [hq, List.cons_prefix_cons]

/-- Some nodes are listed one after another. -/
theorem exists_listing_list {list : α → List β} {nodes : List α}
    (h : ∀ node ∈ nodes, ∃ found, found.map Prod.snd = list node ∧
      Listing (itemAt? children own node) found) :
    ∃ found, found.map Prod.snd = nodes.flatMap list ∧
      Listing (itemIn? children own nodes) found := by
  induction nodes with
  | nil => exact ⟨[], rfl, ⟨by rintro (_ | _) <;> simp [itemIn?], .nil⟩⟩
  | cons node nodes ih =>
    obtain ⟨first, hitems, hfirst⟩ := h node (List.mem_cons_self ..)
    obtain ⟨rest, hitems', hrest⟩ := ih fun other hother => h other (List.mem_cons_of_mem _ hother)
    refine ⟨_, ?_, hfirst.cons hrest⟩
    rw [List.flatMap_cons, ← hitems, ← hitems']
    simp [Function.comp_def]

/-- **From the children of a node to the node,** whose own item comes first. -/
theorem Listing.node {node : α} {found : List (List Nat × β)}
    (h : Listing (itemIn? children own (children node)) found) :
    Listing (itemAt? children own node) ((own node).toList.map (([], ·)) ++ found) where
  mem_iff position item := by
    rw [List.mem_append]
    cases position with
    | nil =>
      have hno : ([], item) ∉ found := fun hmem => h.ne_nil _ hmem rfl
      simp [hno, itemAt?_nil]
    | cons i position => simp [itemAt?_cons, h.mem_iff]
  outer_first := by
    rw [List.pairwise_append]
    refine ⟨by cases own node <;> simp, h.outer_first, ?_⟩
    intro a ha b hb
    obtain ⟨item, -, rfl⟩ := List.mem_map.1 ha
    simpa using h.ne_nil b hb

/-- **A list made from the top down holds the item at each position once,** an
    outer one before those inside it. -/
theorem exists_listing {list : α → List β} (size : α → Nat)
    (hsize : ∀ node, ∀ child ∈ children node, size child < size node)
    (hlist : ∀ node, list node = (own node).toList ++ (children node).flatMap list) (node : α) :
    ∃ found, found.map Prod.snd = list node ∧ Listing (itemAt? children own node) found := by
  induction hn : size node using Nat.strongRecOn generalizing node with
  | ind n ih =>
    have hchildren : ∀ child ∈ children node, ∃ found, found.map Prod.snd = list child ∧
        Listing (itemAt? children own child) found :=
      fun child hchild => ih (size child) (hn ▸ hsize node child hchild) child rfl
    obtain ⟨found, hitems, hfound⟩ := exists_listing_list hchildren
    refine ⟨_, ?_, hfound.node⟩
    rw [hlist node, ← hitems]
    simp [Function.comp_def]

end PotCatalog
