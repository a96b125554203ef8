/-
  Joining messages in another order.

  The entries of shuffled messages have the same texts and, up to their order,
  the same places.  Only the plural form of an entry and the conflicts depend on
  which message of a text comes first.

  Messages without conflicts do not depend on it: if all have places, there is
  no conflict exactly if any two messages with one text have one plural form
  (`dedupe_conflicts_eq_nil_iff`), which does not speak of an order.

  `dedupe_perm`: shuffled messages have the same entries up to order, and still
  no conflict if they had none.
-/
import Mathlib.Data.Multiset.Defs
import PotCatalog.Proofs.Dedupe.Grouping

namespace PotCatalog

/-! ## Entries up to order -/

/-- A message up to the order of its places. -/
def Message.tally (m : Message) : String × Option String × Multiset Location :=
  (m.msgid, m.plural, m.locations)

/-- The text of a message and its places, up to their order. -/
def Message.whereabouts (m : Message) : String × Multiset Location :=
  (m.msgid, m.locations)

variable {xs ys : List Message}

theorem texts_perm (h : xs.Perm ys) :
    (xs.map Message.msgid).eraseDups.Perm (ys.map Message.msgid).eraseDups := by
  have hnodup (messages : List Message) : (messages.map Message.msgid).eraseDups.Nodup := by
    rw [← map_msgid_firsts]
    exact firsts_nodup messages
  rw [List.perm_ext_iff_of_nodup (hnodup xs) (hnodup ys)]
  intro msgid
  rw [List.mem_eraseDups, List.mem_eraseDups]
  exact (h.map Message.msgid).mem_iff

/-- What shuffled messages yield agrees up to order where their entries do. -/
theorem map_dedupe_perm {α : Type} {f : Message → α} (h : xs.Perm ys)
    (hsame : ∀ m ∈ xs, f (entryOf xs m.msgid) = f (entryOf ys m.msgid)) :
    ((dedupe xs).messages.map f).Perm ((dedupe ys).messages.map f) := by
  rw [dedupe_messages_eq, dedupe_messages_eq, List.map_map, List.map_map]
  have hxs : (xs.map Message.msgid).eraseDups.map (f ∘ entryOf xs) =
      (xs.map Message.msgid).eraseDups.map (f ∘ entryOf ys) := by
    refine List.map_congr_left fun msgid hmsgid => ?_
    obtain ⟨m, hm, rfl⟩ := List.mem_map.1 (List.mem_eraseDups.1 hmsgid)
    exact hsame m hm
  rw [hxs]
  exact (texts_perm h).map _

theorem entryOf_locations_perm (h : xs.Perm ys) (msgid : String) :
    (entryOf xs msgid).locations.Perm (entryOf ys msgid).locations :=
  (h.filter _).flatMap_right _

/-! ## Plural forms that agree -/

/-- Messages with one text have one plural form. -/
def PluralsAgree (messages : List Message) : Prop :=
  ∀ m ∈ messages, ∀ k ∈ messages, m.msgid = k.msgid → m.plural = k.plural

theorem PluralsAgree.perm (h : xs.Perm ys) (hagree : PluralsAgree xs) : PluralsAgree ys :=
  fun m hm k hk => hagree m (h.mem_iff.2 hm) k (h.mem_iff.2 hk)

theorem PluralsAgree.entryOf_plural {messages : List Message} (h : PluralsAgree messages)
    {m : Message} (hm : m ∈ messages) : (entryOf messages m.msgid).plural = m.plural := by
  obtain ⟨first, hmem, hfirst, hsame⟩ := exists_first_of_mem hm
  rw [entryOf, hfirst]
  exact h first hmem m hm hsame

/-- A message with a place is in no conflict exactly if it has the plural form of
    its entry. -/
theorem conflictIn_eq_nil_iff {messages : List Message} {m : Message} (hm : m ∈ messages)
    (hplaces : m.locations ≠ []) :
    conflictIn messages m = [] ↔ (entryOf messages m.msgid).plural = m.plural := by
  obtain ⟨first, -, hfirst, -⟩ := exists_first_of_mem hm
  obtain ⟨location, rest, hlocations⟩ := List.exists_cons_of_ne_nil hplaces
  rw [conflictIn, entryOf, hfirst]
  by_cases hplural : first.plural = m.plural
  · simp [conflictWith, hplural]
  · simp [conflictWith, hplural, hlocations]

/-- **No conflict, whatever the order.** -/
theorem dedupe_conflicts_eq_nil_iff {messages : List Message}
    (hplaces : ∀ m ∈ messages, m.locations ≠ []) :
    (dedupe messages).conflicts = [] ↔ PluralsAgree messages := by
  rw [(dedupe_joined messages).conflicts, List.flatMap_eq_nil_iff]
  constructor
  · intro h m hm k hk hsame
    have hfirst := (conflictIn_eq_nil_iff hm (hplaces m hm)).1 (h m hm)
    have hfirst' := (conflictIn_eq_nil_iff hk (hplaces k hk)).1 (h k hk)
    rw [← hfirst, ← hfirst', hsame]
  · intro h m hm
    exact (conflictIn_eq_nil_iff hm (hplaces m hm)).2 (h.entryOf_plural hm)

/-! ## Shuffled messages -/

/-- **The order of messages.**  Shuffled messages yield the same texts, each with
    the same places up to their order.  If all messages have places and there is
    no conflict, then there is none in any other order either, and the entries
    are the same up to their order and that of their places. -/
theorem dedupe_perm (h : xs.Perm ys) :
    ((dedupe xs).messages.map Message.whereabouts).Perm
        ((dedupe ys).messages.map Message.whereabouts) ∧
      ((∀ m ∈ xs, m.locations ≠ []) → (dedupe xs).conflicts = [] →
        (dedupe ys).conflicts = [] ∧
          ((dedupe xs).messages.map Message.tally).Perm
            ((dedupe ys).messages.map Message.tally)) := by
  refine ⟨map_dedupe_perm h fun m _ => ?_, fun hplaces hnone => ?_⟩
  · exact Prod.ext rfl (Multiset.coe_eq_coe.2 (entryOf_locations_perm h m.msgid))
  · have hagree := (dedupe_conflicts_eq_nil_iff hplaces).1 hnone
    have hplaces' : ∀ m ∈ ys, m.locations ≠ [] := fun m hm => hplaces m (h.mem_iff.2 hm)
    refine ⟨(dedupe_conflicts_eq_nil_iff hplaces').2 (hagree.perm h), ?_⟩
    refine map_dedupe_perm h fun m hm => ?_
    have hplural : (entryOf xs m.msgid).plural = (entryOf ys m.msgid).plural := by
      rw [hagree.entryOf_plural hm, (hagree.perm h).entryOf_plural (h.mem_iff.1 hm)]
    exact Prod.ext rfl
      (Prod.ext hplural (Multiset.coe_eq_coe.2 (entryOf_locations_perm h m.msgid)))

/-- Messages of two files, one of them found in both. -/
def greetings : List Message :=
  [⟨"Hello", none, [⟨"a.js", 1⟩]⟩, ⟨"Hello", none, [⟨"b.js", 5⟩, ⟨"b.js", 9⟩]⟩,
    ⟨"item", some "items", [⟨"b.js", 12⟩]⟩]

theorem greetings_dedupe_perm :
    greetings.Perm greetings.reverse ∧ (∀ m ∈ greetings, m.locations ≠ []) ∧
      (dedupe greetings).conflicts = [] ∧
      (dedupe greetings.reverse).messages ≠ (dedupe greetings).messages ∧
      ((dedupe greetings).messages.map Message.whereabouts).Perm
        ((dedupe greetings.reverse).messages.map Message.whereabouts) ∧
      (dedupe greetings.reverse).conflicts = [] ∧
      ((dedupe greetings).messages.map Message.tally).Perm
        ((dedupe greetings.reverse).messages.map Message.tally) := by
  have hplaces : ∀ m ∈ greetings, m.locations ≠ [] := by decide
  have hnone : (dedupe greetings).conflicts = [] := by decide
  have hperm : greetings.Perm greetings.reverse := (List.reverse_perm greetings).symm
  obtain ⟨hplaced, hrest⟩ := dedupe_perm hperm
  exact ⟨hperm, hplaces, hnone, by decide, hplaced, hrest hplaces hnone⟩

end PotCatalog
