/-
  Joining messages, in closed form.

  The entries of a list of messages are its texts, each where it occurs first,
  with the plural form of the first message of the text and the places of all
  of them (`entryOf`).  A message is in conflict with what stands before it
  (`Message.conflict?`): its text was met before, with another plural form.

  `dedupe_eq_grouping`: `dedupe`, which works through the messages one by one
  and changes entries in place, yields these entries and these conflicts.
-/
import PotCatalog.Proofs.Dedupe

namespace PotCatalog

/-! ## Entries and conflicts of a whole list -/

/-- The entry of a text: the plural form of the first message with the text,
    and the places of all messages with it. -/
def entryOf (messages : List Message) (msgid : String) : Message where
  msgid := msgid
  plural := (messages.find? (Message.has msgid)).bind Message.plural
  locations := (messages.filter (Message.has msgid)).flatMap Message.locations

/-- The conflict of a message with the messages before it.  There is one if the
    message is not the first with its text, has a place, and has another plural
    form than the first. -/
def Message.conflict? (before : List Message) (m : Message) : Option PluralConflict :=
  match before.find? (Message.has m.msgid), m.locations with
  | some first, location :: _ =>
    if first.plural = m.plural then none
    else some ⟨location, m.msgid, first.plural, m.plural⟩
  | _, _ => none

/-! ## Entries -/

/-- The text of a message has a first message. -/
theorem exists_first_of_mem {messages : List Message} {m : Message} (h : m ∈ messages) :
    ∃ first ∈ messages,
      messages.find? (Message.has m.msgid) = some first ∧ first.msgid = m.msgid := by
  have hsome : (messages.find? (Message.has m.msgid)).isSome :=
    List.find?_isSome.2 ⟨m, h, Message.has_iff.2 rfl⟩
  obtain ⟨first, hfirst⟩ := Option.isSome_iff_exists.1 hsome
  exact ⟨first, List.mem_of_find?_eq_some hfirst, hfirst,
    Message.has_iff.1 (List.find?_some hfirst)⟩

/-- The first messages of their texts have the texts of all messages, each where
    it occurs first. -/
theorem map_msgid_firsts (messages : List Message) :
    (firsts messages).map Message.msgid = (messages.map Message.msgid).eraseDups := by
  induction messages using List.reverseRecOn with
  | nil => rfl
  | append_singleton messages m ih =>
    rw [firsts_concat, List.map_append, ih, List.map_append, List.eraseDups_append]
    refine congrArg _ ?_
    by_cases h : m.msgid ∈ messages.map Message.msgid
    · obtain ⟨k, hk, hsame⟩ := List.mem_map.1 h
      obtain ⟨first, -, hfind, -⟩ := exists_first_of_mem hk
      rw [hsame] at hfind
      rw [hfind, List.map_singleton, List.removeAll, List.filter_cons_of_neg (by simpa using h)]
      rfl
    · have hfind : messages.find? (Message.has m.msgid) = none :=
        find?_has_eq_none_iff.2 fun k hk hsame => h (List.mem_map.2 ⟨k, hk, hsame⟩)
      rw [hfind, List.map_singleton, List.removeAll,
        List.filter_cons_of_pos (by simpa using h)]
      rfl

theorem find?_has_of_mem_firsts {messages : List Message} {m : Message} (h : m ∈ firsts messages) :
    messages.find? (Message.has m.msgid) = some m := by
  induction messages with
  | nil => cases h
  | cons first rest ih =>
    rcases List.mem_cons.1 h with rfl | h
    · exact List.find?_cons_of_pos (Message.has_iff.2 rfl)
    · obtain ⟨hm, hother⟩ := List.mem_filter.1 h
      have hne : first.msgid ≠ m.msgid := by
        intro hsame
        simp [Message.has, hsame] at hother
      rw [List.find?_cons_of_neg (fun hsame => hne (Message.has_iff.1 hsame)), ih hm]

theorem collected_of_mem_firsts {messages : List Message} {m : Message}
    (h : m ∈ firsts messages) : collected messages m = entryOf messages m.msgid := by
  rw [collected, entryOf, find?_has_of_mem_firsts h]
  rfl

/-- **The entries** are those of the texts, in the order in which these occur. -/
theorem dedupe_messages_eq (messages : List Message) :
    (dedupe messages).messages =
      (messages.map Message.msgid).eraseDups.map (entryOf messages) := by
  rw [(dedupe_joined messages).entries, ← map_msgid_firsts, List.map_map]
  exact List.map_congr_left fun m hm => collected_of_mem_firsts hm

/-! ## Conflicts -/

/-- To compare a message with the first one of its text is to compare it with
    those before it: what stands behind it does not matter, and it agrees with
    itself. -/
theorem conflictIn_around (before after : List Message) (m : Message) :
    conflictIn (before ++ m :: after) m = (m.conflict? before).toList := by
  rw [conflictIn, List.find?_append, List.find?_cons_of_pos (Message.has_iff.2 rfl),
    Message.conflict?]
  cases before.find? (Message.has m.msgid) with
  | none => simp [conflictWith]
  | some first =>
    rw [Option.some_or]
    cases hplaces : m.locations with
    | nil => simp [conflictWith, hplaces]
    | cons location rest =>
      by_cases hplural : first.plural = m.plural
      · simp [conflictWith, hplural]
      · simp [conflictWith, hplaces, hplural]

/-- **The conflicts** are those of the messages with what stands before them. -/
theorem dedupe_conflicts_eq (messages : List Message) :
    (dedupe messages).conflicts =
      messages.zipIdx.filterMap fun (m, i) => m.conflict? (messages.take i) := by
  have hindexed : messages.flatMap (conflictIn messages) =
      messages.zipIdx.flatMap fun (m, _) => conflictIn messages m := by
    conv_lhs => rw [← List.zipIdx_map_fst 0 messages, List.flatMap_map, List.zipIdx_map_fst]
  rw [(dedupe_joined messages).conflicts, hindexed, List.filterMap_eq_flatMap_toList]
  refine List.flatMap_congr fun (m, i) hm => ?_
  obtain ⟨hi, rfl⟩ := List.getElem?_eq_some_iff.1 (List.mk_mem_zipIdx_iff_getElem?.1 hm)
  have haround := conflictIn_around (messages.take i) (messages.drop (i + 1)) messages[i]
  rwa [← List.drop_eq_getElem_cons hi, List.take_append_drop] at haround

/-! ## The closed form -/

/-- **What joining messages yields**, for any messages: one entry for each text,
    in the order in which the texts occur first, with the plural form of the
    first message of the text and the places of all of them in their order; and,
    in the order of the messages, one conflict for each that is not the first of
    its text, has a place and has another plural form than the first. -/
theorem dedupe_eq_grouping (messages : List Message) :
    (dedupe messages).messages =
        (messages.map Message.msgid).eraseDups.map (entryOf messages) ∧
      (dedupe messages).conflicts =
        (messages.zipIdx.filterMap fun (m, i) => m.conflict? (messages.take i)) ∧
      ((dedupe messages).messages.map Message.msgid).Nodup :=
  ⟨dedupe_messages_eq messages, dedupe_conflicts_eq messages, dedupe_nodup messages⟩

end PotCatalog
