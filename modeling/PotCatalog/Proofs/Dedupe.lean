/-
  What joining messages yields.

  `dedupe` works through messages one by one.  Described from the whole list,
  a text has an entry where it occurs first (`firsts`), with the plural form of
  that message and the places of all messages of the text (`collected`), and
  every message with another plural form than the first of its text is a
  conflict (`conflictIn`).

  `Joined.add` says that this description survives one more message, and
  `dedupe_joined` that it holds of the result.
-/
import Mathlib.Data.List.Basic
import Mathlib.Data.List.Induction
import PotCatalog.Merge

namespace PotCatalog

/-! ## The description -/

/-- Whether a message has a text. -/
def Message.has (msgid : String) (m : Message) : Bool := m.msgid = msgid

/-- The messages that are the first of their text. -/
def firsts : List Message → List Message
  | [] => []
  | m :: rest => m :: (firsts rest).filter (!·.has m.msgid)

/-- The places of all messages with a text. -/
def placesOf (messages : List Message) (msgid : String) : List Location :=
  (messages.filter (Message.has msgid)).flatMap Message.locations

/-- A message with the places of all messages with its text. -/
def collected (messages : List Message) (m : Message) : Message :=
  { m with locations := placesOf messages m.msgid }

/-- The conflict of a message with the first one of its text. -/
def conflictIn (messages : List Message) (m : Message) : List PluralConflict :=
  match messages.find? (Message.has m.msgid) with
  | some first => conflictWith first m
  | none => []

/-- What has come of messages. -/
structure Joined (messages : List Message) (d : Deduped) : Prop where
  entries : d.messages = (firsts messages).map (collected messages)
  conflicts : d.conflicts = messages.flatMap (conflictIn messages)

@[simp] theorem Message.has_iff {msgid : String} {m : Message} : m.has msgid ↔ m.msgid = msgid := by
  simp [Message.has]

theorem find?_has_eq_none_iff {messages : List Message} {msgid : String} :
    messages.find? (Message.has msgid) = none ↔ ∀ m ∈ messages, m.msgid ≠ msgid := by
  simp [List.find?_eq_none]

/-! ## First messages -/

theorem mem_of_mem_firsts {messages : List Message} {m : Message} (h : m ∈ firsts messages) :
    m ∈ messages := by
  induction messages with
  | nil => exact h
  | cons first rest ih =>
    rcases List.mem_cons.1 h with rfl | h
    · exact List.mem_cons_self
    · exact List.mem_cons_of_mem _ (ih (List.mem_filter.1 h).1)

/-- A text has the same first message among the first messages. -/
theorem find?_firsts (messages : List Message) (msgid : String) :
    (firsts messages).find? (Message.has msgid) = messages.find? (Message.has msgid) := by
  induction messages with
  | nil => rfl
  | cons first rest ih =>
    rw [firsts, List.find?_cons, List.find?_cons, ← ih, List.find?_filter]
    cases h : first.has msgid with
    | true => rfl
    | false =>
      -- a message with this text is not among those that `first` hides
      have hne : first.msgid ≠ msgid := by simpa [Message.has] using h
      refine congrArg (fun p => (firsts rest).find? p) (funext fun m => ?_)
      by_cases hm : m.msgid = msgid
      · simp [Message.has, hm, hne.symm]
      · simp [Message.has, hm]

theorem firsts_concat (messages : List Message) (m : Message) :
    firsts (messages ++ [m]) =
      firsts messages ++ if (messages.find? (Message.has m.msgid)).isSome then [] else [m] := by
  induction messages with
  | nil => simp [firsts]
  | cons first rest ih =>
    rw [List.cons_append, firsts, ih, List.filter_append, firsts, List.cons_append,
      List.find?_cons]
    by_cases h : first.msgid = m.msgid
    · have : first.has m.msgid = true := by simp [h]
      rw [this]
      split <;> simp [h]
    · have : first.has m.msgid = false := by simp [Message.has, h]
      rw [this]
      split <;> simp [Message.has, Ne.symm h]

theorem firsts_nodup (messages : List Message) : ((firsts messages).map Message.msgid).Nodup := by
  induction messages with
  | nil => simp [firsts]
  | cons first rest ih =>
    rw [firsts, List.map_cons, List.nodup_cons]
    refine ⟨?_, (ih.sublist ((List.filter_sublist).map _))⟩
    intro h
    obtain ⟨m, hm, he⟩ := List.mem_map.1 h
    simpa [Message.has, he] using (List.mem_filter.1 hm).2

/-! ## One more message -/

theorem placesOf_concat (messages : List Message) (m : Message) (msgid : String) :
    placesOf (messages ++ [m]) msgid =
      placesOf messages msgid ++ if m.msgid = msgid then m.locations else [] := by
  by_cases h : m.msgid = msgid
  · simp [placesOf, List.filter_append, Message.has, h]
  · simp [placesOf, List.filter_append, Message.has, h]

/-- A message that is there keeps the first message of its text. -/
theorem conflictIn_concat {messages : List Message} {k : Message} (hk : k ∈ messages)
    (m : Message) : conflictIn (messages ++ [m]) k = conflictIn messages k := by
  obtain ⟨first, h⟩ : ∃ first, messages.find? (Message.has k.msgid) = some first := by
    rw [← Option.isSome_iff_exists, List.find?_isSome]
    exact ⟨k, hk, by simp⟩
  simp [conflictIn, List.find?_append, h]

/-- The places of a new message go to the first message of its text. -/
theorem extend_collected (messages : List Message) (m : Message) :
    Deduped.extend m ((firsts messages).map (collected messages)) =
      (firsts messages).map (collected (messages ++ [m])) := by
  rw [Deduped.extend, List.map_map]
  refine List.map_congr_left fun k _ => ?_
  by_cases h : k.msgid = m.msgid
  · simp [collected, placesOf_concat, h]
  · simp [collected, placesOf_concat, h, Ne.symm h]

/-- A message with a new text changes no other entry. -/
theorem collected_concat_of_new {messages : List Message} {m : Message}
    (h : ∀ k ∈ messages, k.msgid ≠ m.msgid) :
    (firsts messages).map (collected (messages ++ [m])) =
      (firsts messages).map (collected messages) := by
  refine List.map_congr_left fun k hk => ?_
  simp [collected, placesOf_concat, Ne.symm (h k (mem_of_mem_firsts hk))]

theorem collected_self_of_new {messages : List Message} {m : Message}
    (h : ∀ k ∈ messages, k.msgid ≠ m.msgid) : collected (messages ++ [m]) m = m := by
  have hnone : messages.filter (Message.has m.msgid) = [] :=
    List.filter_eq_nil_iff.2 fun k hk => by simpa using h k hk
  simp [collected, placesOf, List.filter_append, hnone]

/-- **The description survives one more message.** -/
theorem Joined.add {messages : List Message} {d : Deduped} (h : Joined messages d) (m : Message) :
    Joined (messages ++ [m]) (d.add m) := by
  have hfind : d.messages.find? (·.msgid = m.msgid) =
      (messages.find? (Message.has m.msgid)).map (collected messages) := by
    rw [h.entries, List.find?_map, ← find?_firsts]
    rfl
  have hold : messages.flatMap (conflictIn (messages ++ [m])) = d.conflicts := by
    rw [h.conflicts]
    exact List.flatMap_congr fun k hk => conflictIn_concat hk m
  cases hfirst : messages.find? (Message.has m.msgid) with
  | none =>
    have hnew := find?_has_eq_none_iff.1 hfirst
    have hself : conflictIn (messages ++ [m]) m = [] := by
      simp [conflictIn, List.find?_append, hfirst, conflictWith]
    rw [Deduped.add, hfind, hfirst]
    refine ⟨?_, ?_⟩
    · simp [firsts_concat, hfirst, h.entries, collected_concat_of_new hnew,
        collected_self_of_new hnew]
    · simp [hold, hself]
  | some first =>
    have hlast : conflictIn (messages ++ [m]) m = conflictWith first m := by
      simp [conflictIn, List.find?_append, hfirst]
    rw [Deduped.add, hfind, hfirst]
    refine ⟨?_, ?_⟩
    · simp [firsts_concat, hfirst, h.entries, extend_collected]
    · simp only [Option.map_some, List.flatMap_append, hold, List.flatMap_singleton, hlast]
      rfl

/-- **Joining does what the description says.** -/
theorem dedupe_joined (messages : List Message) : Joined messages (dedupe messages) := by
  induction messages using List.reverseRecOn with
  | nil => exact ⟨rfl, rfl⟩
  | append_singleton messages m ih =>
    rw [dedupe, List.foldl_append]
    exact ih.add m

/-! ## Entries of the result -/

theorem dedupe_locations {messages : List Message} {m : Message}
    (h : m ∈ (dedupe messages).messages) : m.locations = placesOf messages m.msgid := by
  rw [(dedupe_joined messages).entries] at h
  obtain ⟨first, -, rfl⟩ := List.mem_map.1 h
  rfl

theorem dedupe_nodup (messages : List Message) :
    ((dedupe messages).messages.map Message.msgid).Nodup := by
  rw [(dedupe_joined messages).entries, List.map_map]
  exact firsts_nodup messages

/-- A text has an entry exactly if a message has the text. -/
theorem exists_mem_dedupe_iff {messages : List Message} {msgid : String} :
    (∃ m ∈ (dedupe messages).messages, m.msgid = msgid) ↔ ∃ m ∈ messages, m.msgid = msgid := by
  rw [(dedupe_joined messages).entries]
  constructor
  · rintro ⟨m, hm, rfl⟩
    obtain ⟨first, hfirst, rfl⟩ := List.mem_map.1 hm
    exact ⟨first, mem_of_mem_firsts hfirst, rfl⟩
  · rintro ⟨m, hm, rfl⟩
    have hsome : (messages.find? (Message.has m.msgid)).isSome :=
      List.find?_isSome.2 ⟨m, hm, by simp⟩
    rw [← find?_firsts, List.find?_isSome] at hsome
    obtain ⟨first, hfirst, he⟩ := hsome
    exact ⟨_, List.mem_map_of_mem hfirst, Message.has_iff.1 he⟩

end PotCatalog
