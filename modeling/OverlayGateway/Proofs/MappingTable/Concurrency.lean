import Mathlib.Data.List.Nodup
import Mathlib.Data.List.Perm.Basic
import Mathlib.Logic.Function.Basic
import OverlayGateway.Proofs.MappingTable.LastWrite
/-!
Clients that change the table side by side. Each has a series of changes to make, one key at a time,
and whoever has one left may be next. The last change of a key decides what is found under it, so a
key that one client alone writes ends up as if that client had been alone, in every run.
-/

set_option autoImplicit false
set_option relaxedAutoImplicit false

namespace OverlayGateway.MappingTable

/-! ### Last changes -/

/-- A change of a key that no later one is about. -/
def IsLast (write : Write) (writes : List Write) : Prop :=
  ∃ front back, writes = front ++ write :: back ∧ ∀ later ∈ back, later.key ≠ write.key

theorem lastWrite?_append (first second : List Write) (key : String) :
    lastWrite? (first ++ second) key = (lastWrite? second key).or (lastWrite? first key) := by
  rw [lastWrite?, List.reverse_append, List.find?_append, ← lastWrite?, ← lastWrite?]

theorem lastWrite?_eq_none_iff {writes : List Write} {key : String} :
    lastWrite? writes key = none ↔ ∀ write ∈ writes, write.key ≠ key := by
  simp [lastWrite?]

theorem IsLast.lastWrite?_eq {write : Write} {writes : List Write} (h : IsLast write writes) :
    lastWrite? writes write.key = some write := by
  obtain ⟨front, back, rfl, hback⟩ := h
  have hsingle : lastWrite? [write] write.key = some write := by simp [lastWrite?]
  rw [← List.singleton_append, lastWrite?_append, lastWrite?_append,
    lastWrite?_eq_none_iff.2 hback, hsingle]
  rfl

theorem get?_performAll_of_isLast {write : Write} {writes : List Write} (h : IsLast write writes)
    (table : MappingTable) : (table.performAll writes).get? write.key = write.identity := by
  rw [get?_performAll, h.lastWrite?_eq, Option.elim_some]

theorem get?_performAll_of_unwritten {writes : List Write} {key : String}
    (h : ∀ write ∈ writes, write.key ≠ key) (table : MappingTable) :
    (table.performAll writes).get? key = table.get? key := by
  rw [get?_performAll, lastWrite?_eq_none_iff.2 h, Option.elim_none]

/-- Among changes of different keys, each is the last of its key. -/
theorem isLast_of_mem {writes : List Write} (hnodup : (writes.map Write.key).Nodup) {write : Write}
    (h : write ∈ writes) : IsLast write writes := by
  obtain ⟨front, back, rfl⟩ := List.append_of_mem h
  refine ⟨front, back, rfl, fun later hlater hsame ↦ ?_⟩
  rw [List.map_append, List.map_cons] at hnodup
  refine (List.nodup_cons.1 (List.Nodup.of_append_right hnodup)).1 ?_
  exact hsame ▸ List.mem_map_of_mem hlater

/-- The changes of a merge, in whatever order, are the last ones of their keys. -/
theorem isLast_of_perm {payload : MappingTable} {writes : List Write}
    (h : writes.Perm payload.writes) {key : String} {identity : Identity}
    (hentry : payload.get? key = some identity) : IsLast ⟨key, some identity⟩ writes := by
  have hkeys : payload.writes.map Write.key = payload.entries.map Prod.fst := by
    rw [MappingTable.writes, List.map_map]
    rfl
  have hnodup : (writes.map Write.key).Nodup :=
    (h.map Write.key).nodup_iff.2 (hkeys ▸ payload.nodup)
  exact isLast_of_mem hnodup (h.mem_iff.2 (mem_writes_iff.2 ⟨identity, rfl, hentry⟩))

/-- A merge may make its changes in any order. -/
theorem get?_performAll_of_perm {payload : MappingTable} {writes : List Write}
    (h : writes.Perm payload.writes) (table : MappingTable) (key : String) :
    (table.performAll writes).get? key = (payload.get? key).or (table.get? key) := by
  cases hentry : payload.get? key with
  | some identity => exact get?_performAll_of_isLast (isLast_of_perm h hentry) table
  | none =>
    refine get?_performAll_of_unwritten (fun write hwrite hkey ↦ ?_) table
    obtain ⟨identity, _, hget⟩ := mem_writes_iff.1 (h.mem_iff.1 hwrite)
    rw [hkey, hentry] at hget
    cases hget

/-! ### Runs -/

variable {Client : Type} [DecidableEq Client]

/-- A run of clients, from a table and what they have left to do, to the table in the end. The
changes are listed in the order in which they are made, each with the client that makes it. -/
inductive Runs : MappingTable → (Client → List Write) → List (Client × Write) → MappingTable → Prop
  | done {table : MappingTable} {pending : Client → List Write}
      (hdone : ∀ client, pending client = []) : Runs table pending [] table
  | step {table final : MappingTable} {pending : Client → List Write} {client : Client}
      {write : Write} {rest : List Write} {run : List (Client × Write)}
      (hnext : pending client = write :: rest)
      (hrun : Runs (table.perform write) (Function.update pending client rest) run final) :
      Runs table pending ((client, write) :: run) final

/-- The changes of a run, whoever makes them. -/
def changes (run : List (Client × Write)) : List Write := run.map Prod.snd

/-- The changes that a client makes in a run. -/
def changesOf (client : Client) (run : List (Client × Write)) : List Write :=
  changes (run.filter fun turn ↦ turn.1 = client)

theorem changesOf_cons (client other : Client) (write : Write) (run : List (Client × Write)) :
    changesOf other ((client, write) :: run) =
      if client = other then write :: changesOf other run else changesOf other run := by
  by_cases h : client = other <;> simp [changesOf, changes, h]

section Runs

variable {table final : MappingTable} {series : Client → List Write} {run : List (Client × Write)}

/-- A run leaves the table that its changes leave, one after the other. -/
theorem Runs.final_eq (h : Runs table series run final) :
    final = table.performAll (changes run) := by
  induction h with
  | done hdone => rfl
  | step hnext hrun ih => exact ih

/-- In a run, each client makes its own changes, in their order. -/
theorem Runs.changesOf_eq (h : Runs table series run final) (client : Client) :
    changesOf client run = series client := by
  induction h with
  | done hdone => exact (hdone client).symm
  | @step table final pending mover write rest run hnext hrun ih =>
    rw [changesOf_cons, ih]
    by_cases hmover : mover = client
    · rw [if_pos hmover, ← hmover, Function.update_self, hnext]
    · rw [if_neg hmover, Function.update_of_ne (Ne.symm hmover)]

theorem Runs.mem_series (h : Runs table series run final) {client : Client} {write : Write}
    (hturn : (client, write) ∈ run) : write ∈ series client := by
  rw [← h.changesOf_eq client, changesOf, changes]
  exact List.mem_map.2 ⟨_, List.mem_filter.2 ⟨hturn, decide_eq_true rfl⟩, rfl⟩

theorem Runs.exists_client (h : Runs table series run final) {write : Write}
    (hwrite : write ∈ changes run) : ∃ client, write ∈ series client := by
  obtain ⟨⟨client, _⟩, hturn, rfl⟩ := List.mem_map.1 hwrite
  exact ⟨client, h.mem_series hturn⟩

/-- The changes of a key that one client alone writes are those of the client. -/
theorem Runs.filter_changes (h : Runs table series run final) {client : Client} {key : String}
    (halone : ∀ other, other ≠ client → ∀ write ∈ series other, write.key ≠ key) :
    ((changes run).filter fun write ↦ write.key = key) =
      (series client).filter fun write ↦ write.key = key := by
  have howner (turn : Client × Write) (hturn : turn ∈ run) (hkey : turn.2.key = key) :
      turn.1 = client :=
    Classical.byContradiction fun hother ↦ halone turn.1 hother turn.2 (h.mem_series hturn) hkey
  rw [← h.changesOf_eq client, changesOf, changes, changes, List.filter_map, List.filter_map,
    List.filter_filter]
  refine congrArg (List.map Prod.snd) (List.filter_congr fun turn hturn ↦ ?_)
  by_cases hkey : turn.2.key = key
  · simp [hkey, howner turn hturn hkey]
  · simp [hkey]

/-- A key that one client alone writes ends up as if the client had been alone. -/
theorem Runs.get?_of_alone (h : Runs table series run final) {client : Client} {key : String}
    (halone : ∀ other, other ≠ client → ∀ write ∈ series other, write.key ≠ key) :
    final.get? key = (table.performAll (series client)).get? key := by
  rw [h.final_eq]
  exact get?_performAll_congr (h.filter_changes halone) table

theorem Runs.get?_of_unwritten (h : Runs table series run final) {key : String}
    (hnone : ∀ client, ∀ write ∈ series client, write.key ≠ key) :
    final.get? key = table.get? key := by
  rw [h.final_eq]
  refine get?_performAll_of_unwritten (fun write hwrite ↦ ?_) table
  obtain ⟨client, hmem⟩ := h.exists_client hwrite
  exact hnone client write hmem

/-- Clients of which no two write the same key. -/
def Apart (series : Client → List Write) : Prop :=
  ∀ client other, client ≠ other → ∀ write ∈ series client, ∀ another ∈ series other,
    write.key ≠ another.key

omit [DecidableEq Client] in
theorem Apart.alone (h : Apart series) {client : Client} {write : Write}
    (hwrite : write ∈ series client) (other : Client) (hother : other ≠ client) :
    ∀ another ∈ series other, another.key ≠ write.key :=
  fun another hanother ↦ h other client hother another hanother write hwrite

/-- Clients that write different keys leave the same, whoever is faster. -/
theorem Runs.get?_congr (hapart : Apart series) (h : Runs table series run final)
    {other : List (Client × Write)} {result : MappingTable} (hother : Runs table series other result)
    (key : String) : result.get? key = final.get? key := by
  by_cases howned : ∃ client, ∃ write ∈ series client, write.key = key
  · obtain ⟨client, write, hwrite, rfl⟩ := howned
    rw [h.get?_of_alone (hapart.alone hwrite), hother.get?_of_alone (hapart.alone hwrite)]
  · have hnone (client : Client) (write : Write) (hwrite : write ∈ series client) :
        write.key ≠ key :=
      fun hkey ↦ howned ⟨client, write, hwrite, hkey⟩
    rw [h.get?_of_unwritten hnone, hother.get?_of_unwritten hnone]

theorem Runs.get?_of_apart (hapart : Apart series) (h : Runs table series run final)
    {client : Client} {write : Write} (hlast : IsLast write (series client)) :
    final.get? write.key = write.identity := by
  have hwrite : write ∈ series client := by
    obtain ⟨front, back, hseries, _⟩ := hlast
    exact hseries ▸ List.mem_append_right front List.mem_cons_self
  rw [h.get?_of_alone (hapart.alone hwrite)]
  exact get?_performAll_of_isLast hlast table

end Runs

/-- No change is lost, however clients take turns. Whatever changes the table makes its changes one
key at a time, a merge in any order. After a run, a key has the identity of the last change about
it, and what it had if no client writes it. If no two clients write the same key, every run leaves
the same table, with the last change that each client makes of each of its keys, and with each
entry that a client merges. -/
theorem no_write_lost {table final : MappingTable} {series : Client → List Write}
    {run : List (Client × Write)} (hrun : Runs table series run final) :
    (∀ settings before event,
      after settings before event = before.performAll (Event.writes settings event)) ∧
    (∀ (before payload : MappingTable) (writes : List Write), writes.Perm payload.writes →
      (before.performAll writes).entries.Perm
        (MappingSync.merge before (.ok payload)).table.entries) ∧
    (∀ write, IsLast write (changes run) → final.get? write.key = write.identity) ∧
    (∀ key, (∀ client, ∀ write ∈ series client, write.key ≠ key) →
      final.get? key = table.get? key) ∧
    (Apart series →
      (∀ other result, Runs table series other result → result.entries.Perm final.entries) ∧
      (∀ client write, IsLast write (series client) → final.get? write.key = write.identity) ∧
      ∀ client payload, (series client).Perm (MappingTable.writes payload) →
        ∀ key identity, payload.get? key = some identity → final.get? key = some identity) := by
  refine ⟨after_eq, fun before payload writes hperm ↦ ?merge, fun write hlast ↦ ?last,
    fun key ↦ hrun.get?_of_unwritten, fun hapart ↦ ⟨fun other result hother ↦ ?same,
      fun client write ↦ hrun.get?_of_apart hapart,
      fun client payload hperm key identity hentry ↦ ?merged⟩⟩
  case merge =>
    refine perm_entries_of_get?_eq fun key ↦ ?_
    rw [get?_performAll_of_perm hperm]
    exact (before.get?_merge_entries payload key).symm
  case last =>
    rw [hrun.final_eq]
    exact get?_performAll_of_isLast hlast table
  case same => exact perm_entries_of_get?_eq (hrun.get?_congr hapart hother)
  case merged => exact hrun.get?_of_apart hapart (isLast_of_perm hperm hentry)

/-- What a table is asked for while a merge is under way: a new mapping, and the end of another. -/
def sampleSeries (payload : MappingTable) : Bool → List Write
  | true => payload.writes.reverse
  | false => [⟨"10.0.0.3", some ⟨"carol", []⟩⟩, ⟨"10.0.0.4", none⟩]

/-- A merge of two entries, with two other changes in between. -/
theorem no_write_lost_sample :
    let table := ofList [("10.0.0.4", ⟨"dave", []⟩)]
    let payload := ofList [("10.0.0.1", ⟨"alice", []⟩), ("10.0.0.2", ⟨"bob", []⟩)]
    let run := [(true, ⟨"10.0.0.2", some ⟨"bob", []⟩⟩), (false, ⟨"10.0.0.3", some ⟨"carol", []⟩⟩),
      (false, ⟨"10.0.0.4", none⟩), (true, ⟨"10.0.0.1", some ⟨"alice", []⟩⟩)]
    let final := table.performAll (changes run)
    Runs table (sampleSeries payload) run final ∧ Apart (sampleSeries payload) ∧
      final.get? "10.0.0.1" = some ⟨"alice", []⟩ ∧ final.get? "10.0.0.4" = none := by
  intro table payload run final
  have hrun : Runs table (sampleSeries payload) run final :=
    .step rfl (.step rfl (.step rfl (.step rfl (.done (by decide)))))
  have hapart : Apart (sampleSeries payload) := by
    intro client other hne
    cases client <;> cases other <;> first | exact absurd rfl hne | decide
  obtain ⟨_, _, _, _, hkept⟩ := no_write_lost hrun
  obtain ⟨_, hlast, hmerged⟩ := hkept hapart
  refine ⟨hrun, hapart, ?_, ?_⟩
  · exact hmerged true payload (List.reverse_perm _) "10.0.0.1" _ rfl
  · exact hlast false ⟨"10.0.0.4", none⟩ ⟨[_], [], rfl, by simp⟩

end OverlayGateway.MappingTable
