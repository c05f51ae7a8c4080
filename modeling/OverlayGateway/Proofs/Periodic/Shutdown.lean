import OverlayGateway.Periodic
/-!
When periodic merging stops. Without a token it would go through one fetch after the other; a run
is a beginning of that series, and no fetch of it is cut short. Once the token has fired no fetch
starts, unless a tick is due when the run finds the token fired and the choice between the two falls
on the tick.
-/

set_option autoImplicit false
set_option relaxedAutoImplicit false

namespace OverlayGateway.Periodic

/-! ### The series of fetches -/

/-- A run that waits for its next fetch. -/
structure Pending where
  index : Nat
  due : Nat
  now : Nat
  table : MappingTable

namespace Pending

def first (table : MappingTable) : Pending := ⟨0, 0, 0, table⟩

/-- When the next fetch starts if nothing else happens. -/
def start (pending : Pending) : Nat := max pending.now pending.due

/-- When the run finds that a token has fired, if it looks no earlier than now. -/
def notices (pending : Pending) (firedAt : Nat) : Nat := max pending.now firedAt

variable (interval : { n : Nat // 0 < n }) (script : Nat → Fetch)

/-- What a run waits for when its next fetch is over and merged. -/
def next (pending : Pending) : Pending where
  index := pending.index + 1
  due := nextDue interval.1 pending.due pending.start
  now := pending.start + (script pending.index).duration
  table := (merge pending.table (script pending.index)).1

/-- What a run waits for when some more fetches are over and merged. -/
def after (pending : Pending) : Nat → Pending
  | 0 => pending
  | count + 1 => (pending.next interval script).after count

/-- Continues a run. -/
def run (firedAt : Nat) (choices : List Turn) (pending : Pending) : Run :=
  runFrom interval script firedAt pending.index pending.due pending.now choices pending.table

end Pending

/-! ### Runs, step by step -/

/-- The run that ends without another fetch. -/
def stopped (pending : Pending) (firedAt : Nat) : Run :=
  ⟨[], pending.notices firedAt, pending.table, [Log.info "Stopping external API sync" []]⟩

/-- A run with the next fetch in front. -/
def Run.afterFetch (run : Run) (script : Nat → Fetch) (pending : Pending) : Run :=
  run.after pending.start (merge pending.table (script pending.index)).2

/-- How a run goes on, given the choices that are left: it stops, it fetches because the token has
not fired by then, or it fetches although the token has fired, because both were possible. -/
inductive Goes (interval : { n : Nat // 0 < n }) (script : Nat → Fetch) (firedAt : Nat) :
    List Turn → Pending → Run → Prop
  | stop {choices : List Turn} {pending : Pending}
      (hfired : pending.notices firedAt ≤ pending.start)
      (hchoice : pending.start = pending.notices firedAt → choices.head? ≠ some .fetch) :
      Goes interval script firedAt choices pending (stopped pending firedAt)
  | early {choices : List Turn} {pending : Pending} {run : Run}
      (hearly : pending.start < pending.notices firedAt)
      (rest : Goes interval script firedAt choices (pending.next interval script) run) :
      Goes interval script firedAt choices pending (run.afterFetch script pending)
  | late {choices : List Turn} {pending : Pending} {run : Run}
      (htie : pending.start = pending.notices firedAt)
      (rest : Goes interval script firedAt choices (pending.next interval script) run) :
      Goes interval script firedAt (.fetch :: choices) pending (run.afterFetch script pending)

theorem goes_run (interval : { n : Nat // 0 < n }) (script : Nat → Fetch) (firedAt : Nat)
    (choices : List Turn) (pending : Pending) :
    Goes interval script firedAt choices pending
      (pending.run interval script firedAt choices) := by
  obtain ⟨index, due, now, table⟩ := pending
  unfold Pending.run
  induction index, due, now, choices, table using runFrom.induct interval script firedAt with
  | case1 index due now choices table start stop due' ended merged hearly ih =>
    rw [runFrom.eq_def, dif_pos hearly]
    exact .early hearly ih
  | case2 index due now choices table start stop hlate hfired =>
    rw [runFrom.eq_def, dif_neg hlate, if_pos hfired]
    exact .stop (Nat.le_of_lt hfired) fun htie ↦ absurd htie (Nat.ne_of_gt hfired)
  | case3 index due now table start stop due' ended merged hlate hnot choices ih =>
    rw [runFrom.eq_def, dif_neg hlate, if_neg hnot]
    exact .late (Nat.le_antisymm (Nat.not_lt.1 hnot) (Nat.not_lt.1 hlate)) ih
  | case4 index due now choices table start stop hlate hnot hchoice =>
    rw [runFrom.eq_def, dif_neg hlate, if_neg hnot]
    have hhead : choices.head? ≠ some .fetch := by
      intro hhead
      obtain ⟨rest, rfl⟩ := List.head?_eq_some_iff.1 hhead
      exact hchoice rest rfl
    cases choices with
    | nil => exact .stop (Nat.not_lt.1 hlate) fun _ ↦ hhead
    | cons choice rest =>
      cases choice with
      | fetch => exact absurd rfl hhead
      | stop => exact .stop (Nat.not_lt.1 hlate) fun _ ↦ hhead

/-! ### What a run is made of -/

section Goes

variable {interval : { n : Nat // 0 < n }} {script : Nat → Fetch} {firedAt : Nat}
  {choices : List Turn} {pending : Pending} {run : Run}

theorem Pending.after_succ (count : Nat) :
    pending.after interval script (count + 1) =
      (pending.next interval script).after interval script count := rfl

/-- The fetches of the series are merged one after the other. -/
theorem Pending.table_after (count : Nat) :
    ∀ pending : Pending, (pending.after interval script count).table =
      ((List.range count).map fun number ↦ script (pending.index + number)).foldl
        (fun table fetch ↦ (merge table fetch).1) pending.table := by
  induction count with
  | zero => exact fun _ ↦ rfl
  | succ count ih =>
    intro pending
    have hindices (number : Nat) : (pending.next interval script).index + number =
        pending.index + (number + 1) :=
      Nat.succ_add_eq_add_succ pending.index number
    rw [Pending.after_succ, ih, List.range_succ_eq_map, List.map_cons, List.map_map]
    simp only [hindices]
    rfl

/-- A run is a beginning of the series of fetches, each of them over and merged when it ends. -/
theorem Goes.consists (h : Goes interval script firedAt choices pending run) :
    ∃ count, run.fetches = (List.range count).map
        (fun number ↦ (pending.after interval script number).start) ∧
      run.table = (pending.after interval script count).table ∧
      run.endedAt = (pending.after interval script count).notices firedAt := by
  induction h with
  | stop hfired hchoice => exact ⟨0, rfl, rfl, rfl⟩
  | early hearly rest ih | late htie rest ih =>
    obtain ⟨count, hfetches, htable, hended⟩ := ih
    refine ⟨count + 1, ?_, htable, hended⟩
    rw [List.range_succ_eq_map, List.map_cons, List.map_map]
    exact congrArg (List.cons _) hfetches

/-- A run ends no earlier than it waits for its next fetch. -/
theorem Goes.now_le_endedAt (h : Goes interval script firedAt choices pending run) :
    pending.now ≤ run.endedAt := by
  induction h with
  | stop hfired hchoice => exact Nat.le_max_left _ _
  | early hearly rest ih | late htie rest ih =>
    refine Nat.le_trans ?_ ih
    exact Nat.le_trans (Nat.le_max_left _ _) (Nat.le_add_right _ _)

/-- Every fetch of a run is over when the run ends. -/
theorem Goes.fetch_le_endedAt (h : Goes interval script firedAt choices pending run) :
    ∀ number start, run.fetches[number]? = some start →
      start + (script (pending.index + number)).duration ≤ run.endedAt := by
  induction h with
  | stop hfired hchoice =>
    intro number start hstart
    cases hstart
  | early hearly rest ih | late htie rest ih =>
    intro number start hstart
    cases number with
    | zero =>
      cases hstart
      exact rest.now_le_endedAt
    | succ number =>
      have hover := ih number start hstart
      rwa [Pending.next, Nat.succ_add_eq_add_succ] at hover

theorem Pending.firedAt_le_notices (pending : Pending) : firedAt ≤ pending.notices firedAt :=
  Nat.le_max_right _ _

/-- A fetch of the series takes place if it and all before it start before the token fires. -/
theorem Goes.mem_fetches (h : Goes interval script firedAt choices pending run) {count : Nat}
    (hearly : ∀ number ≤ count, (pending.after interval script number).start < firedAt) :
    (pending.after interval script count).start ∈ run.fetches := by
  have hnotices (pending : Pending) : firedAt ≤ pending.notices firedAt := pending.firedAt_le_notices
  induction h generalizing count with
  | @stop choices pending hfired hchoice =>
    have hstart : pending.start < firedAt := hearly 0 (Nat.zero_le _)
    have hlater := hnotices pending
    omega
  | early hbefore rest ih | late htie rest ih =>
    cases count with
    | zero => exact List.mem_cons_self
    | succ count =>
      refine List.mem_cons_of_mem _ (ih fun number hnumber ↦ ?_)
      exact hearly (number + 1) (Nat.succ_le_succ hnumber)

end Goes

/-- With a source, a run goes on from before its first fetch. -/
theorem run_of_configured {settings : SyncSettings} (hconfigured : settings.isConfigured = true)
    (script : Nat → Fetch) (firedAt : Nat) (choices : List Turn) (table : MappingTable) :
    let run := Periodic.run settings script firedAt choices table
    let going := (Pending.first table).run (interval settings) script firedAt choices
    run.fetches = going.fetches ∧ run.table = going.table ∧ run.endedAt = going.endedAt := by
  simp only [Periodic.run, hconfigured, if_true]
  exact ⟨rfl, rfl, rfl⟩

end OverlayGateway.Periodic
