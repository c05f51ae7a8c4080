import OverlayGateway.MappingSync
/-!
Periodic merging on a virtual clock. The source is asked at once and then at every tick; a tick is
due one interval after the one before it was due, or after that fetch started if it started late. A
fetch that runs is never interrupted. Where a tick and the end of the run are possible at the same
time, a list of choices says which one comes to pass.
-/

set_option autoImplicit false
set_option relaxedAutoImplicit false

namespace OverlayGateway.Periodic

/-- How late a fetch may start without moving the ticks behind it, in nanoseconds. -/
def tolerance : Nat := 5 * nanosPerMilli

/-- What one request to the source gives and how long it takes. -/
structure Fetch where
  answer : MappingSync.Fetched
  duration : Nat := 0

/-- When the next tick is due after a fetch that was due at `due` and started at `start`. -/
def nextDue (interval due start : Nat) : Nat :=
  if due + tolerance < start then start + interval else due + interval

/-- A finished run: when fetches started, when it ended, and what it left. -/
structure Run where
  fetches : List Nat
  endedAt : Nat
  table : MappingTable
  log : List Log.Event

/-- A run with a fetch in front. -/
def Run.after (run : Run) (start : Nat) (log : List Log.Event) : Run :=
  { run with fetches := start :: run.fetches, log := log ++ run.log }

/-- The merge of a fetch within the run, where a failure is only an event. -/
def merge (table : MappingTable) (fetch : Fetch) : MappingTable × List Log.Event :=
  let merge := MappingSync.merge table fetch.answer
  match merge.result with
  | .ok _ => (merge.table, merge.log)
  | .error failure =>
    (merge.table, merge.log ++
      [Log.error "Failed to sync user mappings from external API"
        [("error", .text failure.message)]])

theorem due_lt_nextDue {interval due start : Nat} (h : 0 < interval) (hstart : due ≤ start) :
    due < nextDue interval due start := by
  unfold nextDue
  split <;> omega

/-- What is left to decide: whether another fetch starts or the run ends. -/
inductive Turn where
  | fetch
  | stop
  deriving DecidableEq, Repr

/-- Continues a run at `now`, with fetch number `index` due at `due` and a token that fires at
`firedAt`. -/
def runFrom (interval : { n : Nat // 0 < n }) (script : Nat → Fetch) (firedAt index due now : Nat)
    (choices : List Turn) (table : MappingTable) : Run :=
  let start := max now due
  let stop := max now firedAt
  let stopped : Run := ⟨[], stop, table, [Log.info "Stopping external API sync" []]⟩
  let due' := nextDue interval.1 due start
  let ended := start + (script index).duration
  let merged := merge table (script index)
  if hearly : start < stop then
    (runFrom interval script firedAt (index + 1) due' ended choices merged.1).after start merged.2
  else if stop < start then stopped
  else
    match choices with
    | .fetch :: choices =>
      (runFrom interval script firedAt (index + 1) due' ended choices merged.1).after start
        merged.2
    | _ => stopped
termination_by (firedAt - due) + choices.length
decreasing_by
  · have h : due < nextDue interval.1 due (max now due) :=
      due_lt_nextDue interval.2 (Nat.le_max_right now due)
    simp only [start, stop] at hearly
    omega
  · have h : due < nextDue interval.1 due (max now due) :=
      due_lt_nextDue interval.2 (Nat.le_max_right now due)
    simp only [List.length_cons]
    omega

/-- The interval between ticks, which is never nothing. -/
def interval (settings : SyncSettings) : { n : Nat // 0 < n } :=
  ⟨max 1 settings.interval.nanos, by omega⟩

/-- Asks the source periodically until the token fires, if there is a source. -/
def run (settings : SyncSettings) (script : Nat → Fetch) (firedAt : Nat) (choices : List Turn)
    (table : MappingTable) : Run :=
  if settings.isConfigured then
    let start := Log.info "Starting external API sync"
      [("server", .text settings.serverDomain), ("interval_secs", .count settings.interval.seconds)]
    let run := runFrom (interval settings) script firedAt 0 0 0 choices table
    { run with log := start :: run.log }
  else ⟨[], 0, table, [Log.info "External API not configured, skipping sync" []]⟩

/-- The same, and nothing where the program breaks down: a timer for ticks must have a period. -/
def run? (settings : SyncSettings) (script : Nat → Fetch) (firedAt : Nat) (choices : List Turn)
    (table : MappingTable) : Option Run :=
  if settings.isConfigured && settings.interval.nanos = 0 then none
  else some (run settings script firedAt choices table)

end OverlayGateway.Periodic
