import OverlayGateway.Lifecycle
import OverlayGateway.Proofs.Periodic.Shutdown
import OverlayGateway.Proofs.Result
/-!
Whether merging is over when a run returns. A run that returns because the token fired, or because
its servers have ended, waits for the merging that it started, and by then every fetch is finished
and merged. A run whose listeners cannot be bound returns at once: nothing has told the merging to
stop, and it goes on without the run.
-/

set_option autoImplicit false
set_option relaxedAutoImplicit false

namespace OverlayGateway.Lifecycle

/-- Whether merging is over at some time. -/
def Merging.EndedBy (merging : Merging) (time : Nat) : Prop :=
  ∃ ended, merging.endedAt = some ended ∧ ended ≤ time

/-- Whether a run failed because a listener could not be bound. -/
def Run.Unbound (run : Run) : Prop := ∃ socket cause, run.result = .error (.bind socket cause)

/-! ### Merging on its own -/

section Merging

variable {settings : SyncSettings} {world : World}

theorem endedBy_mergingUntil (time now : Nat) {returnedAt : Nat}
    (h : (mergingUntil settings world (some time) now).run.endedAt ≤ returnedAt) :
    (mergingUntil settings world (some time) now).EndedBy returnedAt :=
  ⟨_, rfl, h⟩

/-- A merging with a source ends once the token has fired, and not before. -/
theorem firedAt_of_endedBy (hconfigured : settings.isConfigured = true) {firedAt : Option Nat}
    {now returnedAt : Nat} (h : (mergingUntil settings world firedAt now).EndedBy returnedAt) :
    ∃ time, firedAt = some time ∧ time ≤ returnedAt := by
  obtain ⟨ended, hended, hle⟩ := h
  cases firedAt with
  | none => simp [mergingUntil, hconfigured] at hended
  | some time =>
    refine ⟨time, rfl, Nat.le_trans ?_ hle⟩
    obtain ⟨_, _, hrun⟩ :=
      Periodic.run_of_configured hconfigured world.fetch time world.turns .empty
    obtain ⟨count, _, _, hnotices⟩ := (Periodic.goes_run (Periodic.interval settings) world.fetch
      time world.turns (Periodic.Pending.first .empty)).consists
    rw [← Option.some.inj hended]
    show time ≤ (Periodic.run settings world.fetch time world.turns .empty).endedAt
    rw [hrun, hnotices]
    exact Periodic.Pending.firedAt_le_notices _

theorem fetch_le_endedAt_mergingUntil (hconfigured : settings.isConfigured = true) (time now : Nat)
    {number start : Nat}
    (hstart : (mergingUntil settings world (some time) now).run.fetches[number]? = some start) :
    start + (world.fetch number).duration ≤
      (mergingUntil settings world (some time) now).run.endedAt := by
  obtain ⟨hfetches, _, hended⟩ :=
    Periodic.run_of_configured hconfigured world.fetch time world.turns .empty
  have hover := (Periodic.goes_run (Periodic.interval settings) world.fetch time world.turns
    (Periodic.Pending.first .empty)).fetch_le_endedAt number start
  rw [Periodic.Pending.first, Nat.zero_add] at hover
  dsimp only [mergingUntil] at hstart ⊢
  rw [hended]
  rw [hfetches] at hstart
  exact hover hstart

end Merging

/-! ### How runs return -/

/-- How a run that has started merging returns: it waits for the merging, whose token has fired, or
it is abandoned by a listener that cannot be bound before the token has fired. -/
inductive Exit (settings : Settings) (world : World) (run : Run) (merging : Merging) : Prop
  | joined {time now : Nat} (hbound : ¬ run.Unbound)
      (hmerging : merging = mergingUntil settings.sync world (some time) now)
      (hreturned : merging.run.endedAt ≤ run.returnedAt)
  | abandoned {now : Nat} (hunbound : run.Unbound)
      (hmerging : merging = mergingUntil settings.sync world world.firedAt now)
      (hpending : ∀ time, world.firedAt = some time → run.returnedAt < time)

section Exits

variable {settings : Settings} {world : World} {run : Run} {merging : Merging}

theorem exists_of_bind_eq_error {held : List Ip.Socket} {socket : Ip.Socket} {failure : Failure}
    (h : bind world held socket = .error failure) :
    ∃ socket cause, failure = .bind socket cause := by
  unfold bind at h
  cases hbound : world.bind held socket with
  | ok bound =>
    rw [hbound] at h
    cases h
  | error cause =>
    rw [hbound] at h
    cases h
    exact ⟨socket, cause, rfl⟩

/-- Binding the listeners fails for one of them. -/
theorem exists_of_bindBoth_eq_error {listen : ListenSettings} {overlay : Option Ip.V4}
    {failure : Failure} (h : bindBoth listen world overlay = .error failure) :
    ∃ socket cause, failure = .bind socket cause := by
  rcases bind_eq_error_iff.1 h with hproxy | ⟨proxy, _, hmanagement⟩
  · exact exists_of_bind_eq_error hproxy
  · rcases bind_eq_error_iff.1 hmanagement with hunbound | ⟨management, _, hpure⟩
    · exact exists_of_bind_eq_error hunbound
    · cases hpure

/-- A server fails for no listener. -/
theorem result_endOf_ne (start stop : Nat) (role : Role) (socket : Ip.Socket) (cause : String) :
    (endOf world start stop role).result ≠ .error (.bind socket cause) := by
  unfold endOf
  cases world.breakdown role with
  | none => exact nofun
  | some breakdown =>
    dsimp only
    split <;> exact nofun

theorem not_unbound_of_bothSucceed {first second : Except Failure Unit}
    (hfirst : ∀ socket cause, first ≠ .error (.bind socket cause))
    (hsecond : ∀ socket cause, second ≠ .error (.bind socket cause))
    (hresult : run.result = bothSucceed first second) : ¬ run.Unbound := by
  rintro ⟨socket, cause, hunbound⟩
  rw [hresult] at hunbound
  cases first with
  | error failure => exact hfirst socket cause hunbound
  | ok => exact hsecond socket cause hunbound

theorem exit_of_serve? {start : Nat} {sockets : Ip.Socket × Ip.Socket} {log : List Log.Event}
    (hrun : serve? settings world start sockets log = some run)
    (hmerging : run.merging = some merging) : Exit settings world run merging := by
  unfold serve? at hrun
  cases hstop : stopAt? world start with
  | none =>
    rw [hstop] at hrun
    cases hrun
  | some stop =>
    rw [hstop] at hrun
    cases hrun
    cases hmerging
    exact .joined (not_unbound_of_bothSucceed (result_endOf_ne start stop .proxy)
      (result_endOf_ne start stop .management) rfl) rfl (Nat.le_max_right _ _)

theorem exit_of_proceed? {log : List Log.Event} (hrun : proceed? settings world log = some run)
    (hmerging : run.merging = some merging) : Exit settings world run merging := by
  unfold proceed? at hrun
  dsimp only at hrun
  by_cases hfired : Polling.hasFired world.firedAt (discover settings world).endedAt = true
  · rw [if_pos hfired] at hrun
    obtain ⟨time, htime⟩ : ∃ time, world.firedAt = some time := by
      cases htime : world.firedAt with
      | none => simp [htime, Polling.hasFired] at hfired
      | some time => exact ⟨time, rfl⟩
    cases hrun
    cases hmerging
    rw [htime]
    exact .joined nofun rfl (Nat.le_max_right _ _)
  · rw [if_neg hfired] at hrun
    cases hbound : bindBoth settings.listen world (discover settings world).found with
    | error failure =>
      rw [hbound] at hrun
      cases hrun
      cases hmerging
      obtain ⟨socket, cause, rfl⟩ := exists_of_bindBoth_eq_error hbound
      refine .abandoned ⟨socket, cause, rfl⟩ rfl fun time htime ↦ ?_
      rw [htime] at hfired
      simpa [Polling.hasFired] using hfired
    | ok sockets =>
      rw [hbound] at hrun
      exact exit_of_serve? hrun hmerging

theorem exit_of_run? {loaded : Except Failure (ClusterAccess × List Log.Event)}
    (hrun : run? settings loaded world = some run) (hmerging : run.merging = some merging) :
    Exit settings world run merging := by
  unfold run? at hrun
  cases loaded with
  | error failure =>
    cases hrun
    cases hmerging
  | ok access =>
    dsimp only at hrun
    cases htrust : access.1.checkTrust settings.skipTlsVerify with
    | error failure =>
      rw [htrust] at hrun
      cases hrun
      cases hmerging
    | ok =>
      rw [htrust] at hrun
      exact exit_of_proceed? hrun hmerging

/-- Merging is over when a run returns, with every fetch finished by then, unless the run returns
because a listener cannot be bound. This is the merging that the run started itself: nothing is said
of a merge that a request asked for, which goes on behind the grace if its request does. -/
theorem merging_ended_iff {loaded : Except Failure (ClusterAccess × List Log.Event)}
    (hrun : run? settings loaded world = some run) (hmerging : run.merging = some merging)
    (hconfigured : settings.sync.isConfigured = true) :
    (merging.EndedBy run.returnedAt ↔ ¬ run.Unbound) ∧
      (merging.EndedBy run.returnedAt → ∀ number start, merging.run.fetches[number]? = some start →
        start + (world.fetch number).duration ≤ run.returnedAt) := by
  cases exit_of_run? hrun hmerging with
  | @joined time now hbound huntil hreturned =>
    subst huntil
    refine ⟨iff_of_true (endedBy_mergingUntil time now hreturned) hbound, ?_⟩
    intro _ number start hstart
    exact Nat.le_trans (fetch_le_endedAt_mergingUntil hconfigured time now hstart) hreturned
  | abandoned hunbound huntil hpending =>
    have hrunning : ¬ merging.EndedBy run.returnedAt := by
      intro hended
      subst huntil
      obtain ⟨time, hfired, hle⟩ := firedAt_of_endedBy hconfigured hended
      exact absurd hle (Nat.not_le.2 (hpending time hfired))
    exact ⟨iff_of_false hrunning (not_not_intro hunbound), fun hended ↦ absurd hended hrunning⟩

end Exits

/-- Settings with a source of mappings and an address for both listeners. -/
def sampleSettings : Settings where
  sync := { serverDomain := "netmaker.example", apiToken := "token" }
  listen :=
    { proxyAddress := some (.v4 ⟨127, 0, 0, 1⟩), managementAddress := some (.v4 ⟨127, 0, 0, 1⟩) }

def sampleAccess : ClusterAccess where
  apiServer := { scheme := "http", location := .hierarchical { host := .v4 ⟨127, 0, 0, 1⟩ } [""] }
  credential := .bearerToken "token"

/-- A world whose source has no mappings; the token fires when the run is forty seconds old. -/
def sampleWorld (bind : Ip.Socket → Except String Ip.Socket) : World where
  listing := fun _ ↦ .ok []
  fetch := fun _ ↦ { answer := .ok .empty }
  bind := fun _ ↦ bind
  firedAt := some (40 * nanosPerSecond)

/-- A run in it, with the access to the API server. -/
def sampleRun (bind : Ip.Socket → Except String Ip.Socket) : Option Run :=
  run? sampleSettings (.ok (sampleAccess, [])) (sampleWorld bind)

/-- Where the ports are in use, the run returns and a fetch starts half a minute later. Where they
are free, the run waits for its merging. -/
theorem merging_ended_sample :
    (∃ run merging, sampleRun (fun _ ↦ .error Listener.inUse) = some run ∧
      run.merging = some merging ∧ ¬ merging.EndedBy run.returnedAt ∧
        ∃ start ∈ merging.run.fetches, run.returnedAt < start) ∧
    ∃ run merging, sampleRun .ok = some run ∧ run.merging = some merging ∧
      merging.EndedBy run.returnedAt := by
  constructor
  · have hearly : ∀ number ≤ 1, ((Periodic.Pending.first .empty).after
        (Periodic.interval sampleSettings.sync) (fun _ ↦ { answer := .ok .empty })
        number).start < 40 * nanosPerSecond := by
      intro number hnumber
      rcases Nat.le_one_iff_eq_zero_or_eq_one.1 hnumber with rfl | rfl
      · decide
      · decide
    have hfetch := (Periodic.goes_run _ _ _ [] _).mem_fetches hearly
    rw [← (Periodic.run_of_configured (by decide) _ _ _ _).1] at hfetch
    refine ⟨_, _, rfl, rfl, ?_, _, hfetch, by decide⟩
    intro hended
    have hbound := (@merging_ended_iff sampleSettings (sampleWorld fun _ ↦ .error Listener.inUse)
      _ _ (.ok (sampleAccess, [])) rfl rfl (by decide)).1.1 hended
    exact hbound ⟨_, _, rfl⟩
  · refine ⟨_, _, rfl, rfl, ?_⟩
    exact (@merging_ended_iff sampleSettings (sampleWorld .ok) _ _ (.ok (sampleAccess, [])) rfl rfl
      (by decide)).1.2 (by rintro ⟨socket, cause, h⟩; cases h)

end OverlayGateway.Lifecycle
