import OverlayGateway.Periodic
import OverlayGateway.Proofs.Impersonation
import OverlayGateway.Proofs.Result
/-!
What an environment can do to the gateway. Only an address to listen at that is none keeps it from
starting. Whatever else is in the environment, the settings are such that nothing behind them can
stumble over them: the mode is known, the timer for merging has a period, and whoever has no mapping
of its own is presented with a user and with groups.
-/

set_option autoImplicit false
set_option relaxedAutoImplicit false

namespace OverlayGateway

open Impersonation

/-! ### Variables -/

namespace Environment

variable {env : Environment} {key value : String}

theorem nonEmpty?_eq_some_iff :
    env.nonEmpty? key = some value ↔ env.value? key = some value ∧ value ≠ "" := by
  simp [nonEmpty?, Option.filter_eq_some_iff]

/-- A variable with a default that is not empty is never empty. -/
theorem getD_nonEmpty?_ne_empty {default : String} (hdefault : default ≠ "") :
    (env.nonEmpty? key).getD default ≠ "" := by
  cases h : env.nonEmpty? key with
  | none => exact hdefault
  | some value => exact (nonEmpty?_eq_some_iff.1 h).2

/-- Whether a variable is set to something other than an address. -/
structure LacksAddress (env : Environment) (key value : String) : Prop where
  set : env.value? key = some value
  ne_empty : value ≠ ""
  unread : Ip.Address.parse? (Text.trim value) = none

end Environment

theorem listEntries_ne_nil (value : String) : listEntries value ≠ [] := by
  rw [listEntries, Text.split, ne_eq, List.map_eq_nil_iff, List.map_eq_nil_iff]
  exact Text.piecesWhere_ne_nil _ _

/-! ### Addresses to listen at -/

namespace ListenSettings

variable {env : Environment} {key : String} {failure : Failure}

/-- The failure of a variable that is set to something other than an address. -/
def notAddress (key value : String) : Failure :=
  .configuration (key ++ "=" ++ value ++ " is not an IP address: " ++ Ip.syntaxMessage)

theorem addressIn_eq_error_iff :
    addressIn env key = .error failure ↔
      ∃ value, env.LacksAddress key value ∧ failure = notAddress key value := by
  constructor
  · intro h
    unfold addressIn at h
    split at h
    · cases h
    next value hvalue =>
      split at h
      · cases h
      next hparse =>
        cases h
        obtain ⟨hset, hne⟩ := Environment.nonEmpty?_eq_some_iff.1 hvalue
        exact ⟨value, ⟨hset, hne, hparse⟩, rfl⟩
  · rintro ⟨value, ⟨hset, hne, hunread⟩, rfl⟩
    unfold addressIn
    rw [Environment.nonEmpty?_eq_some_iff.2 ⟨hset, hne⟩]
    simp only [hunread, notAddress]

theorem exists_addressIn_eq_ok_iff :
    (∃ address, addressIn env key = .ok address) ↔ ∀ value, ¬ env.LacksAddress key value := by
  constructor
  · rintro ⟨address, h⟩ value hlacks
    have herror := addressIn_eq_error_iff.2 ⟨value, hlacks, rfl⟩
    rw [h] at herror
    cases herror
  · intro hnone
    cases h : addressIn env key with
    | ok address => exact ⟨address, rfl⟩
    | error failure =>
      obtain ⟨value, hlacks, _⟩ := addressIn_eq_error_iff.1 h
      exact absurd hlacks (hnone value)

/-- The proxy's address is looked at first. -/
theorem ofEnvironment_eq_error_iff :
    ofEnvironment env = .error failure ↔
      (∃ value, env.LacksAddress "PROXY_BIND_IP" value ∧
        failure = notAddress "PROXY_BIND_IP" value) ∨
      (∀ value, ¬ env.LacksAddress "PROXY_BIND_IP" value) ∧
        ∃ value, env.LacksAddress "API_BIND_IP" value ∧
          failure = notAddress "API_BIND_IP" value := by
  have hlast (settings : ListenSettings) :
      (pure settings : Except Failure ListenSettings) ≠ .error failure := by
    intro h
    cases h
  unfold ofEnvironment
  simp only [bind_eq_error_iff, hlast, and_false, exists_false, or_false, exists_and_right,
    exists_addressIn_eq_ok_iff, addressIn_eq_error_iff]

end ListenSettings

/-! ### Modes -/

theorem Mode.parse_eq_noAuth_iff {value : String} :
    Mode.parse value = .noAuth ↔ Text.lower (Text.trim value) = "noauth" := by
  have hne : "noauth" ≠ "auth" := by decide
  unfold Mode.parse
  split
  next hauth => simp [hauth]
  next hother => simp

namespace Policy

/-- A mode that is none is as good as no mode. -/
theorem mode_ofEnvironment (env : Environment) :
    (ofEnvironment env).1.mode =
      match (env.nonEmpty? "PROXY_MODE").map Mode.parse with
      | some .noAuth => .noAuth
      | _ => .auth := by
  unfold ofEnvironment
  generalize (env.nonEmpty? "PROXY_MODE").map Mode.parse = parsed
  cases parsed with
  | none => rfl
  | some mode => cases mode <;> rfl

theorem mode_ofEnvironment_cases (env : Environment) :
    (ofEnvironment env).1.mode = .auth ∨ (ofEnvironment env).1.mode = .noAuth := by
  rw [mode_ofEnvironment]
  split
  · exact Or.inr rfl
  · exact Or.inl rfl

theorem mode_ofEnvironment_eq_noAuth_iff {env : Environment} :
    (ofEnvironment env).1.mode = .noAuth ↔
      ∃ value, env.value? "PROXY_MODE" = some value ∧
        Text.lower (Text.trim value) = "noauth" := by
  have hparsed : (ofEnvironment env).1.mode = .noAuth ↔
      (env.nonEmpty? "PROXY_MODE").map Mode.parse = some .noAuth := by
    rw [mode_ofEnvironment]
    split
    next hnoAuth => simp [hnoAuth]
    next hother => simpa using hother
  rw [hparsed, Option.map_eq_some_iff]
  refine exists_congr fun value ↦ ?_
  rw [Environment.nonEmpty?_eq_some_iff, Mode.parse_eq_noAuth_iff, and_assoc]
  refine and_congr_right fun _ ↦ and_iff_right_of_imp fun hmode hempty ↦ ?_
  rw [hempty] at hmode
  exact absurd hmode (by decide)

end Policy

/-! ### Settings that are safe -/

theorem Duration.second_le_ofSeconds {seconds : Nat} (h : 0 < seconds) :
    nanosPerSecond ≤ (ofSeconds seconds).nanos := by
  refine Nat.le_min.2 ⟨Nat.le_mul_of_pos_left nanosPerSecond h, ?_⟩
  decide

/-- The interval is set in whole seconds, of which there is at least one. -/
theorem SyncSettings.second_le_interval (env : Environment) :
    nanosPerSecond ≤ (ofEnvironment env).interval.nanos := by
  unfold ofEnvironment
  refine Duration.second_le_ofSeconds ?_
  generalize hfound : Option.bind _ _ = found
  cases found with
  | none => decide
  | some seconds =>
    obtain ⟨value, _, hread⟩ := Option.bind_eq_some_iff.1 hfound
    simpa using (Option.filter_eq_some_iff.1 hread).2

namespace Settings

/-- Settings that nothing behind them can stumble over. -/
structure Safe (settings : Settings) : Prop where
  mode : settings.policy.mode = .auth ∨ settings.policy.mode = .noAuth
  interval : nanosPerSecond ≤ settings.sync.interval.nanos
  user : settings.policy.fallback.user ≠ ""
  groups : settings.policy.fallback.groups ≠ []
  interface : settings.interface.name ≠ ""

variable {env : Environment} {settings : Settings}

/-- Reading settings fails where reading the addresses to listen at does. -/
theorem ofEnvironment_eq_error_iff {failure : Failure} :
    (ofEnvironment env).1 = .error failure ↔ ListenSettings.ofEnvironment env = .error failure := by
  unfold ofEnvironment
  cases ListenSettings.ofEnvironment env <;> simp [Except.map]

/-- The settings that an environment has, one part beside the other. -/
theorem parts_of_ofEnvironment (h : (ofEnvironment env).1 = .ok settings) :
    settings.policy = (Policy.ofEnvironment env).1 ∧
      settings.sync = SyncSettings.ofEnvironment env ∧
      settings.interface = InterfaceSettings.ofEnvironment env := by
  unfold ofEnvironment at h
  cases hlisten : ListenSettings.ofEnvironment env with
  | error failure =>
    rw [hlisten] at h
    cases h
  | ok listen =>
    rw [hlisten] at h
    cases h
    exact ⟨rfl, rfl, rfl⟩

theorem safe_of_ofEnvironment (h : (ofEnvironment env).1 = .ok settings) : settings.Safe := by
  obtain ⟨hpolicy, hsync, hinterface⟩ := parts_of_ofEnvironment h
  have hfallback : (Policy.ofEnvironment env).1.fallback =
      { user := (env.nonEmpty? "PROXY_IMPERSONATE_USER").getD Identity.overlayPeer.user
        groups := ((env.nonEmpty? "PROXY_IMPERSONATE_GROUPS").map listEntries).getD
          Identity.overlayPeer.groups } := rfl
  refine ⟨?mode, ?interval, ?user, ?groups, ?interface⟩
  case mode => exact hpolicy ▸ Policy.mode_ofEnvironment_cases env
  case interval => exact hsync ▸ SyncSettings.second_le_interval env
  case user =>
    rw [hpolicy, hfallback]
    exact Environment.getD_nonEmpty?_ne_empty (by decide)
  case groups =>
    rw [hpolicy, hfallback]
    dsimp only
    cases env.nonEmpty? "PROXY_IMPERSONATE_GROUPS" with
    | none => decide
    | some value => exact listEntries_ne_nil value
  case interface =>
    rw [hinterface]
    exact Environment.getD_nonEmpty?_ne_empty (by decide)

/-! ### What is behind the settings -/

theorem Safe.failure_apply_ne_invalidMode (h : settings.Safe) (table : MappingTable)
    (address : Ip.Address) (headers : Http.Headers) (name : String) :
    (apply settings.policy table address headers).failure ≠ some (.invalidMode name) := by
  intro hfailure
  rcases h.mode with hauth | hnoAuth
  · rw [apply_auth hauth] at hfailure
    cases Draft.failure_setAll_of_some rfl hfailure
  · rw [apply, hnoAuth] at hfailure
    cases hfailure

theorem Safe.run?_eq (h : settings.Safe) (script : Nat → Periodic.Fetch) (firedAt : Nat)
    (choices : List Periodic.Turn) (table : MappingTable) :
    Periodic.run? settings.sync script firedAt choices table =
      some (Periodic.run settings.sync script firedAt choices table) := by
  have hpos : settings.sync.interval.nanos ≠ 0 := by
    have hsecond := h.interval
    unfold nanosPerSecond at hsecond
    omega
  rw [Periodic.run?, decide_eq_false hpos, Bool.and_false]
  rfl

/-- A caller without a mapping is presented with a user and with groups, or not at all. -/
theorem Safe.presented_or_failed (h : settings.Safe) (hmode : settings.policy.mode = .auth)
    {table : MappingTable} {address : Ip.Address} (hunmapped : table.get? address.text = none)
    (headers : Http.Headers) :
    let draft := apply settings.policy table address headers
    draft.failure = some unsendable ∨
      draft.failure = none ∧
        draft.headers.Carries userHeader [settings.policy.fallback.user] ∧
        draft.headers.Carries groupHeader
          [",".intercalate settings.policy.fallback.groups] := by
  intro draft
  cases hfailure : draft.failure with
  | some failure =>
    rw [show draft = _ from apply_auth hmode table address headers] at hfailure
    exact Or.inl (congrArg some (Draft.failure_setAll_of_some rfl hfailure))
  | none =>
    have huser := carries_apply_of_unmapped hmode hunmapped hfailure
      (show isImpersonation userHeader = true by decide)
    have hgroup := carries_apply_of_unmapped hmode hunmapped hfailure
      (show isImpersonation groupHeader = true by decide)
    rw [text?_user_of_ne_empty h.user] at huser
    rw [text?_group_of_ne_nil h.groups] at hgroup
    exact Or.inr ⟨rfl, huser, hgroup⟩

/-- An environment gives settings unless one of the two addresses to listen at is set to something
else, the proxy's being looked at first; no other variable counts. The mode is then `noAuth` if that
is what the environment says, but for case and blanks around it, and else `auth`. The interval of
merging is a second at least, and the user, the groups and the interface have names. So no request
fails for want of a mode, and no timer for want of a period; and in `auth` mode a caller without a
mapping is presented with a user and with groups, or not at all. -/
theorem settings_safe (env : Environment) :
    (∀ failure, (ofEnvironment env).1 = .error failure ↔
      (∃ value, env.LacksAddress "PROXY_BIND_IP" value ∧
        failure = ListenSettings.notAddress "PROXY_BIND_IP" value) ∨
      (∀ value, ¬ env.LacksAddress "PROXY_BIND_IP" value) ∧
        ∃ value, env.LacksAddress "API_BIND_IP" value ∧
          failure = ListenSettings.notAddress "API_BIND_IP" value) ∧
    (∀ other : Environment,
      (∀ key ∈ ["PROXY_BIND_IP", "API_BIND_IP"], other.value? key = env.value? key) →
        ∀ failure, (ofEnvironment other).1 = .error failure ↔
          (ofEnvironment env).1 = .error failure) ∧
    ∀ settings, (ofEnvironment env).1 = .ok settings →
      settings.Safe ∧
      (settings.policy.mode = .noAuth ↔
        ∃ value, env.value? "PROXY_MODE" = some value ∧
          Text.lower (Text.trim value) = "noauth") ∧
      (∀ table address headers name,
        (apply settings.policy table address headers).failure ≠ some (.invalidMode name)) ∧
      (∀ script firedAt choices table,
        Periodic.run? settings.sync script firedAt choices table =
          some (Periodic.run settings.sync script firedAt choices table)) ∧
      (settings.policy.mode = .auth →
        ∀ (table : MappingTable) (address : Ip.Address), table.get? address.text = none →
          ∀ headers,
            let draft := apply settings.policy table address headers
            draft.failure = some unsendable ∨
              draft.failure = none ∧
                draft.headers.Carries userHeader [settings.policy.fallback.user] ∧
                draft.headers.Carries groupHeader
                  [",".intercalate settings.policy.fallback.groups]) := by
  refine ⟨fun failure ↦ ?failure, fun other hsame failure ↦ ?other, fun settings hsettings ↦ ?safe⟩
  case failure => rw [ofEnvironment_eq_error_iff, ListenSettings.ofEnvironment_eq_error_iff]
  case other =>
    have hlacks (key : String) (hkey : key ∈ ["PROXY_BIND_IP", "API_BIND_IP"]) (value : String) :
        other.LacksAddress key value ↔ env.LacksAddress key value := by
      constructor
      · exact fun h ↦ ⟨hsame key hkey ▸ h.set, h.ne_empty, h.unread⟩
      · exact fun h ↦ ⟨(hsame key hkey).trans h.set, h.ne_empty, h.unread⟩
    simp only [ofEnvironment_eq_error_iff, ListenSettings.ofEnvironment_eq_error_iff,
      hlacks "PROXY_BIND_IP" (by simp), hlacks "API_BIND_IP" (by simp)]
  case safe =>
    have hsafe := safe_of_ofEnvironment hsettings
    refine ⟨hsafe, ?_, hsafe.failure_apply_ne_invalidMode, hsafe.run?_eq,
      fun hmode _ _ hunmapped ↦ hsafe.presented_or_failed hmode hunmapped⟩
    rw [(parts_of_ofEnvironment hsettings).1]
    exact Policy.mode_ofEnvironment_eq_noAuth_iff

/-- An environment with hardly a variable that could be used, and the one in which none is set. -/
theorem settings_safe_sample :
    let env := Environment.ofList [("PROXY_MODE", "audit"), ("EXTERNAL_API_SYNC_INTERVAL", "0"),
      ("PROXY_IMPERSONATE_GROUPS", ", "), ("IFACE_NAME", ""), ("PROXY_BIND_IP", " 10.0.0.9 ")]
    let other := Environment.ofList [("PROXY_BIND_IP", " 10.0.0.9 ")]
    let address : Ip.Address := .v4 ⟨10, 0, 0, 1⟩
    (∀ key ∈ ["PROXY_BIND_IP", "API_BIND_IP"], other.value? key = env.value? key) ∧
      (∀ failure, (ofEnvironment other).1 ≠ .error failure) ∧
      ∃ settings, (ofEnvironment env).1 = .ok settings ∧ settings.Safe ∧
        settings.policy.mode = .auth ∧ MappingTable.empty.get? address.text = none ∧
        (apply settings.policy .empty address .empty).headers.Carries groupHeader [","] := by
  intro env other address
  obtain ⟨_, hother, hsettings⟩ := settings_safe env
  have hsame : ∀ key ∈ ["PROXY_BIND_IP", "API_BIND_IP"], other.value? key = env.value? key := by
    decide
  obtain ⟨settings, hread⟩ : ∃ settings, (ofEnvironment env).1 = .ok settings := ⟨_, rfl⟩
  obtain ⟨hsafe, _, _, _, hpresented⟩ := hsettings settings hread
  have hpolicy : settings.policy = ⟨.auth, ⟨"wireguard-peer", ["", ""]⟩⟩ :=
    (parts_of_ofEnvironment hread).1.trans (by decide)
  have hmode : settings.policy.mode = .auth := by rw [hpolicy]
  refine ⟨hsame, fun failure hfailed ↦ ?_, settings, hread, hsafe, hmode, rfl, ?_⟩
  · rw [hother other hsame, hread] at hfailed
    cases hfailed
  · rcases hpresented hmode .empty address rfl .empty with hfailed | ⟨_, _, hgroups⟩
    · rw [hpolicy] at hfailed
      exact absurd hfailed (by decide)
    · rw [hpolicy] at hgroups ⊢
      exact hgroups

end Settings

end OverlayGateway
