import OverlayGateway.Proofs.Decimal.Unsigned
import OverlayGateway.Proofs.Settings
import OverlayGateway.Proofs.Text.Blank
/-!
Numbers in the environment. A variable holds a number if it is set to an unsigned decimal with
nothing but blanks around it. Whoever asks for a number below a limit is given the one that is held,
or else the default: if the variable is unset, or if there is a flaw in what it is set to. So the
ports, the attempts and the delays are what their variables say, or the defaults
(`numbers_or_defaults`).
-/

set_option autoImplicit false
set_option relaxedAutoImplicit false

namespace OverlayGateway

/-! ### Variables with a number -/

namespace Environment

/-- A variable is set to a text that is the given one but for blanks around it. -/
def Shows (env : Environment) (key : String) (cs : List Char) : Prop :=
  ∃ value, env.value? key = some value ∧ Text.Surrounds value.toList cs ∧ Text.Unpadded cs

/-- A variable is set to an unsigned decimal, but for blanks around it. -/
def Holds (env : Environment) (key : String) (n : Nat) : Prop :=
  ∃ cs, env.Shows key cs ∧ Decimal.Spells cs n

/-- Why a variable holds no number below a limit. -/
inductive LacksNumber (env : Environment) (limit : Nat) (key : String) : Prop
  | unset (h : env.value? key = none)
  | flawed {cs : List Char} (h : env.Shows key cs) (hflawed : Decimal.Flawed limit cs)

/-- The number below a limit that a variable stands for: the one it holds, or else the default. -/
inductive Yields (env : Environment) (limit : Nat) (key : String) (default : Nat) : Nat → Prop
  | held {n : Nat} (h : env.Holds key n) (hlimit : n < limit) : Yields env limit key default n
  | missing (h : env.LacksNumber limit key) : Yields env limit key default default

variable {env : Environment} {limit n default : Nat} {key value : String} {cs : List Char}

theorem shows_iff :
    env.Shows key cs ↔ ∃ value, env.value? key = some value ∧ Text.trimChars value.toList = cs :=
  exists_congr fun _ ↦ and_congr_right fun _ ↦ Text.trimChars_eq_iff.symm

theorem shows_iff_of_set (h : env.value? key = some value) :
    env.Shows key cs ↔ Text.trimChars value.toList = cs := by
  simp only [shows_iff, h, Option.some.injEq, exists_eq_left']

theorem holds_iff_of_set (h : env.value? key = some value) :
    env.Holds key n ↔ Decimal.Spells (Text.trimChars value.toList) n := by
  simp only [Holds, shows_iff_of_set h, exists_eq_left']

theorem not_holds_of_unset (h : env.value? key = none) : ¬ env.Holds key n := by
  rintro ⟨cs, ⟨value, hset, -⟩, -⟩
  rw [h] at hset
  cases hset

theorem lacksNumber_iff : env.LacksNumber limit key ↔ ∀ n < limit, ¬ env.Holds key n := by
  cases hvalue : env.value? key with
  | none => exact iff_of_true (.unset hvalue) fun _ _ ↦ not_holds_of_unset hvalue
  | some value =>
    simp only [holds_iff_of_set hvalue, ← Decimal.flawed_iff]
    constructor
    · rintro (hunset | ⟨hshows, hflawed⟩)
      · rw [hvalue] at hunset
        cases hunset
      · rwa [(shows_iff_of_set hvalue).1 hshows]
    · exact .flawed ((shows_iff_of_set hvalue).2 rfl)

/-- An empty value is no number, so it makes no difference that it counts as unset. -/
theorem bind_read?_eq_some_iff :
    ((env.nonEmpty? key).bind fun value ↦ Decimal.read? limit (Text.trim value)) = some n ↔
      env.Holds key n ∧ n < limit := by
  have hread {value : String} :
      Decimal.read? limit (Text.trim value) = some n ↔
        Decimal.Spells (Text.trimChars value.toList) n ∧ n < limit := by
    rw [Decimal.read?_eq_some_iff, Text.toList_trim]
  simp only [Option.bind_eq_some_iff, nonEmpty?_eq_some_iff, hread]
  constructor
  · rintro ⟨value, ⟨hset, -⟩, hspells, hlimit⟩
    exact ⟨(holds_iff_of_set hset).2 hspells, hlimit⟩
  · rintro ⟨hholds, hlimit⟩
    have ⟨_, ⟨value, hset, _⟩, _⟩ := hholds
    have hspells := (holds_iff_of_set hset).1 hholds
    refine ⟨value, ⟨hset, ?_⟩, hspells, hlimit⟩
    rintro rfl
    exact Decimal.flawed_iff.1 .empty n hlimit hspells

theorem natBelow_of_holds (h : env.Holds key n) (hlimit : n < limit) :
    env.natBelow limit key default = n := by
  rw [natBelow, bind_read?_eq_some_iff.2 ⟨h, hlimit⟩, Option.getD_some]

theorem natBelow_of_lacksNumber (h : env.LacksNumber limit key) :
    env.natBelow limit key default = default := by
  have hnone := Option.eq_none_iff_forall_ne_some.2 fun n hn ↦
    have ⟨hholds, hlimit⟩ := bind_read?_eq_some_iff.1 hn
    lacksNumber_iff.1 h n hlimit hholds
  rw [natBelow, hnone, Option.getD_none]

theorem natBelow_eq_iff : env.natBelow limit key default = n ↔ env.Yields limit key default n := by
  constructor
  · rintro rfl
    by_cases h : ∃ n < limit, env.Holds key n
    · obtain ⟨n, hlimit, hholds⟩ := h
      rw [natBelow_of_holds hholds hlimit]
      exact .held hholds hlimit
    · have hlacks : env.LacksNumber limit key :=
        lacksNumber_iff.2 fun n hlimit hholds ↦ h ⟨n, hlimit, hholds⟩
      rw [natBelow_of_lacksNumber hlacks]
      exact .missing hlacks
  · rintro (⟨hholds, hlimit⟩ | hlacks)
    · exact natBelow_of_holds hholds hlimit
    · exact natBelow_of_lacksNumber hlacks

theorem yields_natBelow (env : Environment) (limit : Nat) (key : String) (default : Nat) :
    env.Yields limit key default (env.natBelow limit key default) :=
  natBelow_eq_iff.1 rfl

theorem Yields.lt (h : env.Yields limit key default n) (hdefault : default < limit) :
    n < limit := by
  cases h with
  | held _ hlimit => exact hlimit
  | missing _ => exact hdefault

/-- A number that is written out is the number that is held. -/
theorem holds_of_write (h : env.value? key = some (Decimal.write n)) : env.Holds key n := by
  have hspells := Decimal.spells_write n
  rw [holds_iff_of_set h, Text.trimChars_of_forall fun _ ↦ hspells.not_isBlank]
  exact hspells

end Environment

/-! ### Settings with numbers -/

theorem Duration.nanos_ofSeconds {seconds : Nat} (h : seconds < UInt64.size) :
    (ofSeconds seconds).nanos = seconds * nanosPerSecond := by
  refine Nat.min_eq_left ?_
  unfold UInt64.size at h
  unfold maxNanos nanosPerSecond UInt64.size
  omega

theorem ListenSettings.ports_of_ofEnvironment {env : Environment} {settings : ListenSettings}
    (h : ofEnvironment env = .ok settings) :
    settings.proxyPort =
        .ofNat (env.natBelow UInt16.size "PROXY_PORT" Listener.defaultProxyPort.toNat) ∧
      settings.managementPort =
        .ofNat (env.natBelow UInt16.size "API_PORT" Listener.defaultManagementPort.toNat) := by
  unfold ofEnvironment at h
  simp only [bind_eq_ok_iff] at h
  obtain ⟨_, _, _, _, h⟩ := h
  cases h
  exact ⟨rfl, rfl⟩

namespace Environment

/-- A port is what its variable stands for, as it fits into its word. -/
theorem yields_port (env : Environment) (key : String) (port : UInt16) :
    env.Yields (2 ^ 16) key port.toNat
      (UInt16.ofNat (env.natBelow UInt16.size key port.toNat)).toNat := by
  have hyields := env.yields_natBelow UInt16.size key port.toNat
  rw [UInt16.toNat_ofNat_of_lt' (hyields.lt port.toNat_lt)]
  exact hyields

/-- Whether a delay is as many seconds as a variable stands for. -/
def YieldsSeconds (env : Environment) (key : String) (default : Nat) (delay : Duration) : Prop :=
  ∃ seconds, env.Yields (2 ^ 64) key default seconds ∧ delay.nanos = seconds * nanosPerSecond

theorem yieldsSeconds_ofSeconds (env : Environment) (key : String) {default : Nat}
    (hdefault : default < UInt64.size) :
    env.YieldsSeconds key default (.ofSeconds (env.natBelow UInt64.size key default)) := by
  have hyields := env.yields_natBelow UInt64.size key default
  exact ⟨_, hyields, Duration.nanos_ofSeconds (hyields.lt hdefault)⟩

end Environment

namespace Settings

/-- The ports, the attempts and the delays are what their variables stand for. -/
structure Numbered (env : Environment) (settings : Settings) : Prop where
  proxyPort : env.Yields (2 ^ 16) "PROXY_PORT" Listener.defaultProxyPort.toNat
    settings.listen.proxyPort.toNat
  managementPort : env.Yields (2 ^ 16) "API_PORT" Listener.defaultManagementPort.toNat
    settings.listen.managementPort.toNat
  maxAttempts : env.Yields (2 ^ 32) "WIREGUARD_RETRY_MAX_ATTEMPTS" 20
    settings.interface.backoff.maxAttempts
  baseDelay : env.YieldsSeconds "WIREGUARD_RETRY_BASE_DELAY_SECONDS" 3
    settings.interface.backoff.baseDelay
  maxDelay : env.YieldsSeconds "WIREGUARD_RETRY_MAX_DELAY_SECONDS" 30
    settings.interface.backoff.maxDelay

variable {env : Environment} {settings : Settings}

theorem listen_of_ofEnvironment (h : (ofEnvironment env).1 = .ok settings) :
    ListenSettings.ofEnvironment env = .ok settings.listen := by
  obtain ⟨listen, hlisten, rfl⟩ := map_eq_ok_iff.1 h
  exact hlisten

theorem numbered_of_ofEnvironment (h : (ofEnvironment env).1 = .ok settings) :
    settings.Numbered env := by
  obtain ⟨hproxy, hmanagement⟩ := ListenSettings.ports_of_ofEnvironment (listen_of_ofEnvironment h)
  obtain ⟨-, -, hinterface⟩ := parts_of_ofEnvironment h
  refine ⟨?proxyPort, ?managementPort, ?maxAttempts, ?baseDelay, ?maxDelay⟩
  case proxyPort => exact hproxy ▸ env.yields_port _ _
  case managementPort => exact hmanagement ▸ env.yields_port _ _
  all_goals rw [hinterface]
  case maxAttempts => exact env.yields_natBelow _ _ _
  case baseDelay => exact env.yieldsSeconds_ofSeconds _ (by decide)
  case maxDelay => exact env.yieldsSeconds_ofSeconds _ (by decide)

/-- Asked for a number of a given width, an environment gives the one that the variable holds, which
is then set to a plus sign or none and ASCII digits, with blanks or none around them, or else the
default. It is the default exactly if the variable is unset or what it is set to, blanks around it
dropped, is empty, a plus sign alone, too large or has a character that is no digit. A number that
is written out is read back. The ports, the attempts and the delays are what their variables stand
for in this sense. -/
theorem numbers_or_defaults (env : Environment) :
    (∀ width key default n,
      env.natBelow (2 ^ width) key default = n ↔ env.Yields (2 ^ width) key default n) ∧
    (∀ width key,
      env.LacksNumber (2 ^ width) key ↔ ∀ n < 2 ^ width, ¬ env.Holds key n) ∧
    (∀ width key default n, n < 2 ^ width → env.value? key = some (Decimal.write n) →
      env.natBelow (2 ^ width) key default = n) ∧
    ∀ settings, (ofEnvironment env).1 = .ok settings → settings.Numbered env :=
  ⟨fun _ _ _ _ ↦ Environment.natBelow_eq_iff, fun _ _ ↦ Environment.lacksNumber_iff,
    fun _ _ _ _ hlimit hwritten ↦
      Environment.natBelow_of_holds (Environment.holds_of_write hwritten) hlimit,
    fun _ ↦ numbered_of_ofEnvironment⟩

/-- The largest port behind zeros and between blanks that are not of ASCII, a port that is one too
large, the largest number of attempts as it is written out, and a delay below zero. -/
theorem numbers_or_defaults_sample :
    let env := Environment.ofList [("PROXY_PORT", "\u00A0+0065535\u3000"), ("API_PORT", "65536"),
      ("WIREGUARD_RETRY_MAX_ATTEMPTS", "4294967295"), ("WIREGUARD_RETRY_BASE_DELAY_SECONDS", "-5")]
    let attempts := "WIREGUARD_RETRY_MAX_ATTEMPTS"
    env.natBelow (2 ^ 16) "PROXY_PORT" 8085 = 65535 ∧
      env.natBelow (2 ^ 16) "API_PORT" 8086 = 8086 ∧
      (4294967295 < 2 ^ 32 ∧ env.value? attempts = some (Decimal.write 4294967295) ∧
        env.natBelow (2 ^ 32) attempts 20 = 4294967295) ∧
      env.natBelow (2 ^ 64) "WIREGUARD_RETRY_BASE_DELAY_SECONDS" 3 = 3 ∧
      ∃ settings, (ofEnvironment env).1 = .ok settings ∧ settings.Numbered env ∧
        settings.listen.proxyPort = 65535 := by
  intro env attempts
  obtain ⟨hreads, -, hwritten, hsettings⟩ := numbers_or_defaults env
  have hport : env.natBelow (2 ^ 16) "PROXY_PORT" 8085 = 65535 := by
    have hspells : Decimal.Spells "+0065535".toList 65535 :=
      .parts .plus (by decide : "0065535".toList ≠ []) (List.all_eq_true.1 (by decide))
    refine (hreads 16 _ _ _).2 (.held ⟨_, ?_, hspells⟩ (by decide))
    exact (Environment.shows_iff_of_set rfl).2 (by decide)
  have htooLarge : env.natBelow (2 ^ 16) "API_PORT" 8086 = 8086 := by
    have hspells : Decimal.Spells "65536".toList 65536 :=
      .parts .none (by decide : "65536".toList ≠ []) (List.all_eq_true.1 (by decide))
    refine (hreads 16 _ _ _).2 (.missing (.flawed ?_ (.tooLarge hspells (by decide))))
    exact (Environment.shows_iff_of_set rfl).2 (by decide)
  have hnegative : env.natBelow (2 ^ 64) "WIREGUARD_RETRY_BASE_DELAY_SECONDS" 3 = 3 := by
    have hflawed : Decimal.Flawed (2 ^ 64) ([] ++ '-' :: ['5']) := .foreign rfl (by decide)
    refine (hreads 64 _ _ _).2 (.missing (.flawed ?_ hflawed))
    exact (Environment.shows_iff_of_set rfl).2 (by decide)
  have hlimit : 4294967295 < 2 ^ 32 := by decide
  have hset : env.value? attempts = some (Decimal.write 4294967295) := by decide
  obtain ⟨settings, hread⟩ : ∃ settings, (ofEnvironment env).1 = .ok settings := ⟨_, rfl⟩
  have hnumbered := hsettings settings hread
  refine ⟨hport, htooLarge, ⟨hlimit, hset, hwritten 32 attempts 20 _ hlimit hset⟩, hnegative,
    settings, hread, hnumbered, ?_⟩
  exact UInt16.toNat_inj.1 (((hreads 16 _ _ _).2 hnumbered.proxyPort).symm.trans hport)

end Settings

end OverlayGateway
