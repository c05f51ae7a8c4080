import Mathlib.Data.List.Induction
import OverlayGateway.Proofs.Ip.Canonical
import OverlayGateway.Proofs.MappingTable.Validity
/-!
Whom a peer is presented as. The last change under the text of its canonical address decides, and
where there is none, or that change took the mapping away, the policy does. No other change makes a
difference to the peer: different canonical addresses have different texts, and a key that is the
text of none of them applies to nobody.
-/

set_option autoImplicit false
set_option relaxedAutoImplicit false

namespace OverlayGateway

/-! ### The last change of a key -/

namespace MappingTable

/-- The last of some changes that is about a key. -/
def lastWrite? (writes : List Write) (key : String) : Option Write :=
  writes.reverse.find? fun write ↦ write.key = key

/-- The identity that changes leave for a key, given the one of keys without a mapping. -/
def identityAfter (fallback : Identity) (writes : List Write) (key : String) : Identity :=
  ((lastWrite? writes key).bind Write.identity).getD fallback

theorem lastWrite?_concat (writes : List Write) (write : Write) (key : String) :
    lastWrite? (writes ++ [write]) key =
      if write.key = key then some write else lastWrite? writes key := by
  rw [lastWrite?, List.reverse_append, List.reverse_singleton, List.singleton_append,
    List.find?_cons, ← lastWrite?]
  by_cases h : write.key = key <;> simp [h]

theorem get?_perform (table : MappingTable) (write : Write) (key : String) :
    (table.perform write).get? key =
      if write.key = key then write.identity else table.get? key := by
  obtain ⟨name, identity⟩ := write
  cases identity with
  | none => exact get?_remove table name key
  | some identity => exact get?_set table name key identity

theorem performAll_concat (table : MappingTable) (writes : List Write) (write : Write) :
    table.performAll (writes ++ [write]) = (table.performAll writes).perform write :=
  performAll_append table writes [write]

/-- The last change of a key decides, and where there is none the table does. -/
theorem get?_performAll (table : MappingTable) (writes : List Write) (key : String) :
    (table.performAll writes).get? key =
      (lastWrite? writes key).elim (table.get? key) Write.identity := by
  induction writes using List.reverseRecOn with
  | nil => rfl
  | append_singleton writes write ih =>
    rw [performAll_concat, get?_perform, lastWrite?_concat, ih]
    split <;> rfl

/-- What is found under a key depends on the changes of that key alone. -/
theorem lastWrite?_filter (writes : List Write) (key : String) :
    lastWrite? (writes.filter fun write ↦ write.key = key) key = lastWrite? writes key := by
  rw [lastWrite?, lastWrite?, ← List.filter_reverse, List.find?_filter]
  simp

theorem get?_performAll_congr {first second : List Write} {key : String}
    (h : (first.filter fun write ↦ write.key = key) = second.filter fun write ↦ write.key = key)
    (table : MappingTable) :
    (table.performAll first).get? key = (table.performAll second).get? key := by
  rw [get?_performAll, get?_performAll, ← lastWrite?_filter, h, lastWrite?_filter]

/-- A change of another key can be left out. -/
theorem get?_performAll_of_ne {write : Write} {key : String} (h : write.key ≠ key)
    (front back : List Write) :
    (empty.performAll (front ++ write :: back)).get? key =
      (empty.performAll (front ++ back)).get? key :=
  get?_performAll_congr (by simp [h]) empty

end MappingTable

/-! ### Callers and the tables they are looked up in -/

theorem Impersonation.apply_congr (policy : Policy) {first second : MappingTable}
    {address : Ip.Address} (h : first.get? address.text = second.get? address.text)
    (headers : Http.Headers) :
    apply policy first address headers = apply policy second address headers := by
  unfold apply resolve
  rw [h]

theorem Impersonation.identity_resolve (policy : Policy) (writes : List Write) (key : String) :
    (resolve policy (MappingTable.empty.performAll writes) key).identity =
      MappingTable.identityAfter policy.fallback writes key := by
  rw [resolve, MappingTable.get?_performAll, MappingTable.identityAfter]
  cases MappingTable.lastWrite? writes key with
  | none => rfl
  | some write => cases hidentity : write.identity <;> simp [hidentity]

namespace Gateway

/-- The gateway that presents every caller without a mapping as a given identity. -/
def presenting (gateway : Gateway) (identity : Identity) : Gateway :=
  { gateway with policy := { gateway.policy with fallback := identity } }

/-- Whether two tables are the same to a peer, in whatever it does and whatever the outside
answers. -/
def SameTo (peer : Ip.Socket) (first second : MappingTable) : Prop :=
  ∀ (gateway : Gateway) (token : String → Except Failure String) (reply : Call → Reply)
    (connection : Option String) (request : Http.Request),
    gateway.exchange token reply connection first peer request =
      gateway.exchange token reply connection second peer request

/-- All that the policy and the table are asked for is how to present the caller. -/
theorem exchange_congr (gateway : Gateway) {policy : Policy} {first second : MappingTable}
    {peer : Ip.Socket}
    (h : ∀ headers, Impersonation.apply gateway.policy first peer.address.canonical headers =
      Impersonation.apply policy second peer.address.canonical headers)
    (token : String → Except Failure String) (reply : Call → Reply) (connection : Option String)
    (request : Http.Request) :
    gateway.exchange token reply connection first peer request =
      { gateway with policy }.exchange token reply connection second peer request := by
  unfold exchange serve plan authenticate
  simp only [h]
  rfl

theorem sameTo_of_get?_eq {peer : Ip.Socket} {first second : MappingTable}
    (h : first.get? peer.address.canonical.text = second.get? peer.address.canonical.text) :
    SameTo peer first second := by
  intro gateway
  exact gateway.exchange_congr (Impersonation.apply_congr gateway.policy h)

theorem exchange_presenting (gateway : Gateway) (writes : List Write) (peer : Ip.Socket)
    (token : String → Except Failure String) (reply : Call → Reply) (connection : Option String)
    (request : Http.Request) :
    gateway.exchange token reply connection (MappingTable.empty.performAll writes) peer request =
      (gateway.presenting (MappingTable.identityAfter gateway.policy.fallback writes
        peer.address.canonical.text)).exchange token reply connection .empty peer request := by
  refine gateway.exchange_congr (fun headers ↦ ?_) token reply connection request
  unfold Impersonation.apply
  dsimp only
  cases gateway.policy.mode with
  | auth => rw [Impersonation.identity_resolve]; rfl
  | noAuth => rfl
  | unrecognized name => rfl

/-- A peer is presented as the last change under the text of its canonical address says, or else as
the policy says, and to the peer nothing else about the table counts. That text is its own: no
other address has it, except that a version 4 address and the version 6 address that maps it are
the same canonical one. A key that is no such text changes nothing for any peer: one with another
character than lower-case digits, dots and colons, one with a leading zero, one that shows a mapped
address, and of the spellings of an address all but one. -/
theorem identity_isolated :
    (∀ (settings : SyncSettings) (events : List MappingTable.Event),
      MappingTable.history settings events =
        MappingTable.empty.performAll (events.flatMap (MappingTable.Event.writes settings))) ∧
    (∀ (gateway : Gateway) (writes : List Write) (peer : Ip.Socket),
      let caller := peer.address.canonical
      let table := MappingTable.empty.performAll writes
      let identity := MappingTable.identityAfter gateway.policy.fallback writes caller.text
      (gateway.policy.mode = .auth → ∀ headers,
        Impersonation.apply gateway.policy table caller headers =
          Impersonation.present identity caller.text (Impersonation.strip headers)) ∧
      ∀ token reply connection request,
        gateway.exchange token reply connection table peer request =
          (gateway.presenting identity).exchange token reply connection .empty peer request) ∧
    (∀ (peer : Ip.Socket) (front : List Write) (write : Write) (back : List Write),
      write.key ≠ peer.address.canonical.text ∨ ¬ Ip.IsCanonicalText write.key →
        SameTo peer (MappingTable.empty.performAll (front ++ write :: back))
          (MappingTable.empty.performAll (front ++ back))) ∧
    (∀ first second : Ip.Address, first.text = second.text → first = second) ∧
    (∀ (address : Ip.V4) (port : UInt16) (gateway : Gateway) table token reply connection request,
      gateway.exchange token reply connection table ⟨.v6 address.mapped, port⟩ request =
        gateway.exchange token reply connection table ⟨.v4 address, port⟩ request) ∧
    ∀ key : String,
      (Ip.IsCanonicalText key ↔
        ∃ address, Ip.Address.parse? key = some address ∧ address.canonical.text = key) ∧
      ((∃ c ∈ key.toList, Ip.isAddressChar c = false) ∨
        Ip.hasLeadingZero true key.toList = true ∨
        (∃ address : Ip.V4, key = "::ffff:" ++ address.text) ∨
        (∃ address, Ip.Address.parse? key = some address ∧ key ≠ address.canonical.text) →
          ¬ Ip.IsCanonicalText key) := by
  refine ⟨MappingTable.history_eq, ?presented, ?isolated, fun _ _ h ↦ Ip.Address.text_injective h,
    ?mapped, fun key ↦ ⟨Ip.isCanonicalText_iff, ?foreign⟩⟩
  case presented =>
    intro gateway writes peer caller table identity
    refine ⟨fun hmode headers ↦ ?_, gateway.exchange_presenting writes peer⟩
    rw [Impersonation.apply, hmode, Impersonation.identity_resolve]
  case isolated =>
    intro peer front write back hkey
    have hne : write.key ≠ peer.address.canonical.text :=
      hkey.elim id fun hforeign h ↦ hforeign ⟨peer.address, h.symm⟩
    exact sameTo_of_get?_eq (MappingTable.get?_performAll_of_ne hne front back)
  case mapped =>
    intro address port gateway table token reply connection request
    unfold exchange serve
    rw [Ip.Address.canonical_mapped]
    rfl
  case foreign =>
    rintro (⟨c, hc, hchar⟩ | hzero | ⟨address, rfl⟩ | ⟨address, hparse, hne⟩) hcanonical
    · rw [hcanonical.isAddressChar hc] at hchar
      cases hchar
    · rw [hcanonical.not_hasLeadingZero] at hzero
      cases hzero
    · exact Ip.not_isCanonicalText_mapped address hcanonical
    · exact hne (hcanonical.eq_text hparse)

/-- A mapping of a peer, and one that only looks like it. The peer is presented to the API server as
the first says. -/
theorem identity_isolated_sample :
    let mapping : Write := ⟨"10.0.0.1", some ⟨"alice", ["ops", "dev"]⟩⟩
    let lookalike : Write := ⟨"::ffff:10.0.0.1", some ⟨"mallory", []⟩⟩
    let table := MappingTable.empty.performAll [mapping, lookalike]
    sample.policy.mode = .auth ∧
      (∀ headers,
        Impersonation.apply sample.policy table samplePeer.address.canonical headers =
          Impersonation.present ⟨"alice", ["ops", "dev"]⟩ "10.0.0.1"
            (Impersonation.strip headers)) ∧
      ¬ Ip.IsCanonicalText lookalike.key ∧
      SameTo samplePeer table (MappingTable.empty.performAll [mapping]) ∧
      ∃ call, (sample.exchange (fun _ ↦ .ok "") (fun _ ↦ .switched {}) none table samplePeer
          { method := "GET", path := "/api" }).calls = [call] ∧
        call.headers.Carries Impersonation.userHeader ["alice"] ∧
        call.headers.Carries Impersonation.groupHeader ["ops,dev"] := by
  intro mapping lookalike table
  obtain ⟨_, hpresented, hisolated, _, _, hkeys⟩ := identity_isolated
  have htext : samplePeer.address.canonical.text = "10.0.0.1" := by decide
  have hidentity : MappingTable.identityAfter sample.policy.fallback [mapping, lookalike]
      "10.0.0.1" = ⟨"alice", ["ops", "dev"]⟩ := by decide
  have hforeign : ¬ Ip.IsCanonicalText lookalike.key :=
    (hkeys lookalike.key).2 (Or.inr (Or.inr (Or.inl ⟨⟨10, 0, 0, 1⟩, by decide⟩)))
  obtain ⟨hpeer, hexchange⟩ := hpresented sample [mapping, lookalike] samplePeer
  rw [htext, hidentity] at hpeer hexchange
  refine ⟨rfl, hpeer rfl, hforeign, hisolated samplePeer [mapping] lookalike [] (Or.inr hforeign),
    ?_⟩
  rw [hexchange]
  exact ⟨_, rfl, rfl, rfl⟩

end Gateway

end OverlayGateway
