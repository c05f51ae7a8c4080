import OverlayGateway.Proofs.Gateway.Exchange
import OverlayGateway.Proofs.Http.Sendable
import OverlayGateway.Proofs.Ip.Canonical
import OverlayGateway.Proofs.Text.Split
/-!
The address of a caller at the end of `X-Forwarded-For`. Whatever could be read in the values that a
request comes with can be sent again, and so can every address, so the one value that they make is
always set. Authentication does not touch the header, and the address is put there after all that a
`Connection` value names is gone: the last element of the value is the gateway's own in every call.
-/

set_option autoImplicit false
set_option relaxedAutoImplicit false

namespace OverlayGateway

open Http

/-! ### The last element of a list -/

/-- The last of the elements of a text between its commas, without the blanks around it. -/
def lastElement? (text : String) : Option String := (Text.split ',' text).getLast?.map Text.trim

theorem Ip.Address.not_isBlank_of_mem_text {address : Ip.Address} {c : Char}
    (h : c ∈ address.text.toList) : Text.isBlank c = false := by
  have hchars : ("0123456789abcdef.:".toList.all fun c ↦ !Text.isBlank c) = true := by decide
  have hmem := List.contains_iff_mem.1 (isAddressChar_of_mem_text h)
  simpa using List.all_eq_true.1 hchars c hmem

theorem Ip.Address.comma_notMem_text (address : Ip.Address) : ',' ∉ address.text.toList :=
  fun h ↦ absurd (isAddressChar_of_mem_text h) (by decide)

/-- An address is the last element of a list that it ends. -/
theorem lastElement?_intercalate (front : List String) (address : Ip.Address) :
    lastElement? (", ".intercalate (front ++ [address.text])) = some address.text := by
  have htrim : Text.trimChars address.text.toList = address.text.toList :=
    Text.trimChars_of_forall fun _ hc ↦ Ip.Address.not_isBlank_of_mem_text hc
  by_cases hfront : front = []
  · rw [hfront, List.nil_append, String.intercalate_singleton, lastElement?,
      Text.split_of_notMem address.comma_notMem_text]
    simp [Text.trim, htrim]
  · -- the blank behind the last comma belongs to the last piece
    have hlast : Text.pieces ',' (' ' :: address.text.toList) = [' ' :: address.text.toList] := by
      refine Text.piecesWhere_of_forall fun c hc ↦ beq_eq_false_iff_ne.2 ?_
      rintro rfl
      exact address.comma_notMem_text (List.mem_of_ne_of_mem (by decide) hc)
    have hpieces : Text.pieces ',' (", ".intercalate (front ++ [address.text])).toList =
        Text.pieces ',' (", ".intercalate front).toList ++ [' ' :: address.text.toList] := by
      rw [String.intercalate_append_of_ne_nil hfront (List.cons_ne_nil _ _),
        String.intercalate_singleton, String.toList_append, String.toList_append,
        List.append_assoc, ← hlast]
      exact @Text.piecesWhere_append_sep (· == ',') _ ',' (beq_self_eq_true ',') _
    have hblank : Text.trimChars (' ' :: address.text.toList) = address.text.toList := htrim
    rw [lastElement?, Text.split, hpieces, List.map_append, List.map_singleton,
      List.getLast?_concat]
    simp [Text.trim, hblank]

/-! ### The value -/

namespace Forwarding

/-- The addresses that headers come with: the readable `X-Forwarded-For` values in order. -/
def forwardedFor (headers : Headers) : List String :=
  (headers.values .xForwardedFor).filterMap HeaderValue.readable?

/-- Every readable value and every address can be sent, and so can what they are joined to. -/
theorem sendable_forwardedFor (headers : Headers) (address : Ip.Address) :
    Sendable (", ".intercalate (forwardedFor headers ++ [address.text])) := by
  refine .intercalate (sendable_of_visible (by decide)) fun part hpart ↦ ?_
  rcases List.mem_append.1 hpart with hprior | haddress
  · obtain ⟨value, _, hvalue⟩ := List.mem_filterMap.1 hprior
    exact sendable_of_readable? hvalue
  · rw [List.mem_singleton.1 haddress]
    exact sendable_of_visible address.visible_text

theorem exists_appendForwardedFor_eq (headers : Headers) (address : Ip.Address) :
    ∃ value, HeaderValue.ofString? (", ".intercalate (forwardedFor headers ++ [address.text])) =
        some value ∧
      appendForwardedFor headers address.text = headers.insert .xForwardedFor value := by
  obtain ⟨value, hvalue⟩ := sendable_forwardedFor headers address
  refine ⟨value, hvalue, ?_⟩
  rw [forwardedFor] at hvalue
  simp only [appendForwardedFor, hvalue]

theorem carries_appendForwardedFor (headers : Headers) (address : Ip.Address) :
    (appendForwardedFor headers address.text).Carries .xForwardedFor
      [", ".intercalate (forwardedFor headers ++ [address.text])] := by
  obtain ⟨value, hvalue, happend⟩ := exists_appendForwardedFor_eq headers address
  rw [happend]
  exact Headers.carries_insert headers _ (HeaderValue.bytes_of_ofString? hvalue)

/-- The addresses that are passed on: none if a `Connection` value names their header. -/
def passedOn (headers : Headers) : List String :=
  if HeaderName.xForwardedFor ∈ connectionNames headers then [] else forwardedFor headers

theorem carries_requestHeaders (headers : Headers) (peer : Ip.Address) :
    (requestHeaders headers peer.text).Carries .xForwardedFor
      [", ".intercalate (passedOn headers ++ [peer.text])] := by
  have hpassed : forwardedFor (((stripHopByHop headers).erase .host).erase .contentLength) =
      passedOn headers := by
    have hlength : HeaderName.xForwardedFor ≠ .contentLength := by decide
    have hhost : HeaderName.xForwardedFor ≠ .host := by decide
    have hhop : HeaderName.xForwardedFor ∉ hopByHop := by decide
    rw [forwardedFor, Headers.values_erase_of_ne _ hlength, Headers.values_erase_of_ne _ hhost,
      values_stripHopByHop, passedOn]
    simp only [hhop, or_false]
    split
    · rfl
    · rfl
  rw [← hpassed]
  exact carries_appendForwardedFor _ peer

end Forwarding

/-! ### Calls -/

namespace Gateway

theorem carries_callHeaders_xForwardedFor (caller : Ip.Address) (headers : Headers) :
    (callHeaders caller headers).Carries .xForwardedFor
      [", ".intercalate (Forwarding.passedOn headers ++ [caller.text])] := by
  have hrequest := Forwarding.carries_requestHeaders headers caller
  unfold callHeaders
  split
  · exact hrequest.of_values_eq
      (Forwarding.values_upgradeHeaders_of_ne headers caller.text (by decide) (by decide))
  · exact hrequest

/-- Authentication keeps what a caller says about the addresses before it. -/
theorem passedOn_authenticated {gateway : Gateway} {token : String → Except Failure String}
    {table : MappingTable} {caller : Ip.Address} {before after : Headers}
    (h : gateway.authenticated token table caller before = .ok after) :
    Forwarding.passedOn after = Forwarding.passedOn before := by
  rw [Forwarding.passedOn, Forwarding.passedOn, connectionNames_authenticated h,
    Forwarding.forwardedFor, Forwarding.forwardedFor,
    values_authenticated h (by decide) (by decide) (by decide)]

/-- Putting an address behind the readable `X-Forwarded-For` values always makes them one value,
which can be sent, and changes no other header. In every call that a request becomes, in any mode
and for an answer or an upgrade, the header is the readable values of the request joined with the
canonical address of the peer, or that address alone if a `Connection` value names the header; the
last element of the one value is that address. -/
theorem caller_recorded_last :
    (∀ (headers : Headers) (address : Ip.Address),
      let text := ", ".intercalate (Forwarding.forwardedFor headers ++ [address.text])
      (∃ value, HeaderValue.ofString? text = some value ∧
        (Forwarding.appendForwardedFor headers address.text).values .xForwardedFor = [value]) ∧
      (Forwarding.appendForwardedFor headers address.text).Carries .xForwardedFor [text] ∧
      ∀ name ≠ .xForwardedFor,
        (Forwarding.appendForwardedFor headers address.text).values name = headers.values name) ∧
    ∀ (gateway : Gateway) (token : String → Except Failure String) (reply : Call → Reply)
      (connection : Option String) (table : MappingTable) (peer : Ip.Socket) (request : Request),
      ∀ call ∈ (gateway.exchange token reply connection table peer request).calls,
        let caller := peer.address.canonical.text
        let text := ", ".intercalate (Forwarding.passedOn request.headers ++ [caller])
        call.headers.Carries .xForwardedFor [text] ∧ lastElement? text = some caller := by
  refine ⟨fun headers address ↦ ⟨?_, Forwarding.carries_appendForwardedFor headers address,
    fun name hname ↦ Forwarding.values_appendForwardedFor_of_ne headers _ hname⟩, ?_⟩
  · obtain ⟨value, hvalue, happend⟩ := Forwarding.exists_appendForwardedFor_eq headers address
    exact ⟨value, hvalue, by rw [happend, Headers.values_insert_self]⟩
  · intro gateway token reply connection table peer request call hcall caller text
    obtain ⟨headers, hheaders, hsent⟩ := (became_of_mem_calls hcall).headers
    refine ⟨?_, lastElement?_intercalate _ _⟩
    rw [hsent]
    simp only [text, caller, ← passedOn_authenticated hheaders]
    exact carries_callHeaders_xForwardedFor peer.address.canonical headers

/-- Of three values the one with a byte beyond ASCII is left out, and the address of the peer comes
behind the others. A caller that asks for an upgrade and names the header loses its value, and the
address of the peer is recorded nevertheless. -/
theorem caller_recorded_last_sample :
    let two : HeaderValue := ⟨Text.utf8 "1.2.3.4, 5.6.7.8", by decide, false⟩
    let foreign : HeaderValue := ⟨Text.utf8 "é", by decide, false⟩
    let one : HeaderValue := ⟨Text.utf8 "9.9.9.9", by decide, false⟩
    let plain : Headers :=
      ⟨[(.xForwardedFor, two), (.xForwardedFor, foreign), (.xForwardedFor, one)]⟩
    let named : Headers := ⟨[(.connection, ⟨Text.utf8 "upgrade, X-Forwarded-For", by decide, false⟩),
      (.upgrade, ⟨Text.utf8 "spdy/3.1", by decide, false⟩), (.xForwardedFor, one)]⟩
    (∃ call ∈ sampleCalls { method := "GET", path := "/api", headers := plain },
      call.headers.Carries .xForwardedFor ["1.2.3.4, 5.6.7.8, 9.9.9.9, 10.0.0.1"] ∧
        lastElement? "1.2.3.4, 5.6.7.8, 9.9.9.9, 10.0.0.1" = some "10.0.0.1") ∧
    ∃ call ∈ sampleCalls { method := "GET", path := "/api", headers := named },
      call.via = .upgrade ∧ call.headers.Carries .xForwardedFor ["10.0.0.1"] := by
  intro two foreign one plain named
  have hcaller : samplePeer.address.canonical.text = "10.0.0.1" := by decide
  have hrecorded := caller_recorded_last.2 sample (fun _ ↦ .ok "") (fun _ ↦ .switched {}) none
    .empty samplePeer
  constructor
  · refine (List.exists_mem_of_length_pos (by decide)).imp fun call hcall ↦ ⟨hcall, ?_⟩
    have htext : ", ".intercalate
        (Forwarding.passedOn plain ++ [samplePeer.address.canonical.text]) =
          "1.2.3.4, 5.6.7.8, 9.9.9.9, 10.0.0.1" := by
      decide +kernel
    rw [← htext, ← hcaller]
    exact hrecorded { method := "GET", path := "/api", headers := plain } call hcall
  · refine (List.exists_mem_of_length_pos (by decide +kernel)).imp fun call hcall ↦ ⟨hcall, ?_, ?_⟩
    · exact (became_of_mem_calls hcall).via_iff.1 (by decide +kernel)
    · have htext : ", ".intercalate
          (Forwarding.passedOn named ++ [samplePeer.address.canonical.text]) = "10.0.0.1" := by
        decide +kernel
      rw [← htext]
      exact (hrecorded { method := "GET", path := "/api", headers := named } call hcall).1

end Gateway

end OverlayGateway
