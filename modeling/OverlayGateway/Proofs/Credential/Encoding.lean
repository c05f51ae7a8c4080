import OverlayGateway.Proofs.Base64.Canonical
import OverlayGateway.Proofs.Credential
import OverlayGateway.Proofs.Kubeconfig.Credential
import OverlayGateway.Proofs.Text.Utf8
/-!
Credentials through base64, which is read for the certificate and the key of a kubeconfig user and
written for a name with a password. Data that is not empty is read only if it is how some bytes are
written, blanks around it aside, and then comes to these bytes; so nothing but blanks can differ
between two texts for the same bytes. From what is written for a name without a colon and a
password, both can be read off again (`base64_lossless`).
-/

set_option autoImplicit false
set_option relaxedAutoImplicit false

namespace OverlayGateway

open Http Kubeconfig

/-! ### Data that is read -/

namespace Material

/-- The failure of data that is not base64. -/
def notBase64 (what : String) (cause : Base64.DecodeError) : Failure :=
  .configuration ("invalid base64 " ++ what ++ " data: " ++ cause.message)

/-- What data in an entry comes to. -/
def decoded (what data : String) : Except Failure (Option (List UInt8)) :=
  match Base64.decode (Text.utf8 (Text.trim data)) with
  | .ok bytes => .ok (some bytes)
  | .error cause => .error (notBase64 what cause)

theorem decoded_eq_ok_iff {what data : String} {bytes : List UInt8} :
    decoded what data = .ok (some bytes) ↔ Base64.encode bytes = Text.utf8 (Text.trim data) := by
  rw [← Base64.decode_eq_ok_iff, decoded]
  cases Base64.decode (Text.utf8 (Text.trim data)) <;> simp

theorem decoded_cases (what data : String) :
    (∃ bytes, decoded what data = .ok (some bytes)) ∨
      ∃ cause, decoded what data = .error (notBase64 what cause) := by
  unfold decoded
  cases Base64.decode (Text.utf8 (Text.trim data)) with
  | ok bytes => exact Or.inl ⟨bytes, rfl⟩
  | error cause => exact Or.inr ⟨cause, rfl⟩

theorem exists_decoded_iff {what data : String} :
    (∃ bytes, decoded what data = .ok (some bytes)) ↔
      ∃ values pads, Base64.Canonical (Text.utf8 (Text.trim data)) values pads := by
  rw [← Base64.exists_encode_eq_iff]
  exact exists_congr fun bytes ↦ decoded_eq_ok_iff

/-- Data in the entry is decoded, and no file is asked for. -/
theorem read_of_given {m : Type → Type} [Monad m] {material : Material} {data : String}
    (hdata : Given material.data data) (files : FileReader m) (what : String) :
    material.read files what = pure (decoded what data) := by
  simp only [read, filled_eq_some_iff.2 hdata, decoded]
  cases Base64.decode (Text.utf8 (Text.trim data)) <;> rfl

/-- Texts for the same bytes are the same but for blanks around them. -/
theorem trim_eq_of_decoded {what otherWhat data otherData : String} {bytes : List UInt8}
    (h : decoded what data = .ok (some bytes))
    (hother : decoded otherWhat otherData = .ok (some bytes)) :
    Text.trim data = Text.trim otherData :=
  Text.utf8_injective ((decoded_eq_ok_iff.1 h).symm.trans (decoded_eq_ok_iff.1 hother))

end Material

/-! ### Symbols in texts -/

/-- Symbols are characters of ASCII, so as a text they are bytes one by one. -/
theorem Base64.utf8_encode (bytes : List UInt8) :
    Text.utf8 (String.ofList ((Base64.encode bytes).map fun b ↦ Char.ofNat b.toNat)) =
      Base64.encode bytes := by
  have hvisible := Base64.visible_encode bytes
  rw [Text.Visible, String.toList_ofList] at hvisible
  have hascii : ∀ c ∈ (Base64.encode bytes).map fun b ↦ Char.ofNat b.toNat, c.toNat < 128 :=
    fun c hc ↦ Nat.lt_trans (hvisible c hc).2 (by decide)
  rw [Text.utf8_eq_bytes, String.toList_ofList, Text.bytes_of_ascii hascii, List.map_map]
  refine (List.map_congr_left fun b _ ↦ ?_).trans (List.map_id _)
  rw [Function.comp_apply, Text.toNat_ofNat_toNat, UInt8.ofNat_toNat]
  rfl

namespace Credential

/-- The byte between a name and a password. -/
def colon : UInt8 := 0x3A

theorem utf8_colon : Text.utf8 ":" = [colon] := by decide

theorem colon_notMem_utf8 {s : String} (h : ':' ∉ s.toList) : colon ∉ Text.utf8 s := by
  intro hcolon
  rw [Text.utf8_eq_bytes, Text.bytes, List.mem_flatMap] at hcolon
  obtain ⟨c, hc, hbyte⟩ := hcolon
  have hvalue : c.toNat = colon.toNat := (Text.eq_singleton_of_mem hbyte (by decide)).1
  exact h ((Char.toNat_inj.1 hvalue : c = ':') ▸ hc)

theorem utf8_basicText (username password : String) :
    Text.utf8 (basicText username password) =
      Text.utf8 "Basic " ++
        Base64.encode (Text.utf8 username ++ colon :: Text.utf8 password) := by
  rw [basicText, Text.utf8_append, Base64.utf8_encode, Text.utf8_append, Text.utf8_append,
    utf8_colon, List.append_assoc, List.singleton_append]

/-- A name with a password is always attached, as the one `Authorization` value. -/
theorem exists_attach_basic {m : Type → Type} [Monad m] [LawfulMonad m] (username password : String)
    (tokens : TokenReader m) (headers : Headers) :
    ∃ after, (basic username password).attach tokens headers = pure (.ok after) ∧
      after.Carries .authorization [basicText username password] := by
  -- the token reader is not asked, so it may be one that answers with a failure
  let token : String → Except Failure String := fun _ ↦ .error unauthorized
  have hfile : ∀ path, basic username password ≠ bearerTokenFile path := by simp
  obtain ⟨after, hafter⟩ : ∃ after, (basic username password).attached token headers = .ok after :=
    exists_attached_iff.2 trivial
  refine ⟨after, ?_, (attached_of_ok hafter).authorization⟩
  rw [attach_eq, run_attaching_of_ne tokens headers hfile token, map_pure, map_settled, hafter]

/-- Data of a kubeconfig user that is not empty is decoded without asking for a file. It comes to
the bytes that it is the base64 of, blanks around it aside, and to no others. Data that is not
written in the one way in which bytes are is refused with the reason, and two texts for the same
bytes differ in the blanks around them only. A name without a colon and a password are always
attached, as a value with symbols for the name, the first colon and the password. -/
theorem base64_lossless {m : Type → Type} [Monad m] [LawfulMonad m] (files : FileReader m)
    (tokens : TokenReader m) (what : String) :
    (∀ (material : Material) (data : String), Given material.data data →
      ∃ result, material.read files what = pure result ∧
        (∀ bytes, result = .ok (some bytes) ↔
          Base64.encode bytes = Text.utf8 (Text.trim data)) ∧
        ((∃ bytes, result = .ok (some bytes)) ↔
          ∃ values pads, Base64.Canonical (Text.utf8 (Text.trim data)) values pads) ∧
        ((¬ ∃ values pads, Base64.Canonical (Text.utf8 (Text.trim data)) values pads) →
          ∃ cause : Base64.DecodeError, result =
            .error (.configuration ("invalid base64 " ++ what ++ " data: " ++ cause.message))) ∧
        ∀ (other : Material) (otherData otherWhat : String), Given other.data otherData →
          ∃ otherResult, other.read files otherWhat = pure otherResult ∧
            ∀ bytes, result = .ok (some bytes) → otherResult = .ok (some bytes) →
              Text.trim data = Text.trim otherData) ∧
    ∀ (username password : String) (headers : Headers), ':' ∉ username.toList →
      ∃ after value, (basic username password).attach tokens headers = pure (.ok after) ∧
        after.values .authorization = [value] ∧
        ∃ symbols before behind, value.bytes = Text.utf8 "Basic " ++ symbols ∧
          Base64.decode symbols = .ok (before ++ colon :: behind) ∧ colon ∉ before ∧
          Text.ofUtf8? before = some username ∧ Text.ofUtf8? behind = some password := by
  refine ⟨fun material data hdata ↦ ⟨Material.decoded what data,
    Material.read_of_given hdata files what, fun bytes ↦ Material.decoded_eq_ok_iff,
    Material.exists_decoded_iff, fun hnot ↦ ?refused,
    fun other otherData otherWhat hother ↦ ⟨Material.decoded otherWhat otherData,
      Material.read_of_given hother files otherWhat, fun bytes ↦ Material.trim_eq_of_decoded⟩⟩,
    fun username password headers hcolon ↦ ?basic⟩
  case refused =>
    have hunread : ¬ ∃ bytes, Material.decoded what data = .ok (some bytes) :=
      mt Material.exists_decoded_iff.1 hnot
    exact (Material.decoded_cases what data).resolve_left hunread
  case basic =>
    obtain ⟨after, hattach, hcarries⟩ := exists_attach_basic username password tokens headers
    obtain ⟨value, hvalue, hbytes⟩ := List.map_eq_singleton_iff.1 hcarries
    have hdecoded : Base64.decode
        (Base64.encode (Text.utf8 username ++ colon :: Text.utf8 password)) =
          .ok (Text.utf8 username ++ colon :: Text.utf8 password) :=
      Base64.decode_eq_ok_iff.2 rfl
    exact ⟨after, value, hattach, hvalue, _, Text.utf8 username, Text.utf8 password,
      hbytes.trans (utf8_basicText username password), hdecoded, colon_notMem_utf8 hcolon,
      Text.ofUtf8?_utf8 username, Text.ofUtf8?_utf8 password⟩

/-- A certificate between blanks, data that differs from it in one place, and a password with
colons. -/
theorem base64_lossless_sample :
    let files : FileReader Id := fun _ ↦ .error .notFound
    let tokens : TokenReader Id := fun _ ↦ .error unauthorized
    let certificate : Material := { data := some " Q0VSVA==\n" }
    let refused := ["Q0VSVA", "Q0VSVA===", "Q0VSVB==", "Q0VS VA==", "Q0VS\nVA==", "Q0VSV-=="]
    (∃ result, certificate.read files "client certificate" = pure result ∧
      result = .ok (some (Text.utf8 "CERT"))) ∧
    (∀ data ∈ refused,
      ¬ ∃ values pads, Base64.Canonical (Text.utf8 (Text.trim data)) values pads) ∧
    ∃ after value, (basic "admin" ":se:cret").attach tokens .empty = pure (.ok after) ∧
      after.values .authorization = [value] ∧ ∃ symbols before behind,
        value.bytes = Text.utf8 "Basic " ++ symbols ∧
        Base64.decode symbols = .ok (before ++ colon :: behind) ∧ colon ∉ before ∧
        Text.ofUtf8? before = some "admin" ∧ Text.ofUtf8? behind = some ":se:cret" := by
  intro files tokens certificate refused
  obtain ⟨hread, hattach⟩ := base64_lossless files tokens "client certificate"
  refine ⟨?_, fun data hdata ↦ ?_, hattach "admin" ":se:cret" .empty (by decide)⟩
  · obtain ⟨result, hresult, hbytes, -⟩ := hread certificate _ ⟨rfl, by decide⟩
    exact ⟨result, hresult, (hbytes _).2 (by decide)⟩
  · have hgiven : data ≠ "" := fun hempty ↦ absurd (hempty ▸ hdata) (by decide)
    have hrefused : ∀ data ∈ refused,
        (Base64.decode (Text.utf8 (Text.trim data))).isOk = false := by decide
    obtain ⟨result, -, hbytes, hcanonical, -⟩ := hread { data := some data } data ⟨rfl, hgiven⟩
    rw [← hcanonical]
    rintro ⟨bytes, hresult⟩
    have hdecoded := Base64.decode_eq_ok_iff.2 ((hbytes bytes).1 hresult)
    have hnot := hrefused data hdata
    rw [hdecoded] at hnot
    cases hnot

/-- The empty text is the base64 of no bytes, but as data it counts as missing. -/
theorem empty_data_not_decoded :
    let files : FileReader Id := fun _ ↦ .error .notFound
    let material : Material := { data := some "" }
    Base64.encode [] = Text.utf8 (Text.trim "") ∧
      material.read files "client certificate" = pure (.ok none) ∧
      material.read files "client certificate" ≠ pure (.ok (some [])) := by
  intro files material
  have hread : material.read files "client certificate" = pure (.ok none) := rfl
  refine ⟨rfl, hread, fun h ↦ ?_⟩
  have hnone : (none : Option (List UInt8)) = some [] := Except.ok.inj (hread.symm.trans h)
  cases hnone

end Credential

end OverlayGateway
