import OverlayGateway.Kubeconfig.Credential
import OverlayGateway.Proofs.Base64.RoundTrip
/-!
Which credential a user entry of a kubeconfig comes to. The kinds have an order, and the first one
that the entry is complete for is the credential; what the entry says about later kinds is not
looked at, so it neither changes the credential nor breaks anything. Only a client certificate can
fail, by a half that is there and cannot be had, whether or not the other half is there too.
-/

set_option autoImplicit false
set_option relaxedAutoImplicit false

namespace OverlayGateway

open Kubeconfig

/-! ### Fields -/

/-- Whether a field has a text that is not empty. -/
def Given (field : Option String) (text : String) : Prop := field = some text ∧ text ≠ ""

/-- Whether a field is not there, or empty. -/
def Lacking (field : Option String) : Prop := field = none ∨ field = some ""

section Fields

variable {field : Option String} {text : String}

theorem filled_eq_some_iff : filled field = some text ↔ Given field text := by
  simp only [filled, Option.filter_eq_some_iff, decide_eq_true_eq, Given]

theorem filled_eq_none_iff : filled field = none ↔ Lacking field := by
  cases field with
  | none => simp [filled, Lacking]
  | some text => simp [filled, Lacking, Option.filter_eq_none_iff]

end Fields

/-! ### Halves of a client certificate -/

namespace Material

variable {file contents : String → Except FileError (List UInt8)} {what : String}
  {material : Material} {bytes : List UInt8} {failure : Failure}

/-- Whether a material is there with these bytes, encoded in the entry or, without data in it, in a
file. -/
def Gives (file : String → Except FileError (List UInt8)) (material : Material)
    (bytes : List UInt8) : Prop :=
  (∃ data, Given material.data data ∧ Base64.encode bytes = Text.utf8 (Text.trim data)) ∨
    Lacking material.data ∧ ∃ path, Given material.path path ∧ file path = .ok bytes

/-- Whether a material is there, but its data cannot be decoded or, without data in the entry, its
file not be read. -/
def Breaks (file : String → Except FileError (List UInt8)) (what : String) (material : Material)
    (failure : Failure) : Prop :=
  (∃ data error, Given material.data data ∧
    Base64.decode (Text.utf8 (Text.trim data)) = .error error ∧
      failure = .configuration ("invalid base64 " ++ what ++ " data: " ++ error.message)) ∨
    Lacking material.data ∧ ∃ path error, Given material.path path ∧ file path = .error error ∧
      failure = .configuration ("failed to read " ++ what ++ " " ++ path ++ ": " ++ error.message)

/-- Whether there is neither data nor a path. -/
def Absent (material : Material) : Prop := Lacking material.data ∧ Lacking material.path

/-- The paths that are read for a material. -/
def paths (material : Material) : List String :=
  match filled material.data with
  | some _ => []
  | none => (filled material.path).toList

theorem mem_paths_iff {path : String} :
    path ∈ material.paths ↔ Lacking material.data ∧ Given material.path path := by
  rw [← filled_eq_none_iff, ← filled_eq_some_iff, paths]
  cases filled material.data with
  | some data => simp
  | none => simp

/-- What a material comes to, given the contents of the files. -/
def outcome (file : String → Except FileError (List UInt8)) (what : String) (material : Material) :
    Except Failure (Option (List UInt8)) :=
  Id.run (material.read file what)

theorem outcome_of_gives (h : material.Gives file bytes) :
    material.outcome file what = .ok (some bytes) := by
  rcases h with ⟨data, hdata, hencoded⟩ | ⟨hdata, path, hpath, hread⟩
  · have hdecoded := Base64.decode_eq_ok_iff.2 hencoded
    simp only [outcome, read, filled_eq_some_iff.2 hdata, hdecoded, Id.run_pure]
  · simp only [outcome, read, filled_eq_none_iff.2 hdata, filled_eq_some_iff.2 hpath, Id.run_bind]
    simp only [Id.run, hread, pure]

theorem outcome_of_breaks (h : material.Breaks file what failure) :
    material.outcome file what = .error failure := by
  rcases h with ⟨data, error, hdata, hdecoded, rfl⟩ | ⟨hdata, path, error, hpath, hread, rfl⟩
  · simp only [outcome, read, filled_eq_some_iff.2 hdata, hdecoded, Id.run_pure]
  · simp only [outcome, read, filled_eq_none_iff.2 hdata, filled_eq_some_iff.2 hpath, Id.run_bind]
    simp only [Id.run, hread, pure]

theorem outcome_of_absent (h : material.Absent) : material.outcome file what = .ok none := by
  simp only [outcome, read, filled_eq_none_iff.2 h.1, filled_eq_none_iff.2 h.2, Id.run_pure]

theorem gives_or_breaks_or_absent (file : String → Except FileError (List UInt8)) (what : String)
    (material : Material) :
    (∃ bytes, material.Gives file bytes) ∨ (∃ failure, material.Breaks file what failure) ∨
      material.Absent := by
  cases hdata : filled material.data with
  | some data =>
    have hgiven := filled_eq_some_iff.1 hdata
    cases hdecoded : Base64.decode (Text.utf8 (Text.trim data)) with
    | ok bytes =>
      exact Or.inl ⟨bytes, Or.inl ⟨data, hgiven, Base64.decode_eq_ok_iff.1 hdecoded⟩⟩
    | error error => exact Or.inr (Or.inl ⟨_, Or.inl ⟨data, error, hgiven, hdecoded, rfl⟩⟩)
  | none =>
    have hlacking := filled_eq_none_iff.1 hdata
    cases hpath : filled material.path with
    | none => exact Or.inr (Or.inr ⟨hlacking, filled_eq_none_iff.1 hpath⟩)
    | some path =>
      have hgiven := filled_eq_some_iff.1 hpath
      cases hread : file path with
      | ok bytes => exact Or.inl ⟨bytes, Or.inr ⟨hlacking, path, hgiven, hread⟩⟩
      | error error =>
        exact Or.inr (Or.inl ⟨_, Or.inr ⟨hlacking, path, error, hgiven, hread, rfl⟩⟩)

theorem outcome_eq_error_iff :
    material.outcome file what = .error failure ↔ material.Breaks file what failure := by
  refine ⟨fun h ↦ ?_, outcome_of_breaks⟩
  rcases gives_or_breaks_or_absent file what material with ⟨_, hother⟩ | ⟨_, hother⟩ | hother
  · rw [outcome_of_gives hother] at h
    cases h
  · rw [outcome_of_breaks hother] at h
    cases h
    exact hother
  · rw [outcome_of_absent hother] at h
    cases h

/-- Other contents matter only if they differ in a file that is read. -/
theorem outcome_congr (h : ∀ path ∈ material.paths, contents path = file path) :
    material.outcome contents what = material.outcome file what := by
  cases hdata : filled material.data with
  | some data => simp only [outcome, read, hdata]
  | none =>
    cases hpath : filled material.path with
    | none => simp only [outcome, read, hdata, hpath]
    | some path =>
      have hsame : contents path = file path := h path (by simp [paths, hdata, hpath])
      simp only [outcome, read, hdata, hpath, hsame]

end Material

/-! ### Loading -/

/-- The contents of the files, each time with the path noted. -/
def notingFiles (file : String → Except FileError (List UInt8)) :
    FileReader (StateM (List String)) :=
  fun path paths ↦ (file path, paths ++ [path])

theorem run_notingFiles (file : String → Except FileError (List UInt8)) (path : String)
    (paths : List String) :
    (notingFiles file path).run paths = pure (file path, paths ++ [path]) := rfl

theorem Material.run_read (file : String → Except FileError (List UInt8)) (what : String)
    (material : Material) (paths : List String) :
    (material.read (notingFiles file) what).run paths =
      pure (material.outcome file what, paths ++ material.paths) := by
  cases hdata : filled material.data with
  | some data =>
    cases hdecoded : Base64.decode (Text.utf8 (Text.trim data)) <;>
      simp [outcome, read, Material.paths, hdata, hdecoded]
  | none =>
    cases hpath : filled material.path with
    | none => simp [outcome, read, Material.paths, hdata, hpath]
    | some path =>
      simp only [outcome, read, Material.paths, hdata, hpath, StateT.run_bind, run_notingFiles,
        pure_bind, Id.run_bind]
      simp only [Id.run]
      cases file path <;> rfl

namespace Credential

/-- The credential of a user, or why there is none, and the paths of the files that are read for it,
given their contents. -/
def loaded (file : String → Except FileError (List UInt8)) (user : User) :
    Except Failure Credential × List String :=
  let (result, paths) := (ofUser (notingFiles file) user).run []
  (result.map Prod.fst, paths)

/-- Whether a certificate and a key make up an identity, each from the start of a line on. -/
def IsIdentity (certificate key pem : List UInt8) : Prop :=
  (∃ rest, certificate = rest ++ [0x0A] ∧ pem = certificate ++ key) ∨
    (¬ ∃ rest, certificate = rest ++ [0x0A]) ∧ pem = certificate ++ 0x0A :: key

/-- Whether neither a token nor a file with one is given. -/
def WithoutToken (user : User) : Prop := Lacking user.token ∧ Lacking user.tokenFile

/-- Whether a half of the client certificate is missing, and the other one missing or there. -/
def WithoutPair (file : String → Except FileError (List UInt8)) (user : User) : Prop :=
  (user.certificate.Absent ∧ (user.key.Absent ∨ ∃ key, user.key.Gives file key)) ∨
    (∃ certificate, user.certificate.Gives file certificate) ∧ user.key.Absent

/-- Which credential a user comes to, each kind if none before it applies. -/
inductive Chosen (file : String → Except FileError (List UInt8)) (user : User) : Credential → Prop
  | bearerToken {token : String} (h : Given user.token token) :
      Chosen file user (.bearerToken token)
  | bearerTokenFile {path : String} (htoken : Lacking user.token)
      (h : Given user.tokenFile path) : Chosen file user (.bearerTokenFile path)
  | clientCertificate {certificate key pem : List UInt8} (htoken : WithoutToken user)
      (hcertificate : user.certificate.Gives file certificate) (hkey : user.key.Gives file key)
      (h : IsIdentity certificate key pem) : Chosen file user (.clientCertificate pem)
  | basic {username password : String} (htoken : WithoutToken user)
      (hpair : WithoutPair file user) (husername : Given user.username username)
      (hpassword : Given user.password password) : Chosen file user (.basic username password)
  | missing (htoken : WithoutToken user) (hpair : WithoutPair file user)
      (h : Lacking user.username ∨ Lacking user.password) : Chosen file user .missing

/-- Why a user comes to no credential: without a token, the certificate is broken or, if it is not,
the key. -/
def FailsWith (file : String → Except FileError (List UInt8)) (user : User) (failure : Failure) :
    Prop :=
  WithoutToken user ∧
    (user.certificate.Breaks file "client certificate" failure ∨
      (¬ ∃ other, user.certificate.Breaks file "client certificate" other) ∧
        user.key.Breaks file "client key" failure)

/-- Whether two users agree in what is looked at up to a result. -/
def SameUpTo : Except Failure Credential → User → User → Prop
  | .ok (.bearerToken _), user, other => user.token = other.token
  | .ok (.bearerTokenFile _), user, other =>
    user.token = other.token ∧ user.tokenFile = other.tokenFile
  | .ok (.clientCertificate _), user, other | .error _, user, other =>
    user.token = other.token ∧ user.tokenFile = other.tokenFile ∧
      user.certificate = other.certificate ∧ user.key = other.key
  | .ok (.basic _ _), user, other | .ok .missing, user, other =>
    user.token = other.token ∧ user.tokenFile = other.tokenFile ∧
      user.certificate = other.certificate ∧ user.key = other.key ∧
        user.username = other.username ∧ user.password = other.password

section Loaded

variable {file : String → Except FileError (List UInt8)} {user : User}

theorem isIdentity_iff {certificate key pem : List UInt8} :
    IsIdentity certificate key pem ↔ identity certificate key = pem := by
  have hends : certificate.getLast? = some 0x0A ↔ ∃ rest, certificate = rest ++ [0x0A] := by
    rw [List.getLast?_eq_some_iff]
  by_cases h : certificate.getLast? = some 0x0A
  · simp [IsIdentity, identity, h, hends.1 h, eq_comm]
  · simp [IsIdentity, identity, h, mt hends.2 h, eq_comm]

theorem loaded_of_token {token : String} (h : Given user.token token) :
    loaded file user = (.ok (.bearerToken token), []) := by
  simp only [loaded, ofUser, filled_eq_some_iff.2 h]
  rfl

theorem loaded_of_tokenFile {path : String} (htoken : Lacking user.token)
    (h : Given user.tokenFile path) : loaded file user = (.ok (.bearerTokenFile path), []) := by
  simp only [loaded, ofUser, filled_eq_none_iff.2 htoken, filled_eq_some_iff.2 h]
  rfl

theorem loaded_of_withoutToken (h : WithoutToken user) :
    loaded file user =
      match user.certificate.outcome file "client certificate" with
      | .error failure => (.error failure, user.certificate.paths)
      | .ok certificate =>
        match user.key.outcome file "client key" with
        | .error failure => (.error failure, user.certificate.paths ++ user.key.paths)
        | .ok key =>
          (.ok (ofParts user certificate key).1, user.certificate.paths ++ user.key.paths) := by
  simp only [loaded, ofUser, filled_eq_none_iff.2 h.1, filled_eq_none_iff.2 h.2,
    StateT.run_bind, Material.run_read, pure_bind, List.nil_append]
  cases user.certificate.outcome file "client certificate" with
  | error failure => rfl
  | ok certificate =>
    simp only [StateT.run_bind, Material.run_read, pure_bind]
    cases user.key.outcome file "client key" <;> rfl

/-! ### Order -/

theorem withoutCertificate_of_basic {username password : String}
    (husername : Given user.username username) (hpassword : Given user.password password) :
    (withoutCertificate user).1 = .basic username password := by
  simp [withoutCertificate, basicOf?, filled_eq_some_iff.2 husername,
    filled_eq_some_iff.2 hpassword]

theorem withoutCertificate_of_missing (h : Lacking user.username ∨ Lacking user.password) :
    (withoutCertificate user).1 = .missing := by
  have hnone : basicOf? user = none := by
    rcases h with h | h
    · simp [basicOf?, filled_eq_none_iff.2 h]
    · simp [basicOf?, filled_eq_none_iff.2 h]
  simp [withoutCertificate, hnone]

/-- Without both halves of a certificate, what is left is looked at as if there were none. -/
theorem loaded_of_withoutPair (htoken : WithoutToken user) (h : WithoutPair file user) :
    loaded file user =
      (.ok (withoutCertificate user).1, user.certificate.paths ++ user.key.paths) := by
  rw [loaded_of_withoutToken htoken]
  rcases h with ⟨hcertificate, hkey | ⟨key, hkey⟩⟩ | ⟨⟨certificate, hcertificate⟩, hkey⟩
  · rw [Material.outcome_of_absent hcertificate, Material.outcome_of_absent hkey]
    rfl
  · rw [Material.outcome_of_absent hcertificate, Material.outcome_of_gives hkey]
    rfl
  · rw [Material.outcome_of_gives hcertificate, Material.outcome_of_absent hkey]
    rfl

theorem loaded_of_chosen {credential : Credential} (h : Chosen file user credential) :
    (loaded file user).1 = .ok credential := by
  cases h with
  | bearerToken h => rw [loaded_of_token h]
  | bearerTokenFile htoken h => rw [loaded_of_tokenFile htoken h]
  | clientCertificate htoken hcertificate hkey h =>
    rw [loaded_of_withoutToken htoken, Material.outcome_of_gives hcertificate,
      Material.outcome_of_gives hkey, ← isIdentity_iff.1 h]
    rfl
  | basic htoken hpair husername hpassword =>
    rw [loaded_of_withoutPair htoken hpair, withoutCertificate_of_basic husername hpassword]
  | missing htoken hpair h =>
    rw [loaded_of_withoutPair htoken hpair, withoutCertificate_of_missing h]

theorem loaded_of_failsWith {failure : Failure} (h : FailsWith file user failure) :
    (loaded file user).1 = .error failure := by
  obtain ⟨htoken, hcertificate | ⟨hcertificate, hkey⟩⟩ := h
  · rw [loaded_of_withoutToken htoken, Material.outcome_of_breaks hcertificate]
  · rw [loaded_of_withoutToken htoken, Material.outcome_of_breaks hkey]
    cases hother : user.certificate.outcome file "client certificate" with
    | error other => exact absurd ⟨other, Material.outcome_eq_error_iff.1 hother⟩ hcertificate
    | ok certificate => rfl

/-- A user without a pair comes to a name with a password, or to nothing. -/
theorem chosen_of_withoutPair (htoken : WithoutToken user) (hpair : WithoutPair file user) :
    ∃ credential, Chosen file user credential := by
  cases husername : filled user.username with
  | none => exact ⟨_, .missing htoken hpair (Or.inl (filled_eq_none_iff.1 husername))⟩
  | some username =>
    cases hpassword : filled user.password with
    | none => exact ⟨_, .missing htoken hpair (Or.inr (filled_eq_none_iff.1 hpassword))⟩
    | some password =>
      exact ⟨_, .basic htoken hpair (filled_eq_some_iff.1 husername)
        (filled_eq_some_iff.1 hpassword)⟩

theorem chosen_or_failsWith (file : String → Except FileError (List UInt8)) (user : User) :
    (∃ credential, Chosen file user credential) ∨ ∃ failure, FailsWith file user failure := by
  cases htoken : filled user.token with
  | some token => exact Or.inl ⟨_, .bearerToken (filled_eq_some_iff.1 htoken)⟩
  | none =>
  cases htokenFile : filled user.tokenFile with
  | some path =>
    exact Or.inl ⟨_, .bearerTokenFile (filled_eq_none_iff.1 htoken)
      (filled_eq_some_iff.1 htokenFile)⟩
  | none =>
  have hwithout : WithoutToken user :=
    ⟨filled_eq_none_iff.1 htoken, filled_eq_none_iff.1 htokenFile⟩
  by_cases hbroken : ∃ failure, user.certificate.Breaks file "client certificate" failure
  · obtain ⟨failure, hbroken⟩ := hbroken
    exact Or.inr ⟨failure, hwithout, Or.inl hbroken⟩
  have hcertificate := user.certificate.gives_or_breaks_or_absent file "client certificate"
  rcases user.key.gives_or_breaks_or_absent file "client key" with
    ⟨key, hkey⟩ | ⟨failure, hkey⟩ | hkey
  · rcases hcertificate with ⟨certificate, hcertificate⟩ | h | hcertificate
    · exact Or.inl ⟨_, .clientCertificate hwithout hcertificate hkey (isIdentity_iff.2 rfl)⟩
    · exact absurd h hbroken
    · exact Or.inl (chosen_of_withoutPair hwithout (Or.inl ⟨hcertificate, Or.inr ⟨key, hkey⟩⟩))
  · exact Or.inr ⟨failure, hwithout, Or.inr ⟨hbroken, hkey⟩⟩
  · rcases hcertificate with hcertificate | h | hcertificate
    · exact Or.inl (chosen_of_withoutPair hwithout (Or.inr ⟨hcertificate, hkey⟩))
    · exact absurd h hbroken
    · exact Or.inl (chosen_of_withoutPair hwithout (Or.inl ⟨hcertificate, Or.inl hkey⟩))

theorem loaded_eq_ok_iff {credential : Credential} :
    (loaded file user).1 = .ok credential ↔ Chosen file user credential := by
  refine ⟨fun h ↦ ?_, loaded_of_chosen⟩
  rcases chosen_or_failsWith file user with ⟨other, hother⟩ | ⟨failure, hother⟩
  · rw [loaded_of_chosen hother] at h
    cases h
    exact hother
  · rw [loaded_of_failsWith hother] at h
    cases h

theorem loaded_eq_error_iff {failure : Failure} :
    (loaded file user).1 = .error failure ↔ FailsWith file user failure := by
  refine ⟨fun h ↦ ?_, loaded_of_failsWith⟩
  rcases chosen_or_failsWith file user with ⟨other, hother⟩ | ⟨failure, hother⟩
  · rw [loaded_of_chosen hother] at h
    cases h
  · rw [loaded_of_failsWith hother] at h
    cases h
    exact hother

/-! ### What is not looked at -/

theorem withoutToken_of_mem_paths {path : String} (h : path ∈ (loaded file user).2) :
    WithoutToken user ∧ (path ∈ user.certificate.paths ∨ path ∈ user.key.paths) := by
  cases htoken : filled user.token with
  | some token =>
    rw [loaded_of_token (filled_eq_some_iff.1 htoken)] at h
    cases h
  | none =>
  cases htokenFile : filled user.tokenFile with
  | some tokenFile =>
    rw [loaded_of_tokenFile (filled_eq_none_iff.1 htoken) (filled_eq_some_iff.1 htokenFile)] at h
    cases h
  | none =>
  have hwithout : WithoutToken user :=
    ⟨filled_eq_none_iff.1 htoken, filled_eq_none_iff.1 htokenFile⟩
  refine ⟨hwithout, ?_⟩
  rw [loaded_of_withoutToken hwithout] at h
  cases hcertificate : user.certificate.outcome file "client certificate" with
  | error failure =>
    rw [hcertificate] at h
    exact Or.inl h
  | ok certificate =>
    rw [hcertificate] at h
    cases hkey : user.key.outcome file "client key" with
    | error failure =>
      rw [hkey] at h
      exact List.mem_append.1 h
    | ok key =>
      rw [hkey] at h
      exact List.mem_append.1 h

theorem ofParts_congr {other : User} (husername : user.username = other.username)
    (hpassword : user.password = other.password) (certificate key : Option (List UInt8)) :
    (ofParts other certificate key).1 = (ofParts user certificate key).1 := by
  have hbasic : basicOf? other = basicOf? user := by
    rw [basicOf?, basicOf?, husername, hpassword]
  have hleft : (withoutCertificate other).1 = (withoutCertificate user).1 := by
    rw [withoutCertificate, withoutCertificate, hbasic]
    cases basicOf? user <;> rfl
  cases certificate <;> cases key <;> first | rfl | exact hleft

/-- Users with the same halves come to the same, if what is made of the halves is the same and the
files that are read hold the same. -/
theorem loaded_congr {contents : String → Except FileError (List UInt8)} {other : User}
    (htoken : WithoutToken user) (hsame : SameUpTo (.error (.configuration "")) user other)
    (hfiles : ∀ path ∈ (loaded file user).2, contents path = file path)
    (hparts : ∀ certificate key,
      user.certificate.outcome file "client certificate" = .ok certificate →
        user.key.outcome file "client key" = .ok key →
          (ofParts other certificate key).1 = (ofParts user certificate key).1) :
    loaded contents other = loaded file user := by
  obtain ⟨htokens, htokenFiles, hcertificates, hkeys⟩ := hsame
  have hother : WithoutToken other := ⟨htokens ▸ htoken.1, htokenFiles ▸ htoken.2⟩
  rw [loaded_of_withoutToken htoken] at hfiles ⊢
  rw [loaded_of_withoutToken hother, ← hcertificates, ← hkeys]
  cases hcertificate : user.certificate.outcome file "client certificate" with
  | error failure =>
    rw [hcertificate] at hfiles
    rw [Material.outcome_congr hfiles, hcertificate]
  | ok certificate =>
    rw [hcertificate] at hfiles
    cases hkey : user.key.outcome file "client key" with
    | error failure =>
      rw [hkey] at hfiles
      obtain ⟨hfirst, hsecond⟩ := List.forall_mem_append.1 hfiles
      rw [Material.outcome_congr hfirst, Material.outcome_congr hsecond, hcertificate, hkey]
    | ok key =>
      rw [hkey] at hfiles
      obtain ⟨hfirst, hsecond⟩ := List.forall_mem_append.1 hfiles
      rw [Material.outcome_congr hfirst, Material.outcome_congr hsecond, hcertificate, hkey]
      simp only [hparts certificate key hcertificate hkey]

/-- What comes after the result in the order, and what files hold that are not read for it, does not
matter. -/
theorem loaded_of_sameUpTo {contents : String → Except FileError (List UInt8)} {other : User}
    (h : SameUpTo (loaded file user).1 user other)
    (hfiles : ∀ path ∈ (loaded file user).2, contents path = file path) :
    loaded contents other = loaded file user := by
  rcases chosen_or_failsWith file user with ⟨credential, hchosen⟩ | ⟨failure, hfails⟩
  · rw [loaded_of_chosen hchosen] at h
    cases hchosen with
    | bearerToken htoken =>
      have hother : Given other.token _ := (show user.token = other.token from h) ▸ htoken
      rw [loaded_of_token htoken, loaded_of_token hother]
    | bearerTokenFile htoken htokenFile =>
      rw [loaded_of_tokenFile htoken htokenFile,
        loaded_of_tokenFile (h.1 ▸ htoken) (h.2 ▸ htokenFile)]
    | clientCertificate htoken hcertificate hkey _ =>
      refine loaded_congr htoken h hfiles fun _ _ hfirst hsecond ↦ ?_
      rw [Material.outcome_of_gives hcertificate] at hfirst
      rw [Material.outcome_of_gives hkey] at hsecond
      cases hfirst
      cases hsecond
      rfl
    | basic htoken _ _ _ =>
      obtain ⟨htokens, htokenFiles, hcertificates, hkeys, husername, hpassword⟩ := h
      exact loaded_congr htoken ⟨htokens, htokenFiles, hcertificates, hkeys⟩ hfiles
        fun certificate key _ _ ↦ ofParts_congr husername hpassword certificate key
    | missing htoken _ _ =>
      obtain ⟨htokens, htokenFiles, hcertificates, hkeys, husername, hpassword⟩ := h
      exact loaded_congr htoken ⟨htokens, htokenFiles, hcertificates, hkeys⟩ hfiles
        fun certificate key _ _ ↦ ofParts_congr husername hpassword certificate key
  · have herror := loaded_of_failsWith hfails
    rw [herror] at h
    refine loaded_congr hfails.1 h hfiles fun certificate key hfirst hsecond ↦ ?_
    rw [loaded_of_withoutToken hfails.1, hfirst, hsecond] at herror
    cases herror

end Loaded

/-- A user comes to the first kind of credential that applies, and to none exactly if a half of a
client certificate is there that cannot be had, and no token goes before it. No file is read if
there is a token or a file with one, and otherwise only those that name a half without data. What
stands behind a result in the order does not change it, nor do the other files. -/
theorem chosen_in_order (file : String → Except FileError (List UInt8)) (user : User) :
    (∀ credential, (loaded file user).1 = .ok credential ↔ Chosen file user credential) ∧
      (∀ failure, (loaded file user).1 = .error failure ↔ FailsWith file user failure) ∧
      (∀ path ∈ (loaded file user).2, WithoutToken user ∧
        (Lacking user.certificate.data ∧ Given user.certificate.path path ∨
          Lacking user.key.data ∧ Given user.key.path path)) ∧
      ∀ contents other, SameUpTo (loaded file user).1 user other →
        (∀ path ∈ (loaded file user).2, contents path = file path) →
          loaded contents other = loaded file user := by
  refine ⟨fun _ ↦ loaded_eq_ok_iff, fun _ ↦ loaded_eq_error_iff, fun path hpath ↦ ?_,
    fun _ _ ↦ loaded_of_sameUpTo⟩
  obtain ⟨htoken, hhalf⟩ := withoutToken_of_mem_paths hpath
  exact ⟨htoken, hhalf.imp Material.mem_paths_iff.1 Material.mem_paths_iff.1⟩

/-- A certificate in the entry goes before the file that it also names, and before the name and the
password; with a key that cannot be decoded there is no credential, not even for a name and a
password, and with a token before them the halves are not looked at. -/
theorem chosen_in_order_sample :
    let file path : Except FileError (List UInt8) :=
      if path = "client.key" then .ok (Text.utf8 "KEY\n") else .error .notFound
    let user : User :=
      { token := some "", certificate := { data := some " Q0VSVA==\n", path := some "client.crt" },
        key := { path := some "client.key" }, username := some "admin", password := some "secret" }
    let broken : User := { user with key := { data := some "S0VZ=" } }
    let holder : User := { broken with token := some "abc" }
    Chosen file user (.clientCertificate (Text.utf8 "CERT\nKEY\n")) ∧
      (loaded file user).2 = ["client.key"] ∧
      loaded file { user with password := none } = loaded file user ∧
      FailsWith file broken
        (.configuration "invalid base64 client key data: Invalid symbol 61, offset 4.") ∧
      Chosen file holder (.bearerToken "abc") ∧
      loaded file { holder with key := {} } = loaded file holder := by
  intro file user broken holder
  obtain ⟨hchosen, -, -, hsame⟩ := chosen_in_order file user
  obtain ⟨-, hfails, -, -⟩ := chosen_in_order file broken
  obtain ⟨hfirst, -, -, hafter⟩ := chosen_in_order file holder
  have hpair : loaded file user =
      (.ok (.clientCertificate (Text.utf8 "CERT\nKEY\n")), ["client.key"]) := by
    rfl
  have htoken : loaded file holder = (.ok (.bearerToken "abc"), []) := rfl
  refine ⟨(hchosen _).1 (by rw [hpair]), by rw [hpair], hsame _ _ ?_ fun _ _ ↦ rfl,
    (hfails _).1 rfl, (hfirst _).1 (by rw [htoken]), hafter _ _ ?_ fun _ _ ↦ rfl⟩
  · rw [hpair]
    exact ⟨rfl, rfl, rfl, rfl⟩
  · rw [htoken]
    exact rfl

end Credential

end OverlayGateway
