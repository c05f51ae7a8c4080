import OverlayGateway.Kubeconfig
import OverlayGateway.Text.Utf8
import OverlayGateway.Yaml.Decode
/-!
Kubeconfigs in files. A file is a text in UTF-8 or, behind a byte order mark, in UTF-16; it holds
any number of YAML documents, and a file without one is an empty kubeconfig. Every field that a
kubeconfig may have is checked, whether it is of use here or not.
-/

set_option autoImplicit false
set_option relaxedAutoImplicit false

namespace OverlayGateway.Kubeconfig

open Yaml

/-- Why a file is no kubeconfig. -/
inductive ReadError where
  | unreadable (path : String) (cause : String)
  | flawed (flaw : Yaml.Flaw)
  | invalid (fault : Yaml.Fault)
  | unmergeable (clash : Clash)

def ReadError.message : ReadError → String
  | .unreadable path cause =>
    "failed to read kubeconfig from '" ++ Text.quoted path ++ "': " ++ cause
  | .flawed flaw => "failed to parse kubeconfig YAML: " ++ flaw.message
  | .invalid fault => "the structure of the parsed kubeconfig is invalid: " ++ fault.message
  | .unmergeable clash => "kubeconfigs with mismatching " ++ clash.text ++ " cannot be merged"

/-- An entry whose body stands in a field of its own. -/
def asEntry {α : Type} (record field : String) (decode : Decoder α) : Decoder (Entry α) :=
  fun node ↦ do
    let (name, body) ← asRecord record ((none : Option String), (none : Option α))
      (fun (name, body) key value ↦
        if key = "name" then (asText value).map fun text ↦ (some text, body)
        else if key = field then (orNull decode value).map fun body ↦ (name, body)
        else .ok (name, body)) node
    let name ← required "name" name
    return ⟨name, body⟩

/-- A check of an extension, whose content may be anything. -/
def asExtension : Decoder Unit := fun node ↦ do
  let (name, extension) ← asRecord "NamedExtension" ((none : Option String), (none : Option Unit))
    (fun (name, extension) key value ↦
      if key = "name" then (asText value).map fun text ↦ (some text, extension)
      else if key = "extension" then (asJson value).map fun extension ↦ (name, some extension)
      else .ok (name, extension)) node
  let _ ← required "name" name
  required "extension" extension

/-- Checks a value and leaves what was read so far. -/
def checked {α β : Type} (decode : Decoder β) (value : Node) (read : α) : Except Yaml.Fault α :=
  (decode value).map fun _ ↦ read

def asCluster : Decoder Cluster :=
  asRecord "Cluster" {} fun cluster key value ↦
    match key with
    | "server" => (orNull asText value).map fun server ↦ { cluster with server }
    | "insecure-skip-tls-verify" | "disable-compression" => checked (orNull asBool) value cluster
    | "certificate-authority" =>
      (orNull asText value).map fun path ↦
        { cluster with authority := { cluster.authority with path } }
    | "certificate-authority-data" =>
      (orNull asText value).map fun data ↦
        { cluster with authority := { cluster.authority with data } }
    | "proxy-url" => (orNull asText value).map fun proxy ↦ { cluster with proxy }
    | "tls-server-name" => checked (orNull asText) value cluster
    | "extensions" => checked (orNull (asListOf asExtension)) value cluster
    | _ => .ok cluster

/-- A check of a provider of credentials, which has to have a name. -/
def asProvider : Decoder Unit := fun node ↦ do
  let name ← asRecord "AuthProviderConfig" (none : Option String)
    (fun name key value ↦
      match key with
      | "name" => (asText value).map some
      | "config" => checked (asMapOf asText) value name
      | _ => .ok name) node
  (required "name" name).map fun _ ↦ ()

/-- Whether a command that is asked for a credential is told about the cluster. -/
def asCommand : Decoder Bool :=
  asRecord "ExecConfig" false fun isTold key value ↦
    match key with
    | "apiVersion" | "command" => checked (orNull asText) value isTold
    | "args" => checked (orNull (asListOf asText)) value isTold
    | "env" => checked (orNull (asListOf (asMapOf asText))) value isTold
    | "interactiveMode" =>
      checked (orNull (asWord ["Never", "IfAvailable", "Always"])) value isTold
    | "provideClusterInfo" => asBool value
    | _ => .ok isTold

def asUser : Decoder User :=
  asRecord "AuthInfo" {} fun user key value ↦
    match key with
    | "username" => (orNull asText value).map fun username ↦ { user with username }
    | "password" => (orNull asText value).map fun password ↦ { user with password }
    | "token" => (orNull asText value).map fun token ↦ { user with token }
    | "tokenFile" => (orNull asText value).map fun tokenFile ↦ { user with tokenFile }
    | "client-certificate" =>
      (orNull asText value).map fun path ↦
        { user with certificate := { user.certificate with path } }
    | "client-certificate-data" =>
      (orNull asText value).map fun data ↦
        { user with certificate := { user.certificate with data } }
    | "client-key" =>
      (orNull asText value).map fun path ↦ { user with key := { user.key with path } }
    | "client-key-data" =>
      (orNull asText value).map fun data ↦ { user with key := { user.key with data } }
    | "as" => checked (orNull asText) value user
    | "as-groups" => checked (orNull (asListOf asText)) value user
    | "auth-provider" =>
      (orNull asProvider value).map fun provider ↦
        { user with usesPlugin := user.usesPlugin || provider.isSome }
    | "exec" =>
      (orNull asCommand value).map fun command ↦
        { user with
          usesPlugin := user.usesPlugin || command.isSome
          informsPlugin := command.getD false }
    | _ => .ok user

def asContext : Decoder Context := fun node ↦ do
  let (cluster, user) ← asRecord "Context" ((none : Option String), (none : Option String))
    (fun (cluster, user) key value ↦
      match key with
      | "cluster" => (asText value).map fun cluster ↦ (some cluster, user)
      | "user" => (orNull asText value).map fun user ↦ (cluster, user)
      | "namespace" => checked (orNull asText) value (cluster, user)
      | "extensions" => checked (orNull (asListOf asExtension)) value (cluster, user)
      | _ => .ok (cluster, user)) node
  let cluster ← required "cluster" cluster
  return { cluster, user }

/-- A check of the preferences of a client. -/
def asPreferences : Decoder Unit :=
  asRecord "Preferences" () fun _ key value ↦
    match key with
    | "colors" => checked (orNull asBool) value ()
    | "extensions" => checked (orNull (asListOf asExtension)) value ()
    | _ => .ok ()

def asKubeconfig : Decoder Kubeconfig :=
  asRecord "Kubeconfig" {} fun config key value ↦
    match key with
    | "preferences" => checked (orNull asPreferences) value config
    | "clusters" =>
      (asListOf (asEntry "NamedCluster" "cluster" asCluster) value).map fun clusters ↦
        { config with clusters }
    | "users" =>
      (asListOf (asEntry "NamedAuthInfo" "user" asUser) value).map fun users ↦
        { config with users }
    | "contexts" =>
      (asListOf (asEntry "NamedContext" "context" asContext) value).map fun contexts ↦
        { config with contexts }
    | "current-context" => (orNull asText value).map fun current ↦ { config with current }
    | "extensions" => checked (orNull (asListOf asExtension)) value config
    | "kind" => (orNull asText value).map fun kind ↦ { config with kind }
    | "apiVersion" => (orNull asText value).map fun version ↦ { config with version }
    | _ => .ok config

/-- The 16-bit units in some bytes, as `unit` puts two of them together. -/
def units? (unit : UInt8 → UInt8 → Nat) : List UInt8 → Option (List Nat)
  | [] => some []
  | [_] => none
  | a :: b :: rest => (units? unit rest).map (unit a b :: ·)

/-- The text in UTF-16 units. -/
def ofUnits? : List Nat → Option (List Char)
  | [] => some []
  | unit :: rest =>
    if 0xD800 ≤ unit ∧ unit < 0xDC00 then
      match rest with
      | low :: rest =>
        if 0xDC00 ≤ low ∧ low < 0xE000 then
          (ofUnits? rest).map
            (Char.ofNat (0x10000 + (unit - 0xD800) * 0x400 + (low - 0xDC00)) :: ·)
        else none
      | [] => none
    else if 0xDC00 ≤ unit ∧ unit < 0xE000 then none
    else (ofUnits? rest).map (Char.ofNat unit :: ·)

/-- The text in the bytes of a file, or in words why there is none. -/
def textOf (bytes : List UInt8) : Except String String :=
  let decoded (text : Option String) (cause : String) : Except String String :=
    match text with
    | some text => .ok text
    | none => .error cause
  match bytes with
  | 0xFF :: 0xFE :: rest =>
    decoded (((units? (fun a b ↦ a.toNat + 256 * b.toNat) rest).bind ofUnits?).map String.ofList)
      "Invalid UTF-16 LE"
  | 0xFE :: 0xFF :: rest =>
    decoded (((units? (fun a b ↦ 256 * a.toNat + b.toNat) rest).bind ofUnits?).map String.ofList)
      "Invalid UTF-16 BE"
  | 0xEF :: 0xBB :: 0xBF :: rest => decoded (Text.ofUtf8? rest) "Invalid UTF-8 BOM"
  | bytes => decoded (Text.ofUtf8? bytes) "Invalid UTF-8"

/-- The kubeconfig in a text, merged from its documents. -/
def ofText (text : String) : Except ReadError Kubeconfig := do
  let configs ← (Yaml.read text).mapM fun document ↦ do
    (asKubeconfig (← document.mapError .flawed)).mapError .invalid
  match configs with
  | [] => return {}
  | config :: configs =>
    configs.foldlM (fun config other ↦ (config.merge other).mapError .unmergeable) config

/-- The kubeconfig in a file. -/
def read {m : Type → Type} [Monad m] (files : FileReader m) (path : String) :
    m (Except ReadError Kubeconfig) := do
  match ← files path with
  | .error error => return .error (.unreadable path error.message)
  | .ok bytes =>
    match textOf bytes with
    | .error cause => return .error (.unreadable path cause)
    | .ok text => return (ofText text).map (below (Path.directory path))

end OverlayGateway.Kubeconfig
