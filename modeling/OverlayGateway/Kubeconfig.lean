import OverlayGateway.File
/-!
A kubeconfig: clusters, users and contexts by name, and which context is current. Names need not be
unique and entries need not have a body; the first entry of a name is the one that counts. Paths in
a kubeconfig are relative to the directory that it stands in.
-/

set_option autoImplicit false
set_option relaxedAutoImplicit false

namespace OverlayGateway

/-- Data that an entry gives in base64 or as the path of a file. -/
structure Material where
  data : Option String := none
  path : Option String := none
  deriving DecidableEq, Repr

/-- The material with its path taken from a directory. -/
def Material.below (directory : String) (material : Material) : Material :=
  { material with path := material.path.map (Path.join directory) }

namespace Kubeconfig

structure Cluster where
  server : Option String := none
  authority : Material := {}
  proxy : Option String := none
  deriving DecidableEq, Repr

structure User where
  token : Option String := none
  tokenFile : Option String := none
  certificate : Material := {}
  key : Material := {}
  username : Option String := none
  password : Option String := none
  /-- Whether a command or a provider is asked for a credential. -/
  usesPlugin : Bool := false
  /-- Whether that command is told about the cluster. -/
  informsPlugin : Bool := false
  deriving DecidableEq, Repr

structure Context where
  cluster : String
  user : Option String := none
  deriving DecidableEq, Repr

/-- An entry of a list, by name. -/
structure Entry (α : Type) where
  name : String
  body : Option α := none
  deriving DecidableEq, Repr

/-- The body of the first entry of a name. -/
def find? {α : Type} (entries : List (Entry α)) (name : String) : Option α :=
  (entries.find? fun entry ↦ entry.name = name).bind Entry.body

end Kubeconfig

structure Kubeconfig where
  clusters : List (Kubeconfig.Entry Kubeconfig.Cluster) := []
  users : List (Kubeconfig.Entry Kubeconfig.User) := []
  contexts : List (Kubeconfig.Entry Kubeconfig.Context) := []
  current : Option String := none
  kind : Option String := none
  version : Option String := none
  deriving DecidableEq, Repr

namespace Kubeconfig

def Cluster.below (directory : String) (cluster : Cluster) : Cluster :=
  { cluster with authority := cluster.authority.below directory }

def User.below (directory : String) (user : User) : User :=
  { user with
    tokenFile := user.tokenFile.map (Path.join directory)
    certificate := user.certificate.below directory
    key := user.key.below directory }

def Entry.map {α β : Type} (f : α → β) (entry : Entry α) : Entry β :=
  ⟨entry.name, entry.body.map f⟩

/-- The kubeconfig with its paths taken from a directory. -/
def below (directory : String) (config : Kubeconfig) : Kubeconfig :=
  { config with
    clusters := config.clusters.map (Entry.map (Cluster.below directory))
    users := config.users.map (Entry.map (User.below directory)) }

/-- The entries with those of other names behind them. -/
def extend {α : Type} (entries others : List (Entry α)) : List (Entry α) :=
  others.foldl
    (fun entries other ↦
      if entries.any fun entry ↦ entry.name = other.name then entries else entries ++ [other])
    entries

/-- In what two kubeconfigs differ that cannot be one. -/
inductive Clash where
  | kind
  | version
  deriving DecidableEq, Repr

def Clash.text : Clash → String
  | .kind => "kind"
  | .version => "api version"

/-- Two kubeconfigs as one in which the first one counts, unless they state different kinds or
versions. -/
def merge (config other : Kubeconfig) : Except Clash Kubeconfig :=
  let differ (first second : Option String) : Bool :=
    first.isSome && second.isSome && first ≠ second
  if differ config.kind other.kind then .error .kind
  else if differ config.version other.version then .error .version
  else
    .ok
      { clusters := extend config.clusters other.clusters
        users := extend config.users other.users
        contexts := extend config.contexts other.contexts
        current := config.current.or other.current
        kind := config.kind.or other.kind
        version := config.version.or other.version }

end Kubeconfig

end OverlayGateway
