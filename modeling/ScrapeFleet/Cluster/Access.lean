/-
# ScrapeFleet.Cluster.Access — how to reach a cluster

Access is described by named clusters, named users, and named contexts that pair one of each; one context
is the current one. Descriptions from several documents are put together, the first of each name wins.
-/
import ScrapeFleet.Http.Uri
import ScrapeFleet.Yaml.Reader

namespace ScrapeFleet.Cluster

/-- A cluster and a user that go together. -/
structure AccessContext where
  cluster : String
  user : Option String := none
deriving DecidableEq, Repr, Inhabited

/-- What is known of clusters and how to reach them. A name may stand for nothing. -/
structure Access where
  /-- The servers of the clusters. -/
  clusters : List (String × Option (Option String)) := []
  users : List (String × Option Unit) := []
  contexts : List (String × Option AccessContext) := []
  current : Option String := none
deriving Repr, Inhabited

namespace Access

/-- Reads something that has a name. -/
def readNamed {α : Type} (part : String) (read : Doc → Option α) (d : Doc) :
    Option (String × Option α) := do
  let fs ← d.fields? ["name", part]
  return (← fs.required "name" Doc.text?, ← fs.optional part read)

/-- Reads the server of a cluster. -/
def readCluster (d : Doc) : Option (Option String) := do
  let texts := ["certificate-authority", "certificate-authority-data", "proxy-url", "tls-server-name"]
  let flags := ["insecure-skip-tls-verify", "disable-compression"]
  let fs ← d.recordFields? ("server" :: texts ++ flags)
  let _ ← texts.mapM fun name => fs.optional name Doc.text?
  let _ ← flags.mapM fun name => fs.optional name Doc.bool?
  fs.optional "server" Doc.text?

/-- Reads what is known of a user. -/
def readUser (d : Doc) : Option Unit := do
  let texts := ["username", "password", "token", "tokenFile", "client-certificate",
    "client-certificate-data", "client-key", "client-key-data", "as"]
  let fs ← d.recordFields? texts
  let _ ← texts.mapM fun name => fs.optional name Doc.text?
  return

/-- Reads a context. -/
def readContext (d : Doc) : Option AccessContext := do
  let fs ← d.recordFields? ["cluster", "user", "namespace"]
  let _ ← fs.optional "namespace" Doc.text?
  return { cluster := ← fs.required "cluster" Doc.text?, user := ← fs.optional "user" Doc.text? }

/-- Reads a description of access. -/
def read (d : Doc) : Option Access := do
  let fs ← d.recordFields? ["clusters", "users", "contexts", "current-context", "kind", "apiVersion"]
  let _ ← fs.optional "kind" Doc.text?
  let _ ← fs.optional "apiVersion" Doc.text?
  let named {α : Type} (name part : String) (read : Doc → Option α) :
      Option (List (String × Option α)) :=
    (fs.optional name (Doc.list? (readNamed part read))).map (·.getD [])
  return {
    clusters := ← named "clusters" "cluster" readCluster
    users := ← named "users" "user" readUser
    contexts := ← named "contexts" "context" readContext
    current := ← fs.optional "current-context" Doc.text? }

/-- Reads a document of access. -/
def ofDocument? (text : String) : Option Access :=
  (Yaml.read? text).bind (·.settle?) |>.bind read

/-- Named things, and those further ones that have other names. -/
def appendNew {α : Type} (xs ys : List (String × α)) : List (String × α) :=
  xs ++ ys.filter fun y => !xs.any (·.1 == y.1)

/-- Puts two descriptions together. -/
def merge (a b : Access) : Access where
  clusters := appendNew a.clusters b.clusters
  users := appendNew a.users b.users
  contexts := appendNew a.contexts b.contexts
  current := a.current.orElse fun _ => b.current

/-- The server that the current context leads to. -/
def server? (a : Access) : Option Http.Uri := do
  let context ← (← a.contexts.lookup (← a.current))
  if let some user := context.user then
    let _ ← (← a.users.lookup user)
  let server ← (← (← a.clusters.lookup context.cluster))
  (Http.Uri.parse server).toOption

end Access

end ScrapeFleet.Cluster
