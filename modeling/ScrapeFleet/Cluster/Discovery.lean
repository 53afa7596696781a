/-
# ScrapeFleet.Cluster.Discovery — which kinds a cluster serves

An optional kind is served if its group and version are among those of the cluster, and the kind is among
the resources that are listed for them. A cluster that does not answer, or not in the right form, fails
the discovery as a whole: a kind must not be missed only because it could not be asked for.
-/
import ScrapeFleet.Cluster.Metadata

namespace ScrapeFleet.Cluster

/-- A part of a record that counts as its default where it is absent or null. -/
def orDefault {α : Type} (fs : Doc.Fields) (name : String) (default : α) (read : Doc → Option α) :
    Option α :=
  (fs.optional name read).map (·.getD default)

/-! ## Groups -/

/-- A group of kinds, with the versions that are served of it. -/
structure ApiGroup where
  name : String
  groupVersions : List String
deriving DecidableEq, Repr, Inhabited

namespace ApiGroup

/-- Reads a version of a group. -/
def readVersion (d : Doc) : Option String := do
  let fs ← d.recordFields? ["groupVersion", "version"]
  let _ ← orDefault fs "version" "" Doc.text?
  orDefault fs "groupVersion" "" Doc.text?

/-- Reads an address at which a group is served to some clients. -/
def readServer (d : Doc) : Option Unit := do
  let fs ← d.recordFields? ["clientCIDR", "serverAddress"]
  let _ ← orDefault fs "clientCIDR" "" Doc.text?
  let _ ← orDefault fs "serverAddress" "" Doc.text?
  return

/-- Reads a group. -/
def read (d : Doc) : Option ApiGroup := do
  let fs ← d.recordFields? ["apiVersion", "kind", "name", "preferredVersion",
    "serverAddressByClientCIDRs", "versions"]
  checkHeader fs "v1" "APIGroup"
  let _ ← fs.optional "preferredVersion" readVersion
  let _ ← fs.optional "serverAddressByClientCIDRs" (Doc.list? readServer)
  return {
    name := ← orDefault fs "name" "" Doc.text?
    groupVersions := ← orDefault fs "versions" [] (Doc.list? readVersion) }

/-- Reads the groups of a cluster. -/
def readAll (d : Doc) : Option (List ApiGroup) := do
  let fs ← d.recordFields? ["apiVersion", "kind", "groups"]
  checkHeader fs "v1" "APIGroupList"
  orDefault fs "groups" [] (Doc.list? read)

end ApiGroup

/-- The group of the monitors is served in a version. -/
def serves (groups : List ApiGroup) (groupVersion : String) : Bool :=
  groups.any fun g => g.name == Kind.monitorGroup && g.groupVersions.contains groupVersion

/-! ## Resources -/

/-- Reads the name of a resource. -/
def readResource (d : Doc) : Option String := do
  let texts := ["group", "kind", "singularName", "storageVersionHash", "version"]
  let lists := ["categories", "shortNames", "verbs"]
  let fs ← d.recordFields? ("name" :: "namespaced" :: texts ++ lists)
  let _ ← texts.mapM fun name => fs.optional name Doc.text?
  let _ ← lists.mapM fun name => fs.optional name (Doc.list? Doc.text?)
  let _ ← fs.optional "namespaced" Doc.bool?
  orDefault fs "name" "" Doc.text?

/-- Reads the names of the resources that are listed for a group and version. -/
def readResources (d : Doc) : Option (List String) := do
  let fs ← d.recordFields? ["apiVersion", "kind", "groupVersion", "resources"]
  checkHeader fs "v1" "APIResourceList"
  let _ ← fs.optional "groupVersion" Doc.text?
  orDefault fs "resources" [] (Doc.list? readResource)

/-! ## Discovery -/

/-- The optional kinds that are served, and the paths that were asked for. -/
structure Discovery where
  installed : List Kind := []
  asked : List String := []
deriving DecidableEq, Repr, Inhabited

namespace Discovery

/-- Asks for the resources of one kind's group and version. -/
def askFor (get : String → Option Doc) (groups : List ApiGroup) (found : Discovery) (k : Kind) :
    Option Discovery :=
  match k.groupVersion? with
  | none => some found
  | some groupVersion =>
    if !serves groups groupVersion then some found
    else
      let path := "/apis/" ++ groupVersion
      (get path).bind readResources |>.map fun names =>
        { installed := if names.contains k.plural then found.installed ++ [k] else found.installed
          asked := found.asked ++ [path] }

/-- Asks a cluster which of the optional kinds it serves. -/
def run (get : String → Option Doc) : Option Discovery := do
  let groups ← ApiGroup.readAll (← get "/apis")
  (Kind.monitors.filter (·.isOptional)).foldlM (askFor get groups) { asked := ["/apis"] }

end Discovery

end ScrapeFleet.Cluster
