/-
# ScrapeFleet.Monitor.Endpoint — what to scrape and how

The endpoints of service monitors and pod monitors. Both share all settings of the scrape; they differ
in whether TLS settings may name files.
-/
import ScrapeFleet.Monitor.Reference
import ScrapeFleet.Monitor.RelabelRule

namespace ScrapeFleet.Monitor

open Job (readDict)

/-- In which namespaces a monitor looks for targets. -/
structure NamespaceChoice where
  any : Bool := false
  names : List String := []
deriving DecidableEq, Repr, Inhabited

namespace NamespaceChoice

def read (d : Doc) : Option NamespaceChoice := do
  let fs ← d.fields? ["any", "matchNames"]
  return {
    any := ← fs.withDefault "any" false Doc.bool?
    names := ← fs.list "matchNames" Doc.text? }

def write (c : NamespaceChoice) : Value := .record <|
  Value.field "any" (.bool c.any) ++ Value.unlessEmpty "matchNames" .text c.names

end NamespaceChoice

/-- A port by number or by name. -/
inductive PortTarget where
  | number (n : Int)
  | name (s : String)
deriving DecidableEq, Repr, Inhabited

namespace PortTarget

/-- Reads a port; a number has 32 bits and a sign. -/
def read : Doc → Option PortTarget
  | .int n => if -(Int.pow 2 31) ≤ n ∧ n < Int.pow 2 31 then some (.number n) else none
  | .text s => some (.name s)
  | _ => none

def write : PortTarget → Value
  | .number n => .int n
  | .name s => .text s

end PortTarget

/-- The settings of a scrape. -/
structure ScrapeSettings where
  path : Option String := none
  scheme : Option String := none
  params : Dict String (List String) := .empty
  interval : Option String := none
  scrapeTimeout : Option String := none
  honorLabels : Option Bool := none
  honorTimestamps : Option Bool := none
  bearerTokenSecret : Option SecretKey := none
  basicAuth : Option BasicAuth := none
  oauth2 : Option OAuth2 := none
  authorization : Option Authorization := none
  relabelings : List RelabelRule := []
  metricRelabelings : List RelabelRule := []
  proxyUrl : Option String := none
  followRedirects : Option Bool := none
  enableHttp2 : Option Bool := none
deriving DecidableEq, Repr, Inhabited

namespace ScrapeSettings

def fieldNames : List String :=
  ["path", "scheme", "params", "interval", "scrapeTimeout", "honorLabels", "honorTimestamps",
    "bearerTokenSecret", "basicAuth", "oauth2", "authorization", "relabelings",
    "metricRelabelings", "proxyUrl", "followRedirects", "enableHttp2"]

/-- Reads the settings from the settled fields of their endpoint. -/
def readFields (fs : Doc.Fields) : Option ScrapeSettings := do
  return {
    path := ← fs.optional "path" Doc.text?
    scheme := ← fs.optional "scheme" Doc.text?
    params := ← fs.withDefault "params" .empty (readDict (Doc.list? Doc.text?))
    interval := ← fs.optional "interval" Doc.text?
    scrapeTimeout := ← fs.optional "scrapeTimeout" Doc.text?
    honorLabels := ← fs.optional "honorLabels" Doc.bool?
    honorTimestamps := ← fs.optional "honorTimestamps" Doc.bool?
    bearerTokenSecret := ← fs.optional "bearerTokenSecret" SecretKey.read
    basicAuth := ← fs.optional "basicAuth" BasicAuth.read
    oauth2 := ← fs.optional "oauth2" OAuth2.read
    authorization := ← fs.optional "authorization" Authorization.read
    relabelings := ← fs.list "relabelings" RelabelRule.read
    metricRelabelings := ← fs.list "metricRelabelings" RelabelRule.read
    proxyUrl := ← fs.optional "proxyUrl" Doc.text?
    followRedirects := ← fs.optional "followRedirects" Doc.bool?
    enableHttp2 := ← fs.optional "enableHttp2" Doc.bool? }

/-- The fields as written among those of the endpoint. -/
def writeFields (s : ScrapeSettings) : List (String × Value) :=
  Value.optional "path" .text s.path
    ++ Value.optional "scheme" .text s.scheme
    ++ Value.entries "params" .texts s.params.toList
    ++ Value.optional "interval" .text s.interval
    ++ Value.optional "scrapeTimeout" .text s.scrapeTimeout
    ++ Value.optional "honorLabels" .bool s.honorLabels
    ++ Value.optional "honorTimestamps" .bool s.honorTimestamps
    ++ Value.optional "bearerTokenSecret" SecretKey.write s.bearerTokenSecret
    ++ Value.optional "basicAuth" BasicAuth.write s.basicAuth
    ++ Value.optional "oauth2" OAuth2.write s.oauth2
    ++ Value.optional "authorization" Authorization.write s.authorization
    ++ Value.unlessEmpty "relabelings" RelabelRule.write s.relabelings
    ++ Value.unlessEmpty "metricRelabelings" RelabelRule.write s.metricRelabelings
    ++ Value.optional "proxyUrl" .text s.proxyUrl
    ++ Value.optional "followRedirects" .bool s.followRedirects
    ++ Value.optional "enableHttp2" .bool s.enableHttp2

end ScrapeSettings

/-- An endpoint: a port, TLS settings of the type `τ`, and the settings of the scrape. -/
structure Endpoint (τ : Type) where
  port : Option String := none
  targetPort : Option PortTarget := none
  tlsConfig : Option τ := none
  scrape : ScrapeSettings := {}
deriving DecidableEq, Repr, Inhabited

namespace Endpoint

variable {τ : Type}

def read (readTls : Doc → Option τ) (d : Doc) : Option (Endpoint τ) := do
  let (fs, scrape) ← d.splitFields? ["port", "targetPort", "tlsConfig"] ScrapeSettings.fieldNames
  return {
    port := ← fs.optional "port" Doc.text?
    targetPort := ← fs.optional "targetPort" PortTarget.read
    tlsConfig := ← fs.optional "tlsConfig" readTls
    scrape := ← ScrapeSettings.readFields scrape }

def write (writeTls : τ → Value) (e : Endpoint τ) : Value := .record <|
  Value.optional "port" .text e.port
    ++ Value.optional "targetPort" PortTarget.write e.targetPort
    ++ Value.optional "tlsConfig" writeTls e.tlsConfig
    ++ e.scrape.writeFields

end Endpoint

end ScrapeFleet.Monitor
