/-
# ScrapeFleet.Monitor.Reference — credentials by reference

Monitors do not contain credentials; they say where the credentials are. A reference names a key of a
secret, or of a config map, in the namespace of the monitor.
-/
import ScrapeFleet.Document.Doc
import ScrapeFleet.Document.Value
import ScrapeFleet.Job.Client

namespace ScrapeFleet.Monitor

open Job (readDict)

/-- A key of a secret. -/
structure SecretKey where
  name : String
  key : String
  optional : Option Bool := none
deriving DecidableEq, Repr, Inhabited

namespace SecretKey

def read (d : Doc) : Option SecretKey := do
  let fs ← d.fields? ["name", "key", "optional"]
  return {
    name := ← fs.required "name" Doc.text?
    key := ← fs.required "key" Doc.text?
    optional := ← fs.optional "optional" Doc.bool? }

def write (r : SecretKey) : Value := .record <|
  Value.field "name" (.text r.name) ++ Value.field "key" (.text r.key)
    ++ Value.optional "optional" .bool r.optional

end SecretKey

/-- A key of a config map. -/
structure ConfigMapKey where
  name : String
  key : String
deriving DecidableEq, Repr, Inhabited

namespace ConfigMapKey

def read (d : Doc) : Option ConfigMapKey := do
  let fs ← d.fields? ["name", "key"]
  return { name := ← fs.required "name" Doc.text?, key := ← fs.required "key" Doc.text? }

def write (r : ConfigMapKey) : Value := .record <|
  Value.field "name" (.text r.name) ++ Value.field "key" (.text r.key)

end ConfigMapKey

/-- A key of a secret or of a config map; the secret counts if both are named. -/
structure KeySource where
  secret : Option SecretKey := none
  configMap : Option ConfigMapKey := none
deriving DecidableEq, Repr, Inhabited

namespace KeySource

def read (d : Doc) : Option KeySource := do
  let fs ← d.fields? ["secret", "configMap"]
  return {
    secret := ← fs.optional "secret" SecretKey.read
    configMap := ← fs.optional "configMap" ConfigMapKey.read }

def write (r : KeySource) : Value := .record <|
  Value.optional "secret" SecretKey.write r.secret
    ++ Value.optional "configMap" ConfigMapKey.write r.configMap

end KeySource

/-! ## Credentials -/

/-- References to a user name and a password. -/
structure BasicAuth where
  username : Option SecretKey := none
  password : Option SecretKey := none
deriving DecidableEq, Repr, Inhabited

namespace BasicAuth

def read (d : Doc) : Option BasicAuth := do
  let fs ← d.fields? ["username", "password"]
  return {
    username := ← fs.optional "username" SecretKey.read
    password := ← fs.optional "password" SecretKey.read }

def write (a : BasicAuth) : Value := .record <|
  Value.optional "username" SecretKey.write a.username
    ++ Value.optional "password" SecretKey.write a.password

end BasicAuth

/-- An authorization header whose credentials are a reference. -/
structure Authorization where
  type : Option String := none
  credentials : Option SecretKey := none
deriving DecidableEq, Repr, Inhabited

namespace Authorization

def read (d : Doc) : Option Authorization := do
  let fs ← d.fields? ["type", "credentials"]
  return {
    type := ← fs.optional "type" Doc.text?
    credentials := ← fs.optional "credentials" SecretKey.read }

def write (a : Authorization) : Value := .record <|
  Value.optional "type" .text a.type ++ Value.optional "credentials" SecretKey.write a.credentials

end Authorization

/-- A client of an authorization server whose identity and secret are references. -/
structure OAuth2 where
  clientId : KeySource
  clientSecret : SecretKey
  tokenUrl : String
  scopes : List String := []
  endpointParams : Dict String String := .empty
deriving DecidableEq, Repr, Inhabited

namespace OAuth2

def read (d : Doc) : Option OAuth2 := do
  let fs ← d.fields? ["clientId", "clientSecret", "tokenUrl", "scopes", "endpointParams"]
  return {
    clientId := ← fs.required "clientId" KeySource.read
    clientSecret := ← fs.required "clientSecret" SecretKey.read
    tokenUrl := ← fs.required "tokenUrl" Doc.text?
    scopes := ← fs.list "scopes" Doc.text?
    endpointParams := ← fs.withDefault "endpointParams" .empty (readDict Doc.text?) }

def write (a : OAuth2) : Value := .record <|
  Value.field "clientId" a.clientId.write
    ++ Value.field "clientSecret" a.clientSecret.write
    ++ Value.field "tokenUrl" (.text a.tokenUrl)
    ++ Value.unlessEmpty "scopes" .text a.scopes
    ++ Value.entries "endpointParams" .text a.endpointParams.toList

end OAuth2

/-! ## TLS -/

/-- TLS settings whose material is a reference. -/
structure TlsConfig where
  ca : Option KeySource := none
  cert : Option KeySource := none
  keySecret : Option SecretKey := none
  serverName : Option String := none
  insecureSkipVerify : Option Bool := none
deriving DecidableEq, Repr, Inhabited

namespace TlsConfig

def fieldNames : List String := ["ca", "cert", "keySecret", "serverName", "insecureSkipVerify"]

/-- Reads the settings from their fields. -/
def readFields (fs : Doc.Fields) : Option TlsConfig := do
  return {
    ca := ← fs.optional "ca" KeySource.read
    cert := ← fs.optional "cert" KeySource.read
    keySecret := ← fs.optional "keySecret" SecretKey.read
    serverName := ← fs.optional "serverName" Doc.text?
    insecureSkipVerify := ← fs.optional "insecureSkipVerify" Doc.bool? }

def read (d : Doc) : Option TlsConfig := (d.fields? fieldNames).bind readFields

/-- The fields as they are written. -/
def writeFields (t : TlsConfig) : List (String × Value) :=
  Value.optional "ca" KeySource.write t.ca
    ++ Value.optional "cert" KeySource.write t.cert
    ++ Value.optional "keySecret" SecretKey.write t.keySecret
    ++ Value.optional "serverName" .text t.serverName
    ++ Value.optional "insecureSkipVerify" .bool t.insecureSkipVerify

def write (t : TlsConfig) : Value := .record t.writeFields

end TlsConfig

/-- TLS settings that may also name files where the collector runs. -/
structure FileTlsConfig where
  material : TlsConfig := {}
  caFile : Option String := none
  certFile : Option String := none
  keyFile : Option String := none
deriving DecidableEq, Repr, Inhabited

namespace FileTlsConfig

def read (d : Doc) : Option FileTlsConfig := do
  let (fs, material) ← d.splitFields? ["caFile", "certFile", "keyFile"] TlsConfig.fieldNames
  return {
    material := ← TlsConfig.readFields material
    caFile := ← fs.optional "caFile" Doc.text?
    certFile := ← fs.optional "certFile" Doc.text?
    keyFile := ← fs.optional "keyFile" Doc.text? }

def write (t : FileTlsConfig) : Value := .record <|
  t.material.writeFields
    ++ Value.optional "caFile" .text t.caFile
    ++ Value.optional "certFile" .text t.certFile
    ++ Value.optional "keyFile" .text t.keyFile

end FileTlsConfig

end ScrapeFleet.Monitor
