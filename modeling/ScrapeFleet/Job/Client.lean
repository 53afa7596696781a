/-
# ScrapeFleet.Job.Client — how a scrape job talks to its targets

Credentials, TLS and the few other settings of an HTTP client. Credentials are carried in the clear:
whoever applies a job needs them. What is shown to people never contains them.
-/
import ScrapeFleet.Dict
import ScrapeFleet.Document.Doc
import ScrapeFleet.Document.Value
import ScrapeFleet.Text.Shown

namespace ScrapeFleet.Job

open Text (Shown)

/-- A map from text to values, read in any order. -/
def readDict {α : Type} (read : Doc → Option α) (d : Doc) : Option (Dict String α) :=
  (d.map? read).map Dict.ofList

/-- What stands for a credential when it is shown. -/
def hiddenMark : String := "<secret>"

/-- Shows that a credential is there, and nothing of it. -/
def hidden (o : Option String) : Shown := .option (fun _ => .text hiddenMark) o

/-! ## Credentials -/

/-- A user name and a password. -/
structure BasicAuth where
  username : String
  password : Option String := none
deriving DecidableEq, Repr, Inhabited

namespace BasicAuth

def read (d : Doc) : Option BasicAuth := do
  let fs ← d.fields? ["username", "password"]
  return { username := ← fs.required "username" Doc.text?, password := ← fs.optional "password" Doc.text? }

def write (a : BasicAuth) : Value := .record <|
  Value.field "username" (.text a.username) ++ Value.optional "password" .text a.password

def shown (a : BasicAuth) : Shown :=
  .struct "BasicAuth" [("username", .text a.username), ("password", hidden a.password)]

end BasicAuth

/-- The authorization header: its type and its credentials. -/
structure Authorization where
  type : Option String := none
  credentials : Option String := none
deriving DecidableEq, Repr, Inhabited

namespace Authorization

/-- A bearer token. -/
def bearer (token : String) : Authorization := ⟨some "Bearer", some token⟩

def read (d : Doc) : Option Authorization := do
  let fs ← d.fields? ["type", "credentials"]
  return { type := ← fs.optional "type" Doc.text?, credentials := ← fs.optional "credentials" Doc.text? }

def write (a : Authorization) : Value := .record <|
  Value.optional "type" .text a.type ++ Value.optional "credentials" .text a.credentials

def shown (a : Authorization) : Shown :=
  .struct "Authorization" [("type", .option .text a.type), ("credentials", hidden a.credentials)]

end Authorization

/-- A client of an authorization server. -/
structure OAuth2 where
  clientId : String
  clientSecret : Option String := none
  tokenUrl : String
  scopes : List String := []
  endpointParams : Dict String String := .empty
deriving DecidableEq, Repr, Inhabited

namespace OAuth2

def read (d : Doc) : Option OAuth2 := do
  let fs ← d.fields? ["client_id", "client_secret", "token_url", "scopes", "endpoint_params"]
  return {
    clientId := ← fs.required "client_id" Doc.text?
    clientSecret := ← fs.optional "client_secret" Doc.text?
    tokenUrl := ← fs.required "token_url" Doc.text?
    scopes := ← fs.list "scopes" Doc.text?
    endpointParams := ← fs.withDefault "endpoint_params" .empty (readDict Doc.text?) }

def write (a : OAuth2) : Value := .record <|
  Value.field "client_id" (.text a.clientId)
    ++ Value.optional "client_secret" .text a.clientSecret
    ++ Value.field "token_url" (.text a.tokenUrl)
    ++ Value.unlessEmpty "scopes" .text a.scopes
    ++ Value.entries "endpoint_params" .text a.endpointParams.toList

/-- The parameters of the endpoint may hold credentials and are not shown. -/
def shown (a : OAuth2) : Shown :=
  .struct "OAuth2"
    [("client_id", .text a.clientId), ("client_secret", hidden a.clientSecret),
      ("token_url", .text a.tokenUrl), ("scopes", .list (a.scopes.map .text))]

end OAuth2

/-- TLS settings: material in the clear, or paths of files where the job runs. -/
structure TlsConfig where
  ca : Option String := none
  cert : Option String := none
  key : Option String := none
  caFile : Option String := none
  certFile : Option String := none
  keyFile : Option String := none
  serverName : Option String := none
  insecureSkipVerify : Option Bool := none
deriving DecidableEq, Repr, Inhabited

namespace TlsConfig

def read (d : Doc) : Option TlsConfig := do
  let fs ← d.fields? ["ca", "cert", "key", "ca_file", "cert_file", "key_file", "server_name",
    "insecure_skip_verify"]
  return {
    ca := ← fs.optional "ca" Doc.text?
    cert := ← fs.optional "cert" Doc.text?
    key := ← fs.optional "key" Doc.text?
    caFile := ← fs.optional "ca_file" Doc.text?
    certFile := ← fs.optional "cert_file" Doc.text?
    keyFile := ← fs.optional "key_file" Doc.text?
    serverName := ← fs.optional "server_name" Doc.text?
    insecureSkipVerify := ← fs.optional "insecure_skip_verify" Doc.bool? }

def write (t : TlsConfig) : Value := .record <|
  Value.optional "ca" .text t.ca
    ++ Value.optional "cert" .text t.cert
    ++ Value.optional "key" .text t.key
    ++ Value.optional "ca_file" .text t.caFile
    ++ Value.optional "cert_file" .text t.certFile
    ++ Value.optional "key_file" .text t.keyFile
    ++ Value.optional "server_name" .text t.serverName
    ++ Value.optional "insecure_skip_verify" .bool t.insecureSkipVerify

def shown (t : TlsConfig) : Shown :=
  .struct "TlsConfig"
    [("ca", .bool t.ca.isSome), ("cert", .bool t.cert.isSome), ("key", hidden t.key),
      ("ca_file", .option .text t.caFile), ("cert_file", .option .text t.certFile),
      ("key_file", .option .text t.keyFile), ("server_name", .option .text t.serverName),
      ("insecure_skip_verify", .option .bool t.insecureSkipVerify)]

end TlsConfig

/-! ## The client -/

/-- The HTTP client settings of a job or of a discovery endpoint. They have no record of their own:
their fields stand among those of the owner. -/
structure HttpClient where
  basicAuth : Option BasicAuth := none
  authorization : Option Authorization := none
  oauth2 : Option OAuth2 := none
  tlsConfig : Option TlsConfig := none
  proxyUrl : Option String := none
  followRedirects : Option Bool := none
  enableHttp2 : Option Bool := none
deriving DecidableEq, Repr, Inhabited

namespace HttpClient

/-- The names of the fields. -/
def fieldNames : List String :=
  ["basic_auth", "authorization", "oauth2", "tls_config", "proxy_url", "follow_redirects",
    "enable_http2"]

/-- Reads the settings from the settled fields of their owner. -/
def readFields (fs : Doc.Fields) : Option HttpClient := do
  return {
    basicAuth := ← fs.optional "basic_auth" BasicAuth.read
    authorization := ← fs.optional "authorization" Authorization.read
    oauth2 := ← fs.optional "oauth2" OAuth2.read
    tlsConfig := ← fs.optional "tls_config" TlsConfig.read
    proxyUrl := ← fs.optional "proxy_url" Doc.text?
    followRedirects := ← fs.optional "follow_redirects" Doc.bool?
    enableHttp2 := ← fs.optional "enable_http2" Doc.bool? }

/-- The fields as written among those of their owner. -/
def writeFields (c : HttpClient) : List (String × Value) :=
  Value.optional "basic_auth" BasicAuth.write c.basicAuth
    ++ Value.optional "authorization" Authorization.write c.authorization
    ++ Value.optional "oauth2" OAuth2.write c.oauth2
    ++ Value.optional "tls_config" TlsConfig.write c.tlsConfig
    ++ Value.optional "proxy_url" .text c.proxyUrl
    ++ Value.optional "follow_redirects" .bool c.followRedirects
    ++ Value.optional "enable_http2" .bool c.enableHttp2

def shown (c : HttpClient) : Shown :=
  .struct "HttpClientConfig"
    [("basic_auth", .option BasicAuth.shown c.basicAuth),
      ("authorization", .option Authorization.shown c.authorization),
      ("oauth2", .option OAuth2.shown c.oauth2), ("tls_config", .option TlsConfig.shown c.tlsConfig),
      ("proxy_url", .option .text c.proxyUrl), ("follow_redirects", .option .bool c.followRedirects),
      ("enable_http2", .option .bool c.enableHttp2)]

end HttpClient

end ScrapeFleet.Job
