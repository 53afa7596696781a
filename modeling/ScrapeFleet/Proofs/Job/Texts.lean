/-
# ScrapeFleet.Proofs.Job.Texts — the texts of a job

A job with a function applied to every text in it, keys of maps among them. Numbers, durations, truth values
and names of roles and actions are no texts. A job whose texts are left alone is the job.
-/
import ScrapeFleet.Job.Basic
import ScrapeFleet.Proofs.Dict

namespace ScrapeFleet

/-- A map with its keys and values changed; of two keys that become one the later counts. -/
def Dict.mapEntries {κ κ' α β : Type} [Ordered κ] [Ordered κ'] (f : κ → κ') (g : α → β) (m : Dict κ α) :
    Dict κ' β :=
  Dict.ofList (m.toList.map fun e => (f e.1, g e.2))

/-- Nothing changes where keys and values are left alone. -/
@[simp] theorem Dict.mapEntries_id {κ α : Type} [Ordered κ] (m : Dict κ α) : m.mapEntries id id = m := by
  simp [Dict.mapEntries]

namespace Job

variable (f : String → String)

def BasicAuth.mapTexts (a : BasicAuth) : BasicAuth where
  username := f a.username
  password := a.password.map f

def Authorization.mapTexts (a : Authorization) : Authorization where
  type := a.type.map f
  credentials := a.credentials.map f

def OAuth2.mapTexts (a : OAuth2) : OAuth2 where
  clientId := f a.clientId
  clientSecret := a.clientSecret.map f
  tokenUrl := f a.tokenUrl
  scopes := a.scopes.map f
  endpointParams := a.endpointParams.mapEntries f f

def TlsConfig.mapTexts (t : TlsConfig) : TlsConfig where
  ca := t.ca.map f
  cert := t.cert.map f
  key := t.key.map f
  caFile := t.caFile.map f
  certFile := t.certFile.map f
  keyFile := t.keyFile.map f
  serverName := t.serverName.map f
  insecureSkipVerify := t.insecureSkipVerify

def HttpClient.mapTexts (c : HttpClient) : HttpClient where
  basicAuth := c.basicAuth.map (·.mapTexts f)
  authorization := c.authorization.map (·.mapTexts f)
  oauth2 := c.oauth2.map (·.mapTexts f)
  tlsConfig := c.tlsConfig.map (·.mapTexts f)
  proxyUrl := c.proxyUrl.map f
  followRedirects := c.followRedirects
  enableHttp2 := c.enableHttp2

def NamespaceDiscovery.mapTexts (n : NamespaceDiscovery) : NamespaceDiscovery where
  ownNamespace := n.ownNamespace
  names := n.names.map f

def KubernetesDiscovery.mapTexts (k : KubernetesDiscovery) : KubernetesDiscovery where
  role := k.role
  namespaces := k.namespaces.map (·.mapTexts f)

def StaticTargets.mapTexts (s : StaticTargets) : StaticTargets where
  targets := s.targets.map f
  labels := s.labels.mapEntries f f

def HttpDiscovery.mapTexts (h : HttpDiscovery) : HttpDiscovery where
  url := f h.url
  refreshInterval := h.refreshInterval
  client := h.client.mapTexts f

end Job

def Relabel.Rule.mapTexts (f : String → String) (r : Relabel.Rule) : Relabel.Rule where
  sourceLabels := r.sourceLabels.map f
  separator := r.separator.map f
  targetLabel := r.targetLabel.map f
  regex := r.regex.map f
  modulus := r.modulus
  replacement := r.replacement.map f
  action := r.action

/-- A job with every text in it changed. -/
def ScrapeJob.mapTexts (f : String → String) (j : ScrapeJob) : ScrapeJob where
  name := f j.name
  honorLabels := j.honorLabels
  honorTimestamps := j.honorTimestamps
  params := j.params.mapEntries f (·.map f)
  scrapeInterval := j.scrapeInterval
  scrapeTimeout := j.scrapeTimeout
  metricsPath := j.metricsPath.map f
  scheme := j.scheme.map f
  sampleLimit := j.sampleLimit
  targetLimit := j.targetLimit
  client := j.client.mapTexts f
  kubernetes := j.kubernetes.map (·.mapTexts f)
  static := j.static.map (·.mapTexts f)
  http := j.http.map (·.mapTexts f)
  relabel := j.relabel.map (·.mapTexts f)
  metricRelabel := j.metricRelabel.map (·.mapTexts f)

/-! ## Texts that are left alone -/

namespace Job

@[simp] theorem BasicAuth.mapTexts_id (a : BasicAuth) : a.mapTexts id = a := by
  simp [mapTexts]

@[simp] theorem Authorization.mapTexts_id (a : Authorization) : a.mapTexts id = a := by
  simp [mapTexts]

@[simp] theorem OAuth2.mapTexts_id (a : OAuth2) : a.mapTexts id = a := by
  simp [mapTexts]

@[simp] theorem TlsConfig.mapTexts_id (t : TlsConfig) : t.mapTexts id = t := by
  simp [mapTexts]

@[simp] theorem HttpClient.mapTexts_id (c : HttpClient) : c.mapTexts id = c := by
  simp [mapTexts]

@[simp] theorem NamespaceDiscovery.mapTexts_id (n : NamespaceDiscovery) : n.mapTexts id = n := by
  simp [mapTexts]

@[simp] theorem KubernetesDiscovery.mapTexts_id (k : KubernetesDiscovery) : k.mapTexts id = k := by
  simp [mapTexts]

@[simp] theorem StaticTargets.mapTexts_id (s : StaticTargets) : s.mapTexts id = s := by
  simp [mapTexts]

@[simp] theorem HttpDiscovery.mapTexts_id (h : HttpDiscovery) : h.mapTexts id = h := by
  simp [mapTexts]

end Job

@[simp] theorem Relabel.Rule.mapTexts_id (r : Relabel.Rule) : r.mapTexts id = r := by
  simp [mapTexts]

@[simp] theorem ScrapeJob.mapTexts_id (j : ScrapeJob) : j.mapTexts id = j := by
  have hparams : j.params.mapEntries id (·.map id) = j.params := by
    rw [show (fun vs : List String => vs.map id) = id from funext List.map_id, Dict.mapEntries_id]
  simp only [mapTexts, hparams]
  simp

end ScrapeFleet
