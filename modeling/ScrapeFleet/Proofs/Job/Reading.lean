/-
# ScrapeFleet.Proofs.Job.Reading — reading back the jobs that were written

What is read from the document of a written job is the job, with what was filled in for its texts. This
holds of every document that shows what was written (`Doc.Shows`), so it holds of a document as it came and
of a settled one.
-/
import ScrapeFleet.Proofs.Document.Fields
import ScrapeFleet.Proofs.Duration
import ScrapeFleet.Proofs.Job.Texts

namespace ScrapeFleet

open Doc (Shows Steady shownFields)
open Job
open Value (Named named_field named_optional named_unlessEmpty named_entries)

variable {fill : String → String} {doc settled : Value → Doc}

namespace Job

/-! ## The client -/

theorem BasicAuth.read_shown (h : Shows fill doc) (hsteady : Steady fill) (a : BasicAuth) :
    BasicAuth.read (doc a.write) = some (a.mapTexts fill) := by
  obtain ⟨fs, hfs⟩ : ∃ fs, fs = Value.field "username" (.text a.username) ++
    Value.optional "password" .text a.password := ⟨_, rfl⟩
  have hnamed : Named fs ["username", "password"] := hfs ▸ (named_field _ _).append (named_optional _ _ _)
  have husername : fs.lookup "username" = some (.text a.username) := by simp [hfs, List.lookup_append]
  have hpassword : fs.lookup "password" = a.password.map .text := by simp [hfs, List.lookup_append]
  rw [read, write, ← hfs, Doc.fields?_shown h (hsteady.names (by decide)) (by decide) hnamed]
  simp only [h.requiredText husername, h.optionalText hpassword, Option.bind_eq_bind, Option.bind_some]
  rfl

theorem Authorization.read_shown (h : Shows fill doc) (hsteady : Steady fill) (a : Authorization) :
    Authorization.read (doc a.write) = some (a.mapTexts fill) := by
  obtain ⟨fs, hfs⟩ : ∃ fs, fs = Value.optional "type" .text a.type ++
    Value.optional "credentials" .text a.credentials := ⟨_, rfl⟩
  have hnamed : Named fs ["type", "credentials"] := hfs ▸ (named_optional _ _ _).append (named_optional _ _ _)
  have htype : fs.lookup "type" = a.type.map .text := by simp [hfs, List.lookup_append]
  have hcredentials : fs.lookup "credentials" = a.credentials.map .text := by simp [hfs, List.lookup_append]
  rw [read, write, ← hfs, Doc.fields?_shown h (hsteady.names (by decide)) (by decide) hnamed]
  simp only [h.optionalText htype, h.optionalText hcredentials, Option.bind_eq_bind, Option.bind_some]
  rfl

theorem OAuth2.read_shown (h : Shows fill doc) (hsteady : Steady fill) (a : OAuth2) :
    OAuth2.read (doc a.write) = some (a.mapTexts fill) := by
  obtain ⟨fs, hfs⟩ : ∃ fs, fs = Value.field "client_id" (.text a.clientId)
    ++ Value.optional "client_secret" .text a.clientSecret
    ++ Value.field "token_url" (.text a.tokenUrl)
    ++ Value.unlessEmpty "scopes" .text a.scopes
    ++ Value.entries "endpoint_params" .text a.endpointParams.toList := ⟨_, rfl⟩
  have hnamed : Named fs ["client_id", "client_secret", "token_url", "scopes", "endpoint_params"] :=
    hfs ▸ ((((named_field _ _).append (named_optional _ _ _)).append (named_field _ _)).append
      (named_unlessEmpty _ _ _)).append (named_entries _ _ _)
  have hid : fs.lookup "client_id" = some (.text a.clientId) := by simp [hfs, List.lookup_append]
  have hsecret : fs.lookup "client_secret" = a.clientSecret.map .text := by simp [hfs, List.lookup_append]
  have hurl : fs.lookup "token_url" = some (.text a.tokenUrl) := by simp [hfs, List.lookup_append]
  have hscopes : fs.lookup "scopes" =
      if a.scopes.isEmpty then none else some (.list (a.scopes.map .text)) := by simp [hfs, List.lookup_append]
  have hparams : fs.lookup "endpoint_params" = if a.endpointParams.toList.isEmpty then none
      else some (.record (a.endpointParams.toList.map fun e => (e.1, .text e.2))) := by
    simp [hfs, List.lookup_append]
  rw [read, write, ← hfs, Doc.fields?_shown h (hsteady.names (by decide)) (by decide) hnamed]
  simp only [h.requiredText hid, h.optionalText hsecret, h.requiredText hurl, h.listText hscopes,
    h.dict hparams fun e _ => h.text e.2, Option.bind_eq_bind, Option.bind_some]
  rfl

theorem TlsConfig.read_shown (h : Shows fill doc) (hsteady : Steady fill) (t : TlsConfig) :
    TlsConfig.read (doc t.write) = some (t.mapTexts fill) := by
  obtain ⟨fs, hfs⟩ : ∃ fs, fs = Value.optional "ca" .text t.ca
    ++ Value.optional "cert" .text t.cert
    ++ Value.optional "key" .text t.key
    ++ Value.optional "ca_file" .text t.caFile
    ++ Value.optional "cert_file" .text t.certFile
    ++ Value.optional "key_file" .text t.keyFile
    ++ Value.optional "server_name" .text t.serverName
    ++ Value.optional "insecure_skip_verify" .bool t.insecureSkipVerify := ⟨_, rfl⟩
  have hnamed : Named fs ["ca", "cert", "key", "ca_file", "cert_file", "key_file", "server_name",
      "insecure_skip_verify"] :=
    hfs ▸ (((((((named_optional _ _ _).append (named_optional _ _ _)).append (named_optional _ _ _)).append
      (named_optional _ _ _)).append (named_optional _ _ _)).append (named_optional _ _ _)).append
      (named_optional _ _ _)).append (named_optional _ _ _)
  have hca : fs.lookup "ca" = t.ca.map .text := by simp [hfs, List.lookup_append]
  have hcert : fs.lookup "cert" = t.cert.map .text := by simp [hfs, List.lookup_append]
  have hkey : fs.lookup "key" = t.key.map .text := by simp [hfs, List.lookup_append]
  have hcaFile : fs.lookup "ca_file" = t.caFile.map .text := by simp [hfs, List.lookup_append]
  have hcertFile : fs.lookup "cert_file" = t.certFile.map .text := by simp [hfs, List.lookup_append]
  have hkeyFile : fs.lookup "key_file" = t.keyFile.map .text := by simp [hfs, List.lookup_append]
  have hname : fs.lookup "server_name" = t.serverName.map .text := by simp [hfs, List.lookup_append]
  have hskip : fs.lookup "insecure_skip_verify" = t.insecureSkipVerify.map .bool := by
    simp [hfs, List.lookup_append]
  rw [read, write, ← hfs, Doc.fields?_shown h (hsteady.names (by decide)) (by decide) hnamed]
  simp only [h.optionalText hca, h.optionalText hcert, h.optionalText hkey, h.optionalText hcaFile,
    h.optionalText hcertFile, h.optionalText hkeyFile, h.optionalText hname, h.optionalBool hskip,
    Option.bind_eq_bind, Option.bind_some]
  rfl

theorem HttpClient.named_writeFields (c : HttpClient) : Named c.writeFields HttpClient.fieldNames :=
  ((((((named_optional _ _ _).append (named_optional _ _ _)).append (named_optional _ _ _)).append
    (named_optional _ _ _)).append (named_optional _ _ _)).append (named_optional _ _ _)).append
    (named_optional _ _ _)

/-- The settings are read from the fields that their owner set aside. -/
theorem HttpClient.readFields_shown (h : Shows fill doc) (hsteady : Steady fill) (c : HttpClient) :
    HttpClient.readFields (shownFields doc c.writeFields) = some (c.mapTexts fill) := by
  obtain ⟨fs, hfs⟩ : ∃ fs, fs = c.writeFields := ⟨_, rfl⟩
  have hbasic : fs.lookup "basic_auth" = c.basicAuth.map BasicAuth.write := by
    simp [hfs, writeFields, List.lookup_append]
  have hauthorization : fs.lookup "authorization" = c.authorization.map Authorization.write := by
    simp [hfs, writeFields, List.lookup_append]
  have hoauth : fs.lookup "oauth2" = c.oauth2.map OAuth2.write := by
    simp [hfs, writeFields, List.lookup_append]
  have htls : fs.lookup "tls_config" = c.tlsConfig.map TlsConfig.write := by
    simp [hfs, writeFields, List.lookup_append]
  have hproxy : fs.lookup "proxy_url" = c.proxyUrl.map .text := by
    simp [hfs, writeFields, List.lookup_append]
  have hfollow : fs.lookup "follow_redirects" = c.followRedirects.map .bool := by
    simp [hfs, writeFields, List.lookup_append]
  have hhttp2 : fs.lookup "enable_http2" = c.enableHttp2.map .bool := by
    simp [hfs, writeFields, List.lookup_append]
  rw [← hfs, readFields]
  simp only [h.optional hbasic fun a _ => BasicAuth.read_shown h hsteady a,
    h.optional hauthorization fun a _ => Authorization.read_shown h hsteady a,
    h.optional hoauth fun a _ => OAuth2.read_shown h hsteady a,
    h.optional htls fun t _ => TlsConfig.read_shown h hsteady t, h.optionalText hproxy,
    h.optionalBool hfollow, h.optionalBool hhttp2, Option.bind_eq_bind, Option.bind_some]
  rfl

/-! ## Where targets are found -/

theorem readDuration_shown (h : Shows fill doc) (hsteady : Steady fill) {d : Duration} (hd : d.Whole) :
    readDuration (doc (writeDuration d)) = some d := by
  have hfill : fill d.text = d.text := hsteady d.text fun hmark => absurd (d.mem_text _ hmark) (by decide)
  rw [readDuration, writeDuration, h.text, hfill, Option.bind_some, Duration.parse_text hd]
  rfl

/-- A duration is written without a mark that could be filled in, so it is read back as it is. -/
theorem optionalDuration_shown (h : Shows fill doc) (hsteady : Steady fill)
    {fs : List (String × Value)} {n : String} {o : Option Duration}
    (hl : fs.lookup n = o.map writeDuration) (ho : ∀ d, o = some d → d.Whole) :
    (shownFields doc fs).optional n readDuration = some o := by
  have hread := h.optional (g := id) hl fun d hd => readDuration_shown h hsteady (ho d hd)
  rwa [Option.map_id] at hread

theorem Role.read_shown (h : Shows fill doc) (hsteady : Steady fill) (r : Role) :
    Role.read (doc (.text r.name)) = some r := by
  have hfill : fill r.name = r.name := hsteady r.name (by cases r <;> decide)
  have htext : (doc (.text r.name)).text? = some r.name := (h.text _).trans (congrArg some hfill)
  have hname : Role.ofName? r.name = some r := by cases r <;> decide
  rw [Role.read, htext, Option.bind_some, hname]
  -- a record has no text
  intro k hk
  rw [hk] at htext
  cases htext

theorem NamespaceDiscovery.read_shown (h : Shows fill doc) (hsteady : Steady fill)
    (n : NamespaceDiscovery) : NamespaceDiscovery.read (doc n.write) = some (n.mapTexts fill) := by
  obtain ⟨fs, hfs⟩ : ∃ fs, fs = Value.optional "own_namespace" .bool n.ownNamespace ++
    Value.unlessEmpty "names" .text n.names := ⟨_, rfl⟩
  have hnamed : Named fs ["own_namespace", "names"] :=
    hfs ▸ (named_optional _ _ _).append (named_unlessEmpty _ _ _)
  have hown : fs.lookup "own_namespace" = n.ownNamespace.map .bool := by simp [hfs, List.lookup_append]
  have hnames : fs.lookup "names" = if n.names.isEmpty then none else some (.list (n.names.map .text)) := by
    simp [hfs, List.lookup_append]
  rw [read, write, ← hfs, Doc.fields?_shown h (hsteady.names (by decide)) (by decide) hnamed]
  simp only [h.optionalBool hown, h.listText hnames, Option.bind_eq_bind, Option.bind_some]
  rfl

theorem KubernetesDiscovery.read_shown (h : Shows fill doc) (hsteady : Steady fill)
    (k : KubernetesDiscovery) : KubernetesDiscovery.read (doc k.write) = some (k.mapTexts fill) := by
  obtain ⟨fs, hfs⟩ : ∃ fs, fs = Value.field "role" (.text k.role.name) ++
    Value.optional "namespaces" NamespaceDiscovery.write k.namespaces := ⟨_, rfl⟩
  have hnamed : Named fs ["role", "namespaces"] := hfs ▸ (named_field _ _).append (named_optional _ _ _)
  have hrole : fs.lookup "role" = some (.text k.role.name) := by simp [hfs, List.lookup_append]
  have hnamespaces : fs.lookup "namespaces" = k.namespaces.map NamespaceDiscovery.write := by
    simp [hfs, List.lookup_append]
  rw [read, write, ← hfs, Doc.fields?_shown h (hsteady.names (by decide)) (by decide) hnamed]
  simp only [Shows.required hrole (Role.read_shown h hsteady k.role),
    h.optional hnamespaces fun n _ => NamespaceDiscovery.read_shown h hsteady n,
    Option.bind_eq_bind, Option.bind_some]
  rfl

theorem StaticTargets.read_shown (h : Shows fill doc) (hsteady : Steady fill) (s : StaticTargets) :
    StaticTargets.read (doc s.write) = some (s.mapTexts fill) := by
  obtain ⟨fs, hfs⟩ : ∃ fs, fs = Value.field "targets" (.texts s.targets) ++
    Value.entries "labels" .text s.labels.toList := ⟨_, rfl⟩
  have hnamed : Named fs ["targets", "labels"] := hfs ▸ (named_field _ _).append (named_entries _ _ _)
  have htargets : fs.lookup "targets" = some (.list (s.targets.map .text)) := by
    simp [hfs, List.lookup_append, Value.texts]
  have hlabels : fs.lookup "labels" = if s.labels.toList.isEmpty then none
      else some (.record (s.labels.toList.map fun e => (e.1, .text e.2))) := by
    simp [hfs, List.lookup_append]
  have hread : (shownFields doc fs).list "targets" Doc.text? = some (s.targets.map fill) := by
    rw [Doc.Fields.list, Doc.Fields.withDefault, Doc.lookup_shownFields, htargets]
    exact h.list? s.targets fun s _ => h.text s
  rw [read, write, ← hfs, Doc.fields?_shown h (hsteady.names (by decide)) (by decide) hnamed]
  simp only [hread, h.dict hlabels fun e _ => h.text e.2, Option.bind_eq_bind, Option.bind_some]
  rfl

/-- The settings of a client settle when their owner sets them aside. -/
def HttpClient.Settles (doc settled : Value → Doc) (c : HttpClient) : Prop :=
  ∀ f ∈ c.writeFields, (doc f.2).settle? = some (settled f.2)

theorem HttpDiscovery.read_shown (h : Shows fill doc) (hsettled : Shows fill settled)
    (hsteady : Steady fill) {e : HttpDiscovery} (hd : ∀ d, e.refreshInterval = some d → d.Whole)
    (hclient : e.client.Settles doc settled) :
    HttpDiscovery.read (doc e.write) = some (e.mapTexts fill) := by
  obtain ⟨fs, hfs⟩ : ∃ fs, fs = Value.field "url" (.text e.url) ++
    Value.optional "refresh_interval" writeDuration e.refreshInterval := ⟨_, rfl⟩
  have hnamed : Named fs ["url", "refresh_interval"] := hfs ▸ (named_field _ _).append (named_optional _ _ _)
  have hurl : fs.lookup "url" = some (.text e.url) := by simp [hfs, List.lookup_append]
  have hinterval : fs.lookup "refresh_interval" = e.refreshInterval.map writeDuration := by
    simp [hfs, List.lookup_append]
  have hsplit : (doc (.record (fs ++ e.client.writeFields ++ []))).splitFields?
      ["url", "refresh_interval"] HttpClient.fieldNames =
        some (shownFields doc (fs ++ []), shownFields settled e.client.writeFields) :=
    Doc.splitFields?_parts h (hsteady.names (by decide)) (by decide) hnamed e.client.named_writeFields
      (List.Sublist.refl []) hclient
  rw [List.append_nil, List.append_nil] at hsplit
  rw [read, write, ← hfs, hsplit]
  simp only [h.requiredText hurl, optionalDuration_shown h hsteady hinterval hd,
    HttpClient.readFields_shown hsettled hsteady e.client, Option.bind_eq_bind, Option.bind_some]
  rfl

end Job

/-! ## Jobs -/

theorem Relabel.Rule.read_shown (h : Shows fill doc) (hsteady : Steady fill) {r : Relabel.Rule}
    (hr : ∀ n, r.modulus = some n → n < Nat.pow 2 64) :
    Relabel.Rule.read (doc r.write) = some (r.mapTexts fill) := by
  obtain ⟨fs, hfs⟩ : ∃ fs, fs = Value.unlessEmpty "source_labels" .text r.sourceLabels
    ++ Value.optional "separator" .text r.separator
    ++ Value.optional "target_label" .text r.targetLabel
    ++ Value.optional "regex" .text r.regex
    ++ Value.optional "modulus" .nat r.modulus
    ++ Value.optional "replacement" .text r.replacement
    ++ Value.field "action" (.text r.action.name) := ⟨_, rfl⟩
  have hnamed : Named fs Relabel.Rule.fieldNames :=
    hfs ▸ ((((((named_unlessEmpty _ _ _).append (named_optional _ _ _)).append (named_optional _ _ _)).append
      (named_optional _ _ _)).append (named_optional _ _ _)).append (named_optional _ _ _)).append
      (named_field _ _)
  have hsources : fs.lookup "source_labels" =
      if r.sourceLabels.isEmpty then none else some (.list (r.sourceLabels.map .text)) := by
    simp [hfs, List.lookup_append]
  have hseparator : fs.lookup "separator" = r.separator.map .text := by simp [hfs, List.lookup_append]
  have htarget : fs.lookup "target_label" = r.targetLabel.map .text := by simp [hfs, List.lookup_append]
  have hregex : fs.lookup "regex" = r.regex.map .text := by simp [hfs, List.lookup_append]
  have hmodulus : fs.lookup "modulus" = r.modulus.map .nat := by simp [hfs, List.lookup_append]
  have hreplacement : fs.lookup "replacement" = r.replacement.map .text := by
    simp [hfs, List.lookup_append]
  have haction : fs.lookup "action" = some (.text r.action.name) := by simp [hfs, List.lookup_append]
  have hname : (fs.lookup "action").map doc = some (doc (.text r.action.name)) := by rw [haction]; rfl
  have hfill : fill r.action.name = r.action.name := hsteady r.action.name (by cases r.action <;> decide)
  have hofName : Relabel.Action.ofName? r.action.name = some r.action := by cases r.action <;> decide
  have hread : (shownFields doc fs).withDefault "action" .replace
      (fun d => d.text?.bind Relabel.Action.ofName?) = some r.action := by
    rw [Doc.Fields.withDefault, Doc.lookup_shownFields, hname]
    show (doc (.text r.action.name)).text?.bind Relabel.Action.ofName? = some r.action
    rw [h.text, hfill, Option.bind_some, hofName]
  rw [read, write, ← hfs, Doc.fields?_shown h (hsteady.names (by decide)) (by decide) hnamed]
  simp only [h.listText hsources, h.optionalText hseparator, h.optionalText htarget,
    h.optionalText hregex, h.optionalNat hmodulus hr, h.optionalText hreplacement, hread,
    Option.bind_eq_bind, Option.bind_some]
  rfl

namespace ScrapeJob

/-- The clients of a job: its own, and those of the endpoints that list its targets. -/
def clients (j : ScrapeJob) : List Job.HttpClient := j.client :: j.http.map (·.client)

/-- What the fields of a job can say is what it says: its durations are whole milliseconds, and its numbers
have 64 bits. -/
structure Exact (j : ScrapeJob) : Prop where
  interval : ∀ d, j.scrapeInterval = some d → d.Whole
  timeout : ∀ d, j.scrapeTimeout = some d → d.Whole
  refresh : ∀ e ∈ j.http, ∀ d, e.refreshInterval = some d → d.Whole
  samples : ∀ n, j.sampleLimit = some n → n < Nat.pow 2 64
  targets : ∀ n, j.targetLimit = some n → n < Nat.pow 2 64
  moduli : ∀ r ∈ j.relabel ++ j.metricRelabel, ∀ n, r.modulus = some n → n < Nat.pow 2 64

/-- The fields that stand before those of the client. -/
def ownBefore (j : ScrapeJob) : List (String × Value) :=
  Value.field "job_name" (.text j.name)
    ++ Value.optional "honor_labels" .bool j.honorLabels
    ++ Value.optional "honor_timestamps" .bool j.honorTimestamps
    ++ Value.entries "params" .texts j.params.toList
    ++ Value.optional "scrape_interval" writeDuration j.scrapeInterval
    ++ Value.optional "scrape_timeout" writeDuration j.scrapeTimeout
    ++ Value.optional "metrics_path" .text j.metricsPath
    ++ Value.optional "scheme" .text j.scheme
    ++ Value.optional "sample_limit" .nat j.sampleLimit
    ++ Value.optional "target_limit" .nat j.targetLimit

/-- The fields that stand behind those of the client. -/
def ownAfter (j : ScrapeJob) : List (String × Value) :=
  Value.unlessEmpty "kubernetes_sd_configs" KubernetesDiscovery.write j.kubernetes
    ++ Value.unlessEmpty "static_configs" StaticTargets.write j.static
    ++ Value.unlessEmpty "http_sd_configs" HttpDiscovery.write j.http
    ++ Value.unlessEmpty "relabel_configs" Relabel.Rule.write j.relabel
    ++ Value.unlessEmpty "metric_relabel_configs" Relabel.Rule.write j.metricRelabel

theorem write_eq (j : ScrapeJob) : j.write = .record (j.ownBefore ++ j.client.writeFields ++ j.ownAfter) := by
  simp only [write, ownBefore, ownAfter, List.append_assoc]

theorem named_ownBefore (j : ScrapeJob) : Named j.ownBefore ["job_name", "honor_labels",
    "honor_timestamps", "params", "scrape_interval", "scrape_timeout", "metrics_path", "scheme",
    "sample_limit", "target_limit"] :=
  (((((((((named_field _ _).append (named_optional _ _ _)).append (named_optional _ _ _)).append
    (named_entries _ _ _)).append (named_optional _ _ _)).append (named_optional _ _ _)).append
    (named_optional _ _ _)).append (named_optional _ _ _)).append (named_optional _ _ _)).append
    (named_optional _ _ _)

theorem named_ownAfter (j : ScrapeJob) : Named j.ownAfter ["kubernetes_sd_configs", "static_configs",
    "http_sd_configs", "relabel_configs", "metric_relabel_configs"] :=
  ((((named_unlessEmpty _ _ _).append (named_unlessEmpty _ _ _)).append
    (named_unlessEmpty _ _ _)).append (named_unlessEmpty _ _ _)).append (named_unlessEmpty _ _ _)

/-- The client's fields of a job are set aside. -/
theorem splitFields?_write (h : Shows fill doc) (hsteady : Steady fill) {j : ScrapeJob}
    (hclient : j.client.Settles doc settled) :
    (doc j.write).splitFields? fieldNames HttpClient.fieldNames =
      some (shownFields doc (j.ownBefore ++ j.ownAfter), shownFields settled j.client.writeFields) := by
  rw [write_eq]
  exact Doc.splitFields?_parts h (hsteady.names (by decide)) (by decide) j.named_ownBefore
    j.client.named_writeFields j.named_ownAfter hclient

theorem read_shown (h : Shows fill doc) (hsettled : Shows fill settled) (hsteady : Steady fill)
    {j : ScrapeJob} (hj : j.Exact) (hclients : ∀ c ∈ j.clients, c.Settles doc settled) :
    ScrapeJob.read (doc j.write) = some (j.mapTexts fill) := by
  -- what stands under each name, looked up before anything is read of it
  obtain ⟨own, hown⟩ : ∃ own, own = j.ownBefore ++ j.ownAfter := ⟨_, rfl⟩
  have hname : own.lookup "job_name" = some (.text j.name) := by
    simp [hown, ownBefore, List.lookup_append]
  have hlabels : own.lookup "honor_labels" = j.honorLabels.map .bool := by
    simp [hown, ownBefore, ownAfter, List.lookup_append]
  have htimestamps : own.lookup "honor_timestamps" = j.honorTimestamps.map .bool := by
    simp [hown, ownBefore, ownAfter, List.lookup_append]
  have hparams : own.lookup "params" = if j.params.toList.isEmpty then none
      else some (.record (j.params.toList.map fun e => (e.1, .texts e.2))) := by
    simp [hown, ownBefore, ownAfter, List.lookup_append]
  have hinterval : own.lookup "scrape_interval" = j.scrapeInterval.map writeDuration := by
    simp [hown, ownBefore, ownAfter, List.lookup_append]
  have htimeout : own.lookup "scrape_timeout" = j.scrapeTimeout.map writeDuration := by
    simp [hown, ownBefore, ownAfter, List.lookup_append]
  have hpath : own.lookup "metrics_path" = j.metricsPath.map .text := by
    simp [hown, ownBefore, ownAfter, List.lookup_append]
  have hscheme : own.lookup "scheme" = j.scheme.map .text := by
    simp [hown, ownBefore, ownAfter, List.lookup_append]
  have hsamples : own.lookup "sample_limit" = j.sampleLimit.map .nat := by
    simp [hown, ownBefore, ownAfter, List.lookup_append]
  have htargets : own.lookup "target_limit" = j.targetLimit.map .nat := by
    simp [hown, ownBefore, ownAfter, List.lookup_append]
  have hkubernetes : own.lookup "kubernetes_sd_configs" =
      if j.kubernetes.isEmpty then none else some (.list (j.kubernetes.map KubernetesDiscovery.write)) := by
    simp [hown, ownBefore, ownAfter, List.lookup_append]
  have hstatic : own.lookup "static_configs" =
      if j.static.isEmpty then none else some (.list (j.static.map StaticTargets.write)) := by
    simp [hown, ownBefore, ownAfter, List.lookup_append]
  have hhttp : own.lookup "http_sd_configs" =
      if j.http.isEmpty then none else some (.list (j.http.map HttpDiscovery.write)) := by
    simp [hown, ownBefore, ownAfter, List.lookup_append]
  have hrelabel : own.lookup "relabel_configs" =
      if j.relabel.isEmpty then none else some (.list (j.relabel.map Relabel.Rule.write)) := by
    simp [hown, ownBefore, ownAfter, List.lookup_append]
  have hmetric : own.lookup "metric_relabel_configs" =
      if j.metricRelabel.isEmpty then none else some (.list (j.metricRelabel.map Relabel.Rule.write)) := by
    simp [hown, ownBefore, ownAfter, List.lookup_append]
  -- what its parts are read as
  have hrules : ∀ rs : List Relabel.Rule, (∀ r ∈ rs, r ∈ j.relabel ++ j.metricRelabel) →
      ∀ r ∈ rs, Relabel.Rule.read (doc r.write) = some (r.mapTexts fill) := fun rs hrs r hr =>
    Relabel.Rule.read_shown h hsteady (hj.moduli r (hrs r hr))
  have hendpoints : ∀ e ∈ j.http, HttpDiscovery.read (doc e.write) = some (e.mapTexts fill) := by
    intro e he
    have hclient : e.client ∈ j.clients := List.mem_cons_of_mem _ (List.mem_map_of_mem he)
    exact HttpDiscovery.read_shown h hsettled hsteady (hj.refresh e he) (hclients e.client hclient)
  rw [read, splitFields?_write h hsteady (hclients _ List.mem_cons_self), ← hown]
  have hread : (shownFields doc own).withDefault "params" .empty (readDict (Doc.list? Doc.text?)) =
      some (j.params.mapEntries fill (·.map fill)) :=
    h.dict hparams fun e _ => h.list? e.2 fun s _ => h.text s
  have hkubernetesRead := h.list hkubernetes fun k _ => KubernetesDiscovery.read_shown h hsteady k
  have hstaticRead := h.list hstatic fun s _ => StaticTargets.read_shown h hsteady s
  have hrelabelRead := h.list hrelabel (hrules _ fun r hr => List.mem_append_left _ hr)
  have hmetricRead := h.list hmetric (hrules _ fun r hr => List.mem_append_right _ hr)
  rw [Option.bind_eq_bind, Option.bind_some]
  dsimp only
  rw [h.requiredText hname, h.optionalBool hlabels, h.optionalBool htimestamps, hread,
    optionalDuration_shown h hsteady hinterval hj.interval,
    optionalDuration_shown h hsteady htimeout hj.timeout, h.optionalText hpath,
    h.optionalText hscheme, h.optionalNat hsamples hj.samples, h.optionalNat htargets hj.targets,
    HttpClient.readFields_shown hsettled hsteady j.client, hkubernetesRead, hstaticRead,
    h.list hhttp hendpoints, hrelabelRead, hmetricRead]
  rfl

end ScrapeJob

/-- A map of jobs is read back with what was filled in for its texts. -/
theorem readJobMap_shown (h : Shows fill doc) (hsettled : Shows fill settled) (hsteady : Steady fill)
    {jobs : Dict String ScrapeJob} (hjobs : ∀ e ∈ jobs.toList, e.2.Exact)
    (hclients : ∀ e ∈ jobs.toList, ∀ c ∈ e.2.clients, c.Settles doc settled) :
    readJobMap (doc (writeJobMap jobs)) = some (jobs.mapEntries fill (·.mapTexts fill)) :=
  h.readDict jobs.toList fun e he =>
    ScrapeJob.read_shown h hsettled hsteady (hjobs e he) (hclients e he)

end ScrapeFleet
