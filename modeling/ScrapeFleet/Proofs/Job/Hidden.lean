/-
# ScrapeFleet.Proofs.Job.Hidden — what is shown of a configuration keeps secrets

Configurations carry credentials in the clear, and they are shown to people who look for faults. Two clients are
alike if they differ only in what is in their passwords, tokens, client secrets and TLS material, and in the
parameters for an authorization server; what is shown of a client tells everything else and nothing of these
(`HttpClient.shown_eq_iff`). Clients stand in jobs and in the HTTP endpoints that jobs ask for targets. All
else in a job is shown in full, so configurations are shown alike exactly if they differ in nothing but such
contents (`ScrapeConfig.shown_exactly`).
-/
import Mathlib.Tactic.MkIffOfInductiveProp
import ScrapeFleet.Job.Basic
import ScrapeFleet.Proofs.Duration.Measured
import ScrapeFleet.Proofs.Text.Shown

namespace ScrapeFleet

open Text.Shown (bool_injective entries_inj map_eq_iff_forall₂ map_inj nat_injective option_eq_iff option_inj
  text_injective)

namespace Job

/-- A credential shows whether it is there and nothing else. -/
theorem hidden_eq_iff {o o' : Option String} : hidden o = hidden o' ↔ o.isSome = o'.isSome := by
  cases o <;> cases o' <;> simp [hidden, Text.Shown.option]

/-! ## Clients -/

/-- The same but for the contents of the password. -/
@[mk_iff]
structure BasicAuth.Alike (a b : BasicAuth) : Prop where
  username : a.username = b.username
  password : a.password.isSome = b.password.isSome

/-- The same but for the contents of the credentials. -/
@[mk_iff]
structure Authorization.Alike (a b : Authorization) : Prop where
  type : a.type = b.type
  credentials : a.credentials.isSome = b.credentials.isSome

/-- The same but for the contents of the secret and for all that the parameters say. -/
@[mk_iff]
structure OAuth2.Alike (a b : OAuth2) : Prop where
  clientId : a.clientId = b.clientId
  clientSecret : a.clientSecret.isSome = b.clientSecret.isSome
  tokenUrl : a.tokenUrl = b.tokenUrl
  scopes : a.scopes = b.scopes

/-- The same but for the contents of what is given in the clear. -/
@[mk_iff]
structure TlsConfig.Alike (a b : TlsConfig) : Prop where
  ca : a.ca.isSome = b.ca.isSome
  cert : a.cert.isSome = b.cert.isSome
  key : a.key.isSome = b.key.isSome
  caFile : a.caFile = b.caFile
  certFile : a.certFile = b.certFile
  keyFile : a.keyFile = b.keyFile
  serverName : a.serverName = b.serverName
  insecureSkipVerify : a.insecureSkipVerify = b.insecureSkipVerify

/-- The same but for the contents of credentials. -/
@[mk_iff]
structure HttpClient.Alike (a b : HttpClient) : Prop where
  basicAuth : Option.Rel BasicAuth.Alike a.basicAuth b.basicAuth
  authorization : Option.Rel Authorization.Alike a.authorization b.authorization
  oauth2 : Option.Rel OAuth2.Alike a.oauth2 b.oauth2
  tlsConfig : Option.Rel TlsConfig.Alike a.tlsConfig b.tlsConfig
  proxyUrl : a.proxyUrl = b.proxyUrl
  followRedirects : a.followRedirects = b.followRedirects
  enableHttp2 : a.enableHttp2 = b.enableHttp2

theorem BasicAuth.shown_eq_iff (a b : BasicAuth) : a.shown = b.shown ↔ a.Alike b := by
  simp [shown, alike_iff, hidden_eq_iff]

theorem Authorization.shown_eq_iff (a b : Authorization) : a.shown = b.shown ↔ a.Alike b := by
  simp [shown, alike_iff, hidden_eq_iff, option_inj text_injective]

theorem OAuth2.shown_eq_iff (a b : OAuth2) : a.shown = b.shown ↔ a.Alike b := by
  simp [shown, alike_iff, hidden_eq_iff, map_inj text_injective]

theorem TlsConfig.shown_eq_iff (a b : TlsConfig) : a.shown = b.shown ↔ a.Alike b := by
  simp [shown, alike_iff, hidden_eq_iff, option_inj text_injective, option_inj bool_injective,
    bool_injective.eq_iff]

/-- **What is shown of a client tells all but the contents of its credentials.** -/
theorem HttpClient.shown_eq_iff (a b : HttpClient) : a.shown = b.shown ↔ a.Alike b := by
  simp [shown, alike_iff, option_inj text_injective, option_inj bool_injective,
    option_eq_iff BasicAuth.shown_eq_iff, option_eq_iff Authorization.shown_eq_iff,
    option_eq_iff OAuth2.shown_eq_iff, option_eq_iff TlsConfig.shown_eq_iff]

/-! ## What is shown in full -/

theorem shownDuration_injective : Function.Injective shownDuration := by
  intro d d' h
  simpa [shownDuration, Duration.measured_injective.eq_iff] using h

theorem Role.shownName_injective : Function.Injective Role.shownName := by
  intro r r' h
  revert h
  cases r <;> cases r' <;> simp [Role.shownName]

theorem NamespaceDiscovery.shown_injective : Function.Injective NamespaceDiscovery.shown := by
  rintro ⟨⟩ ⟨⟩ h
  simpa [shown, option_inj bool_injective, map_inj text_injective] using h

theorem KubernetesDiscovery.shown_injective : Function.Injective KubernetesDiscovery.shown := by
  rintro ⟨⟩ ⟨⟩ h
  simpa [shown, Role.shownName_injective.eq_iff, option_inj NamespaceDiscovery.shown_injective] using h

theorem StaticTargets.shown_injective : Function.Injective StaticTargets.shown := by
  rintro ⟨⟩ ⟨⟩ h
  simpa [shown, map_inj text_injective, entries_inj text_injective] using h

end Job

theorem Relabel.Action.shownName_injective : Function.Injective Relabel.Action.shownName := by
  intro a a' h
  revert h
  cases a <;> cases a' <;> simp [Relabel.Action.shownName]

theorem Relabel.Rule.shown_injective : Function.Injective Relabel.Rule.shown := by
  rintro ⟨⟩ ⟨⟩ h
  simpa [shown, map_inj text_injective, option_inj text_injective, option_inj nat_injective,
    Relabel.Action.shownName_injective.eq_iff] using h

/-! ## Where clients stand -/

/-- The same but for a client that is alike. -/
@[mk_iff]
structure Job.HttpDiscovery.Alike (a b : HttpDiscovery) : Prop where
  url : a.url = b.url
  refreshInterval : a.refreshInterval = b.refreshInterval
  client : a.client.Alike b.client

theorem Job.HttpDiscovery.shown_eq_iff (a b : HttpDiscovery) : a.shown = b.shown ↔ a.Alike b := by
  simp [shown, alike_iff, option_inj shownDuration_injective, HttpClient.shown_eq_iff]

/-- The same but for clients, each of which is alike: that of the job and those of its HTTP endpoints. -/
@[mk_iff]
structure ScrapeJob.Alike (a b : ScrapeJob) : Prop where
  others : { a with client := {}, http := [] } = { b with client := {}, http := [] }
  client : a.client.Alike b.client
  http : List.Forall₂ Job.HttpDiscovery.Alike a.http b.http

/-- What is shown of a job tells all but the contents of credentials. -/
theorem ScrapeJob.shown_eq_iff (a b : ScrapeJob) : a.shown = b.shown ↔ a.Alike b := by
  have htexts : Function.Injective fun vs : List String => Text.Shown.list (vs.map .text) := by
    intro vs vs' h
    exact (map_inj text_injective).1 (Text.Shown.list.inj h)
  simp only [shown, Text.Shown.struct.injEq, List.cons.injEq, Prod.mk.injEq, Text.Shown.text.injEq, true_and,
    option_inj bool_injective, Text.Shown.map.injEq, entries_inj htexts, option_inj Job.shownDuration_injective,
    option_inj text_injective, option_inj nat_injective, Job.HttpClient.shown_eq_iff, Text.Shown.list.injEq,
    map_inj Job.KubernetesDiscovery.shown_injective, map_inj Job.StaticTargets.shown_injective,
    map_eq_iff_forall₂ Job.HttpDiscovery.shown_eq_iff, map_inj Relabel.Rule.shown_injective, and_true, alike_iff,
    ScrapeJob.mk.injEq]
  -- both sides are the same equations of fields, in another order
  tauto

/-- Jobs in the same order, each the same but for the contents of credentials. -/
def ScrapeConfig.Alike (c c' : ScrapeConfig) : Prop := List.Forall₂ ScrapeJob.Alike c.jobs c'.jobs

/-- **No credential is shown, and nothing else is hidden.** Configurations are shown alike exactly if they differ
only in the contents of credentials, in any client of any job. They are shown as the same text then. -/
theorem ScrapeConfig.shown_exactly (c c' : ScrapeConfig) :
    (c.shown = c'.shown ↔ c.Alike c') ∧ (c.Alike c' → c.shown.render = c'.shown.render) := by
  have hshown : c.shown = c'.shown ↔ c.Alike c' := by
    simp [shown, Alike, map_eq_iff_forall₂ ScrapeJob.shown_eq_iff]
  exact ⟨hshown, fun h => congrArg Text.Shown.render (hshown.2 h)⟩

/-- A configuration with one secret everywhere: in the client of a job and in the one of an HTTP endpoint. -/
def secretConfig (secret : String) : ScrapeConfig where
  jobs := [{
    name := "shop"
    client := {
      basicAuth := some { username := "ann", password := some secret }
      tlsConfig := some { ca := some secret, cert := some secret, key := some secret } }
    http := [{
      url := "http://shop/targets"
      client := {
        authorization := some (.bearer secret)
        oauth2 := some {
          clientId := "shop"
          clientSecret := some secret
          tokenUrl := "http://shop/token"
          endpointParams := .ofList [("assertion", secret)] } } }] }]

theorem render_eq_of_other_secret :
    secretConfig "hunter2" ≠ secretConfig "swordfish" ∧
      (secretConfig "hunter2").Alike (secretConfig "swordfish") ∧
      (secretConfig "hunter2").shown.render = (secretConfig "swordfish").shown.render := by
  have halike : (secretConfig "hunter2").Alike (secretConfig "swordfish") := by
    refine .cons ⟨rfl, ?_, .cons ⟨rfl, rfl, ?_⟩ .nil⟩ .nil
    · exact ⟨.some ⟨rfl, rfl⟩, .none, .none, .some ⟨rfl, rfl, rfl, rfl, rfl, rfl, rfl, rfl⟩, rfl, rfl, rfl⟩
    · exact ⟨.none, .some ⟨rfl, rfl⟩, .some ⟨rfl, rfl, rfl, rfl⟩, .none, rfl, rfl, rfl⟩
  exact ⟨by decide, halike, (ScrapeConfig.shown_exactly _ _).2 halike⟩

end ScrapeFleet
