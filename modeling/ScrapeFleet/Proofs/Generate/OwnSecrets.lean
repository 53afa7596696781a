/-
# ScrapeFleet.Proofs.Generate.OwnSecrets — a monitor's jobs come from its own namespace

Each form of credentials, each field of a client and each part of a monitor asks for secrets in the namespace
of the monitor, whatever the answers are (`asksOnly_jobs`). The jobs and warnings are therefore the same in
any two situations that agree on this namespace, also if the secrets of others change while the jobs are made
(`jobs_same_in_namespace`).
-/
import ScrapeFleet.Generate.Basic
import ScrapeFleet.Proofs.Credential.Tenants

namespace ScrapeFleet

open Credential (Answer Failure Lookup)

/-! ## Credentials of each form -/

namespace Credential

open Lookup (asksOnly_pure)
open Monitor (SecretKey KeySource)

variable {α β : Type} {ns : String}

/-- Work that may fail asks for secrets of the namespace only. -/
def Asks (ns : String) (work : ExceptT Failure Lookup α) : Prop := work.run.AsksOnly ns

theorem asks_pure (a : α) : Asks ns (pure a) := asksOnly_pure _

theorem asks_throw (f : Failure) : Asks ns (throw f : ExceptT Failure Lookup α) := asksOnly_pure _

theorem Asks.bind {work : ExceptT Failure Lookup α} {f : α → ExceptT Failure Lookup β} (h : Asks ns work)
    (hf : ∀ a, Asks ns (f a)) : Asks ns (work >>= f) := by
  refine Lookup.AsksOnly.bind h fun result => ?_
  cases result with
  | ok a => exact hf a
  | error e => exact asksOnly_pure _

theorem Asks.map {work : ExceptT Failure Lookup α} (h : Asks ns work) (f : α → β) : Asks ns (f <$> work) := by
  refine Lookup.AsksOnly.bind h fun result => ?_
  cases result <;> exact asksOnly_pure _

theorem asks_value (ref : SecretKey) : Asks ns (Lookup.value ns ref) := .ask fun answer => .done answer

theorem asks_optionalValue (ref : Option SecretKey) : Asks ns (optionalValue ns ref) := by
  cases ref with
  | none => exact asks_pure none
  | some ref => exact (asks_value ref).map some

theorem asks_sourceValue (source : KeySource) : Asks ns (sourceValue ns source) := by
  unfold sourceValue
  split
  · exact asks_value _
  · exact asks_throw _
  · exact asks_throw _

theorem asks_optionalSource (source : Option KeySource) : Asks ns (optionalSource ns source) := by
  cases source with
  | none => exact asks_pure none
  | some source => exact (asks_sourceValue source).map some

theorem asks_basicAuth (a : Monitor.BasicAuth) : Asks ns (basicAuth ns a) :=
  (asks_optionalValue a.username).bind fun _ => (asks_optionalValue a.password).bind fun _ => asks_pure _

theorem asks_bearerToken (ref : SecretKey) : Asks ns (bearerToken ns ref) :=
  (asks_value ref).bind fun _ => asks_pure _

theorem asks_authorization (a : Monitor.Authorization) : Asks ns (authorization ns a) :=
  (asks_optionalValue a.credentials).bind fun _ => asks_pure _

theorem asks_tlsConfig (t : Monitor.TlsConfig) : Asks ns (tlsConfig ns t) :=
  (asks_optionalSource t.ca).bind fun _ => (asks_optionalSource t.cert).bind fun _ =>
    (asks_optionalValue t.keySecret).bind fun _ => asks_pure _

theorem asks_oauth2 (a : Monitor.OAuth2) : Asks ns (oauth2 ns a) :=
  (asks_sourceValue a.clientId).bind fun _ => (asks_value a.clientSecret).bind fun _ => asks_pure _

end Credential

/-! ## Jobs -/

namespace Generate

open Credential (Asks Event Fetched Situation Store Working)
open Credential.Lookup (asksOnly_pure)

variable {settings : Settings} {ns job : String}

theorem asksOnly_authField {ρ α : Type} (field : AuthField) (ref : Option ρ)
    {find : ρ → ExceptT Failure Lookup α} (hfind : ∀ r, Asks ns (find r)) :
    (authField job field ref find).AsksOnly ns := by
  cases ref with
  | none => exact asksOnly_pure _
  | some r =>
    refine Credential.Lookup.AsksOnly.bind (hfind r) fun result => ?_
    cases result <;> exact asksOnly_pure _

theorem asksOnly_httpClient (refs : AuthRefs) : (httpClient job ns refs).AsksOnly ns :=
  (asksOnly_authField _ _ Credential.asks_basicAuth).bind fun _ =>
    (asksOnly_authField _ _ Credential.asks_bearerToken).bind fun _ =>
      (asksOnly_authField _ _ Credential.asks_authorization).bind fun _ =>
        (asksOnly_authField _ _ Credential.asks_oauth2).bind fun _ =>
          (asksOnly_authField _ _ Credential.asks_tlsConfig).bind fun _ => asksOnly_pure _

theorem asksOnly_finishEndpoint (s : Monitor.ScrapeSettings) (tls : Option Monitor.TlsConfig)
    (adjust : Job.HttpClient → Job.HttpClient) (made : Except JobError ScrapeJob) :
    (finishEndpoint settings ns s tls adjust made).AsksOnly ns := by
  cases made with
  | error e => exact asksOnly_pure _
  | ok job => exact (asksOnly_httpClient _).bind fun _ => asksOnly_pure _

theorem asksOnly_probeOutcome (name : String) (spec : Monitor.ProbeSpec) :
    (probeOutcome settings ns name spec).AsksOnly ns := by
  unfold probeOutcome
  split
  · exact asksOnly_pure _
  · exact (asksOnly_httpClient _).bind fun _ => asksOnly_pure _

theorem asksOnly_httpDiscoveries (hs : List Monitor.HttpTargets) (i : Nat) :
    (httpDiscoveries job ns i hs).AsksOnly ns := by
  induction hs generalizing i with
  | nil => exact asksOnly_pure _
  | cons h hs ih =>
    unfold httpDiscoveries
    split
    · exact asksOnly_pure _
    · refine Credential.Lookup.AsksOnly.bind ?_ fun _ => (ih _).bind fun _ => asksOnly_pure _
      exact (asksOnly_httpClient _).bind fun _ => asksOnly_pure _

theorem asksOnly_scrapeOutcome (name : String) (spec : Monitor.ScrapeSpec) :
    (scrapeOutcome settings ns name spec).AsksOnly ns := by
  unfold scrapeOutcome
  split
  · exact asksOnly_pure _
  · refine (asksOnly_httpDiscoveries _ _).bind fun (http, warnings) => ?_
    cases http with
    | error e => exact asksOnly_pure _
    | ok http => exact (asksOnly_httpClient _).bind fun _ => asksOnly_pure _

theorem asksOnly_part {m : Monitor} {part : String × Lookup Outcome} (h : part ∈ parts settings m) :
    part.2.AsksOnly m.namespaceText := by
  unfold parts at h
  split at h
  · obtain ⟨i, hi, rfl⟩ := List.mem_mapIdx.1 h
    exact asksOnly_finishEndpoint _ _ _ _
  · obtain ⟨i, hi, rfl⟩ := List.mem_mapIdx.1 h
    exact asksOnly_finishEndpoint _ _ _ _
  · obtain rfl := List.mem_singleton.1 h
    exact asksOnly_probeOutcome _ _
  · obtain rfl := List.mem_singleton.1 h
    exact asksOnly_scrapeOutcome _ _

theorem asksOnly_runParts (kind : Kind) {ps : List (String × Lookup Outcome)}
    (h : ∀ p ∈ ps, p.2.AsksOnly ns) : (runParts kind ps).AsksOnly ns := by
  induction ps with
  | nil => exact asksOnly_pure _
  | cons p ps ih =>
    refine (h p List.mem_cons_self).bind fun (outcome, warnings) => ?_
    refine (ih fun q hq => h q (List.mem_cons_of_mem p hq)).bind fun _ => ?_
    cases outcome <;> exact asksOnly_pure _

/-- Every secret that the jobs of a monitor are asked for is in the namespace of the monitor. -/
theorem asksOnly_jobs (settings : Settings) (m : Monitor) : (jobs settings m).AsksOnly m.namespaceText :=
  asksOnly_runParts m.kind fun _ hp => asksOnly_part hp

/-- **Credentials stay in their namespace.** Two situations agree on a monitor's namespace, and so do the
histories that follow them. If the jobs of the monitor are made while these go on, they have come equally far
in both, with the same jobs and warnings; and what they come to if they are made behind the histories is
the same. What a question or news of a secret changes is never a value, a registration or anything else of
another secret. -/
theorem jobs_same_in_namespace (settings : Settings) (m : Monitor)
    {w w' : Situation (List ScrapeJob × List Warning)} (hwork : w.work = .ready (jobs settings m))
    (hagree : w.Agree m.namespaceText w') {hist hist' : List Event}
    (hsame : hist.filter (·.concerns m.namespaceText) = hist'.filter (·.concerns m.namespaceText)) :
    (w.run hist).work = (w'.run hist').work ∧
      ((jobs settings m).run (w.run hist).source (w.run hist).store).2 =
        ((jobs settings m).run (w'.run hist').source (w'.run hist').store).2 ∧
      (∀ (v : Situation (List ScrapeJob × List Warning)) (e : Event) id, e.secret? = some id →
        v.Spares id (v.step e)) ∧
      ∀ (source : Cluster.ObjectKey → Fetched) (s : Store) ns ref,
        s.Spares (ns, ref.name) (Lookup.run source (Lookup.value ns ref).run s).1 := by
  have hasks : w.work.AsksOnly m.namespaceText := hwork ▸ asksOnly_jobs settings m
  have hbehind := Situation.agree_run hagree hasks hsame
  exact ⟨hbehind.work, hbehind.run_work (asksOnly_jobs settings m), fun v e _ he => v.spares_step he,
    Credential.Lookup.spares_value⟩

/-- A scrape config whose user name is in a secret. -/
def withAccount : Monitor where
  metadata := { name := some "web", namespaceName := some "shop" }
  spec := .scrape {
    static := [{ targets := ["web"] }]
    basicAuth := some { username := some { name := "account", key := "user" } } }

/-- A secret with a user name. -/
def accountOf (ns user : String) : Cluster.Secret where
  metadata := { name := some "account", namespaceName := some ns }
  stringData := some (.ofList [("user", user)])

/-- The secret of the shop is there, and whatever the source has for other namespaces. -/
def beside (others : Cluster.ObjectKey → Fetched) (s : Store) : Situation (List ScrapeJob × List Warning) where
  source id := if id.1 = "shop" then .present (accountOf "shop" "ann") else others id
  store := s
  work := .ready (jobs {} withAccount)

/-- A bank has an account, too, and news of it comes while the jobs of the shop are made. -/
theorem jobs_same_beside_bank :
    ((beside (fun _ => .absent) {}).run [.work, .work, .work]).work =
        ((beside (fun _ => .present (accountOf "bank" "eve"))
          (({} : Store).track (("bank", "account"), "user") "eve")).run
            [.work, .update (accountOf "bank" "bob"), .work, .remove ("bank", "account"), .work]).work ∧
      ((jobs {} withAccount).run (beside (fun _ => .absent) {}).source {}).2.1.map
        (fun job => job.client.basicAuth.map (·.username)) = [some "ann"] := by
  have hagree : (beside (fun _ => .absent) {}).Agree "shop" (beside (fun _ => .present (accountOf "bank" "eve"))
      (({} : Store).track (("bank", "account"), "user") "eve")) := by
    refine ⟨fun id hid => ?_, ⟨fun key hkey => ?_, fun _ _ => rfl⟩, fun _ _ => rfl, rfl⟩
    · simp only [beside, if_pos hid]
    · -- what the bank has in the store is not looked at
      have hne : key ≠ (("bank", "account"), "user") := by
        rintro rfl
        exact absurd hkey (by decide)
      show _ = Store.get? (Store.track {} _ _) key
      rw [Store.get?_track, if_neg hne]
      rfl
  have hfilter : ([.work, .work, .work] : List Event).filter (·.concerns withAccount.namespaceText) =
      [.work, .update (accountOf "bank" "bob"), .work, .remove ("bank", "account"), .work].filter
        (·.concerns withAccount.namespaceText) := by decide
  exact ⟨(jobs_same_in_namespace {} withAccount rfl hagree hfilter).1, by decide +kernel⟩

end Generate

end ScrapeFleet
