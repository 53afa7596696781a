/-
# ScrapeFleet.Proofs.Collect.HandOver — how jobs are handed to the two managers

Jobs are handed to the scraping first and then to the discovery, so a hand-over can stop half-way: the
discovery refuses, and the scraping is left with the new configuration because there is nothing to give
back to it, or because it refuses that as well (`Course.left`). The course of a hand-over says all that it
does: to the record of the collector, and to what each manager has in force (`Client.leads_renew`).
-/
import ScrapeFleet.Collect.Client

namespace ScrapeFleet.Collect

variable {σ : Type}

/-! ## Managers that can be looked at -/

/-- What each manager has in force in a world. -/
structure Sight (σ : Type) where
  scrape : σ → Option ScrapeConfig
  discovery : σ → Option DiscoveryMap

/-- A manager that accepts has in force what it was handed, one that refuses keeps what it had, and
neither touches what the other has. -/
structure Managers.Faithful (m : Managers σ) (v : Sight σ) : Prop where
  scrape_accepts : ∀ {config w w'}, m.scrape config w = (w', .ok ()) → v.scrape w' = some config
  scrape_refuses : ∀ {config w w' e}, m.scrape config w = (w', .error e) → v.scrape w' = v.scrape w
  scrape_apart : ∀ {config w w' r}, m.scrape config w = (w', r) → v.discovery w' = v.discovery w
  discovery_accepts : ∀ {d w w'}, m.discovery d w = (w', .ok ()) → v.discovery w' = some d
  discovery_refuses : ∀ {d w w' e}, m.discovery d w = (w', .error e) → v.discovery w' = v.discovery w
  discovery_apart : ∀ {d w w' r}, m.discovery d w = (w', r) → v.scrape w' = v.scrape w

/-- Two managers that refuse by a script, and what they have in force. Calls beyond the script are
accepted. -/
structure Script where
  scrape : Option ScrapeConfig := none
  discovery : Option DiscoveryMap := none
  /-- Whether each of the next calls is refused. -/
  scrapeRefusals : List Bool := []
  discoveryRefusals : List Bool := []

namespace Script

/-- What a script has in force. -/
def sight : Sight Script := ⟨scrape, discovery⟩

/-- The managers that follow a script. -/
def managers : Managers Script where
  scrape config s :=
    match s.scrapeRefusals with
    | true :: rest =>
      ({ s with scrapeRefusals := rest }, .error (.rejected "scrape" "scripted"))
    | refusals => ({ s with scrapeRefusals := refusals.tail, scrape := some config }, .ok ())
  discovery d s :=
    match s.discoveryRefusals with
    | true :: rest =>
      ({ s with discoveryRefusals := rest }, .error (.rejected "discovery" "scripted"))
    | refusals => ({ s with discoveryRefusals := refusals.tail, discovery := some d }, .ok ())

theorem managers_faithful : managers.Faithful sight where
  scrape_accepts h := by
    simp only [managers] at h
    split at h <;> cases h
    rfl
  scrape_refuses h := by
    simp only [managers] at h
    split at h <;> cases h
    rfl
  scrape_apart h := by
    simp only [managers] at h
    split at h <;> cases h <;> rfl
  discovery_accepts h := by
    simp only [managers] at h
    split at h <;> cases h
    rfl
  discovery_refuses h := by
    simp only [managers] at h
    split at h <;> cases h
    rfl
  discovery_apart h := by
    simp only [managers] at h
    split at h <;> cases h <;> rfl

end Script

/-! ## How a hand-over went -/

/-- How the jobs of a sync were handed over. -/
inductive Course where
  /-- Nothing was handed over. -/
  | untouched
  /-- The scraping refused. -/
  | refused
  | accepted (jobs : Dict String ScrapeJob)
  /-- The discovery refused, and the scraping took back what it had before. -/
  | restored (previous : ScrapeConfig)
  /-- The discovery refused, and the scraping still has what it was handed. -/
  | left (config : ScrapeConfig)
deriving DecidableEq

namespace Course

/-- What the scraping has in force afterwards. -/
def scrape (settings : CollectorSettings) (before : Option ScrapeConfig) :
    Course → Option ScrapeConfig
  | .untouched | .refused => before
  | .accepted jobs => some (settings.configuration jobs)
  | .restored config | .left config => some config

/-- What the discovery has in force afterwards. -/
def discovery (settings : CollectorSettings) (before : Option DiscoveryMap) :
    Course → Option DiscoveryMap
  | .accepted jobs => some (settings.discoveryMap jobs)
  | .untouched | .refused | .restored _ | .left _ => before

/-- The jobs that both managers accepted last. -/
def lastAccepted (before : Option (Dict String ScrapeJob)) :
    Course → Option (Dict String ScrapeJob)
  | .accepted jobs => some jobs
  | .untouched | .refused | .restored _ | .left _ => before

/-- What the scraping was left with since both managers agreed. -/
def lastLeft (before : Option ScrapeConfig) : Course → Option ScrapeConfig
  | .untouched | .refused => before
  | .accepted _ | .restored _ => none
  | .left config => some config

/-- The collector afterwards. -/
def client (c : Client) : Course → Client
  | .accepted jobs =>
    { c with
      appliedDigest := some (jobMapDigest jobs)
      applied := some (c.settings.configuration jobs) }
  | .untouched | .refused | .restored _ | .left _ => c

end Course

namespace Client

/-- How jobs are handed over that are not in force. -/
def handOver (c : Client) (m : Managers σ) (jobs : Dict String ScrapeJob) (w : σ) : Course :=
  match m.scrape (c.settings.configuration jobs) w with
  | (_, .error _) => .refused
  | (w, .ok ()) =>
    match m.discovery (c.settings.discoveryMap jobs) w with
    | (_, .ok ()) => .accepted jobs
    | (w, .error _) =>
      match c.applied with
      | none => .left (c.settings.configuration jobs)
      | some previous =>
        match m.scrape previous w with
        | (_, .ok ()) => .restored previous
        | (_, .error _) => .left (c.settings.configuration jobs)

/-- How jobs are handed over. -/
def course (c : Client) (m : Managers σ) (jobs : Dict String ScrapeJob) (w : σ) : Course :=
  if c.appliedDigest = some (jobMapDigest jobs) then .untouched else c.handOver m jobs w

end Client

namespace Course

/-- What the course of a hand-over tells of the record and of the outcome. -/
def Fits (c : Client) (jobs : Dict String ScrapeJob) (outcome : Except SyncFailure Outcome) :
    Course → Prop
  | .untouched => c.appliedDigest = some (jobMapDigest jobs) ∧ outcome = .ok .unchanged
  | .refused | .left _ => ∃ e, outcome = .error e
  | .accepted jobs' => jobs' = jobs ∧ ∃ n, outcome = .ok (.applied n)
  | .restored previous => c.applied = some previous ∧ ∃ e, outcome = .error e

namespace Fits

variable {c : Client} {jobs : Dict String ScrapeJob} {outcome : Except SyncFailure Outcome}
  {course : Course}

/-- Only jobs that are in force or were accepted make a sync succeed. -/
theorem of_ok (h : course.Fits c jobs outcome) {o : Outcome} (hok : outcome = .ok o) :
    course = .accepted jobs ∨ course = .untouched ∧ c.appliedDigest = some (jobMapDigest jobs) := by
  subst hok
  cases course with
  | untouched => exact .inr ⟨rfl, h.1⟩
  | accepted jobs' => exact .inl (congrArg Course.accepted h.1)
  | refused => obtain ⟨e, he⟩ := h; cases he
  | left config => obtain ⟨e, he⟩ := h; cases he
  | restored previous => obtain ⟨_, e, he⟩ := h; cases he

/-- Jobs that were accepted make a sync succeed. -/
theorem not_accepted (h : course.Fits c jobs outcome) {e : SyncFailure} (herr : outcome = .error e)
    (jobs' : Dict String ScrapeJob) : course ≠ .accepted jobs' := by
  rintro rfl
  obtain ⟨_, n, hn⟩ := h
  rw [herr] at hn
  cases hn

end Fits

/-- What a hand-over leads to. -/
structure Leads (v : Sight σ) (c : Client) (jobs : Dict String ScrapeJob) (w : σ) (course : Course)
    (r : SyncResult σ) : Prop where
  client : r.client = course.client c
  scrape : v.scrape r.world = course.scrape c.settings (v.scrape w)
  discovery : v.discovery r.world = course.discovery c.settings (v.discovery w)
  fits : course.Fits c jobs r.outcome

end Course

/-- Jobs are handed over as their course says. -/
theorem Client.leads_renew {m : Managers σ} {v : Sight σ} (hm : m.Faithful v) (c : Client)
    (jobs : Dict String ScrapeJob) (w : σ) :
    (c.course m jobs w).Leads v c jobs w (c.renew m jobs w) := by
  unfold course renew
  by_cases hdigest : c.appliedDigest = some (jobMapDigest jobs)
  · simp only [if_pos hdigest]
    exact ⟨rfl, rfl, rfl, hdigest, rfl⟩
  simp only [if_neg hdigest, handOver, apply]
  rcases hscrape : m.scrape (c.settings.configuration jobs) w with ⟨w₁, e | accepted⟩
  · -- the scraping refused, and the discovery is not asked
    exact ⟨rfl, hm.scrape_refuses hscrape, hm.scrape_apart hscrape, _, rfl⟩
  rcases hdiscovery : m.discovery (c.settings.discoveryMap jobs) w₁ with ⟨w₂, e | accepted⟩
  · -- the discovery refused, and the scraping has the new configuration
    have hnew : v.scrape w₂ = some (c.settings.configuration jobs) :=
      (hm.discovery_apart hdiscovery).trans (hm.scrape_accepts hscrape)
    have hold : v.discovery w₂ = v.discovery w :=
      (hm.discovery_refuses hdiscovery).trans (hm.scrape_apart hscrape)
    cases happlied : c.applied with
    | none =>
      simp only [hdiscovery]
      exact ⟨rfl, hnew, hold, _, rfl⟩
    | some previous =>
      -- the configuration before is offered again, and may be refused in its turn
      rcases hrestore : m.scrape previous w₂ with ⟨w₃, e' | accepted⟩
      · simp only [hdiscovery, hrestore]
        exact ⟨rfl, (hm.scrape_refuses hrestore).trans hnew, (hm.scrape_apart hrestore).trans hold,
          _, rfl⟩
      · simp only [hdiscovery, hrestore]
        exact ⟨rfl, hm.scrape_accepts hrestore, (hm.scrape_apart hrestore).trans hold, happlied, _,
          rfl⟩
  · simp only [hdiscovery]
    exact ⟨rfl, (hm.discovery_apart hdiscovery).trans (hm.scrape_accepts hscrape),
      hm.discovery_accepts hdiscovery, rfl, _, rfl⟩

namespace Course

variable (settings : CollectorSettings)

/-- The discovery has what was accepted last. -/
theorem discovery_lastAccepted (course : Course) (accepted : Option (Dict String ScrapeJob))
    (start : Option DiscoveryMap) :
    course.discovery settings ((accepted.map settings.discoveryMap).or start) =
      ((course.lastAccepted accepted).map settings.discoveryMap).or start := by
  cases course <;> rfl

/-- The scraping has what was accepted last, or what it was left with since. -/
theorem scrape_lastLeft {course : Course} {accepted : Option (Dict String ScrapeJob)}
    (hrestored : ∀ {config}, course = .restored config →
      accepted.map settings.configuration = some config)
    (left start : Option ScrapeConfig) :
    course.scrape settings (left.or ((accepted.map settings.configuration).or start)) =
      (course.lastLeft left).or
        (((course.lastAccepted accepted).map settings.configuration).or start) := by
  cases course with
  | restored config =>
    simp only [scrape, lastLeft, lastAccepted, hrestored rfl, Option.none_or, Option.some_or]
  | untouched => rfl
  | refused => rfl
  | accepted jobs => rfl
  | left config => rfl

/-- The collector records what was accepted last. -/
theorem client_lastAccepted (course : Course) {c : Client}
    {accepted : Option (Dict String ScrapeJob)}
    (hdigest : c.appliedDigest = accepted.map jobMapDigest)
    (happlied : c.applied = accepted.map c.settings.configuration) :
    (course.client c).settings = c.settings ∧
      (course.client c).appliedDigest = (course.lastAccepted accepted).map jobMapDigest ∧
      (course.client c).applied = (course.lastAccepted accepted).map c.settings.configuration := by
  cases course with
  | accepted jobs => exact ⟨rfl, rfl, rfl⟩
  | untouched => exact ⟨rfl, hdigest, happlied⟩
  | refused => exact ⟨rfl, hdigest, happlied⟩
  | restored config => exact ⟨rfl, hdigest, happlied⟩
  | left config => exact ⟨rfl, hdigest, happlied⟩

end Course

end ScrapeFleet.Collect
