/-
# ScrapeFleet.Proofs.Collect.Record — what a collector records, and what it hands over for that

A collector keeps a digest and a configuration. It compares the digest with that of the next document, and it
gives the configuration back if the discovery refuses another one; so the two have to be of the same jobs, and
these have to be what both managers accepted. They are written together at the end of a sync and nowhere else,
and so they are those of the last sync that applied any (`Situation.records_run`), whatever was fetched
and whatever the managers did.

Of the managers nothing is assumed here. What they are handed is written down by managers that pass every call
on (`Managers.noted`), which changes nothing else (`Client.sync_noted`). Jobs that are not in force are handed
over in one of four ways, by what the managers answer (`HandsOver`).
-/
import ScrapeFleet.Proofs.Collect.InForce

namespace ScrapeFleet.Collect

variable {σ : Type}

/-! ## Calls of the managers -/

/-- A call of a manager, and its answer. -/
inductive Handed where
  | scrape (config : ScrapeConfig) (answer : Except ApplyFailure Unit)
  | discovery (d : DiscoveryMap) (answer : Except ApplyFailure Unit)

/-- The managers, with every call written down. -/
def Managers.noted (m : Managers σ) : Managers (σ × List Handed) where
  scrape config w :=
    let (after, answer) := m.scrape config w.1
    ((after, w.2 ++ [.scrape config answer]), answer)
  discovery d w :=
    let (after, answer) := m.discovery d w.1
    ((after, w.2 ++ [.discovery d answer]), answer)

theorem Managers.noted_scrape {m : Managers σ} {config : ScrapeConfig} {w after : σ}
    {answer : Except ApplyFailure Unit} (h : m.scrape config w = (after, answer)) (calls : List Handed) :
    m.noted.scrape config (w, calls) = ((after, calls ++ [.scrape config answer]), answer) := by
  simp only [noted, h]

theorem Managers.noted_discovery {m : Managers σ} {d : DiscoveryMap} {w after : σ}
    {answer : Except ApplyFailure Unit} (h : m.discovery d w = (after, answer)) (calls : List Handed) :
    m.noted.discovery d (w, calls) = ((after, calls ++ [.discovery d answer]), answer) := by
  simp only [noted, h]

/-- The result of a sync during which these calls were made. -/
def SyncResult.noting (r : SyncResult σ) (calls : List Handed) : SyncResult (σ × List Handed) :=
  { r with world := (r.world, calls) }

/-- How jobs that are not in force are handed over, and what the sync comes to. The discovery is only asked
where the scraping accepts, and only where the discovery refuses is the scraping given back what it had
before, if it had anything. -/
inductive HandsOver (config : ScrapeConfig) (discovery : DiscoveryMap) (before : Option ScrapeConfig) :
    List Handed → Except SyncFailure Outcome → Prop where
  | refused (e : ApplyFailure) :
      HandsOver config discovery before [.scrape config (.error e)] (.error (.apply e))
  | accepted :
      HandsOver config discovery before [.scrape config (.ok ()), .discovery discovery (.ok ())]
        (.ok (.applied config.jobs.length))
  | nothingBefore (e : ApplyFailure) (h : before = none) :
      HandsOver config discovery before [.scrape config (.ok ()), .discovery discovery (.error e)]
        (.error (.apply e))
  | givenBack {previous : ScrapeConfig} (e : ApplyFailure) (h : before = some previous)
      (answer : Except ApplyFailure Unit) :
      HandsOver config discovery before
        [.scrape config (.ok ()), .discovery discovery (.error e), .scrape previous answer]
        (.error (.apply e))

namespace Client

variable {c : Client} {m : Managers σ} {jobs : Dict String ScrapeJob} {w : σ}

/-- Jobs that are not in force are handed over, and writing the calls down changes nothing else. -/
theorem renew_noted (h : c.appliedDigest ≠ some (jobMapDigest jobs)) :
    ∃ calls, c.renew m.noted jobs (w, []) = (c.renew m jobs w).noting calls ∧
      HandsOver (c.settings.configuration jobs) (c.settings.discoveryMap jobs) c.applied calls
        (c.renew m jobs w).outcome := by
  simp only [renew, if_neg h, apply]
  rcases hscrape : m.scrape (c.settings.configuration jobs) w with ⟨w₁, e | accepted⟩
  · simp only [Managers.noted_scrape hscrape]
    exact ⟨_, rfl, .refused e⟩
  rcases hdiscovery : m.discovery (c.settings.discoveryMap jobs) w₁ with ⟨w₂, e | accepted⟩
  · cases hbefore : c.applied with
    | none =>
      simp only [Managers.noted_scrape hscrape, hdiscovery, Managers.noted_discovery hdiscovery]
      exact ⟨_, rfl, .nothingBefore e rfl⟩
    | some previous =>
      rcases hrestore : m.scrape previous w₂ with ⟨w₃, e' | accepted⟩
      · simp only [Managers.noted_scrape hscrape, hdiscovery, Managers.noted_discovery hdiscovery,
          hrestore, Managers.noted_scrape hrestore]
        exact ⟨_, rfl, .givenBack e rfl (.error e')⟩
      · simp only [Managers.noted_scrape hscrape, hdiscovery, Managers.noted_discovery hdiscovery,
          hrestore, Managers.noted_scrape hrestore]
        exact ⟨_, rfl, .givenBack e rfl (.ok ())⟩
  · simp only [Managers.noted_scrape hscrape, hdiscovery, Managers.noted_discovery hdiscovery]
    exact ⟨_, rfl, .accepted⟩

/-- Jobs that are in force are not handed over. -/
theorem renew_same (h : c.appliedDigest = some (jobMapDigest jobs)) :
    c.renew m jobs w = { client := c, world := w, outcome := .ok .unchanged } := if_pos h

/-- Either jobs are applied and recorded, or the collector stays as it is. -/
theorem record_renew (c : Client) (m : Managers σ) (jobs : Dict String ScrapeJob) (w : σ) :
    (∃ n, (c.renew m jobs w).outcome = .ok (.applied n)) ∧
        (c.renew m jobs w).client =
          { c with
            appliedDigest := some (jobMapDigest jobs)
            applied := some (c.settings.configuration jobs) } ∨
      (∀ n, (c.renew m jobs w).outcome ≠ .ok (.applied n)) ∧ (c.renew m jobs w).client = c := by
  by_cases hdigest : c.appliedDigest = some (jobMapDigest jobs)
  · rw [renew_same hdigest]
    exact .inr ⟨fun n h => (nomatch h), rfl⟩
  · simp only [renew, if_neg hdigest]
    rcases c.apply m (c.settings.configuration jobs) (c.settings.discoveryMap jobs) w with
      ⟨w', e | accepted, warnings⟩
    · exact .inr ⟨fun n h => (nomatch h), rfl⟩
    · exact .inl ⟨⟨_, rfl⟩, rfl⟩

/-- The record is of these jobs, or there is none. -/
structure Records (c : Client) (jobs : Option (Dict String ScrapeJob)) : Prop where
  digest : c.appliedDigest = jobs.map jobMapDigest
  applied : c.applied = jobs.map c.settings.configuration

end Client

/-! ## Runs -/

namespace Situation

variable {m : Managers σ} {settings : CollectorSettings} {w₀ : σ} {s : Situation σ}
  {fetched : Except SyncFailure String}

/-- The calls that a sync makes, in their order. -/
def calls (m : Managers σ) (s : Situation σ) (fetched : Except SyncFailure String) : List Handed :=
  (s.client.sync m.noted fetched (s.world, [])).world.2

/-- The jobs that a sync applied: those that it read, if that is what it came to. -/
def applies (m : Managers σ) (s : Situation σ) (fetched : Except SyncFailure String) :
    Option (Dict String ScrapeJob) :=
  match s.outcome m fetched, fetched with
  | .ok (.applied _), .ok body => s.client.jobs? body
  | _, _ => none

/-- The jobs of the last of some syncs that applied any. -/
def lastApplied (m : Managers σ) (s : Situation σ) :
    List (Except SyncFailure String) → Option (Dict String ScrapeJob)
  | [] => none
  | fetched :: rest => ((s.sync m fetched).lastApplied m rest).or (s.applies m fetched)

/-- Writing the calls down changes nothing else. -/
theorem sync_noted (m : Managers σ) (s : Situation σ) (fetched : Except SyncFailure String) :
    s.client.sync m.noted fetched (s.world, []) =
      (s.client.sync m fetched s.world).noting (s.calls m fetched) := by
  unfold calls Client.sync
  cases fetched with
  | error e => rfl
  | ok body =>
    cases hjobs : s.client.jobs? body with
    | none =>
      simp only [hjobs]
      rfl
    | some jobs =>
      simp only [hjobs]
      by_cases hdigest : s.client.appliedDigest = some (jobMapDigest jobs)
      · rw [Client.renew_same hdigest, Client.renew_same hdigest]
        rfl
      · obtain ⟨calls, hnoted, _⟩ := Client.renew_noted (m := m) (w := s.world) hdigest
        rw [hnoted]
        rfl

/-- A sync that applies jobs records them, and any other leaves the collector as it is. -/
theorem client_sync (m : Managers σ) (s : Situation σ) (fetched : Except SyncFailure String) :
    (∃ jobs n, s.applies m fetched = some jobs ∧ s.outcome m fetched = .ok (.applied n) ∧
        (s.sync m fetched).client =
          { s.client with
            appliedDigest := some (jobMapDigest jobs)
            applied := some (s.client.settings.configuration jobs) }) ∨
      s.applies m fetched = none ∧ (∀ n, s.outcome m fetched ≠ .ok (.applied n)) ∧
        (s.sync m fetched).client = s.client := by
  rcases sync_cases m s fetched with ⟨e, _, hsync⟩ | ⟨body, jobs, rfl, hjobs, _, hsync⟩
  · -- nothing was fetched that could be read, so nothing was applied
    have houtcome : s.outcome m fetched = .error e := by rw [outcome, hsync]
    refine .inr ⟨?_, fun n h => ?_, ?_⟩
    · unfold applies
      rw [houtcome]
    · rw [houtcome] at h
      cases h
    · rw [Situation.sync, hsync]
  · have houtcome : s.outcome m (.ok body) = (s.client.renew m jobs s.world).outcome := by
      rw [outcome, hsync]
    have hclient : (s.sync m (.ok body)).client = (s.client.renew m jobs s.world).client := by
      rw [Situation.sync, hsync]
    unfold applies
    rw [houtcome, hclient]
    rcases s.client.record_renew m jobs s.world with ⟨⟨n, hn⟩, hrecord⟩ | ⟨hn, hsame⟩
    · refine .inl ⟨jobs, n, ?_, hn, hrecord⟩
      rw [hn]
      exact hjobs
    · refine .inr ⟨?_, hn, hsame⟩
      cases hr : (s.client.renew m jobs s.world).outcome with
      | error e => rfl
      | ok o =>
        cases o with
        | unchanged => rfl
        | applied n => exact absurd hr (hn n)

theorem settings_sync (m : Managers σ) (s : Situation σ) (fetched : Except SyncFailure String) :
    (s.sync m fetched).client.settings = s.client.settings := by
  rcases client_sync m s fetched with ⟨_, _, _, _, hclient⟩ | ⟨_, _, hclient⟩ <;> rw [hclient]

theorem Records.sync {before : Option (Dict String ScrapeJob)} (h : s.client.Records before)
    (fetched : Except SyncFailure String) :
    (s.sync m fetched).client.Records ((s.applies m fetched).or before) := by
  rcases client_sync m s fetched with ⟨jobs, _, happlies, _, hclient⟩ | ⟨happlies, _, hclient⟩
  · rw [hclient, happlies]
    exact ⟨rfl, rfl⟩
  · rw [hclient, happlies]
    exact h

/-- After some syncs the record is that of the last one that applied jobs, or else what it was before. -/
theorem records_foldl {before : Option (Dict String ScrapeJob)} (h : s.client.Records before)
    (history : List (Except SyncFailure String)) :
    (history.foldl (sync m) s).client.Records ((s.lastApplied m history).or before) := by
  induction history generalizing s before with
  | nil => exact h
  | cons fetched rest ih =>
    rw [lastApplied, Option.or_assoc]
    exact ih (Records.sync h fetched)

theorem settings_run (m : Managers σ) (settings : CollectorSettings) (w₀ : σ)
    (history : List (Except SyncFailure String)) :
    (run m settings w₀ history).client.settings = settings := by
  induction history using List.reverseRecOn with
  | nil => rfl
  | append_singleton history fetched ih => rw [run_append, settings_sync, ih]

/-- A sync finds jobs in force exactly if it reads jobs that have the digest of the record. -/
theorem outcome_eq_unchanged_iff :
    s.outcome m fetched = .ok .unchanged ↔ ∃ body jobs, fetched = .ok body ∧
      s.client.jobs? body = some jobs ∧ s.client.appliedDigest = some (jobMapDigest jobs) := by
  constructor
  · intro h
    rcases sync_cases m s fetched with ⟨e, _, hsync⟩ | ⟨body, jobs, rfl, hjobs, _, hsync⟩
    · rw [outcome, hsync] at h
      cases h
    · refine ⟨body, jobs, rfl, hjobs, ?_⟩
      by_contra hdigest
      obtain ⟨calls, _, hhands⟩ := Client.renew_noted (m := m) (w := s.world) hdigest
      rw [outcome, hsync] at h
      rw [h] at hhands
      cases hhands
  · rintro ⟨body, jobs, rfl, hjobs, hdigest⟩
    simp only [outcome, Client.sync, hjobs, Client.renew_same hdigest]

/-- A sync that finds its jobs in force, or reads none, calls nobody. -/
theorem calls_eq_nil (h : s.outcome m fetched = .ok .unchanged ∨
    ∀ body jobs, fetched = .ok body → s.client.jobs? body ≠ some jobs) : s.calls m fetched = [] := by
  unfold calls Client.sync
  cases fetched with
  | error e => rfl
  | ok body =>
    cases hjobs : s.client.jobs? body with
    | none => simp only [hjobs]
    | some jobs =>
      have hsame := h.resolve_right fun hread => hread body jobs rfl hjobs
      obtain ⟨_, _, hbody, hread, hdigest⟩ := outcome_eq_unchanged_iff.1 hsame
      obtain rfl := Except.ok.inj hbody
      obtain rfl := Option.some.inj (hjobs.symm.trans hread)
      simp only [hjobs, Client.renew_same hdigest]

/-- Jobs that a sync reads and does not find in force are handed over. -/
theorem handsOver {body : String} {jobs : Dict String ScrapeJob} (hjobs : s.client.jobs? body = some jobs)
    (hnew : s.outcome m (.ok body) ≠ .ok .unchanged) :
    HandsOver (s.client.settings.configuration jobs) (s.client.settings.discoveryMap jobs) s.client.applied
      (s.calls m (.ok body)) (s.outcome m (.ok body)) := by
  have hdigest : s.client.appliedDigest ≠ some (jobMapDigest jobs) := fun hdigest =>
    hnew (outcome_eq_unchanged_iff.2 ⟨body, jobs, rfl, hjobs, hdigest⟩)
  obtain ⟨calls, hnoted, hhands⟩ := Client.renew_noted (m := m) (w := s.world) hdigest
  simp only [Situation.calls, outcome, Client.sync, hjobs, hnoted]
  exact hhands

/-- **What is recorded was accepted, and nothing else is.** After any run, whatever was fetched and whatever
the managers answered, the record is of the jobs that the last applying sync read, and empty if none applied
any. The next sync leaves it alone unless it applies jobs. It finds its jobs in force exactly if they have the
digest of the record, and then it calls neither manager; nor does it if it reads no jobs. Other jobs it hands
over to the scraping, to the discovery if the scraping accepted, and if the discovery refused it gives back to
the scraping what the record has. -/
theorem records_run (m : Managers σ) (settings : CollectorSettings) (w₀ : σ)
    (history : List (Except SyncFailure String)) (fetched : Except SyncFailure String) :
    let s := run m settings w₀ history
    s.client.Records ((fresh settings w₀).lastApplied m history) ∧
      ((∀ n, s.outcome m fetched ≠ .ok (.applied n)) → (s.sync m fetched).client = s.client) ∧
      (s.outcome m fetched = .ok .unchanged ↔ ∃ body jobs, fetched = .ok body ∧
        s.client.jobs? body = some jobs ∧ s.client.appliedDigest = some (jobMapDigest jobs)) ∧
      ((s.outcome m fetched = .ok .unchanged ∨
        ∀ body jobs, fetched = .ok body → s.client.jobs? body ≠ some jobs) → s.calls m fetched = []) ∧
      ∀ body jobs, fetched = .ok body → s.client.jobs? body = some jobs →
        s.outcome m fetched ≠ .ok .unchanged →
          HandsOver (settings.configuration jobs) (settings.discoveryMap jobs) s.client.applied
            (s.calls m fetched) (s.outcome m fetched) := by
  intro s
  refine ⟨?_, fun hn => ?_, outcome_eq_unchanged_iff, calls_eq_nil, ?_⟩
  · have hfresh : (fresh settings w₀).client.Records none := ⟨rfl, rfl⟩
    have hrecords := records_foldl (m := m) hfresh history
    rwa [Option.or_none] at hrecords
  · rcases client_sync m s fetched with ⟨_, n, _, hn', _⟩ | ⟨_, _, hclient⟩
    · exact absurd hn' (hn n)
    · exact hclient
  · rintro body jobs rfl hjobs hnew
    have hhands := handsOver hjobs hnew
    rwa [settings_run] at hhands

/-- The second document is handed over and the discovery refuses it: the record stays that of the first, which
the scraping is given back. -/
theorem records_run_second_refused :
    let s := run Script.managers {} refusingSecond [.ok (oneJob "a")]
    s.outcome Script.managers (.ok (oneJob "b")) = .error (.apply (.rejected "discovery" "scripted")) ∧
      s.client.applied = some (CollectorSettings.configuration {} (oneJobMap "a")) ∧
      (s.sync Script.managers (.ok (oneJob "b"))).client = s.client ∧
      HandsOver (CollectorSettings.configuration {} (oneJobMap "b"))
        (CollectorSettings.discoveryMap {} (oneJobMap "b")) s.client.applied
        (s.calls Script.managers (.ok (oneJob "b"))) (s.outcome Script.managers (.ok (oneJob "b"))) := by
  have hbefore := run_scripted refusingSecond ["a"] (by simp)
  simp only [List.map_cons, List.map_nil] at hbefore
  have herr : (run Script.managers {} refusingSecond [.ok (oneJob "a")]).outcome Script.managers
      (.ok (oneJob "b")) = .error (.apply (.rejected "discovery" "scripted")) := by
    rw [outcome_read Script.managers_faithful refusingSecond _ jobs?_b, hbefore]
    decide +kernel
  have happlied : (run Script.managers {} refusingSecond [.ok (oneJob "a")]).client.applied =
      some (CollectorSettings.configuration {} (oneJobMap "a")) := by
    rw [hbefore]
    decide +kernel
  have hjobs := (jobs?_run Script.managers_faithful {} refusingSecond [.ok (oneJob "a")] _).trans jobs?_b
  obtain ⟨_, hstays, _, _, hhands⟩ :=
    records_run Script.managers {} refusingSecond [.ok (oneJob "a")] (.ok (oneJob "b"))
  refine ⟨herr, happlied, hstays fun n h => ?_, hhands _ _ rfl hjobs fun h => ?_⟩
  · rw [herr] at h
    cases h
  · rw [herr] at h
    cases h

end Situation

end ScrapeFleet.Collect
