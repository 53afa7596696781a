/-
# ScrapeFleet.Proofs.Collect.InForce — what the two managers have in force

A collector does not know that a hand-over stopped half-way. Its record is what both managers accepted
last, and as long as the record stands for the fetched document nothing is handed over again.

What a run leaves in force follows from how its hand-overs went (`Coincides`): the discovery has what was
accepted last, and the scraping has that too unless it was left with something else since. From this
follow the exact conditions under which a successful sync has brought its jobs into force
(`inForce_of_ok`) and a failed one has changed nothing (`inForce_of_error`).
-/
import Mathlib.Data.List.Induction
import Mathlib.Data.Set.Function
import ScrapeFleet.Proofs.Collect.HandOver
import ScrapeFleet.Proofs.Job.RoundTrip

namespace ScrapeFleet.Collect

variable {σ : Type}

/-! ## Runs -/

/-- A collector and the world that it acts on, with what its hand-overs came to so far. -/
structure Situation (σ : Type) where
  client : Client
  world : σ
  /-- The jobs that both managers accepted last. -/
  accepted : Option (Dict String ScrapeJob) := none
  /-- What the scraping was left with since. -/
  left : Option ScrapeConfig := none

namespace Situation

variable {m : Managers σ} {v : Sight σ} {settings : CollectorSettings} {w₀ : σ}

/-- How a sync hands over what was fetched. -/
def course (m : Managers σ) (s : Situation σ) : Except SyncFailure String → Course
  | .error _ => .untouched
  | .ok body =>
    match s.client.jobs? body with
    | none => .untouched
    | some jobs => s.client.course m jobs s.world

/-- What a sync comes to. -/
def outcome (m : Managers σ) (s : Situation σ) (fetched : Except SyncFailure String) :
    Except SyncFailure Outcome :=
  (s.client.sync m fetched s.world).outcome

/-- The situation after a sync. -/
def sync (m : Managers σ) (s : Situation σ) (fetched : Except SyncFailure String) : Situation σ where
  client := (s.client.sync m fetched s.world).client
  world := (s.client.sync m fetched s.world).world
  accepted := (s.course m fetched).lastAccepted s.accepted
  left := (s.course m fetched).lastLeft s.left

/-- A new collector in some world. -/
def fresh (settings : CollectorSettings) (w₀ : σ) : Situation σ :=
  { client := { settings := settings }, world := w₀ }

/-- The situation after a new collector has synced with what was fetched one after the other. -/
def run (m : Managers σ) (settings : CollectorSettings) (w₀ : σ)
    (history : List (Except SyncFailure String)) : Situation σ :=
  history.foldl (sync m) (fresh settings w₀)

theorem run_append (history : List (Except SyncFailure String)) (fetched : Except SyncFailure String) :
    run m settings w₀ (history ++ [fetched]) = (run m settings w₀ history).sync m fetched := by
  simp [run]

/-- A sync either hands nothing over and changes nothing, or hands over the jobs that it read. -/
theorem sync_cases (m : Managers σ) (s : Situation σ) (fetched : Except SyncFailure String) :
    (∃ e, s.course m fetched = .untouched ∧
        s.client.sync m fetched s.world = { client := s.client, world := s.world, outcome := .error e }) ∨
      ∃ body jobs, fetched = .ok body ∧ s.client.jobs? body = some jobs ∧
        s.course m fetched = s.client.course m jobs s.world ∧
        s.client.sync m fetched s.world = s.client.renew m jobs s.world := by
  cases fetched with
  | error e => exact .inl ⟨e, rfl, rfl⟩
  | ok body =>
    cases hjobs : s.client.jobs? body with
    | none =>
      refine .inl ⟨.parse, ?_, ?_⟩
      · simp only [course, hjobs]
      · simp only [Client.sync, hjobs]
    | some jobs =>
      refine .inr ⟨body, jobs, rfl, hjobs, ?_, ?_⟩
      · simp only [course, hjobs]
      · simp only [Client.sync, hjobs]

/-- What every sync leads to, by how it handed over what it read. -/
theorem sync_course (hm : m.Faithful v) (s : Situation σ) (fetched : Except SyncFailure String) :
    (s.sync m fetched).client = (s.course m fetched).client s.client ∧
      v.discovery (s.sync m fetched).world =
        (s.course m fetched).discovery s.client.settings (v.discovery s.world) ∧
      v.scrape (s.sync m fetched).world =
        (s.course m fetched).scrape s.client.settings (v.scrape s.world) ∧
      ∀ {previous}, s.course m fetched = .restored previous → s.client.applied = some previous := by
  rcases sync_cases m s fetched with ⟨e, hcourse, hsync⟩ | ⟨body, jobs, _, _, hcourse, hsync⟩
  · rw [Situation.sync, hcourse, hsync]
    refine ⟨rfl, rfl, rfl, fun h => ?_⟩
    cases h
  · have hleads := Client.leads_renew hm s.client jobs s.world
    rw [← hcourse, ← hsync] at hleads
    refine ⟨hleads.client, hleads.discovery, hleads.scrape, fun h => ?_⟩
    have hfits := hleads.fits
    rw [h] at hfits
    exact hfits.1

/-- What was accepted makes a sync succeed. -/
theorem not_accepted_of_error (hm : m.Faithful v) {s : Situation σ}
    {fetched : Except SyncFailure String} {e : SyncFailure} (h : s.outcome m fetched = .error e)
    (jobs : Dict String ScrapeJob) : s.course m fetched ≠ .accepted jobs := by
  rcases sync_cases m s fetched with ⟨e', hcourse, _⟩ | ⟨body, read, _, _, hcourse, hsync⟩
  · rw [hcourse]
    intro h
    cases h
  · rw [outcome, hsync] at h
    rw [hcourse]
    exact (Client.leads_renew hm s.client read s.world).fits.not_accepted h jobs

/-- What both managers have in force agrees with the record of the collector: the discovery has what was
accepted last, and the scraping has that unless it was left with something else. -/
structure Coincides (v : Sight σ) (settings : CollectorSettings) (w₀ : σ) (s : Situation σ) : Prop where
  setup : s.client.settings = settings
  digest : s.client.appliedDigest = s.accepted.map jobMapDigest
  applied : s.client.applied = s.accepted.map settings.configuration
  discovery : v.discovery s.world = (s.accepted.map settings.discoveryMap).or (v.discovery w₀)
  scrape : v.scrape s.world = s.left.or ((s.accepted.map settings.configuration).or (v.scrape w₀))

theorem Coincides.sync (hm : m.Faithful v) {s : Situation σ} (hs : s.Coincides v settings w₀)
    (fetched : Except SyncFailure String) : (s.sync m fetched).Coincides v settings w₀ := by
  obtain ⟨hclient, hdiscovery, hscrape, hrestored⟩ := sync_course hm s fetched
  have happlied : s.client.applied = s.accepted.map s.client.settings.configuration := by
    rw [hs.setup]
    exact hs.applied
  have hrecord := (s.course m fetched).client_lastAccepted hs.digest happlied
  rw [hs.setup] at hdiscovery hscrape hrecord
  rw [← hclient] at hrecord
  rw [hs.discovery] at hdiscovery
  rw [hs.scrape, Course.scrape_lastLeft _ fun h => hs.applied.symm.trans (hrestored h)] at hscrape
  exact {
    setup := hrecord.1
    digest := hrecord.2.1
    applied := hrecord.2.2
    discovery := hdiscovery.trans (Course.discovery_lastAccepted _ _ _ _)
    scrape := hscrape }

/-- After every run the record and what is in force agree. -/
theorem coincides_run (hm : m.Faithful v) (settings : CollectorSettings) (w₀ : σ)
    (history : List (Except SyncFailure String)) :
    (run m settings w₀ history).Coincides v settings w₀ := by
  induction history using List.reverseRecOn with
  | nil => exact ⟨rfl, rfl, rfl, rfl, rfl⟩
  | append_singleton history fetched ih =>
    rw [run_append]
    exact ih.sync hm fetched

/-! ## Which document is in force -/

/-- The jobs of the documents that were fetched. -/
def documents (settings : CollectorSettings) (history : List (Except SyncFailure String)) :
    Set (Dict String ScrapeJob) :=
  {jobs | ∃ body, .ok body ∈ history ∧ Client.jobs? { settings := settings } body = some jobs}

theorem documents_append (settings : CollectorSettings)
    (history : List (Except SyncFailure String)) (fetched : Except SyncFailure String) :
    documents settings history ⊆ documents settings (history ++ [fetched]) := by
  rintro jobs ⟨body, hbody, hjobs⟩
  exact ⟨body, List.mem_append_left _ hbody, hjobs⟩

theorem jobs?_run (hm : m.Faithful v) (settings : CollectorSettings) (w₀ : σ)
    (history : List (Except SyncFailure String)) (body : String) :
    (run m settings w₀ history).client.jobs? body = Client.jobs? { settings := settings } body := by
  rw [Client.jobs?, (coincides_run hm settings w₀ history).setup]
  rfl

/-- The situation after jobs were read. -/
def renew (m : Managers σ) (s : Situation σ) (jobs : Dict String ScrapeJob) : Situation σ where
  client := (s.client.renew m jobs s.world).client
  world := (s.client.renew m jobs s.world).world
  accepted := (s.client.course m jobs s.world).lastAccepted s.accepted
  left := (s.client.course m jobs s.world).lastLeft s.left

/-- A run in which every document can be read is a run over the jobs of the documents. -/
theorem run_read (hm : m.Faithful v) (w₀ : σ) (read : List (String × Dict String ScrapeJob))
    (hread : ∀ d ∈ read, Client.jobs? { settings := settings } d.1 = some d.2) :
    run m settings w₀ (read.map fun d => .ok d.1) =
      (read.map fun d => d.2).foldl (renew m) (fresh settings w₀) := by
  induction read using List.reverseRecOn with
  | nil => rfl
  | append_singleton read d ih =>
    have hbefore := ih fun d hd => hread d (List.mem_append_left _ hd)
    have hlast := hread d (List.mem_append_right _ (List.mem_singleton_self d))
    have hjobs := (jobs?_run hm settings w₀ (read.map fun d => .ok d.1) d.1).trans hlast
    rw [List.map_append, List.map_append, List.map_singleton, List.map_singleton, run_append,
      List.foldl_append, ← hbefore]
    simp only [Situation.sync, course, Client.sync, hjobs]
    rfl

theorem outcome_read (hm : m.Faithful v) (w₀ : σ) (history : List (Except SyncFailure String))
    {body : String} {jobs : Dict String ScrapeJob}
    (hjobs : Client.jobs? { settings := settings } body = some jobs) :
    (run m settings w₀ history).outcome m (.ok body) =
      ((run m settings w₀ history).client.renew m jobs (run m settings w₀ history).world).outcome := by
  have hread := (jobs?_run hm settings w₀ history body).trans hjobs
  simp only [outcome, Client.sync, hread]

theorem course_read (hm : m.Faithful v) (w₀ : σ) (history : List (Except SyncFailure String))
    {body : String} {jobs : Dict String ScrapeJob}
    (hjobs : Client.jobs? { settings := settings } body = some jobs) :
    (run m settings w₀ history).course m (.ok body) =
      (run m settings w₀ history).client.course m jobs (run m settings w₀ history).world := by
  have hread := (jobs?_run hm settings w₀ history body).trans hjobs
  simp only [course, hread]

/-- What was accepted was fetched. -/
theorem accepted_mem_documents (hm : m.Faithful v) (settings : CollectorSettings) (w₀ : σ)
    (history : List (Except SyncFailure String)) {jobs : Dict String ScrapeJob}
    (h : (run m settings w₀ history).accepted = some jobs) : jobs ∈ documents settings history := by
  induction history using List.reverseRecOn with
  | nil => cases h
  | append_singleton history fetched ih =>
    rw [run_append] at h
    -- only a course that ends in acceptance leaves something new, and that was read in this sync
    have hold (h : (run m settings w₀ history).accepted = some jobs) :
        jobs ∈ documents settings (history ++ [fetched]) :=
      documents_append settings history fetched (ih h)
    rcases sync_cases m (run m settings w₀ history) fetched with
      ⟨e, hcourse, _⟩ | ⟨body, read, rfl, hread, hcourse, _⟩
    · rw [Situation.sync, hcourse] at h
      exact hold h
    · have hleads := Client.leads_renew hm (run m settings w₀ history).client read
        (run m settings w₀ history).world
      rw [jobs?_run hm] at hread
      rw [Situation.sync, hcourse] at h
      cases hc : (run m settings w₀ history).client.course m read (run m settings w₀ history).world with
      | accepted jobs' =>
        have hfits := hleads.fits
        rw [hc] at h hfits
        have hjobs' : jobs' = read := hfits.1
        obtain rfl := Option.some.inj h
        exact ⟨body, List.mem_append_right _ (List.mem_singleton_self _), hread.trans (by rw [hjobs'])⟩
      | untouched => rw [hc] at h; exact hold h
      | refused => rw [hc] at h; exact hold h
      | restored config => rw [hc] at h; exact hold h
      | left config => rw [hc] at h; exact hold h

/-- A sync that succeeds leaves the jobs that it read as what was accepted last. -/
theorem accepted_of_ok (hm : m.Faithful v) {history : List (Except SyncFailure String)} {body : String}
    {jobs : Dict String ScrapeJob} {o : Outcome}
    (hdigest : Set.InjOn jobMapDigest (documents settings (history ++ [.ok body])))
    (hjobs : Client.jobs? { settings := settings } body = some jobs)
    (hok : (run m settings w₀ history).outcome m (.ok body) = .ok o) :
    (run m settings w₀ (history ++ [.ok body])).accepted = some jobs := by
  rw [run_append]
  rcases sync_cases m (run m settings w₀ history) (.ok body) with
    ⟨e, _, hsync⟩ | ⟨body', read, hbody, hread, hcourse, hsync⟩
  · rw [outcome, hsync] at hok
    cases hok
  obtain rfl := Except.ok.inj hbody
  have hsame : read = jobs := by
    rw [jobs?_run hm, hjobs] at hread
    exact (Option.some.inj hread).symm
  have hleads := Client.leads_renew hm (run m settings w₀ history).client read
    (run m settings w₀ history).world
  rw [← hsync, ← hcourse, hsame] at hleads
  rcases hleads.fits.of_ok hok with haccepted | ⟨huntouched, hrecord⟩
  · rw [Situation.sync, haccepted]
    rfl
  · rw [Situation.sync, huntouched]
    show (run m settings w₀ history).accepted = some jobs
    -- the record has the digest of the jobs, and no other document of this run has it
    rw [(coincides_run hm settings w₀ history).digest] at hrecord
    obtain ⟨last, hlast, heq⟩ := Option.map_eq_some_iff.1 hrecord
    have hmem : last ∈ documents settings (history ++ [.ok body]) :=
      documents_append settings history (.ok body) (accepted_mem_documents hm settings w₀ history hlast)
    have hnew : jobs ∈ documents settings (history ++ [.ok body]) :=
      ⟨body, List.mem_append_right _ (List.mem_singleton_self _), hjobs⟩
    rw [hlast, hdigest hmem hnew heq]

/-- After a sync that succeeds the discovery has the jobs that were read in force, and the scraping has
them in force exactly if it was not left with another configuration since the managers last agreed. -/
theorem inForce_of_ok (hm : m.Faithful v) (settings : CollectorSettings) (w₀ : σ)
    (history : List (Except SyncFailure String)) {body : String} {jobs : Dict String ScrapeJob}
    {o : Outcome}
    (hdigest : Set.InjOn jobMapDigest (documents settings (history ++ [.ok body])))
    (hjobs : Client.jobs? { settings := settings } body = some jobs)
    (hok : (run m settings w₀ history).outcome m (.ok body) = .ok o) :
    v.discovery (run m settings w₀ (history ++ [.ok body])).world = some (settings.discoveryMap jobs) ∧
      (v.scrape (run m settings w₀ (history ++ [.ok body])).world = some (settings.configuration jobs) ↔
        ∀ config ∈ (run m settings w₀ (history ++ [.ok body])).left,
          config = settings.configuration jobs) := by
  have haccepted := accepted_of_ok hm hdigest hjobs hok
  have hs := coincides_run hm settings w₀ (history ++ [.ok body])
  have hdiscovery := hs.discovery
  have hscrape := hs.scrape
  rw [haccepted] at hdiscovery hscrape
  refine ⟨hdiscovery, ?_⟩
  rw [hscrape]
  cases (run m settings w₀ (history ++ [.ok body])).left with
  | none => simp
  | some config => simp

/-- A document with one job. -/
def oneJob (name : String) : String := name ++ ":\n  job_name: " ++ name ++ "\n"

/-- The jobs of that document. -/
def oneJobMap (name : String) : Dict String ScrapeJob := Dict.empty.insert name { name := name }

/-- The document of jobs that say nothing but their names is read as it was written, if it has no placeholder. -/
theorem jobs?_of_named {text : String} {jobs : Dict String ScrapeJob} (htext : jobDocument jobs = text)
    (hkept : Text.substitute ScrapeJob.shardPlaceholder "0" text = text)
    (hnamed : ∀ e ∈ jobs.toList, e.2 = { name := e.2.name }) : Client.jobs? {} text = some jobs := by
  have hexact : ∀ e ∈ jobs.toList, e.2.Exact := by
    intro e he
    rw [hnamed e he]
    exact {
      interval := fun _ h => nomatch h
      timeout := fun _ h => nomatch h
      refresh := fun _ h => absurd h List.not_mem_nil
      samples := fun _ h => nomatch h
      targets := fun _ h => nomatch h
      moduli := fun _ h => absurd h List.not_mem_nil }
  show readJobDocument (Text.substitute ScrapeJob.shardPlaceholder "0" text) = some jobs
  rw [hkept, ← htext]
  exact readJobDocument_jobDocument hexact

theorem jobs?_a : Client.jobs? {} (oneJob "a") = some (oneJobMap "a") :=
  jobs?_of_named (by decide +kernel) (by decide +kernel) (by decide)

theorem jobs?_b : Client.jobs? {} (oneJob "b") = some (oneJobMap "b") :=
  jobs?_of_named (by decide +kernel) (by decide +kernel) (by decide)

/-- Scripted managers that get one of the two documents after the other. -/
theorem run_scripted (script : Script) (names : List String) (hnames : ∀ n ∈ names, n = "a" ∨ n = "b") :
    run Script.managers {} script (names.map fun n => .ok (oneJob n)) =
      (names.map oneJobMap).foldl (renew Script.managers) (fresh {} script) := by
  have hread : ∀ d ∈ names.map (fun n => (oneJob n, oneJobMap n)), Client.jobs? {} d.1 = some d.2 := by
    intro d hd
    obtain ⟨n, hn, rfl⟩ := List.mem_map.1 hd
    rcases hnames n hn with rfl | rfl
    · exact jobs?_a
    · exact jobs?_b
  have hrun := run_read Script.managers_faithful script _ hread
  rw [List.map_map, List.map_map] at hrun
  exact hrun

/-- The same document is fetched twice: the second sync finds its jobs in force. -/
theorem inForce_of_same :
    (run Script.managers {} {} [.ok (oneJob "a")]).outcome Script.managers (.ok (oneJob "a")) =
        .ok .unchanged ∧
      (run Script.managers {} {} [.ok (oneJob "a"), .ok (oneJob "a")]).world.discovery =
        some (CollectorSettings.discoveryMap {} (oneJobMap "a")) ∧
      (run Script.managers {} {} [.ok (oneJob "a"), .ok (oneJob "a")]).world.scrape =
        some (CollectorSettings.configuration {} (oneJobMap "a")) := by
  have hbefore := run_scripted {} ["a"] (by simp)
  have hafter := run_scripted {} ["a", "a"] (by simp)
  have hdocuments : ∀ jobs ∈ documents {} ([.ok (oneJob "a")] ++ [.ok (oneJob "a")]),
      jobs = oneJobMap "a" := by
    rintro jobs ⟨body, hbody, hjobs⟩
    have hsame : body = oneJob "a" := by simpa using hbody
    rw [hsame, jobs?_a] at hjobs
    exact (Option.some.inj hjobs).symm
  have hok : (run Script.managers {} {} [.ok (oneJob "a")]).outcome Script.managers
      (.ok (oneJob "a")) = .ok .unchanged := by
    rw [outcome_read Script.managers_faithful {} _ jobs?_a]
    rw [List.map_singleton, List.map_singleton] at hbefore
    rw [hbefore]
    decide +kernel
  have hleft : (run Script.managers {} {} [.ok (oneJob "a"), .ok (oneJob "a")]).left = none := by
    simp only [List.map_cons, List.map_nil] at hafter
    rw [hafter]
    decide +kernel
  obtain ⟨hdiscovery, hscrape⟩ := inForce_of_ok Script.managers_faithful {} {} [.ok (oneJob "a")]
    (fun a ha b hb _ => (hdocuments a ha).trans (hdocuments b hb).symm) jobs?_a hok
  exact ⟨hok, hdiscovery, hscrape.2 fun config h => nomatch hleft.symm.trans h⟩

/-- The discovery refuses the second configuration, and the scraping refuses to take back the first. -/
def refusingRestore : Script where
  scrapeRefusals := [false, false, true]
  discoveryRefusals := [false, true]

/-- A document can be fetched again, and the sync succeeds, while the scraping still has another one. -/
theorem not_inForce_after_restore_refused :
    (run Script.managers {} refusingRestore [.ok (oneJob "a"), .ok (oneJob "b")]).outcome
        Script.managers (.ok (oneJob "a")) = .ok .unchanged ∧
      (run Script.managers {} refusingRestore
          [.ok (oneJob "a"), .ok (oneJob "b"), .ok (oneJob "a")]).world.scrape =
        some (CollectorSettings.configuration {} (oneJobMap "b")) ∧
      CollectorSettings.configuration {} (oneJobMap "b") ≠
        CollectorSettings.configuration {} (oneJobMap "a") := by
  have hbefore := run_scripted refusingRestore ["a", "b"] (by simp)
  have hafter := run_scripted refusingRestore ["a", "b", "a"] (by simp)
  simp only [List.map_cons, List.map_nil] at hbefore hafter
  refine ⟨?_, ?_, ?_⟩
  · rw [outcome_read Script.managers_faithful refusingRestore _ jobs?_a, hbefore]
    decide +kernel
  · rw [hafter]
    decide +kernel
  · decide +kernel

/-! ## Failures -/

/-- A hand-over leaves the scraping with what it had: it did not come that far, or the scraping took back
what it had, or it had before what it has now. -/
def Stationary (v : Sight σ) (w₀ : σ) (s : Situation σ) : Course → Prop
  | .untouched | .refused => True
  | .accepted jobs =>
    s.left.or (s.client.applied.or (v.scrape w₀)) = some (s.client.settings.configuration jobs)
  | .left config => s.left.or (s.client.applied.or (v.scrape w₀)) = some config
  | .restored previous => ∀ config ∈ s.left, config = previous

theorem scrape_sync_eq_iff (hm : m.Faithful v) {s : Situation σ} (hs : s.Coincides v settings w₀)
    (fetched : Except SyncFailure String) :
    v.scrape (s.sync m fetched).world = v.scrape s.world ↔ Stationary v w₀ s (s.course m fetched) := by
  obtain ⟨_, _, hscrape, hrestored⟩ := sync_course hm s fetched
  have hbefore : v.scrape s.world = s.left.or (s.client.applied.or (v.scrape w₀)) := by
    rw [hs.scrape, hs.applied]
  rw [hscrape, hbefore]
  cases hc : s.course m fetched with
  | untouched => exact iff_of_true rfl trivial
  | refused => exact iff_of_true rfl trivial
  | accepted jobs => exact eq_comm
  | left config => exact eq_comm
  | restored previous =>
    rw [hrestored hc]
    cases hleft : s.left with
    | none => simp [Course.scrape, Stationary, hleft]
    | some config => simp [Course.scrape, Stationary, hleft, eq_comm]

/-- A sync that fails leaves the discovery as it was, and it leaves the scraping as it was exactly if its
hand-over did not stop half-way, or the scraping was given back what it had. -/
theorem inForce_of_error (hm : m.Faithful v) (settings : CollectorSettings) (w₀ : σ)
    (history : List (Except SyncFailure String)) {fetched : Except SyncFailure String}
    {e : SyncFailure} (herr : (run m settings w₀ history).outcome m fetched = .error e) :
    v.discovery (run m settings w₀ (history ++ [fetched])).world =
        v.discovery (run m settings w₀ history).world ∧
      (v.scrape (run m settings w₀ (history ++ [fetched])).world =
          v.scrape (run m settings w₀ history).world ↔
        Stationary v w₀ (run m settings w₀ history) ((run m settings w₀ history).course m fetched)) := by
  have hs := coincides_run hm settings w₀ history
  rw [run_append]
  refine ⟨?_, scrape_sync_eq_iff hm hs fetched⟩
  rw [(sync_course hm _ fetched).2.1]
  cases hc : (run m settings w₀ history).course m fetched with
  | accepted jobs => exact absurd hc (not_accepted_of_error hm herr jobs)
  | untouched => rfl
  | refused => rfl
  | restored previous => rfl
  | left config => rfl

/-- The discovery refuses the second configuration, and the scraping takes back the first. -/
def refusingSecond : Script where
  discoveryRefusals := [false, true]

/-- A collector with a configuration in force keeps it if the discovery refuses the next one. -/
theorem inForce_of_second_refused :
    (run Script.managers {} refusingSecond [.ok (oneJob "a"), .ok (oneJob "b")]).world.discovery =
        (run Script.managers {} refusingSecond [.ok (oneJob "a")]).world.discovery ∧
      (run Script.managers {} refusingSecond [.ok (oneJob "a"), .ok (oneJob "b")]).world.scrape =
        (run Script.managers {} refusingSecond [.ok (oneJob "a")]).world.scrape := by
  have hbefore := run_scripted refusingSecond ["a"] (by simp)
  simp only [List.map_cons, List.map_nil] at hbefore
  have herr : (run Script.managers {} refusingSecond [.ok (oneJob "a")]).outcome Script.managers
      (.ok (oneJob "b")) = .error (.apply (.rejected "discovery" "scripted")) := by
    rw [outcome_read Script.managers_faithful refusingSecond _ jobs?_b, hbefore]
    decide +kernel
  have hcourse : (run Script.managers {} refusingSecond [.ok (oneJob "a")]).course Script.managers
      (.ok (oneJob "b")) = .restored (CollectorSettings.configuration {} (oneJobMap "a")) := by
    rw [course_read Script.managers_faithful refusingSecond _ jobs?_b, hbefore]
    decide +kernel
  have hleft : (run Script.managers {} refusingSecond [.ok (oneJob "a")]).left = none := by
    rw [hbefore]
    decide +kernel
  obtain ⟨hdiscovery, hscrape⟩ :=
    inForce_of_error Script.managers_faithful {} refusingSecond [.ok (oneJob "a")] herr
  refine ⟨hdiscovery, hscrape.2 ?_⟩
  rw [hcourse]
  exact fun config h => nomatch hleft.symm.trans h

/-- The discovery refuses the first configuration. -/
def refusingFirst : Script where
  discoveryRefusals := [true]

/-- A collector with nothing in force has a configuration in force for the scraping alone when the
discovery refuses the first one. -/
theorem not_stationary_after_first_refused :
    (run Script.managers {} refusingFirst []).outcome Script.managers (.ok (oneJob "a")) =
        .error (.apply (.rejected "discovery" "scripted")) ∧
      (run Script.managers {} refusingFirst []).world.scrape = none ∧
      (run Script.managers {} refusingFirst [.ok (oneJob "a")]).world.scrape =
        some (CollectorSettings.configuration {} (oneJobMap "a")) ∧
      (run Script.managers {} refusingFirst [.ok (oneJob "a")]).world.discovery = none := by
  have hafter := run_scripted refusingFirst ["a"] (by simp)
  simp only [List.map_cons, List.map_nil] at hafter
  refine ⟨?_, rfl, ?_, ?_⟩
  · rw [outcome_read Script.managers_faithful refusingFirst [] jobs?_a]
    decide +kernel
  · rw [hafter]
    decide +kernel
  · rw [hafter]
    decide +kernel

end Situation

end ScrapeFleet.Collect
