/-
# ScrapeFleet.Proofs.Collect.Retarget — jobs whose targets the allocator lists

A collector takes over every job as it is, but for its name and for where its targets come from: these are
listed at one address of the allocator, and the manager of the discovery is given the same address
(`retargets_exactly`). The address names the job and the collector, each written so that none of the signs of an
address is left in it. Behind the last question mark stands the collector, and behind the last slash of
`/jobs/` the job, so an address says whose targets it lists (`targetsUrl_inj`).
-/
import ScrapeFleet.Collect.Targets
import ScrapeFleet.Proofs.Text.FormEncoded

namespace ScrapeFleet.Collect

open Text.FormEncoded (IsPart decode? decode?_encode encode encode_inj isPart_encode separators)

/-! ## Addresses -/

/-- An address tells the allocator, the job and the collector. -/
theorem targetsUrl_inj {c c' : CollectorSettings} {job job' : String} :
    c.targetsUrl job = c'.targetsUrl job' ↔
      withoutEndSlashes c.allocatorUrl = withoutEndSlashes c'.allocatorUrl ∧ job = job' ∧
        c.collectorId = c'.collectorId := by
  constructor
  · intro h
    have hmark (s : String) {x : Char} (hx : x ∈ separators) : x ∉ (encode s).toList :=
      (isPart_encode s).notMem hx
    have hurl (c : CollectorSettings) (job : String) : (c.targetsUrl job).toList =
        ((withoutEndSlashes c.allocatorUrl).toList ++ "/jobs".toList ++ '/' :: (encode job).toList ++
          "/targets".toList) ++ '?' :: ("collector_id=".toList ++ (encode c.collectorId).toList) := by
      simp [CollectorSettings.targetsUrl]
    have htexts := congrArg String.toList h
    rw [hurl, hurl] at htexts
    have hquery (s : String) : '?' ∉ "collector_id=".toList ++ (encode s).toList := by
      rw [List.mem_append, not_or]
      exact ⟨by decide, hmark s (by decide)⟩
    obtain ⟨hpath, hid⟩ := Text.last_mark_unique (hquery _) (hquery _) htexts
    obtain ⟨hallocator, hjob⟩ := Text.last_mark_unique (hmark job (by decide)) (hmark job' (by decide))
      (List.append_cancel_right hpath)
    exact ⟨String.toList_inj.1 (List.append_cancel_right hallocator),
      encode_inj.1 (String.toList_inj.1 hjob),
      encode_inj.1 (String.toList_inj.1 (List.append_cancel_left hid))⟩
  · rintro ⟨hallocator, rfl, hid⟩
    rw [CollectorSettings.targetsUrl, CollectorSettings.targetsUrl, hallocator, hid]

/-! ## Configurations -/

/-- The jobs of a collector are those of the map in its order, each with its discovery replaced. -/
theorem jobs_configuration (c : CollectorSettings) (jobs : Dict String ScrapeJob) :
    (c.configuration jobs).jobs = jobs.toList.map fun e => c.retarget e.1 e.2 := by
  have hvalues : (jobs.mapValues c.retarget).values = jobs.toList.map fun e => c.retarget e.1 e.2 := by
    simp [Dict.values, Dict.mapValues, Dict.toList]
  rw [CollectorSettings.configuration, ScrapeConfig.ofJobs, hvalues]
  -- the keys ascend, and so do the names, so sorting leaves the jobs where they are
  apply List.mergeSort_of_pairwise
  rw [List.pairwise_map]
  refine jobs.ascending.imp fun {a b} hab => ?_
  have hge : decide (b.1 < a.1) = false := Ordered.asymm hab
  show (!decide (b.1 < a.1)) = true
  rw [hge]
  rfl

/-- **What a collector makes of its jobs.** Every job of the map is taken over under its key, in ascending order
of the keys, and only its discovery is replaced, by one address that the manager of the discovery is given, too.
In the address the job and the collector are written without any sign of an address, and read back as what they
are, so no other job or collector has that address. -/
theorem retargets_exactly (c : CollectorSettings) (jobs : Dict String ScrapeJob) :
    (c.configuration jobs).jobs = jobs.toList.map (fun e =>
        { e.2 with name := e.1, kubernetes := [], static := [], http := [c.discovery e.1] }) ∧
      (c.configuration jobs).jobs.Pairwise (fun a b => a.name < b.name) ∧
      (c.discoveryMap jobs).toList = jobs.toList.map (fun e => (e.1, [c.discovery e.1])) ∧
      ∀ job, ∃ path query : String,
        c.discovery job = {
          url := withoutEndSlashes c.allocatorUrl ++ "/jobs/" ++ path ++ "/targets?collector_id=" ++ query
          refreshInterval := none
          client := { followRedirects := some false } } ∧
        IsPart path.toList ∧ decode? path = some job ∧
        IsPart query.toList ∧ decode? query = some c.collectorId ∧
        ∀ c' job', c.targetsUrl job = CollectorSettings.targetsUrl c' job' ↔
          withoutEndSlashes c.allocatorUrl = withoutEndSlashes c'.allocatorUrl ∧ job = job' ∧
            c.collectorId = c'.collectorId := by
  refine ⟨jobs_configuration c jobs, ?_, ?_, fun job => ?_⟩
  · rw [jobs_configuration, List.pairwise_map]
    exact jobs.ascending.imp fun {a b} hab => of_decide_eq_true hab
  · show ((jobs.entries.map _).map _) = _
    rw [List.map_map]
    rfl
  · exact ⟨encode job, encode c.collectorId, rfl, isPart_encode job,
      decode?_encode job, isPart_encode _,
      decode?_encode _, fun _ _ => targetsUrl_inj⟩

end ScrapeFleet.Collect
