/-
# ScrapeFleet.Proofs.Serve.Published — what is served, and when it changes

The allocator serves one document at a time and says that it changed where the text of the next one differs.
Texts are compared, and maps of jobs are meant: the two are the same because a map of jobs can be read from
its document. This is said of everything that was loaded before (`Published.loaded`), since what a document
is compared with was itself written from a configuration.
-/
import ScrapeFleet.Proofs.Job.RoundTrip
import ScrapeFleet.Serve.Published

namespace ScrapeFleet.Serve.Published

/-- What is served after some configurations were loaded, one after the other. -/
def loaded (cs : List ScrapeConfig) : Published := cs.foldl (fun p c => (p.update c).1) {}

/-- The document that is served is the one of the last jobs. -/
theorem body?_loaded (cs : List ScrapeConfig) :
    (loaded cs).body? = cs.getLast?.map fun c => jobDocument c.jobMap := by
  obtain rfl | ⟨before, c, rfl⟩ := List.eq_nil_or_concat cs
  · rfl
  · rw [List.concat_eq_append, loaded, List.foldl_append, List.getLast?_concat]
    rfl

/-- Maps of jobs that can be read back have one document only if they are one map. -/
theorem jobDocument_inj {jobs others : Dict String ScrapeJob} (hjobs : ∀ e ∈ jobs.toList, e.2.Exact)
    (hothers : ∀ e ∈ others.toList, e.2.Exact) : jobDocument jobs = jobDocument others ↔ jobs = others := by
  refine ⟨fun h => ?_, congrArg jobDocument⟩
  have hread : some jobs = some others := by
    rw [← readJobDocument_jobDocument hjobs, ← readJobDocument_jobDocument hothers, h]
  exact Option.some.inj hread

theorem update_unchanged_iff (p : Published) (c : ScrapeConfig) :
    (p.update c).2 = false ↔ p.body? = some (jobDocument c.jobMap) := by
  show (p.body? != some (jobDocument c.jobMap)) = false ↔ _
  simp

/-- **What is written can be read back.** A configuration is read from its document as it was. Behind any
loads the next document is read as the map of its jobs, and it is unchanged exactly if this is the map of the
jobs that were loaded last. -/
theorem update_reads_back (cs : List ScrapeConfig) (c : ScrapeConfig) (hcs : ∀ d ∈ cs, d.Exact)
    (hc : c.Exact) :
    ScrapeConfig.ofDocument? c.document = some c ∧
      ((loaded cs).update c).1.body?.bind readJobDocument = some c.jobMap ∧
      (loaded cs).body?.bind readJobDocument = cs.getLast?.map (·.jobMap) ∧
      (((loaded cs).update c).2 = false ↔ cs.getLast?.map (·.jobMap) = some c.jobMap) := by
  have hread : ∀ d : ScrapeConfig, d.Exact → readJobDocument (jobDocument d.jobMap) = some d.jobMap :=
    fun d hd => readJobDocument_jobDocument hd.jobMap
  refine ⟨ScrapeConfig.ofDocument?_document hc, hread c hc, ?_, ?_⟩
  · rw [body?_loaded]
    cases hlast : cs.getLast? with
    | none => rfl
    | some d => exact hread d (hcs d (List.mem_of_getLast? hlast))
  · rw [update_unchanged_iff, body?_loaded]
    cases hlast : cs.getLast? with
    | none => simp
    | some d =>
      have hd : d.Exact := hcs d (List.mem_of_getLast? hlast)
      simp only [Option.map_some, Option.some.injEq]
      exact jobDocument_inj hd.jobMap hc.jobMap

/-- A job whose texts need quotes, lines and escapes, with settings that say nothing. -/
def awkward : ScrapeJob where
  name := "- a: b\n # c\n"
  params := .ofList [("", []), ("~", ["", "1e3", "\ttab"])]
  scrapeInterval := some ⟨90061001000000⟩
  sampleLimit := some 18446744073709551615
  client := {
    tlsConfig := some {}
    oauth2 := some { clientId := "null", tokenUrl := "007" }
    proxyUrl := some "true" }
  http := [{ url := "'", client := { authorization := some {} } }]
  relabel := [{ sourceLabels := ["\u2028"], modulus := some 0, action := .hashMod }]

theorem awkward_reads_back :
    (∀ d ∈ [ScrapeConfig.mk [awkward], ⟨[]⟩], d.Exact) ∧ (ScrapeConfig.mk [awkward]).Exact ∧
      ScrapeConfig.ofDocument? (ScrapeConfig.mk [awkward]).document = some ⟨[awkward]⟩ ∧
      ((loaded [⟨[awkward]⟩]).update ⟨[awkward]⟩).2 = false ∧
      ((loaded [⟨[awkward]⟩, ⟨[]⟩]).update ⟨[awkward]⟩).2 = true := by
  have hjob : awkward.Exact := {
    interval := by decide
    timeout := fun _ h => nomatch h
    refresh := by decide
    samples := by decide
    targets := fun _ h => nomatch h
    moduli := by decide }
  have hone : (ScrapeConfig.mk [awkward]).Exact := by
    intro j hj
    obtain rfl := List.mem_singleton.1 hj
    exact hjob
  have hboth : ∀ d ∈ [ScrapeConfig.mk [awkward], ⟨[]⟩], d.Exact := by
    have hnone : (ScrapeConfig.mk []).Exact := fun _ hj => absurd hj List.not_mem_nil
    simpa using ⟨hone, hnone⟩
  have hagain := update_reads_back [⟨[awkward]⟩] ⟨[awkward]⟩ (by simpa using hone) hone
  have hafter := update_reads_back [⟨[awkward]⟩, ⟨[]⟩] ⟨[awkward]⟩ hboth hone
  refine ⟨hboth, hone, hagain.1, hagain.2.2.2.2 rfl, ?_⟩
  rw [← Bool.not_eq_false, hafter.2.2.2]
  decide

end ScrapeFleet.Serve.Published
