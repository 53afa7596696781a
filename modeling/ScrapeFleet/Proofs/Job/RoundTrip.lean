/-
# ScrapeFleet.Proofs.Job.RoundTrip — reading a written configuration

A configuration is read from its document as it was, and so is the map of its jobs. No text is in the way:
each is written in a form that carries it, and the settings of a client, which are settled before it is known
that text is wanted, settle to text. Only numbers have bounds, and durations are whole milliseconds
(`ScrapeConfig.Exact`).
-/
import ScrapeFleet.Job.Digest
import ScrapeFleet.Proofs.Job.Parts
import ScrapeFleet.Proofs.Job.Reading
import ScrapeFleet.Proofs.Yaml.ShortKey

namespace ScrapeFleet

open Doc (shownFields)
open Job (HttpClient)

/-- The settings of a client settle to what they say. -/
theorem Job.HttpClient.settles_id (h : HttpClient) :
    h.Settles (Yaml.valueDoc id) (Yaml.settledDoc id) := by
  intro f hf
  refine Yaml.settle?_of_texts (fun l hl => ?_) fun s _ => Yaml.meaning_of_plain
  exact h.int_not_mem l (Value.mem_fieldLeaves hf hl)

/-- A written job is read as it was. -/
theorem ScrapeJob.read_valueDoc {j : ScrapeJob} (hj : j.Exact) :
    ScrapeJob.read (Yaml.valueDoc id j.write) = some j := by
  -- texts that are shown by the identity stay as they are
  have hread := ScrapeJob.read_shown Yaml.shows_id (Yaml.shows_settledDoc id) (fun _ _ => rfl) hj
    fun c _ => c.settles_id
  rwa [ScrapeJob.mapTexts_id] at hread

/-- A map of jobs is read from its document as it was. -/
theorem readJobDocument_jobDocument {jobs : Dict String ScrapeJob}
    (hjobs : ∀ e ∈ jobs.toList, e.2.Exact) : readJobDocument (jobDocument jobs) = some jobs := by
  have hdepth : (writeJobMap jobs).depth ≤ Yaml.depthLimit :=
    Nat.le_trans (depth_writeJobMap jobs) (by decide)
  have htree : Yaml.read? (Yaml.render (writeJobMap jobs)) = some (Yaml.valueDoc id (writeJobMap jobs)) :=
    Yaml.read?_render _ hdepth
  have hread : readJobMap (Yaml.valueDoc id (writeJobMap jobs)) = some (jobs.mapEntries id id) :=
    Yaml.shows_id.readDict jobs.toList fun e he => ScrapeJob.read_valueDoc (hjobs e he)
  rw [readJobDocument, jobDocument, htree, Option.bind_some, hread, Dict.mapEntries_id]

namespace ScrapeConfig

/-- What the jobs of a configuration say is what they are. -/
def Exact (c : ScrapeConfig) : Prop := ∀ j ∈ c.jobs, j.Exact

variable {c : ScrapeConfig}

theorem Exact.jobMap (h : c.Exact) : ∀ e ∈ c.jobMap.toList, e.2.Exact := by
  intro e he
  obtain ⟨j, hj, rfl⟩ := List.mem_map.1 (Dict.mem_of_mem_ofList he)
  exact h j hj

theorem depth_write (c : ScrapeConfig) : c.write.depth ≤ 7 := by
  simp only [write, Value.forall_field, Value.depth_record_le, Value.depth_list_le, List.forall_mem_map]
  exact fun j _ => j.depth_write

/-- A configuration is read from its document as it was. -/
theorem ofDocument?_document (h : c.Exact) : ofDocument? c.document = some c := by
  obtain ⟨fs, hfs⟩ : ∃ fs, fs = Value.field "scrape_configs" (.list (c.jobs.map ScrapeJob.write)) := ⟨_, rfl⟩
  have hdepth : c.write.depth ≤ Yaml.depthLimit := Nat.le_trans c.depth_write (by decide)
  have htree : Yaml.read? c.document = some (Yaml.valueDoc id c.write) := Yaml.read?_render _ hdepth
  have hnamed : Value.Named fs ["scrape_configs"] := hfs ▸ Value.named_field _ _
  have hjobs : fs.lookup "scrape_configs" = some (.list (c.jobs.map ScrapeJob.write)) := by simp [hfs]
  have hread := Yaml.shows_id.list? (g := id) c.jobs fun j hj => ScrapeJob.read_valueDoc (h j hj)
  have hlist : (shownFields (Yaml.valueDoc id) fs).list "scrape_configs" ScrapeJob.read = some c.jobs := by
    rw [Doc.Fields.list, Doc.Fields.withDefault, Doc.lookup_shownFields, hjobs]
    rwa [List.map_id] at hread
  rw [ofDocument?, htree, Option.bind_some, read, write, ← hfs,
    Doc.fields?_shown Yaml.shows_id (fun _ _ => rfl) (by decide) hnamed]
  simp only [hlist, Option.bind_eq_bind, Option.bind_some]
  rfl

end ScrapeConfig

end ScrapeFleet
