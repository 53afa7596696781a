/-
# ScrapeFleet.Proofs.Collect.Shard — filling in the shard

The allocator writes a document with the placeholder of the shard in it, and a collector puts its shard
into the text of the document before it reads it. The forms of the scalars were chosen for the
placeholder. What is read is the jobs with the shard in every text of theirs, as long as that keeps the
texts of their clients texts (`jobs?_served`): these are the only ones whose forms are looked at before it is
known that text is wanted. Where it makes a number of one, nothing can be read (`byShard_not_read`).
-/
import ScrapeFleet.Collect.Client
import ScrapeFleet.Proofs.Dict
import ScrapeFleet.Proofs.Job.Parts
import ScrapeFleet.Proofs.Job.Reading
import ScrapeFleet.Proofs.Yaml.ShortKey
import ScrapeFleet.Serve.Published

namespace ScrapeFleet.Collect

open Job (HttpClient)

/-! ## What is filled in -/

/-- A text as a collector takes it: the shard stands where the placeholder was. -/
def withShard (shard : String) : String → String := Text.substitute ScrapeJob.shardPlaceholder shard

/-- A text that is a text without quotes is one with the shard in it, too. -/
def KeepsTexts (shard : String) (h : HttpClient) : Prop :=
  ∀ s, .text s ∈ Value.fieldLeaves h.writeFields → Yaml.style s = .plain →
    Yaml.meaning (withShard shard s) = .text

variable {shard : String}

theorem fills_withShard (hne : shard ≠ "") (hdigits : ∀ x ∈ shard.toList, x.isDigit = true) :
    Yaml.Fills (withShard shard) shard.toList where
  shard := ⟨fun h => hne (String.toList_inj.1 h), hdigits⟩
  toList s := by
    have hpattern : ScrapeJob.shardPlaceholder.toList = '$' :: Yaml.placeholderTail := by decide
    simp only [withShard, Text.substitute, hpattern, String.toList_ofList]
    rfl

/-- The settings of a client settle to what they say, with the shard in it. -/
theorem settles_of_keepsTexts {h : HttpClient} (hkeeps : KeepsTexts shard h) :
    h.Settles (Yaml.valueDoc (withShard shard)) (Yaml.settledDoc (withShard shard)) := by
  intro f hf
  refine Yaml.settle?_of_texts (fun l hl => ?_) fun s hs => hkeeps s (Value.mem_fieldLeaves hf hs)
  exact h.int_not_mem l (Value.mem_fieldLeaves hf hl)

/-- With the shard in it, the document of some jobs is read as their tree with the shard in every text. -/
theorem read?_withShard (hfills : Yaml.Fills (withShard shard) shard.toList) (jobs : Dict String ScrapeJob)
    (hkeys : ∀ n ∈ (writeJobMap jobs).keys, Yaml.KeyFits (withShard shard) n) :
    Yaml.read? (withShard shard (jobDocument jobs)) =
      some (Yaml.valueDoc (withShard shard) (writeJobMap jobs)) := by
  have hdepth : (writeJobMap jobs).depth ≤ Yaml.depthLimit :=
    Nat.le_trans (depth_writeJobMap jobs) (by decide)
  rw [jobDocument, hfills.render]
  exact Yaml.read?_record hfills.suits _ hkeys hdepth

/-- Reading the document of a configuration with the shard in it. -/
theorem jobs?_served (p : Serve.Published) (c : ScrapeConfig) (k : Client)
    (hne : k.settings.shard ≠ "") (hdigits : ∀ x ∈ k.settings.shard.toList, x.isDigit = true)
    (hexact : ∀ j ∈ c.jobs, j.Exact) (hkeeps : ∀ j ∈ c.jobs, ∀ h ∈ j.clients, KeepsTexts k.settings.shard h)
    (hkeys : ∀ n ∈ (writeJobMap c.jobMap).keys, Yaml.KeyFits (withShard k.settings.shard) n) :
    (p.update c).1.body?.bind k.jobs? =
      some (c.jobMap.mapEntries (withShard k.settings.shard) (·.mapTexts (withShard k.settings.shard))) := by
  have hfills := fills_withShard hne hdigits
  have hjobs : ∀ e ∈ c.jobMap.toList, e.2 ∈ c.jobs := by
    intro e he
    obtain ⟨j, hj, rfl⟩ := List.mem_map.1 (Dict.mem_of_mem_ofList he)
    exact hj
  have hshows : Doc.Shows (withShard k.settings.shard) (Yaml.valueDoc (withShard k.settings.shard)) :=
    Yaml.shows_valueDoc fun s hs => hfills.isPresent hs
  have hread := readJobMap_shown hshows (Yaml.shows_settledDoc _) (fun s hs => hfills.eq_self hs)
    (fun e he => hexact _ (hjobs e he))
    (fun e he h hh => settles_of_keepsTexts (hkeeps _ (hjobs e he) h hh))
  show (Yaml.read? (withShard k.settings.shard (jobDocument c.jobMap))).bind readJobMap = _
  rw [read?_withShard hfills c.jobMap hkeys, Option.bind_some, hread]

/-- One job whose proxy has a name with the shard in it. -/
def byAddress : ScrapeConfig where
  jobs := [{ name := "a", client := { proxyUrl := some "http://$(SHARD)" } }]

theorem jobs?_served_byAddress :
    (∀ j ∈ byAddress.jobs, j.Exact) ∧ (∀ j ∈ byAddress.jobs, ∀ h ∈ j.clients, KeepsTexts "0" h) ∧
      (∀ n ∈ (writeJobMap byAddress.jobMap).keys, Yaml.KeyFits (withShard "0") n) ∧
      (({} : Serve.Published).update byAddress).1.body?.bind (Client.jobs? {}) =
        some (Dict.ofList [("a", { name := "a", client := { proxyUrl := some "http://0" } })]) := by
  have hzero : ∀ x ∈ "0".toList, x.isDigit = true := Text.forall_of_all (by decide)
  have hfills : Yaml.Fills (withShard "0") "0".toList := fills_withShard (by decide) hzero
  have hkeys : ∀ n ∈ (writeJobMap byAddress.jobMap).keys, Yaml.KeyFits (withShard "0") n :=
    fun n _ => hfills.keyFits (by decide) n
  have hexact : ∀ j ∈ byAddress.jobs, j.Exact := by
    intro j hj
    obtain rfl := List.mem_singleton.1 hj
    exact {
      interval := fun _ h => nomatch h
      timeout := fun _ h => nomatch h
      refresh := fun _ he => absurd he List.not_mem_nil
      samples := fun _ h => nomatch h
      targets := fun _ h => nomatch h
      moduli := fun _ hr => absurd hr List.not_mem_nil }
  have haddress : withShard "0" "http://$(SHARD)" = "http://0" := by decide +kernel
  have hkeeps : ∀ j ∈ byAddress.jobs, ∀ h ∈ j.clients, KeepsTexts "0" h := by
    intro j hj h hh s hs _
    obtain rfl := List.mem_singleton.1 hj
    obtain rfl := List.mem_singleton.1 hh
    have hleaves : s = "proxy_url" ∨ s = "http://$(SHARD)" := by
      simpa [Value.fieldLeaves, Value.leaves, HttpClient.writeFields, Value.optional] using hs
    rcases hleaves with rfl | rfl
    · have hfilled : withShard "0" "proxy_url" = "proxy_url" := hfills.eq_self (by decide)
      rw [hfilled]
      decide +kernel
    · rw [haddress]
      decide +kernel
  have hmap : byAddress.jobMap.mapEntries (withShard "0") (·.mapTexts (withShard "0")) =
      Dict.ofList [("a", { name := "a", client := { proxyUrl := some "http://0" } })] := by
    have hname : withShard "0" "a" = "a" := hfills.eq_self (by decide)
    have hjob : ({ name := "a", client := { proxyUrl := some "http://$(SHARD)" } } : ScrapeJob).mapTexts
        (withShard "0") = { name := "a", client := { proxyUrl := some "http://0" } } := by
      simp only [ScrapeJob.mapTexts, HttpClient.mapTexts, Option.map_some, haddress, hname]
      rfl
    show Dict.ofList [(withShard "0" "a", _)] = _
    rw [hname]
    exact congrArg (fun job => Dict.ofList [("a", job)]) hjob
  refine ⟨hexact, hkeeps, hkeys, ?_⟩
  rw [← hmap]
  exact jobs?_served {} byAddress {} (by decide) hzero hexact hkeeps hkeys

/-! ## A text that becomes a number -/

/-- One job whose proxy is named by the shard. -/
def byShard : ScrapeConfig where
  jobs := [{ name := "a", client := { proxyUrl := some ScrapeJob.shardPlaceholder } }]

/-- The proxy is named by a number then, which the client of a job does not take for text: no collector
can read the document. -/
theorem byShard_not_read :
    (({} : Serve.Published).update byShard).1.body?.bind (Client.jobs? {}) = none := by
  have hfills : Yaml.Fills (withShard "0") "0".toList :=
    fills_withShard (by decide) (Text.forall_of_all (by decide))
  have htree := read?_withShard hfills byShard.jobMap fun n _ => hfills.keyFits (by decide) n
  show (Yaml.read? (withShard "0" (jobDocument byShard.jobMap))).bind readJobMap = none
  rw [htree, Option.bind_some]
  decide +kernel

end ScrapeFleet.Collect
