/-
# ScrapeFleet.Proofs.Collect.Changed — no change of the jobs is overlooked

A collector takes the jobs of a document for those in force if the digests are equal. The input of the digest
tells the jobs from any others that a collector can read, as long as no name has a character of zero
(`Situation.digestInput_tells_jobs`): then only a collision of the digest itself can hide a change. A name
with such a character can hold what the digest takes of another job, and is overlooked
(`Situation.odd_job_overlooked`).
-/
import ScrapeFleet.Proofs.Collect.Record
import ScrapeFleet.Proofs.Job.Digest
import ScrapeFleet.Proofs.Yaml.Tree

namespace ScrapeFleet.Collect

variable {σ : Type}

/-- What a collector reads can be written exactly. -/
theorem Client.exact_of_jobs? {c : Client} {body : String} {jobs : Dict String ScrapeJob}
    (h : c.jobs? body = some jobs) : ∀ e ∈ jobs.toList, e.2.Exact :=
  exact_of_readJobDocument h

namespace Situation

variable {m : Managers σ} {s : Situation σ}

/-- Jobs that a sync applied were read. -/
theorem exists_of_applies {fetched : Except SyncFailure String} {jobs : Dict String ScrapeJob}
    (h : s.applies m fetched = some jobs) : ∃ body, s.client.jobs? body = some jobs := by
  unfold applies at h
  split at h
  · exact ⟨_, h⟩
  · cases h

theorem exists_of_lastApplied {history : List (Except SyncFailure String)} {jobs : Dict String ScrapeJob}
    (h : s.lastApplied m history = some jobs) : ∃ (c : Client) (body : String), c.jobs? body = some jobs := by
  induction history generalizing s with
  | nil => cases h
  | cons fetched rest ih =>
    rw [lastApplied, Option.or_eq_some_iff] at h
    obtain h | ⟨-, h⟩ := h
    · exact ih h
    · exact ⟨_, exists_of_applies h⟩

/-- Two maps of jobs have one digest though its inputs differ. -/
def Collide (jobs others : Dict String ScrapeJob) : Prop :=
  digestInput jobs ≠ digestInput others ∧ jobMapDigest jobs = jobMapDigest others

/-- **The input of the digest tells jobs from others.** Any two documents, read by any collectors, where no
name has a character of zero: the inputs of the digest are equal exactly if the jobs are. So after any run,
whatever was fetched and whatever the managers answered, a sync takes other jobs than those applied last for
the ones in force only if their digests collide. -/
theorem digestInput_tells_jobs (m : Managers σ) (settings : CollectorSettings) (w₀ : σ)
    (history : List (Except SyncFailure String)) :
    (∀ (c c' : Client) (body body' : String) (jobs others : Dict String ScrapeJob),
        c.jobs? body = some jobs → c'.jobs? body' = some others → PlainNames jobs → PlainNames others →
          (digestInput jobs = digestInput others ↔ jobs = others)) ∧
      ∀ (body : String) (jobs others : Dict String ScrapeJob),
        (run m settings w₀ history).client.jobs? body = some jobs →
          (fresh settings w₀).lastApplied m history = some others → PlainNames jobs → PlainNames others →
            (run m settings w₀ history).outcome m (.ok body) = .ok .unchanged →
              jobs = others ∨ Collide jobs others := by
  have htells : ∀ (c c' : Client) (body body' : String) (jobs others : Dict String ScrapeJob),
      c.jobs? body = some jobs → c'.jobs? body' = some others → PlainNames jobs → PlainNames others →
        (digestInput jobs = digestInput others ↔ jobs = others) :=
    fun _ _ _ _ _ _ hjobs hothers => digestInput_inj (Client.exact_of_jobs? hjobs)
      (Client.exact_of_jobs? hothers)
  refine ⟨htells, fun body jobs others hjobs hlast hplain hplain' hsame => ?_⟩
  obtain ⟨c, body', hothers⟩ := exists_of_lastApplied hlast
  have hrecords : (run m settings w₀ history).client.Records (some others) := by
    have hfresh : (fresh settings w₀).client.Records none := ⟨rfl, rfl⟩
    have hrun := records_foldl (m := m) hfresh history
    rwa [Option.or_none, hlast] at hrun
  obtain ⟨_, _, hbody, hread, hdigest⟩ := outcome_eq_unchanged_iff.1 hsame
  obtain rfl := Except.ok.inj hbody
  obtain rfl := Option.some.inj (hjobs.symm.trans hread)
  have hequal : jobMapDigest jobs = jobMapDigest others :=
    Option.some.inj (hdigest.symm.trans hrecords.digest)
  by_cases h : jobs = others
  · exact .inl h
  · exact .inr ⟨mt (htells _ _ _ _ _ _ hjobs hothers hplain hplain').1 h, hequal⟩

/-! ## Two syncs -/

section Second

variable {text text' : String} {jobs jobs' : Dict String ScrapeJob}

/-- Managers that accept whatever they get apply the first jobs. -/
theorem lastApplied_first (h : Client.jobs? {} text = some jobs) :
    (fresh {} {}).lastApplied Script.managers [.ok text] = some jobs := by
  simp [lastApplied, applies, outcome, fresh, Client.sync, h, Client.renew, Client.apply, Script.managers]

/-- They do not get jobs that have the digest of the first. -/
theorem outcome_second (h : Client.jobs? {} text = some jobs) (h' : Client.jobs? {} text' = some jobs')
    (hdigest : jobMapDigest jobs' = jobMapDigest jobs) :
    (run Script.managers {} {} [.ok text]).outcome Script.managers (.ok text') = .ok .unchanged := by
  have hread := (jobs?_run Script.managers_faithful {} {} [.ok text] text').trans h'
  have hfresh : (fresh {} {} : Situation Script).client.Records none := ⟨rfl, rfl⟩
  have hrecords := records_foldl (m := Script.managers) hfresh [.ok text]
  rw [lastApplied_first h, Option.or_none] at hrecords
  have hrecord : (run Script.managers {} {} [.ok text]).client.appliedDigest = some (jobMapDigest jobs) :=
    hrecords.digest
  exact outcome_eq_unchanged_iff.2 ⟨text', jobs', rfl, hread, by rw [hrecord, hdigest]⟩

end Second

/-- The document with one job, where the name stands in quotes. -/
def oneJobQuoted : String := "a:\n  job_name: \"a\"\n"

theorem jobs?_oneJobQuoted : Client.jobs? {} oneJobQuoted = some (oneJobMap "a") := by
  let tokens : List Yaml.Token :=
    [.blockMappingStart, .key, .scalar "a" .plain, .value, .blockMappingStart, .key,
      .scalar "job_name" .plain, .value, .scalar "a" .double, .blockEnd, .blockEnd, .streamEnd]
  have hkept : Text.substitute ScrapeJob.shardPlaceholder "0" oneJobQuoted = oneJobQuoted := by
    decide +kernel
  have htokens : Yaml.tokenize oneJobQuoted = some tokens.toArray := by decide +kernel
  have htree : Yaml.readDocument tokens =
      some (.mapping none none [(.scalar none ⟨"a", .plain, none⟩,
        .mapping none none [(.scalar none ⟨"job_name", .plain, none⟩, .scalar none ⟨"a", .quoted, none⟩)])]) := by
    refine Yaml.readDocument_node (.inl rfl) (Yaml.readNode_blockMapping _ ?_)
    simp [Yaml.readBlockPairs, Yaml.readBlockValue, Yaml.readNode, Yaml.readProperties, Yaml.scalarNode,
      Yaml.endsBlockPart]
  show readJobDocument (Text.substitute ScrapeJob.shardPlaceholder "0" oneJobQuoted) = _
  rw [hkept, readJobDocument, Yaml.read?, htokens]
  simp only [tokens, htree, Option.bind_some]
  decide +kernel

/-- A document that is written in another way is taken for the one that was applied, since its job is the
same. -/
theorem digestInput_tells_jobs_quoted :
    let s := run Script.managers {} {} [.ok (oneJob "a")]
    s.outcome Script.managers (.ok oneJobQuoted) = .ok .unchanged ∧
      (oneJobMap "a" = oneJobMap "a" ∨ Collide (oneJobMap "a") (oneJobMap "a")) ∧
      digestInput (oneJobMap "b") ≠ digestInput (oneJobMap "a") := by
  have hplain : ∀ name : String, name = "a" ∨ name = "b" → PlainNames (oneJobMap name) := by
    rintro name (rfl | rfl) <;> decide
  have hread := (jobs?_run Script.managers_faithful {} {} [.ok (oneJob "a")] oneJobQuoted).trans
    jobs?_oneJobQuoted
  have hsame := outcome_second jobs?_a jobs?_oneJobQuoted rfl
  obtain ⟨htells, hunchanged⟩ := digestInput_tells_jobs Script.managers {} {} [.ok (oneJob "a")]
  refine ⟨hsame, ?_, ?_⟩
  · exact hunchanged _ _ _ hread (lastApplied_first jobs?_a) (hplain _ (.inl rfl)) (hplain _ (.inl rfl)) hsame
  · have htold := htells {} {} _ _ _ _ jobs?_b jobs?_a (hplain _ (.inr rfl)) (hplain _ (.inl rfl))
    exact mt htold.1 (by decide)

/-! ## A name that holds a job -/

/-- Two jobs. -/
def twoJobs : Dict String ScrapeJob :=
  (Dict.empty.insert "a" { name := "a" }).insert "b" { name := "b" }

/-- The second of them, under a name that holds what the digest takes of the first. -/
def oddJob : Dict String ScrapeJob := Dict.empty.insert "a\x00job_name: a\n\x00b" { name := "b" }

def twoJobsText : String := "a:\n  job_name: a\nb:\n  job_name: b\n"

def oddJobText : String := "? \"a\\0job_name: a\\n\\0b\"\n: job_name: b\n"

theorem jobs?_twoJobs : Client.jobs? {} twoJobsText = some twoJobs :=
  jobs?_of_named (by decide +kernel) (by decide +kernel) (by decide)

theorem jobs?_oddJob : Client.jobs? {} oddJobText = some oddJob :=
  jobs?_of_named (by decide +kernel) (by decide +kernel) (by decide)

theorem digestInput_oddJob : digestInput oddJob = digestInput twoJobs := by
  have hodd : digestTexts oddJob.toList = ["a\x00job_name: a\n\x00b", "job_name: b\n"] := by decide +kernel
  have htwo : digestTexts twoJobs.toList = ["a", "job_name: a\n", "b", "job_name: b\n"] := by decide +kernel
  rw [digestInput_eq_closed, digestInput_eq_closed, hodd, htwo]
  simp only [Text.closed, Text.toList_toUTF8, List.flatMap_cons, List.flatMap_nil]
  decide +kernel

/-- Both documents can be read, and have different jobs, but the inputs of their digests are equal, so that the
second is taken for the first. -/
theorem odd_job_overlooked :
    Client.jobs? {} twoJobsText = some twoJobs ∧ Client.jobs? {} oddJobText = some oddJob ∧
      oddJob ≠ twoJobs ∧ digestInput oddJob = digestInput twoJobs ∧
      (run Script.managers {} {} [.ok twoJobsText]).outcome Script.managers (.ok oddJobText) =
        .ok .unchanged := by
  have hdigest : jobMapDigest oddJob = jobMapDigest twoJobs := congrArg Digest.sha256 digestInput_oddJob
  exact ⟨jobs?_twoJobs, jobs?_oddJob, by decide, digestInput_oddJob,
    outcome_second jobs?_twoJobs jobs?_oddJob hdigest⟩

end Situation

end ScrapeFleet.Collect
