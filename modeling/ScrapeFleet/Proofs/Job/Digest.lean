/-
# ScrapeFleet.Proofs.Job.Digest — a digest stands for one map of jobs

The digest of a map is taken of the names and the written jobs, each closed by a zero byte. A written job has
no byte of zero, and is read as it was, so the map can be told from this input where no name has a character
of zero (`digestInput_inj`). The jobs need not be known: whatever is read from a document is what can be
written exactly (`exact_of_readJobDocument`).
-/
import ScrapeFleet.Proofs.Job.RoundTrip
import ScrapeFleet.Proofs.Text.Bytes

namespace ScrapeFleet

open Job

/-! ## What is read can be written exactly -/

namespace Doc

variable {α : Type}

/-- A field that is there was read from something. -/
theorem exists_of_optional? {read : Doc → Option α} {d : Doc} {a : α}
    (h : d.optional? read = some (some a)) : ∃ d', read d' = some a := by
  have hmap : ∀ d' : Doc, (read d').map some = some (some a) → ∃ d', read d' = some a := by
    intro d' hd'
    obtain ⟨b, hb, hsome⟩ := Option.map_eq_some_iff.1 hd'
    exact ⟨d', hb.trans hsome⟩
  unfold optional? at h
  split at h
  · cases h
  · split at h
    · exact hmap _ h
    · split at h
      · split at h
        · split at h <;> cases h
        · exact hmap _ h
      · split at h
        · cases h
        · exact hmap _ h
  · exact hmap _ h

theorem exists_of_optional {fs : Fields} {name : String} {read : Doc → Option α} {a : α}
    (h : fs.optional name read = some (some a)) : ∃ d, read d = some a := by
  unfold Fields.optional at h
  split at h
  · exact exists_of_optional? h
  · cases h

theorem exists_of_mapM {β : Type} {read : β → Option α} {ds : List β} {as : List α}
    (h : ds.mapM read = some as) : ∀ a ∈ as, ∃ d, read d = some a := by
  induction ds generalizing as with
  | nil =>
    obtain rfl : [] = as := Option.some.inj h
    exact fun a ha => (nomatch ha)
  | cons d ds ih =>
    rw [List.mapM_cons] at h
    simp only [Option.bind_eq_bind, Option.bind_eq_some_iff, Option.pure_def, Option.some.injEq] at h
    obtain ⟨b, hb, bs, hbs, rfl⟩ := h
    exact List.forall_mem_cons.2 ⟨⟨d, hb⟩, ih hbs⟩

/-- Each item of a list was read from something. -/
theorem exists_of_list {fs : Fields} {name : String} {read : Doc → Option α} {as : List α}
    (h : fs.list name read = some as) : ∀ a ∈ as, ∃ d, read d = some a := by
  unfold Fields.list Fields.withDefault at h
  split at h
  · obtain ⟨ds, _, hds⟩ := Option.bind_eq_some_iff.1 h
    exact exists_of_mapM hds
  · obtain rfl := Option.some.inj h
    exact fun a ha => (nomatch ha)

theorem lt_of_nat? {bits n : Nat} {d : Doc} (h : d.nat? bits = some n) : n < Nat.pow 2 bits := by
  unfold nat? at h
  split at h
  · obtain ⟨⟨hpos, hlt⟩, hn⟩ := Option.ite_none_right_eq_some.1 h
    obtain rfl := Option.some.inj hn
    exact (Int.toNat_lt hpos).2 (by exact_mod_cast hlt)
  · cases h

/-- A number that was read from a field has as many bits as were asked for. -/
theorem lt_of_optional {fs : Fields} {name : String} {bits : Nat} {o : Option Nat}
    (h : fs.optional name (nat? bits) = some o) : ∀ n, o = some n → n < Nat.pow 2 bits := by
  rintro n rfl
  obtain ⟨d, hd⟩ := exists_of_optional h
  exact lt_of_nat? hd

end Doc

theorem Job.whole_of_readDuration {doc : Doc} {d : Duration} (h : readDuration doc = some d) : d.Whole := by
  obtain ⟨s, _, hs⟩ := Option.bind_eq_some_iff.1 h
  cases hparse : Duration.parse s with
  | error e =>
    rw [hparse] at hs
    cases hs
  | ok d' =>
    rw [hparse] at hs
    obtain rfl : d' = d := Option.some.inj hs
    exact Duration.whole_of_parse hparse

/-- A duration that was read from a field is one of whole milliseconds. -/
theorem Job.whole_of_optional {fs : Doc.Fields} {name : String} {o : Option Duration}
    (h : fs.optional name readDuration = some o) : ∀ d, o = some d → d.Whole := by
  rintro d rfl
  obtain ⟨doc, hdoc⟩ := Doc.exists_of_optional h
  exact whole_of_readDuration hdoc

theorem Job.HttpDiscovery.whole_of_read {doc : Doc} {e : HttpDiscovery} (h : HttpDiscovery.read doc = some e) :
    ∀ d, e.refreshInterval = some d → d.Whole := by
  unfold HttpDiscovery.read at h
  simp only [Option.bind_eq_bind, Option.bind_eq_some_iff] at h
  obtain ⟨_, _, _, _, interval, hinterval, _, _, he⟩ := h
  obtain rfl := Option.some.inj he
  exact whole_of_optional hinterval

theorem Relabel.Rule.modulus_lt_of_read {doc : Doc} {r : Relabel.Rule} (h : Relabel.Rule.read doc = some r) :
    ∀ n, r.modulus = some n → n < Nat.pow 2 64 := by
  unfold Relabel.Rule.read at h
  simp only [Option.bind_eq_bind, Option.bind_eq_some_iff] at h
  obtain ⟨_, _, _, _, _, _, _, _, _, _, modulus, hmodulus, _, _, _, _, hr⟩ := h
  obtain rfl := Option.some.inj hr
  exact Doc.lt_of_optional hmodulus

/-- A job that was read says what it is. -/
theorem ScrapeJob.exact_of_read {d : Doc} {j : ScrapeJob} (h : ScrapeJob.read d = some j) : j.Exact := by
  unfold ScrapeJob.read at h
  -- the fields one after the other; simplifying all of them at once takes too many steps
  obtain ⟨fs, _, h⟩ := Option.bind_eq_some_iff.1 h
  obtain ⟨name, _, h⟩ := Option.bind_eq_some_iff.1 h
  obtain ⟨labels, _, h⟩ := Option.bind_eq_some_iff.1 h
  obtain ⟨timestamps, _, h⟩ := Option.bind_eq_some_iff.1 h
  obtain ⟨params, _, h⟩ := Option.bind_eq_some_iff.1 h
  obtain ⟨interval, hinterval, h⟩ := Option.bind_eq_some_iff.1 h
  obtain ⟨timeout, htimeout, h⟩ := Option.bind_eq_some_iff.1 h
  obtain ⟨path, _, h⟩ := Option.bind_eq_some_iff.1 h
  obtain ⟨scheme, _, h⟩ := Option.bind_eq_some_iff.1 h
  obtain ⟨samples, hsamples, h⟩ := Option.bind_eq_some_iff.1 h
  obtain ⟨targets, htargets, h⟩ := Option.bind_eq_some_iff.1 h
  obtain ⟨client, _, h⟩ := Option.bind_eq_some_iff.1 h
  obtain ⟨kubernetes, _, h⟩ := Option.bind_eq_some_iff.1 h
  obtain ⟨static, _, h⟩ := Option.bind_eq_some_iff.1 h
  obtain ⟨http, hhttp, h⟩ := Option.bind_eq_some_iff.1 h
  obtain ⟨relabel, hrelabel, h⟩ := Option.bind_eq_some_iff.1 h
  obtain ⟨metricRelabel, hmetricRelabel, hj⟩ := Option.bind_eq_some_iff.1 h
  obtain rfl := Option.some.inj hj
  have hmodulus {name : String} {rules : List Relabel.Rule}
      (hrules : fs.1.list name Relabel.Rule.read = some rules) :
      ∀ r ∈ rules, ∀ n, r.modulus = some n → n < Nat.pow 2 64 := by
    intro r hr
    obtain ⟨d', hd'⟩ := Doc.exists_of_list hrules r hr
    exact Relabel.Rule.modulus_lt_of_read hd'
  exact {
    interval := whole_of_optional hinterval
    timeout := whole_of_optional htimeout
    refresh := fun e he => by
      obtain ⟨d', hd'⟩ := Doc.exists_of_list hhttp e he
      exact HttpDiscovery.whole_of_read hd'
    samples := Doc.lt_of_optional hsamples
    targets := Doc.lt_of_optional htargets
    moduli := fun r hr => (List.mem_append.1 hr).elim (hmodulus hrelabel r) (hmodulus hmetricRelabel r) }

/-- A map of jobs that was read from a document can be written exactly. -/
theorem exact_of_readJobDocument {text : String} {jobs : Dict String ScrapeJob}
    (h : readJobDocument text = some jobs) : ∀ e ∈ jobs.toList, e.2.Exact := by
  obtain ⟨d, _, hd⟩ := Option.bind_eq_some_iff.1 h
  obtain ⟨entries, hentries, rfl⟩ := Option.map_eq_some_iff.1 hd
  obtain ⟨ds, _, hds⟩ := Option.bind_eq_some_iff.1 hentries
  intro e he
  obtain ⟨d', hd'⟩ := Doc.exists_of_mapM hds e (Dict.mem_of_mem_ofList he)
  simp only [Option.bind_eq_bind, Option.bind_eq_some_iff] at hd'
  obtain ⟨name, _, job, hjob, hentry⟩ := hd'
  obtain rfl := Option.some.inj hentry
  exact ScrapeJob.exact_of_read hjob

/-! ## The input of the digest -/

/-- The texts that the digest is taken of: the name of each job, and what it is written as. -/
def digestTexts (jobs : List (String × ScrapeJob)) : List String :=
  jobs.flatMap fun e => [e.1, Yaml.render e.2.write]

theorem digestInput_eq_closed (jobs : Dict String ScrapeJob) :
    digestInput jobs = Text.closed (digestTexts jobs.toList) := by
  rw [digestInput, digestTexts, Text.closed, List.flatMap_assoc]
  simp

/-- What a job is written as is printable. -/
theorem ScrapeJob.printed_render (j : ScrapeJob) : Yaml.Printed (Yaml.render j.write) :=
  Yaml.printed_inline Yaml.suits_id 0 j.write

/-- A job is told by what it is written as. -/
theorem ScrapeJob.render_inj {j k : ScrapeJob} (hj : j.Exact) (hk : k.Exact)
    (h : Yaml.render j.write = Yaml.render k.write) : j = k := by
  have hread : ∀ {l : ScrapeJob}, l.Exact →
      (Yaml.read? (Yaml.render l.write)).bind ScrapeJob.read = some l := by
    intro l hl
    have hdepth : l.write.depth ≤ Yaml.depthLimit := Nat.le_trans l.depth_write (by decide)
    have htree : Yaml.read? (Yaml.render l.write) = some (Yaml.valueDoc id l.write) :=
      Yaml.read?_render _ hdepth
    rw [htree, Option.bind_some]
    exact ScrapeJob.read_valueDoc hl
  have hboth : some j = some k := by rw [← hread hj, ← hread hk, h]
  exact Option.some.inj hboth

theorem digestTexts_inj {es fs : List (String × ScrapeJob)} (hes : ∀ e ∈ es, e.2.Exact)
    (hfs : ∀ e ∈ fs, e.2.Exact) : digestTexts es = digestTexts fs ↔ es = fs := by
  refine ⟨fun h => ?_, congrArg digestTexts⟩
  induction es generalizing fs with
  | nil =>
    cases fs with
    | nil => rfl
    | cons f fs => cases h
  | cons e es ih =>
    cases fs with
    | nil => cases h
    | cons f fs =>
      obtain ⟨he, hes⟩ := List.forall_mem_cons.1 hes
      obtain ⟨hf, hfs⟩ := List.forall_mem_cons.1 hfs
      obtain ⟨hname, hrest⟩ := List.cons.inj h
      obtain ⟨hjob, hrest⟩ := List.cons.inj hrest
      rw [Prod.ext hname (ScrapeJob.render_inj he hf hjob), ih hes hfs hrest]

/-- No name has a character of zero. -/
def PlainNames (jobs : Dict String ScrapeJob) : Prop := ∀ e ∈ jobs.toList, '\x00' ∉ e.1.toList

instance (jobs : Dict String ScrapeJob) : Decidable (PlainNames jobs) :=
  inferInstanceAs (Decidable (∀ e ∈ jobs.toList, _))

theorem zero_notMem_digestTexts {jobs : Dict String ScrapeJob} (h : PlainNames jobs) :
    ∀ s ∈ digestTexts jobs.toList, '\x00' ∉ s.toList := by
  intro s hs
  obtain ⟨e, he, hs⟩ := List.mem_flatMap.1 hs
  rw [List.mem_cons, List.mem_singleton] at hs
  obtain rfl | rfl := hs
  · exact h e he
  · intro hzero
    have hprintable : Yaml.isPrintable '\x00' = true := e.2.printed_render _ hzero
    exact absurd hprintable (by decide)

/-- Maps of jobs without a zero in a name have one input of the digest only if they are one map. -/
theorem digestInput_inj {jobs others : Dict String ScrapeJob} (hjobs : ∀ e ∈ jobs.toList, e.2.Exact)
    (hothers : ∀ e ∈ others.toList, e.2.Exact) (hplain : PlainNames jobs) (hplain' : PlainNames others) :
    digestInput jobs = digestInput others ↔ jobs = others := by
  rw [digestInput_eq_closed, digestInput_eq_closed,
    Text.closed_inj (zero_notMem_digestTexts hplain) (zero_notMem_digestTexts hplain'),
    digestTexts_inj hjobs hothers]
  exact ⟨Dict.ext, congrArg Dict.toList⟩

end ScrapeFleet
