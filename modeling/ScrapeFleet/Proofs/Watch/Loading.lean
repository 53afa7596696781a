/-
# ScrapeFleet.Proofs.Watch.Loading — a load makes the jobs of what is selected, each once

A load goes through the kinds, through the selected monitors of a kind by their keys, and through the jobs
of a monitor, and it gives up when a name comes twice. It never does. Of the monitors that it goes through,
no two have one key (`nodup_jobKeys`), monitors with different keys have jobs with different names, and so
have the parts of one monitor; so each addition of jobs finds their names free, and what is left of the load
is one pass over all these monitors (`addMonitors_eq`). Sorting by name keeps every job (`perm_ofJobs`), and
then they ascend strictly (`ascending_ofJobs`).

Which monitors these are is another matter: the map by keys would lose one of two monitors with one key.
What streams bring stands under its own namespace and name, and without slashes in namespaces the key tells
both, so that none is lost (`mem_selectedMonitors_iff`).
-/
import Mathlib.Data.List.Nodup
import ScrapeFleet.Proofs.Generate.Names
import ScrapeFleet.Proofs.Watch.History
import ScrapeFleet.Proofs.Watch.Informers

namespace ScrapeFleet.Watch

open Cluster (Identified ObjectKey keyOf)
open Credential (Lookup)
open Credential.Lookup (bind_congr_of_yields yields_bind yields_mapM yields_pure)
open Generate (partNames selectAll selected)

/-! ## The monitors that a load goes through -/

/-- The selected monitors of some kinds, in the order in which a load goes through them. -/
def selectedMonitors (settings : Settings) (known : String → Option Labels)
    (monitors : Kind → List Monitor) (kinds : List Kind) : List Monitor :=
  kinds.flatMap fun k => (selectAll settings known k (monitors k)).values

section Selected

variable {settings : Settings} {known : String → Option Labels} {k : Kind} {m : Monitor} {ms : List Monitor}

/-- Of the selected monitors, each stands under its key. -/
theorem of_mem_selectAll {e : String × Monitor} (h : e ∈ (selectAll settings known k ms).toList) :
    e.1 = e.2.jobKey ∧ e.2 ∈ ms ∧ e.2.kind = k ∧ selected settings known e.2 = true := by
  obtain ⟨m, hm, rfl⟩ := List.mem_map.1 (Dict.mem_of_mem_ofList h)
  obtain ⟨hmem, hselected⟩ := List.mem_filter.1 hm
  simp only [Bool.and_eq_true, beq_iff_eq] at hselected
  exact ⟨rfl, hmem, hselected⟩

theorem jobKeys_selectAll :
    (selectAll settings known k ms).values.map Monitor.jobKey = (selectAll settings known k ms).keys := by
  rw [Dict.values, Dict.keys, List.map_map]
  exact List.map_congr_left fun e he => (of_mem_selectAll he).1.symm

theorem kind_of_mem_selectAll (h : m ∈ (selectAll settings known k ms).values) : m.kind = k := by
  obtain ⟨e, he, rfl⟩ := List.mem_map.1 h
  exact (of_mem_selectAll he).2.2.1

/-- No two of the monitors that a load goes through have one key. -/
theorem nodup_jobKeys (settings : Settings) (known : String → Option Labels) (monitors : Kind → List Monitor)
    {kinds : List Kind} (hkinds : kinds.Nodup) :
    ((selectedMonitors settings known monitors kinds).map Monitor.jobKey).Nodup := by
  rw [selectedMonitors, List.map_flatMap, List.nodup_flatMap]
  constructor
  · intro k _
    rw [jobKeys_selectAll]
    exact Dict.nodup_keys _
  · refine hkinds.imp fun {k k'} hne key hkey hkey' => hne ?_
    obtain ⟨m, hm, rfl⟩ := List.mem_map.1 hkey
    obtain ⟨m', hm', heq⟩ := List.mem_map.1 hkey'
    rw [← kind_of_mem_selectAll hm, ← kind_of_mem_selectAll hm']
    exact (Generate.kind_eq_of_jobKey heq).symm

end Selected

/-! ## What is left of a load -/

section Adding

variable {settings : Settings} {jobs more : List ScrapeJob} {ms : List Monitor}

theorem addJobs_eq (h : ((jobs ++ more).map (·.name)).Nodup) : addJobs jobs more = .ok (jobs ++ more) := by
  induction more generalizing jobs with
  | nil => rw [addJobs, List.append_nil]
  | cons j js ih =>
    have hfresh : jobs.any (·.name == j.name) = false := by
      rw [List.any_eq_false]
      intro j' hj' heq
      rw [List.map_append, List.nodup_append] at h
      exact h.2.2 j'.name (List.mem_map_of_mem hj') j.name (by simp) (by simpa using heq)
    rw [addJobs, hfresh, if_neg Bool.false_ne_true, ih (by simpa using h), List.append_assoc]
    rfl

/-- Names that are free for the parts of a monitor are free for its jobs. -/
theorem nodup_names_append {m : Monitor} {result : List ScrapeJob × List Generate.Warning}
    (hyields : (Generate.jobs settings m).Yields result) (hjobs : (jobs.map (·.name)).Nodup)
    (hfresh : ∀ j ∈ jobs, j.name ∉ partNames settings m) :
    ((jobs ++ result.1).map (·.name)).Nodup := by
  have hsublist := Generate.names_sublist_of_jobs hyields
  rw [List.map_append, List.nodup_append]
  refine ⟨hjobs, hsublist.nodup (Generate.nodup_partNames settings m), ?_⟩
  rintro name hname _ hname' rfl
  obtain ⟨j, hj, rfl⟩ := List.mem_map.1 hname
  exact hfresh j hj (hsublist.subset hname')

/-- Monitors with different keys are gone through in one pass, if their names are free. -/
theorem addMonitors_eq (hkeys : (ms.map Monitor.jobKey).Nodup) (hjobs : (jobs.map (·.name)).Nodup)
    (hfresh : ∀ j ∈ jobs, ∀ m ∈ ms, j.name ∉ partNames settings m) :
    addMonitors settings jobs ms = do
      let results ← ms.mapM (Generate.jobs settings)
      return (.ok (jobs ++ results.flatMap (·.1)), results.flatMap (·.2)) := by
  induction ms generalizing jobs with
  | nil => simp [addMonitors]
  | cons m ms ih =>
    obtain ⟨hkey, hkeys⟩ := List.nodup_cons.1 hkeys
    rw [addMonitors, List.mapM_cons, bind_assoc]
    refine bind_congr_of_yields fun result hyields => ?_
    have hnodup := nodup_names_append hyields hjobs fun j hj => hfresh j hj m List.mem_cons_self
    -- the new jobs have names of parts of this monitor, and the monitors that follow have other keys
    have hfree : ∀ j ∈ jobs ++ result.1, ∀ m' ∈ ms, j.name ∉ partNames settings m' := by
      intro j hj m' hm' hname
      rcases List.mem_append.1 hj with hj | hj
      · exact hfresh j hj m' (List.mem_cons_of_mem m hm') hname
      · have hown := (Generate.names_sublist_of_jobs hyields).subset (List.mem_map_of_mem hj)
        rw [Generate.jobKey_unique hown hname] at hkey
        exact hkey (List.mem_map_of_mem hm')
    simp only [addJobs_eq hnodup, ih hkeys hnodup hfree, bind_assoc, pure_bind, List.flatMap_cons,
      List.append_assoc]

theorem addMonitors_append (ms ms' : List Monitor) :
    addMonitors settings jobs (ms ++ ms') = do
      let (r, warnings) ← addMonitors settings jobs ms
      match r with
      | .error e => return (.error e, warnings)
      | .ok jobs =>
        let (r, moreWarnings) ← addMonitors settings jobs ms'
        return (r, warnings ++ moreWarnings) := by
  induction ms generalizing jobs with
  | nil => simp [addMonitors]
  | cons m ms ih =>
    rw [List.cons_append, addMonitors, addMonitors, bind_assoc]
    refine bind_congr fun made => ?_
    obtain ⟨more, warnings⟩ := made
    cases hadded : addJobs jobs more with
    | error e => simp only [hadded, pure_bind]
    | ok jobs =>
      simp only [hadded, ih, bind_assoc]
      refine bind_congr fun added => ?_
      obtain ⟨r, moreWarnings⟩ := added
      cases r <;> simp only [pure_bind, bind_assoc, List.append_assoc]

/-- The kinds may be gone through as one. -/
theorem addKinds_eq (known : String → Option Labels) (monitors : Kind → List Monitor)
    (kinds : List Kind) :
    addKinds settings known monitors jobs kinds =
      addMonitors settings jobs (selectedMonitors settings known monitors kinds) := by
  induction kinds generalizing jobs with
  | nil => rfl
  | cons k ks ih =>
    rw [selectedMonitors, List.flatMap_cons, ← selectedMonitors, addMonitors_append, addKinds, addKind]
    refine bind_congr fun added => ?_
    obtain ⟨r, warnings⟩ := added
    cases r with
    | error e => rfl
    | ok jobs => simp only [ih]

/-! ## What a load yields -/

theorem nodup_of_addJobs {all : List ScrapeJob} (h : addJobs jobs more = .ok all)
    (hjobs : (jobs.map (·.name)).Nodup) : (all.map (·.name)).Nodup := by
  induction more generalizing jobs with
  | nil =>
    obtain rfl := Except.ok.inj h
    exact hjobs
  | cons j js ih =>
    rw [addJobs] at h
    split at h
    · cases h
    · rename_i hfresh
      refine ih h ?_
      rw [List.map_append, List.nodup_append]
      refine ⟨hjobs, List.nodup_singleton _, ?_⟩
      rintro name hname _ hlast rfl
      obtain ⟨j', hj', heq⟩ := List.mem_map.1 hname
      exact hfresh (List.any_eq_true.2 ⟨j', hj', by simpa [heq] using hlast⟩)

/-- What monitors add to jobs leaves no name twice. -/
theorem nodup_of_addMonitors {all : List ScrapeJob} {warnings : List Generate.Warning}
    (h : (addMonitors settings jobs ms).Yields (.ok all, warnings)) (hjobs : (jobs.map (·.name)).Nodup) :
    (all.map (·.name)).Nodup := by
  induction ms generalizing jobs warnings with
  | nil =>
    obtain ⟨hall, _⟩ := Prod.mk.inj (yields_pure.1 h)
    rw [Except.ok.inj hall]
    exact hjobs
  | cons m ms ih =>
    obtain ⟨⟨more, before⟩, _, hrest⟩ := yields_bind.1 h
    cases hadded : addJobs jobs more with
    | error e =>
      simp only [hadded] at hrest
      cases yields_pure.1 hrest
    | ok jobs' =>
      simp only [hadded] at hrest
      obtain ⟨⟨r, after⟩, hms, hresult⟩ := yields_bind.1 hrest
      obtain ⟨rfl, _⟩ := Prod.mk.inj (yields_pure.1 hresult)
      exact ih hms (nodup_of_addJobs hadded hjobs)

/-- A configuration lists the jobs that it is made of, each as often as they do. -/
theorem perm_ofJobs (jobs : List ScrapeJob) : (ScrapeConfig.ofJobs jobs).jobs.Perm jobs :=
  List.mergeSort_perm _ _

/-- Jobs with different names ascend strictly in a configuration. -/
theorem ascending_ofJobs (h : (jobs.map (·.name)).Nodup) :
    (ScrapeConfig.ofJobs jobs).jobs.Pairwise fun a b => a.name < b.name := by
  have hsorted : (ScrapeConfig.ofJobs jobs).jobs.Pairwise
      fun a b => (!decide (b.name < a.name)) = true := by
    refine List.pairwise_mergeSort (fun a b c hab hbc => ?_) (fun a b => ?_) jobs
    · simp only [Bool.not_eq_true', decide_eq_false_iff_not, String.not_lt] at *
      exact String.le_trans hab hbc
    · simp only [Bool.or_eq_true, Bool.not_eq_true', decide_eq_false_iff_not, String.not_lt]
      exact String.le_total a.name b.name
  have hnames : (ScrapeConfig.ofJobs jobs).jobs.Pairwise fun a b => a.name ≠ b.name := by
    exact List.pairwise_map.1 (((perm_ofJobs jobs).map _).nodup_iff.2 h)
  refine (hsorted.and hnames).imp fun {a b} hab => ?_
  obtain ⟨hle, hne⟩ := hab
  simp only [Bool.not_eq_true', decide_eq_false_iff_not, String.not_lt] at hle
  by_contra hlt
  exact hne (String.le_antisymm hle (String.not_lt.1 hlt))

end Adding

/-! ## What is cached -/

/-- The cache that a stream leaves. -/
def Cache.brought {α : Type} [Identified α] (scope : Scope) (events : List (WatchEvent α)) : Cache α :=
  events.foldl (fun c e => (c.handle scope e).1) {}

theorem Cache.reflects_brought {α : Type} [Identified α] (scope : Scope) (events : List (WatchEvent α)) :
    (brought scope events).Reflects scope events.reverse := by
  have hfold : ∀ (c : Cache α) (history : List (WatchEvent α)), c.Reflects scope history →
      (events.foldl (fun c e => (c.handle scope e).1) c).Reflects scope (events.reverse ++ history) := by
    induction events with
    | nil => exact fun c history h => h
    | cons e es ih =>
      intro c history h
      rw [List.reverse_cons, List.append_assoc]
      exact ih _ _ (h.handle e)
  rw [← List.append_nil events.reverse]
  exact hfold {} [] ⟨fun _ => rfl, fun _ => rfl⟩

/-- What is cached of the kinds that become jobs is what some streams left. -/
def Informers.Brought (is : Informers) : Prop :=
  ∀ k ∈ Kind.monitors, ∃ scope events, is.cached k = (Cache.brought scope events).objects

/-- The cached namespaces have no slash in their names. -/
def Informers.SlashFree (is : Informers) : Prop :=
  ∀ k ∈ Kind.monitors, ∀ m ∈ is.monitors k, '/' ∉ m.namespaceText.toList

section Cached

variable {settings : Settings} {known : String → Option Labels} {is : Informers} {k : Kind}

/-- What streams bring stands under its own key, so no two cached monitors of a kind have one. -/
theorem nodup_keys_of_brought (h : is.Brought) (hk : k ∈ Kind.monitors) :
    ((is.monitors k).map keyOf).Nodup := by
  obtain ⟨scope, events, hcached⟩ := h k hk
  have hkeyed := (Cache.reflects_brought scope events).keyed
  rw [is.monitors_eq_values hk, hcached, Dict.values, List.map_map]
  have hkeys : (Cache.brought scope events).objects.entries.map (keyOf ∘ Prod.snd) =
      (Cache.brought scope events).objects.keys :=
    List.map_congr_left fun e he => hkeyed e.1 e.2 (Dict.get?_eq_some_iff.2 he)
  rw [hkeys]
  exact Dict.nodup_keys _

/-- Without slashes in namespaces, a load goes through every selected monitor. -/
theorem mem_selectedMonitors_iff (hbrought : is.Brought) (hslash : is.SlashFree) {m : Monitor} :
    m ∈ selectedMonitors settings known is.monitors Kind.monitors ↔
      ∃ k ∈ Kind.monitors, m ∈ is.monitors k ∧ m.kind = k ∧ selected settings known m = true := by
  rw [selectedMonitors, List.mem_flatMap]
  refine exists_congr fun k => and_congr_right fun hk => ?_
  constructor
  · intro h
    obtain ⟨e, he, rfl⟩ := List.mem_map.1 h
    exact (of_mem_selectAll he).2
  · rintro ⟨hmem, hselected⟩
    -- the map by keys keeps every monitor only because no two have one key
    have hkeys : (((is.monitors k).filter fun m => m.kind == k && selected settings known m).map
        fun m => (m.jobKey, m)).map (·.1) |>.Nodup := by
      rw [List.map_map, List.Nodup, List.pairwise_map]
      refine List.Pairwise.imp_of_mem (fun {a b} ha hb hne heq => hne ?_)
        ((List.pairwise_map.1 (nodup_keys_of_brought hbrought hk)).filter _)
      exact Generate.key_eq_of_jobKey (hslash k hk a (List.mem_filter.1 ha).1)
        (hslash k hk b (List.mem_filter.1 hb).1) heq
    refine List.mem_map.2 ⟨(m.jobKey, m), (Dict.mem_ofList_iff hkeys).2 ?_, rfl⟩
    exact List.mem_map_of_mem (List.mem_filter.2 ⟨hmem, by simpa using hselected⟩)

end Cached

/-! ## Loads -/

/-- A load makes the jobs of some monitors with different keys, one monitor after the other, and sorts them.
Whatever the questions on the way are answered, the configuration has exactly the jobs that these monitors
have come to, none missing and none added, and their names ascend strictly. Without slashes in the
namespaces of what streams have brought, the monitors are those that are cached and selected. -/
theorem loading_makes_selected (w : Watcher) :
    ∃ ms : List Monitor, (ms.map Monitor.jobKey).Nodup ∧
      (w.informers.Brought → w.informers.SlashFree → ∀ m, m ∈ ms ↔ ∃ k ∈ Kind.monitors,
        m ∈ w.informers.monitors k ∧ m.kind = k ∧
          selected w.settings (knownLabels w.informers.namespaces.cache.objects) m = true) ∧
      (w.loading = do
        let results ← ms.mapM (Generate.jobs w.settings)
        return (.ok (.ofJobs (results.flatMap (·.1))), results.flatMap (·.2))) ∧
      ∀ result, w.loading.Yields result → ∃ config results,
        List.Forall₂ (fun m made => (Generate.jobs w.settings m).Yields made) ms results ∧
          result = (.ok config, results.flatMap (·.2)) ∧
          config.jobs.Perm (results.flatMap (·.1)) ∧
          config.jobs.Pairwise fun a b => a.name < b.name := by
  let ms := selectedMonitors w.settings (knownLabels w.informers.namespaces.cache.objects)
    w.informers.monitors Kind.monitors
  have hkeys : (ms.map Monitor.jobKey).Nodup := nodup_jobKeys _ _ _ (by decide)
  have hpass : addMonitors w.settings [] ms = do
      let results ← ms.mapM (Generate.jobs w.settings)
      return (.ok (results.flatMap (·.1)), results.flatMap (·.2)) :=
    addMonitors_eq hkeys .nil (by simp)
  have hloading : w.loading = do
      let results ← ms.mapM (Generate.jobs w.settings)
      return (.ok (.ofJobs (results.flatMap (·.1))), results.flatMap (·.2)) := by
    rw [Watcher.loading, load, addKinds_eq, hpass, bind_assoc]
    rfl
  refine ⟨ms, hkeys, fun hbrought hslash m => mem_selectedMonitors_iff hbrought hslash, hloading,
    fun result hyields => ?_⟩
  rw [hloading] at hyields
  obtain ⟨results, hresults, hmade⟩ := yields_bind.1 hyields
  have hadded : (addMonitors w.settings [] ms).Yields
      (.ok (results.flatMap (·.1)), results.flatMap (·.2)) :=
    hpass ▸ yields_bind.2 ⟨results, hresults, yields_pure.2 rfl⟩
  exact ⟨_, results, yields_mapM.1 hresults, yields_pure.1 hmade, perm_ofJobs _,
    ascending_ofJobs (nodup_of_addMonitors hadded .nil)⟩

/-- A service monitor with two endpoints. -/
def webServices : Monitor where
  metadata := { name := some "web", namespaceName := some "shop" }
  spec := .service { endpoints := [{ port := some "http" }, { port := some "admin" }] }

/-- A pod monitor of the same namespace and name. -/
def webPods : Monitor where
  metadata := { name := some "web", namespaceName := some "shop" }
  spec := .pod { endpoints := [{ port := some "http" }] }

/-- A pod monitor of another namespace. -/
def stagingPods : Monitor where
  metadata := { name := some "web", namespaceName := some "staging" }
  spec := .pod { endpoints := [{ port := some "http" }] }

/-- The label of the namespaces of a team. -/
def teamLabel : Labels := .ofList [("team", "web")]

/-- A watcher that has all three cached. It takes pod monitors from the namespaces of one team only. -/
def webWatcher : Watcher where
  settings := { podMonitors := { namespaceSelector := some { labels := some teamLabel } } }
  informers := {
    serviceMonitors := { kind := .serviceMonitor, cache := .brought {} [.applied webServices] }
    podMonitors := { kind := .podMonitor, cache := .brought {} [.applied webPods, .applied stagingPods] }
    probes := .standIn .probe
    scrapeConfigs := .standIn .scrapeConfig
    secrets := .standIn .secret
    namespaces := {
      kind := .namespace
      cache := .brought {} [.applied { metadata := { name := some "shop", labels := some teamLabel } },
        .applied { metadata := { name := some "staging" } }] } }
  outlet := { watcher := "prometheus-cr", channel := { capacity := 1 } }

/-- Two of them are loaded: the configuration has a job for each of their three endpoints, and no other. -/
theorem loading_makes_web :
    ∃ ms : List Monitor, webServices ∈ ms ∧ webPods ∈ ms ∧ stagingPods ∉ ms ∧ ∃ config results,
      List.Forall₂ (fun m made => (Generate.jobs webWatcher.settings m).Yields made) ms results ∧
        webWatcher.loading.answered (fun _ _ => .ok "") = (.ok config, results.flatMap (·.2)) ∧
        config.jobs.Perm (results.flatMap (·.1)) ∧
        (config.jobs.map (·.name)).Perm
          ["serviceMonitor/shop/web/0", "serviceMonitor/shop/web/1", "podMonitor/shop/web/0"] ∧
        config.jobs.Pairwise fun a b => a.name < b.name := by
  obtain ⟨ms, _, hmem, _, hmakes⟩ := loading_makes_selected webWatcher
  have hbrought : webWatcher.informers.Brought := by
    intro k hk
    simp only [Kind.monitors, List.mem_cons, List.not_mem_nil, or_false] at hk
    rcases hk with rfl | rfl | rfl | rfl
    · exact ⟨{}, [.applied webServices], rfl⟩
    · exact ⟨{}, [.applied webPods, .applied stagingPods], rfl⟩
    · exact ⟨{}, [], rfl⟩
    · exact ⟨{}, [], rfl⟩
  have hslash : webWatcher.informers.SlashFree := by
    unfold Informers.SlashFree
    decide +kernel
  obtain ⟨config, results, hresults, hloaded, hperm, hascending⟩ :=
    hmakes _ (Credential.Lookup.yields_answered (fun _ _ => .ok "") webWatcher.loading)
  -- the names are known before the jobs are sorted
  have hnames : ∃ jobs, (webWatcher.loading.answered fun _ _ => .ok "").1 = .ok (.ofJobs jobs) ∧
      jobs.map (·.name) =
        ["serviceMonitor/shop/web/0", "serviceMonitor/shop/web/1", "podMonitor/shop/web/0"] := by
    refine ⟨_, rfl, ?_⟩
    decide +kernel
  obtain ⟨jobs, hjobs, hnames⟩ := hnames
  rw [hloaded] at hjobs
  obtain rfl := Except.ok.inj hjobs
  refine ⟨ms, ?_, ?_, ?_, _, results, hresults, hloaded, hperm, hnames ▸ (perm_ofJobs jobs).map _,
    hascending⟩
  · exact (hmem hbrought hslash _).2 ⟨.serviceMonitor, by decide +kernel⟩
  · exact (hmem hbrought hslash _).2 ⟨.podMonitor, by decide +kernel⟩
  · exact mt (hmem hbrought hslash _).1 (by decide +kernel)

end ScrapeFleet.Watch
