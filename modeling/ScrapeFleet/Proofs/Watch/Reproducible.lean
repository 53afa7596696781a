/-
# ScrapeFleet.Proofs.Watch.Reproducible — a configuration has no other origin than what is cached

A load goes through the caches in key order and asks for credentials, which the store answers as far as it
can. Neither leaves a mark on the configuration. What a load adds to the store is what it was answered, so a
load that follows it comes to the same and finds nothing to add (`Watcher.load_again`). And where the store
keeps what the source has, it does not matter what it keeps, nor by which events the objects came to be
cached: what any stream leaves in a cache stands under its own keys, so that the objects decide the cache
(`Keyed.ext`), and caches and source decide the configuration (`Lifetime.load_eq_of_same_objects`).

The runs are those of `ScrapeFleet.Proofs.Watch.Lifetime`, with loads among them as changes of the store.
-/
import ScrapeFleet.Proofs.Credential.Repetition
import ScrapeFleet.Proofs.Watch.Lifetime
import ScrapeFleet.Proofs.Watch.Loading
import ScrapeFleet.Proofs.Watch.Silence

namespace ScrapeFleet

open Cluster (Identified ObjectKey keyOf)

namespace Credential

/-- Whatever the store keeps the source has. -/
def Store.Truthful (source : ObjectKey → Fetched) (s : Store) : Prop :=
  ∀ key v, s.get? key = some v → (source key.1).value key = .ok v

/-- What a truthful store keeps makes no difference to any answer. -/
theorem Store.Truthful.now_eq {source : ObjectKey → Fetched} {s : Store} (h : s.Truthful source) :
    s.now source = fun key => (source key.1).value key := by
  funext key
  cases hkept : s.get? key with
  | none => exact now_of_unknown hkept
  | some v => rw [now_of_kept hkept, h key v hkept]

end Credential

namespace Watch

open Credential (Fetched Lookup Store)

/-! ## One load after another -/

namespace Watcher

/-- A load never fails, since no two jobs that it makes have one name. -/
theorem load_succeeds (w : Watcher) (source : ObjectKey → Fetched) :
    ∃ config warnings, (w.load source).2 = (.ok config, warnings) := by
  have hkinds : Kind.monitors.Nodup := by decide
  have hkeys := nodup_jobKeys w.settings (knownLabels w.informers.namespaces.cache.objects)
    w.informers.monitors hkinds
  have hyields : w.loading.Yields (w.load source).2 := Lookup.yields_run source w.loading w.store
  have hnames : (([] : List ScrapeJob).map (·.name)).Nodup := .nil
  -- what is left of the load is one pass over the monitors, in which nothing is refused
  rw [loading, Watch.load, addKinds_eq, addMonitors_eq hkeys hnames (by simp)] at hyields
  obtain ⟨_, hpass, hresult⟩ := Lookup.yields_bind.1 hyields
  obtain ⟨results, _, hmade⟩ := Lookup.yields_bind.1 hpass
  obtain rfl := Lookup.yields_pure.1 hmade
  exact ⟨_, _, Lookup.yields_pure.1 hresult⟩

/-- A load right after another one comes to the same configuration, written in the same way, and to the same
warnings, and changes nothing. It does not matter what was cached, and what the store kept. -/
theorem load_again (w : Watcher) (source : ObjectKey → Fetched) :
    ∃ config warnings, (w.load source).2 = (.ok config, warnings) ∧
      (w.load source).1.load source = ((w.load source).1, .ok config, warnings) := by
  obtain ⟨config, warnings, hfirst⟩ := w.load_succeeds source
  refine ⟨config, warnings, hfirst, ?_⟩
  -- the caches are as they were, so the second load is the same work on the store that the first one left
  have hsecond : (w.load source).1.load source = w.load source := by
    calc (w.load source).1.load source
        = ({ w with store := (w.loading.run source (w.loading.run source w.store).1).1 },
            (w.loading.run source (w.loading.run source w.store).1).2) := rfl
      _ = ({ w with store := (w.loading.run source w.store).1 }, (w.loading.run source w.store).2) := by
          rw [Lookup.run_again]
      _ = w.load source := rfl
  rw [hsecond, ← hfirst]

end Watcher

/-! ## What a cache holds -/

/-- A cache whose objects stand under their own keys has each of them. -/
theorem Keyed.get?_eq_some_iff {α : Type} [Identified α] {m : Dict ObjectKey α} (h : Keyed m)
    {id : ObjectKey} {a : α} : m.get? id = some a ↔ a ∈ m.values ∧ keyOf a = id := by
  constructor
  · intro ha
    exact ⟨List.mem_map.2 ⟨(id, a), Dict.get?_eq_some_iff.1 ha, rfl⟩, h id a ha⟩
  · rintro ⟨hmem, rfl⟩
    obtain ⟨⟨id, a⟩, hentry, rfl⟩ := List.mem_map.1 hmem
    have ha := Dict.get?_eq_some_iff.2 hentry
    rw [h id a ha]
    exact ha

/-- Objects that stand under their own keys decide the cache. -/
theorem Keyed.ext {α : Type} [Identified α] {m n : Dict ObjectKey α} (hm : Keyed m) (hn : Keyed n)
    (h : ∀ a, a ∈ m.values ↔ a ∈ n.values) : m = n := by
  refine Dict.ext_get? fun id => Option.ext fun a => ?_
  rw [hm.get?_eq_some_iff, hn.get?_eq_some_iff, h]

/-! ## What a run leaves in the caches -/

/-- What an informer has cached is what some stream has left. -/
def Informer.Streamed {α : Type} [Identified α] (i : Informer α) : Prop :=
  ∃ events, i.cache = .brought i.scope events

namespace Informer

variable {α : Type} [Identified α] {i : Informer α}

theorem Streamed.of_same {j : Informer α} (h : i.Streamed) (hcache : j.cache = i.cache)
    (hscope : j.scope = i.scope) : j.Streamed := by
  obtain ⟨events, hevents⟩ := h
  exact ⟨events, by rw [hcache, hscope, hevents]⟩

theorem Streamed.keyed (h : i.Streamed) : Keyed i.cache.objects := by
  obtain ⟨events, hevents⟩ := h
  rw [hevents]
  exact (Cache.reflects_brought i.scope events).keyed

theorem Streamed.receive (h : i.Streamed) (item : StreamItem α) : (i.receive item).1.Streamed := by
  unfold Informer.receive
  cases i.following with
  | nothing | stopped => exact h
  | waiting items => exact h.of_same rfl rfl
  | running l =>
    cases item with
    | failed => exact h
    | ended => exact h.of_same rfl rfl
    | event e =>
      -- the stream that has left the cache is longer by this event
      obtain ⟨events, hevents⟩ := h
      refine ⟨events ++ [e], ?_⟩
      show (i.cache.handle i.scope e).1 = Cache.brought i.scope (events ++ [e])
      rw [Cache.brought, List.foldl_append, hevents]
      rfl

theorem Streamed.begin (h : i.Streamed) (s : Shutdown) : (i.begin s).Streamed := by
  unfold Informer.begin Informer.start
  cases i.following with
  | nothing | running l | stopped => exact h
  | waiting items => exact h.of_same rfl rfl

theorem Streamed.hear (h : i.Streamed) (s : Shutdown) : (i.hear s).Streamed := by
  unfold Informer.hear
  cases i.following with
  | nothing | waiting items | stopped => exact h
  | running l =>
    dsimp only
    split
    · exact h.of_same rfl rfl
    · exact h

theorem Streamed.timeOut (h : i.Streamed) (timeout : Duration) : (i.timeOut timeout).1.Streamed := by
  obtain ⟨hcache, hscope, _⟩ := i.timeOut_same timeout
  exact h.of_same hcache hscope

end Informer

namespace Informers

variable {is : Informers}

/-- What each informer has cached is what some stream has left. -/
structure Streamed (is : Informers) : Prop where
  serviceMonitors : is.serviceMonitors.Streamed
  podMonitors : is.podMonitors.Streamed
  probes : is.probes.Streamed
  scrapeConfigs : is.scrapeConfigs.Streamed
  secrets : is.secrets.Streamed
  namespaces : is.namespaces.Streamed

theorem Streamed.receive (h : is.Streamed) (d : Delivery) : (is.receive d).1.Streamed := by
  cases d with
  | secret item => exact { h with secrets := h.secrets.receive item }
  | ns item => exact { h with namespaces := h.namespaces.receive item }
  | monitor kind item =>
    cases kind with
    | serviceMonitor => exact { h with serviceMonitors := h.serviceMonitors.receive item }
    | podMonitor => exact { h with podMonitors := h.podMonitors.receive item }
    | probe => exact { h with probes := h.probes.receive item }
    | scrapeConfig => exact { h with scrapeConfigs := h.scrapeConfigs.receive item }
    | secret | «namespace» => exact h

theorem Streamed.alter (h : is.Streamed) {f : {α : Type} → [Identified α] → Informer α → Informer α}
    (hf : ∀ {α : Type} [Identified α] {i : Informer α}, i.Streamed → (f i).Streamed) (k : Kind) :
    (is.alter f k).Streamed := by
  cases k with
  | serviceMonitor => exact { h with serviceMonitors := hf h.serviceMonitors }
  | podMonitor => exact { h with podMonitors := hf h.podMonitors }
  | probe => exact { h with probes := hf h.probes }
  | scrapeConfig => exact { h with scrapeConfigs := hf h.scrapeConfigs }
  | secret => exact { h with secrets := hf h.secrets }
  | «namespace» => exact { h with namespaces := hf h.namespaces }

theorem Streamed.keyed (h : is.Streamed) (k : Kind) : Keyed (is.cached k) := by
  cases k with
  | serviceMonitor => exact h.serviceMonitors.keyed
  | podMonitor => exact h.podMonitors.keyed
  | probe => exact h.probes.keyed
  | scrapeConfig => exact h.scrapeConfigs.keyed
  | secret | «namespace» => exact fun _ _ ha => nomatch ha

/-- Nothing has been cached yet. -/
def Empty (is : Informers) : Prop := ∀ k, is.view (fun i => i.cache = {}) k

theorem Empty.streamed (h : is.Empty) : is.Streamed where
  serviceMonitors := ⟨[], h .serviceMonitor⟩
  podMonitors := ⟨[], h .podMonitor⟩
  probes := ⟨[], h .probe⟩
  scrapeConfigs := ⟨[], h .scrapeConfig⟩
  secrets := ⟨[], h .secret⟩
  namespaces := ⟨[], h .namespace⟩

/-- The same monitors of each kind are cached, and the same namespaces. -/
structure SameObjects (is is' : Informers) : Prop where
  monitors : ∀ k ∈ Kind.monitors, ∀ m, m ∈ is.monitors k ↔ m ∈ is'.monitors k
  namespaces : ∀ n, n ∈ is.namespaces.cache.objects.values ↔ n ∈ is'.namespaces.cache.objects.values

end Informers

/-! ## What a run leaves of a watcher -/

/-- The watcher has these settings, and has cached what streams have left. -/
structure Watcher.Told (settings : Settings) (w : Watcher) : Prop where
  settings : w.settings = settings
  streamed : w.informers.Streamed

namespace Watcher.Told

variable {settings : Settings} {w : Watcher}

theorem call (h : Told settings w) (c : Call) : Told settings (w.call c) where
  settings := (w.settings_call c).trans h.settings
  streamed := by
    rw [w.informers_call]
    exact h.streamed

theorem calls (h : Told settings w) (cs : List Call) : Told settings (cs.foldl Watcher.call w) := by
  induction cs generalizing w with
  | nil => exact h
  | cons c cs ih => exact ih (h.call c)

theorem deliver (h : Told settings w) (d : Delivery) : Told settings (w.deliver d) :=
  have hfollow : Told settings (w.follow d).1 := ⟨h.settings, h.streamed.receive d⟩
  hfollow.calls _

theorem timeOut (h : Told settings w) (k : Kind) : Told settings (w.timeOut k) := by
  have hended := h.streamed.alter (f := fun i => (i.timeOut w.settings.syncTimeout).1)
    (fun hi => hi.timeOut _) k
  unfold Watcher.timeOut
  split
  · dsimp only
    split
    · exact h
    · exact ⟨h.settings, by cases k <;> exact hended⟩
  · exact h

theorem finish (h : Told settings w) : Told settings w.finish := by
  unfold Watcher.finish
  split
  · split
    · exact h
    · exact ⟨h.settings, h.streamed⟩
  · exact h

end Watcher.Told

namespace Lifetime

variable {settings : Settings} {s : Lifetime}

/-- Caches are changed by items that come, at once or after the start; starting, giving up and hearing the
signal leave them alone, and no other act is about informers at all. -/
theorem told_step (h : s.watcher.Told settings) (a : Act) : (s.step a).watcher.Told settings := by
  cases a with
  | deliver d =>
    simp only [step]
    split
    · exact h.deliver d
    · exact h
  | catchUp k =>
    simp only [step]
    split
    · exact h
    · exact h.deliver _
  | resync k => exact h.calls _
  | expire k =>
    simp only [step]
    split
    · exact h.timeOut k
    · exact h
  | start =>
    simp only [step]
    split
    · exact ⟨h.settings, h.streamed.alter (fun hi => hi.begin _) _⟩
    · exact ⟨h.settings, h.streamed⟩
    · exact h
    · exact h
  | hear k => exact ⟨h.settings, h.streamed.alter (fun hi => hi.hear _) k⟩
  | finish => exact h.finish
  | judge =>
    simp only [step]
    split
    · exact ⟨h.settings, h.streamed⟩
    · exact ⟨h.settings, h.streamed⟩
    · exact h
  | watch | startSender | see =>
    simp only [step]
    split
    · exact ⟨h.settings, h.streamed⟩
    · exact h
  | close | tick | receive | leave | notify | resolve _ | send | rearm | hearSender =>
    exact ⟨h.settings, h.streamed⟩

theorem told_run (h : s.watcher.Told settings) (acts : List Act) :
    (s.run acts).watcher.Told settings := by
  induction acts generalizing s with
  | nil => exact h
  | cons a acts ih => exact ih (told_step h a)

end Lifetime

/-! ## Two runs -/

/-- Objects that streams have left decide what there is to load. -/
theorem Watcher.loading_eq {settings : Settings} {w₁ w₂ : Watcher} (h₁ : w₁.Told settings)
    (h₂ : w₂.Told settings) (hsame : w₁.informers.SameObjects w₂.informers) :
    w₁.loading = w₂.loading := by
  have hmonitors : w₁.informers.monitors = w₂.informers.monitors := by
    funext k
    by_cases hk : k ∈ Kind.monitors
    · have hobjects := hsame.monitors k hk
      rw [Informers.monitors_eq_values _ hk, Informers.monitors_eq_values _ hk] at hobjects ⊢
      rw [(h₁.streamed.keyed k).ext (h₂.streamed.keyed k) hobjects]
    · cases k with
      | secret | «namespace» => rfl
      | serviceMonitor | podMonitor | probe | scrapeConfig => exact absurd (by decide) hk
  have hnamespaces : w₁.informers.namespaces.cache.objects = w₂.informers.namespaces.cache.objects :=
    h₁.streamed.namespaces.keyed.ext h₂.streamed.namespaces.keyed hsame.namespaces
  rw [loading, loading, hmonitors, hnamespaces, h₁.settings, h₂.settings]

/-- Two runs of watchers with the same settings that began with empty caches: if they end with the same
objects in the caches, and with stores that keep nothing but what the source has, then they load the same
configuration, with the same warnings. Through which events and in which order the objects came to be cached,
and which secrets the stores keep, makes no difference. -/
theorem Lifetime.load_eq_of_same_objects (w₁ w₂ : Watcher) (acts₁ acts₂ : List Act)
    (source : ObjectKey → Fetched) (hsettings : w₁.settings = w₂.settings)
    (hempty₁ : w₁.informers.Empty) (hempty₂ : w₂.informers.Empty)
    (hsame : ((start w₁).run acts₁).watcher.informers.SameObjects
      ((start w₂).run acts₂).watcher.informers)
    (htruthful₁ : ((start w₁).run acts₁).watcher.store.Truthful source)
    (htruthful₂ : ((start w₂).run acts₂).watcher.store.Truthful source) :
    ∃ config warnings,
      (((start w₁).run acts₁).watcher.load source).2 = (.ok config, warnings) ∧
        (((start w₂).run acts₂).watcher.load source).2 = (.ok config, warnings) := by
  have htold₁ := told_run (s := start w₁) ⟨rfl, hempty₁.streamed⟩ acts₁
  have htold₂ := told_run (s := start w₂) ⟨hsettings.symm, hempty₂.streamed⟩ acts₂
  generalize ((start w₁).run acts₁).watcher = final₁ at *
  generalize ((start w₂).run acts₂).watcher = final₂ at *
  -- caches with the same objects lead to the same questions, and truthful stores to the same answers
  have hload : (final₁.load source).2 = (final₂.load source).2 := by
    rw [Watcher.load_eq_answeredBy, Watcher.load_eq_answeredBy, htruthful₁.now_eq, htruthful₂.now_eq,
      Watcher.loading_eq htold₁ htold₂ hsame]
  obtain ⟨config, warnings, hfirst⟩ := final₁.load_succeeds source
  exact ⟨config, warnings, hfirst, hload ▸ hfirst⟩

namespace Lifetime

open Reloads (secretOf shop)

/-- A watcher of scrape configurations and namespaces to which nothing has happened. -/
def idleShop : Watcher where
  settings := {}
  informers := {
    serviceMonitors := .standIn .serviceMonitor
    podMonitors := .standIn .podMonitor
    probes := .standIn .probe
    scrapeConfigs := { kind := .scrapeConfig }
    secrets := .standIn .secret
    namespaces := { kind := .namespace } }
  outlet := { watcher := "prometheus-cr", channel := { capacity := 1 } }

/-- Tells the informer of scrape configurations of something. -/
def tellShop (item : StreamItem Monitor) : Act := .deliver (.monitor .scrapeConfig item)

/-- The watcher starts, and the job is listed. -/
def shopListed : List Act := .watch :: List.replicate 7 .start ++ (StreamItem.list [shop]).map tellShop

/-- One secret is there. -/
def oneAccount : ObjectKey → Fetched
  | ("default", "account") => .present (secretOf "account" "ann")
  | _ => .absent

/-- The key that the job needs of it. -/
def accountKey : Credential.ValueKey := (("default", "account"), "value")

/-- Another version of the job is listed before the watcher starts. Then it is replaced, everything is reported
again, and something is resolved. -/
def shopReplaced : List Act :=
  (StreamItem.list [{ shop with spec := .scrape {} }]).map tellShop ++
    .watch :: List.replicate 7 .start ++ List.replicate 3 (.catchUp .scrapeConfig) ++
    [tellShop (.event (.deleted shop)), tellShop (.event (.applied shop)), .resync .scrapeConfig,
      .resolve (({} : Store).track accountKey "ann")]

/-- The same is loaded. -/
theorem load_eq_of_shop_replaced :
    ∃ config warnings,
      (((start idleShop).run shopListed).watcher.load oneAccount).2 = (.ok config, warnings) ∧
        (((start idleShop).run shopReplaced).watcher.load oneAccount).2 = (.ok config, warnings) := by
  have hempty : idleShop.informers.Empty := fun k => by cases k <;> rfl
  have hmonitors : ∀ k ∈ Kind.monitors, ((start idleShop).run shopListed).watcher.informers.monitors k =
      ((start idleShop).run shopReplaced).watcher.informers.monitors k := by
    decide +kernel
  refine load_eq_of_same_objects idleShop idleShop shopListed shopReplaced oneAccount rfl hempty hempty
    ⟨fun k hk m => by rw [hmonitors k hk], fun n => Iff.rfl⟩ ?_ ?_
  · intro key v hv
    cases hv
  · intro key v hv
    have hkept : (({} : Store).track accountKey "ann").get? key = some v := hv
    rw [Store.get?_track] at hkept
    split at hkept
    · rename_i hkey
      rw [hkey, ← Option.some.inj hkept]
      decide +kernel
    · cases hkept

end Lifetime

end Watch

end ScrapeFleet
