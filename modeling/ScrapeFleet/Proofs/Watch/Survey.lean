/-
# ScrapeFleet.Proofs.Watch.Survey — what a load selected is what would be selected now

Which monitors a load selects is settled in many small steps: of each kind of monitor the cache is listed at
one time, and for each monitor of the list the namespace is looked up at a later one. Among these steps the
parties of `ScrapeFleet.Proofs.Watch.Scene` act as they like, and any number of loads run. A load is seen here
only as far as it selects, as a survey; what it does with a selected monitor takes time and nothing else.

A survey always foresees what it would see if nothing else happened (`Survey.foreseen`), and if nothing does it
selects what the load of a watcher goes through (`Survey.selects_selectAll`). While no notification is pending
and none was taken since it began, what it foresees agrees with the caches, but for calls that have still to be
made (`Agrees`), and each act preserves this. So if all calls are made the last load selected what would be
selected now (`selectAll_eq_last`), except where the verdict on a namespace has turned untold. Where it has, no
notification comes and the load stays out of date (`survey_outdated`).
-/
import Mathlib.Logic.Relation
import ScrapeFleet.Proofs.Watch.Silence

namespace ScrapeFleet.Watch

open Cluster (Namespace ObjectKey)
open Generate (selectAll selected selected_eq_verdict verdict)

/-! ## Surveys -/

/-- A monitor as a load came across it. -/
structure Sight where
  monitor : Monitor
  /-- Its namespace as it was cached then, if it was. -/
  home : Option Namespace
  /-- Since then the verdict on the namespace has changed untold, an odd number of times. -/
  turned : Bool := false
deriving Repr

/-- The monitor was selected. -/
def Sight.selected (f : Sight) (settings : Settings) : Bool :=
  selectedBy (settings.selection f.monitor.kind).selector f.monitor.labels
    && verdict settings f.monitor.kind f.home

/-- What there is to say of a survey. -/
structure SurveyRecord where
  /-- What it saw of each kind in the order of the list. -/
  seen : Kind → List Sight := fun _ => []
  /-- No notification was taken since it began. -/
  current : Bool := true

/-- The monitors of a kind that were selected, by their job keys. -/
def SurveyRecord.selected (r : SurveyRecord) (settings : Settings) (k : Kind) : Dict String Monitor :=
  .ofList (((r.seen k).filter fun f => f.monitor.kind == k && f.selected settings).map fun f =>
    (f.monitor.jobKey, f.monitor))

/-- A survey that goes on. -/
structure Survey extends SurveyRecord where
  /-- The kinds that it has not listed. -/
  rest : List Kind := Kind.monitors
  /-- The listed monitors whose namespaces it has not looked up. -/
  todo : List (Kind × Monitor) := []

/-- A survey that is complete, as its load is. -/
structure SurveyResult extends SurveyRecord where
  /-- No notification was taken since it was complete. -/
  recent : Bool := true

namespace Watcher

/-- The labels of a namespace that is cached. -/
def known (w : Watcher) : String → Option Labels := knownLabels w.informers.namespaces.cache.objects

/-- How a load comes across a monitor now. -/
def sight (w : Watcher) (m : Monitor) : Sight := ⟨m, w.namespace? m.namespaceText, false⟩

/-- What was pending was taken. -/
def hasTaken (w w' : Watcher) : Bool := w.isPending && !w'.isPending

end Watcher

/-- What is to say of a monitor that was seen, after the watcher has become another. -/
def Sight.after (w w' : Watcher) (f : Sight) : Sight :=
  { f with
    turned := f.turned ^^ turnsUntold w.settings f.monitor.kind (w.namespace? f.monitor.namespaceText)
      (w'.namespace? f.monitor.namespaceText) }

/-- What is to say of a survey after that. -/
def SurveyRecord.after (w w' : Watcher) (r : SurveyRecord) : SurveyRecord where
  seen k := (r.seen k).map (.after w w')
  current := r.current && !w.hasTaken w'

namespace Survey

/-- The next step of a survey, if it is not complete. -/
def next (w : Watcher) (l : Survey) : Option Survey :=
  match l.todo, l.rest with
  | (k, m) :: todo, _ =>
    some { l with todo := todo, seen := Function.update l.seen k (l.seen k ++ [w.sight m]) }
  | [], k :: rest =>
    some { l with
      rest := rest
      todo := (w.informers.monitors k).map (k, ·)
      seen := Function.update l.seen k [] }
  | [], [] => none

/-- What a survey will have seen of a kind if nothing else happens. -/
def foreseen (w : Watcher) (l : Survey) (k : Kind) : List Sight :=
  if k ∈ l.rest then (w.informers.monitors k).map w.sight
  else l.seen k ++ (l.todo.filter (·.1 = k)).map fun e => w.sight e.2

variable {w : Watcher} {l l' : Survey} {k : Kind}

/-- A survey that begins will see all that is cached. -/
theorem foreseen_begin (hk : k ∈ Kind.monitors) :
    ({} : Survey).foreseen w k = (w.informers.monitors k).map w.sight := if_pos hk

/-- A step does not change what it will have seen. -/
theorem foreseen_next (h : l.next w = some l') : l'.foreseen w k = l.foreseen w k := by
  unfold next at h
  split at h
  · rename_i k' m todo htodo
    obtain rfl := Option.some.inj h
    unfold foreseen
    by_cases hrest : k ∈ l.rest
    · simp only [if_pos hrest]
    · simp only [if_neg hrest, htodo, List.filter_cons]
      by_cases hkind : k' = k
      · subst hkind
        simp
      · simp [hkind, Ne.symm hkind]
  · rename_i k' rest htodo hrest
    obtain rfl := Option.some.inj h
    simp only [foreseen, htodo, hrest, List.mem_cons]
    by_cases hkind : k = k'
    · -- it is of no account whether the kind is to be listed again
      subst hkind
      simp [List.filter_map, Function.comp_def]
    · simp [hkind, Ne.symm hkind, List.filter_map, Function.comp_def]
  · cases h

theorem current_next (h : l.next w = some l') : l'.current = l.current := by
  unfold next at h
  split at h <;> cases h <;> rfl

/-- A step leaves fewer kinds, or as many and fewer of the listed monitors. -/
theorem next_shrinks (h : l.next w = some l') : Prod.Lex (· < ·) (· < ·)
    (l'.rest.length, l'.todo.length) (l.rest.length, l.todo.length) := by
  unfold next at h
  split at h
  · rename_i htodo
    obtain rfl := Option.some.inj h
    exact .right _ (by simp [htodo])
  · rename_i hrest
    obtain rfl := Option.some.inj h
    exact .left _ _ (by simp [hrest])
  · cases h

/-- A survey that is complete has seen it. -/
theorem foreseen_end (h : l.next w = none) : l.foreseen w k = l.seen k := by
  unfold next at h
  split at h
  · cases h
  · cases h
  · rename_i htodo hrest
    simp [foreseen, htodo, hrest]

end Survey

theorem Watcher.selected_sight (w : Watcher) (m : Monitor) :
    (w.sight m).selected w.settings = selected w.settings w.known m :=
  (selected_eq_verdict w.settings w.informers.namespaces.cache.objects m).symm

/-- If it saw all that is cached, it selected what the watcher would. -/
theorem SurveyRecord.selected_eq_selectAll {w : Watcher} {r : SurveyRecord} {k : Kind}
    (hlisted : w.informers.monitors k = (r.seen k).map (·.monitor))
    (hselected : ∀ f ∈ r.seen k, f.selected w.settings = Generate.selected w.settings w.known f.monitor) :
    r.selected w.settings k = selectAll w.settings w.known k (w.informers.monitors k) := by
  rw [selected, selectAll, hlisted, List.filter_map, List.map_map]
  refine congrArg Dict.ofList (congrArg (List.map _) (List.filter_congr fun f hf => ?_))
  rw [hselected f hf]
  rfl

/-- Steps of a survey while nothing else happens. -/
abbrev Survey.Leads (w : Watcher) : Survey → Survey → Prop :=
  Relation.ReflTransGen fun l l' => l.next w = some l'

theorem Survey.exists_end (w : Watcher) (l : Survey) : ∃ l', Leads w l l' ∧ l'.next w = none := by
  cases h : l.next w with
  | none => exact ⟨l, .refl, h⟩
  | some l' =>
    obtain ⟨l'', hleads, hend⟩ := exists_end w l'
    exact ⟨l'', .head h hleads, hend⟩
termination_by (l.rest.length, l.todo.length)
decreasing_by exact Survey.next_shrinks h

theorem Survey.Leads.foreseen {w : Watcher} {l l' : Survey} (h : Leads w l l') (k : Kind) :
    l'.foreseen w k = l.foreseen w k := by
  induction h with
  | refl => rfl
  | tail _ hnext ih => exact (foreseen_next hnext).trans ih

/-- A survey that nothing disturbs comes to an end, and then it has selected what a load goes through. -/
theorem Survey.selects_selectAll (w : Watcher) :
    ∃ l, Leads w {} l ∧ l.next w = none ∧ ∀ k ∈ Kind.monitors,
      l.selected w.settings k = selectAll w.settings w.known k (w.informers.monitors k) := by
  obtain ⟨l, hleads, hend⟩ := exists_end w {}
  refine ⟨l, hleads, hend, fun k hk => ?_⟩
  have hseen : l.seen k = (w.informers.monitors k).map w.sight := by
    rw [← foreseen_end hend, hleads.foreseen, foreseen_begin hk]
  refine SurveyRecord.selected_eq_selectAll ?_ fun f hf => ?_
  · simp [hseen, Watcher.sight, Function.comp_def]
  · rw [hseen] at hf
    obtain ⟨m, _, rfl⟩ := List.mem_map.1 hf
    exact w.selected_sight m

/-! ## Loads among the parties -/

/-- A watcher among the parties that act on it, and the loads that run. -/
structure Surveys where
  scene : Scene
  surveys : List Survey := []
  /-- The survey of the load that was completed last. -/
  last : Option SurveyResult := none

namespace Surveys

/-- What may happen next. -/
inductive Act where
  | party (a : Watch.Act)
  /-- A load begins. -/
  | begin
  /-- A load takes its next step, or is complete. -/
  | proceed (n : Nat)
  | cancel (n : Nat)

/-- The state after an act. -/
def step (d : Surveys) : Act → Surveys
  | .party a =>
    let scene := d.scene.step a
    let after := SurveyRecord.after d.scene.watcher scene.watcher
    { scene := scene
      surveys := d.surveys.map fun l => { l with toSurveyRecord := after l.toSurveyRecord }
      last := d.last.map fun r =>
        { toSurveyRecord := after r.toSurveyRecord
          recent := r.recent && !d.scene.watcher.hasTaken scene.watcher } }
  | .begin => { d with surveys := d.surveys ++ [{}] }
  | .proceed n =>
    match d.surveys[n]? with
    | none => d
    | some l =>
      match l.next d.scene.watcher with
      | some l' => { d with surveys := d.surveys.set n l' }
      | none => { d with surveys := d.surveys.eraseIdx n, last := some { l.toSurveyRecord with } }
  | .cancel n => { d with surveys := d.surveys.eraseIdx n }

/-- The state after a run. -/
def run (d : Surveys) (acts : List Act) : Surveys := acts.foldl step d

/-! ## What a survey can rely on -/

/-- What was seen of a kind is what would be seen now, but for calls that have still to be made, and a verdict
is another exactly if it has turned. -/
structure Agrees (s : Scene) (k : Kind) (sights : List Sight) : Prop where
  listed : s.Silent k → s.watcher.informers.monitors k = sights.map (·.monitor)
  judged : s.Silent .namespace → ∀ f ∈ sights,
    verdict s.watcher.settings f.monitor.kind (s.watcher.namespace? f.monitor.namespaceText) =
      (verdict s.watcher.settings f.monitor.kind f.home ^^ f.turned)

namespace Agrees

variable {s s' : Scene} {k : Kind} {sights sights' : List Sight}

/-- What is seen now. -/
theorem now (s : Scene) (k : Kind) : Agrees s k ((s.watcher.informers.monitors k).map s.watcher.sight) where
  listed _ := by simp [Watcher.sight, Function.comp_def]
  judged _ f hf := by
    obtain ⟨m, _, rfl⟩ := List.mem_map.1 hf
    exact (Bool.xor_false _).symm

/-- After an act everything that was seen agrees still, and so does what is seen in place of it now. -/
theorem after (hk : k ∈ Kind.monitors) (heffect : s.Effect s')
    (hsettings : s'.watcher.settings = s.watcher.settings) (hpending : s'.watcher.isPending = false)
    (h : Agrees s k sights) (hmonitors : sights'.map (·.monitor) = sights.map (·.monitor))
    (hsights : ∀ f ∈ sights', f = s'.watcher.sight f.monitor ∨
      ∃ g ∈ sights, f = g.after s.watcher s'.watcher) : Agrees s' k sights' where
  listed hsilent := by
    rw [heffect.monitors hk hsilent, hmonitors]
    exact h.listed (heffect.silent hsettings hpending hsilent)
  judged hsilent f hf := by
    rcases hsights f hf with hnow | ⟨g, hg, rfl⟩
    · rw [hnow]
      exact (Bool.xor_false _).symm
    · -- what has turned before the act and what turns in it add up
      have hbefore := h.judged (heffect.silent hsettings hpending hsilent) g hg
      have hturn := heffect.verdict g.monitor.kind_mem_monitors hsettings hsilent g.monitor.namespaceText
      rw [hbefore, Bool.xor_assoc] at hturn
      rw [hsettings]
      exact hturn

end Agrees

/-- While no notification is pending, the surveys that began after the last one was taken agree with the
caches. -/
structure Sound (d : Surveys) : Prop where
  running : d.scene.watcher.isPending = false → ∀ l ∈ d.surveys, l.current = true →
    ∀ k ∈ Kind.monitors, Agrees d.scene k (l.foreseen d.scene.watcher k)
  completed : d.scene.watcher.isPending = false → ∀ r ∈ d.last, r.current = true →
    ∀ k ∈ Kind.monitors, Agrees d.scene k (r.seen k)

namespace Sound

variable {d : Surveys}

/-- A record that is current after an act was current before, and no notification was pending then. -/
theorem of_current {w w' : Watcher} {r : SurveyRecord} (hpending : w'.isPending = false)
    (h : (r.after w w').current = true) : w.isPending = false ∧ r.current = true := by
  simp only [SurveyRecord.after, Watcher.hasTaken, hpending] at h
  cases hbefore : w.isPending <;> simp_all

/-- The parties act: what a survey has seen it has seen, and what it has still to see is what there is. -/
theorem of_party (hd : d.Sound) (a : Watch.Act) : (d.step (.party a)).Sound := by
  have heffect := d.scene.effect_step a
  have hsettings := d.scene.settings_step a
  refine ⟨fun hpending l hl hcurrent k hk => ?_, fun hpending r hr hcurrent k hk => ?_⟩
  · obtain ⟨l, hbefore, rfl⟩ := List.mem_map.1 hl
    obtain ⟨hquiet, hcurrent⟩ := of_current hpending hcurrent
    have hagrees := hd.running hquiet l hbefore hcurrent k hk
    unfold Survey.foreseen at hagrees ⊢
    by_cases hrest : k ∈ l.rest
    · -- the kind will be listed as it is by then
      simp only [if_pos hrest]
      exact .now _ k
    · -- of what is listed a part was seen, and the rest will be seen as it is now
      simp only [if_neg hrest] at hagrees ⊢
      refine hagrees.after hk heffect hsettings hpending ?_ fun f hf => ?_
      · simp [SurveyRecord.after, Sight.after, Watcher.sight, Function.comp_def]
      · rcases List.mem_append.1 hf with hf | hf
        · obtain ⟨g, hg, rfl⟩ := List.mem_map.1 hf
          exact .inr ⟨g, List.mem_append_left _ hg, rfl⟩
        · obtain ⟨e, _, rfl⟩ := List.mem_map.1 hf
          exact .inl rfl
  · obtain ⟨r, hbefore, rfl⟩ := Option.map_eq_some_iff.1 hr
    obtain ⟨hquiet, hcurrent⟩ := of_current hpending hcurrent
    refine (hd.completed hquiet r hbefore hcurrent k hk).after hk heffect hsettings hpending ?_ fun f hf => ?_
    · simp [SurveyRecord.after, Sight.after, Function.comp_def]
    · obtain ⟨g, hg, rfl⟩ := List.mem_map.1 hf
      exact .inr ⟨g, hg, rfl⟩

theorem of_begin (hd : d.Sound) : (d.step .begin).Sound := by
  refine ⟨fun hpending l hl hcurrent k hk => ?_, hd.completed⟩
  rcases List.mem_append.1 hl with hl | hl
  · exact hd.running hpending l hl hcurrent k hk
  · obtain rfl := List.mem_singleton.1 hl
    rw [Survey.foreseen_begin hk]
    exact .now d.scene k

/-- A survey that takes a step foresees what it foresaw. -/
theorem of_proceed (hd : d.Sound) (n : Nat) : (d.step (.proceed n)).Sound := by
  simp only [step]
  split
  · exact hd
  · rename_i l hl
    have hmem : l ∈ d.surveys := List.mem_of_getElem? hl
    split
    · rename_i l' hnext
      refine ⟨fun hpending m hm hcurrent k hk => ?_, hd.completed⟩
      rcases List.mem_or_eq_of_mem_set hm with hm | rfl
      · exact hd.running hpending m hm hcurrent k hk
      · rw [Survey.foreseen_next hnext]
        exact hd.running hpending l hmem (Survey.current_next hnext ▸ hcurrent) k hk
    · rename_i hnext
      refine ⟨fun hpending m hm => hd.running hpending m (List.mem_of_mem_eraseIdx hm),
        fun hpending r hr hcurrent k hk => ?_⟩
      obtain rfl := Option.mem_some.1 hr
      have hagrees := hd.running hpending l hmem hcurrent k hk
      rw [Survey.foreseen_end hnext] at hagrees
      exact hagrees

theorem step (hd : d.Sound) (a : Act) : (d.step a).Sound := by
  cases a with
  | party a => exact hd.of_party a
  | begin => exact hd.of_begin
  | proceed n => exact hd.of_proceed n
  | cancel n =>
    exact ⟨fun hpending l hl => hd.running hpending l (List.mem_of_mem_eraseIdx hl), hd.completed⟩

theorem run (hd : d.Sound) (acts : List Act) : (d.run acts).Sound := by
  induction acts generalizing d with
  | nil => exact hd
  | cons a acts ih => exact ih (hd.step a)

end Sound

/-- Parties of which nobody has loaded. -/
def start (s : Scene) : Surveys := { scene := s }

theorem sound_start (s : Scene) : (start s).Sound :=
  ⟨fun _ _ hl => (nomatch hl), fun _ _ hr => (nomatch hr)⟩

/-- When all calls are made and no notification is pending, the last load is up to date if it began after the
last notification was taken. It listed what is cached, and it selected what would be selected now, but for
monitors on whose namespaces the verdict has turned untold since. -/
theorem selectAll_eq_last (s : Scene) (acts : List Act) {r : SurveyResult}
    (hlast : ((start s).run acts).last = some r)
    (hcalls : ∀ k, ((start s).run acts).scene.calls k = [])
    (hpending : ((start s).run acts).scene.watcher.isPending = false) (hcurrent : r.current = true) :
    let w := ((start s).run acts).scene.watcher
    ∀ k ∈ Kind.monitors,
      w.informers.monitors k = (r.seen k).map (·.monitor) ∧
        (∀ f ∈ r.seen k, f.turned = false →
          selected w.settings w.known f.monitor = f.selected w.settings) ∧
        ((∀ f ∈ r.seen k, f.turned = false) →
          selectAll w.settings w.known k (w.informers.monitors k) = r.selected w.settings k) := by
  intro w k hk
  have hagrees := ((sound_start s).run acts).completed hpending r hlast hcurrent k hk
  have hlisted := hagrees.listed (Scene.silent_of_nil (hcalls k))
  have hselected : ∀ f ∈ r.seen k, f.turned = false →
      selected w.settings w.known f.monitor = f.selected w.settings := by
    intro f hf hturned
    have hverdict := hagrees.judged (Scene.silent_of_nil (hcalls .namespace)) f hf
    rw [hturned, Bool.xor_false] at hverdict
    rw [← w.selected_sight, Sight.selected, Sight.selected, ← hverdict]
    rfl
  refine ⟨hlisted, hselected, fun hturned => ?_⟩
  exact (SurveyRecord.selected_eq_selectAll hlisted fun f hf => (hselected f hf (hturned f hf)).symm).symm

/-! ## Runs of a small watcher -/

/-- A watcher that selects jobs by the label of their namespace. -/
def guarded : Scene where
  watcher := { Reloads.shopWatcher with
    settings := {
      scrapeConfigs := { namespaceSelector := some { labels := some (Dict.empty.insert "team" "shop") } } }
    informers := { Reloads.shopWatcher.informers with
      namespaces := { kind := .namespace, state := .synced, following := .running ⟨0⟩ } } }

/-- A version of the namespace of the job. -/
def home (version : String) (labels : List (String × String)) : Namespace where
  metadata := {
    name := some "default"
    labels := some (.ofList labels)
    resourceVersion := some version }

/-- An event of the namespace comes, and its informer makes the call. -/
def hear (e : WatchEvent Namespace) : List Act :=
  [.party (.arrive (.ns (.event e))), .party (.call .namespace)]

/-- What is pending is taken. -/
def take : Act := .party .tick

/-- A load lists four kinds, looks up the namespace of one job, and is complete. -/
def load : List Act := .begin :: List.replicate 6 (.proceed 0)

/-- All calls are made, no load runs, no notification is pending, and a load was completed since the last one
was taken. -/
def isSettled (d : Surveys) : Bool :=
  Kind.all.all (fun k => (d.scene.calls k).isEmpty) && d.surveys.isEmpty && !d.scene.watcher.isPending
    && d.last.any (·.recent)

/-- What would be selected of each kind now. -/
def selection (d : Surveys) : List (Dict String Monitor) :=
  let w := d.scene.watcher
  Kind.monitors.map fun k => selectAll w.settings w.known k (w.informers.monitors k)

/-- What the last load selected of each kind. -/
def lastSelection (d : Surveys) : Option (List (Dict String Monitor)) :=
  d.last.map fun r => Kind.monitors.map (r.selected d.scene.watcher.settings)

/-- The namespace is relabelled after the load, and has the label still. -/
def relabelled : List Act :=
  hear (.applied (home "1" [("team", "shop")])) ++ [take] ++ load
    ++ hear (.applied (home "2" [("team", "shop"), ("tier", "web")]))

/-- The job was selected, and it would be selected now. -/
theorem selectAll_eq_last_relabelled :
    ∃ r, ((start guarded).run relabelled).last = some r ∧
      (r.selected guarded.watcher.settings .scrapeConfig).values = [Reloads.shop] ∧
      let w := ((start guarded).run relabelled).scene.watcher
      selectAll w.settings w.known .scrapeConfig (w.informers.monitors .scrapeConfig) =
        r.selected w.settings .scrapeConfig := by
  have hsettled : ((start guarded).run relabelled).isSettled = true := by decide +kernel
  have hfacts : ((start guarded).run relabelled).last.any (fun r =>
      r.current && (r.seen .scrapeConfig).all (!·.turned) &&
        (r.selected guarded.watcher.settings .scrapeConfig).values == [Reloads.shop]) = true := by
    decide +kernel
  simp only [isSettled, Bool.and_eq_true, Bool.not_eq_true', List.all_eq_true, List.isEmpty_iff] at hsettled
  obtain ⟨⟨⟨hcalls, _⟩, hpending⟩, _⟩ := hsettled
  obtain ⟨r, hlast, hr⟩ := (Option.any_eq_true _ _).1 hfacts
  simp only [Bool.and_eq_true, Bool.not_eq_true', List.all_eq_true, beq_iff_eq] at hr
  obtain ⟨⟨hcurrent, hturned⟩, hvalues⟩ := hr
  have hkinds : ∀ k, k ∈ Kind.all := by
    intro k
    cases k <;> decide
  exact ⟨r, hlast, hvalues, (selectAll_eq_last guarded relabelled hlast (fun k => hcalls k (hkinds k))
    hpending hcurrent .scrapeConfig (by decide)).2.2 hturned⟩

/-- The namespace comes after the load. -/
def comesLater : List Act := [take] ++ load ++ hear (.applied (home "1" [("team", "shop")]))

/-- The namespace goes after the load. -/
def goesLater : List Act :=
  hear (.applied (home "1" [("team", "shop")])) ++ [take] ++ load
    ++ hear (.deleted (home "1" [("team", "shop")]))

/-- The namespace loses its label, and the notification of that is taken, while the load that has looked it up
is not complete. -/
def takenDuringSurvey : List Act :=
  hear (.applied (home "1" [("team", "shop")])) ++ [take, .party .send] ++ load.take 6
    ++ hear (.applied (home "2" [])) ++ [take, .proceed 0]

/-- The watcher is settled, but what would be selected is not what the last load selected. -/
def IsOutdated (d : Surveys) : Prop := d.isSettled = true ∧ d.lastSelection ≠ some d.selection

/-- After each of these runs the last load is out of date, and no notification tells of it. -/
theorem survey_outdated :
    ((start guarded).run comesLater).IsOutdated ∧ ((start guarded).run goesLater).IsOutdated ∧
      ((start guarded).run takenDuringSurvey).IsOutdated := by
  unfold IsOutdated
  decide +kernel

end Surveys

end ScrapeFleet.Watch
