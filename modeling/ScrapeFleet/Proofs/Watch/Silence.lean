/-
# ScrapeFleet.Proofs.Watch.Silence — what stays as it is while nobody is told of a change

A load depends on the caches of the monitors and on what the namespace selectors say of the cached
namespaces. While no notification is pending and no call that would mark one has still to be made, the cached
monitors are what they were (`Effect.monitors`), and so is what a selector says of a namespace
(`Effect.verdict`). The second has an exception, for nobody is told of a namespace that comes or goes: it is
expected that the monitors in it are told of by themselves. An update under the version that is known is
dropped as well, so that a selector may change its mind untold (`turnsUntold`) in these ways and no other.

Of an act among the parties this uses only what it does to caches, calls and mark (`Scene.Effect`).
-/
import ScrapeFleet.Proofs.Watch.Announcement
import ScrapeFleet.Proofs.Watch.Freshness

namespace ScrapeFleet

open Cluster (Namespace ObjectKey)

theorem Monitor.kind_mem_monitors (m : Monitor) : m.kind ∈ Kind.monitors := by
  unfold Monitor.kind
  cases m.spec <;> simp [Monitor.Spec.kind, Kind.monitors]

/-! ## Verdicts on namespaces -/

namespace Generate

/-- What the namespace selector for a kind says of a namespace, which is given as it is cached, if it is. -/
def verdict (settings : Settings) (k : Kind) (ns : Option Namespace) : Bool :=
  match (settings.selection k).namespaceSelector with
  | none => true
  | some s => ns.any fun ns => s.selects ns.metadata.labelDict

/-- The verdict on a namespace is what a cache says of the one with its name. -/
theorem namespaceSelected_eq_verdict (settings : Settings) (k : Kind) (namespaces : Dict ObjectKey Namespace)
    (name : String) :
    namespaceSelected (settings.selection k).namespaceSelector (Watch.knownLabels namespaces) name =
      verdict settings k (namespaces.get? ("", name)) := by
  unfold namespaceSelected verdict
  cases (settings.selection k).namespaceSelector with
  | none => rfl
  | some s => exact Option.any_map

/-- A monitor is selected if its own labels are, and if the verdict on its namespace is good. -/
theorem selected_eq_verdict (settings : Settings) (namespaces : Dict ObjectKey Namespace) (m : Monitor) :
    selected settings (Watch.knownLabels namespaces) m =
      (selectedBy (settings.selection m.kind).selector m.labels &&
        verdict settings m.kind (namespaces.get? ("", m.namespaceText))) := by
  rw [← namespaceSelected_eq_verdict, selected]

end Generate

namespace Watch

open Generate (verdict)

/-- A namespace is cached in another version than it was. -/
def isRenewed : Option Namespace → Option Namespace → Bool
  | some old, some new => old.metadata.resourceVersion != new.metadata.resourceVersion
  | none, _ | _, none => false

/-- The verdict on a namespace changes, and no update could tell of it: the namespace comes or goes, or it has
other labels under the version that it had. -/
def turnsUntold (settings : Settings) (k : Kind) (before after : Option Namespace) : Bool :=
  verdict settings k before != verdict settings k after && !isRenewed before after

/-- A verdict that only changes untold changes exactly then. -/
theorem verdict_eq_of_untold {settings : Settings} {k : Kind} {before after : Option Namespace}
    (h : verdict settings k before ≠ verdict settings k after → ¬ isRenewed before after = true) :
    verdict settings k after = (verdict settings k before ^^ turnsUntold settings k before after) := by
  unfold turnsUntold
  cases hbefore : verdict settings k before <;> cases hafter : verdict settings k after <;>
    simp_all

/-- A new version of a namespace matters exactly if it changes a verdict. -/
theorem matters_iff {settings : Settings} {old new : Namespace} :
    namespaceMatters settings old new = true ↔ isRenewed (some old) (some new) = true ∧
      ∃ k ∈ Kind.monitors, verdict settings k (some old) ≠ verdict settings k (some new) := by
  rw [namespaceMatters, Bool.and_eq_true]
  refine and_congr_right fun _ => ?_
  rw [selectionChanged, List.any_eq_true]
  constructor
  · rintro ⟨s, hs, hturned⟩
    obtain ⟨k, hk, hselector⟩ := List.mem_filterMap.1 hs
    refine ⟨k, hk, ?_⟩
    unfold verdict
    rw [hselector]
    exact bne_iff_ne.1 hturned
  · rintro ⟨k, hk, hverdict⟩
    unfold verdict at hverdict
    cases hselector : (settings.selection k).namespaceSelector with
    | none =>
      -- without a selector every verdict is good
      rw [hselector] at hverdict
      exact absurd rfl hverdict
    | some s =>
      rw [hselector] at hverdict
      exact ⟨s, List.mem_filterMap.2 ⟨k, hk, hselector⟩, bne_iff_ne.2 hverdict⟩

/-- A cached namespace. -/
def Watcher.namespace? (w : Watcher) (name : String) : Option Namespace :=
  w.informers.namespaces.cache.objects.get? ("", name)

/-! ## Calls that count -/

/-- A call marks a change, whatever else there is. One that tells of a secret may or may not. -/
def Call.counts (settings : Settings) : Call → Bool
  | .monitor _ => true
  | .ns (.updated old new) => namespaceMatters settings old new
  | .ns (.added _) | .ns (.deleted _) | .secret _ => false

theorem Watcher.isPending_call {w : Watcher} {c : Call} (h : c.counts w.settings = true) :
    (w.call c).isPending = true := by
  cases c with
  | monitor c => rfl
  | secret c => cases h
  | ns c =>
    cases c with
    | added new => cases h
    | deleted old => cases h
    | updated old new =>
      have hmatters : namespaceMatters w.settings old new = true := h
      show (w.outlet.notifier.pending || namespaceMatters w.settings old new) = true
      rw [hmatters, Bool.or_true]

theorem Watcher.settings_call (w : Watcher) (c : Call) : (w.call c).settings = w.settings := by
  cases c with
  | monitor c => rfl
  | secret c => rfl
  | ns c => cases c <;> rfl

namespace Scene

/-- None of the calls that the informer of a kind has still to make counts. -/
def Silent (s : Scene) (k : Kind) : Prop := ∀ c ∈ s.calls k, c.counts s.watcher.settings = false

theorem silent_of_nil {s : Scene} {k : Kind} (h : s.calls k = []) : s.Silent k := by
  intro c hc
  rw [h] at hc
  cases hc

/-! ## What acts do to caches and calls -/

/-- What may become of the caches and of the calls in one act. -/
inductive Effect (s s' : Scene) : Prop
  | quiet : s'.watcher.informers = s.watcher.informers → s'.calls = s.calls → Effect s s'
  | arrived (d : Delivery) : s.calls d.kind = [] →
      s'.watcher.informers = (s.watcher.informers.receive d).1 →
      s'.calls = Function.update s.calls d.kind (s.watcher.informers.receive d).2.1 → Effect s s'
  | repeated (k : Kind) (calls : List Call) : s.calls k = [] →
      s'.watcher.informers = s.watcher.informers → s'.calls = Function.update s.calls k calls → Effect s s'
  | called (k : Kind) (c : Call) (cs : List Call) : s.calls k = c :: cs →
      s'.watcher = s.watcher.call c → s'.calls = Function.update s.calls k cs → Effect s s'

theorem effect_step (s : Scene) (a : Act) : s.Effect (s.step a) := by
  cases a with
  | arrive d =>
    by_cases hidle : (s.calls d.kind).isEmpty = true
    · have hstep : s.step (.arrive d) =
          { s with
            watcher := (s.watcher.follow d).1
            calls := Function.update s.calls d.kind (s.watcher.follow d).2 } := by
        simp only [step, if_pos hidle]
      rw [hstep]
      exact .arrived d (List.isEmpty_iff.1 hidle) rfl rfl
    · simp only [step, if_neg hidle]
      exact .quiet rfl rfl
  | resync k =>
    simp only [step]
    split
    · rename_i hidle
      exact .repeated k _ (List.isEmpty_iff.1 hidle) rfl rfl
    · exact .quiet rfl rfl
  | call k =>
    cases hcalls : s.calls k with
    | nil =>
      simp only [step, hcalls]
      exact .quiet rfl rfl
    | cons c cs =>
      simp only [step, hcalls]
      exact .called k c cs hcalls rfl rfl
  | start | receive | read | proceed _ =>
    simp only [step]
    split <;> exact .quiet rfl rfl
  | notify | resolve _ | tick | send | rearm | hear | close | leave | readApart _ => exact .quiet rfl rfl

theorem settings_step (s : Scene) (a : Act) : (s.step a).watcher.settings = s.watcher.settings := by
  cases a with
  | arrive _ | resync _ | start | receive | read | proceed _ =>
    simp only [step]
    split <;> rfl
  | call k =>
    simp only [step]
    split
    · rfl
    · exact s.watcher.settings_call _
  | notify | resolve _ | tick | send | rearm | hear | close | leave | readApart _ => rfl

namespace Effect

variable {s s' : Scene} {k : Kind}

/-- If nothing is left to be told after an act and no notification is pending, nothing was left before it:
a call that counts is either still to be made, or was made and has marked the change. -/
theorem silent (h : s.Effect s') (hsettings : s'.watcher.settings = s.watcher.settings)
    (hpending : s'.watcher.isPending = false) (hsilent : s'.Silent k) : s.Silent k := by
  unfold Silent at hsilent ⊢
  rw [hsettings] at hsilent
  cases h with
  | quiet _ hcalls =>
    rw [hcalls] at hsilent
    exact hsilent
  | arrived d hidle _ hcalls =>
    by_cases hkind : k = d.kind
    · -- an informer follows its stream only when it has made all its calls
      rw [hkind]
      exact silent_of_nil hidle
    · rw [hcalls, Function.update_of_ne hkind] at hsilent
      exact hsilent
  | repeated k' calls hidle _ hcalls =>
    by_cases hkind : k = k'
    · rw [hkind]
      exact silent_of_nil hidle
    · rw [hcalls, Function.update_of_ne hkind] at hsilent
      exact hsilent
  | called k' c cs hbefore hwatcher hcalls =>
    by_cases hkind : k = k'
    · subst hkind
      rw [hcalls, Function.update_self] at hsilent
      intro c' hc'
      rw [hbefore] at hc'
      rcases List.mem_cons.1 hc' with rfl | hc'
      · -- this call was made just now, so if it counted a notification would be pending
        rw [hwatcher] at hpending
        cases hcounts : c'.counts s.watcher.settings with
        | false => rfl
        | true =>
          rw [Watcher.isPending_call hcounts] at hpending
          cases hpending
      · exact hsilent c' hc'
    · rw [hcalls, Function.update_of_ne hkind] at hsilent
      exact hsilent

/-- Only an item that arrives changes what is cached. -/
theorem informers (h : s.Effect s') : s'.watcher.informers = s.watcher.informers ∨
    ∃ d, s'.watcher.informers = (s.watcher.informers.receive d).1 ∧
      s'.calls d.kind = (s.watcher.informers.receive d).2.1 := by
  cases h with
  | quiet hinformers _ => exact .inl hinformers
  | repeated _ _ _ hinformers _ => exact .inl hinformers
  | called _ c _ _ hwatcher _ =>
    left
    rw [hwatcher]
    exact s.watcher.informers_call c
  | arrived d _ hinformers hcalls =>
    refine .inr ⟨d, hinformers, ?_⟩
    rw [hcalls]
    exact Function.update_self ..

/-- The cached monitors of a kind are what they were, if no call that tells of one is left. -/
theorem monitors (h : s.Effect s') (hk : k ∈ Kind.monitors) (hsilent : s'.Silent k) :
    s'.watcher.informers.monitors k = s.watcher.informers.monitors k := by
  rcases h.informers with hsame | ⟨d, hinformers, hcalls⟩
  · rw [hsame]
  · rw [Informers.monitors_eq_values _ hk, Informers.monitors_eq_values _ hk, hinformers]
    refine congrArg Dict.values (Dict.ext_get? fun id => ?_)
    -- each change of a monitor is told of by a call, and every such call counts
    by_contra hchanged
    obtain ⟨rfl, c, hc, _⟩ := Informers.described_receive hchanged
    cases hsilent (.monitor c) (hcalls ▸ hc)

/-- If no call that tells of a change of a namespace is left, the verdict on it is what it was, or it has
changed untold. -/
theorem verdict (h : s.Effect s') (hk : k ∈ Kind.monitors)
    (hsettings : s'.watcher.settings = s.watcher.settings) (hsilent : s'.Silent .namespace) (name : String) :
    verdict s.watcher.settings k (s'.watcher.namespace? name) =
      (verdict s.watcher.settings k (s.watcher.namespace? name) ^^
        turnsUntold s.watcher.settings k (s.watcher.namespace? name) (s'.watcher.namespace? name)) := by
  refine verdict_eq_of_untold fun hturned hrenewed => ?_
  rcases h.informers with hsame | ⟨d, hinformers, hcalls⟩
  · unfold Watcher.namespace? at hturned
    rw [hsame] at hturned
    exact hturned rfl
  · unfold Watcher.namespace? at hturned hrenewed
    rw [hinformers] at hturned hrenewed
    obtain ⟨hkind, c, hc, hdescribes⟩ :=
      Informers.namespace_described_receive fun heq => hturned (congrArg _ heq.symm)
    have hquiet := hsilent (.ns c) (by rw [← hkind, hcalls]; exact hc)
    rw [hsettings] at hquiet
    -- of the changes that can be told only an update is of a namespace that is cached in another version, and
    -- an update that changes a verdict counts
    generalize s.watcher.informers.namespaces.cache.objects.get? ("", name) = before at *
    generalize (s.watcher.informers.receive d).1.namespaces.cache.objects.get? ("", name) = after at *
    cases c with
    | added new =>
      obtain ⟨rfl, rfl⟩ := hdescribes
      cases hrenewed
    | updated old new =>
      obtain ⟨rfl, rfl⟩ := hdescribes
      rw [Call.counts, matters_iff.2 ⟨hrenewed, k, hk, hturned⟩] at hquiet
      cases hquiet
    | deleted old =>
      obtain ⟨_, rfl⟩ := hdescribes
      cases before <;> cases hrenewed

end Effect

end Scene

end Watch

end ScrapeFleet
