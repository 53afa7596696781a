/-
# ScrapeFleet.Proofs.Watch.Informers — what informers tell of their caches

What holds of one event holds of an item of a stream, whether it is followed, kept for later or lost, and
of the informers of a watcher together: an item changes the cache of its own kind at most, and whatever it
changes there, one of the calls that follow describes it (`Informers.described_receive` for monitors,
`Informers.namespace_described_receive` for namespaces).
-/
import ScrapeFleet.Proofs.Watch.Cache
import ScrapeFleet.Watch.Watcher

namespace ScrapeFleet.Watch

open Cluster (Identified ObjectKey)

/-- Whatever an item changes in the cache, one of the changes that are told describes it. -/
theorem Informer.described_receive {α : Type} [Identified α] {i : Informer α} {item : StreamItem α}
    {id : ObjectKey}
    (h : (i.receive item).1.cache.objects.get? id ≠ i.cache.objects.get? id) :
    ∃ change ∈ (i.receive item).2.changes,
      change.Describes (i.cache.objects.get? id) ((i.receive item).1.cache.objects.get? id) := by
  unfold receive at h ⊢
  cases hfollowing : i.following with
  | running listener =>
    rw [hfollowing] at h
    cases item with
    | event e => exact Cache.described_handle h
    | failed => exact absurd rfl h
    | ended => exact absurd rfl h
  | waiting items =>
    rw [hfollowing] at h
    exact absurd rfl h
  | nothing =>
    rw [hfollowing] at h
    exact absurd rfl h
  | stopped =>
    rw [hfollowing] at h
    exact absurd rfl h

namespace Informers

/-- What is cached of the monitors of a kind. -/
def cached (is : Informers) : Kind → Dict ObjectKey Monitor
  | .serviceMonitor => is.serviceMonitors.cache.objects
  | .podMonitor => is.podMonitors.cache.objects
  | .probe => is.probes.cache.objects
  | .scrapeConfig => is.scrapeConfigs.cache.objects
  | .secret | .namespace => .empty

theorem monitors_eq_values (is : Informers) {k : Kind} (hk : k ∈ Kind.monitors) :
    is.monitors k = (is.cached k).values := by
  cases k with
  | secret => simp [Kind.monitors] at hk
  | «namespace» => simp [Kind.monitors] at hk
  | serviceMonitor => rfl
  | podMonitor => rfl
  | probe => rfl
  | scrapeConfig => rfl

/-- Whatever an item changes in what is cached of a kind of monitor, it is for that kind, and one of the
calls that follow describes it. -/
theorem described_receive {is : Informers} {d : Delivery} {k : Kind} {id : ObjectKey}
    (h : ((is.receive d).1.cached k).get? id ≠ (is.cached k).get? id) :
    d.kind = k ∧ ∃ c, .monitor c ∈ (is.receive d).2.1 ∧
      c.Describes ((is.cached k).get? id) (((is.receive d).1.cached k).get? id) := by
  have told {changes : List (Change Monitor)} {before after : Option Monitor}
      (hc : ∃ c ∈ changes, c.Describes before after) :
      ∃ c, .monitor c ∈ changes.map Call.monitor ∧ c.Describes before after := by
    obtain ⟨c, hmem, hdescribes⟩ := hc
    exact ⟨c, List.mem_map_of_mem hmem, hdescribes⟩
  -- an item of another kind changes nothing of this one
  cases d with
  | secret item => cases k <;> exact absurd rfl h
  | ns item => cases k <;> exact absurd rfl h
  | monitor kind item =>
    cases kind with
    | serviceMonitor =>
      cases k with
      | serviceMonitor => exact ⟨rfl, told (Informer.described_receive h)⟩
      | _ => exact absurd rfl h
    | podMonitor =>
      cases k with
      | podMonitor => exact ⟨rfl, told (Informer.described_receive h)⟩
      | _ => exact absurd rfl h
    | probe =>
      cases k with
      | probe => exact ⟨rfl, told (Informer.described_receive h)⟩
      | _ => exact absurd rfl h
    | scrapeConfig =>
      cases k with
      | scrapeConfig => exact ⟨rfl, told (Informer.described_receive h)⟩
      | _ => exact absurd rfl h
    | secret => cases k <;> exact absurd rfl h
    | «namespace» => cases k <;> exact absurd rfl h

/-- Whatever an item changes in what is cached of namespaces, it is a namespace, and one of the calls that
follow describes it. -/
theorem namespace_described_receive {is : Informers} {d : Delivery} {id : ObjectKey}
    (h : (is.receive d).1.namespaces.cache.objects.get? id ≠ is.namespaces.cache.objects.get? id) :
    d.kind = .namespace ∧ ∃ c, .ns c ∈ (is.receive d).2.1 ∧
      c.Describes (is.namespaces.cache.objects.get? id)
        ((is.receive d).1.namespaces.cache.objects.get? id) := by
  cases d with
  | secret item => exact absurd rfl h
  | monitor kind item => cases kind <;> exact absurd rfl h
  | ns item =>
    obtain ⟨c, hmem, hdescribes⟩ := Informer.described_receive h
    exact ⟨rfl, c, List.mem_map_of_mem hmem, hdescribes⟩

end Informers

end ScrapeFleet.Watch
