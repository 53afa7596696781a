/-
# ScrapeFleet.Proofs.Watch.Admission — what is told of namespaces is what selects

Two parties look at the labels of a namespace. The handler of its updates goes through the namespace selectors
that are set, and compares what each says of the old labels and of the new ones. The selection of monitors looks
the namespace up by name and asks the selector of one kind, and where none is set it asks nobody. They agree: an
update to a new version is told exactly if it turns, for some kind of monitor, the answer that the selection gets
(`matters_iff_turns`). What is selected depends on those answers alone (`selectAll_congr`), so an update that
nobody is told of leaves every selection as it is (`call_updated_iff`).
-/
import ScrapeFleet.Proofs.Watch.Silence

namespace ScrapeFleet

open Cluster (Namespace ObjectKey)
open Generate (namespaceSelected selectAll verdict)

/-! ## What a selection depends on -/

/-- Monitors are selected alike by whatever is known of namespaces, as long as each namespace gets the same
answer for each kind. -/
theorem Generate.selectAll_congr {settings : Settings} {known known' : String → Option Labels}
    (h : ∀ k ∈ Kind.monitors, ∀ name,
      namespaceSelected (settings.selection k).namespaceSelector known name =
        namespaceSelected (settings.selection k).namespaceSelector known' name)
    (k : Kind) (ms : List Monitor) : selectAll settings known k ms = selectAll settings known' k ms := by
  have hselected : ∀ m : Monitor, selected settings known m = selected settings known' m := by
    intro m
    unfold selected
    dsimp only
    rw [h m.kind m.kind_mem_monitors m.namespaceText]
  simp only [selectAll, hselected]

namespace Watch

/-- For some kind of monitor, a namespace is selected by what one of two caches has of it and not by what the
other has. -/
def AdmissionTurns (settings : Settings) (before after : Dict ObjectKey Namespace) (name : String) : Prop :=
  ∃ k ∈ Kind.monitors,
    namespaceSelected (settings.selection k).namespaceSelector (knownLabels before) name ≠
      namespaceSelected (settings.selection k).namespaceSelector (knownLabels after) name

instance (settings : Settings) (before after : Dict ObjectKey Namespace) (name : String) :
    Decidable (AdmissionTurns settings before after name) :=
  inferInstanceAs (Decidable (∃ k ∈ Kind.monitors, _))

variable {settings : Settings} {before after : Dict ObjectKey Namespace} {name : String} {old new : Namespace}

/-! ## What is told -/

/-- A new version of a cached namespace matters exactly if it turns the answer for some kind. -/
theorem matters_iff_turns (hold : before.get? ("", name) = some old) (hnew : after.get? ("", name) = some new)
    (hversion : old.metadata.resourceVersion ≠ new.metadata.resourceVersion) :
    namespaceMatters settings old new = true ↔ AdmissionTurns settings before after name := by
  have hrenewed : isRenewed (some old) (some new) = true := bne_iff_ne.2 hversion
  simp only [matters_iff, hrenewed, true_and, AdmissionTurns, Generate.namespaceSelected_eq_verdict, hold, hnew]

/-- If the caches differ in one namespace only and no answer on it turns, no selection changes. -/
theorem selectAll_eq_of_not_turns (hturns : ¬ AdmissionTurns settings before after name)
    (hothers : ∀ other ≠ name, after.get? ("", other) = before.get? ("", other)) (k : Kind)
    (ms : List Monitor) :
    selectAll settings (knownLabels after) k ms = selectAll settings (knownLabels before) k ms := by
  refine Generate.selectAll_congr (fun k hk other => ?_) k ms
  by_cases hother : other = name
  · rw [hother]
    by_contra hne
    exact hturns ⟨k, hk, fun heq => hne heq.symm⟩
  · rw [Generate.namespaceSelected_eq_verdict, Generate.namespaceSelected_eq_verdict, hothers other hother]

/-- **An update of a namespace is told exactly if it turns an answer.** A cached namespace gets a new version. The
handler finds that this matters if and only if the namespace is selected for some kind of monitor by one of the
versions and not by the other; it marks a change then and does nothing otherwise. Where it does nothing and the
rest of the cache is as it was, the same monitors are selected of each kind, whichever there are. -/
theorem call_updated_iff (w : Watcher) (hold : before.get? ("", name) = some old)
    (hnew : after.get? ("", name) = some new)
    (hversion : old.metadata.resourceVersion ≠ new.metadata.resourceVersion) :
    (namespaceMatters w.settings old new = true ↔ AdmissionTurns w.settings before after name) ∧
      w.call (.ns (.updated old new)) =
        (if AdmissionTurns w.settings before after name then { w with outlet := w.outlet.notify } else w) ∧
      (namespaceMatters w.settings old new = false →
        (∀ other ≠ name, after.get? ("", other) = before.get? ("", other)) →
          ∀ k ms, selectAll w.settings (knownLabels after) k ms =
            selectAll w.settings (knownLabels before) k ms) := by
  have hmatters : namespaceMatters w.settings old new = true ↔ AdmissionTurns w.settings before after name :=
    matters_iff_turns hold hnew hversion
  refine ⟨hmatters, ?_, fun hignored hothers => ?_⟩
  · show { w with outlet := w.outlet.notifyIf (namespaceMatters w.settings old new) } = _
    rw [Outlet.notifyIf_eq]
    by_cases hturns : AdmissionTurns w.settings before after name
    · rw [if_pos hturns, if_pos (hmatters.2 hturns)]
    · rw [if_neg hturns, if_neg fun h => hturns (hmatters.1 h)]
  · refine selectAll_eq_of_not_turns (fun hturns => ?_) hothers
    rw [hmatters.2 hturns] at hignored
    cases hignored

/-- A watcher that selects jobs where monitoring is enabled. -/
def choosyWatcher : Watcher where
  settings := {
    scrapeConfigs := { namespaceSelector := some { labels := some (Dict.empty.insert "monitoring" "enabled") } } }
  informers := Reloads.shopWatcher.informers
  outlet := { Reloads.shopWatcher.outlet with notifier := ⟨false⟩ }

/-- A version of the namespace of the job. -/
def homeVersion (version : String) (labels : List (String × String)) : Namespace where
  metadata := {
    name := some "default"
    labels := some (.ofList labels)
    resourceVersion := some version }

/-- A cache of one namespace. -/
def cached (ns : Namespace) : Dict ObjectKey Namespace := Dict.empty.insert ("", "default") ns

/-- A namespace gets the label that counts, and this is told. It loses another one instead, and this is not told;
the job was not selected before, and is not selected after. -/
theorem call_updated_iff_relabelled :
    let first := homeVersion "1" [("owner", "me")]
    let enabled := homeVersion "2" [("owner", "me"), ("monitoring", "enabled")]
    let orphaned := homeVersion "2" []
    (choosyWatcher.call (.ns (.updated first enabled))).isPending = true ∧
      choosyWatcher.call (.ns (.updated first orphaned)) = choosyWatcher ∧
      selectAll choosyWatcher.settings (knownLabels (cached orphaned)) .scrapeConfig [Reloads.shop] =
        selectAll choosyWatcher.settings (knownLabels (cached first)) .scrapeConfig [Reloads.shop] := by
  intro first enabled orphaned
  have hcached : ∀ ns, (cached ns).get? ("", "default") = some ns := by
    intro ns
    rw [cached, Dict.get?_insert, if_pos rfl]
  have hothers : ∀ other ≠ "default", (cached orphaned).get? ("", other) = (cached first).get? ("", other) := by
    intro other hother
    have hne : ("", other) ≠ (("", "default") : ObjectKey) := fun h => hother (Prod.mk.inj h).2
    rw [cached, cached, Dict.get?_insert, Dict.get?_insert, if_neg hne, if_neg hne]
  obtain ⟨-, htold, -⟩ := call_updated_iff choosyWatcher (hcached first) (hcached enabled) (by decide)
  obtain ⟨-, huntold, hsame⟩ := call_updated_iff choosyWatcher (hcached first) (hcached orphaned) (by decide)
  rw [if_pos (by decide)] at htold
  rw [if_neg (by decide)] at huntold
  refine ⟨?_, huntold, hsame (by decide) hothers .scrapeConfig [Reloads.shop]⟩
  rw [htold]
  rfl

end Watch

end ScrapeFleet
