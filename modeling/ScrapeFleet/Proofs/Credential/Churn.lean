/-
# ScrapeFleet.Proofs.Credential.Churn — what news of secrets does to the kept values

Secrets change all the time, and most of the news is about secrets that no job uses. News of a secret adds no key
to the store and touches no value of another secret (`Store.Spared`). A key of the secret that was kept has the text
that the new version has for it (`Secret.Says`), and is given up if there is none. It is told exactly when some
value changed, so that news without effect is silent and no change is missed (`followSecret_changed_iff`).

The store is refreshed in one pass over its entries, and its old and new entries are compared. It may as well go
through the kept keys of the secret one at a time, put in or take out each in the map that it has, and note what it
did: the map that is left and what is noted are the same (`update_eq_refreshEach`).
-/
import ScrapeFleet.Proofs.Credential.Store
import ScrapeFleet.Proofs.Text.Bytes
import ScrapeFleet.Watch.Watcher

namespace ScrapeFleet

open Cluster (ObjectKey Secret)

/-- A secret has a text for a key: its bytes, if it has any, are those of the text; otherwise the text is given as
it is. -/
def Cluster.Secret.Says (s : Secret) (k v : String) : Prop :=
  s.data.bind (·.get? k) = some v.toUTF8.toList ∨
    s.data.bind (·.get? k) = none ∧ s.stringData.bind (·.get? k) = some v

namespace Credential

theorem textOf_eq_some_iff {secret : Secret} {key : ValueKey} {v : String} :
    textOf secret key = some v ↔ secret.Says key.2 v := by
  unfold textOf valueOf Secret.content? Secret.Says
  cases secret.data.bind (·.get? key.2) with
  | some bs =>
    have hread : String.fromUTF8? ⟨bs.toArray⟩ = some v ↔ bs = v.toUTF8.toList := Text.fromUTF8?_eq_some_iff
    cases htext : String.fromUTF8? ⟨bs.toArray⟩ with
    | none =>
      rw [htext] at hread
      simpa [htext, Except.toOption] using hread
    | some text =>
      rw [htext] at hread
      simpa [htext, Except.toOption] using hread
  | none =>
    cases secret.stringData.bind (·.get? key.2) <;> simp [Except.toOption]

namespace Store

/-- What is kept of other secrets is as it was, and no key is kept that was not. -/
structure Spared (s s' : Store) (id : ObjectKey) : Prop where
  others : ∀ key, key.1 ≠ id → s'.get? key = s.get? key
  noneAdded : ∀ key, s.get? key = none → s'.get? key = none

variable {s : Store} {secret : Secret} {id : ObjectKey}

theorem spared_update (h : secret.id? = some id) : s.Spared (s.update secret).1 id where
  others key hkey := by rw [get?_update s h, if_neg hkey]
  noneAdded key hnone := by
    rw [get?_update s h, hnone]
    exact ite_self _

theorem spared_remove : s.Spared (s.remove id).1 id where
  others key hkey := by rw [get?_remove, if_neg hkey]
  noneAdded key hnone := by
    rw [get?_remove, hnone]
    exact ite_self _

/-- A kept key of a secret has what the new version says. -/
theorem get?_update_of_kept (h : secret.id? = some id) {key : ValueKey} (hkey : key.1 = id)
    (hkept : s.get? key ≠ none) : (s.update secret).1.get? key = textOf secret key := by
  obtain ⟨v, hv⟩ := Option.ne_none_iff_exists'.1 hkept
  rw [get?_update s h, if_pos hkey, hv, Option.bind_some]

/-! ## What is said of a change -/

theorem update_changed_iff :
    (s.update secret).2 = true ↔ ∃ key, (s.update secret).1.get? key ≠ s.get? key := by
  unfold update
  split
  · rw [bne_iff_ne]
    exact Dict.entries_ne_iff
  · simp

theorem remove_changed_iff : (s.remove id).2 = true ↔ ∃ key, (s.remove id).1.get? key ≠ s.get? key := by
  unfold remove
  rw [bne_iff_ne]
  exact Dict.size_filter_ne_iff

/-! ## One key at a time -/

/-- Refreshes one key in a map, and notes if that changed it: the value that it has stays, another takes its place,
and without one the key is taken out. -/
def refreshKey (secret : Secret) (m : Dict ValueKey String × Bool) (key : ValueKey) :
    Dict ValueKey String × Bool :=
  match valueOf secret key with
  | .ok v => if m.1.get? key = some v then m else (m.1.insert key v, true)
  | .error _ => (m.1.erase key, true)

/-- Refreshes the keys of a secret that a map has, one after the other. -/
def refreshEach (secret : Secret) (id : ObjectKey) (m : Dict ValueKey String) : Dict ValueKey String × Bool :=
  (m.keys.filter (·.1 == id)).foldl (refreshKey secret) (m, false)

theorem get?_refreshKey (secret : Secret) (m : Dict ValueKey String × Bool) (key key' : ValueKey) :
    (refreshKey secret m key).1.get? key' = if key' = key then textOf secret key else m.1.get? key' := by
  unfold refreshKey textOf
  cases valueOf secret key with
  | error e => exact Dict.get?_erase _ _ _
  | ok v =>
    by_cases hsame : m.1.get? key = some v
    · by_cases hkey : key' = key
      · simp [hsame, hkey, Except.toOption]
      · simp [hsame, hkey]
    · simp only [if_neg hsame]
      exact Dict.get?_insert _ _ _ _

theorem refreshKey_changed_iff {m : Dict ValueKey String × Bool} {key : ValueKey} (h : m.1.get? key ≠ none) :
    (refreshKey secret m key).2 = true ↔ m.2 = true ∨ textOf secret key ≠ m.1.get? key := by
  unfold refreshKey textOf
  cases valueOf secret key with
  | error e => simpa [Except.toOption] using .inr h.symm
  | ok v =>
    by_cases hsame : m.1.get? key = some v
    · simp [hsame, Except.toOption]
    · simp only [if_neg hsame]
      exact iff_of_true trivial (.inr fun heq => hsame heq.symm)

/-- After some kept keys were refreshed they have what the secret says, the others have what they had, and it was
noted if for some of them this is something else. The keys come once each, so that none finds the work of another. -/
theorem refreshKeys_eq {keys : List ValueKey} (hkeys : keys.Nodup) {m : Dict ValueKey String × Bool}
    (h : ∀ key ∈ keys, m.1.get? key ≠ none) :
    (∀ key, (keys.foldl (refreshKey secret) m).1.get? key =
        if key ∈ keys then textOf secret key else m.1.get? key) ∧
      ((keys.foldl (refreshKey secret) m).2 = true ↔
        m.2 = true ∨ ∃ key ∈ keys, textOf secret key ≠ m.1.get? key) := by
  induction keys generalizing m with
  | nil => simp
  | cons first keys ih =>
    obtain ⟨hfirst, hkeys⟩ := List.nodup_cons.1 hkeys
    -- the keys that follow are other keys, so they still have what they had
    have hothers : ∀ key ∈ keys, (refreshKey secret m first).1.get? key = m.1.get? key := by
      intro key hkey
      rw [get?_refreshKey, if_neg fun heq : key = first => hfirst (heq ▸ hkey)]
    obtain ⟨hvalues, hchanged⟩ := ih hkeys (m := refreshKey secret m first) fun key hkey => by
      rw [hothers key hkey]
      exact h key (List.mem_cons_of_mem _ hkey)
    refine ⟨fun key => ?_, ?_⟩
    · rw [List.foldl_cons, hvalues, get?_refreshKey]
      by_cases hkey : key ∈ keys
      · simp [hkey]
      · by_cases heq : key = first <;> simp [hkey, heq]
    · rw [List.foldl_cons, hchanged, refreshKey_changed_iff (h first List.mem_cons_self), List.exists_mem_cons_iff,
        or_assoc]
      refine or_congr_right (or_congr_right ?_)
      exact exists_congr fun key => and_congr_right fun hkey => by rw [hothers key hkey]

/-- **One pass or key by key.** Refreshing the kept keys of a secret one at a time leaves the same entries, and
notes a change exactly if the entries are others than they were. -/
theorem update_eq_refreshEach (h : secret.id? = some id) :
    s.update secret =
      ({ s.outdate id with values := (refreshEach secret id s.values).1 }, (refreshEach secret id s.values).2) := by
  have hnodup : (s.values.keys.filter (·.1 == id)).Nodup := s.values.nodup_keys.filter _
  have hmem : ∀ key, key ∈ s.values.keys.filter (·.1 == id) ↔ s.get? key ≠ none ∧ key.1 = id := by
    intro key
    rw [List.mem_filter, Dict.mem_keys_iff, beq_iff_eq]
    rfl
  obtain ⟨heach, hnoted⟩ := @refreshKeys_eq secret _ hnodup (s.values, false) fun key hkey =>
    ((hmem key).1 hkey).1
  -- under a key that is kept both have what the secret says, and under any other what was there
  have hvalues : ∀ key, (s.update secret).1.get? key = (refreshEach secret id s.values).1.get? key := by
    intro key
    rw [refreshEach, heach]
    by_cases hkey : key ∈ s.values.keys.filter (·.1 == id)
    · obtain ⟨hkept, hid⟩ := (hmem key).1 hkey
      rw [if_pos hkey, get?_update_of_kept h hid hkept]
    · rw [if_neg hkey]
      by_cases hid : key.1 = id
      · have hnone : s.get? key = none := not_not.1 fun hkept => hkey ((hmem key).2 ⟨hkept, hid⟩)
        exact ((spared_update h).noneAdded key hnone).trans hnone.symm
      · exact (spared_update h).others key hid
  -- both note a change exactly if some kept key has another value now
  have hflag : (s.update secret).2 = (refreshEach secret id s.values).2 := by
    rw [Bool.eq_iff_iff, update_changed_iff, refreshEach, hnoted]
    simp only [hvalues, refreshEach, heach]
    constructor
    · rintro ⟨key, hne⟩
      by_cases hkey : key ∈ s.values.keys.filter (·.1 == id)
      · rw [if_pos hkey] at hne
        exact .inr ⟨key, hkey, hne⟩
      · rw [if_neg hkey] at hne
        exact absurd rfl hne
    · rintro (hfalse | ⟨key, hkey, hne⟩)
      · cases hfalse
      · exact ⟨key, by rwa [if_pos hkey]⟩
  have hstore : (s.update secret).1 = { s.outdate id with values := (s.update secret).1.values } := by
    obtain ⟨hns, hname⟩ := Secret.id?_eq_some_iff.1 h
    simp [update, hns, hname]
  refine Prod.ext (hstore.trans ?_) hflag
  rw [Dict.ext_get? hvalues]

end Store

end Credential

namespace Watch

/-! ## What a watcher does about it -/

/-- A change of a secret is said to matter exactly if some key has another value after it. -/
theorem followSecret_changed_iff {s : Credential.Store} {c : Change Secret} :
    (followSecret s c).2 = true ↔ ∃ key, (followSecret s c).1.get? key ≠ s.get? key := by
  cases c with
  | added new => simp [followSecret]
  | updated old new => exact Credential.Store.update_changed_iff
  | deleted old => exact Credential.Store.remove_changed_iff

/-- **News of a secret neither grows nor disturbs the store.** A new version and a deletion of a secret with a
namespace and a name add no key and leave other secrets alone. After the new version each key of the secret that
was kept has the text that the secret now has for it, and none if it has no text; after the deletion no key of it is
kept. Either says that something changed exactly if some key has another value than before, and then marks a
change; otherwise the mark stays as it was. Nothing else of a watcher is touched. -/
theorem Watcher.call_secret_exact (w : Watcher) {secret : Secret} {id : ObjectKey} (h : secret.id? = some id)
    (old : Secret) :
    let updated := w.store.update secret
    let removed := w.store.remove id
    w.store.Spared updated.1 id ∧ w.store.Spared removed.1 id ∧
      (∀ key, key.1 = id → w.store.get? key ≠ none →
        ∀ v, updated.1.get? key = some v ↔ secret.Says key.2 v) ∧
      (∀ key, key.1 = id → removed.1.get? key = none) ∧
      (updated.2 = true ↔ ∃ key, updated.1.get? key ≠ w.store.get? key) ∧
      (removed.2 = true ↔ ∃ key, removed.1.get? key ≠ w.store.get? key) ∧
      w.call (.secret (.updated old secret)) =
        { w with store := updated.1, outlet := if updated.2 then w.outlet.notify else w.outlet } ∧
      w.call (.secret (.deleted secret)) =
        { w with store := removed.1, outlet := if removed.2 then w.outlet.notify else w.outlet } := by
  intro updated removed
  refine ⟨Credential.Store.spared_update h, Credential.Store.spared_remove, fun key hkey hkept v => ?_,
    fun key hkey => ?_, Credential.Store.update_changed_iff, Credential.Store.remove_changed_iff, ?_, ?_⟩
  · rw [Credential.Store.get?_update_of_kept h hkey hkept]
    exact Credential.textOf_eq_some_iff
  · rw [Credential.Store.get?_remove, if_pos hkey]
  · rw [← Outlet.notifyIf_eq]
    rfl
  · have hremoved : removed = w.store.remove secret.metadata.key := by rw [Cluster.Secret.key_of_id? h]
    rw [← Outlet.notifyIf_eq, hremoved]
    rfl

/-- A watcher that keeps two keys of an account, and one of another secret. -/
def keepingWatcher : Watcher where
  settings := {}
  informers := default
  outlet := { watcher := "fleet", channel := { capacity := 1 } }
  store := {
    values := .ofList [((("shop", "account"), "name"), "alice"), ((("shop", "account"), "pin"), "7"),
      ((("shop", "phrase"), "name"), "open")] }

/-- The account with a name that is no text, though another one is given as text, and with a pin of its own. -/
def brokenAccount : Secret where
  metadata := { name := some "account", namespaceName := some "shop" }
  data := some (.ofList [("name", [0xff]), ("other", [0x78])])
  stringData := some (.ofList [("name", "bob"), ("pin", "8")])

/-- The new version and the deletion are both told, each for the pin. The name has no text now, a key that nobody
asked for is not kept, and the other secret keeps its value. -/
theorem call_secret_exact_brokenAccount :
    let updated := keepingWatcher.call (.secret (.updated brokenAccount brokenAccount))
    let removed := keepingWatcher.call (.secret (.deleted brokenAccount))
    updated.outlet.notifier.pending = true ∧ removed.outlet.notifier.pending = true ∧
      updated.store.get? (("shop", "account"), "pin") = some "8" ∧
      removed.store.get? (("shop", "account"), "pin") = none ∧
      updated.store.get? (("shop", "account"), "name") = none ∧
      updated.store.get? (("shop", "account"), "other") = none ∧
      updated.store.get? (("shop", "phrase"), "name") = some "open" := by
  have hid : brokenAccount.id? = some ("shop", "account") := rfl
  obtain ⟨hspared, -, hvalue, hnone, hchanged, hgone, hupdate, hremove⟩ :=
    keepingWatcher.call_secret_exact hid brokenAccount
  have hpin := (hvalue (("shop", "account"), "pin") rfl (by decide) "8").2 (.inr (by decide))
  have hpinGone := hnone (("shop", "account"), "pin") rfl
  have hname : ∀ v, ¬ brokenAccount.Says "name" v := by
    rintro v (hbytes | ⟨hbytes, -⟩)
    · -- no text is encoded by these bytes
      have hread : String.fromUTF8? ⟨#[0xff]⟩ = some v :=
        Text.fromUTF8?_eq_some_iff.2 (Option.some.inj hbytes)
      have hnotext : String.fromUTF8? ⟨#[0xff]⟩ = none := by decide
      rw [hnotext] at hread
      cases hread
    · cases hbytes
  have htold := hchanged.2 ⟨(("shop", "account"), "pin"), by rw [hpin]; decide⟩
  have hgoneTold := hgone.2 ⟨(("shop", "account"), "pin"), by rw [hpinGone]; decide⟩
  dsimp only
  rw [hupdate, hremove, if_pos htold, if_pos hgoneTold]
  refine ⟨rfl, rfl, hpin, hpinGone, Option.eq_none_iff_forall_ne_some.2 fun v hv => hname v ?_,
    hspared.noneAdded _ (by decide), ?_⟩
  · exact (hvalue (("shop", "account"), "name") rfl (by decide) v).1 hv
  · exact (hspared.others (("shop", "phrase"), "name") (by decide)).trans (by decide)

end Watch

end ScrapeFleet
