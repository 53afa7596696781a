/-
# ScrapeFleet.Proofs.Watch.Freshness — a load is as good as the next one

A watcher is loaded again and again while the source of secrets changes. The changes come to the informer
of secrets later and in order; what it tells may change a kept value, and then a notification is pending.
Any number of loads run, each in the small steps of its questions, and notifications are taken at any time.
As in `ScrapeFleet.Proofs.Credential.Traffic` a run is a list of acts.

A load is repeated by a later one if every question gets the answer that it got then. The answers that the
store kept are answers that it still has, or else a notification is pending; this holds for a load that
began after the last notification was taken, and beside which no other load ran (`Reloads.Sound`). Nothing
tells of the other answers: a reference without a value is not kept, nor is a value that was only passed
on. So a load is repeated as far as those have not changed (`load_eq_last`), and there is no more to be said
(`reload_differs`).
-/
import ScrapeFleet.Proofs.Credential.Churn
import ScrapeFleet.Proofs.Credential.Registration
import ScrapeFleet.Proofs.Credential.Undisturbed
import ScrapeFleet.Watch.Watcher

namespace ScrapeFleet.Credential

variable {source : Shelf} {s s' : Store} {q p : Question} {q' : Option Question}

/-- A question that is registered after a move was registered before, or the store did not have its key. -/
theorem Question.Moves.registered (h : q.Moves source s s' q') (hp : p ∈ q')
    (hreg : p.phase.isRegistered = true) :
    p.key = q.key ∧ (q.phase.isRegistered = true ∨ s.get? q.key = none) := by
  cases h with
  | cancel => cases hp
  | arrive f hf =>
    obtain rfl := Option.mem_some.1 hp
    refine ⟨rfl, .inl ?_⟩
    cases hq : q.phase <;> rw [hq] at hreg <;> simp_all [Phase.arrive, Phase.isRegistered]
  | step =>
    obtain rfl := Option.mem_some.1 hp
    refine ⟨rfl, ?_⟩
    cases hq : q.phase with
    | looking attempts =>
      rw [hq] at hreg
      simp only [Phase.step, Phase.look] at hreg
      cases attempts with
      | zero => cases hreg
      | succ more =>
        cases hkept : s.get? q.key with
        | none => exact .inr rfl
        | some v =>
          rw [hkept] at hreg
          cases hreg
    | fetching more g => exact .inl rfl
    | fetched more g f => exact .inl rfl
    | closing more answer => exact .inl rfl
    | lastFetch =>
      rw [hq] at hreg
      cases hreg
    | finished a =>
      rw [hq] at hreg
      cases hreg

end ScrapeFleet.Credential

namespace ScrapeFleet.Watch

open Cluster (ObjectKey Secret)
open Credential (Answer Fetched Lookup News Phase Question Shelf Store ValueKey fetchAttempts valueKey)

/-! ## What secrets do to a watcher -/

namespace Watcher

/-- A notification is pending. -/
def isPending (w : Watcher) : Bool := w.outlet.notifier.pending

/-- A watcher hears of secrets only: it loads what it loaded, a notification that was pending is pending,
and one is pending if a kept value is not what it was. -/
structure HearsSecrets (w w' : Watcher) : Prop where
  loading : w'.loading = w.loading
  pending : w.isPending = true → w'.isPending = true
  kept : w'.isPending = false → ∀ key, w'.store.get? key = w.store.get? key

namespace HearsSecrets

variable {w w' w'' : Watcher}

theorem refl (w : Watcher) : w.HearsSecrets w := ⟨rfl, id, fun _ _ => rfl⟩

theorem trans (h : w.HearsSecrets w') (h' : w'.HearsSecrets w'') : w.HearsSecrets w'' where
  loading := h'.loading.trans h.loading
  pending hw := h'.pending (h.pending hw)
  kept hw key := by
    have hw' : w'.isPending = false := by
      cases hpending : w'.isPending with
      | false => rfl
      | true => rw [h'.pending hpending] at hw; cases hw
    exact (h'.kept hw key).trans (h.kept hw' key)

end HearsSecrets

/-- A change of a secret that is not said to change a kept value changes none. -/
theorem get?_of_quiet {s : Credential.Store} {c : Change Secret} (h : (followSecret s c).2 = false)
    (key : ValueKey) : (followSecret s c).1.get? key = s.get? key := by
  by_contra hne
  rw [followSecret_changed_iff.2 ⟨key, hne⟩] at h
  cases h

theorem hearsSecrets_call (w : Watcher) (c : Change Secret) : w.HearsSecrets (w.call (.secret c)) where
  loading := rfl
  pending h := by
    show (w.outlet.notifier.pending || (followSecret w.store c).2) = true
    rw [show w.outlet.notifier.pending = true from h, Bool.true_or]
  kept h key := by
    have hquiet : (w.outlet.notifier.pending || (followSecret w.store c).2) = false := h
    exact get?_of_quiet (Bool.or_eq_false_iff.1 hquiet).2 key

theorem hearsSecrets_calls (w : Watcher) (changes : List (Change Secret)) :
    w.HearsSecrets ((changes.map Call.secret).foldl call w) := by
  induction changes generalizing w with
  | nil => exact .refl w
  | cons c changes ih => exact (hearsSecrets_call w c).trans (ih (w.call (.secret c)))

/-- A watcher that gets an item for its informer of secrets hears of secrets only. -/
theorem hearsSecrets_deliver (w : Watcher) (item : StreamItem Secret) :
    w.HearsSecrets (w.deliver (.secret item)) := by
  have hfollow : w.HearsSecrets (w.follow (.secret item)).1 := ⟨rfl, id, fun _ _ => rfl⟩
  exact hfollow.trans (hearsSecrets_calls (w.follow (.secret item)).1 _)

theorem hearsSecrets_resync (w : Watcher) : w.HearsSecrets (w.resync .secret) :=
  hearsSecrets_calls w _

/-- A load that nothing disturbs comes to what the answers of its start make of it. -/
theorem load_eq_answeredBy (w : Watcher) (source : ObjectKey → Fetched) :
    (w.load source).2 = w.loading.answeredBy (w.store.now source) :=
  Lookup.run_eq_answeredBy w.loading

/-- The notification is taken. -/
def takeNotification (w : Watcher) : Watcher :=
  { w with outlet := { w.outlet with notifier := w.outlet.notifier.take.1 } }

end Watcher

/-! ## Loads -/

/-- What a load comes to. -/
abbrev Loaded := Except WatcherError ScrapeConfig × List Generate.Warning

/-- An answer that a load was given. -/
structure Given where
  key : ValueKey
  answer : Answer
  /-- The store kept the value when the load went on with it. -/
  kept : Bool
deriving Repr

/-- What there is to say of a load. -/
structure LoadRecord where
  /-- The latest first. -/
  given : List Given := []
  /-- No notification was taken since the load began. -/
  current : Bool := true
  /-- No other load ran while this one did. -/
  alone : Bool
deriving Repr

/-- A load that runs: what is still to be done, and how far the question is that it asks. -/
structure LoadRun extends LoadRecord where
  work : Lookup Loaded
  phase : Phase := .looking fetchAttempts

/-- A load that is complete. -/
structure LoadResult extends LoadRecord where
  result : Loaded
  /-- No notification was taken since the load was complete. -/
  recent : Bool := true

/-- The store keeps the value of an answer. -/
def keeps (s : Store) (key : ValueKey) : Answer → Bool
  | .ok v => s.get? key == some v
  | .error _ => false

namespace LoadRun

/-- The load goes on with an answer. -/
def goOn (l : LoadRun) (key : ValueKey) (answer : Answer) (kept : Bool) (work : Lookup Loaded) : LoadRun :=
  { l with given := ⟨key, answer, kept⟩ :: l.given, work := work, phase := .looking fetchAttempts }

/-- The question that the load waits for. -/
def question? (l : LoadRun) : Option Question :=
  match l.work with
  | .done _ => none
  | .ask ns ref _ => some ⟨valueKey ns ref, l.phase⟩

theorem question?_eq_some_iff {l : LoadRun} {q : Question} :
    l.question? = some q ↔
      ∃ ns ref next, l.work = .ask ns ref next ∧ q = ⟨valueKey ns ref, l.phase⟩ := by
  unfold question?
  cases l.work with
  | done r => simp
  | ask ns ref next =>
    constructor
    · intro hq
      exact ⟨ns, ref, next, rfl, (Option.some.inj hq).symm⟩
    · rintro ⟨_, _, _, hwork, rfl⟩
      obtain ⟨rfl, rfl, rfl⟩ := Lookup.ask.inj hwork
      rfl

theorem phase_of_question? {l : LoadRun} {q : Question} (hq : l.question? = some q) :
    q.phase = l.phase := by
  obtain ⟨_, _, _, _, rfl⟩ := question?_eq_some_iff.1 hq
  rfl

/-- A load that comes into another phase waits for the same value. -/
theorem question?_phase {l : LoadRun} {q p : Question} {phase : Phase} (hq : l.question? = some q)
    (hp : { l with phase := phase }.question? = some p) : p = ⟨q.key, phase⟩ := by
  obtain ⟨ns, ref, next, hwork, rfl⟩ := question?_eq_some_iff.1 hq
  obtain ⟨ns', ref', next', hwork', rfl⟩ := question?_eq_some_iff.1 hp
  obtain ⟨rfl, rfl, rfl⟩ := Lookup.ask.inj (hwork.symm.trans hwork')
  rfl

end LoadRun

/-- A watcher that is loaded while secrets change. -/
structure Reloads where
  watcher : Watcher
  source : Shelf := .empty
  /-- The oldest first. -/
  news : List News := []
  loads : List LoadRun := []
  /-- The load that was completed last. -/
  last : Option LoadResult := none

namespace Reloads

/-- What may happen next. -/
inductive Act where
  /-- A secret is created or gets a new version. -/
  | put (secret : Secret)
  | drop (id : ObjectKey)
  /-- The informer of secrets hears the oldest news. -/
  | hear
  | resync
  | take
  | load
  /-- The source is read for the question of a load, or cannot be reached. -/
  | fetch (n : Nat) (reachable : Bool)
  /-- The question of a load takes its next step. -/
  | advance (n : Nat)
  /-- A load goes on with the answer, or is complete. -/
  | proceed (n : Nat)
  | cancel (n : Nat)
deriving Repr

/-- Replaces the `n`-th load by what becomes of its question. -/
def onQuestion (d : Reloads) (n : Nat) (f : Question → Store × Option Question) : Reloads :=
  match d.loads[n]? with
  | none => d
  | some l =>
    match l.question? with
    | none => d
    | some q =>
      { d with
        watcher := { d.watcher with store := (f q).1 }
        loads := d.loads.take n ++ ((f q).2.map fun q => { l with phase := q.phase }).toList
          ++ d.loads.drop (n + 1) }

/-- The state after an act. -/
def step (d : Reloads) : Act → Reloads
  | .put secret => { d with source := d.source.put secret, news := d.news ++ [.current secret] }
  | .drop id =>
    match d.source.get? id with
    | none => d
    | some secret => { d with source := d.source.erase id, news := d.news ++ [.gone secret] }
  | .hear =>
    match d.news with
    | [] => d
    | n :: news => { d with news := news, watcher := d.watcher.deliver (.secret (.event n.event)) }
  | .resync => { d with watcher := d.watcher.resync .secret }
  | .take =>
    if d.watcher.isPending then
      { d with
        watcher := d.watcher.takeNotification
        loads := d.loads.map fun l => { l with current := false }
        last := d.last.map fun r => { r with current := false, recent := false } }
    else d
  | .load =>
    { d with
      loads := d.loads.map (fun l => { l with alone := false })
        ++ [{ work := d.watcher.loading, alone := d.loads.isEmpty }] }
  | .fetch n reachable => d.onQuestion n fun q =>
    let brought := if reachable then d.source.fetch q.key.1 else .unavailable
    (d.watcher.store, some { q with phase := q.phase.arrive q.key brought })
  | .advance n => d.onQuestion n fun q =>
    let next := q.phase.step d.watcher.store q.key
    (next.1, some { q with phase := next.2 })
  | .proceed n =>
    match d.loads[n]? with
    | none => d
    | some l =>
      match l.work, l.phase with
      | .done r, _ =>
        { d with
          loads := d.loads.take n ++ d.loads.drop (n + 1)
          last := some { l.toLoadRecord with result := r } }
      | .ask ns ref next, .finished a =>
        { d with
          loads := d.loads.take n ++ [l.goOn (valueKey ns ref) a (keeps d.watcher.store (valueKey ns ref) a)
            (next a)] ++ d.loads.drop (n + 1) }
      | .ask _ _ _, _ => d
  | .cancel n => d.onQuestion n fun q => (q.phase.cancel d.watcher.store q.key, none)

/-- The state after a run. -/
def run (d : Reloads) (acts : List Act) : Reloads := acts.foldl step d

/-! ## What an act can do -/

/-- What may become of a state in one act. -/
inductive Moves (d : Reloads) : Reloads → Prop
  | idle : Moves d d
  | changed (source : Shelf) (news : List News) : Moves d { d with source := source, news := news }
  | heard {w : Watcher} (news : List News) : d.watcher.HearsSecrets w →
      Moves d { d with watcher := w, news := news }
  | taken : d.watcher.isPending = true → Moves d
      { d with
        watcher := d.watcher.takeNotification
        loads := d.loads.map fun l => { l with current := false }
        last := d.last.map fun r => { r with current := false, recent := false } }
  | begun : Moves d
      { d with
        loads := d.loads.map (fun l => { l with alone := false })
          ++ [{ work := d.watcher.loading, alone := d.loads.isEmpty }] }
  | asked {before after : List LoadRun} {l : LoadRun} {q : Question} {s : Store} {q' : Option Question} :
      d.loads = before ++ l :: after → l.question? = some q → q.Moves d.source d.watcher.store s q' →
      Moves d
        { d with
          watcher := { d.watcher with store := s }
          loads := before ++ (q'.map fun q => { l with phase := q.phase }).toList ++ after }
  | answered {before after : List LoadRun} {l : LoadRun} {ns : String} {ref : Monitor.SecretKey}
      {next : Answer → Lookup Loaded} {a : Answer} :
      d.loads = before ++ l :: after → l.work = .ask ns ref next → l.phase = .finished a →
      Moves d
        { d with
          loads := before ++ [l.goOn (valueKey ns ref) a (keeps d.watcher.store (valueKey ns ref) a) (next a)]
            ++ after }
  | completed {before after : List LoadRun} {l : LoadRun} {r : Loaded} :
      d.loads = before ++ l :: after → l.work = .done r →
      Moves d { d with loads := before ++ after, last := some { l.toLoadRecord with result := r } }

theorem loads_split {d : Reloads} {n : Nat} {l : LoadRun} (h : d.loads[n]? = some l) :
    d.loads = d.loads.take n ++ l :: d.loads.drop (n + 1) := by
  obtain ⟨hn, rfl⟩ := List.getElem?_eq_some_iff.1 h
  rw [← List.drop_eq_getElem_cons, List.take_append_drop]

theorem moves_onQuestion (d : Reloads) (n : Nat) {f : Question → Store × Option Question}
    (hf : ∀ q : Question, q.Moves d.source d.watcher.store (f q).1 (f q).2) :
    d.Moves (d.onQuestion n f) := by
  unfold onQuestion
  split
  · exact .idle
  · rename_i l hl
    split
    · exact .idle
    · rename_i q hq
      exact .asked (loads_split hl) hq (hf q)

/-- Every act moves the state in one of the ways listed. -/
theorem moves_step (d : Reloads) (a : Act) : d.Moves (d.step a) := by
  cases a with
  | put secret => exact .changed _ _
  | drop id =>
    simp only [step]
    split
    · exact .idle
    · exact .changed _ _
  | hear =>
    simp only [step]
    split
    · exact .idle
    · exact .heard _ (d.watcher.hearsSecrets_deliver _)
  | resync => exact .heard d.news d.watcher.hearsSecrets_resync
  | take =>
    simp only [step]
    split
    · rename_i hpending
      exact .taken hpending
    · exact .idle
  | load => exact .begun
  | fetch n reachable =>
    refine moves_onQuestion d n fun q => .arrive _ ?_
    cases reachable
    · exact .inl rfl
    · exact .inr rfl
  | advance n => exact moves_onQuestion d n fun q => .step
  | proceed n =>
    simp only [step]
    split
    · exact .idle
    · rename_i l hl
      split
      · rename_i hwork
        exact .completed (loads_split hl) hwork
      · rename_i hwork hphase
        exact .answered (loads_split hl) hwork hphase
      · exact .idle
  | cancel n => exact moves_onQuestion d n fun q => .cancel

/-! ## What a load can rely on -/

/-- Work that is given the answers of a load comes to what the rest of the load comes to. -/
def Leads (w : Watcher) (r : LoadRecord) (rest : Lookup Loaded) : Prop :=
  ∀ table, (∀ g ∈ r.given, table g.key = g.answer) → w.loading.answeredBy table = rest.answeredBy table

/-- What a load was given and was kept is kept still, and no load is about to keep it anew. -/
structure Backed (s : Store) (loads : List LoadRun) (r : LoadRecord) : Prop where
  kept : ∀ g ∈ r.given, g.kept = true → ∃ v, g.answer = .ok v ∧ s.get? g.key = some v
  unfetched : ∀ g ∈ r.given, g.kept = true → ∀ l ∈ loads, ∀ q ∈ l.question?,
    q.phase.isRegistered = true → q.key ≠ g.key

/-- What is known of the loads that run and of the last one that was completed. -/
structure Sound (d : Reloads) : Prop where
  running : ∀ l ∈ d.loads, Leads d.watcher l.toLoadRecord l.work
  completed : ∀ r ∈ d.last, Leads d.watcher r.toLoadRecord (.done r.result)
  alone : ∀ l ∈ d.loads, l.alone = true → d.loads = [l]
  backedRunning : d.watcher.isPending = false → ∀ l ∈ d.loads, l.current = true → l.alone = true →
    Backed d.watcher.store d.loads l.toLoadRecord
  backedLast : d.watcher.isPending = false → ∀ r ∈ d.last, r.current = true → r.alone = true →
    Backed d.watcher.store d.loads r.toLoadRecord

/-! ## One load among others -/

section Among

variable {before after : List LoadRun} {l m : LoadRun}

theorem mem_of_rest (hm : m ∈ before ++ after) : m ∈ before ++ l :: after := by
  simp only [List.mem_append, List.mem_cons] at hm ⊢
  tauto

/-- Where a load is replaced by at most one, there are the others and that one. -/
theorem mem_replaced {o : Option LoadRun} (hm : m ∈ before ++ o.toList ++ after) :
    m ∈ before ++ after ∨ m ∈ o := by
  simp only [List.mem_append, Option.mem_toList] at hm ⊢
  tauto

theorem of_singleton (h : before ++ l :: after = [m]) : before = [] ∧ after = [] ∧ l = m := by
  cases before with
  | nil =>
    obtain ⟨hl, hafter⟩ := List.cons.inj h
    exact ⟨rfl, hafter, hl⟩
  | cons b before =>
    obtain ⟨_, hrest⟩ := List.cons.inj h
    simp at hrest

end Among

/-! ## What every move keeps -/

namespace Backed

variable {s s' : Store} {loads loads' : List LoadRun} {r : LoadRecord}

/-- Fewer loads, which ask what they asked. -/
theorem mono (h : Backed s loads r) (hkept : ∀ key, s'.get? key = s.get? key)
    (hasked : ∀ l ∈ loads', ∀ q ∈ l.question?, q.phase.isRegistered = true →
      ∃ l' ∈ loads, q ∈ l'.question?) : Backed s' loads' r where
  kept g hg hgkept := by
    rw [hkept]
    exact h.kept g hg hgkept
  unfetched g hg hgkept l hl q hq hreg := by
    obtain ⟨l', hl', hq'⟩ := hasked l hl q hq hreg
    exact h.unfetched g hg hgkept l' hl' q hq' hreg

/-- A question moves. It keeps nothing that the record relies on, since no such key was being fetched, and
it begins to fetch none, since such keys are kept. -/
theorem asked {source : Shelf} {before after : List LoadRun} {l : LoadRun} {q : Question}
    {q' : Option Question} (h : Backed s (before ++ l :: after) r) (hq : l.question? = some q)
    (hmove : q.Moves source s s' q') :
    Backed s' (before ++ (q'.map fun q => { l with phase := q.phase }).toList ++ after) r where
  kept g hg hgkept := by
    obtain ⟨v, hanswer, hv⟩ := h.kept g hg hgkept
    refine ⟨v, hanswer, ?_⟩
    rcases hmove.kept g.key with hsame | ⟨more, generation, f, hphase, _, hkey, _⟩
    · rw [hsame, hv]
    · have hreg : q.phase.isRegistered = true := by
        rw [hphase]
        rfl
      exact absurd hkey.symm (h.unfetched g hg hgkept l (by simp) q hq hreg)
  unfetched g hg hgkept m hm p hp hreg := by
    rcases mem_replaced hm with hother | hnew
    · exact h.unfetched g hg hgkept m (mem_of_rest hother) p hp hreg
    · obtain ⟨q'', hq'', rfl⟩ := Option.map_eq_some_iff.1 hnew
      obtain rfl := LoadRun.question?_phase hq hp
      obtain ⟨_, hbefore⟩ := hmove.registered hq'' hreg
      rcases hbefore with hbefore | hunknown
      · exact h.unfetched g hg hgkept l (by simp) q hq hbefore
      · intro (heq : q.key = g.key)
        obtain ⟨v, _, hv⟩ := h.kept g hg hgkept
        rw [← heq, hunknown] at hv
        cases hv

end Backed

namespace Sound

variable {d d' : Reloads} {before after : List LoadRun} {l m : LoadRun}

/-- A load that is alone is the only one. -/
theorem only_of_alone (hd : d.Sound) (hloads : d.loads = before ++ l :: after) (hm : m ∈ d.loads)
    (halone : m.alone = true) : before = [] ∧ after = [] ∧ l = m := by
  have hsingle := hd.alone m hm halone
  rw [hloads] at hsingle
  exact of_singleton hsingle

/-- A load beside another is not alone. -/
theorem not_alone (hd : d.Sound) (hloads : d.loads = before ++ l :: after) (hm : m ∈ before ++ after) :
    m.alone = false := by
  cases halone : m.alone with
  | false => rfl
  | true =>
    have hmem : m ∈ d.loads := hloads ▸ mem_of_rest hm
    obtain ⟨rfl, rfl, _⟩ := hd.only_of_alone hloads hmem halone
    cases hm

/-- Where a load is replaced by at most one, which is alone only if it was, a load that is alone is the new
one, and no other runs. -/
theorem alone_replaced (hd : d.Sound) (hloads : d.loads = before ++ l :: after) {o : Option LoadRun}
    (ho : ∀ l' ∈ o, l'.alone = l.alone) (hm : m ∈ before ++ o.toList ++ after)
    (halone : m.alone = true) : o = some m ∧ l.alone = true ∧ before = [] ∧ after = [] := by
  rcases mem_replaced hm with hother | hnew
  · rw [hd.not_alone hloads hother] at halone
    cases halone
  · have hl : l.alone = true := (ho m hnew).symm.trans halone
    obtain ⟨rfl, rfl, _⟩ := hd.only_of_alone hloads (hloads ▸ List.mem_append_cons_self) hl
    exact ⟨hnew, hl, rfl, rfl⟩

theorem of_heard (hd : d.Sound) {w : Watcher} (h : d.watcher.HearsSecrets w) (news : List News) :
    Sound { d with watcher := w, news := news } := by
  have hquiet (hpending : w.isPending = false) : d.watcher.isPending = false := by
    cases hbefore : d.watcher.isPending with
    | false => rfl
    | true =>
      rw [h.pending hbefore] at hpending
      cases hpending
  have hleads {r : LoadRecord} {rest : Lookup Loaded} (hr : Leads d.watcher r rest) : Leads w r rest := by
    rw [Leads, h.loading]
    exact hr
  exact {
    running := fun l hl => hleads (hd.running l hl)
    completed := fun r hr => hleads (hd.completed r hr)
    alone := hd.alone
    backedRunning := fun hpending l hl hcurrent halone =>
      (hd.backedRunning (hquiet hpending) l hl hcurrent halone).mono (h.kept hpending)
        fun m hm q hq _ => ⟨m, hm, hq⟩
    backedLast := fun hpending r hr hcurrent halone =>
      (hd.backedLast (hquiet hpending) r hr hcurrent halone).mono (h.kept hpending)
        fun m hm q hq _ => ⟨m, hm, hq⟩ }

/-- After a notification was taken, no load is current. -/
theorem of_taken (hd : d.Sound) : Sound
    { d with
      watcher := d.watcher.takeNotification
      loads := d.loads.map fun l => { l with current := false }
      last := d.last.map fun r => { r with current := false, recent := false } } where
  running l hl := by
    obtain ⟨m, hm, rfl⟩ := List.mem_map.1 hl
    exact hd.running m hm
  completed r hr := by
    obtain ⟨r', hr', rfl⟩ := Option.map_eq_some_iff.1 hr
    exact hd.completed r' hr'
  alone l hl halone := by
    obtain ⟨m, hm, rfl⟩ := List.mem_map.1 hl
    exact congrArg (List.map fun l => { l with current := false }) (hd.alone m hm halone)
  backedRunning _ l hl hcurrent _ := by
    obtain ⟨m, _, rfl⟩ := List.mem_map.1 hl
    cases hcurrent
  backedLast _ r hr hcurrent _ := by
    obtain ⟨r', _, rfl⟩ := Option.map_eq_some_iff.1 hr
    cases hcurrent

/-- A load that begins is alone only where no load runs, and no load that runs stays alone. -/
theorem of_begun (hd : d.Sound) : Sound
    { d with
      loads := d.loads.map (fun l => { l with alone := false })
        ++ [{ work := d.watcher.loading, alone := d.loads.isEmpty }] } := by
  have hcases {l : LoadRun} (hl : l ∈ d.loads.map (fun l => { l with alone := false })
      ++ [{ work := d.watcher.loading, alone := d.loads.isEmpty }]) :
      (∃ m ∈ d.loads, l = { m with alone := false }) ∨
        l = { work := d.watcher.loading, alone := d.loads.isEmpty } := by
    rcases List.mem_append.1 hl with hl | hl
    · obtain ⟨m, hm, rfl⟩ := List.mem_map.1 hl
      exact .inl ⟨m, hm, rfl⟩
    · exact .inr (List.mem_singleton.1 hl)
  refine ⟨fun l hl => ?_, hd.completed, fun l hl halone => ?_, fun hpending l hl hcurrent halone => ?_,
    fun hpending r hr hcurrent halone => ?_⟩
  · rcases hcases hl with ⟨m, hm, rfl⟩ | rfl
    · exact hd.running m hm
    · exact fun _ _ => rfl
  · rcases hcases hl with ⟨m, hm, rfl⟩ | rfl
    · cases halone
    · have hnone : d.loads = [] := List.isEmpty_iff.1 halone
      simp [hnone]
  · rcases hcases hl with ⟨m, hm, rfl⟩ | rfl
    · cases halone
    · exact ⟨fun g hg => (nomatch hg), fun g hg => (nomatch hg)⟩
  · refine (hd.backedLast hpending r hr hcurrent halone).mono (fun _ => rfl) fun l hl q hq hreg => ?_
    rcases hcases hl with ⟨m, hm, rfl⟩ | rfl
    · exact ⟨m, hm, hq⟩
    · -- a load that has just begun is still to look into the store
      rw [LoadRun.phase_of_question? hq] at hreg
      cases hreg

theorem of_asked (hd : d.Sound) {q : Question} {s : Store} {q' : Option Question}
    (hloads : d.loads = before ++ l :: after) (hq : l.question? = some q)
    (hmove : q.Moves d.source d.watcher.store s q') : Sound
    { d with
      watcher := { d.watcher with store := s }
      loads := before ++ (q'.map fun q => { l with phase := q.phase }).toList ++ after } := by
  have hl : l ∈ d.loads := hloads ▸ List.mem_append_cons_self
  have hsame : ∀ l' ∈ q'.map fun q => { l with phase := q.phase }, l'.alone = l.alone := by
    intro l' hl'
    obtain ⟨p, _, rfl⟩ := Option.map_eq_some_iff.1 hl'
    rfl
  refine ⟨fun m hm => ?_, hd.completed, fun m hm halone => ?_, fun hpending m hm hcurrent halone => ?_,
    fun hpending r hr hcurrent halone => ?_⟩
  · rcases mem_replaced hm with hother | hnew
    · exact hd.running m (hloads ▸ mem_of_rest hother)
    · obtain ⟨p, _, rfl⟩ := Option.map_eq_some_iff.1 hnew
      exact hd.running l hl
  · obtain ⟨hnew, _, rfl, rfl⟩ := hd.alone_replaced hloads hsame hm halone
    rw [hnew]
    rfl
  · obtain ⟨hnew, hlalone, _, _⟩ := hd.alone_replaced hloads hsame hm halone
    obtain ⟨p, _, rfl⟩ := Option.map_eq_some_iff.1 hnew
    have hbacked := hd.backedRunning hpending l hl hcurrent hlalone
    rw [hloads] at hbacked
    exact hbacked.asked hq hmove
  · have hbacked := hd.backedLast hpending r hr hcurrent halone
    rw [hloads] at hbacked
    exact hbacked.asked hq hmove

/-- An answer that is kept is kept by the store, and a load that is alone is the only one that could fetch
its key. -/
theorem of_answered (hd : d.Sound) {ns : String} {ref : Monitor.SecretKey} {next : Answer → Lookup Loaded}
    {a : Answer} (hloads : d.loads = before ++ l :: after) (hwork : l.work = .ask ns ref next) : Sound
    { d with
      loads := before ++ [l.goOn (valueKey ns ref) a (keeps d.watcher.store (valueKey ns ref) a) (next a)]
        ++ after } := by
  let l' := l.goOn (valueKey ns ref) a (keeps d.watcher.store (valueKey ns ref) a) (next a)
  have hl : l ∈ d.loads := hloads ▸ List.mem_append_cons_self
  have hsame : ∀ m ∈ some l', m.alone = l.alone := by
    intro m hm
    obtain rfl := Option.some.inj hm
    rfl
  -- a load that goes on is still to look into the store for its next value
  have hlooking {q : Question} (hq : q ∈ l'.question?) : q.phase.isRegistered = false := by
    rw [LoadRun.phase_of_question? hq]
    rfl
  refine ⟨fun m hm => ?_, hd.completed, fun m hm halone => ?_, fun hpending m hm hcurrent halone => ?_,
    fun hpending r hr hcurrent halone => ?_⟩
  · rcases mem_replaced (o := some l') hm with hother | hnew
    · exact hd.running m (hloads ▸ mem_of_rest hother)
    · obtain rfl := Option.some.inj hnew
      intro table htable
      have hrest := hd.running l hl table fun g hg => htable g (List.mem_cons_of_mem _ hg)
      have hanswer : table (valueKey ns ref) = a := htable _ List.mem_cons_self
      rw [hrest, hwork, Lookup.answeredBy_ask, hanswer]
      rfl
  · obtain ⟨hnew, _, rfl, rfl⟩ := hd.alone_replaced hloads hsame hm halone
    obtain rfl := Option.some.inj hnew
    rfl
  · obtain ⟨hnew, hlalone, rfl, rfl⟩ := hd.alone_replaced hloads hsame hm halone
    obtain rfl := Option.some.inj hnew
    have hbacked := hd.backedRunning hpending l hl hcurrent hlalone
    refine ⟨fun g hg hgkept => ?_, fun g hg hgkept m hm q hq hreg => ?_⟩
    · rcases List.mem_cons.1 hg with rfl | hg
      · cases a with
        | ok v => exact ⟨v, rfl, by simpa [keeps] using hgkept⟩
        | error e => cases hgkept
      · exact hbacked.kept g hg hgkept
    · obtain rfl : m = l' := by simpa using hm
      rw [hlooking hq] at hreg
      cases hreg
  · refine (hd.backedLast hpending r hr hcurrent halone).mono (fun _ => rfl) fun m hm q hq hreg => ?_
    rcases mem_replaced (o := some l') hm with hother | hnew
    · exact ⟨m, hloads ▸ mem_of_rest hother, hq⟩
    · obtain rfl := Option.some.inj hnew
      rw [hlooking hq] at hreg
      cases hreg

theorem of_completed (hd : d.Sound) {r : Loaded} (hloads : d.loads = before ++ l :: after)
    (hwork : l.work = .done r) : Sound
    { d with loads := before ++ after, last := some { l.toLoadRecord with result := r } } := by
  have hl : l ∈ d.loads := hloads ▸ List.mem_append_cons_self
  have hother {m : LoadRun} (hm : m ∈ before ++ after) : m ∈ d.loads := hloads ▸ mem_of_rest hm
  refine ⟨fun m hm => hd.running m (hother hm), fun r' hr' => ?_, fun m hm halone => ?_,
    fun _ m hm _ halone => ?_, fun hpending r' hr' hcurrent halone => ?_⟩
  · obtain rfl := Option.mem_some.1 hr'
    have hrest := hd.running l hl
    rw [hwork] at hrest
    exact hrest
  · rw [hd.not_alone hloads hm] at halone
    cases halone
  · rw [hd.not_alone hloads hm] at halone
    cases halone
  · obtain rfl := Option.mem_some.1 hr'
    exact (hd.backedRunning hpending l hl hcurrent halone).mono (fun _ => rfl)
      fun m hm q hq _ => ⟨m, hother hm, hq⟩

theorem of_moves (h : d.Moves d') (hd : d.Sound) : d'.Sound := by
  cases h with
  | idle => exact hd
  | changed source news => exact ⟨hd.running, hd.completed, hd.alone, hd.backedRunning, hd.backedLast⟩
  | heard news h => exact hd.of_heard h news
  | taken => exact hd.of_taken
  | begun => exact hd.of_begun
  | asked hloads hq hmove => exact hd.of_asked hloads hq hmove
  | answered hloads hwork _ => exact hd.of_answered hloads hwork
  | completed hloads hwork => exact hd.of_completed hloads hwork

end Sound

/-- A watcher and a source that nobody has loaded from. -/
def start (w : Watcher) (source : Shelf) : Reloads := { watcher := w, source := source }

theorem sound_run (w : Watcher) (source : Shelf) (acts : List Act) : ((start w source).run acts).Sound := by
  have onward : ∀ (acts : List Act) (d : Reloads), d.Sound → (d.run acts).Sound := by
    intro acts
    induction acts with
    | nil => exact fun d hd => hd
    | cons a acts ih => exact fun d hd => ih (d.step a) (.of_moves (moves_step d a) hd)
  refine onward acts _ ?_
  exact {
    running := fun l hl => nomatch hl
    completed := fun r hr => nomatch hr
    alone := fun l hl => nomatch hl
    backedRunning := fun _ l hl => nomatch hl
    backedLast := fun _ r hr => nomatch hr }

/-- While no notification is pending, a load comes to what the last one came to, if that one began after
the last notification was taken and no other load ran beside it, and if whatever it was answered without
being kept would be answered alike. -/
theorem load_eq_last (w : Watcher) (source : Shelf) (acts : List Act) {r : LoadResult}
    (hlast : ((start w source).run acts).last = some r)
    (hpending : ((start w source).run acts).watcher.isPending = false)
    (hcurrent : r.current = true) (halone : r.alone = true)
    (hothers : ∀ g ∈ r.given, g.kept = false →
      ((start w source).run acts).watcher.store.now ((start w source).run acts).source.fetch g.key =
        g.answer) :
    (((start w source).run acts).watcher.load ((start w source).run acts).source.fetch).2 = r.result := by
  have hsound := sound_run w source acts
  generalize (start w source).run acts = d at *
  have hbacked := hsound.backedLast hpending r hlast hcurrent halone
  have hanswers : ∀ g ∈ r.given, d.watcher.store.now d.source.fetch g.key = g.answer := by
    intro g hg
    cases hkept : g.kept with
    | false => exact hothers g hg hkept
    | true =>
      obtain ⟨v, hanswer, hv⟩ := hbacked.kept g hg hkept
      rw [Store.now_of_kept hv, hanswer]
  have hleads := hsound.completed r hlast _ hanswers
  exact (Watcher.load_eq_answeredBy d.watcher d.source.fetch).trans hleads

/-! ## Runs of a small watcher -/

/-- A job that needs two secrets. -/
def shop : Monitor where
  metadata := { name := some "shop", namespaceName := some "default" }
  spec := .scrape {
    basicAuth := some {
      username := some { name := "account", key := "value" }
      password := some { name := "phrase", key := "value" } } }

/-- A watcher that serves, with a notification pending. -/
def shopWatcher : Watcher where
  settings := {}
  informers := {
    serviceMonitors := .standIn .serviceMonitor
    podMonitors := .standIn .podMonitor
    probes := .standIn .probe
    scrapeConfigs := {
      kind := .scrapeConfig
      cache := { objects := Dict.empty.insert ("default", "shop") shop }
      state := .synced
      following := .running ⟨0⟩ }
    secrets := { kind := .secret, state := .synced, following := .running ⟨0⟩ }
    namespaces := .standIn .namespace }
  outlet := {
    watcher := "prometheus-cr"
    notifier := ⟨true⟩
    channel := { capacity := 1 }
    sender := .waiting ⟨0⟩ }
  stage := .serving

/-- A secret with one value. -/
def secretOf (name value : String) : Secret where
  metadata := { name := some name, namespaceName := some "default" }
  data := some (Dict.empty.insert "value" value.toUTF8.toList)

/-- A secret has this value from now on, and the informer hears of it. -/
def announce (name value : String) : List Act := [.put (secretOf name value), .hear]

/-- A load fetches the secret that it waits for, and goes on. -/
def answer (n : Nat) : List Act := [.advance n, .fetch n true, .advance n, .advance n, .proceed n]

/-- Both secrets are there when the job is loaded. Then there is news of another one. -/
def unrelatedNews : List Act :=
  announce "account" "ann" ++ announce "phrase" "sesame" ++ [.take, .load] ++ answer 0 ++ answer 0
    ++ [.proceed 0] ++ announce "other" "x"

/-- The job is loaded again as it was. -/
theorem load_eq_last_unrelatedNews :
    ∃ r, ((start shopWatcher .empty).run unrelatedNews).last = some r ∧ r.result.2 = [] ∧
      (((start shopWatcher .empty).run unrelatedNews).watcher.load
        ((start shopWatcher .empty).run unrelatedNews).source.fetch).2 = r.result := by
  have hpending : ((start shopWatcher .empty).run unrelatedNews).watcher.isPending = false := by
    decide +kernel
  have hfacts : ((start shopWatcher .empty).run unrelatedNews).last.any (fun r =>
      r.current && r.alone && r.given.all (·.kept) && r.result.2.isEmpty) = true := by
    decide +kernel
  obtain ⟨r, hlast, hr⟩ := (Option.any_eq_true _ _).1 hfacts
  simp only [Bool.and_eq_true, List.all_eq_true, List.isEmpty_iff] at hr
  obtain ⟨⟨⟨hcurrent, halone⟩, hkept⟩, hwarnings⟩ := hr
  refine ⟨r, hlast, hwarnings, load_eq_last shopWatcher .empty unrelatedNews hlast hpending hcurrent halone ?_⟩
  intro g hg hlost
  rw [hkept g hg] at hlost
  cases hlost

/-- All news of secrets was heard, no load and so no fetch runs, no notification is pending, and a load was
completed since the last one was taken. -/
def isSettled (d : Reloads) : Bool :=
  d.news.isEmpty && d.loads.isEmpty && !d.watcher.isPending && d.last.any (·.recent)

/-- The watcher is settled, but another load comes to something else than the last one. -/
def IsOutdated (d : Reloads) : Prop :=
  d.isSettled = true ∧ d.last.map (·.result) ≠ some (d.watcher.load d.source.fetch).2

/-- A secret that the job lacked is created after the load. -/
def createdLater : List Act :=
  [.take, .load] ++ answer 0 ++ [.proceed 0] ++ announce "account" "ann" ++ announce "phrase" "sesame"

/-- A secret changes, and the notification of it is taken, while a load that has its old value waits for
another one. -/
def takenDuringLoad : List Act :=
  announce "account" "ann" ++ announce "phrase" "sesame" ++ [.take, .load] ++ answer 0
    ++ announce "account" "bob" ++ [.take] ++ answer 0 ++ [.proceed 0]

/-- Of two loads one is given a value, and the other keeps the next value before there is news of it. -/
def besideEachOther : List Act :=
  announce "account" "ann" ++ announce "phrase" "sesame" ++ [.take, .load, .load]
    ++ [.advance 0, .advance 1, .fetch 0 true, .put (secretOf "account" "bob"), .fetch 1 true]
    ++ [.advance 0, .advance 0, .proceed 0, .advance 1, .advance 1, .proceed 1, .hear]
    ++ answer 1 ++ [.proceed 1] ++ [.advance 0, .proceed 0, .proceed 0]

/-- A secret changes during each fetch of it. -/
def race : List Act := [.advance 0, .fetch 0 true] ++ announce "account" "ann" ++ [.advance 0, .advance 0]

/-- A value is passed on without being kept, since the secret changed again and again. -/
def passedOn : List Act :=
  announce "account" "ann" ++ announce "phrase" "sesame" ++ [.take, .load] ++ race ++ race ++ race
    ++ [.advance 0, .fetch 0 true, .proceed 0] ++ answer 0 ++ [.proceed 0] ++ announce "account" "bob"

/-- In each of these runs the watcher is settled and yet loads another configuration than it did last. -/
theorem reload_differs :
    ((start shopWatcher .empty).run createdLater).IsOutdated ∧
      ((start shopWatcher .empty).run passedOn).IsOutdated ∧
      ((start shopWatcher .empty).run takenDuringLoad).IsOutdated ∧
      ((start shopWatcher .empty).run besideEachOther).IsOutdated := by
  simp only [IsOutdated, Watcher.load_eq_answeredBy]
  decide +kernel

end Reloads

end ScrapeFleet.Watch
