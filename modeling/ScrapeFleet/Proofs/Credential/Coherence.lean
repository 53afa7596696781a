/-
# ScrapeFleet.Proofs.Credential.Coherence — kept values are those of the source

When all news was heard, every kept value is the one that the source has now (`kept_is_current`). In
between it need not be: a value may be older than the source, and even older than what the store held a
moment before. What holds in every state is that the news which is still to be heard mends it. So a value
is judged by where it will stand when all of it was heard (`Standing.after`): given up, or that of the
secret which the informer will know then (`Settles`).

What the informer tells again settles, and so does a value that was just read from the source, since the
informer will know in the end what the source has now (`Coherent.mirrored`). News that arrives does to a
kept value what the judgement foresaw. A value on its way from the source to the store is not changed by
news, but news outdates its fetch, and then it is not kept; that the generation of a running fetch is not
lost in between is what `Booked` says.
-/
import ScrapeFleet.Proofs.Credential.Registration
import ScrapeFleet.Proofs.Watch.Cache

namespace ScrapeFleet.Credential

open Cluster (ObjectKey Secret keyOf)
open Watch (Cache)

/-! ## What news does to one kept value -/

/-- What the informer knows of a secret after news. -/
def News.knownAfter (id : ObjectKey) (known : Option Secret) : News → Option Secret
  | .current s => if id = s.metadata.key then some s else known
  | .gone s => if id = s.metadata.key then none else known

/-- What the informer knows of a secret, and what the store keeps of one of its keys. -/
structure Standing where
  known : Option Secret
  kept : Option String
deriving Repr

namespace Standing

/-- The store is told of news: the informer knew the secret before. What is new to it is not told. -/
def Told (key : ValueKey) (st : Standing) (n : News) : Prop :=
  key.1 = n.secret.metadata.key ∧ st.known.isSome

instance (key : ValueKey) (st : Standing) (n : News) : Decidable (st.Told key n) :=
  inferInstanceAs (Decidable (_ ∧ _))

/-- What becomes of a kept value that the store is told news of. -/
def refresh (key : ValueKey) (kept : Option String) : News → Option String
  | .current s => kept.bind fun _ => textOf s key
  | .gone _ => none

/-- The standing after news. -/
def hear (key : ValueKey) (st : Standing) (n : News) : Standing where
  known := n.knownAfter key.1 st.known
  kept := if st.Told key n then refresh key st.kept n else st.kept

/-- The standing after all of some news. -/
def after (key : ValueKey) (st : Standing) (news : List News) : Standing := news.foldl (hear key) st

/-- What is kept is what the known secret has. -/
def Faithful (key : ValueKey) (st : Standing) : Prop :=
  ∀ v, st.kept = some v → st.known.bind (textOf · key) = some v

variable {key : ValueKey} {st : Standing} {fresh : Option String}

theorem known_after (news : List News) (st : Standing) :
    (st.after key news).known = news.foldl (News.knownAfter key.1) st.known := by
  induction news generalizing st with
  | nil => rfl
  | cons n news ih => exact ih (st.hear key n)

theorem kept_hear_told {n : News} (h : st.Told key n) :
    (st.hear key n).kept = refresh key st.kept n := if_pos h

theorem kept_hear_quiet {n : News} (h : ¬ st.Told key n) : (st.hear key n).kept = st.kept := if_neg h

theorem knownAfter_of_ne {n : News} {id : ObjectKey} (h : id ≠ n.secret.metadata.key)
    (known : Option Secret) : n.knownAfter id known = known := by
  cases n with
  | current s => exact if_neg h
  | gone s => exact if_neg h

/-- A kept value is one that was fresh, or it is that of the known secret. -/
theorem origin_hear (h : ∀ v, st.kept = some v → fresh = some v ∨ st.known.bind (textOf · key) = some v)
    (n : News) : ∀ v, (st.hear key n).kept = some v →
      fresh = some v ∨ (st.hear key n).known.bind (textOf · key) = some v := by
  intro v hv
  by_cases htold : st.Told key n
  · rw [kept_hear_told htold] at hv
    cases n with
    | current s =>
      obtain ⟨_, _, htext⟩ := Option.bind_eq_some_iff.1 hv
      have hknown : (st.hear key (.current s)).known = some s := if_pos htold.1
      rw [hknown]
      exact .inr htext
    | gone s => cases hv
  · rw [kept_hear_quiet htold] at hv
    rcases h v hv with hfresh | hold
    · exact .inl hfresh
    · -- the value is that of a secret which was known, so the news is of another one
      obtain ⟨old, hknown, _⟩ := Option.bind_eq_some_iff.1 hold
      have hne : key.1 ≠ n.secret.metadata.key := by
        intro hkey
        exact htold ⟨hkey, Option.isSome_iff_exists.2 ⟨old, hknown⟩⟩
      have hsame : (st.hear key n).known = st.known := knownAfter_of_ne hne st.known
      rw [hsame]
      exact .inr hold

theorem origin_after (fresh : Option String) (news : List News)
    (h : ∀ v, st.kept = some v → fresh = some v ∨ st.known.bind (textOf · key) = some v) :
    ∀ v, (st.after key news).kept = some v →
      fresh = some v ∨ (st.after key news).known.bind (textOf · key) = some v := by
  induction news generalizing st with
  | nil => exact h
  | cons n news ih => exact ih (origin_hear h n)

/-- News keeps a faithful standing faithful. -/
theorem faithful_after (news : List News) (h : st.Faithful key) : (st.after key news).Faithful key := by
  intro v hv
  have horigin := origin_after none news (fun v hv => .inr (h v hv)) v hv
  exact horigin.resolve_left (Option.some_ne_none v ∘ Eq.symm)

/-- A value is faithful after news if it is that of the secret which is known then. -/
theorem faithful_after_fresh {news : List News}
    (h : (st.after key news).known.bind (textOf · key) = st.kept) :
    (st.after key news).Faithful key := by
  intro v hv
  rcases origin_after st.kept news (fun v hv => .inl hv) v hv with hfresh | hold
  · exact h.trans hfresh
  · exact hold

end Standing

/-! ## The informer and the store do what was foreseen -/

theorem admits_everything (s : Secret) : Cache.admits {} s = true := by
  unfold Cache.admits Scope.admits
  split <;> simp

theorem known_handle (known : Cache Secret) (n : News) (id : ObjectKey) :
    (known.handle {} n.event).1.objects.get? id = n.knownAfter id (known.objects.get? id) := by
  cases n with
  | current s => exact Cache.get?_applied (admits_everything s) id
  | gone s => exact Cache.get?_deleted id

/-- The store after it was told news. -/
def Store.follow (s : Store) : News → Store
  | .current secret => (s.update secret).1
  | .gone secret => (s.remove secret.metadata.key).1

theorem Store.get?_follow (s : Store) {n : News} (hid : n.secret.id? = some n.secret.metadata.key)
    (key : ValueKey) :
    (s.follow n).get? key =
      if key.1 = n.secret.metadata.key then Standing.refresh key (s.get? key) n else s.get? key := by
  cases n with
  | current secret => exact Store.get?_update s hid key
  | gone secret => exact Store.get?_remove s secret.metadata.key key

/-- News outdates the fetches of its secret, and no others. -/
theorem Store.running_follow (s : Store) {n : News}
    (hid : n.secret.id? = some n.secret.metadata.key) :
    (s.follow n).running = (s.outdate n.secret.metadata.key).running := by
  cases n with
  | current secret => exact Store.running_update s hid
  | gone secret => rfl

namespace Traffic

variable {w : Traffic} {n : News} {id : ObjectKey} {old : Secret}

/-- The state after the informer heard news and told the store. -/
def heard (w : Traffic) (n : News) : Traffic := w.tell (w.known.handle {} n.event).2

theorem heard_unknown (h : w.known.objects.get? n.secret.metadata.key = none) : w.heard n = w := by
  cases n with
  | current s =>
    have hquiet := Cache.handle_created (admits_everything s) h
    rw [heard, News.event, hquiet]
    rfl
  | gone s =>
    have hquiet : w.known.handle {} (.deleted s) = (w.known, []) := Cache.handle_unknown h
    rw [heard, News.event, hquiet]
    rfl

theorem heard_told (h : w.known.objects.get? n.secret.metadata.key = some old) :
    (w.heard n).store = w.store.follow n := by
  cases n with
  | current s =>
    have htold := Cache.handle_changed (admits_everything s) h
    rw [heard, News.event, htold]
    rfl
  | gone s =>
    have htold : w.known.handle {} (.deleted s) = (_, [.deleted s]) := Cache.handle_deleted h
    rw [heard, News.event, htold]
    rfl

/-- The store follows news as it was foreseen. -/
theorem get?_heard (hid : n.secret.id? = some n.secret.metadata.key) (key : ValueKey) :
    (w.heard n).store.get? key =
      ((⟨w.known.objects.get? key.1, w.store.get? key⟩ : Standing).hear key n).kept := by
  cases hknown : w.known.objects.get? n.secret.metadata.key with
  | none =>
    rw [heard_unknown hknown, Standing.kept_hear_quiet]
    rintro ⟨hkey, hsome⟩
    rw [hkey, hknown] at hsome
    cases hsome
  | some old =>
    rw [heard_told hknown, Store.get?_follow _ hid]
    by_cases hkey : key.1 = n.secret.metadata.key
    · rw [if_pos hkey, Standing.kept_hear_told]
      exact ⟨hkey, by rw [hkey, hknown]; rfl⟩
    · rw [if_neg hkey, Standing.kept_hear_quiet fun h => hkey h.1]

/-! ## What every state has in common -/

/-- How the store would stand to a secret if it kept this of a key. -/
def standing (w : Traffic) (key : ValueKey) (kept : Option String) : Standing :=
  ⟨w.known.objects.get? key.1, kept⟩

/-- The news to be heard mends what is kept, if this is kept. -/
def Settles (w : Traffic) (key : ValueKey) (kept : Option String) : Prop :=
  ((w.standing key kept).after key w.news).Faithful key

/-- What every reachable state has in common. -/
structure Coherent (w : Traffic) : Prop where
  newsNamed : ∀ n ∈ w.news, n.secret.id? = some n.secret.metadata.key
  sourceNamed : ∀ id s, w.source.get? id = some s → s.id? = some id
  knownNamed : ∀ id s, w.known.objects.get? id = some s → s.id? = some id
  /-- The informer will know in the end what the source has now. -/
  mirrored : ∀ id, w.news.foldl (News.knownAfter id) (w.known.objects.get? id) = w.source.get? id
  booked : Booked w.store w.questions
  kept : ∀ key, w.Settles key (w.store.get? key)
  /-- What was brought and is not outdated may be kept. -/
  brought : ∀ q ∈ w.questions, ∀ more g f, q.phase = .fetched more g f →
    w.store.generation q.key.1 = g → w.Settles q.key (f.value q.key).toOption

namespace Settles

variable {key : ValueKey} {kept : Option String}

/-- News that is still to be heard mends as well. -/
theorem append_news (h : w.Settles key kept) (n : News) (source : Shelf) :
    Settles { w with source := source, news := w.news ++ [n] } key kept := by
  have happend : (w.standing key kept).after key (w.news ++ [n]) =
      ((w.standing key kept).after key w.news).after key [n] := List.foldl_append
  show ((w.standing key kept).after key (w.news ++ [n])).Faithful key
  rw [happend]
  exact Standing.faithful_after [n] h

/-- What was just read from the source settles. -/
theorem of_fetch (hw : w.Coherent) (key : ValueKey) :
    w.Settles key ((w.source.fetch key.1).value key).toOption := by
  refine Standing.faithful_after_fresh ?_
  rw [Standing.known_after, standing, hw.mirrored, Shelf.fetch]
  cases w.source.get? key.1 <;> rfl

/-- What the informer knows settles. -/
theorem of_known {s : Secret} (hs : w.known.objects.get? key.1 = some s) :
    w.Settles key (kept.bind fun _ => textOf s key) := by
  refine Standing.faithful_after w.news fun v hv => ?_
  obtain ⟨_, _, htext⟩ := Option.bind_eq_some_iff.1 hv
  rw [standing, hs]
  exact htext

end Settles

end Traffic

/-! ## Every act -/

namespace Traffic.Coherent

variable {w w' : Traffic} {n : News} {id : ObjectKey}

/-- The source changes, and its news is on the way. -/
theorem of_news (hw : w.Coherent) {source : Shelf} (hid : n.secret.id? = some n.secret.metadata.key)
    (hsource : ∀ id, source.get? id = n.knownAfter id (w.source.get? id))
    (hnamed : ∀ id s, source.get? id = some s → s.id? = some id) :
    Coherent { w with source := source, news := w.news ++ [n] } where
  newsNamed m hm := by
    rcases List.mem_append.1 hm with hm | hm
    · exact hw.newsNamed m hm
    · rw [List.mem_singleton.1 hm]
      exact hid
  sourceNamed := hnamed
  knownNamed := hw.knownNamed
  mirrored id := by
    rw [List.foldl_append, hw.mirrored id, hsource id]
    rfl
  booked := hw.booked
  kept key := (hw.kept key).append_news n source
  brought q hq more g f hf hg := (hw.brought q hq more g f hf hg).append_news n source

/-- The informer knows what it is told, under its name. -/
theorem known_named (hw : w.Coherent) (hn : n ∈ w.news) {s : Secret}
    (hs : n.knownAfter id (w.known.objects.get? id) = some s) : s.id? = some id := by
  have hid := hw.newsNamed n hn
  by_cases hkey : id = n.secret.metadata.key
  · cases n with
    | current s' =>
      have hs' : some s' = some s := (if_pos hkey).symm.trans hs
      obtain rfl := Option.some.inj hs'
      rw [hkey]
      exact hid
    | gone s' =>
      have hs' : none = some s := (if_pos hkey).symm.trans hs
      cases hs'
  · rw [Standing.knownAfter_of_ne hkey] at hs
    exact hw.knownNamed id s hs

/-- A fetch that is not outdated after the store was told news is of another secret. -/
theorem generation_follow (hw : w.Coherent) (hid : n.secret.id? = some n.secret.metadata.key)
    {q : Question} (hq : q ∈ w.questions) {g : Nat} (hqg : q.phase.generation? = some g)
    (hg : (w.store.follow n).generation q.key.1 = g) :
    q.key.1 ≠ n.secret.metadata.key ∧ w.store.generation q.key.1 = g := by
  rw [Store.generation_congr (Store.running_follow _ hid)] at hg
  have hne : q.key.1 ≠ n.secret.metadata.key := by
    intro hkey
    obtain ⟨m, hm⟩ := Question.countP_registers hq (Booked.isRegistered_of_generation hqg)
    have hslot := hw.booked.slots q.key.1
    rw [hm] at hslot
    have hbehind := hw.booked.behind q hq g hqg
    rw [← hkey, Store.generation_outdate_self hslot] at hg
    omega
  rw [Store.generation_outdate_of_ne _ hne] at hg
  exact ⟨hne, hg⟩

/-- If a fetch is not outdated after the informer heard news, the store was not told of the secret that is
fetched. -/
theorem quiet_of_heard (hw : w.Coherent) (hid : n.secret.id? = some n.secret.metadata.key)
    {q : Question} (hq : q ∈ w.questions) {g : Nat} (hqg : q.phase.generation? = some g)
    (hg : (w.heard n).store.generation q.key.1 = g) (kept : Option String) :
    ¬ (w.standing q.key kept).Told q.key n ∧ w.store.generation q.key.1 = g := by
  cases hold : w.known.objects.get? n.secret.metadata.key with
  | none =>
    rw [heard_unknown hold] at hg
    refine ⟨?_, hg⟩
    rintro ⟨hkey, hsome⟩
    rw [standing, hkey, hold] at hsome
    cases hsome
  | some old =>
    rw [heard_told hold] at hg
    obtain ⟨hne, hg⟩ := hw.generation_follow hid hq hqg hg
    exact ⟨fun h => hne h.1, hg⟩

/-- The informer hears news and tells the store. -/
theorem of_hear (hw : w.Coherent) {news : List News} (hnews : w.news = n :: news) :
    Coherent ({ w with news := news, known := (w.known.handle {} n.event).1 }.tell
      (w.known.handle {} n.event).2) := by
  have hn : n ∈ w.news := by rw [hnews]; exact List.mem_cons_self
  have hid := hw.newsNamed n hn
  have hknown := known_handle w.known n
  -- what would be kept after the news settles if what would be kept before it did
  have hsettles : ∀ key kept, w.Settles key kept →
      Settles { w with news := news, known := (w.known.handle {} n.event).1 } key
        ((w.standing key kept).hear key n).kept := by
    intro key kept h
    rw [Settles, hnews] at h
    rw [Settles, standing, hknown]
    exact h
  exact {
    newsNamed := fun m hm => hw.newsNamed m (by rw [hnews]; exact List.mem_cons_of_mem n hm)
    sourceNamed := hw.sourceNamed
    knownNamed := fun id s hs => hw.known_named hn ((hknown id).symm.trans hs)
    mirrored := fun id => by
      have h := hw.mirrored id
      rw [hnews, List.foldl_cons, ← hknown id] at h
      exact h
    booked := (Moves.hear hnews).booked hw.booked
    kept := fun key => by
      have h := hsettles key _ (hw.kept key)
      rw [standing, ← get?_heard hid key] at h
      exact h
    brought := fun q hq more g f hf hg => by
      have hqg : q.phase.generation? = some g := by rw [hf]; rfl
      -- news of the secret outdates the fetch, so what was brought meets no news that it must follow
      obtain ⟨hquiet, hg⟩ := hw.quiet_of_heard hid hq hqg hg (f.value q.key).toOption
      have h := hsettles q.key _ (hw.brought q hq more g f hf hg)
      rw [Standing.kept_hear_quiet hquiet] at h
      exact h }

/-- The informer reports a secret again. -/
theorem of_retell (hw : w.Coherent) {s : Secret} (hs : w.known.objects.get? id = some s) :
    Coherent (w.tell [.updated s s]) := by
  have hid : s.id? = some s.metadata.key := by
    rw [Secret.key_of_id? (hw.knownNamed id s hs)]
    exact hw.knownNamed id s hs
  have hkey : s.metadata.key = id := Secret.key_of_id? (hw.knownNamed id s hs)
  exact {
    newsNamed := hw.newsNamed
    sourceNamed := hw.sourceNamed
    knownNamed := hw.knownNamed
    mirrored := hw.mirrored
    booked := (Moves.retell hs).booked hw.booked
    kept := fun key => by
      show w.Settles key ((w.store.update s).1.get? key)
      rw [Store.get?_update _ hid, hkey]
      by_cases hk : key.1 = id
      · rw [if_pos hk]
        exact Settles.of_known (by rw [hk, hs])
      · rw [if_neg hk]
        exact hw.kept key
    brought := fun q hq more g f hf hg =>
      have hqg : q.phase.generation? = some g := by rw [hf]; rfl
      have hg' := hw.generation_follow (n := .current s) hid hq hqg hg
      hw.brought q hq more g f hf hg'.2 }

/-- A question moves. -/
theorem of_question (hw : w.Coherent) {l r : List Question} {q : Question} {s' : Store}
    {q' : Option Question} (hq : w.questions = l ++ q :: r) (hmove : q.Moves w.source w.store s' q') :
    Coherent { w with store := s', questions := l ++ q'.toList ++ r } := by
  have hmem : q ∈ w.questions := by rw [hq]; simp
  have hbooked := hw.booked
  rw [hq] at hbooked
  exact {
    newsNamed := hw.newsNamed
    sourceNamed := hw.sourceNamed
    knownNamed := hw.knownNamed
    mirrored := hw.mirrored
    booked := hbooked.exchange hmove.exchange
    kept := fun key => by
      show w.Settles key (s'.get? key)
      rcases hmove.kept key with hsame | ⟨more, g, f, hphase, hg, hkey, hkept⟩
      · rw [hsame]
        exact hw.kept key
      · rw [hkept, hkey]
        exact hw.brought q hmem more g f hphase hg
    brought := fun p hp more g f hphase hg => by
      show w.Settles p.key (f.value p.key).toOption
      -- another question is registered, so its generation stays; this one may have just been served
      have hcases : p ∈ l ++ r ∨ p ∈ q' := by
        simp only [List.mem_append, Option.mem_toList] at hp ⊢
        tauto
      rcases hcases with hother | hself
      · have hreg : p.phase.isRegistered = true := by rw [hphase]; rfl
        have hg' := (hbooked.generation_other hmove.exchange hother hreg).symm.trans hg
        have hpw : p ∈ w.questions := by
          rw [hq]
          simp only [List.mem_append, List.mem_cons] at hother ⊢
          tauto
        exact hw.brought p hpw more g f hphase hg'
      · obtain ⟨hkey, rfl, hf⟩ := hmove.brought hself hphase
        rw [hkey]
        rcases hf with hf | rfl | rfl
        · exact hw.brought q hmem more g f hf (hkey ▸ hg)
        · exact Standing.faithful_after w.news fun v hv => nomatch hv
        · exact Settles.of_fetch hw q.key }

theorem of_moves (h : w.Moves w') (hw : w.Coherent) : w'.Coherent := by
  cases h with
  | idle => exact hw
  | @put secret id hid =>
    have hkey : secret.metadata.key = id := Secret.key_of_id? hid
    refine hw.of_news (n := .current secret) (by rw [← hkey] at hid; exact hid) ?_ ?_
    · intro id'
      rw [Dict.get?_insert, News.knownAfter, hkey]
    · intro id' s hs
      rw [Dict.get?_insert] at hs
      split at hs
      · rename_i heq
        obtain rfl := Option.some.inj hs
        rw [heq]
        exact hid
      · exact hw.sourceNamed id' s hs
  | @drop secret id hsource =>
    have hid : secret.id? = some id := hw.sourceNamed id secret hsource
    have hkey : secret.metadata.key = id := Secret.key_of_id? hid
    refine hw.of_news (n := .gone secret) (by rw [← hkey] at hid; exact hid) ?_ ?_
    · intro id'
      rw [Dict.get?_erase, News.knownAfter, hkey]
    · intro id' s hs
      rw [Dict.get?_erase] at hs
      split at hs
      · cases hs
      · exact hw.sourceNamed id' s hs
  | hear hnews => exact hw.of_hear hnews
  | retell hs => exact hw.of_retell hs
  | ask key =>
    -- a new question has brought nothing yet
    exact { hw with
      booked := (Moves.ask key).booked hw.booked
      brought := fun q hq more g f hphase hg => by
        rcases List.mem_append.1 hq with hq | hq
        · exact hw.brought q hq more g f hphase hg
        · rw [List.mem_singleton.1 hq] at hphase
          cases hphase }
  | question hq hmove => exact hw.of_question hq hmove

end Traffic.Coherent

namespace Traffic

/-- Every reachable state is coherent. -/
theorem coherent_run (acts : List Act) : (run acts).Coherent := by
  refine run_induction ?_ (fun w w' h hw => Coherent.of_moves h hw) acts
  exact {
    newsNamed := fun n hn => nomatch hn
    sourceNamed := fun id s hs => nomatch hs
    knownNamed := fun id s hs => nomatch hs
    mirrored := fun id => rfl
    booked := booked_run []
    kept := fun key v hv => nomatch hv
    brought := fun q hq => nomatch hq }

/-- When all news was heard, whatever is kept of a secret is what the source has in it now. -/
theorem kept_is_current (acts : List Act) (hnews : (run acts).news = []) {key : ValueKey} {v : String}
    (hkept : (run acts).store.get? key = some v) :
    ∃ secret, (run acts).source.get? key.1 = some secret ∧ valueOf secret key = .ok v := by
  have hw := coherent_run acts
  have hsettles := hw.kept key
  have hmirrored := hw.mirrored key.1
  rw [hnews] at hmirrored
  rw [Settles, hnews, hkept] at hsettles
  obtain ⟨secret, hsecret, htext⟩ := Option.bind_eq_some_iff.1 (hsettles v rfl)
  refine ⟨secret, hmirrored.symm.trans hsecret, ?_⟩
  rw [textOf] at htext
  cases hvalue : valueOf secret key with
  | ok v' =>
    rw [hvalue] at htext
    exact congrArg Except.ok (Option.some.inj htext)
  | error e =>
    rw [hvalue] at htext
    cases htext

/-- A secret with one key. -/
def tokenSecret (value : String) : Secret where
  metadata := { name := some "api", namespaceName := some "default" }
  data := some (Dict.empty.insert "token" value.toUTF8.toList)

/-- A secret changes while it is fetched: the old version is read before the news of the new one is
heard, and the fetch is made again. -/
def changedWhileFetched : List Act :=
  [.put (tokenSecret "old"), .hear, .ask (("default", "api"), "token"), .advance 0, .fetch 0 true,
    .put (tokenSecret "new"), .hear, .advance 0, .advance 0, .advance 0, .fetch 0 true, .advance 0]

theorem kept_is_current_after_change :
    (run changedWhileFetched).store.get? (("default", "api"), "token") = some "new" ∧
      ∃ secret, (run changedWhileFetched).source.get? ("default", "api") = some secret ∧
        valueOf secret (("default", "api"), "token") = .ok "new" := by
  have hnews : (run changedWhileFetched).news = [] := by decide +kernel
  have hkept : (run changedWhileFetched).store.get? (("default", "api"), "token") = some "new" := by
    decide +kernel
  exact ⟨hkept, kept_is_current changedWhileFetched hnews hkept⟩

end Traffic

end ScrapeFleet.Credential
