/-
# ScrapeFleet.Proofs.Credential.Traffic — secrets that change while questions are answered

Three parties act on one store, in any order: the source, whose secrets change; the informer of secrets,
which hears of each change later and in order, and may report again whatever it knows; and any number of
questions, each of which takes the small steps of `Phase` and may be given up between two of them. A run
is a list of acts. An act that cannot happen in a state leaves it as it is, so every list is a run, and a
statement over all lists is a statement over all interleavings.

What an act can do is said once (`Traffic.moves_step`), and whatever no move breaks holds after every run
(`Traffic.run_induction`).
-/
import ScrapeFleet.Credential.Resolution
import ScrapeFleet.Proofs.Credential.Store
import ScrapeFleet.Watch.Load

namespace ScrapeFleet.Credential

open Cluster (ObjectKey Secret)
open Watch (Cache Change WatchEvent followSecret)

/-! ## Parties and acts -/

/-- What the source says of a change: a secret has this version now, or it was this when it went. -/
inductive News where
  | current (secret : Secret)
  | gone (secret : Secret)
deriving DecidableEq, Repr, Inhabited

/-- The secret that the news is of. -/
def News.secret : News → Secret
  | .current s | .gone s => s

/-- The news as it comes from the stream. -/
def News.event : News → WatchEvent Secret
  | .current s => .applied s
  | .gone s => .deleted s

/-- A question for a key, and how far it has come. -/
structure Question where
  key : ValueKey
  phase : Phase
deriving Repr, Inhabited

/-- A source of secrets, the news that the informer has not heard yet, what the informer knows, and the
store with the questions that are being answered from it. -/
structure Traffic where
  source : Shelf := .empty
  /-- The oldest first. -/
  news : List News := []
  known : Cache Secret := {}
  store : Store := {}
  questions : List Question := []
deriving Repr, Inhabited

/-- What may happen next. -/
inductive Act where
  /-- A secret is created or gets a new version. -/
  | put (secret : Secret)
  | drop (id : ObjectKey)
  /-- The informer hears the oldest news and tells the store of the change. -/
  | hear
  /-- The informer reports a secret again as it knows it. -/
  | retell (id : ObjectKey)
  | ask (key : ValueKey)
  /-- The source is read for a question, or cannot be reached. -/
  | fetch (n : Nat) (reachable : Bool)
  /-- A question that does not wait takes its next step. -/
  | advance (n : Nat)
  | cancel (n : Nat)
deriving Repr, Inhabited

namespace Traffic

/-- The informer tells the store of changes, one after the other. -/
def tell (w : Traffic) (changes : List (Change Secret)) : Traffic :=
  { w with store := changes.foldl (fun s c => (followSecret s c).1) w.store }

/-- Replaces the `n`-th question by what becomes of it. -/
def onQuestion (w : Traffic) (n : Nat) (f : Question → Store × Option Question) : Traffic :=
  match w.questions[n]? with
  | none => w
  | some q =>
    { w with
      store := (f q).1
      questions := w.questions.take n ++ (f q).2.toList ++ w.questions.drop (n + 1) }

/-- The state after an act. -/
def step (w : Traffic) : Act → Traffic
  | .put secret =>
    if secret.id?.isSome then
      { w with source := w.source.put secret, news := w.news ++ [.current secret] }
    else w
  | .drop id =>
    match w.source.get? id with
    | none => w
    | some secret => { w with source := w.source.erase id, news := w.news ++ [.gone secret] }
  | .hear =>
    match w.news with
    | [] => w
    | n :: news =>
      let (known, changes) := w.known.handle {} n.event
      { w with news := news, known := known }.tell changes
  | .retell id =>
    match w.known.objects.get? id with
    | none => w
    | some secret => w.tell [.updated secret secret]
  | .ask key => { w with questions := w.questions ++ [⟨key, .looking fetchAttempts⟩] }
  | .fetch n reachable => w.onQuestion n fun q =>
    let brought := if reachable then w.source.fetch q.key.1 else .unavailable
    (w.store, some { q with phase := q.phase.arrive q.key brought })
  | .advance n => w.onQuestion n fun q =>
    let next := q.phase.step w.store q.key
    (next.1, some { q with phase := next.2 })
  | .cancel n => w.onQuestion n fun q => (q.phase.cancel w.store q.key, none)

/-- The state after a run from the start, where there is nothing at all. -/
def run (acts : List Act) : Traffic := acts.foldl step {}

end Traffic

/-! ## What an act can do -/

/-- What a question can do with the store, and what becomes of it. -/
inductive Question.Moves (source : Shelf) (s : Store) (q : Question) : Store → Option Question → Prop
  | arrive (f : Fetched) : f = .unavailable ∨ f = source.fetch q.key.1 →
      Question.Moves source s q s (some { q with phase := q.phase.arrive q.key f })
  | step : Question.Moves source s q (q.phase.step s q.key).1
      (some { q with phase := (q.phase.step s q.key).2 })
  | cancel : Question.Moves source s q (q.phase.cancel s q.key) none

/-- What may become of a state in one act. -/
inductive Traffic.Moves (w : Traffic) : Traffic → Prop
  | idle : Traffic.Moves w w
  | put {secret : Secret} {id : ObjectKey} : secret.id? = some id →
      Traffic.Moves w
        { w with source := w.source.insert id secret, news := w.news ++ [.current secret] }
  | drop {secret : Secret} {id : ObjectKey} : w.source.get? id = some secret →
      Traffic.Moves w { w with source := w.source.erase id, news := w.news ++ [.gone secret] }
  | hear {n : News} {news : List News} : w.news = n :: news →
      Traffic.Moves w ({ w with news := news, known := (w.known.handle {} n.event).1 }.tell
        (w.known.handle {} n.event).2)
  | retell {secret : Secret} {id : ObjectKey} : w.known.objects.get? id = some secret →
      Traffic.Moves w (w.tell [.updated secret secret])
  | ask (key : ValueKey) :
      Traffic.Moves w { w with questions := w.questions ++ [⟨key, .looking fetchAttempts⟩] }
  | question {l r : List Question} {q : Question} {s' : Store} {q' : Option Question} :
      w.questions = l ++ q :: r → q.Moves w.source w.store s' q' →
      Traffic.Moves w { w with store := s', questions := l ++ q'.toList ++ r }

namespace Traffic

theorem moves_onQuestion (w : Traffic) (n : Nat) {f : Question → Store × Option Question}
    (hf : ∀ q : Question, q.Moves w.source w.store (f q).1 (f q).2) : w.Moves (w.onQuestion n f) := by
  unfold onQuestion
  split
  · exact .idle
  · rename_i q hq
    refine .question ?_ (hf q)
    obtain ⟨hn, rfl⟩ := List.getElem?_eq_some_iff.1 hq
    rw [← List.drop_eq_getElem_cons, List.take_append_drop]

/-- Every act moves the state in one of the ways listed. -/
theorem moves_step (w : Traffic) (a : Act) : w.Moves (w.step a) := by
  cases a with
  | put secret =>
    simp only [step]
    split
    · rename_i h
      obtain ⟨id, hid⟩ := Option.isSome_iff_exists.1 h
      obtain ⟨hns, hname⟩ := Secret.id?_eq_some_iff.1 hid
      have hput : w.source.put secret = w.source.insert id secret := by
        simp [Shelf.put, Cluster.Metadata.namespaceText, hns, hname]
      rw [hput]
      exact .put hid
    · exact .idle
  | drop id =>
    simp only [step]
    split
    · exact .idle
    · rename_i h
      exact .drop h
  | hear =>
    simp only [step]
    split
    · exact .idle
    · rename_i h
      exact .hear h
  | retell id =>
    simp only [step]
    split
    · exact .idle
    · rename_i h
      exact .retell h
  | ask key => exact .ask key
  | fetch n reachable =>
    refine moves_onQuestion w n fun q => .arrive _ ?_
    cases reachable
    · exact .inl rfl
    · exact .inr rfl
  | advance n => exact moves_onQuestion w n fun q => .step
  | cancel n => exact moves_onQuestion w n fun q => .cancel

/-- A property of the start that no move breaks holds after every run. -/
theorem run_induction {P : Traffic → Prop} (start : P {}) (moves : ∀ w w', w.Moves w' → P w → P w')
    (acts : List Act) : P (run acts) := by
  have onward : ∀ (acts : List Act) (w : Traffic), P w → P (acts.foldl step w) := by
    intro acts
    induction acts with
    | nil => exact fun w h => h
    | cons a acts ih => exact fun w h => ih _ (moves w _ (moves_step w a) h)
  exact onward acts _ start

end Traffic

/-! ## What a question can keep -/

namespace Phase

theorem get?_look (attempts : Nat) (s : Store) (key key' : ValueKey) :
    (look attempts s key).1.get? key' = s.get? key' := by
  unfold look
  split
  · rfl
  · split <;> rfl

/-- Only what was brought and is not outdated is kept, and only under the key in question. -/
theorem get?_judge (s : Store) (key : ValueKey) (more g : Nat) (f : Fetched) (key' : ValueKey) :
    (judge s key more g f).1.get? key' = s.get? key' ∨
      s.generation key.1 = g ∧ key' = key ∧
        (judge s key more g f).1.get? key' = (f.value key).toOption := by
  unfold judge
  cases f.value key with
  | error e => exact .inl rfl
  | ok v =>
    by_cases hg : s.generation key.1 = g
    · by_cases hkey : key' = key
      · refine .inr ⟨hg, hkey, ?_⟩
        simp only [if_pos hg]
        rw [Store.get?_track, if_pos hkey]
        rfl
      · refine .inl ?_
        simp only [if_pos hg]
        rw [Store.get?_track, if_neg hkey]
    · refine .inl ?_
      simp only [if_neg hg]

theorem get?_cancel (p : Phase) (s : Store) (key key' : ValueKey) :
    (p.cancel s key).get? key' = s.get? key' := by
  cases p <;> simp [cancel]

end Phase

namespace Question.Moves

variable {source : Shelf} {s s' : Store} {q : Question} {q' : Option Question}

/-- A question keeps nothing but what was brought for it and is not outdated. -/
theorem kept (h : q.Moves source s s' q') (key : ValueKey) :
    s'.get? key = s.get? key ∨
      ∃ more g f, q.phase = .fetched more g f ∧ s.generation q.key.1 = g ∧ key = q.key ∧
        s'.get? key = (f.value q.key).toOption := by
  cases h with
  | arrive f hf => exact .inl rfl
  | cancel => exact .inl (Phase.get?_cancel _ _ _ _)
  | step =>
    cases q.phase with
    | looking attempts => exact .inl (Phase.get?_look attempts s q.key key)
    | fetched more g f =>
      rcases Phase.get?_judge s q.key more g f key with hsame | hkept
      · exact .inl hsame
      · exact .inr ⟨more, g, f, rfl, hkept⟩
    | closing more answer => exact .inl (Store.get?_endFetch s q.key.1 key)
    | fetching more g => exact .inl rfl
    | lastFetch => exact .inl rfl
    | finished answer => exact .inl rfl

/-- What is on its way to the store was on it before, or it was just read. -/
theorem brought (h : q.Moves source s s' q') {p : Question} (hp : p ∈ q') {more g : Nat} {f : Fetched}
    (hphase : p.phase = .fetched more g f) :
    p.key = q.key ∧ s' = s ∧
      (q.phase = .fetched more g f ∨ f = .unavailable ∨ f = source.fetch q.key.1) := by
  cases h with
  | arrive f' hf' =>
    -- an answer reaches only a question that waits for one
    obtain rfl := Option.mem_some.1 hp
    refine ⟨rfl, rfl, ?_⟩
    cases hq : q.phase <;> rw [hq] at hphase <;> simp only [Phase.arrive, reduceCtorEq] at hphase
    · cases hphase
      exact .inr hf'
    · exact .inl hphase
  | cancel => cases hp
  | step =>
    -- no step brings an answer by itself
    obtain rfl := Option.mem_some.1 hp
    cases hq : q.phase with
    | looking attempts =>
      simp only [hq, Phase.step, Phase.look] at hphase
      split at hphase
      · cases hphase
      · split at hphase <;> cases hphase
    | fetched more' g' f' =>
      simp only [hq, Phase.step, Phase.judge] at hphase
      split at hphase
      · cases hphase
      · split at hphase <;> cases hphase
    | closing more' answer =>
      cases answer <;> simp only [hq, Phase.step, Phase.close] at hphase <;> cases hphase
    | fetching more' g' =>
      rw [hq] at hphase
      cases hphase
    | lastFetch =>
      rw [hq] at hphase
      cases hphase
    | finished answer =>
      rw [hq] at hphase
      cases hphase

end Question.Moves

end ScrapeFleet.Credential
