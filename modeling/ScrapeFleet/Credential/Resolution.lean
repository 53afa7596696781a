/-
# ScrapeFleet.Credential.Resolution — finding one value

A question for a key is answered from the store, or else by a fetch that is registered while it runs.
A fetch that was outdated is tried again, twice at most; then one more fetch is served without being
kept. Between the steps below the store may change in any way, which is all that concurrency means
here.
-/
import ScrapeFleet.Credential.Shelf

namespace ScrapeFleet.Credential

open Cluster (ObjectKey)

/-- How far a question for a key has come. -/
inductive Phase where
  /-- Looks into the store next; so many registered fetches may still be made. -/
  | looking (attempts : Nat)
  /-- A registered fetch runs; it started in the given generation, and so many more may follow. -/
  | fetching (more : Nat) (generation : Nat)
  /-- The registered fetch has brought something, which is judged next. -/
  | fetched (more : Nat) (generation : Nat) (f : Fetched)
  /-- The registration ends next; without an answer the question then looks again. -/
  | closing (more : Nat) (answer : Option Answer)
  /-- The last fetch runs; it is not registered. -/
  | lastFetch
  | finished (answer : Answer)
deriving Repr, Inhabited

/-- How many registered fetches a question may make. -/
def fetchAttempts : Nat := 3

namespace Phase

/-- Looks into the store, and registers a fetch if the key is not there. -/
def look (attempts : Nat) (s : Store) (key : ValueKey) : Store × Phase :=
  match attempts with
  | 0 => (s, .lastFetch)
  | more + 1 =>
    match s.get? key with
    | some v => (s, .finished (.ok v))
    | none => (s.beginFetch key.1, .fetching more (s.generation key.1))

/-- A new question. -/
def start (s : Store) (key : ValueKey) : Store × Phase := look fetchAttempts s key

/-- What a fetch brings arrives. -/
def arrive (key : ValueKey) (f : Fetched) : Phase → Phase
  | .fetching more generation => .fetched more generation f
  | .lastFetch => .finished (f.value key)
  | p => p

/-- Judges what a registered fetch brought. Only a value that was not outdated is kept. -/
def judge (s : Store) (key : ValueKey) (more generation : Nat) (f : Fetched) : Store × Phase :=
  match f.value key with
  | .error e => (s, .closing more (some (.error e)))
  | .ok v =>
    if s.generation key.1 = generation then (s.track key v, .closing more (some (.ok v)))
    else (s, .closing more none)

/-- Ends the registration. -/
def close (s : Store) (key : ValueKey) (more : Nat) (answer : Option Answer) : Store × Phase :=
  (s.endFetch key.1,
    match answer with
    | some a => .finished a
    | none => .looking more)

/-- The next step of a question that does not wait for a fetch. -/
def step (s : Store) (key : ValueKey) : Phase → Store × Phase
  | .looking attempts => look attempts s key
  | .fetched more generation f => judge s key more generation f
  | .closing more answer => close s key more answer
  | p => (s, p)

/-- Goes on with what a fetch brought until the next fetch or the answer: judges, ends the registration,
and looks again. -/
def deliver (s : Store) (key : ValueKey) (p : Phase) (f : Fetched) : Store × Phase :=
  let (s, p) := step s key (p.arrive key f)
  let (s, p) := step s key p
  step s key p

/-- Gives a question up. -/
def cancel (s : Store) (key : ValueKey) (p : Phase) : Store :=
  match p with
  | .fetching _ _ | .fetched _ _ _ | .closing _ _ => s.endFetch key.1
  | .looking _ | .lastFetch | .finished _ => s

/-- How far the answer is away at most. -/
def distance : Phase → Nat
  | .finished _ => 0
  | .lastFetch => 1
  | .looking attempts => 4 * attempts + 2
  | .closing more _ => 4 * more + 3
  | .fetched more _ _ => 4 * more + 4
  | .fetching more _ => 4 * more + 5

theorem distance_look (attempts : Nat) (s : Store) (key : ValueKey) :
    (look attempts s key).2.distance < distance (.looking attempts) := by
  unfold look
  split
  · simp [distance]
  · split <;> simp only [distance] <;> omega

theorem distance_judge (s : Store) (key : ValueKey) (more generation : Nat) (f : Fetched) :
    (judge s key more generation f).2.distance < distance (.fetched more generation f) := by
  unfold judge
  split
  · simp [distance]
  · split <;> simp [distance]

theorem distance_close (s : Store) (key : ValueKey) (more : Nat) (answer : Option Answer) :
    (close s key more answer).2.distance < distance (.closing more answer) := by
  cases answer <;> simp [close, distance]

/-- Answers a question from a source that nothing disturbs. -/
def settle (source : ObjectKey → Fetched) (s : Store) (key : ValueKey) (p : Phase) :
    Store × Answer :=
  match p with
  | .finished a => (s, a)
  | .lastFetch => (s, (source key.1).value key)
  | .looking attempts =>
    let next := look attempts s key
    settle source next.1 key next.2
  | .fetching more generation => settle source s key (.fetched more generation (source key.1))
  | .fetched more generation f =>
    let next := judge s key more generation f
    settle source next.1 key next.2
  | .closing more answer =>
    let next := close s key more answer
    settle source next.1 key next.2
termination_by p.distance
decreasing_by
  · exact distance_look _ _ _
  · simp [distance]
  · exact distance_judge _ _ _ _ _
  · exact distance_close _ _ _ _

end Phase

/-- Answers all questions of a piece of work from a source that nothing disturbs. -/
def Lookup.run {α : Type} (source : ObjectKey → Fetched) : Lookup α → Store → Store × α
  | .done a, s => (s, a)
  | .ask ns ref next, s =>
    let key : ValueKey := ((ns, ref.name), ref.key)
    let (s, phase) := Phase.start s key
    let (s, answer) := phase.settle source s key
    (next answer).run source s

/-- The secrets that a piece of work has fetched when all its questions are answered. -/
def Lookup.fetches {α : Type} (source : ObjectKey → Fetched) : Lookup α → Store → List ObjectKey
  | .done _, _ => []
  | .ask ns ref next, s =>
    let key : ValueKey := ((ns, ref.name), ref.key)
    let (s, phase) := Phase.start s key
    let fetched := match phase with
      | .finished _ => []
      | _ => [key.1]
    let (s, answer) := phase.settle source s key
    fetched ++ (next answer).fetches source s

end ScrapeFleet.Credential
