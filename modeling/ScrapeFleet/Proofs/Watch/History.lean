/-
# ScrapeFleet.Proofs.Watch.History — a cache against the history of its stream

What a cache has to hold can be read off the history of its stream, without keeping anything: the last
change of a single object under the key, if there was one since the last complete list, and otherwise what
that list has there (`heldAfter`). A list is what was listed since it began; one that is broken off by the
start of another leaves nothing, and one that ends without having begun is what was listed since the list
before it. Objects of namespaces that are not watched do not count.

An informer is run through anything that can happen to it: items of its stream, resyncs, the end of the
waiting for the first list. Its cache is always the one that the history asks for, and the calls that it
made are replayed to that cache (`Informer.live_reflects_history`).
-/
import ScrapeFleet.Proofs.Watch.Mirror
import ScrapeFleet.Watch.Informer

namespace ScrapeFleet.Watch

open Cluster (Identified ObjectKey keyOf)

variable {α : Type} [Identified α]

/-! ## What a history says -/

namespace WatchEvent

/-- A list is complete. -/
def endsList : WatchEvent α → Bool
  | .listEnds => true
  | .listBegins | .listed _ | .applied _ | .deleted _ => false

/-- What was listed before belongs to another list than what is listed after. -/
def boundsList : WatchEvent α → Bool
  | .listBegins | .listEnds => true
  | .listed _ | .applied _ | .deleted _ => false

/-- The object that is listed under a key. -/
def listed? (scope : Scope) (id : ObjectKey) : WatchEvent α → Option α
  | .listed a => if Cache.admits scope a ∧ keyOf a = id then some a else none
  | .listBegins | .listEnds | .applied _ | .deleted _ => none

/-- What the event of a single object says of a key: which object stands there now, or that none does. -/
def single? (scope : Scope) (id : ObjectKey) : WatchEvent α → Option (Option α)
  | .applied a => if Cache.admits scope a ∧ keyOf a = id then some (some a) else none
  | .deleted a => if keyOf a = id then some none else none
  | .listBegins | .listEnds | .listed _ => none

end WatchEvent

/-- What the list that is being sent has under a key. The newest event comes first, here and below. -/
def listedSince (scope : Scope) (id : ObjectKey) (history : List (WatchEvent α)) : Option α :=
  (history.takeWhile (!·.boundsList)).findSome? (·.listed? scope id)

/-- What has to stand under a key after a history: what the last complete list has there, unless an event
of a single object came after it. -/
def heldAfter (scope : Scope) (id : ObjectKey) (history : List (WatchEvent α)) : Option α :=
  ((history.takeWhile (!·.endsList)).findSome? (·.single? scope id)).getD
    (listedSince scope id (history.dropWhile (!·.endsList)).tail)

section Histories

variable {scope : Scope} {id : ObjectKey} {e : WatchEvent α} {history : List (WatchEvent α)}

theorem listedSince_bound (h : e.boundsList = true) : listedSince scope id (e :: history) = none := by
  simp [listedSince, h]

theorem listedSince_cons (h : e.boundsList = false) :
    listedSince scope id (e :: history) = (e.listed? scope id).or (listedSince scope id history) := by
  rw [listedSince, List.takeWhile_cons_of_pos (by simp [h]), List.findSome?_cons]
  cases e.listed? scope id <;> rfl

theorem heldAfter_listEnds :
    heldAfter scope id (.listEnds :: history) = listedSince scope id history := by
  simp [heldAfter, WatchEvent.endsList]

theorem heldAfter_cons (h : e.endsList = false) :
    heldAfter scope id (e :: history) =
      (e.single? scope id).getD (heldAfter scope id history) := by
  rw [heldAfter, List.takeWhile_cons_of_pos (by simp [h]), List.dropWhile_cons_of_pos (by simp [h]),
    List.findSome?_cons]
  cases e.single? scope id <;> rfl

/-- Only objects that are watched are listed, and under their own keys. -/
theorem of_listedSince {a : α} (h : listedSince scope id history = some a) :
    Cache.admits scope a = true ∧ keyOf a = id := by
  obtain ⟨e, _, he⟩ := List.exists_of_findSome?_eq_some h
  cases e with
  | listed b =>
    obtain ⟨hb, heq⟩ := Option.ite_none_right_eq_some.1 he
    obtain rfl : b = a := Option.some.inj heq
    exact hb
  | listBegins => cases he
  | listEnds => cases he
  | applied b => cases he
  | deleted b => cases he

/-- Only objects that are watched are held, and under their own keys. -/
theorem of_heldAfter {a : α} (h : heldAfter scope id history = some a) :
    Cache.admits scope a = true ∧ keyOf a = id := by
  unfold heldAfter at h
  cases hsingle : (history.takeWhile (!·.endsList)).findSome? (·.single? scope id) with
  | none =>
    rw [hsingle] at h
    exact of_listedSince h
  | some held =>
    rw [hsingle] at h
    obtain ⟨e, _, he⟩ := List.exists_of_findSome?_eq_some hsingle
    cases e with
    | applied b =>
      obtain ⟨hb, heq⟩ := Option.ite_none_right_eq_some.1 he
      obtain rfl : some b = held := Option.some.inj heq
      obtain rfl : b = a := Option.some.inj h
      exact hb
    | deleted b =>
      obtain ⟨_, heq⟩ := Option.ite_none_right_eq_some.1 he
      obtain rfl : none = held := Option.some.inj heq
      cases h
    | listBegins => cases he
    | listEnds => cases he
    | listed b => cases he

end Histories

/-! ## One event -/

/-- The cache is the one that a history asks for, and so is as much of the next list as has come. -/
structure Cache.Reflects (scope : Scope) (history : List (WatchEvent α)) (c : Cache α) : Prop where
  objects : ∀ id, c.objects.get? id = heldAfter scope id history
  listing : ∀ id, (c.listing.getD .empty).get? id = listedSince scope id history

namespace Cache.Reflects

variable {scope : Scope} {history : List (WatchEvent α)} {c : Cache α}

theorem keyed (h : c.Reflects scope history) : Keyed c.objects := by
  intro id a ha
  rw [h.objects] at ha
  exact (of_heldAfter ha).2

theorem keyed_listing (h : c.Reflects scope history) : Keyed (c.listing.getD .empty) := by
  intro id a ha
  rw [h.listing] at ha
  exact (of_listedSince ha).2

theorem admits (h : c.Reflects scope history) {id : ObjectKey} {a : α}
    (ha : c.objects.get? id = some a) : Cache.admits scope a = true := by
  rw [h.objects] at ha
  exact (of_heldAfter ha).1

/-- An event of a single object leaves the list that is being sent alone. -/
theorem listing_single {e : WatchEvent α} {c' : Cache α} (h : c.Reflects scope history)
    (hbound : e.boundsList = false) (hlisted : ∀ id, e.listed? scope id = none)
    (hsame : c'.listing = c.listing) (id : ObjectKey) :
    (c'.listing.getD .empty).get? id = listedSince scope id (e :: history) := by
  rw [listedSince_cons hbound, hlisted, hsame]
  exact h.listing id

/-- An event that says nothing of a key in itself leaves what is held there. -/
theorem objects_quiet {e : WatchEvent α} (h : c.Reflects scope history) (hends : e.endsList = false)
    {id : ObjectKey} (hsingle : e.single? scope id = none) :
    c.objects.get? id = heldAfter scope id (e :: history) := by
  rw [heldAfter_cons hends, hsingle]
  exact h.objects id

/-- A cache that is left alone by an event that says nothing of any key. -/
theorem quiet {e : WatchEvent α} (h : c.Reflects scope history) (hends : e.endsList = false)
    (hbound : e.boundsList = false) (hsingle : ∀ id, e.single? scope id = none)
    (hlisted : ∀ id, e.listed? scope id = none) : c.Reflects scope (e :: history) :=
  ⟨fun id => h.objects_quiet hends (hsingle id), h.listing_single hbound hlisted rfl⟩

theorem handle_listed (h : c.Reflects scope history) (a : α) :
    (c.handle scope (.listed a)).1.Reflects scope (.listed a :: history) := by
  by_cases hscope : Cache.admits scope a = true
  · have hcache : (c.handle scope (.listed a)).1 =
        { c with listing := some ((c.listing.getD .empty).insert (keyOf a) a) } := by
      simp only [Cache.handle, if_pos hscope]
    rw [hcache]
    refine ⟨fun id => h.objects_quiet rfl rfl, fun id => ?_⟩
    rw [listedSince_cons rfl, WatchEvent.listed?, Option.getD_some, Dict.get?_insert, h.listing]
    by_cases hid : id = keyOf a
    · simp [hid, hscope]
    · simp [hid, Ne.symm hid]
  · have hcache : (c.handle scope (.listed a)).1 = c := by
      simp only [Cache.handle, if_neg hscope]
    rw [hcache]
    exact h.quiet rfl rfl (fun _ => rfl) fun _ => if_neg fun hb => hscope hb.1

theorem handle_applied (h : c.Reflects scope history) (a : α) :
    (c.handle scope (.applied a)).1.Reflects scope (.applied a :: history) := by
  by_cases hscope : Cache.admits scope a = true
  · refine ⟨fun id => ?_, h.listing_single rfl (fun _ => rfl) ?_⟩
    · rw [Cache.get?_applied hscope, heldAfter_cons rfl, WatchEvent.single?, h.objects]
      by_cases hid : id = keyOf a
      · simp [hid, hscope]
      · simp [hid, Ne.symm hid]
    · simp only [Cache.handle, if_pos hscope]
  · rw [Cache.handle_outside hscope]
    exact h.quiet rfl rfl (fun _ => if_neg fun hb => hscope hb.1) fun _ => rfl

/-- A deletion counts under its key, whether the object would be admitted or not. -/
theorem handle_deleted (h : c.Reflects scope history) (a : α) :
    (c.handle scope (.deleted a)).1.Reflects scope (.deleted a :: history) := by
  refine ⟨fun id => ?_, h.listing_single rfl (fun _ => rfl) ?_⟩
  · rw [Cache.get?_deleted, heldAfter_cons rfl, WatchEvent.single?, h.objects]
    by_cases hid : id = keyOf a
    · simp [hid]
    · simp [hid, Ne.symm hid]
  · simp only [Cache.handle]
    split <;> rfl

/-- An event leads from the cache of a history to the cache of the longer one. -/
theorem handle (h : c.Reflects scope history) (e : WatchEvent α) :
    (c.handle scope e).1.Reflects scope (e :: history) := by
  cases e with
  | listBegins =>
    refine ⟨fun id => h.objects_quiet rfl rfl, fun id => ?_⟩
    rw [listedSince_bound rfl]
    rfl
  | listEnds =>
    refine ⟨fun id => ?_, fun id => ?_⟩
    · rw [heldAfter_listEnds]
      exact h.listing id
    · rw [listedSince_bound rfl]
      rfl
  | listed a => exact h.handle_listed a
  | applied a => exact h.handle_applied a
  | deleted a => exact h.handle_deleted a

end Cache.Reflects

/-! ## Whole runs -/

/-- What can happen to an informer that was started. -/
inductive Happening (α : Type) where
  | item (i : StreamItem α)
  | resync
  /-- Somebody stops waiting for the first list. -/
  | timeOut (timeout : Duration)
deriving Repr, Inhabited

/-- The events that an informer follows: all of its stream, up to its end. -/
def heard : List (Happening α) → List (WatchEvent α)
  | [] => []
  | .item (.event e) :: hs => e :: heard hs
  | .item .ended :: _ => []
  | .item .failed :: hs | .resync :: hs | .timeOut _ :: hs => heard hs

omit [Identified α] in
theorem heard_cons {x : Happening α} (hx : x ≠ .item .ended) (hs : List (Happening α)) :
    heard (x :: hs) = heard [x] ++ heard hs := by
  cases x with
  | resync => rfl
  | timeOut timeout => rfl
  | item item =>
    cases item with
    | event e => rfl
    | failed => rfl
    | ended => exact absurd rfl hx

namespace Informer

/-- What becomes of an informer, and the calls that it makes to everybody who was registered. -/
def meet (i : Informer α) : Happening α → Informer α × List (Change α)
  | .item item => ((i.receive item).1, (i.receive item).2.changes)
  | .resync => (i, i.resync)
  | .timeOut timeout => ((i.timeOut timeout).1, [])

/-- An informer after a run, and all calls that it made, the first of which comes first. -/
def live (i : Informer α) : List (Happening α) → Informer α × List (Change α)
  | [] => (i, [])
  | h :: hs => (((i.meet h).1.live hs).1, (i.meet h).2 ++ ((i.meet h).1.live hs).2)

/-- An informer that was just started. -/
def opened (kind : Kind) (scope : Scope) (period : Duration) (s : Shutdown) : Informer α :=
  { kind := kind, scope := scope, resyncPeriod := period, state := .syncing,
    following := .running s.listen }

omit [Identified α] in
theorem start_eq_opened (kind : Kind) (scope : Scope) (period : Duration) (s : Shutdown) :
    Informer.start ({ kind := kind, scope := scope, resyncPeriod := period } : Informer α) s =
      some (opened kind scope period s, []) := rfl

variable {i : Informer α} {history : List (WatchEvent α)}

omit [Identified α] in
/-- The end of the waiting changes nothing but the state. -/
theorem timeOut_same (i : Informer α) (timeout : Duration) :
    (i.timeOut timeout).1.cache = i.cache ∧ (i.timeOut timeout).1.scope = i.scope ∧
      (i.timeOut timeout).1.following = i.following := by
  unfold timeOut
  split <;> exact ⟨rfl, rfl, rfl⟩

/-- An informer whose stream has ended keeps its cache and makes no calls. -/
theorem live_stopped (h : i.following = .stopped) (hs : List (Happening α)) :
    (i.live hs).1.cache = i.cache ∧ (i.live hs).2 = [] := by
  induction hs generalizing i with
  | nil => exact ⟨rfl, rfl⟩
  | cons x hs ih =>
    have hmeet : (i.meet x).1.following = .stopped ∧ (i.meet x).1.cache = i.cache ∧
        (i.meet x).2 = [] := by
      cases x with
      | item item =>
        have hreceive : i.receive item = (i, {}) := by
          unfold receive
          rw [h]
        rw [meet, hreceive]
        exact ⟨h, rfl, rfl⟩
      | resync =>
        refine ⟨h, rfl, ?_⟩
        have hrunning : i.isRunning = false := by
          unfold isRunning
          rw [h]
        simp [meet, resync, hrunning]
      | timeOut timeout =>
        obtain ⟨hcache, _, hfollowing⟩ := i.timeOut_same timeout
        exact ⟨hfollowing.trans h, hcache, rfl⟩
    obtain ⟨hfollowing, hcache, hcalls⟩ := hmeet
    obtain ⟨hcache', hcalls'⟩ := ih hfollowing
    exact ⟨hcache'.trans hcache, by rw [live, hcalls, hcalls', List.append_nil]⟩

variable [DecidableEq α]

/-- Whatever happens to a running informer, short of the end of its stream: it runs on, its cache is that of
the longer history, and the calls that it makes lead from the one cache to the other. -/
theorem meet_reflects {l : Listener} (hrunning : i.following = .running l)
    (hcache : i.cache.Reflects i.scope history) {x : Happening α} (hx : x ≠ .item .ended) :
    (i.meet x).1.following = .running l ∧ (i.meet x).1.scope = i.scope ∧
      (i.meet x).1.cache.Reflects i.scope ((heard [x]).reverse ++ history) ∧
      replay? i.cache.objects (i.meet x).2 = some (i.meet x).1.cache.objects := by
  cases x with
  | resync =>
    refine ⟨hrunning, rfl, hcache, ?_⟩
    show replay? i.cache.objects i.resync = some i.cache.objects
    unfold resync
    split
    · exact Cache.replay?_repeated hcache.keyed
    · rfl
  | timeOut timeout =>
    obtain ⟨hsame, hscope, hfollowing⟩ := i.timeOut_same timeout
    refine ⟨hfollowing.trans hrunning, hscope, ?_, ?_⟩
    · show (i.timeOut timeout).1.cache.Reflects i.scope history
      rw [hsame]
      exact hcache
    · exact congrArg (fun c => some c.objects) hsame.symm
  | item item =>
    have hmeet : i.meet (.item item) = ((i.follow item).1, (i.follow item).2.changes) := by
      rw [meet, receive, hrunning]
    rw [hmeet]
    cases item with
    | failed => exact ⟨hrunning, rfl, hcache, rfl⟩
    | ended => exact absurd rfl hx
    | event e =>
      have hcalls := Cache.replay?_handle hcache.keyed hcache.keyed_listing i.scope e
      exact ⟨hrunning, rfl, hcache.handle e, hcalls⟩

/-- A run leads from the cache of a history to that of the longer one, and its calls are replayed from the
one to the other. -/
theorem live_reflects {l : Listener} (hrunning : i.following = .running l)
    (hcache : i.cache.Reflects i.scope history) (hs : List (Happening α)) :
    (i.live hs).1.cache.Reflects i.scope ((heard hs).reverse ++ history) ∧
      replay? i.cache.objects (i.live hs).2 = some (i.live hs).1.cache.objects := by
  induction hs generalizing i history with
  | nil => exact ⟨hcache, rfl⟩
  | cons x hs ih =>
    rcases eq_or_ne x (.item .ended) with rfl | hx
    · -- nothing is followed from here on, and nothing of it is heard
      have hmeet : i.meet (.item .ended) = ({ i with following := .stopped }, []) := by
        rw [meet, receive, hrunning]
        rfl
      obtain ⟨hsame, hcalls⟩ := live_stopped (i := { i with following := .stopped }) rfl hs
      rw [live, hmeet, hsame, hcalls]
      exact ⟨hcache, rfl⟩
    · obtain ⟨hfollowing, hscope, hreflects, hstep⟩ := meet_reflects hrunning hcache hx
      rw [← hscope] at hreflects
      obtain ⟨hreflects', hreplay⟩ := ih hfollowing hreflects
      rw [live, heard_cons hx, List.reverse_append, List.append_assoc, replay?_append hstep]
      rw [hscope] at hreflects'
      exact ⟨hreflects', hreplay⟩

/-- After every run of an informer that was started with an empty cache, the calls that it made are
replayed to its cache, its cache holds what the history of its stream asks for, and holds nothing that is
not watched. -/
theorem live_reflects_history (kind : Kind) (scope : Scope) (period : Duration) (s : Shutdown)
    (hs : List (Happening α)) :
    replay? .empty ((opened kind scope period s).live hs).2 =
        some ((opened kind scope period s).live hs).1.cache.objects ∧
      (∀ id, ((opened kind scope period s).live hs).1.cache.objects.get? id =
        heldAfter scope id (heard hs).reverse) ∧
      ∀ id a, ((opened kind scope period s).live hs).1.cache.objects.get? id = some a →
        Cache.admits scope a = true := by
  have hempty : (opened kind scope period s : Informer α).cache.Reflects scope [] :=
    ⟨fun id => rfl, fun id => rfl⟩
  obtain ⟨hreflects, hreplay⟩ := live_reflects (i := opened kind scope period s) rfl hempty hs
  rw [List.append_nil] at hreflects
  exact ⟨hreplay, hreflects.objects, fun id a => hreflects.admits⟩

end Informer

end ScrapeFleet.Watch
