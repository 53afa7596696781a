/-
# ScrapeFleet.Watch.Clock — alarms in order, and the signal to stop

A clock counts milliseconds and rings its alarms one by one, in the order of their times; alarms for one
instant ring in the order in which they were set. A periodic alarm is set again when it rings. Since an
alarm is always set again for a later time, only finitely many ring in a span.

The signal to stop may be given more than once. Who listens hears it if it is given after the listening
began; what was given before is never heard, though it can still be seen.
-/

namespace ScrapeFleet.Watch

/-! ## Alarms -/

/-- An alarm to be set: when it first rings, how it comes again, and what it is for. -/
structure Alarm (τ : Type) where
  delay : Nat
  /-- The time between two rings; an alarm without one rings once. -/
  period : Nat := 0
  tag : τ
deriving DecidableEq, Repr, Inhabited

/-- An alarm that is set: it rings at a time. -/
structure Timer (τ : Type) where
  due : Nat
  period : Nat
  tag : τ
deriving DecidableEq, Repr, Inhabited

/-- The time, and the alarms that are set, in the order in which they will ring. -/
structure Clock (τ : Type) where
  now : Nat := 0
  timers : List (Timer τ) := []
deriving DecidableEq, Repr, Inhabited

namespace Clock

variable {τ σ : Type}

/-- Puts a timer behind all that ring no later. -/
def place (t : Timer τ) : List (Timer τ) → List (Timer τ)
  | [] => [t]
  | u :: us => if u.due ≤ t.due then u :: place t us else t :: u :: us

/-- Sets an alarm. -/
def set (c : Clock τ) (a : Alarm τ) : Clock τ :=
  { c with timers := place ⟨c.now + a.delay, a.period, a.tag⟩ c.timers }

/-- Sets alarms, one after the other. -/
def setAll (c : Clock τ) (as : List (Alarm τ)) : Clock τ := as.foldl set c

/-- The timers after the first of them has rung. -/
def afterRing (t : Timer τ) (rest : List (Timer τ)) : List (Timer τ) :=
  if t.period = 0 then rest else place { t with due := t.due + t.period } rest

/-- How much ringing is left until a time. -/
def load (until_ : Nat) (ts : List (Timer τ)) : Nat :=
  ts.foldr (fun t rest => (until_ + 1 - t.due) + rest) 0

theorem load_place (until_ : Nat) (t : Timer τ) (ts : List (Timer τ)) :
    load until_ (place t ts) = (until_ + 1 - t.due) + load until_ ts := by
  induction ts with
  | nil => simp [place, load]
  | cons u us ih =>
    unfold place
    split
    · simp only [load, List.foldr_cons] at ih ⊢; omega
    · simp [load]

theorem load_afterRing {until_ : Nat} {t : Timer τ} {rest : List (Timer τ)} (h : t.due ≤ until_) :
    load until_ (afterRing t rest) < load until_ (t :: rest) := by
  have e : load until_ (t :: rest) = (until_ + 1 - t.due) + load until_ rest := by simp [load]
  rw [e]
  unfold afterRing
  split
  · omega
  · rw [load_place]; dsimp only; omega

/-- Rings all alarms until a time, and says what becomes of whatever they act on. -/
def ringUntil (ring : τ → σ → σ) (until_ : Nat) (ts : List (Timer τ)) (s : σ) :
    List (Timer τ) × σ :=
  match ts with
  | [] => ([], s)
  | t :: rest =>
    if t.due ≤ until_ then ringUntil ring until_ (afterRing t rest) (ring t.tag s) else (t :: rest, s)
termination_by load until_ ts
decreasing_by exact load_afterRing ‹_›

/-- Lets a span of time pass. -/
def elapse (ring : τ → σ → σ) (c : Clock τ) (span : Nat) (s : σ) : Clock τ × σ :=
  let r := ringUntil ring (c.now + span) c.timers s
  (⟨c.now + span, r.1⟩, r.2)

end Clock

/-! ## The signal to stop -/

/-- How often the signal to stop was given. -/
structure Shutdown where
  given : Nat := 0
deriving DecidableEq, Repr, Inhabited

/-- One who listens, and how often the signal had been given when the listening began. -/
structure Listener where
  before : Nat
deriving DecidableEq, Repr, Inhabited

namespace Shutdown

/-- Gives the signal. -/
def give (s : Shutdown) : Shutdown := ⟨s.given + 1⟩

/-- The signal was given at some time. -/
def isGiven (s : Shutdown) : Bool := 0 < s.given

/-- Begins to listen. -/
def listen (s : Shutdown) : Listener := ⟨s.given⟩

/-- The listener hears the signal. -/
def heard (s : Shutdown) (l : Listener) : Bool := l.before < s.given

end Shutdown

end ScrapeFleet.Watch
