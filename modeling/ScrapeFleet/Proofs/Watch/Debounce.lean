/-
# ScrapeFleet.Proofs.Watch.Debounce — events are rare, and each one tells of a change

Around an outlet its sender, whoever marks changes, the consumer and whoever gives the signal to stop act in
any order, while time passes. A turn of the sender is three acts and others may act in between, but the
sender waits for nothing there, so that no time passes until its turn is over. It begins its turns at least an
interval apart (`Paced.step`). A run is a list of acts, and an act that cannot happen in a state leaves it as
it is, as in `ScrapeFleet.Proofs.Watch.Scene`; what happens is written down with its time.

Two things keep events apart. The sender sends within a turn, and a turn sends once, so events are as far from
one another as turns (`Paced.Spaced`). And what a turn takes is a mark: the mark is gone when it is taken, and
comes back without a new change only where no event was sent (`Paced.Covered`). The sleep of a live outlet is
such a run (`Paced.StandsFor.sleep`), so this is said of what its clock does as well.
-/
import Mathlib.Data.List.Basic
import ScrapeFleet.Watch.Watcher

namespace ScrapeFleet.Watch

/-! ## Acts in time -/

/-- What is written down of a run. -/
inductive Note where
  /-- Somebody else than the sender marks a change. -/
  | marked
  /-- The sender takes a change. -/
  | taken
  /-- The channel accepts an event. -/
  | sent
deriving DecidableEq, Repr

/-- An outlet among the parties that act on it, while time passes. -/
structure Paced where
  outlet : Outlet
  shutdown : Shutdown := {}
  now : Nat := 0
  /-- The sender does not begin a turn before this time. -/
  next : Nat := 0
  /-- What happened and when, the newest first. -/
  log : List (Nat × Note) := []

/-- A sender has begun a turn and not ended it. -/
@[simp]
def Sender.inTurn : Sender → Bool
  | .holding _ | .refused _ => true
  | .notStarted | .waiting _ | .stopped => false

/-- A turn ends, whatever becomes of its event. -/
theorem Outlet.inTurn_turn {o : Outlet} (h : o.sender.inTurn = false) : o.turn.sender.inTurn = false := by
  unfold turn
  cases hsender : o.sender with
  | holding l | refused l => simp [hsender] at h
  | notStarted | stopped => simp [tick, send, rearm, hsender]
  | waiting l =>
    cases hpending : o.notifier.pending with
    | false => simp [tick, Notifier.take, send, rearm, hsender, hpending]
    | true =>
      rcases hsent : o.channel.send { watcher := o.watcher } with ⟨c, accepted | full | closed⟩ <;>
        simp [tick, Notifier.take, send, rearm, hsender, hpending, hsent]

namespace Paced

/-- What may happen next. -/
inductive Act where
  /-- Somebody marks a change. -/
  | notify
  | start
  | tick
  | send
  | rearm
  /-- The sender hears the signal to stop. -/
  | hear
  | close
  | receive
  /-- The consumer goes for good. -/
  | leave
  /-- Time passes. -/
  | pass (span : Nat)
deriving DecidableEq, Repr

/-- Writes something down. -/
def noting (s : Paced) (n : Note) : Paced := { s with log := (s.now, n) :: s.log }

/-- Replaces the outlet. -/
def onOutlet (s : Paced) (f : Outlet → Outlet) : Paced := { s with outlet := f s.outlet }

/-- The state after an act, where turns begin at least an interval apart. -/
def step (interval : Nat) (s : Paced) : Act → Paced
  | .notify => (s.onOutlet (·.notify)).noting .marked
  | .start => if s.outlet.sender = .notStarted then s.onOutlet (·.start s.shutdown) else s
  | .tick =>
    match s.outlet.sender with
    | .waiting _ =>
      if s.next ≤ s.now then
        let s' := { s.onOutlet (·.tick) with next := s.now + interval }
        if s.outlet.notifier.pending then s'.noting .taken else s'
      else s
    | _ => s
  | .send =>
    match s.outlet.sender, (s.outlet.channel.send { watcher := s.outlet.watcher }).2 with
    | .holding _, .accepted => (s.onOutlet (·.send)).noting .sent
    | _, _ => s.onOutlet (·.send)
  | .rearm => s.onOutlet (·.rearm)
  | .hear => s.onOutlet (·.hear s.shutdown)
  | .close => { s with shutdown := s.shutdown.give }
  | .receive => s.onOutlet (·.receive.1)
  | .leave => s.onOutlet fun o => { o with channel := o.channel.drop }
  | .pass span => if s.outlet.sender.inTurn then s else { s with now := s.now + span }

/-- The state after a run. -/
def run (interval : Nat) (s : Paced) (acts : List Act) : Paced := acts.foldl (step interval) s

/-- An outlet to which nothing has happened, though events may wait in its channel. -/
def fresh (watcher : String) (channel : Channel) : Paced :=
  { outlet := { watcher := watcher, channel := channel } }

/-- The times at which events were sent, the newest first. -/
def sentTimes (s : Paced) : List Nat := (s.log.filter (·.2 = .sent)).map (·.1)

/-! ## What one act does -/

variable {interval : Nat} {s : Paced}

/-- A sender that has taken no change sends nothing. One that has sends its event, or finds the channel full,
or finds that nobody receives. -/
theorem step_send (interval : Nat) (s : Paced) :
    (∀ l, s.outlet.sender ≠ .holding l) ∧ s.step interval .send = s ∨
      ∃ l, s.outlet.sender = .holding l ∧
        ((∃ c, s.step interval .send =
            (s.onOutlet ({ · with channel := c, sender := .waiting l })).noting .sent) ∨
          s.step interval .send = s.onOutlet ({ · with sender := .refused l }) ∨
          s.step interval .send = s.onOutlet ({ · with sender := .stopped })) := by
  cases hsender : s.outlet.sender with
  | holding l =>
    refine .inr ⟨l, rfl, ?_⟩
    rcases hsent : s.outlet.channel.send { watcher := s.outlet.watcher } with ⟨c, accepted | full | closed⟩
    · exact .inl ⟨c, by simp only [step, onOutlet, Outlet.send, hsender, hsent]⟩
    · exact .inr (.inl (by simp only [step, onOutlet, Outlet.send, hsender, hsent]))
    · exact .inr (.inr (by simp only [step, onOutlet, Outlet.send, hsender, hsent]))
  | notStarted | waiting l | refused l | stopped =>
    refine .inl ⟨fun _ h => (nomatch h), ?_⟩
    simp only [step, onOutlet, Outlet.send, hsender]

/-- A sender that waits, and for which it is time, takes the change if there is one. Nobody else takes any. -/
theorem step_tick (interval : Nat) (s : Paced) :
    s.step interval .tick = s ∨
      ∃ l, s.outlet.sender = .waiting l ∧ s.next ≤ s.now ∧
        (s.outlet.notifier.pending = false ∧ s.step interval .tick = { s with next := s.now + interval } ∨
          s.outlet.notifier.pending = true ∧
            s.step interval .tick =
              ({ s.onOutlet ({ · with notifier := ⟨false⟩, sender := .holding l }) with
                next := s.now + interval } : Paced).noting .taken) := by
  cases hsender : s.outlet.sender with
  | waiting l =>
    by_cases htime : s.next ≤ s.now
    · refine .inr ⟨l, rfl, htime, ?_⟩
      cases hpending : s.outlet.notifier.pending with
      | false =>
        have houtlet : s.outlet.tick = s.outlet := by
          rcases s with ⟨⟨watcher, ⟨pending⟩, channel, sender⟩, shutdown, now, next, log⟩
          simp only at hsender hpending
          subst hsender hpending
          rfl
        refine .inl ⟨rfl, ?_⟩
        simp only [step, hsender, if_pos htime, hpending, onOutlet, houtlet]
        rfl
      | true =>
        refine .inr ⟨rfl, ?_⟩
        simp only [step, hsender, if_pos htime, hpending, onOutlet, Outlet.tick, Notifier.take]
        rfl
    · exact .inl (by simp only [step, hsender, if_neg htime])
  | notStarted | holding l | refused l | stopped => exact .inl (by simp only [step, hsender])

/-! ## Events are as far apart as turns -/

/-- The earliest time at which the sender can send its next event. -/
def earliest (s : Paced) : Nat :=
  match s.outlet.sender with
  | .holding _ => s.now
  | .notStarted | .waiting _ | .refused _ | .stopped => s.next

theorem earliest_of_between (h : s.outlet.sender.inTurn = false) : s.earliest = s.next := by
  unfold earliest
  split
  · rename_i hsender
    simp [hsender] at h
  all_goals rfl

/-- Events were sent at least an interval apart, and so will be the next one. -/
structure Spaced (interval : Nat) (s : Paced) : Prop where
  turn : s.outlet.sender.inTurn = true → s.next = s.now + interval
  apart : s.sentTimes.Pairwise fun later earlier => earlier + interval ≤ later
  ahead : ∀ t ∈ s.sentTimes, t + interval ≤ s.earliest

namespace Spaced

variable {s' : Paced}

/-- What leaves the sender and its times alone sends nothing. -/
theorem frame (h : s.Spaced interval) (hsender : s'.outlet.sender = s.outlet.sender)
    (hnow : s'.now = s.now) (hnext : s'.next = s.next) (hsent : s'.sentTimes = s.sentTimes) :
    s'.Spaced interval where
  turn := by
    rw [hnow, hnext, hsender]
    exact h.turn
  apart := hsent ▸ h.apart
  ahead := by
    unfold earliest
    rw [hsent, hsender, hnow, hnext]
    exact h.ahead

/-- A sender that is not in its turn after an act may begin the next one no earlier than before. -/
theorem idle (h : s.Spaced interval) (hturn : s'.outlet.sender.inTurn = false) (hnext : s.earliest ≤ s'.next)
    (hsent : s'.sentTimes = s.sentTimes) : s'.Spaced interval where
  turn h' := by
    rw [hturn] at h'
    cases h'
  apart := hsent ▸ h.apart
  ahead t ht := by
    have hle := h.ahead t (hsent ▸ ht)
    have hearliest := earliest_of_between hturn
    omega

theorem tick (h : s.Spaced interval) : (s.step interval .tick).Spaced interval := by
  rcases step_tick interval s with hstep | ⟨l, hsender, htime, ⟨_, hstep⟩ | ⟨_, hstep⟩⟩
  · rw [hstep]
    exact h
  · rw [hstep]
    refine h.idle (by simp [hsender]) ?_ rfl
    simp only [earliest, hsender]
    omega
  · rw [hstep]
    refine ⟨fun _ => rfl, h.apart, fun t ht => ?_⟩
    have hle := h.ahead t ht
    simp only [earliest, hsender] at hle
    exact Nat.le_trans hle htime

/-- While the sender holds a change its turn has just begun, an interval after every event. -/
theorem holding (h : s.Spaced interval) {l : Listener} (hsender : s.outlet.sender = .holding l) :
    s.next = s.now + interval ∧ ∀ t ∈ s.sentTimes, t + interval ≤ s.now := by
  refine ⟨h.turn (by simp [hsender]), fun t ht => ?_⟩
  have hle := h.ahead t ht
  simpa only [earliest, hsender] using hle

theorem send (h : s.Spaced interval) : (s.step interval .send).Spaced interval := by
  rcases step_send interval s with ⟨_, hstep⟩ | ⟨l, hsender, ⟨c, hstep⟩ | hstep | hstep⟩
  · rw [hstep]
    exact h
  · obtain ⟨hnext, hahead⟩ := h.holding hsender
    rw [hstep]
    refine ⟨Bool.noConfusion, List.pairwise_cons.2 ⟨hahead, h.apart⟩, ?_⟩
    refine List.forall_mem_cons.2 ⟨Nat.le_of_eq hnext.symm, fun t ht => ?_⟩
    have hle := hahead t ht
    show t + interval ≤ s.next
    omega
  · obtain ⟨hnext, hahead⟩ := h.holding hsender
    rw [hstep]
    refine ⟨fun _ => hnext, h.apart, fun t ht => ?_⟩
    have hle := hahead t ht
    show t + interval ≤ s.next
    omega
  · obtain ⟨hnext, -⟩ := h.holding hsender
    rw [hstep]
    refine h.idle rfl ?_ rfl
    simp only [earliest, hsender]
    exact hnext ▸ Nat.le_add_right _ _

theorem step (h : s.Spaced interval) (a : Act) : (s.step interval a).Spaced interval := by
  cases a with
  | notify | close | receive | leave => exact h.frame rfl rfl rfl rfl
  | start =>
    simp only [Paced.step]
    split
    · rename_i hsender
      exact h.idle rfl (Nat.le_of_eq (by simp [earliest, hsender, onOutlet])) rfl
    · exact h
  | tick => exact h.tick
  | send => exact h.send
  | rearm =>
    simp only [Paced.step, onOutlet, Outlet.rearm]
    split
    · rename_i l hsender
      exact h.idle rfl (Nat.le_of_eq (by simp [earliest, hsender])) rfl
    · exact h
  | hear =>
    simp only [Paced.step, onOutlet, Outlet.hear]
    split
    · rename_i l hsender
      split
      · exact h.idle rfl (Nat.le_of_eq (by simp [earliest, hsender])) rfl
      · exact h
    · exact h
  | pass span =>
    -- no time passes while the sender holds a change
    simp only [Paced.step]
    split
    · exact h
    · rename_i hturn
      have hturn : s.outlet.sender.inTurn = false := Bool.eq_false_iff.2 hturn
      exact h.idle hturn (Nat.le_of_eq (earliest_of_between hturn)) rfl

theorem run (h : s.Spaced interval) (acts : List Act) : (s.run interval acts).Spaced interval := by
  induction acts generalizing s with
  | nil => exact h
  | cons a acts ih => exact ih (h.step a)

end Spaced

/-- Times that are at least an interval apart: no two of them lie in a shorter window. -/
theorem window_le_one {times : List Nat}
    (h : times.Pairwise fun later earlier => earlier + interval ≤ later) {begins ends : Nat}
    (hwindow : ends < begins + interval) :
    (times.filter fun t => begins ≤ t ∧ t ≤ ends).length ≤ 1 := by
  have hapart := h.filter fun t => begins ≤ t ∧ t ≤ ends
  have hmem : ∀ t ∈ times.filter fun t => begins ≤ t ∧ t ≤ ends, begins ≤ t ∧ t ≤ ends := by
    intro t ht
    simpa using (List.mem_filter.1 ht).2
  match times.filter fun t => begins ≤ t ∧ t ≤ ends, hapart, hmem with
  | [], _, _ => exact Nat.zero_le 1
  | [t], _, _ => exact Nat.le_refl 1
  | later :: earlier :: rest, hapart, hmem =>
    have hgap := (List.pairwise_cons.1 hapart).1 earlier List.mem_cons_self
    have hlater := hmem later List.mem_cons_self
    have hearlier := hmem earlier (List.mem_cons_of_mem _ List.mem_cons_self)
    omega

/-! ## Every event tells of a change -/

/-- What is written down, without the times. -/
def notes (s : Paced) : List Note := s.log.map (·.2)

/-- No change that was taken among these notes led to an event among them. -/
def Barren (notes : List Note) : Prop := ∀ a b, notes = a ++ .taken :: b → Note.sent ∉ a

/-- A change was marked, and none that was taken since led to an event. -/
def Untold (notes : List Note) : Prop :=
  ∃ later earlier, notes = later ++ .marked :: earlier ∧ Barren later

/-- A change was marked since the sender last took one. -/
def Remarked (notes : List Note) : Prop :=
  ∃ later earlier, notes = later ++ .marked :: earlier ∧ Note.taken ∉ later

/-- A change was marked and taken, and none that was taken since it was marked led to an event. -/
def Owed (notes : List Note) : Prop :=
  ∃ later earlier, notes = later ++ .marked :: earlier ∧ Note.taken ∈ later ∧ Barren later

section Notes

variable {notes : List Note} {n : Note}

theorem Barren.cons (h : Barren notes) (hn : n ≠ .sent) : Barren (n :: notes) := by
  intro a b hsplit
  cases a with
  | nil => exact List.not_mem_nil
  | cons x a =>
    obtain ⟨rfl, hrest⟩ := List.cons.inj hsplit
    exact List.not_mem_cons_of_ne_of_not_mem (Ne.symm hn) (h a b hrest)

theorem remarked_marked (notes : List Note) : Remarked (.marked :: notes) :=
  ⟨[], notes, rfl, List.not_mem_nil⟩

theorem Remarked.sent (h : Remarked notes) : Remarked (.sent :: notes) := by
  obtain ⟨later, earlier, rfl, hlater⟩ := h
  exact ⟨.sent :: later, earlier, rfl, List.not_mem_cons_of_ne_of_not_mem Note.noConfusion hlater⟩

theorem Remarked.untold (h : Remarked notes) : Untold notes := by
  obtain ⟨later, earlier, rfl, hlater⟩ := h
  refine ⟨later, earlier, rfl, ?_⟩
  rintro a b rfl
  exact absurd (List.mem_append_right a List.mem_cons_self) hlater

/-- The sender takes the change. -/
theorem Untold.taken (h : Untold notes) : Owed (.taken :: notes) := by
  obtain ⟨later, earlier, rfl, hlater⟩ := h
  exact ⟨.taken :: later, earlier, rfl, List.mem_cons_self, hlater.cons Note.noConfusion⟩

theorem Owed.marked (h : Owed notes) : Owed (.marked :: notes) := by
  obtain ⟨later, earlier, rfl, htaken, hlater⟩ := h
  exact ⟨.marked :: later, earlier, rfl, List.mem_cons_of_mem _ htaken, hlater.cons Note.noConfusion⟩

theorem Owed.untold (h : Owed notes) : Untold notes := by
  obtain ⟨later, earlier, hnotes, _, hlater⟩ := h
  exact ⟨later, earlier, hnotes, hlater⟩

end Notes

/-- The mark is that of an untold change, and so is what the sender holds. A mark beside a change that the
sender holds is of another change. -/
structure Covered (s : Paced) : Prop where
  mark : s.outlet.notifier.pending = true → Untold s.notes
  remark : s.outlet.notifier.pending = true → ∀ l, s.outlet.sender = .holding l → Remarked s.notes
  turn : s.outlet.sender.inTurn = true → Owed s.notes
  /-- The sender held such a change whenever it sent. -/
  events : ∀ after t before, s.log = after ++ (t, .sent) :: before → Owed (before.map (·.2))

namespace Covered

variable {s' : Paced}

/-- What leaves the mark and the sender alone and writes nothing down matters to no change. -/
theorem frame (h : s.Covered) (hmark : s'.outlet.notifier = s.outlet.notifier)
    (hsender : s'.outlet.sender = s.outlet.sender) (hlog : s'.log = s.log) : s'.Covered where
  mark := by
    unfold notes
    rw [hmark, hlog]
    exact h.mark
  remark := by
    unfold notes
    rw [hmark, hsender, hlog]
    exact h.remark
  turn := by
    unfold notes
    rw [hsender, hlog]
    exact h.turn
  events := hlog ▸ h.events

/-- Nor does what ends the turn of the sender, or begins its waiting. -/
theorem idle (h : s.Covered) (hturn : s'.outlet.sender.inTurn = false)
    (hmark : s'.outlet.notifier.pending = true → Untold s.notes) (hlog : s'.log = s.log) : s'.Covered where
  mark := by
    unfold notes
    rw [hlog]
    exact hmark
  remark _ l hl := by simp [hl] at hturn
  turn h' := by
    rw [hturn] at h'
    cases h'
  events := hlog ▸ h.events

/-- What is written down next is no event, or one that tells of a change. -/
theorem events_cons (h : s.Covered) {time : Nat} {n : Note} (hn : n = .sent → Owed s.notes) :
    ∀ after t before, (time, n) :: s.log = after ++ (t, .sent) :: before → Owed (before.map (·.2)) := by
  intro after t before hlog
  cases after with
  | nil =>
    obtain ⟨hnote, rfl⟩ := List.cons.inj hlog
    exact hn (congrArg Prod.snd hnote)
  | cons e after => exact h.events after t before (List.cons.inj hlog).2

theorem notify (h : s.Covered) : ((s.onOutlet (·.notify)).noting .marked).Covered where
  mark _ := (remarked_marked _).untold
  remark _ _ _ := remarked_marked _
  turn hturn := (h.turn hturn).marked
  events := h.events_cons Note.noConfusion

theorem tick (h : s.Covered) : (s.step interval .tick).Covered := by
  rcases step_tick interval s with hstep | ⟨l, hsender, _, ⟨_, hstep⟩ | ⟨hpending, hstep⟩⟩
  · rw [hstep]
    exact h
  · rw [hstep]
    exact h.frame rfl rfl rfl
  · rw [hstep]
    exact {
      mark := Bool.noConfusion
      remark := Bool.noConfusion
      turn := fun _ => (h.mark hpending).taken
      events := h.events_cons Note.noConfusion }

theorem send (h : s.Covered) : (s.step interval .send).Covered := by
  rcases step_send interval s with ⟨_, hstep⟩ | ⟨l, hsender, ⟨c, hstep⟩ | hstep | hstep⟩
  · rw [hstep]
    exact h
  · -- what the sender held is told of now, so the mark has to be of another change
    have howed : Owed s.notes := h.turn (by simp [hsender])
    rw [hstep]
    exact {
      mark := fun hpending => (h.remark hpending l hsender).sent.untold
      remark := fun _ _ => Sender.noConfusion
      turn := Bool.noConfusion
      events := h.events_cons fun _ => howed }
  · have howed : Owed s.notes := h.turn (by simp [hsender])
    rw [hstep]
    exact {
      mark := h.mark
      remark := fun _ _ => Sender.noConfusion
      turn := fun _ => howed
      events := h.events }
  · rw [hstep]
    exact h.idle rfl h.mark rfl

theorem step (h : s.Covered) (a : Act) : (s.step interval a).Covered := by
  cases a with
  | notify => exact h.notify
  | close | receive | leave => exact h.frame rfl rfl rfl
  | start =>
    simp only [Paced.step]
    split
    · exact h.idle rfl h.mark rfl
    · exact h
  | tick => exact h.tick
  | send => exact h.send
  | rearm =>
    simp only [Paced.step, onOutlet, Outlet.rearm]
    split
    · rename_i l hsender
      -- the change that could not be told of is marked again
      exact h.idle rfl (fun _ => (h.turn (by simp [hsender])).untold) rfl
    · exact h
  | hear =>
    simp only [Paced.step, onOutlet, Outlet.hear]
    split
    · split
      · exact h.idle rfl h.mark rfl
      · exact h
    · exact h
  | pass span =>
    simp only [Paced.step]
    split
    · exact h
    · exact h.frame rfl rfl rfl

theorem run (h : s.Covered) (acts : List Act) : (s.run interval acts).Covered := by
  induction acts generalizing s with
  | nil => exact h
  | cons a acts ih => exact ih (h.step a)

end Covered

/-! ## A full channel -/

/-- Until it marks the change again, nothing else can be done by a sender whose event was refused, or to it. -/
theorem step_refused (interval : Nat) {l : Listener} {a : Act} (h : s.outlet.sender = .refused l)
    (ha : a ≠ .rearm) :
    (s.step interval a).outlet.sender = .refused l ∧ (s.step interval a).sentTimes = s.sentTimes := by
  cases a with
  | rearm => exact absurd rfl ha
  | notify | close | receive | leave => exact ⟨h, rfl⟩
  | start | tick | send | hear | pass span =>
    simp [step, onOutlet, Outlet.send, Outlet.hear, h]

theorem run_refused (interval : Nat) {l : Listener} {acts : List Act} (h : s.outlet.sender = .refused l)
    (hacts : .rearm ∉ acts) :
    (s.run interval acts).outlet.sender = .refused l ∧ (s.run interval acts).sentTimes = s.sentTimes := by
  induction acts generalizing s with
  | nil => exact ⟨h, rfl⟩
  | cons a acts ih =>
    obtain ⟨hsender, hsent⟩ := step_refused interval h (List.ne_of_not_mem_cons hacts).symm
    obtain ⟨hsender', hsent'⟩ := ih hsender (List.not_mem_of_not_mem_cons hacts)
    exact ⟨hsender', hsent'.trans hsent⟩

/-- Then it marks the change again, and its turn is over. -/
theorem rearm_refused {l : Listener} (h : s.outlet.sender = .refused l) :
    s.step interval .rearm = s.onOutlet fun o => { o.notify with sender := .waiting l } := by
  simp only [step, onOutlet, Outlet.rearm, h]

/-- A sender whose event a full channel refuses sends nothing, and when its turn is over the change is
marked. -/
theorem send_full {l : Listener} (hsender : s.outlet.sender = .holding l)
    (hreceived : s.outlet.channel.received = true)
    (hfull : s.outlet.channel.capacity ≤ s.outlet.channel.events.length) :
    s.step interval .send = s.onOutlet ({ · with sender := .refused l }) ∧
      ∀ others, .rearm ∉ others →
        let s' := ((s.step interval .send).run interval others).step interval .rearm
        s'.outlet.notifier.pending = true ∧ s'.outlet.sender = .waiting l ∧ s'.sentTimes = s.sentTimes := by
  have hsend : s.step interval .send = s.onOutlet ({ · with sender := .refused l }) := by
    simp [step, onOutlet, Outlet.send, Channel.send, hsender, hreceived, hfull]
  refine ⟨hsend, fun others hothers => ?_⟩
  rw [hsend]
  have hrefused : (s.onOutlet ({ · with sender := .refused l })).outlet.sender = .refused l := rfl
  obtain ⟨hstays, hsent⟩ := run_refused interval hrefused hothers
  rw [rearm_refused hstays]
  exact ⟨rfl, rfl, hsent⟩

/-! ## The clock of a live outlet -/

/-- A turn of the sender. -/
def turn : List Act := [.tick, .send, .rearm]

theorem run_append (interval : Nat) (s : Paced) (acts more : List Act) :
    s.run interval (acts ++ more) = (s.run interval acts).run interval more :=
  List.foldl_append

theorem outlet_tick (htime : s.next ≤ s.now) : (s.step interval .tick).outlet = s.outlet.tick := by
  rcases hsender : s.outlet.sender with _ | l | l | l | _
  case waiting =>
    simp only [step, hsender, if_pos htime]
    split <;> rfl
  all_goals simp only [step, Outlet.tick, hsender]

theorem outlet_send (interval : Nat) (s : Paced) : (s.step interval .send).outlet = s.outlet.send := by
  simp only [step]
  split <;> rfl

/-- Where it is time, the three acts are the turn of the outlet, and they take no time. -/
theorem run_turn (interval : Nat) (htime : s.next ≤ s.now) :
    (s.run interval turn).outlet = s.outlet.turn ∧ (s.run interval turn).now = s.now ∧
      (s.run interval turn).next ≤ s.now + interval := by
  have hsend : ∀ x : Paced, (x.step interval .send).now = x.now ∧ (x.step interval .send).next = x.next := by
    intro x
    simp only [step]
    split <;> exact ⟨rfl, rfl⟩
  have htick : (s.step interval .tick).now = s.now ∧ (s.step interval .tick).next ≤ s.now + interval := by
    rcases step_tick interval s with hstep | ⟨l, _, _, ⟨_, hstep⟩ | ⟨_, hstep⟩⟩ <;> rw [hstep]
    · exact ⟨rfl, Nat.le_trans htime (Nat.le_add_right _ _)⟩
    · exact ⟨rfl, Nat.le_refl _⟩
    · exact ⟨rfl, Nat.le_refl _⟩
  have houtlet : (s.run interval turn).outlet = s.outlet.turn := by
    calc (s.run interval turn).outlet = ((s.step interval .tick).step interval .send).outlet.rearm := rfl
      _ = (s.step interval .tick).outlet.send.rearm := by rw [outlet_send]
      _ = s.outlet.turn := by rw [outlet_tick htime]; rfl
  refine ⟨houtlet, (hsend _).1.trans htick.1, ?_⟩
  rw [← (hsend _).2] at htick
  exact htick.2

/-- A live outlet whose sender turns at this interval, and is between two turns. -/
structure StandsFor (interval : Nat) (s : Paced) (l : LiveOutlet) : Prop where
  outlet : s.outlet = l.outlet
  now : s.now = l.clock.now
  between : s.outlet.sender.inTurn = false
  alarm : ∃ due, l.clock.timers = [⟨due, interval, ()⟩] ∧ l.clock.now ≤ due ∧ s.next ≤ due

namespace StandsFor

variable {l : LiveOutlet}

theorem step_pass {until_ : Nat} (hbetween : s.outlet.sender.inTurn = false) (hnow : s.now ≤ until_) :
    s.step interval (.pass (until_ - s.now)) = { s with now := until_ } := by
  simp only [step, hbetween, Nat.add_sub_cancel' hnow]
  rfl

/-- The alarms that ring until a time are turns of the sender, and time passes in between. -/
theorem exists_run_ring (hinterval : 0 < interval) (until_ due : Nat) (s : Paced)
    (hbetween : s.outlet.sender.inTurn = false) (hnow : s.now ≤ due) (hnext : s.next ≤ due)
    (huntil : s.now ≤ until_) :
    ∃ acts due', Clock.ringUntil (fun _ => Outlet.turn) until_ [⟨due, interval, ()⟩] s.outlet =
        ([⟨due', interval, ()⟩], (s.run interval acts).outlet) ∧
      (s.run interval acts).now = until_ ∧ (s.run interval acts).outlet.sender.inTurn = false ∧
      until_ ≤ due' ∧ (s.run interval acts).next ≤ due' := by
  rw [Clock.ringUntil]
  by_cases hdue : due ≤ until_
  · -- the alarm rings when it is due, and is set again for an interval later
    obtain ⟨houtlet, hnow', hnext'⟩ := run_turn (s := { s with now := due }) interval hnext
    have hbetween' := Outlet.inTurn_turn hbetween
    rw [← houtlet] at hbetween'
    obtain ⟨acts, due', hring, hrest⟩ := exists_run_ring hinterval until_
      (due + interval) _ hbetween' (hnow' ▸ Nat.le_add_right _ _) hnext' (hnow' ▸ hdue)
    have hrun : s.run interval (.pass (due - s.now) :: (turn ++ acts)) =
        (({ s with now := due } : Paced).run interval turn).run interval acts := by
      rw [← run_append, ← step_pass hbetween hnow]
      rfl
    refine ⟨.pass (due - s.now) :: (turn ++ acts), due', ?_, hrun ▸ hrest⟩
    rw [hrun, ← hring, if_pos hdue, Clock.afterRing, if_neg (Nat.ne_of_gt hinterval), houtlet]
    rfl
  · refine ⟨[.pass (until_ - s.now)], due, ?_⟩
    rw [run, List.foldl_cons, step_pass hbetween huntil, if_neg hdue]
    exact ⟨rfl, rfl, hbetween, Nat.le_of_not_le hdue, hnext⟩
termination_by until_ + 1 - due

/-- A live outlet that sleeps runs. -/
theorem sleep (h : StandsFor interval s l) (hinterval : 0 < interval) (ms : Nat) :
    ∃ acts, StandsFor interval (s.run interval acts) (l.sleep ms) := by
  obtain ⟨due, htimers, hdue, hnext⟩ := h.alarm
  obtain ⟨acts, due', hring, hnow', hbetween', hdue', hnext'⟩ := exists_run_ring hinterval
    (s.now + ms) due s h.between (h.now ▸ hdue) hnext (Nat.le_add_right _ _)
  have hsleep : l.sleep ms =
      { outlet := (s.run interval acts).outlet, clock := ⟨s.now + ms, [⟨due', interval, ()⟩]⟩ } := by
    simp only [LiveOutlet.sleep, Clock.elapse, htimers, ← h.now, ← h.outlet, hring]
  rw [hsleep]
  exact ⟨acts, rfl, hnow', hbetween', due', rfl, hdue', hnext'⟩

/-- So does one that starts. -/
theorem start (hinterval : 0 < interval) (watcher : String) (channel : Channel) :
    StandsFor interval ((fresh watcher channel).run interval (.start :: turn))
      (LiveOutlet.start { watcher := watcher, channel := channel } interval) := by
  obtain ⟨houtlet, hnow, hnext⟩ := run_turn
    (s := (fresh watcher channel).step interval .start) interval (Nat.le_refl _)
  have hlive : LiveOutlet.start { watcher := watcher, channel := channel } interval =
      { outlet := (((fresh watcher channel).step interval .start).run interval turn).outlet
        clock := ⟨0, [⟨interval, interval, ()⟩]⟩ } := by
    rw [houtlet, LiveOutlet.start, if_neg (Nat.ne_of_gt hinterval)]
    simp [Clock.set, Clock.place]
    rfl
  have hbetween : (Outlet.start { watcher := watcher, channel := channel } {}).sender.inTurn = false := rfl
  rw [hlive]
  exact ⟨rfl, hnow, houtlet ▸ Outlet.inTurn_turn hbetween, interval, rfl, Nat.zero_le _,
    Nat.le_trans hnext (Nat.le_of_eq (Nat.zero_add _))⟩

end StandsFor

/-! ## The main result -/

/-- However short the time between events is set, a watcher lets its sender turn every five seconds at most. -/
theorem sender_alarm {w : Watcher} {a : Alarm Occasion} (h : a ∈ w.serveIfSynced.2) :
    a = { delay := a.period, period := w.settings.effectiveEventInterval.millis, tag := .sender } ∧
      5000 ≤ a.period := by
  unfold Watcher.serveIfSynced at h
  split at h
  · obtain rfl := List.mem_singleton.1 h
    refine ⟨rfl, ?_⟩
    show 5000 ≤ (w.settings.eventInterval.max Settings.minEventInterval).nanos / 1000000
    have hmin : 5000000000 ≤ (w.settings.eventInterval.max Settings.minEventInterval).nanos := by
      unfold Duration.max
      split
      · exact Nat.le_refl _
      · rename_i hle
        exact Nat.le_of_not_lt hle
    omega
  · cases h

/-- **Events are rare, and each one tells of a change.** Whatever happens to a fresh outlet, in any order and at
any times: in a window shorter than the interval at most one event is sent; whenever one is sent, the sender
had taken a change that was marked after it took the one for the event before; and a sender that finds the
channel full sends nothing and leaves the change marked when its turn is over, whatever others do until then.
A watcher sets the interval to five seconds at least. -/
theorem events_are_rare (interval : Nat) (watcher : String) (channel : Channel) (acts : List Act) :
    let s := (fresh watcher channel).run interval acts
    (∀ begins ends, ends < begins + interval →
        (s.sentTimes.filter fun t => begins ≤ t ∧ t ≤ ends).length ≤ 1) ∧
      (∀ after t before, s.log = after ++ (t, .sent) :: before → Owed (before.map (·.2))) ∧
      (∀ l, s.outlet.sender = .holding l → s.outlet.channel.received = true →
        s.outlet.channel.capacity ≤ s.outlet.channel.events.length →
          s.step interval .send = s.onOutlet ({ · with sender := .refused l }) ∧
            ∀ others, .rearm ∉ others →
              let s' := ((s.step interval .send).run interval others).step interval .rearm
              s'.outlet.notifier.pending = true ∧ s'.outlet.sender = .waiting l ∧
                s'.sentTimes = s.sentTimes) ∧
      ∀ (w : Watcher) (a : Alarm Occasion), a ∈ w.serveIfSynced.2 →
        a = { delay := a.period, period := w.settings.effectiveEventInterval.millis, tag := .sender } ∧
          5000 ≤ a.period := by
  intro s
  have hspaced : (fresh watcher channel).Spaced interval :=
    ⟨fun h => (nomatch h), .nil, fun _ h => (nomatch h)⟩
  have hcovered : (fresh watcher channel).Covered := by
    refine ⟨fun h => (nomatch h), fun h => (nomatch h), fun h => (nomatch h), fun after t before h => ?_⟩
    exact absurd h.symm (List.append_ne_nil_of_right_ne_nil after (List.cons_ne_nil _ _))
  refine ⟨fun begins ends h => window_le_one (hspaced.run acts).apart h, (hcovered.run acts).events,
    fun l => send_full, fun w a => sender_alarm⟩

/-- A change is told of at once, and after the interval the sender takes another one. -/
def twoChanges : List Act := [.notify, .start, .tick, .send, .rearm, .notify, .pass 5000, .tick]

/-- Nobody receives, and the channel holds one event: the second change has to wait. -/
theorem events_are_rare_twoChanges :
    let s := (fresh "prometheus-cr" { capacity := 1 }).run 5000 twoChanges
    s.log = [(5000, .taken), (0, .marked), (0, .sent), (0, .taken), (0, .marked)] ∧
      (s.sentTimes.filter fun t => 0 ≤ t ∧ t ≤ 4999).length ≤ 1 ∧ Owed [.taken, .marked] ∧
      ((s.run 5000 [.send, .notify, .receive, .rearm]).outlet.notifier.pending = true ∧
        (s.run 5000 [.send, .notify, .receive, .rearm]).sentTimes = [0]) := by
  obtain ⟨hwindow, hevents, hfull, _⟩ := events_are_rare 5000 "prometheus-cr" { capacity := 1 } twoChanges
  obtain ⟨_, hrearmed⟩ := hfull ⟨0⟩ (by decide) (by decide) (by decide)
  obtain ⟨hpending, _, hsent⟩ := hrearmed [.notify, .receive] (by decide)
  have howed := hevents [(5000, .taken), (0, .marked)] 0 [(0, .taken), (0, .marked)] (by decide)
  exact ⟨by decide, hwindow 0 4999 (by decide), howed, hpending, hsent⟩

end Paced
end ScrapeFleet.Watch
