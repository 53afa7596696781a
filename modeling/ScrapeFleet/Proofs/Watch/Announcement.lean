/-
# ScrapeFleet.Proofs.Watch.Announcement — no change of a monitor is lost

A change of a cache leads to a call (`Informers.described_receive`), and from then on something always
accounts for it (`Scene.Accounts`): the call that is still to be made, the mark, the sender, an event, the
consumer that has the cache still to read, or a load that has read it since. Each act passes the change on
from one of these to the next, or leaves it where it is. The two places where it could be lost are the
turn of the sender, which clears the mark before it sends, and the channel, which may be full; what saves
it is that the sender holds the change in between, and that a full channel has an event in it.
-/
import ScrapeFleet.Proofs.Watch.Scene

namespace ScrapeFleet.Watch

open Cluster (ObjectKey)
open Credential (Answer)

/-! ## What accounts for a change -/

/-- A change is on its way to the consumer, or there is no such way any more. -/
inductive Outlet.Carries (o : Outlet) : Prop
  | pending : o.notifier.pending = true → Outlet.Carries o
  /-- The sender has taken the change and not tried to send an event yet. -/
  | taken (l : Listener) : o.sender = .holding l → Outlet.Carries o
  | sent : o.channel.events ≠ [] → Outlet.Carries o
  | stopped : o.sender = .stopped → Outlet.Carries o
  | left : o.channel.received = false → Outlet.Carries o

/-- The `n`-th call of a kind has still to be made, and it tells of this change. -/
def Scene.Waits (s : Scene) (k : Kind) (c : Change Monitor) (n : Nat) : Prop :=
  ∃ i, (s.calls k)[i]? = some (.monitor c) ∧ s.made k + i = n

/-- Something accounts for the change of which the `n`-th call of a kind tells, when the cache of the
kind had been read so often. -/
inductive Scene.Accounts (k : Kind) (c : Change Monitor) (n reads : Nat) (s : Scene) : Prop
  | waits : s.Waits k c n → Scene.Accounts k c n reads s
  | carried : s.watcher.outlet.Carries → Scene.Accounts k c n reads s
  /-- The consumer has received an event and not read the cache in the load that it led to. -/
  | unread : k ∈ s.consumer.unread → Scene.Accounts k c n reads s
  | read : reads < s.reads k → Scene.Accounts k c n reads s

namespace Outlet.Carries

variable {o : Outlet}

theorem notify (o : Outlet) : o.notify.Carries := .pending rfl

theorem start (h : o.Carries) (hsender : o.sender = .notStarted) (s : Shutdown) :
    (o.start s).Carries := by
  cases h with
  | pending h => exact .pending h
  | sent h => exact .sent h
  | left h => exact .left h
  | taken l h => rw [hsender] at h; cases h
  | stopped h => rw [hsender] at h; cases h

theorem tick (h : o.Carries) : o.tick.Carries := by
  unfold Outlet.tick
  split
  · rename_i l hsender
    cases h with
    -- the mark is cleared and the sender holds the change in one step
    | pending h => exact .taken l (by simp [Notifier.take, h])
    | sent h => exact .sent h
    | left h => exact .left h
    | taken l h => rw [hsender] at h; cases h
    | stopped h => rw [hsender] at h; cases h
  · exact h

/-- An event that is refused leaves the others in the channel, since that is full. -/
theorem send (hcapacity : 0 < o.channel.capacity) (h : o.Carries) : o.send.Carries := by
  unfold Outlet.send
  split
  · rename_i l hsender
    unfold Channel.send
    by_cases hreceived : o.channel.received = false
    · simp only [hreceived]
      exact .stopped rfl
    by_cases hfull : o.channel.capacity ≤ o.channel.events.length
    · have hevents : o.channel.events ≠ [] := by
        intro hnone
        rw [hnone, List.length_nil] at hfull
        omega
      simp only [hreceived, hfull]
      exact .sent hevents
    · simp only [hreceived, hfull]
      exact .sent (by simp)
  · exact h

theorem rearm (h : o.Carries) : o.rearm.Carries := by
  unfold Outlet.rearm
  split
  · exact .pending rfl
  · exact h

theorem hear (h : o.Carries) (s : Shutdown) : (o.hear s).Carries := by
  unfold Outlet.hear
  split
  · split
    · exact .stopped rfl
    · exact h
  · exact h

theorem drop (o : Outlet) : Outlet.Carries { o with channel := o.channel.drop } := .left rfl

end Outlet.Carries

theorem Outlet.capacity_send (o : Outlet) : o.send.channel.capacity = o.channel.capacity := by
  unfold Outlet.send
  split
  · unfold Channel.send
    by_cases hreceived : o.channel.received = false
    · simp [hreceived]
    · by_cases hfull : o.channel.capacity ≤ o.channel.events.length <;> simp [hreceived, hfull]
  · rfl

theorem Outlet.capacity_receive (o : Outlet) : o.receive.1.channel.capacity = o.channel.capacity := by
  cases hevents : o.channel.events <;> simp [Outlet.receive, Channel.receive, hevents]

/-! ## Every act -/

/-- A call changes the outlet by a mark at most. -/
theorem Watcher.outlet_call (w : Watcher) (c : Call) :
    (w.call c).outlet = w.outlet ∨ (w.call c).outlet = w.outlet.notify := by
  have notifyIf (changed : Bool) :
      w.outlet.notifyIf changed = w.outlet ∨ w.outlet.notifyIf changed = w.outlet.notify := by
    cases changed with
    | false => left; simp [Outlet.notifyIf, Notifier.notifyIf]
    | true => right; simp [Outlet.notifyIf, Outlet.notify, Notifier.notifyIf, Notifier.notify]
  cases c with
  | monitor c => exact .inr rfl
  | secret c => exact notifyIf _
  | ns c =>
    cases c with
    | updated old new => exact notifyIf _
    | added new => exact .inl rfl
    | deleted old => exact .inl rfl

theorem Watcher.informers_call (w : Watcher) (c : Call) : (w.call c).informers = w.informers := by
  cases c with
  | monitor c => rfl
  | secret c => rfl
  | ns c => cases c <;> rfl

namespace Scene

variable {s s' : Scene} {k : Kind} {c : Change Monitor} {n reads : Nat}

/-- Calls that have still to be made are not forgotten when others are added behind them. -/
theorem waits_of_idle {k' : Kind} (hidle : (s.calls k').isEmpty = true) (calls : List Call)
    (hcalls : s'.calls = Function.update s.calls k' calls) (hmade : s'.made = s.made)
    (h : s.Waits k c n) : s'.Waits k c n := by
  obtain ⟨i, hi, hn⟩ := h
  have hne : k ≠ k' := by
    rintro rfl
    rw [List.isEmpty_iff.1 hidle] at hi
    cases hi
  refine ⟨i, ?_, ?_⟩
  · rw [hcalls, Function.update_of_ne hne]
    exact hi
  · rw [hmade]
    exact hn

/-- When an informer makes its next call, it is the one in question, or that has still to be made. -/
theorem waits_call {k' : Kind} {c' : Call} {cs : List Call} (hcalls : s.calls k' = c' :: cs)
    (h : s.Waits k c n) : k' = k ∧ c' = .monitor c ∨ (s.step (.call k')).Waits k c n := by
  obtain ⟨i, hi, hn⟩ := h
  by_cases hkey : k' = k
  · subst hkey
    rw [hcalls] at hi
    cases i with
    | zero =>
      rw [List.getElem?_cons_zero] at hi
      exact .inl ⟨rfl, Option.some.inj hi⟩
    | succ i =>
      refine .inr ⟨i, ?_, ?_⟩
      · simp only [step, hcalls, Function.update_self]
        rw [List.getElem?_cons_succ] at hi
        exact hi
      · simp only [step, hcalls, Function.update_self]
        omega
  · refine .inr ⟨i, ?_, ?_⟩
    · simp only [step, hcalls, Function.update_of_ne (Ne.symm hkey)]
      exact hi
    · simp only [step, hcalls, Function.update_of_ne (Ne.symm hkey)]
      exact hn

/-- What was read stays read. -/
theorem reads_countRead (s : Scene) (k' k : Kind) : s.reads k ≤ (s.countRead k').reads k := by
  by_cases hkey : k = k'
  · subst hkey
    simp only [countRead, Function.update_self]
    exact Nat.le_succ _
  · simp only [countRead, Function.update_of_ne hkey]
    exact Nat.le_refl _

namespace Accounts

/-- Whatever accounts for a change still does if nothing of it is lost. -/
theorem frame (h : s.Accounts k c n reads) (hwaits : s.Waits k c n → s'.Waits k c n)
    (hcarries : s.watcher.outlet.Carries → s'.watcher.outlet.Carries)
    (hunread : k ∈ s.consumer.unread → k ∈ s'.consumer.unread ∨ reads < s'.reads k)
    (hreads : s.reads k ≤ s'.reads k) : s'.Accounts k c n reads := by
  cases h with
  | waits h => exact .waits (hwaits h)
  | carried h => exact .carried (hcarries h)
  | unread h =>
    rcases hunread h with h | h
    · exact .unread h
    · exact .read h
  | read h => exact .read (Nat.lt_of_lt_of_le h hreads)

/-- What happens to the outlet alone matters only to a change that the outlet carries. -/
theorem onOutlet (h : s.Accounts k c n reads) {f : Outlet → Outlet}
    (hf : s.watcher.outlet.Carries → (f s.watcher.outlet).Carries) :
    (s.onOutlet f).Accounts k c n reads :=
  h.frame (fun h => h) hf .inl (Nat.le_refl _)

/-- A call is made: it marks the change of which it tells. -/
theorem of_call (h : s.Accounts k c n reads) (k' : Kind) :
    (s.step (.call k')).Accounts k c n reads := by
  cases hcalls : s.calls k' with
  | nil =>
    simp only [Scene.step, hcalls]
    exact h
  | cons c' cs =>
    have houtlet : (s.step (.call k')).watcher = s.watcher.call c' := by
      simp only [Scene.step, hcalls]
    have hconsumer : (s.step (.call k')).consumer = s.consumer := by
      simp only [Scene.step, hcalls]
    have hread : (s.step (.call k')).reads = s.reads := by
      simp only [Scene.step, hcalls]
    cases h with
    | waits h =>
      rcases waits_call hcalls h with ⟨_, rfl⟩ | h
      · -- the call tells of a monitor, which always counts
        refine .carried ?_
        rw [houtlet]
        exact .notify _
      · exact .waits h
    | carried h =>
      refine .carried ?_
      rw [houtlet]
      rcases s.watcher.outlet_call c' with heq | heq
      · rw [heq]
        exact h
      · rw [heq]
        exact .notify _
    | unread h => exact .unread (hconsumer ▸ h)
    | read h => exact .read (hread ▸ h)

/-- The consumer reads a cache: that of the kind in question, or it has that still to read. -/
theorem of_read (hreads : reads ≤ s.reads k) (h : s.Accounts k c n reads) :
    (s.step .read).Accounts k c n reads := by
  simp only [Scene.step]
  split
  · rename_i jobs hconsumer
    refine h.frame (fun h => h) (fun h => h) (fun h => ?_) (Nat.le_refl _)
    rw [hconsumer] at h
    exact .inl h
  · rename_i k' rest jobs hconsumer
    refine h.frame (fun h => h) (fun h => h) (fun h => ?_) (reads_countRead s k' k)
    rw [hconsumer] at h
    rcases List.mem_cons.1 h with rfl | h
    · right
      simp only [countRead, Function.update_self]
      omega
    · exact .inl h
  · exact h

/-- The consumer goes on making jobs, and reads nothing by it. -/
theorem of_proceed (h : s.Accounts k c n reads) (answer : Answer) :
    (s.step (.proceed answer)).Accounts k c n reads := by
  simp only [Scene.step]
  split
  all_goals
    first
    | exact h
    | rename_i hconsumer
      refine h.frame (fun h => h) (fun h => h) (fun h => ?_) (Nat.le_refl _)
      rw [hconsumer] at h
      exact .inl h

/-- Whatever happens next, something accounts for the change. -/
theorem step (hk : k ∈ Kind.monitors) (hcapacity : 0 < s.watcher.outlet.channel.capacity)
    (hreads : reads ≤ s.reads k) (h : s.Accounts k c n reads) (a : Act) :
    (s.step a).Accounts k c n reads := by
  cases a with
  | arrive d =>
    simp only [Scene.step]
    split
    · rename_i hidle
      exact h.frame (waits_of_idle hidle _ rfl rfl) (fun h => h) .inl (Nat.le_refl _)
    · exact h
  | resync k' =>
    simp only [Scene.step]
    split
    · rename_i hidle
      exact h.frame (waits_of_idle hidle _ rfl rfl) (fun h => h) .inl (Nat.le_refl _)
    · exact h
  | call k' => exact h.of_call k'
  | notify => exact h.onOutlet fun _ => .notify _
  | resolve store => exact h.frame (fun h => h) (fun h => h) .inl (Nat.le_refl _)
  | start =>
    simp only [Scene.step]
    split
    · rename_i hsender
      exact h.onOutlet fun h => h.start hsender _
    · exact h
  | tick => exact h.onOutlet fun h => h.tick
  | send => exact h.onOutlet fun h => h.send hcapacity
  | rearm => exact h.onOutlet fun h => h.rearm
  | hear => exact h.onOutlet (f := (·.hear s.watcher.shutdown)) fun h => h.hear _
  | close => exact h.frame (fun h => h) (fun h => h) .inl (Nat.le_refl _)
  | leave =>
    exact h.onOutlet (f := fun o => { o with channel := o.channel.drop }) fun _ => .drop _
  | receive =>
    simp only [Scene.step]
    split
    · -- whatever accounted for the change before, now the consumer has every cache to read
      exact .unread hk
    · exact h
  | read => exact h.of_read hreads
  | proceed answer => exact h.of_proceed answer
  | readApart k' => exact h.frame (fun h => h) (fun h => h) .inl (reads_countRead s k' k)

end Accounts

/-- Nothing changes how much the channel holds. -/
theorem capacity_step (s : Scene) (a : Act) :
    (s.step a).watcher.outlet.channel.capacity = s.watcher.outlet.channel.capacity := by
  cases a with
  | arrive _ | resync _ | start | read | proceed _ =>
    simp only [step]
    split <;> rfl
  | call k =>
    simp only [step]
    split
    · rfl
    · rename_i c cs _
      rcases s.watcher.outlet_call c with heq | heq <;> exact congrArg (·.channel.capacity) heq
  | notify | resolve _ | close | leave | readApart _ => rfl
  | tick => simp only [step, onOutlet, Outlet.tick]; split <;> rfl
  | send => exact s.watcher.outlet.capacity_send
  | rearm => simp only [step, onOutlet, Outlet.rearm]; split <;> rfl
  | hear => simp only [step, onOutlet, Outlet.hear]; split <;> [split <;> rfl; rfl]
  | receive =>
    simp only [step]
    split
    · rename_i outlet _ hreceive
      exact (congrArg (·.1.channel.capacity) hreceive).symm.trans s.watcher.outlet.capacity_receive
    · rfl

/-- What was read stays read. -/
theorem reads_step (s : Scene) (a : Act) (k : Kind) : s.reads k ≤ (s.step a).reads k := by
  cases a with
  | readApart k' => exact reads_countRead s k' k
  | read =>
    simp only [step]
    split
    · exact Nat.le_refl _
    · exact reads_countRead s _ k
    · exact Nat.le_refl _
  | arrive _ | resync _ | call _ | start | receive | proceed _ =>
    simp only [step]
    split <;> exact Nat.le_refl _
  | notify | resolve _ | tick | send | rearm | hear | close | leave => exact Nat.le_refl _

/-- Whatever happens after, something accounts for the change. -/
theorem Accounts.run (hk : k ∈ Kind.monitors) (hcapacity : 0 < s.watcher.outlet.channel.capacity)
    (hreads : reads ≤ s.reads k) (h : s.Accounts k c n reads) (acts : List Act) :
    (s.run acts).Accounts k c n reads := by
  induction acts generalizing s with
  | nil => exact h
  | cons a acts ih =>
    refine ih ?_ ?_ (h.step hk hcapacity hreads a)
    · rw [capacity_step]
      exact hcapacity
    · exact Nat.le_trans hreads (reads_step s a k)

/-- If an act changes what is cached of a kind of monitor, a call that describes the change has to be
made. -/
theorem waits_of_change {a : Act} {id : ObjectKey}
    (h : ((s.step a).watcher.informers.cached k).get? id ≠ (s.watcher.informers.cached k).get? id) :
    ∃ c n, (s.step a).Waits k c n ∧
      c.Describes ((s.watcher.informers.cached k).get? id)
        (((s.step a).watcher.informers.cached k).get? id) := by
  -- only an item that arrives changes a cache
  have quiet (hsame : (s.step a).watcher.informers = s.watcher.informers) : False := by
    rw [hsame] at h
    exact h rfl
  cases a with
  | arrive d =>
    by_cases hidle : (s.calls d.kind).isEmpty = true
    · have hinformers : (s.step (.arrive d)).watcher.informers = (s.watcher.informers.receive d).1 := by
        simp only [step, if_pos hidle]
        rfl
      have hcalls : (s.step (.arrive d)).calls d.kind = (s.watcher.informers.receive d).2.1 := by
        simp only [step, if_pos hidle, Function.update_self]
        rfl
      rw [hinformers] at h ⊢
      obtain ⟨rfl, c, hc, hdescribes⟩ := Informers.described_receive h
      obtain ⟨i, hi⟩ := List.mem_iff_getElem?.1 hc
      exact ⟨c, _, ⟨i, by rw [hcalls]; exact hi, rfl⟩, hdescribes⟩
    · exact (quiet (by simp only [step, if_neg hidle])).elim
  | call k' =>
    refine (quiet ?_).elim
    simp only [step]
    split
    · rfl
    · exact s.watcher.informers_call _
  | resync _ | start | receive | read | proceed _ =>
    refine (quiet ?_).elim
    simp only [step]
    split <;> rfl
  | notify | resolve _ | tick | send | rearm | hear | close | leave | readApart _ =>
    exact (quiet rfl).elim

/-- No change of a monitor is lost. Whatever an act changes in the cache of a kind of monitor, a call that
describes it waits after the act; and whichever call of such a kind waits then, something accounts for the
change of which it tells after every run from there. -/
theorem change_is_accounted (s : Scene) (a : Act)
    (hcapacity : 0 < s.watcher.outlet.channel.capacity) :
    (∀ k id,
      ((s.step a).watcher.informers.cached k).get? id ≠ (s.watcher.informers.cached k).get? id →
        ∃ c n, (s.step a).Waits k c n ∧
          c.Describes ((s.watcher.informers.cached k).get? id)
            (((s.step a).watcher.informers.cached k).get? id)) ∧
      ∀ k ∈ Kind.monitors, ∀ c n, (s.step a).Waits k c n →
        ∀ acts, ((s.step a).run acts).Accounts k c n ((s.step a).reads k) := by
  refine ⟨fun k id h => waits_of_change h, fun k hk c n h acts => ?_⟩
  refine Accounts.run hk ?_ (Nat.le_refl _) (.waits h) acts
  rw [capacity_step]
  exact hcapacity

/-- A watcher that follows one kind, with a channel for one event. -/
def oneKind : Scene where
  watcher := {
    settings := {}
    informers := {
      serviceMonitors := { kind := .serviceMonitor, following := .running ⟨0⟩ }
      podMonitors := .standIn .podMonitor
      probes := .standIn .probe
      scrapeConfigs := .standIn .scrapeConfig
      secrets := .standIn .secret
      namespaces := .standIn .namespace }
    outlet := { watcher := "prometheus-cr", channel := { capacity := 1 }, sender := .waiting ⟨0⟩ } }

/-- A new monitor comes. -/
def arrival : Act :=
  .arrive (.monitor .serviceMonitor (.event (.applied
    { (default : Monitor) with metadata := { name := some "api", namespaceName := some "default" } })))

/-- The new monitor is cached, and something accounts for it ever after. -/
theorem arrival_is_accounted :
    ∃ c n, (oneKind.step arrival).Waits .serviceMonitor c n ∧
      ∀ acts, ((oneKind.step arrival).run acts).Accounts .serviceMonitor c n 0 := by
  have hcapacity : 0 < oneKind.watcher.outlet.channel.capacity := by decide
  obtain ⟨hchange, haccounts⟩ := change_is_accounted oneKind arrival hcapacity
  have hcached : ((oneKind.step arrival).watcher.informers.cached .serviceMonitor).get?
      ("default", "api") ≠ (oneKind.watcher.informers.cached .serviceMonitor).get? ("default", "api") := by
    decide +kernel
  obtain ⟨c, n, hwaits, _⟩ := hchange .serviceMonitor ("default", "api") hcached
  exact ⟨c, n, hwaits, haccounts .serviceMonitor (by decide) c n hwaits⟩

end Scene

end ScrapeFleet.Watch
