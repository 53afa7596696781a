/-
# ScrapeFleet.Proofs.Watch.Tasks — what becomes of the tasks of a watcher

Watching starts a task for each informer and one for the sender. A task begins to listen for the signal to
stop once, when it is its turn, and ends once; `Post` is how it stands to the signal in between. What one
act does to all of them is said in one place (`Lifetime.advances_step`), from which what a run does goes by
induction (`Lifetime.Orderly.run`).
-/
import ScrapeFleet.Proofs.Watch.Announcement
import ScrapeFleet.Proofs.Watch.Lifetime

namespace ScrapeFleet.Watch

open Cluster (Identified)

/-! ## Tasks -/

/-- A task that watching starts. -/
inductive Task where
  | informer (k : Kind)
  | sender
deriving DecidableEq, Repr

/-- How a task stands to the signal. -/
inductive Post where
  /-- It has not begun to listen. -/
  | unbegun
  | listening (l : Listener)
  | over
deriving DecidableEq, Repr

/-- How an informer stands to the signal. -/
def Following.post {α : Type} : Following α → Post
  | .nothing | .waiting _ => .unbegun
  | .running l => .listening l
  | .stopped => .over

/-- How a sender stands to the signal. -/
def Sender.post : Sender → Post
  | .notStarted => .unbegun
  | .waiting l | .holding l | .refused l => .listening l
  | .stopped => .over

/-- How a task stands to the signal. -/
def Watcher.post (w : Watcher) : Task → Post
  | .informer k => w.informers.view (·.following.post) k
  | .sender => w.outlet.sender.post

/-- A task that does not begin stays as it is or ends. -/
def Post.Ends (p q : Post) : Prop := q = p ∨ p ≠ .unbegun ∧ q = .over

namespace Post.Ends

variable {p q r : Post}

theorem refl (p : Post) : p.Ends p := .inl rfl

theorem trans (h : p.Ends q) (h' : q.Ends r) : p.Ends r := by
  obtain rfl | ⟨hp, rfl⟩ := h
  · exact h'
  · obtain rfl | ⟨-, rfl⟩ := h' <;> exact .inr ⟨hp, rfl⟩

end Post.Ends

/-! ## What informers do to their posts -/

namespace Informer

variable {α : Type} {s : Shutdown}

theorem ends_receive [Identified α] (i : Informer α) (item : StreamItem α) :
    i.following.post.Ends (i.receive item).1.following.post := by
  unfold receive
  cases h : i.following with
  | running l =>
    cases item with
    | event e | failed => exact .inl (congrArg Following.post h)
    | ended => exact .inr ⟨Post.noConfusion, rfl⟩
  | waiting items => exact .refl _
  | nothing | stopped => exact .inl (congrArg Following.post h)

theorem post_begin (i : Informer α) :
    (i.begin s).following.post = i.following.post ∨
      i.following.post = .unbegun ∧ (i.begin s).following.post = .listening s.listen := by
  unfold Informer.begin Informer.start
  cases h : i.following with
  | waiting items => exact .inr ⟨rfl, rfl⟩
  | running l | nothing | stopped => exact .inl (congrArg Following.post h)

theorem ends_hear (i : Informer α) : i.following.post.Ends (i.hear s).following.post := by
  unfold hear
  cases h : i.following with
  | running l =>
    by_cases hheard : s.heard l = true
    · simp only [hheard, if_true]
      exact .inr ⟨Post.noConfusion, rfl⟩
    · simp only [hheard]
      exact .inl (congrArg Following.post h)
  | waiting items | nothing | stopped => exact .inl (congrArg Following.post h)

theorem post_hear {i : Informer α} {l : Listener} (h : i.following.post = .listening l)
    (hheard : s.heard l = true) : (i.hear s).following.post = .over := by
  unfold hear
  cases hfollowing : i.following with
  | running l' =>
    rw [hfollowing, Following.post] at h
    obtain rfl := Post.listening.inj h
    simp [hheard, Following.post]
  | waiting items | nothing | stopped =>
    rw [hfollowing] at h
    cases h

theorem post_of_isRunning {i : Informer α} (h : i.isRunning = true) :
    ∃ l, i.following.post = .listening l := by
  unfold isRunning at h
  cases hfollowing : i.following with
  | running l => exact ⟨l, rfl⟩
  | nothing | waiting items | stopped => simp [hfollowing] at h

theorem following_timeOut (i : Informer α) (timeout : Duration) :
    (i.timeOut timeout).1.following = i.following := by
  unfold timeOut
  split <;> rfl

end Informer

namespace Informers

variable {is : Informers} {k k' : Kind} {s : Shutdown}

theorem view_alter_self {ω : Type} (f : {α : Type} → [Identified α] → Informer α → Informer α)
    (g : {α : Type} → [Identified α] → Informer α → ω) :
    (is.alter f k).view g k = is.view (fun i => g (f i)) k := by
  cases k <;> rfl

theorem view_alter_of_ne {ω : Type} (f : {α : Type} → [Identified α] → Informer α → Informer α)
    (g : {α : Type} → [Identified α] → Informer α → ω) (h : k' ≠ k) :
    (is.alter f k).view g k' = is.view g k' := by
  cases k <;> cases k' <;> first | rfl | exact absurd rfl h

/-- What becomes of an informer by itself becomes of it among the others, of which nothing becomes. -/
theorem view_alter {ω : Type} {R : ω → ω → Prop} (hrefl : ∀ p, R p p)
    (f : {α : Type} → [Identified α] → Informer α → Informer α)
    (g : {α : Type} → [Identified α] → Informer α → ω)
    (hf : ∀ {α : Type} [Identified α] (i : Informer α), R (g i) (g (f i))) :
    R (is.view g k') ((is.alter f k).view g k') := by
  by_cases h : k' = k
  · subst h
    rw [view_alter_self]
    cases k' <;> exact hf _
  · rw [view_alter_of_ne f _ h]
    exact hrefl _

theorem ends_receive (is : Informers) (d : Delivery) :
    (is.view (·.following.post) k).Ends ((is.receive d).1.view (·.following.post) k) := by
  cases d with
  | monitor kind item =>
    cases kind <;> cases k <;> first | exact .refl _ | exact Informer.ends_receive ..
  | secret item => cases k <;> first | exact .refl _ | exact Informer.ends_receive ..
  | ns item => cases k <;> first | exact .refl _ | exact Informer.ends_receive ..

end Informers

/-! ## What a watcher does while nothing begins -/

/-- How far a watcher in a stage is, if nothing has to be started in it. -/
def Stage.rank : Stage → Nat
  | .ready => 0
  | .syncing _ => 2
  | .serving => 4
  | .stopping => 5
  | .finished _ => 6

/-- From the one watcher to the other the signal was not given, the stage is no other, and no task began. -/
structure Watcher.Keeps (w w' : Watcher) : Prop where
  shutdown : w'.shutdown = w.shutdown
  rank : w'.stage.rank = w.stage.rank
  post : ∀ t, (w.post t).Ends (w'.post t)

namespace Watcher

variable {w w' w'' : Watcher}

namespace Keeps

theorem refl (w : Watcher) : w.Keeps w := ⟨rfl, rfl, fun _ => .refl _⟩

theorem trans (h : w.Keeps w') (h' : w'.Keeps w'') : w.Keeps w'' where
  shutdown := h'.shutdown.trans h.shutdown
  rank := h'.rank.trans h.rank
  post t := (h.post t).trans (h'.post t)

/-- Only informers change. -/
theorem of_informers {is : Informers}
    (h : ∀ k, (w.informers.view (·.following.post) k).Ends (is.view (·.following.post) k)) :
    w.Keeps { w with informers := is } where
  shutdown := rfl
  rank := rfl
  post t := by
    cases t with
    | informer k => exact h k
    | sender => exact .refl _

/-- Only the outlet changes. -/
theorem of_outlet {o : Outlet} (h : w.outlet.sender.post.Ends o.sender.post) :
    w.Keeps { w with outlet := o } where
  shutdown := rfl
  rank := rfl
  post t := by
    cases t with
    | informer k => exact .refl _
    | sender => exact h

end Keeps

theorem keeps_call (w : Watcher) (c : Call) : w.Keeps (w.call c) where
  shutdown := by
    cases c with
    | monitor | secret => rfl
    | ns c => cases c <;> rfl
  rank := by
    cases c with
    | monitor | secret => rfl
    | ns c => cases c <;> rfl
  post t := by
    cases t with
    | informer k => exact .inl (congrArg (·.view (·.following.post) k) (w.informers_call c))
    | sender =>
      obtain h | h := w.outlet_call c <;> exact .inl (congrArg (·.sender.post) h)

theorem keeps_calls (w : Watcher) (cs : List Call) : w.Keeps (cs.foldl call w) := by
  induction cs generalizing w with
  | nil => exact .refl w
  | cons c cs ih => exact (w.keeps_call c).trans (ih (w.call c))

theorem keeps_warn (w : Watcher) (ws : List InformerWarning) : w.Keeps (w.warn ws) :=
  ⟨rfl, rfl, fun t => by cases t <;> exact .refl _⟩

theorem keeps_deliver (w : Watcher) (d : Delivery) : w.Keeps (w.deliver d) :=
  have hfollow : w.Keeps (w.follow d).1 :=
    .trans (.of_informers fun _ => w.informers.ends_receive d) (keeps_warn _ _)
  hfollow.trans (keeps_calls _ _)

theorem keeps_timeOut (w : Watcher) (k : Kind) : w.Keeps (w.timeOut k) := by
  unfold timeOut
  cases hstage : w.stage with
  | syncing timedOut =>
    dsimp only
    split
    · exact .refl w
    · refine ⟨rfl, by rw [hstage]; rfl, fun t => .inl ?_⟩
      cases t with
      | informer k' =>
        cases k <;> cases k' <;> first | rfl | exact congrArg Following.post (Informer.following_timeOut ..)
      | sender => rfl
  | ready | serving | stopping | finished r => exact .refl w

end Watcher

namespace Outlet

variable {o : Outlet}

theorem post_tick (o : Outlet) : o.tick.sender.post = o.sender.post := by
  unfold tick
  split
  · rename_i l hsender
    rw [hsender]
    dsimp only
    split <;> rfl
  · rfl

theorem ends_send (o : Outlet) : o.sender.post.Ends o.send.sender.post := by
  unfold send
  cases hsender : o.sender with
  | holding l =>
    dsimp only
    split
    · exact .inl rfl
    · exact .inl rfl
    · exact .inr ⟨Post.noConfusion, rfl⟩
  | notStarted | waiting l | refused l | stopped => exact .inl (congrArg Sender.post hsender)

theorem post_rearm (o : Outlet) : o.rearm.sender.post = o.sender.post := by
  unfold rearm
  split
  · rename_i l hsender
    rw [hsender]
    rfl
  · rfl

theorem ends_hear (o : Outlet) (s : Shutdown) : o.sender.post.Ends (o.hear s).sender.post := by
  unfold hear
  cases hsender : o.sender with
  | waiting l =>
    dsimp only
    split
    · exact .inr ⟨Post.noConfusion, rfl⟩
    · exact .inl (congrArg Sender.post hsender)
  | notStarted | holding l | refused l | stopped => exact .inl (congrArg Sender.post hsender)

end Outlet

/-! ## What one act does to the tasks -/

/-- What can become of a task. -/
def Post.Follows (p q : Post) : Prop := q = p ∨ p = .unbegun ∨ q = .over

namespace Post

variable {p q r : Post}

theorem Ends.follows (h : p.Ends q) : p.Follows q := h.imp_right fun h => .inr h.2

theorem Follows.trans (h : p.Follows q) (h' : q.Follows r) : p.Follows r := by
  obtain rfl | rfl | rfl := h
  · exact h'
  · exact .inr (.inl rfl)
  · obtain rfl | h' | rfl := h'
    · exact .inr (.inr rfl)
    · cases h'
    · exact .inr (.inr rfl)

end Post

/-- How far the watcher is when the task begins. -/
def Task.turn : Task → Nat
  | .informer _ => 1
  | .sender => 3

namespace Lifetime

variable {s s' s'' : Lifetime} {t : Task}

/-- How far the watcher is. -/
def progress (s : Lifetime) : Nat :=
  match s.errand with
  | .informers _ => 1
  | .sender => 3
  | .nothing => s.watcher.stage.rank

/-- It is the turn of the task, and it begins to listen. -/
def Begins (s s' : Lifetime) (t : Task) : Prop :=
  s.progress = t.turn ∧ s.watcher.post t = .unbegun ∧
    s'.watcher.post t = .listening s.watcher.shutdown.listen

/-- What one act does at most. -/
structure Advances (s s' : Lifetime) : Prop where
  given : s.watcher.shutdown.given ≤ s'.watcher.shutdown.given
  progress : s.progress ≤ s'.progress
  post : ∀ t, (s.watcher.post t).Ends (s'.watcher.post t) ∨ s.Begins s' t
  sender : s.Begins s' .sender → Task.sender.turn < s'.progress

/-- The sender begins once, and whoever listens began to when the signal had not been given more often. -/
structure Orderly (s : Lifetime) : Prop where
  sender : s.watcher.post .sender = .unbegun ∨ Task.sender.turn < s.progress
  before : ∀ t l, s.watcher.post t = .listening l → l.before ≤ s.watcher.shutdown.given

theorem orderly_new {w : Watcher} (h : ∀ t, w.post t = .unbegun) : (start w).Orderly where
  sender := .inl (h .sender)
  before t _ hl := Post.noConfusion ((h t).symm.trans hl)

theorem Orderly.advance (h : s.Orderly) (ha : s.Advances s') : s'.Orderly where
  sender := by
    obtain hunbegun | hpast := h.sender
    · obtain (hsame | ⟨hbegun, -⟩) | hbegins := ha.post .sender
      · exact .inl (hsame.trans hunbegun)
      · exact absurd hunbegun hbegun
      · exact .inr (ha.sender hbegins)
    · exact .inr (Nat.lt_of_lt_of_le hpast ha.progress)
  before t l hl := by
    refine Nat.le_trans ?_ ha.given
    obtain (hsame | ⟨-, hover⟩) | ⟨-, -, hlistens⟩ := ha.post t
    · exact h.before t l (hsame.symm.trans hl)
    · exact Post.noConfusion (hover.symm.trans hl)
    · obtain rfl := Post.listening.inj (hlistens.symm.trans hl)
      exact Nat.le_refl _

namespace Advances

/-- No task begins. -/
theorem of_ends (hgiven : s.watcher.shutdown.given ≤ s'.watcher.shutdown.given)
    (hprogress : s.progress ≤ s'.progress) (hpost : ∀ t, (s.watcher.post t).Ends (s'.watcher.post t)) :
    s.Advances s' where
  given := hgiven
  progress := hprogress
  post t := .inl (hpost t)
  sender := by
    rintro ⟨_, hunbegun, hlistens⟩
    obtain hsame | ⟨hbegun, -⟩ := hpost .sender
    · rw [hsame, hunbegun] at hlistens
      cases hlistens
    · exact absurd hunbegun hbegun

theorem of_keeps (h : s.watcher.Keeps s'.watcher) (herrand : s'.errand = s.errand) : s.Advances s' := by
  refine of_ends (h.shutdown ▸ Nat.le_refl _) (Nat.le_of_eq ?_) h.post
  unfold Lifetime.progress
  rw [herrand, h.rank]

theorem refl (s : Lifetime) : s.Advances s := of_keeps (.refl _) rfl

/-- No task notices anything. -/
theorem of_post (hgiven : s.watcher.shutdown.given ≤ s'.watcher.shutdown.given)
    (hprogress : s.progress ≤ s'.progress) (hpost : ∀ t, s'.watcher.post t = s.watcher.post t) :
    s.Advances s' :=
  of_ends hgiven hprogress fun t => .inl (hpost t)

end Advances

theorem stage_of_isReady {w : Watcher} (h : isReady w = true) : w.stage = .ready := by
  unfold isReady at h
  split at h
  · assumption
  · cases h

theorem rank_of_looksOut {w : Watcher} (h : looksOut w = true) : w.stage.rank < Stage.stopping.rank := by
  unfold looksOut at h
  cases hstage : w.stage <;> simp_all [Stage.rank]

theorem rank_of_verdict {w : Watcher} {ks : List Kind} (h : w.verdict? = some ks) : w.stage.rank = 2 := by
  unfold Watcher.verdict? at h
  split at h
  · rename_i hstage
    rw [hstage]
    rfl
  · cases h

theorem advances_watch (s : Lifetime) : s.Advances (s.step .watch) := by
  simp only [step]
  split
  · rename_i hready
    refine .of_post (Nat.le_refl _) ?_ fun _ => rfl
    simp [progress, hready.2, stage_of_isReady hready.1, Stage.rank]
  · exact .refl s

theorem advances_start (s : Lifetime) : s.Advances (s.step .start) := by
  cases herrand : s.errand with
  | nothing | sender =>
    simp only [step, herrand]
    exact .refl s
  | informers kinds =>
    have hprogress : s.progress = 1 := by rw [progress, herrand]
    cases kinds with
    | nil =>
      simp only [step, herrand]
      exact .of_post (Nat.le_refl _) (hprogress ▸ Nat.le_succ 1) fun t => by cases t <;> rfl
    | cons k ks =>
      simp only [step, herrand]
      exact {
        given := Nat.le_refl _
        progress := Nat.le_of_eq hprogress
        post := fun t => by
          cases t with
          | informer k' =>
            -- the other informers stay as they are
            refine Informers.view_alter (R := fun p q => p.Ends q ∨ s.progress = 1 ∧ p = .unbegun ∧
              q = .listening s.watcher.shutdown.listen) (fun p => .inl (.refl p)) _ (·.following.post)
              fun i => ?_
            exact (Informer.post_begin i).imp .inl fun h => ⟨hprogress, h⟩
          | sender => exact .inl (.refl _)
        sender := by
          rintro ⟨_, hunbegun, hlistens⟩
          exact Post.noConfusion (hunbegun.symm.trans hlistens) }

theorem advances_judge (s : Lifetime) : s.Advances (s.step .judge) := by
  cases herrand : s.errand with
  | informers kinds | sender =>
    simp only [step, herrand]
    exact .refl s
  | nothing =>
    cases hverdict : s.watcher.verdict? with
    | none =>
      simp only [step, herrand, hverdict]
      exact .refl s
    | some ks =>
      have hprogress : s.progress = 2 := by rw [progress, herrand, rank_of_verdict hverdict]
      cases ks with
      | nil =>
        simp only [step, herrand, hverdict]
        exact .of_post (Nat.le_refl _) (hprogress ▸ Nat.le_succ 2) fun t => by cases t <;> rfl
      | cons k ks =>
        simp only [step, herrand, hverdict]
        refine .of_post (Nat.le_succ _) ?_ fun t => by cases t <;> rfl
        rw [hprogress]
        simp [progress, on, Stage.rank, herrand]

theorem advances_startSender (h : s.Orderly) : s.Advances (s.step .startSender) := by
  simp only [step]
  split
  · rename_i herrand
    have hprogress : s.progress = 3 := by rw [progress, herrand]
    have hsender : s.watcher.post .sender = .unbegun :=
      h.sender.resolve_right (hprogress ▸ Nat.lt_irrefl 3)
    exact {
      given := Nat.le_refl _
      progress := hprogress ▸ Nat.le_succ 3
      post := fun t => by
        cases t with
        | informer k => exact .inl (.refl _)
        | sender => exact .inr ⟨hprogress, hsender, rfl⟩
      sender := fun _ => Nat.lt_succ_self 3 }
  · exact .refl s

theorem advances_see (s : Lifetime) : s.Advances (s.step .see) := by
  simp only [step]
  split
  · rename_i hsee
    refine .of_post (Nat.le_refl _) ?_ fun t => by cases t <;> rfl
    simpa [progress, hsee.1, on] using Nat.le_of_lt (rank_of_looksOut hsee.2.2)
  · exact .refl s

theorem advances_finish (s : Lifetime) : s.Advances (s.step .finish) := by
  simp only [step, on, Watcher.finish]
  split
  · rename_i hstage
    split
    · exact .refl s
    · refine .of_post (Nat.le_refl _) ?_ fun t => by cases t <;> rfl
      cases herrand : s.errand <;> simp [progress, herrand, hstage, Stage.rank]
  · exact .refl s

/-- Every act advances an orderly state. -/
theorem advances_step (h : s.Orderly) (a : Act) : s.Advances (s.step a) := by
  cases a with
  | watch => exact advances_watch s
  | close => exact .of_post (Nat.le_succ _) (Nat.le_refl _) fun t => by cases t <;> rfl
  | deliver d =>
    simp only [step]
    split
    · exact .of_keeps (s.watcher.keeps_deliver d) rfl
    · exact .of_keeps (.refl _) rfl
  | resync k => exact .of_keeps (s.watcher.keeps_calls _) rfl
  | expire k =>
    simp only [step]
    split
    · exact .of_keeps (s.watcher.keeps_timeOut k) rfl
    · exact .refl s
  | tick => exact .of_keeps (.of_outlet (.inl s.watcher.outlet.post_tick)) rfl
  | receive => exact .of_keeps (.of_outlet (.inl rfl)) rfl
  | leave => exact .of_keeps (.of_outlet (.inl rfl)) rfl
  | notify => exact .of_keeps (.of_outlet (.inl rfl)) rfl
  | resolve store => exact .of_post (Nat.le_refl _) (Nat.le_refl _) fun t => by cases t <;> rfl
  | start => exact advances_start s
  | catchUp k =>
    simp only [step]
    split
    · exact .refl s
    · exact .of_keeps (s.watcher.keeps_deliver _) rfl
  | judge => exact advances_judge s
  | startSender => exact advances_startSender h
  | send => exact .of_keeps (.of_outlet s.watcher.outlet.ends_send) rfl
  | rearm => exact .of_keeps (.of_outlet (.inl s.watcher.outlet.post_rearm)) rfl
  | hear k =>
    exact .of_keeps (.of_informers fun _ =>
      Informers.view_alter .refl _ (·.following.post) Informer.ends_hear) rfl
  | hearSender => exact .of_keeps (.of_outlet (s.watcher.outlet.ends_hear _)) rfl
  | see => exact advances_see s
  | finish => exact advances_finish s

/-! ## What a run does to the tasks -/

/-- What a run does at most. A task whose turn is past does not begin any more. -/
structure Precedes (s s' : Lifetime) : Prop where
  given : s.watcher.shutdown.given ≤ s'.watcher.shutdown.given
  progress : s.progress ≤ s'.progress
  post : ∀ t, (s.watcher.post t).Follows (s'.watcher.post t)
  unbegun : ∀ t, t.turn < s.progress → s.watcher.post t = .unbegun → s'.watcher.post t = .unbegun

theorem Advances.precedes (h : s.Advances s') : s.Precedes s' where
  given := h.given
  progress := h.progress
  post t := by
    obtain h | ⟨-, hunbegun, -⟩ := h.post t
    · exact h.follows
    · exact .inr (.inl hunbegun)
  unbegun t hpast hunbegun := by
    obtain (hsame | ⟨hbegun, -⟩) | ⟨hturn, -⟩ := h.post t
    · exact hsame.trans hunbegun
    · exact absurd hunbegun hbegun
    · exact absurd hturn (Nat.ne_of_gt hpast)

theorem Precedes.trans (h : s.Precedes s') (h' : s'.Precedes s'') : s.Precedes s'' where
  given := Nat.le_trans h.given h'.given
  progress := Nat.le_trans h.progress h'.progress
  post t := (h.post t).trans (h'.post t)
  unbegun t hpast hunbegun :=
    h'.unbegun t (Nat.lt_of_lt_of_le hpast h.progress) (h.unbegun t hpast hunbegun)

/-- A run keeps the order of the tasks, and does no more than its acts. -/
theorem Orderly.run (h : s.Orderly) (acts : List Act) :
    (s.run acts).Orderly ∧ s.Precedes (s.run acts) := by
  induction acts generalizing s with
  | nil => exact ⟨h, (Advances.refl s).precedes⟩
  | cons a acts ih =>
    have ha := advances_step h a
    obtain ⟨horderly, hprecedes⟩ := ih (h.advance ha)
    exact ⟨horderly, ha.precedes.trans hprecedes⟩

end Lifetime

end ScrapeFleet.Watch
