import Iroh.Bitswap.World
import Iroh.Bitswap.MessageSender

/-!
# What holds in every reachable world

One invariant, `Inv`, holds of `Network::new`'s world (`Inv.init`), is kept by every step
(`Inv.step`), and so holds of every reachable world (`Reachable.inv`). Its fields come in two
groups.

* **Backpressure.** The channel never holds more than `outCapacity` events; a busy task borrows a
  live `Network`, so `send` never finds the channel disconnected, and no operation ever returns the
  channel-send error.
* **Reply ownership.** Every one-shot channel is fresh and remembers the task and attempt that made
  it; a receiver is live exactly while that task awaits it, in that attempt; every event in the
  channel or held by the driver was pushed by some task.

## What each step rests on

The steps fall into four shapes, each with one lemma: a push (`Inv.push`); a task leaving an await,
a backoff, or no operation, for a state that awaits nothing (`Inv.leave`: the reply, the timeout,
the end of a backoff, a fresh operation, a retired one); the driver answering or dropping a sender
(`Inv.answer`); and the moves of the driver and the handles, which touch neither tasks nor channels
(`Inv.frame`). A failed push never happens: it needs every receiver gone, and the pushing task
borrows one.
-/

namespace Iroh.Bitswap

/-- The invariant of the network world. -/
structure Inv (w : World) : Prop where
  /-- The channel holds at most its capacity. -/
  queue_le : w.queue.length ≤ outCapacity
  /-- A busy task borrows a live `Network`. -/
  networks_pos : ∀ p, ¬ (w.tasks p).Quiet → 1 ≤ w.networks
  /-- No operation returned the channel-send error. -/
  no_enqueue_failed : ∀ p, ¬ (w.tasks p).EnqueueFailed
  /-- One-shot channels are made in order. -/
  fresh : ∀ r, w.nextChan ≤ r → w.chans r = none
  /-- The one-shot of a pushed event belongs to the task and attempt that pushed it. -/
  logged : ∀ q j e r, (q, j, e) ∈ w.log → e.oneshot? = some r →
    ∃ ch, w.chans r = some ch ∧ ch.owner = q ∧ ch.attempt = j
  /-- A live receiver is awaited by the task that made it. -/
  receiver : ∀ r ch, w.chans r = some ch → ch.receiverLive = true →
    (w.tasks ch.owner).awaiting? = some r
  /-- An awaited receiver is live, was made by its task in the current attempt, and came with an
  event that task pushed. -/
  awaited : ∀ p r, (w.tasks p).awaiting? = some r → ∃ ch, w.chans r = some ch ∧ ch.owner = p ∧
    ch.attempt = (w.tasks p).attempt ∧ ch.receiverLive = true ∧
    ∃ e, (p, ch.attempt, e) ∈ w.log ∧ e.oneshot? = some r
  /-- Every event in the channel or held by the driver was pushed. -/
  pending_logged : ∀ e ∈ w.queue ++ w.held, ∃ q j, (q, j, e) ∈ w.log

namespace Inv

variable {w : World} {p : Nat} {r : ChanId} {ch : Chan}

theorem init : Inv World.init where
  queue_le := by simp [World.init]
  networks_pos _ h := absurd trivial h
  no_enqueue_failed _ := id
  fresh _ _ := rfl
  logged _ _ _ _ h := absurd h (List.not_mem_nil _)
  receiver _ _ h := absurd h (by simp [World.init])
  awaited _ _ h := absurd h (by simp [World.init, Task.awaiting?])
  pending_logged _ h := absurd h (by simp [World.init])

/-- The channel a task awaits is its own. -/
theorem owner_of_awaiting (hi : Inv w) (h : (w.tasks p).awaiting? = some r)
    (hc : w.chans r = some ch) : ch.owner = p := by
  obtain ⟨ch', hc', h', -⟩ := hi.awaited p r h
  rw [hc] at hc'
  exact Option.some.inj hc' ▸ h'

/-- A made channel is below the allocation counter. -/
theorem lt_of_some (hi : Inv w) (hc : w.chans r = some ch) : r < w.nextChan :=
  Nat.lt_of_not_le fun h ↦ by simp [hi.fresh r h] at hc

/-- **The driver's moves and the handles' moves** touch no task and no channel. -/
theorem frame (hi : Inv w) {w' : World} (hc : w'.chans = w.chans) (hn : w'.nextChan = w.nextChan)
    (ht : w'.tasks = w.tasks) (hl : w'.log = w.log) (hq : w'.queue.length ≤ outCapacity)
    (hnet : ∀ p, ¬ (w.tasks p).Quiet → 1 ≤ w'.networks)
    (hpend : ∀ e ∈ w'.queue ++ w'.held, e ∈ w.queue ++ w.held) : Inv w' where
  queue_le := hq
  networks_pos := ht ▸ hnet
  no_enqueue_failed := ht ▸ hi.no_enqueue_failed
  fresh := hc ▸ hn ▸ hi.fresh
  logged := hc ▸ hl ▸ hi.logged
  receiver := hc ▸ ht ▸ hi.receiver
  awaited := hc ▸ ht ▸ hl ▸ hi.awaited
  pending_logged e he := hl ▸ hi.pending_logged e (hpend e he)

/-- **The driver answers or drops a sender**: the channel keeps its owner, attempt and receiver,
and the driver holds fewer events. -/
theorem answer (hi : Inv w) (hc : w.chans r = some ch) (ch' : Chan) (ho : ch'.owner = ch.owner)
    (ha : ch'.attempt = ch.attempt) (hl : ch'.receiverLive = ch.receiverLive)
    {held' : List OutEvent} (hheld : ∀ e ∈ held', e ∈ w.held) :
    Inv { w with held := held', chans := Function.update w.chans r (some ch') } where
  queue_le := hi.queue_le
  networks_pos := hi.networks_pos
  no_enqueue_failed := hi.no_enqueue_failed
  fresh r' hr' := by
    simp [Function.update_apply, hi.fresh r' hr', (Nat.lt_of_lt_of_le (hi.lt_of_some hc) hr').ne']
  logged q j e r' hlog he := by
    obtain ⟨ch₀, hc₀, rfl, rfl⟩ := hi.logged q j e r' hlog he
    rcases eq_or_ne r' r with rfl | hne
    · obtain rfl : ch₀ = ch := Option.some.inj (hc₀.symm.trans hc)
      exact ⟨ch', by simp, ho, ha⟩
    · exact ⟨ch₀, by simp [Function.update_noteq hne, hc₀], rfl, rfl⟩
  receiver r' ch₀ hc₀ hl₀ := by
    rcases eq_or_ne r' r with rfl | hne
    · obtain rfl : ch₀ = ch' := by simpa using hc₀.symm
      exact ho ▸ hi.receiver r' ch hc (hl ▸ hl₀)
    · exact hi.receiver r' ch₀ (by simpa [Function.update_noteq hne] using hc₀) hl₀
  awaited q r' hq := by
    obtain ⟨ch₀, hc₀, h₁, h₂, h₃, h₄⟩ := hi.awaited q r' hq
    rcases eq_or_ne r' r with rfl | hne
    · obtain rfl : ch₀ = ch := Option.some.inj (hc₀.symm.trans hc)
      exact ⟨ch', by simp, ho ▸ h₁, ha ▸ h₂, hl ▸ h₃, ha ▸ h₄⟩
    · exact ⟨ch₀, by simp [Function.update_noteq hne, hc₀], h₁, h₂, h₃, h₄⟩
  pending_logged e he := hi.pending_logged e (by
    simp only [List.mem_append] at he ⊢
    exact he.imp id (hheld e))

/-- **A task leaves an await, a backoff or no operation** for a state that awaits nothing; the
receiver it awaited, if any, is dropped. -/
theorem leave (hi : Inv w) {t : Task} (ht : t.Clear) (hn : ¬ t.Quiet → 1 ≤ w.networks) :
    Inv { w with chans := w.releaseFor p, tasks := Function.update w.tasks p t } where
  queue_le := hi.queue_le
  networks_pos q hq := by
    rcases eq_or_ne q p with rfl | hne
    · exact hn (by simpa using hq)
    · exact hi.networks_pos q (by simpa [Function.update_noteq hne] using hq)
  no_enqueue_failed q := by
    rcases eq_or_ne q p with rfl | hne
    · simpa using ht.2
    · simpa [Function.update_noteq hne] using hi.no_enqueue_failed q
  fresh r' hr' := by simp [World.releaseFor_apply, hi.fresh r' hr']
  logged q j e r' hlog he := by
    obtain ⟨ch₀, hc₀, rfl, rfl⟩ := hi.logged q j e r' hlog he
    refine ⟨_, by simp [World.releaseFor_apply, hc₀]; rfl, ?_⟩
    split_ifs <;> simp [Chan.release]
  receiver r' ch₀ hc₀ hl₀ := by
    simp only [World.releaseFor_apply, Option.map_eq_some'] at hc₀
    obtain ⟨ch₁, hc₁, rfl⟩ := hc₀
    split_ifs at hl₀ ⊢ with hr
    · simp [Chan.release] at hl₀
    · have h := hi.receiver r' ch₁ hc₁ hl₀
      rcases eq_or_ne ch₁.owner p with hp | hne
      · exact absurd (hp ▸ h) hr
      · simpa [Function.update_noteq hne] using h
  awaited q r' hq := by
    rcases eq_or_ne q p with rfl | hne
    · simp [ht.1] at hq
    · simp only [Function.update_noteq hne] at hq ⊢
      obtain ⟨ch₀, hc₀, h₁, h₂⟩ := hi.awaited q r' hq
      have hr : (w.tasks p).awaiting? ≠ some r' := fun h ↦
        hne (h₁.symm.trans (hi.owner_of_awaiting h hc₀))
      exact ⟨ch₀, by simp [World.releaseFor_apply, hc₀, hr], h₁, h₂⟩
  pending_logged := hi.pending_logged

/-- A task that awaited nothing leaves its channels as they are. -/
theorem leave_of_none (hi : Inv w) (hp : (w.tasks p).awaiting? = none) {t : Task} (ht : t.Clear)
    (hn : ¬ t.Quiet → 1 ≤ w.networks) : Inv { w with tasks := Function.update w.tasks p t } := by
  have h := hi.leave (p := p) ht hn
  rwa [World.releaseFor_of_awaiting_none hp] at h

/-- **A push that finds room**: the event goes to the back, its one-shot is made fresh for the
pushing task and attempt, and that task now awaits it. -/
theorem push (hi : Inv w) {i : Nat} {e : OutEvent} {q : List OutEvent}
    (hp : (w.tasks p).pending? w.nextChan = some (i, e))
    (hs : crossbeamSend w.queue w.networks e = .ok q) :
    Inv { w with
      queue := q, chans := w.openFor p i e, nextChan := w.nextChan + 1,
      tasks := Function.update w.tasks p ((w.tasks p).afterPush w.nextChan true),
      log := w.log ++ [(p, i, e)] } := by
  obtain ⟨hn, hlen, rfl⟩ := crossbeamSend_eq_ok.1 hs
  obtain ⟨hnone, hbusy⟩ := Task.pending?_busy hp
  obtain ⟨hawait, hattempt, hfail⟩ := Task.afterPush_of_pending hp
  have hfresh : w.chans w.nextChan = none := hi.fresh _ le_rfl
  -- the one-shot `e` carries, if any, is the fresh channel
  have hr : ∀ {r}, e.oneshot? = some r → r = w.nextChan := Task.oneshot_of_pending hp
  -- a channel made before keeps its value
  have hold : ∀ {r ch}, w.chans r = some ch → w.openFor p i e r = some ch := fun hc ↦ by
    rw [World.openFor_apply, if_neg fun he ↦ by simp [hr he, hfresh] at hc, hc]
  -- task `p` owned no live receiver, since it awaited nothing
  have hnotp : ∀ {r ch}, w.chans r = some ch → ch.receiverLive = true → ch.owner ≠ p :=
    fun hc hl ho ↦ by simp [← ho, hi.receiver _ _ hc hl] at hnone
  exact {
    queue_le := by simp only [List.length_append, List.length_singleton]; omega
    networks_pos := fun _ _ ↦ Nat.one_le_iff_ne_zero.2 hn
    no_enqueue_failed := fun q ↦ by
      rcases eq_or_ne q p with rfl | hne
      · simpa using hfail
      · simpa [Function.update_noteq hne] using hi.no_enqueue_failed q
    fresh := fun r hr' ↦ by
      dsimp only at hr' ⊢
      have hne : e.oneshot? ≠ some r := fun he ↦ by
        rw [hr he] at hr'
        exact Nat.not_succ_le_self _ hr'
      rw [World.openFor_apply, if_neg hne]
      exact hi.fresh r (Nat.le_of_succ_le hr')
    logged := fun q j e' r hlog he' ↦ by
      rcases List.mem_append.1 hlog with hlog | hlog
      · obtain ⟨ch, hc, h⟩ := hi.logged q j e' r hlog he'
        exact ⟨ch, hold hc, h⟩
      · obtain ⟨rfl, rfl, rfl⟩ : q = p ∧ j = i ∧ e' = e := by simpa using hlog
        exact ⟨⟨q, j, none, true, true⟩, by dsimp only; rw [World.openFor_apply, if_pos he'], rfl, rfl⟩
    receiver := fun r ch hc hl ↦ by
      dsimp only at hc ⊢
      rw [World.openFor_apply] at hc
      split_ifs at hc with he
      · obtain rfl := Option.some.inj hc.symm
        simpa [hawait] using he
      · simpa [Function.update_noteq (hnotp hc hl)] using hi.receiver r ch hc hl
    awaited := fun q r hq ↦ by
      rcases eq_or_ne q p with rfl | hne
      · simp only [Function.update_same, hawait, hattempt] at hq ⊢
        exact ⟨⟨q, i, none, true, true⟩, by rw [World.openFor_apply, if_pos hq], rfl, rfl, rfl, e,
          by simp, hq⟩
      · simp only [Function.update_noteq hne] at hq ⊢
        obtain ⟨ch, hc, h₁, h₂, h₃, e', he', h₄⟩ := hi.awaited q r hq
        exact ⟨ch, hold hc, h₁, h₂, h₃, e', List.mem_append_left _ he', h₄⟩
    pending_logged := fun e' he' ↦ by
      simp only [List.mem_append, List.mem_singleton] at he'
      rcases he' with (he' | rfl) | he'
      · obtain ⟨q, j, h⟩ := hi.pending_logged e' (List.mem_append_left _ he')
        exact ⟨q, j, List.mem_append_left _ h⟩
      · exact ⟨p, i, by simp⟩
      · obtain ⟨q, j, h⟩ := hi.pending_logged e' (List.mem_append_right _ he')
        exact ⟨q, j, List.mem_append_left _ h⟩ }

/-- **Every step keeps the invariant.** -/
theorem step (hi : Inv w) {w' : World} (h : Step w w') : Inv w' := by
  cases h
  case push hp hs => exact hi.push hp hs
  case pushFails p i e hp hs =>
    exact absurd (crossbeamSend_eq_disconnected.1 hs)
      (Nat.one_le_iff_ne_zero.1 (hi.networks_pos p (Task.pending?_busy hp).2))
  case receive p r ch hp hc hready =>
    exact hi.leave (Task.clear_onReply hp _) fun _ ↦ hi.networks_pos p (Task.not_quiet_of_awaiting hp)
  case wake p a i errors hp =>
    exact hi.leave_of_none (by simp [hp, Task.awaiting?]) (Task.clear_loopHead a (i + 1) errors)
      fun _ ↦ hi.networks_pos p (by simp [hp, Task.Quiet])
  case expire p t hp =>
    exact hi.leave (Task.clear_expire hp) fun _ ↦ hi.networks_pos p (Task.not_quiet_of_expire hp)
  case spawn p t hp ht hn =>
    exact hi.leave_of_none (by simp [hp, Task.awaiting?]) (Task.clear_of_fresh ht) fun _ ↦ hn
  case retire p hp =>
    exact hi.leave_of_none (Task.awaiting?_eq_none_of_quiet hp) Task.clear_idle
      fun h ↦ absurd trivial h
  case pollReady e rest hd hq =>
    rw [Network.poll_eq_some] at hq
    refine hi.frame rfl rfl rfl rfl ?_ hi.networks_pos fun e' he' ↦ ?_
    · have h := hi.queue_le
      rw [hq] at h
      exact (Nat.le_succ _).trans h
    · rw [hq]
      dsimp only at he'
      split_ifs at he' <;>
        simp only [List.mem_append, List.mem_cons, List.mem_singleton] at he' ⊢ <;> tauto
  case pollPending hd hq => exact hi.frame rfl rfl rfl rfl hi.queue_le hi.networks_pos fun _ ↦ id
  case wakeDriver hd => exact hi.frame rfl rfl rfl rfl hi.queue_le hi.networks_pos fun _ ↦ id
  case reply e r ch v he hr hc hv =>
    exact hi.answer hc (ch.complete v) rfl rfl rfl fun _ ↦ List.mem_of_mem_erase
  case dropReply e r ch he hr hc =>
    exact hi.answer hc ch.close rfl rfl rfl fun _ ↦ List.mem_of_mem_erase
  case cloneNetwork hn =>
    exact hi.frame rfl rfl rfl rfl hi.queue_le (fun _ _ ↦ Nat.le_succ_of_le hn) fun _ ↦ id
  case dropNetwork hn =>
    refine hi.frame rfl rfl rfl rfl hi.queue_le (fun p hp ↦ ?_) fun _ ↦ id
    rcases hn with hn | ⟨-, hq⟩
    · exact Nat.le_sub_of_add_le hn
    · exact absurd (hq p) hp

end Inv

/-- **The invariant holds in every reachable world.** -/
theorem Reachable.inv {w : World} (h : Reachable w) : Inv w := by
  induction h with
  | init => exact Inv.init
  | step _ hs ih => exact ih.step hs

/-! ### Every call acts on its own reply -/

/-- A task awaiting a reply is moved only by that reply or by its timeout. -/
theorem Step.awaiting_moves {w w' : World} (h : Step w w') {p : Nat} {r : ChanId}
    (hr : (w.tasks p).awaiting? = some r) :
    w'.tasks p = w.tasks p ∨
      (∃ ch, w.chans r = some ch ∧ ch.Ready ∧ w'.tasks p = (w.tasks p).onReply ch.value) ∨
      (w.tasks p).expire? = some (w'.tasks p) := by
  rcases h.task_moves p with h | ⟨_, _, hp, -⟩ | ⟨r', ch, hr', hc, hready, h⟩ | ⟨_, _, _, hs, -⟩ |
    h | ⟨hidle, -⟩ | ⟨hq, -⟩
  · exact .inl h
  · simp [(Task.pending?_busy hp).1] at hr
  · obtain rfl : r' = r := Option.some.inj (hr'.symm.trans hr)
    exact .inr (.inl ⟨ch, hc, hready, h⟩)
  · simp [hs, Task.awaiting?] at hr
  · exact .inr (.inr h)
  · simp [hidle, Task.awaiting?] at hr
  · simp [Task.awaiting?_eq_none_of_quiet hq] at hr

/-- **Every call acts on its own reply.** In every reachable world, for every task `p`: its only
live receiver is the one it awaits; that channel came with the event `p` pushed in its current
attempt and with no other event ever pushed; an event waiting in the channel or held by the driver
that answers on it is that event; and nothing but the value of that channel, or the timeout, moves
the task. -/
theorem calls_act_on_own_reply {w : World} (hw : Reachable w) (p : Nat) :
    (∀ r ch, w.chans r = some ch → ch.owner = p → ch.receiverLive = true →
      (w.tasks p).awaiting? = some r) ∧
    ∀ r, (w.tasks p).awaiting? = some r →
      (∃ e, (p, (w.tasks p).attempt, e) ∈ w.log ∧ e.oneshot? = some r) ∧
      (∀ q j e, (q, j, e) ∈ w.log → e.oneshot? = some r → q = p ∧ j = (w.tasks p).attempt) ∧
      (∀ e ∈ w.queue ++ w.held, e.oneshot? = some r → (p, (w.tasks p).attempt, e) ∈ w.log) ∧
      ∀ w', Step w w' → w'.tasks p = w.tasks p ∨
        (∃ ch, w.chans r = some ch ∧ ch.Ready ∧ w'.tasks p = (w.tasks p).onReply ch.value) ∨
        (w.tasks p).expire? = some (w'.tasks p) := by
  have hi := hw.inv
  refine ⟨fun r ch hc ho hl ↦ ho ▸ hi.receiver r ch hc hl, fun r hr ↦ ?_⟩
  obtain ⟨ch, hc, hown, hatt, -, e, hlog, he⟩ := hi.awaited p r hr
  -- every pushed event carrying `r` is `p`'s, in its current attempt
  have hunique : ∀ q j e, (q, j, e) ∈ w.log → e.oneshot? = some r →
      q = p ∧ j = (w.tasks p).attempt := fun q j e hl he ↦ by
    obtain ⟨ch', hc', rfl, rfl⟩ := hi.logged q j e r hl he
    obtain rfl : ch' = ch := Option.some.inj (hc'.symm.trans hc)
    exact ⟨hown, hatt⟩
  refine ⟨⟨e, hatt ▸ hlog, he⟩, hunique, fun e' hm he' ↦ ?_, fun w' hs ↦ hs.awaiting_moves hr⟩
  obtain ⟨q, j, hl⟩ := hi.pending_logged e' hm
  obtain ⟨rfl, rfl⟩ := hunique q j e' hl he'
  exact hl

/-- Task `0` has pushed a `Dial` to peer `0` and awaits channel `0`; the driver got `Pending`
before the push and is parked. -/
def dialWorld : World :=
  { World.init with
    queue := [.dial ⟨0⟩ 0]
    chans := Function.update (fun _ ↦ none) 0 (some ⟨0, 0, none, true, true⟩)
    nextChan := 1
    tasks := Function.update (fun _ ↦ .idle) 0 (.request (.dial ⟨0⟩) (.awaiting 0))
    driver := .parked
    log := [(0, 0, .dial ⟨0⟩ 0)] }

/-- `Network::new`, a `Pending` poll, then task `0`'s `dial`. -/
theorem dialWorld_reachable : Reachable dialWorld := by
  have h₁ := Reachable.init.step (Step.pollPending rfl rfl)
  have h₂ := h₁.step (Step.spawn (p := 0) (t := .request (.dial ⟨0⟩) .start) rfl rfl le_rfl)
  have h₃ := h₂.step (Step.push (p := 0) (i := 0) (e := .dial ⟨0⟩ 0) rfl rfl)
  convert h₃ using 1
  simp only [dialWorld, World.init, World.openFor, OutEvent.oneshot?, Function.update_idem,
    Function.update_same, List.nil_append, Nat.zero_add]
  rfl

/-- `MessageSender::send_message` of a sender `new_message_sender` made with the default
configuration, for peer `0` on connection `0`. -/
def defaultSend : SendArgs :=
  (newMessageSender ⟨0⟩ MessageSenderConfig.default (⟨0⟩, ⟨0, true⟩)).sendMessage ⟨0, 0⟩

/-- Task `0` has just started `defaultSend`. -/
def senderWorld : World :=
  { World.init with tasks := Function.update World.init.tasks 0 (.send defaultSend defaultSend.start) }

theorem senderWorld_reachable : Reachable senderWorld :=
  Reachable.init.step (Step.spawn rfl rfl le_rfl)

/-- Task `0` has pushed the `SendMessage` of its first attempt and awaits channel `0`. -/
def sendingWorld : World :=
  { World.init with
    queue := [defaultSend.event 0]
    chans := Function.update (fun _ ↦ none) 0 (some ⟨0, 0, none, true, true⟩)
    nextChan := 1
    tasks := Function.update (fun _ ↦ .idle) 0 (.send defaultSend (.awaiting 0 [] 0))
    log := [(0, 0, defaultSend.event 0)] }

theorem sendingWorld_reachable : Reachable sendingWorld := by
  convert senderWorld_reachable.step
    (Step.push (p := 0) (i := 0) (e := defaultSend.event 0) rfl rfl) using 1
  simp only [sendingWorld, senderWorld, World.init, World.openFor, Function.update_idem]
  rfl

/-- The driver popped that `SendMessage` and answered it with a failure, and task `0` took the
answer: it sleeps its backoff before attempt `1`. -/
def retryWorld : World :=
  { World.init with
    chans := Function.update (fun _ ↦ none) 0
      (some ⟨0, 0, some (.send (.error (.other "reset"))), false, false⟩)
    nextChan := 1
    tasks := Function.update (fun _ ↦ .idle) 0 (.send defaultSend (.sleeping 0 [.other "reset"]))
    log := [(0, 0, defaultSend.event 0)] }

theorem retryWorld_reachable : Reachable retryWorld := by
  have h := ((sendingWorld_reachable.step (Step.pollReady (e := defaultSend.event 0) rfl rfl)).step
    (Step.reply (e := defaultSend.event 0) (r := 0) (v := .send (.error (.other "reset")))
      (List.mem_singleton_self _) rfl rfl trivial)).step
    (Step.receive (p := 0) (r := 0) rfl rfl (.inr rfl))
  convert h using 1
  simp only [retryWorld, sendingWorld, World.init, World.releaseFor, Function.update_same,
    Task.awaiting?, Function.update_idem, Option.map_some']
  rfl

/-- Task `0` awaits channel `0`, which came with the `SendMessage` of its first attempt. -/
theorem sendingWorld_acts_on_own_reply :
    Reachable sendingWorld ∧ (sendingWorld.tasks 0).awaiting? = some 0 ∧
    sendingWorld.log = [(0, 0, .sendMessage ⟨0⟩ ⟨0, 0⟩ 0 (some ⟨0⟩))] ∧
    (∀ r ch, sendingWorld.chans r = some ch → ch.owner = 0 → ch.receiverLive = true →
      (sendingWorld.tasks 0).awaiting? = some r) ∧
    ∀ r, (sendingWorld.tasks 0).awaiting? = some r →
      (∃ e, (0, (sendingWorld.tasks 0).attempt, e) ∈ sendingWorld.log ∧ e.oneshot? = some r) ∧
      (∀ q j e, (q, j, e) ∈ sendingWorld.log → e.oneshot? = some r →
        q = 0 ∧ j = (sendingWorld.tasks 0).attempt) ∧
      (∀ e ∈ sendingWorld.queue ++ sendingWorld.held, e.oneshot? = some r →
        (0, (sendingWorld.tasks 0).attempt, e) ∈ sendingWorld.log) ∧
      ∀ w', Step sendingWorld w' → w'.tasks 0 = sendingWorld.tasks 0 ∨
        (∃ ch, sendingWorld.chans r = some ch ∧ ch.Ready ∧
          w'.tasks 0 = (sendingWorld.tasks 0).onReply ch.value) ∨
        (sendingWorld.tasks 0).expire? = some (w'.tasks 0) :=
  ⟨sendingWorld_reachable, rfl, rfl, calls_act_on_own_reply sendingWorld_reachable 0⟩

/-! ### A reply nobody awaits -/

/-- **A reply nobody awaits is lost.** In every reachable world, once the task that made a channel
no longer awaits it (it took the reply of an earlier attempt, moved on, or timed out), an answer
the driver sends on it stores nothing. -/
theorem late_reply_is_dropped {w : World} (hw : Reachable w) {r : ChanId} {ch : Chan}
    (hc : w.chans r = some ch) (hn : (w.tasks ch.owner).awaiting? ≠ some r) (v : Reply) :
    (ch.complete v).value = ch.value := by
  have hl : ch.receiverLive = false := by
    cases h : ch.receiverLive
    · rfl
    · exact absurd (hw.inv.receiver r ch hc h) hn
  simp [Chan.complete, hl]

/-- `dialWorld` once the dial's timeout fired. -/
def timedOutWorld : World :=
  { dialWorld with
    chans := dialWorld.releaseFor 0
    tasks := Function.update dialWorld.tasks 0 (.request (.dial ⟨0⟩) (.finished (.error .elapsed))) }

theorem timedOutWorld_drops_reply :
    Reachable timedOutWorld ∧ timedOutWorld.chans 0 = some ⟨0, 0, none, true, false⟩ ∧
    (timedOutWorld.tasks 0).awaiting? ≠ some 0 ∧
    ∀ v, (Chan.complete ⟨0, 0, none, true, false⟩ v).value = none :=
  have hw : Reachable timedOutWorld := dialWorld_reachable.step (Step.expire rfl)
  ⟨hw, rfl, by decide, late_reply_is_dropped hw (r := 0) rfl (by decide)⟩

end Iroh.Bitswap
