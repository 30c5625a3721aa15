import Iroh.Bitswap.Backpressure
import Iroh.Bitswap.Wakeup
import Iroh.Bitswap.Replies

/-!
# What every call does in the world

The world of `World` moves each task by the code of its own operation, and nothing else. Two
consequences are read off that here.

* **The send tasks run the loop.** A task running `send_message_with_retry_and_timeout` only
  ever resumes its loop (`SendArgs.resume`), so what the loop keeps on its own holds of it in every
  reachable world, whatever the other tasks and the driver do (`send_tasks_keep_the_loop`): the
  `retries - 1` of `if i < retries - 1` never underflows, attempts are numbered below `retries`,
  the loop records one transient error per failed attempt, and a `FailedToSend` reaching the
  caller names the call's peer and lists one error for each of the `retries` attempts.
* **No call is stuck.** From every reachable world, each busy call can return within four steps
  (`every_call_can_return`): the driver, woken if it is parked, pops an event when the channel is
  full; the call pushes its event; and its timeout fires at the await. `find_providers` and
  `provide` have no await and return on their push; among the requests only `dial` and `ping`,
  which await under a timeout, are ever at an await (`Task.Sound`). The outside wake-up is used
  only when it is needed: a call about to push while the channel is full and the driver parked
  stays where it is along every run without it (`stuck_without_wakeup`), and every other call
  returns within three steps without it (`returns_unwoken`).

## What each step rests on

`Task.Sound` is what the code keeps of one task: the loop's `WellFormed` and `Accounted`, and
for a request that only `dial` and `ping` await. Each move of a task keeps it (`Task.sound_afterPush`,
`Task.sound_onReply`, `Task.sound_of_expire`, `Task.sound_of_fresh`), so `Step.task_moves` carries
it along every run (`Reachable.sound`).
-/

namespace Iroh.Bitswap

namespace SendArgs

variable (a : SendArgs)

/-- The errors a loop state has collected: one per failed attempt; a `FailedToSend` names the
call's peer and holds one error per attempt. -/
def Accounted : LoopState → Prop
  | .sending i errors | .awaiting i errors _ => errors.length = i
  | .sleeping i errors => errors.length = i + 1
  | .finished (.error (.failedToSend peer errors)) => peer = a.peer ∧ errors.length = a.retries
  | _ => True

variable {a}

theorem accounted_loopHead {i : Nat} {errors : List TransientError} (h : errors.length = i)
    (hi : i ≤ a.retries) : a.Accounted (a.loopHead i errors) := by
  unfold loopHead
  split_ifs <;> simp [Accounted, h]
  omega

/-- A transient failure of a well-formed attempt backs off or bails out with every error. -/
theorem afterFailure_keeps {i : Nat} {errors : List TransientError} (e : TransientError)
    (hi : i < a.retries) (h : errors.length = i) :
    a.WellFormed (a.afterFailure i errors e) ∧ a.Accounted (a.afterFailure i errors e) := by
  by_cases hlast : i + 1 < a.retries
  · rw [afterFailure_of_lt hlast]
    exact ⟨hlast, by simp [Accounted, h]⟩
  · rw [afterFailure_last (by omega)]
    exact ⟨trivial, rfl, by simp [h]; omega⟩

/-- **Every resumption keeps the loop well formed and its errors accounted.** -/
theorem resume_keeps {s : LoopState} (hw : a.WellFormed s) (ha : a.Accounted s) (ρ : Resume) :
    a.WellFormed (a.resume s ρ) ∧ a.Accounted (a.resume s ρ) := by
  cases s with
  | sending i errors =>
    cases ρ with
    | sent r ok => cases ok <;> simp_all [resume, WellFormed, Accounted]
    | replied o => exact ⟨hw, ha⟩
    | woke => exact ⟨hw, ha⟩
  | awaiting i errors r =>
    cases ρ with
    | replied o =>
      rcases o with _ | (_ | reason) | _
      · simp [resume, Outcome.verdict, WellFormed, Accounted]
      · simp [resume, Outcome.verdict, WellFormed, Accounted]
      · exact afterFailure_keeps _ hw ha
      · exact afterFailure_keeps _ hw ha
    | sent r ok => exact ⟨hw, ha⟩
    | woke => exact ⟨hw, ha⟩
  | sleeping i errors =>
    cases ρ with
    | woke =>
      simp only [WellFormed, Accounted] at hw ha
      exact ⟨wellFormed_loopHead _ _, accounted_loopHead ha hw.le⟩
    | sent r ok => exact ⟨hw, ha⟩
    | replied o => exact ⟨hw, ha⟩
  | finished r => exact ⟨hw, ha⟩
  | panicked => exact ⟨hw, ha⟩

end SendArgs

/-! ### What the code keeps of each task -/

/-- A task as its code keeps it: a send task's loop is well formed and accounted, and only `dial`
and `ping` await a reply. -/
def Task.Sound : Task → Prop
  | .send a s => a.WellFormed s ∧ a.Accounted s
  | .request k (.awaiting _) => k.timed = true
  | _ => True

namespace Task

variable {t t' : Task}

theorem sound_afterPush (h : t.Sound) (r : ChanId) (ok : Bool) : (t.afterPush r ok).Sound := by
  rcases t with _ | ⟨a, s⟩ | ⟨k, s⟩ | _
  · trivial
  · exact SendArgs.resume_keeps h.1 h.2 _
  · cases ok
    · trivial
    · cases k <;> simp [afterPush, RequestKind.afterSend, Sound, RequestKind.timed]
  · trivial

theorem sound_onReply (h : t.Sound) (v : Option Reply) : (t.onReply v).Sound := by
  rcases t with _ | ⟨a, s⟩ | ⟨k, s⟩ | _
  · trivial
  · exact SendArgs.resume_keeps h.1 h.2 _
  · trivial
  · trivial

theorem sound_of_expire (h : t.expire? = some t') : t'.Sound := by
  rcases t with _ | ⟨a, _ | _ | _ | _ | _⟩ | ⟨k, _ | _ | _⟩ | _ <;> simp only [expire?] at h <;>
    (try split at h) <;> cases h <;> trivial

theorem sound_of_fresh (h : t.Fresh) : t.Sound := by
  rcases t with _ | ⟨a, s⟩ | ⟨k, s⟩ | _ <;> simp only [Fresh] at h
  · subst h
    exact ⟨SendArgs.wellFormed_loopHead 0 [], SendArgs.accounted_loopHead rfl (Nat.zero_le _)⟩
  · subst h
    trivial

end Task

theorem Reachable.sound {w : World} (hw : Reachable w) (p : Nat) : (w.tasks p).Sound := by
  induction hw generalizing p with
  | init => trivial
  | step _ hs ih =>
    rcases hs.task_moves p with h | ⟨i, e, -, ⟨-, h⟩ | ⟨-, h⟩⟩ | ⟨r, ch, -, -, -, h⟩ |
      ⟨a, i, errors, hp, h⟩ | h | ⟨-, h⟩ | ⟨-, h⟩
    · exact h ▸ ih p
    · exact h ▸ Task.sound_afterPush (ih p) _ _
    · exact h ▸ Task.sound_afterPush (ih p) _ _
    · exact h ▸ Task.sound_onReply (ih p) _
    · have := ih p
      rw [hp] at this
      exact h ▸ SendArgs.resume_keeps this.1 this.2 _
    · exact Task.sound_of_expire h
    · exact Task.sound_of_fresh h
    · exact h ▸ trivial

/-- **Every send task keeps the loop's own invariants**, in every reachable world of any number of
callers and the driver: its loop never panics on `retries - 1`, its attempts are numbered below
`retries` (a backoff only before a further attempt), it has recorded exactly one transient error
per failed attempt, and a `FailedToSend` it returned names its peer and lists `retries` errors. -/
theorem send_tasks_keep_the_loop {w : World} (hw : Reachable w) {p : Nat} {a : SendArgs}
    {s : LoopState} (hp : w.tasks p = .send a s) : a.WellFormed s ∧ a.Accounted s := by
  have h := hw.sound p
  rw [hp] at h
  exact h

/-- In `retryWorld` task `0` sleeps its backoff after a failed first attempt, holding its error. -/
theorem retryWorld_keeps_the_loop :
    Reachable retryWorld ∧ retryWorld.tasks 0 = .send defaultSend (.sleeping 0 [.other "reset"]) ∧
      defaultSend.WellFormed (.sleeping 0 [.other "reset"]) ∧
      defaultSend.Accounted (.sleeping 0 [.other "reset"]) :=
  ⟨retryWorld_reachable, rfl, send_tasks_keep_the_loop retryWorld_reachable (p := 0) rfl⟩

/-! ### No call is stuck -/

/-- Runs of exactly `n` steps of `r`. -/
inductive StepsIn (r : World → World → Prop) : Nat → World → World → Prop
  | refl (w : World) : StepsIn r 0 w w
  | tail {n : Nat} {w w' w'' : World} : StepsIn r n w w' → r w' w'' → StepsIn r (n + 1) w w''

namespace StepsIn

variable {r r' : World → World → Prop} {n : Nat} {w w' w'' : World}

theorem single (h : r w w') : StepsIn r 1 w w' := (refl w).tail h

theorem head (h : r w w') (h' : StepsIn r n w' w'') : StepsIn r (n + 1) w w'' := by
  induction h' with
  | refl => exact single h
  | tail _ hs ih => exact (ih h).tail hs

theorem mono (hr : ∀ a b, r a b → r' a b) (h : StepsIn r n w w') : StepsIn r' n w w' := by
  induction h with
  | refl => exact refl _
  | tail _ hs ih => exact ih.tail (hr _ _ hs)

theorem reflTransGen (h : StepsIn r n w w') : Relation.ReflTransGen r w w' := by
  induction h with
  | refl => exact .refl
  | tail _ hs ih => exact ih.tail hs

end StepsIn

/-- A step that changes the channel, the tasks or the next channel is not the outside wake-up. -/
theorem unwokenStep_of_ne {w w' : World} (h : Step w w')
    (hne : w'.nextChan ≠ w.nextChan ∨ w'.tasks ≠ w.tasks ∨ w'.queue ≠ w.queue) :
    UnwokenStep w w' :=
  ⟨h, fun he ↦ by subst he; simp at hne⟩

/-- **A polling driver makes room**: from every reachable world whose driver is polling or whose
channel has room, at most one poll reaches a world with room, every task as it was. -/
theorem exists_room {w : World} (hw : Reachable w)
    (h : w.driver = .polling ∨ w.queue.length < outCapacity) :
    ∃ n w', n ≤ 1 ∧ StepsIn UnwokenStep n w w' ∧ w'.tasks = w.tasks ∧ w'.nextChan = w.nextChan ∧
      w'.queue.length < outCapacity := by
  by_cases hlt : w.queue.length < outCapacity
  · exact ⟨0, w, Nat.zero_le _, .refl w, rfl, rfl, hlt⟩
  obtain ⟨e, rest, hq⟩ : ∃ e rest, w.queue = e :: rest := by
    cases h : w.queue with
    | nil => simp [h, outCapacity] at hlt
    | cons e rest => exact ⟨e, rest, rfl⟩
  have hlen : rest.length < outCapacity := by
    have := hw.inv.queue_le
    rw [hq, List.length_cons] at this
    omega
  have hs := Step.pollReady (h.resolve_right hlt) (Network.poll_eq_some.2 hq)
  exact ⟨1, _, le_rfl, .single (unwokenStep_of_ne hs (.inr (.inr (hq ▸ (List.cons_ne_self e rest).symm)))),
    rfl, rfl, hlen⟩

/-- **A task about to push gets to push** once the driver polls or the channel has room. -/
theorem exists_push {w : World} (hw : Reachable w)
    (h : w.driver = .polling ∨ w.queue.length < outCapacity) {p i : Nat} {e : OutEvent}
    (hp : (w.tasks p).pending? w.nextChan = some (i, e)) :
    ∃ n w' r, n ≤ 2 ∧ StepsIn UnwokenStep n w w' ∧ w'.tasks p = (w.tasks p).afterPush r true := by
  obtain ⟨n, w₁, hn, h₁, ht, hc, hroom⟩ := exists_room hw h
  have hw₁ := hw.run (h₁.mono fun _ _ h ↦ h.1).reflTransGen
  have hnet : w₁.networks ≠ 0 := Nat.one_le_iff_ne_zero.1
    (hw₁.inv.networks_pos p (by rw [ht]; exact (Task.pending?_busy hp).2))
  rw [← ht, ← hc] at hp
  have hs := Step.push hp (crossbeamSend_eq_ok.2 ⟨hnet, hroom, rfl⟩)
  exact ⟨n + 1, _, w₁.nextChan, by omega, h₁.tail (unwokenStep_of_ne hs (.inl (by simp))),
    by simp [ht]⟩

/-- A call whose timeout fires into a returned state returns. -/
theorem returns_of_expire {w : World} {p : Nat} {t : Task} (h : (w.tasks p).expire? = some t)
    (ht : t.Quiet) : ∃ w', UnwokenStep w w' ∧ (w'.tasks p).Quiet := by
  refine ⟨_, unwokenStep_of_ne (Step.expire h) (.inr (.inl fun he ↦ ?_)), by simpa using ht⟩
  have : t = w.tasks p := by simpa using congrFun he p
  exact Task.not_quiet_of_expire h (this ▸ ht)

/-- **A call returns without the outside wake-up** when the driver polls, the channel has room, or
the call is not about to push: within three steps, a poll, its push and its timeout.
`find_providers` and `provide` return on their push. -/
theorem returns_unwoken {w : World} (hw : Reachable w) (p : Nat)
    (h : w.driver = .polling ∨ w.queue.length < outCapacity ∨
      (w.tasks p).pending? w.nextChan = none) :
    ∃ n w', n ≤ 3 ∧ StepsIn UnwokenStep n w w' ∧ (w'.tasks p).Quiet := by
  have hsound := hw.sound p
  have hroom : ∀ {x}, (w.tasks p).pending? w.nextChan = some x →
      w.driver = .polling ∨ w.queue.length < outCapacity := fun hx ↦
    h.imp_right (·.resolve_right (by simp [hx]))
  cases ht : w.tasks p with
  | idle | expired => exact ⟨0, w, Nat.zero_le _, .refl w, by simp [ht, Task.Quiet]⟩
  | send a s =>
    rw [ht] at hsound
    cases s with
    | sending i errors =>
      have hp : (w.tasks p).pending? w.nextChan = some (i, a.event w.nextChan) := by
        simp [ht, Task.pending?]
      obtain ⟨n, w', r, hn, h₁, ht'⟩ := exists_push hw (hroom hp) hp
      obtain ⟨w'', h₂, hq⟩ := returns_of_expire (w := w') (p := p) (t := .expired)
        (by simp [ht', ht, Task.afterPush, SendArgs.resume, Task.expire?]) trivial
      exact ⟨n + 1, w'', by omega, h₁.tail h₂, hq⟩
    | awaiting _ _ _ | sleeping _ _ =>
      obtain ⟨w', h₁, hq⟩ := returns_of_expire (w := w) (p := p) (t := .expired)
        (by simp [ht, Task.expire?]) trivial
      exact ⟨1, w', by omega, .single h₁, hq⟩
    | finished r => exact ⟨0, w, Nat.zero_le _, .refl w, by simp [ht, Task.Quiet]⟩
    | panicked => exact absurd hsound.1 id
  | request k s =>
    rw [ht] at hsound
    cases s with
    | start =>
      have hp : (w.tasks p).pending? w.nextChan = some (0, k.event w.nextChan) := by
        simp [ht, Task.pending?]
      obtain ⟨n, w', r, hn, h₁, ht'⟩ := exists_push hw (hroom hp) hp
      rw [ht] at ht'
      cases k with
      | dial peer | ping peer =>
        obtain ⟨w'', h₂, hq⟩ := returns_of_expire (w := w') (p := p)
          (by simp [ht', Task.afterPush, RequestKind.afterSend, Task.expire?, RequestKind.timed]; rfl)
          (by simp [Task.Quiet])
        exact ⟨n + 1, w'', by omega, h₁.tail h₂, hq⟩
      | findProviders key | provide key =>
        exact ⟨n, w', by omega, h₁, by simp [ht', Task.afterPush, RequestKind.afterSend, Task.Quiet]⟩
    | awaiting r =>
      obtain ⟨w', h₁, hq⟩ := returns_of_expire (w := w) (p := p)
        (by simp [ht, Task.expire?, show k.timed = true from hsound]; rfl) (by simp [Task.Quiet])
      exact ⟨1, w', by omega, .single h₁, hq⟩
    | finished result => exact ⟨0, w, Nat.zero_le _, .refl w, by simp [ht, Task.Quiet]⟩

/-- A task about to push stays about to push, whatever channel comes next. -/
theorem Task.pending?_some_of_some {t : Task} {r : ChanId} {x : Nat × OutEvent}
    (h : t.pending? r = some x) (r' : ChanId) : ∃ y, t.pending? r' = some y := by
  rcases t with _ | ⟨a, _ | _ | _ | _ | _⟩ | ⟨k, _ | _ | _⟩ | _ <;> simp_all [Task.pending?]

/-- **The outside wake-up is needed** by a call about to push while the channel is full and the
driver is parked: every run without it leaves the driver parked, the channel full and the call
where it was. -/
theorem stuck_without_wakeup {w : World} (hw : Reachable w) {p i : Nat} {e : OutEvent}
    (hp : (w.tasks p).pending? w.nextChan = some (i, e)) (hd : w.driver = .parked)
    (hfull : outCapacity ≤ w.queue.length) {w' : World}
    (h : Relation.ReflTransGen UnwokenStep w w') :
    w'.driver = .parked ∧ w.queue <+: w'.queue ∧ w'.tasks p = w.tasks p := by
  induction h with
  | refl => exact ⟨hd, List.prefix_refl _, rfl⟩
  | @tail b c hrun hs ih =>
    obtain ⟨hd₁, hq₁, ht₁⟩ := ih
    rcases hs.1.of_parked hd₁ with he | ⟨hd₂, hq₂⟩
    · exact absurd he hs.2
    have hw₁ := hw.run (hrun.mono fun _ _ h ↦ h.1)
    have hp₀ : (b.tasks p).pending? w.nextChan = some (i, e) := by rw [ht₁]; exact hp
    obtain ⟨⟨i', e'⟩, hp₁⟩ := Task.pending?_some_of_some hp₀ b.nextChan
    have hnet := hw₁.inv.networks_pos p (Task.pending?_busy hp₁).2
    have hf : crossbeamSend b.queue b.networks e' = .full :=
      crossbeamSend_eq_full.2 ⟨Nat.one_le_iff_ne_zero.1 hnet, hfull.trans hq₁.length_le⟩
    exact ⟨hd₂, hq₁.trans hq₂, (hs.1.task_blocked hp₁ hf).trans ht₁⟩

/-- **Every call can return.** In every reachable world, among the requests only `dial` and `ping`
await a reply. Each task's call returns within four steps. Unless it is about to push while the
channel is full and the driver parked, it returns within three steps without the outside wake-up:
a poll, its push and its timeout. In that one case the wake-up is needed: every run without it
leaves the call where it is. -/
theorem every_call_can_return {w : World} (hw : Reachable w) (p : Nat) :
    (∀ k r, w.tasks p = .request k (.awaiting r) →
      (∃ peer, k = .dial peer) ∨ ∃ peer, k = .ping peer) ∧
    (∃ n w', n ≤ 4 ∧ StepsIn Step n w w' ∧ (w'.tasks p).Quiet) ∧
    (w.driver = .polling ∨ w.queue.length < outCapacity ∨
        (w.tasks p).pending? w.nextChan = none →
      ∃ n w', n ≤ 3 ∧ StepsIn UnwokenStep n w w' ∧ (w'.tasks p).Quiet) ∧
    ∀ i e, (w.tasks p).pending? w.nextChan = some (i, e) → w.driver = .parked →
      outCapacity ≤ w.queue.length →
      ∀ w', Relation.ReflTransGen UnwokenStep w w' → w'.tasks p = w.tasks p := by
  refine ⟨fun k r hk ↦ ?_, ?_, returns_unwoken hw p,
    fun i e hp hd hfull w' h ↦ (stuck_without_wakeup hw hp hd hfull h).2.2⟩
  · have hsound := hw.sound p
    rw [hk] at hsound
    cases k <;> simp_all [Task.Sound, RequestKind.timed]
  · by_cases h : w.driver = .polling ∨ w.queue.length < outCapacity ∨
        (w.tasks p).pending? w.nextChan = none
    · obtain ⟨n, w', hn, hrun, hq⟩ := returns_unwoken hw p h
      exact ⟨n, w', by omega, hrun.mono fun _ _ h ↦ h.1, hq⟩
    · have hd : w.driver = .parked := by cases hd : w.driver <;> simp_all
      have hs := Step.wakeDriver hd
      obtain ⟨n, w', hn, hrun, hq⟩ := returns_unwoken (hw.step hs) p (.inl rfl)
      exact ⟨n + 1, w', by omega, .head hs (hrun.mono fun _ _ h ↦ h.1), hq⟩

theorem dialWorld_call_can_return :
    Reachable dialWorld ∧
    (∀ k r, dialWorld.tasks 0 = .request k (.awaiting r) →
      (∃ peer, k = .dial peer) ∨ ∃ peer, k = .ping peer) ∧
    (∃ n w', n ≤ 4 ∧ StepsIn Step n dialWorld w' ∧ (w'.tasks 0).Quiet) ∧
    (dialWorld.driver = .polling ∨ dialWorld.queue.length < outCapacity ∨
        (dialWorld.tasks 0).pending? dialWorld.nextChan = none →
      ∃ n w', n ≤ 3 ∧ StepsIn UnwokenStep n dialWorld w' ∧ (w'.tasks 0).Quiet) ∧
    ∀ i e, (dialWorld.tasks 0).pending? dialWorld.nextChan = some (i, e) →
      dialWorld.driver = .parked → outCapacity ≤ dialWorld.queue.length →
      ∀ w', Relation.ReflTransGen UnwokenStep dialWorld w' → w'.tasks 0 = dialWorld.tasks 0 :=
  ⟨dialWorld_reachable, every_call_can_return dialWorld_reachable 0⟩

end Iroh.Bitswap
