import Iroh.Bitswap.WorldInvariant

/-!
# A full channel blocks its producers

`crossbeam`'s `send` on the bounded channel returns `Err` only when every receiver is gone, and
blocks the calling thread while the channel is full. Every `Network` holds a receiver, and a busy
task borrows a `Network`; so in every reachable world (`enqueue_waits_for_room`):

* the channel holds at most `outCapacity` events;
* a push below capacity puts the event at the back, and the task goes on;
* a push at capacity blocks: no step moves the task until the driver pops an event;
* no operation ever returns the channel-send error.

`providersWorld` fills the channel: tasks `0, …, n - 1` each push a `Provide` and the driver is not
polled. In `fullWorld` one more `provide` is about to push.
-/

namespace Iroh.Bitswap

/-- A task whose `send` finds the channel full has no move. -/
theorem Step.task_blocked {w w' : World} (h : Step w w') {p i : Nat} {e : OutEvent}
    (hp : (w.tasks p).pending? w.nextChan = some (i, e))
    (hf : crossbeamSend w.queue w.networks e = .full) : w'.tasks p = w.tasks p := by
  rcases h.task_moves p with h | ⟨i', e', hp', hmove⟩ | ⟨r, -, hr, -⟩ |
    ⟨a, j, errors, hs, -⟩ | h | ⟨hidle, -⟩ | ⟨hq, -⟩
  · exact h
  · obtain ⟨rfl, rfl⟩ : i = i' ∧ e = e' := by simpa [hp] using hp'
    simp [hf] at hmove
  · simp [(Task.pending?_busy hp).1] at hr
  · simp [hs, Task.pending?] at hp
  · simp [Task.expire?_of_pending hp] at h
  · simp [hidle, Task.pending?] at hp
  · exact absurd hq (Task.pending?_busy hp).2

/-- **A push waits for room and never fails.** In every reachable world the channel holds at most
`outCapacity` events and no operation has returned the channel-send error; a task about to push
appends its event when there is room, and otherwise blocks, unmoved by every step. -/
theorem enqueue_waits_for_room {w : World} (hw : Reachable w) :
    w.queue.length ≤ outCapacity ∧ (∀ q, ¬ (w.tasks q).EnqueueFailed) ∧
    ∀ p i e, (w.tasks p).pending? w.nextChan = some (i, e) →
      (w.queue.length < outCapacity → crossbeamSend w.queue w.networks e = .ok (w.queue ++ [e])) ∧
      (w.queue.length = outCapacity → crossbeamSend w.queue w.networks e = .full ∧
        ∀ w', Step w w' → w'.tasks p = w.tasks p) := by
  have hi := hw.inv
  refine ⟨hi.queue_le, hi.no_enqueue_failed, fun p i e hp ↦ ?_⟩
  have hn : w.networks ≠ 0 :=
    Nat.one_le_iff_ne_zero.1 (hi.networks_pos p (Task.pending?_busy hp).2)
  have hfull : w.queue.length = outCapacity → crossbeamSend w.queue w.networks e = .full :=
    fun h ↦ crossbeamSend_eq_full.2 ⟨hn, h.ge⟩
  exact ⟨fun h ↦ crossbeamSend_eq_ok.2 ⟨hn, h, rfl⟩,
    fun h ↦ ⟨hfull h, fun w' hs ↦ hs.task_blocked hp (hfull h)⟩⟩

/-! ### Filling the channel -/

/-- The world once tasks `0, …, n - 1` each pushed a `Provide` of `key`, the driver not polled. -/
def providersWorld (key : Cid) (n : Nat) : World where
  queue := List.replicate n (.generateEvent (.provide key))
  networks := 1
  held := []
  chans := fun _ ↦ none
  nextChan := n
  tasks := fun k ↦ if k < n then .request (.provide key) (.finished (.ok .provided)) else .idle
  driver := .polling
  log := (List.range n).map fun k ↦ (k, 0, .generateEvent (.provide key))

theorem providersWorld_reachable (key : Cid) :
    ∀ n, n ≤ outCapacity → Reachable (providersWorld key n)
  | 0, _ => Reachable.init
  | n + 1, h => by
    have h₁ := (providersWorld_reachable key n (by omega)).step
      (Step.spawn (p := n) (t := .request (.provide key) .start) (by simp [providersWorld]) rfl le_rfl)
    have h₂ := h₁.step (Step.push (p := n) (i := 0) (e := .generateEvent (.provide key))
      (by simp [providersWorld, Task.pending?, RequestKind.event])
      (crossbeamSend_eq_ok.2 ⟨Nat.one_ne_zero, by simp [providersWorld]; omega, rfl⟩))
    convert h₂ using 1
    simp only [providersWorld, World.mk.injEq, List.replicate_succ', List.range_succ,
      List.map_append, List.map_cons, List.map_nil, World.openFor, OutEvent.oneshot?,
      Function.update_idem, Function.update_same, true_and, and_true]
    funext k
    rcases lt_trichotomy k n with hk | rfl | hk
    · simp [hk, Function.update_noteq hk.ne, Nat.lt_succ_of_lt hk]
    · simp [Task.afterPush, RequestKind.afterSend]
    · simp [Function.update_noteq hk.ne', hk.not_lt, (Nat.succ_le_of_lt hk).not_lt]

/-- `outCapacity` events wait, and task `outCapacity` is about to push one more `Provide`. -/
def fullWorld : World :=
  { providersWorld ⟨0⟩ outCapacity with
    tasks := Function.update (providersWorld ⟨0⟩ outCapacity).tasks outCapacity
      (.request (.provide ⟨0⟩) .start) }

theorem fullWorld_reachable : Reachable fullWorld :=
  (providersWorld_reachable ⟨0⟩ outCapacity le_rfl).step
    (Step.spawn (by simp [providersWorld]) rfl le_rfl)

theorem fullWorld_waits_for_room :
    Reachable fullWorld ∧
    fullWorld.queue.length ≤ outCapacity ∧ (∀ q, ¬ (fullWorld.tasks q).EnqueueFailed) ∧
    ∀ p i e, (fullWorld.tasks p).pending? fullWorld.nextChan = some (i, e) →
      (fullWorld.queue.length < outCapacity →
        crossbeamSend fullWorld.queue fullWorld.networks e = .ok (fullWorld.queue ++ [e])) ∧
      (fullWorld.queue.length = outCapacity →
        crossbeamSend fullWorld.queue fullWorld.networks e = .full ∧
        ∀ w', Step fullWorld w' → w'.tasks p = fullWorld.tasks p) :=
  ⟨fullWorld_reachable, enqueue_waits_for_room fullWorld_reachable⟩

/-- **With `outCapacity` events waiting, a `provide` does not return the channel-send error**: its
`send` blocks, and no step moves the task. -/
theorem provide_blocks_on_full_channel :
    Reachable fullWorld ∧ fullWorld.queue.length = outCapacity ∧
    (fullWorld.tasks outCapacity).pending? fullWorld.nextChan =
      some (0, .generateEvent (.provide ⟨0⟩)) ∧
    crossbeamSend fullWorld.queue fullWorld.networks (.generateEvent (.provide ⟨0⟩)) = .full ∧
    ∀ w', Step fullWorld w' → w'.tasks outCapacity = fullWorld.tasks outCapacity := by
  have hp : (fullWorld.tasks outCapacity).pending? fullWorld.nextChan =
      some (0, .generateEvent (.provide ⟨0⟩)) := by
    simp [fullWorld, providersWorld, Task.pending?, RequestKind.event]
  have hf : crossbeamSend fullWorld.queue fullWorld.networks (.generateEvent (.provide ⟨0⟩)) =
      .full := crossbeamSend_eq_full.2 ⟨Nat.one_ne_zero, by simp [fullWorld, providersWorld]⟩
  exact ⟨fullWorld_reachable, by simp [fullWorld, providersWorld], hp, hf,
    fun w' hs ↦ hs.task_blocked hp hf⟩

end Iroh.Bitswap
