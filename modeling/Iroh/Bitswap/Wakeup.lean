import Iroh.Bitswap.WorldInvariant

/-!
# A push does not wake the driver

`Network::poll` reads nothing from its `Context`: on an empty channel it returns `Pending` and keeps
no waker, and `crossbeam`'s `send` knows of no task to wake. Under the contract of `poll`, a swarm
task that got `Pending` is polled again only once its waker is woken; after a `Pending`, only
something other than the channel can wake the driver. In the model that is `Driver.parked`, and
`Step.wakeDriver` is the outside wake-up.

From a parked driver, every run without the outside wake-up leaves the driver parked and only
lengthens the channel: the events pushed meanwhile all wait
(`pending_events_wait_for_outside_wakeup`). `dialWorld` is reachable, with a `Dial` waiting and the
driver parked.
-/

namespace Iroh.Bitswap

/-- A step other than the outside wake-up of the swarm task. -/
def UnwokenStep (w w' : World) : Prop := Step w w' ∧ w' ≠ { w with driver := .polling }

/-- From a parked driver, a step is the outside wake-up, or leaves the driver parked and only
appends to the channel. -/
theorem Step.of_parked {w w' : World} (h : Step w w') (hd : w.driver = .parked) :
    w' = { w with driver := .polling } ∨ w'.driver = .parked ∧ w.queue <+: w'.queue := by
  cases h
  case push hp hs =>
    obtain ⟨-, -, rfl⟩ := crossbeamSend_eq_ok.1 hs
    exact .inr ⟨hd, List.prefix_append _ _⟩
  case pollReady hd' _ => simp [hd] at hd'
  case pollPending hd' _ => simp [hd] at hd'
  case wakeDriver => exact .inl rfl
  all_goals exact .inr ⟨hd, List.prefix_refl _⟩

/-- **A push does not wake the driver.** From a parked driver, every run of steps without the
outside wake-up leaves it parked, with every event that was waiting still waiting, in order. -/
theorem pending_events_wait_for_outside_wakeup {w w' : World} (hd : w.driver = .parked)
    (h : Relation.ReflTransGen UnwokenStep w w') : w'.driver = .parked ∧ w.queue <+: w'.queue := by
  induction h with
  | refl => exact ⟨hd, List.prefix_refl _⟩
  | tail _ hs ih =>
    rcases hs.1.of_parked ih.1 with h | ⟨hd', hq⟩
    · exact absurd h hs.2
    · exact ⟨hd', ih.2.trans hq⟩

/-- A step that leaves the driver parked is not the wake-up. -/
theorem unwokenStep_of_parked {w w' : World} (h : Step w w') (hd : w'.driver = .parked) :
    UnwokenStep w w' :=
  ⟨h, fun he ↦ Driver.noConfusion (hd.symm.trans (congrArg World.driver he))⟩

/-- With the driver parked, task `0` dials: two steps, neither of which wakes the driver. -/
theorem parked_run_to_dialWorld :
    Relation.ReflTransGen UnwokenStep { World.init with driver := .parked } dialWorld := by
  have h₁ := Step.spawn (w := { World.init with driver := .parked }) (p := 0)
    (t := .request (.dial ⟨0⟩) .start) rfl rfl le_rfl
  have h₂ := Step.push (p := 0) (i := 0) (e := .dial ⟨0⟩ 0)
    (w := { World.init with
      driver := .parked
      tasks := Function.update (fun _ ↦ .idle) 0 (.request (.dial ⟨0⟩) .start) }) rfl rfl
  convert Relation.ReflTransGen.tail (.single (unwokenStep_of_parked h₁ rfl))
    (unwokenStep_of_parked h₂ rfl) using 1
  simp only [dialWorld, World.init, World.openFor, OutEvent.oneshot?, Function.update_idem,
    Function.update_same, List.nil_append, Nat.zero_add]
  rfl

theorem dialWorld_waits_for_outside_wakeup :
    ({ World.init with driver := .parked } : World).driver = .parked ∧
    Relation.ReflTransGen UnwokenStep { World.init with driver := .parked } dialWorld ∧
    dialWorld.driver = .parked ∧ ({ World.init with driver := .parked } : World).queue <+: dialWorld.queue :=
  ⟨rfl, parked_run_to_dialWorld, pending_events_wait_for_outside_wakeup rfl parked_run_to_dialWorld⟩

/-- **An event waits while the driver is parked with no wake-up pending**: `dialWorld` is reachable,
its `Dial` is in the channel, and the driver is parked after a `Pending`. -/
theorem dial_waits_with_driver_parked :
    Reachable dialWorld ∧ dialWorld.queue = [.dial ⟨0⟩ 0] ∧ dialWorld.driver = .parked :=
  ⟨dialWorld_reachable, rfl, rfl⟩

end Iroh.Bitswap
