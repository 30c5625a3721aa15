import Mathlib.Data.List.Nodup
import Iroh.Bitswap.WorldInvariant

/-!
# Each reply sender is used at most once

`dial`, `ping` and `send_message_with_retry_and_timeout` put the sender half of a fresh
`oneshot::channel()` into the event they push. The sender travels with the event: in the channel
until `Network::poll` returns it, then with the driver, which uses it once. `Sender::send`
consumes it, and dropping it unanswered closes the channel. So a task that takes a reply takes the
only answer its channel ever gets. This module shows that the world keeps this discipline across
every interleaving of the tasks and the driver.

* `ReplyInv`: a sender is alive exactly while a waiting event carries it, no two waiting events
  carry the same one, and a channel holds no value while its sender is alive.
* `reply_sent_at_most_once`: in every reachable world the waiting events carrying a channel's
  sender number one while it is alive and none after; along every run from there, a channel whose
  sender was used keeps its value.

## What each step rests on

The waiting senders are `World.pendingOneshots`. A push adds the fresh channel's sender
(`ReplyInv.push`). A poll moves an event from the channel to the driver, which only reorders them
(`ReplyInv.of_perm`). An answer or a drop removes the one event carrying the sender it uses
(`ReplyInv.answer`). Every other step leaves the senders and the values alone: a task that gives up
its receiver changes only `receiverLive` (`World.releaseFor_keeps`).
-/

namespace Iroh.Bitswap

/-- The one-shot senders the waiting events carry: the events in the channel, then those the
driver holds. -/
def World.pendingOneshots (w : World) : List ChanId :=
  (w.queue ++ w.held).filterMap OutEvent.oneshot?

/-- A task that gives up its receiver keeps every channel's sender and value. -/
theorem World.releaseFor_keeps {w : World} {p : Nat} {r : ChanId} {ch' : Chan}
    (h : w.releaseFor p r = some ch') :
    ∃ ch, w.chans r = some ch ∧ ch'.senderLive = ch.senderLive ∧ ch'.value = ch.value := by
  rw [World.releaseFor_apply, Option.map_eq_some'] at h
  obtain ⟨ch, hc, rfl⟩ := h
  exact ⟨ch, hc, by split_ifs <;> rfl, by split_ifs <;> rfl⟩

/-- Every waiting event's sender belongs to a channel already made. -/
theorem Inv.pending_made {w : World} (hi : Inv w) {r : ChanId} (hr : r ∈ w.pendingOneshots) :
    ∃ ch, w.chans r = some ch := by
  obtain ⟨e, he, her⟩ := List.mem_filterMap.1 hr
  obtain ⟨q, j, hl⟩ := hi.pending_logged e he
  obtain ⟨ch, hc, -⟩ := hi.logged q j e r hl her
  exact ⟨ch, hc⟩

/-- What the reply senders keep along every run. -/
structure ReplyInv (w : World) : Prop where
  /-- A sender is alive exactly while a waiting event carries it. -/
  live_iff : ∀ r ch, w.chans r = some ch → (ch.senderLive = true ↔ r ∈ w.pendingOneshots)
  /-- No two waiting events carry the same sender. -/
  nodup : w.pendingOneshots.Nodup
  /-- A channel holds no value while its sender is alive. -/
  empty : ∀ r ch, w.chans r = some ch → ch.senderLive = true → ch.value = none

namespace ReplyInv

variable {w w' : World}

theorem init : ReplyInv World.init where
  live_iff _ _ h := by simp [World.init] at h
  nodup := by simp [World.pendingOneshots, World.init]
  empty _ _ h := by simp [World.init] at h

/-- **A step that only reorders the waiting events** and keeps every sender and value. -/
theorem of_perm (hr : ReplyInv w)
    (hc : ∀ r ch', w'.chans r = some ch' →
      ∃ ch, w.chans r = some ch ∧ ch'.senderLive = ch.senderLive ∧ ch'.value = ch.value)
    (hp : w'.pendingOneshots.Perm w.pendingOneshots) : ReplyInv w' where
  live_iff r ch' h := by
    obtain ⟨ch, hch, hs, -⟩ := hc r ch' h
    rw [hs, hp.mem_iff]
    exact hr.live_iff r ch hch
  nodup := hp.nodup_iff.2 hr.nodup
  empty r ch' h hl := by
    obtain ⟨ch, hch, hs, hv⟩ := hc r ch' h
    rw [hv]
    exact hr.empty r ch hch (hs ▸ hl)

/-- A step that moves no event. -/
theorem frame (hr : ReplyInv w)
    (hc : ∀ r ch', w'.chans r = some ch' →
      ∃ ch, w.chans r = some ch ∧ ch'.senderLive = ch.senderLive ∧ ch'.value = ch.value)
    (hq : w'.queue = w.queue) (hh : w'.held = w.held) : ReplyInv w' :=
  hr.of_perm hc (by rw [World.pendingOneshots, World.pendingOneshots, hq, hh])

/-- **A push** puts its event at the back of the channel; the sender it carries, if any, is the
fresh channel's. -/
theorem push (hi : Inv w) (hr : ReplyInv w) {p i : Nat} {e : OutEvent}
    (hfresh : ∀ r, e.oneshot? = some r → r = w.nextChan)
    (hq : w'.queue = w.queue ++ [e]) (hh : w'.held = w.held) (hc : w'.chans = w.openFor p i e) :
    ReplyInv w' := by
  cases he : e.oneshot? with
  | none =>
    refine hr.of_perm (fun r ch' h ↦ ⟨ch', by simpa [hc, World.openFor, he] using h, rfl, rfl⟩) ?_
    simp [World.pendingOneshots, hq, hh, he]
  | some r₀ =>
    have hpend : w'.pendingOneshots.Perm (r₀ :: w.pendingOneshots) := by
      simp only [World.pendingOneshots, hq, hh, List.filterMap_append, List.filterMap_cons, he,
        List.filterMap_nil, List.append_assoc, List.singleton_append]
      exact List.perm_middle
    have hnot : r₀ ∉ w.pendingOneshots := fun hm ↦ by
      obtain ⟨ch, hch⟩ := hi.pending_made hm
      simp [hi.fresh r₀ (hfresh r₀ he).ge] at hch
    have hchan : ∀ r ch, w'.chans r = some ch →
        r = r₀ ∧ ch = ⟨p, i, none, true, true⟩ ∨ r ≠ r₀ ∧ w.chans r = some ch := fun r ch h ↦ by
      rw [hc, World.openFor_apply, he] at h
      rcases eq_or_ne r r₀ with rfl | hne
      · exact .inl ⟨rfl, by simpa using h.symm⟩
      · exact .inr ⟨hne, by simpa [Ne.symm hne] using h⟩
    refine ⟨fun r ch h ↦ ?_, hpend.nodup_iff.2 (List.nodup_cons.2 ⟨hnot, hr.nodup⟩),
      fun r ch h ↦ ?_⟩
    · rw [hpend.mem_iff, List.mem_cons]
      rcases hchan r ch h with ⟨rfl, rfl⟩ | ⟨hne, h⟩
      · simp
      · simpa [hne] using hr.live_iff r ch h
    · rcases hchan r ch h with ⟨rfl, rfl⟩ | ⟨-, h⟩
      · exact fun _ ↦ rfl
      · exact hr.empty r ch h

/-- **The driver answers or drops a held event's sender**: the event leaves the driver, and its
channel's sender is used. -/
theorem answer (hr : ReplyInv w) {e : OutEvent} {r : ChanId} {ch' : Chan} (he : e ∈ w.held)
    (hre : e.oneshot? = some r) (hs : ch'.senderLive = false) (hq : w'.queue = w.queue)
    (hh : w'.held = w.held.erase e) (hc : w'.chans = Function.update w.chans r (some ch')) :
    ReplyInv w' := by
  have hpend : w.pendingOneshots.Perm (r :: w'.pendingOneshots) := by
    have h : (w.queue ++ w.held).Perm (e :: (w'.queue ++ w'.held)) := by
      rw [hq, hh]
      exact ((List.perm_cons_erase he).append_left _).trans List.perm_middle
    simpa [World.pendingOneshots, hre] using List.Perm.filterMap OutEvent.oneshot? h
  obtain ⟨hnot, hnd⟩ := List.nodup_cons.1 (hpend.nodup_iff.1 hr.nodup)
  refine ⟨fun r' ch h ↦ ?_, hnd, fun r' ch h hl ↦ ?_⟩
  · rcases eq_or_ne r' r with rfl | hne
    · obtain rfl : ch' = ch := by simpa [hc] using h
      simp [hs, hnot]
    · have h' : r' ∈ w.pendingOneshots ↔ r' ∈ w'.pendingOneshots := by
        simp [hpend.mem_iff, hne]
      rw [← h']
      exact hr.live_iff r' ch (by simpa [hc, hne] using h)
  · rcases eq_or_ne r' r with rfl | hne
    · obtain rfl : ch' = ch := by simpa [hc] using h
      simp [hs] at hl
    · exact hr.empty r' ch (by simpa [hc, hne] using h) hl

/-- **Every step keeps the invariant.** -/
theorem step (hi : Inv w) (hr : ReplyInv w) (h : Step w w') : ReplyInv w' := by
  cases h
  case push hp hs =>
    obtain ⟨-, -, rfl⟩ := crossbeamSend_eq_ok.1 hs
    exact hr.push hi (fun _ ↦ Task.oneshot_of_pending hp) rfl rfl rfl
  case receive | expire => exact hr.frame (fun _ _ ↦ World.releaseFor_keeps) rfl rfl
  case pollReady e rest hd hq =>
    rw [Network.poll_eq_some] at hq
    refine hr.of_perm (fun r ch' h ↦ ⟨ch', h, rfl, rfl⟩) ?_
    simp only [World.pendingOneshots, hq]
    split_ifs with hs
    · rw [← List.append_assoc]
      exact List.Perm.filterMap _ (List.perm_append_singleton _ _)
    · simp_all
  case reply he hre _ _ => exact hr.answer he hre (by simp [Chan.complete]) rfl rfl rfl
  case dropReply he hre _ => exact hr.answer he hre rfl rfl rfl rfl
  all_goals exact hr.frame (fun _ ch' h ↦ ⟨ch', h, rfl, rfl⟩) rfl rfl

end ReplyInv

theorem Reachable.replyInv {w : World} (h : Reachable w) : ReplyInv w := by
  induction h with
  | init => exact ReplyInv.init
  | step hw hs ih => exact ih.step hw.inv hs

/-- A run from a reachable world stays among the reachable worlds. -/
theorem Reachable.run {w w' : World} (hw : Reachable w) (h : Relation.ReflTransGen Step w w') :
    Reachable w' := by
  induction h with
  | refl => exact hw
  | tail _ hs ih => exact ih.step hs

/-- **One step leaves a used sender's channel as it is**: nothing answers it again. -/
theorem Step.keeps_used {w w' : World} (h : Step w w') (hi : Inv w) (hr : ReplyInv w)
    {r : ChanId} {ch : Chan} (hc : w.chans r = some ch) (hs : ch.senderLive = false) :
    ∃ ch', w'.chans r = some ch' ∧ ch'.senderLive = false ∧ ch'.value = ch.value := by
  have hnp : r ∉ w.pendingOneshots := fun hm ↦ by simp [(hr.live_iff r ch hc).2 hm] at hs
  -- the step's channel `r'` is not `r`, for an answer or drop needs a waiting event carrying it
  have hheld : ∀ {e r'}, e ∈ w.held → e.oneshot? = some r' → r ≠ r' := fun he hre h ↦
    hnp (h ▸ List.mem_filterMap.2 ⟨_, List.mem_append_right _ he, hre⟩)
  have hrelease : ∀ p, ∃ ch', w.releaseFor p r = some ch' ∧ ch'.senderLive = false ∧
      ch'.value = ch.value := fun p ↦ by
    refine ⟨_, by rw [World.releaseFor_apply, hc]; rfl, ?_⟩
    split_ifs <;> exact ⟨hs, rfl⟩
  cases h
  case push hp _ =>
    refine ⟨ch, ?_, hs, rfl⟩
    dsimp only
    rw [World.openFor_apply, if_neg fun he ↦ ?_, hc]
    have hlt := hi.lt_of_some hc
    rw [Task.oneshot_of_pending hp he] at hlt
    exact Nat.lt_irrefl _ hlt
  case receive p _ _ _ _ _ | expire p _ _ => exact hrelease p
  case reply he hre _ _ | dropReply he hre _ =>
    exact ⟨ch, by simp [Function.update_noteq (hheld he hre), hc], hs, rfl⟩
  all_goals exact ⟨ch, hc, hs, rfl⟩

/-- **Each reply sender is used at most once.** In every reachable world, the waiting events that
carry a channel's sender number one while the sender is alive and none once it is used, and the
channel holds no value while its sender is alive. Along every run from there, a channel whose sender
was used keeps its value and its dead sender: the answer a task reads is the only one the driver
ever sent on that channel, and a channel dropped unanswered stays empty. -/
theorem reply_sent_at_most_once {w : World} (hw : Reachable w) :
    (∀ r ch, w.chans r = some ch →
      w.pendingOneshots.count r = (if ch.senderLive then 1 else 0) ∧
      (ch.senderLive = true → ch.value = none)) ∧
    ∀ w', Relation.ReflTransGen Step w w' → ∀ r ch, w.chans r = some ch → ch.senderLive = false →
      ∃ ch', w'.chans r = some ch' ∧ ch'.senderLive = false ∧ ch'.value = ch.value := by
  refine ⟨fun r ch hc ↦ ⟨?_, hw.replyInv.empty r ch hc⟩, fun w' hrun r ch hc hs ↦ ?_⟩
  · rw [List.count_eq_of_nodup hw.replyInv.nodup]
    exact if_congr (hw.replyInv.live_iff r ch hc).symm rfl rfl
  · induction hrun with
    | refl => exact ⟨ch, hc, hs, rfl⟩
    | tail hrun' hstep ih =>
      obtain ⟨ch₁, hc₁, hs₁, hv₁⟩ := ih
      have hw₁ := hw.run hrun'
      obtain ⟨ch₂, hc₂, hs₂, hv₂⟩ := hstep.keeps_used hw₁.inv hw₁.replyInv hc₁ hs₁
      exact ⟨ch₂, hc₂, hs₂, hv₂.trans hv₁⟩

/-- In `retryWorld` the sender of channel `0` was used: it keeps the failure task `0` read. -/
theorem retryWorld_reply_sent_at_most_once :
    Reachable retryWorld ∧
    retryWorld.chans 0 = some ⟨0, 0, some (.send (.error (.other "reset"))), false, false⟩ ∧
    (∀ r ch, retryWorld.chans r = some ch →
      retryWorld.pendingOneshots.count r = (if ch.senderLive then 1 else 0) ∧
      (ch.senderLive = true → ch.value = none)) ∧
    ∀ w', Relation.ReflTransGen Step retryWorld w' → ∀ r ch, retryWorld.chans r = some ch →
      ch.senderLive = false →
      ∃ ch', w'.chans r = some ch' ∧ ch'.senderLive = false ∧ ch'.value = ch.value :=
  ⟨retryWorld_reachable, rfl, reply_sent_at_most_once retryWorld_reachable⟩

end Iroh.Bitswap
