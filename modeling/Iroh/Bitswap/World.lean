import Iroh.Bitswap.RetryLoop

/-!
# Many callers, one outbound channel

Every clone of `Network` holds the two ends of one `crossbeam::channel::bounded(1024)`. The
operations push `OutEvent`s on it from any number of tasks; the swarm driver pops them with
`Network::poll` and answers on the one-shot channel each event carries, in any order, or drops
the sender unanswered. This module is that system as a step relation.

## The world

* `World.queue`: the events in the channel, oldest first.
* `World.networks`: the live `Network` values, each holding one sender and one receiver of the
  channel, so the channel is disconnected exactly when none is left.
* `World.chans`: the one-shot channels made so far, each with the task and attempt that made it.
  Those two fields are ghost data: the code keeps them implicitly, in the stack frame that holds
  the receiver. `World.log` is ghost too: every event pushed, with its task and attempt.
* `World.held`: the events the driver popped whose reply sender it has not used yet.
* `World.tasks`: one operation per task number. `send_message_with_retry_and_timeout` runs the
  machine of `RetryLoop`; `dial`, `ping`, `find_providers` and `provide` are a `Request`.
* `World.driver`: whether the swarm task is polling, or parked after a `Pending`.

## The steps

A task pushes its event when `crossbeam`'s `send` returns (`crossbeamSend`): on a full channel
`send` **blocks the thread**, so that task has no step until the driver pops an event, and
`send` returns `Err` only when every receiver is gone. A task awaiting a reply resumes once its
channel holds a value or its sender is gone; a backoff ends; a timeout fires at an await (a
thread blocked in `send` cannot be preempted). Tasks start fresh operations through a live
`Network`, and a finished one makes room for the next. The driver pops the oldest event, or
parks on an empty channel, and completes or drops held senders in any order; something other
than the channel wakes a parked driver. `Network` values are cloned and dropped, but the last one
is not dropped while a task still uses it: the borrow checker forbids it.
-/

namespace Iroh.Bitswap

/-! ### Replies and requests -/

/-- A value the driver sends on a one-shot channel: the reply types of `Dial`, `Ping` and
`SendMessage`. -/
inductive Reply
  | dial (r : Except String (ConnectionId × ProtocolId))
  | ping (r : Option Duration)
  | send (r : Except SendError Unit)
  deriving DecidableEq, Repr

/-- The reply has the type the event's channel carries. -/
def Reply.Fits : Reply → OutEvent → Prop
  | .dial _, .dial _ _ => True
  | .ping _, .generateEvent (.ping _ _) => True
  | .send _, .sendMessage _ _ _ _ => True
  | _, _ => False

/-- What `r.await` yields to a send attempt, from what its channel holds; `none` is the
`RecvError` of a sender dropped unanswered. -/
def Outcome.ofReply : Option Reply → Outcome
  | some (.send (.ok ())) => .ok
  | some (.send (.error e)) => .failed e
  | _ => .dropped

/-- `dial`, `ping`, `find_providers` and `provide`: one event, at most one reply. -/
inductive RequestKind
  | dial (peer : PeerId)
  | ping (peer : PeerId)
  | findProviders (key : Cid)
  | provide (key : Cid)
  deriving DecidableEq, Repr

/-- What a request returns. -/
inductive Answer
  /-- `dial`: the connection and the negotiated protocol. -/
  | connected (conn : ConnectionId) (proto : ProtocolId)
  /-- `ping`: the round trip. -/
  | pong (rtt : Duration)
  /-- `find_providers`: the receiver of its `mpsc` channel. -/
  | providers (r : ChanId)
  /-- `provide`. -/
  | provided
  deriving DecidableEq, Repr

/-- Why a request fails. -/
inductive RequestError
  /-- `anyhow!("channel send: {:?}", e)`: the `send` on the outbound channel failed. -/
  | channelSend
  /-- `r.await?`: the driver dropped the reply sender. -/
  | recv
  /-- `anyhow!("Dial Error: {}", e)`. -/
  | dialError (e : String)
  /-- `anyhow!("no ping available")`. -/
  | noPing
  /-- The timeout of `dial`, or the 30 seconds of `ping`. -/
  | elapsed
  deriving DecidableEq, Repr

/-- Where a request is: before its `send`, awaiting its reply, or returned. -/
inductive RequestState
  | start
  | awaiting (r : ChanId)
  | finished (result : Except RequestError Answer)
  deriving DecidableEq, Repr

namespace RequestKind

/-- The event of the request, for the channel `r` it made. -/
def event : RequestKind → ChanId → OutEvent
  | .dial peer, r => .dial peer r
  | .ping peer, r => .generateEvent (.ping peer r)
  | .findProviders key, r => .generateEvent (.findProviders key r)
  | .provide key, _ => .generateEvent (.provide key)

/-- After a successful `send`, `dial` and `ping` await their reply; `find_providers` returns its
receiver, and `provide` returns. -/
def afterSend : RequestKind → ChanId → RequestState
  | .dial _, r | .ping _, r => .awaiting r
  | .findProviders _, r => .finished (.ok (.providers r))
  | .provide _, _ => .finished (.ok .provided)

/-- What `dial` and `ping` make of what their channel yields. -/
def onReply : RequestKind → Option Reply → Except RequestError Answer
  | .dial _, some (.dial (.ok (conn, proto))) => .ok (.connected conn proto)
  | .dial _, some (.dial (.error e)) => .error (.dialError e)
  | .ping _, some (.ping (some rtt)) => .ok (.pong rtt)
  | .ping _, some (.ping none) => .error .noPing
  | _, _ => .error .recv

/-- `dial` and `ping` await under a timeout. -/
def timed : RequestKind → Bool
  | .dial _ | .ping _ => true
  | _ => false

end RequestKind

/-! ### Tasks -/

/-- The operation a task runs. -/
inductive Task
  /-- No operation. -/
  | idle
  /-- `send_message_with_retry_and_timeout`, its loop suspended at `s`. -/
  | send (a : SendArgs) (s : LoopState)
  /-- `dial`, `ping`, `find_providers` or `provide`. -/
  | request (k : RequestKind) (s : RequestState)
  /-- `send_message_with_retry_and_timeout` whose deadline fired: it returned `Elapsed`. -/
  | expired
  deriving DecidableEq, Repr

namespace Task

/-- The event the task is about to push, and its attempt, for the fresh channel `r`. -/
def pending? : Task → ChanId → Option (Nat × OutEvent)
  | .send a (.sending i _), r => some (i, a.event r)
  | .request k .start, r => some (0, k.event r)
  | _, _ => none

/-- The task once its `send` returned `Ok` (`true`) or `Err`. -/
def afterPush : Task → ChanId → Bool → Task
  | .send a s, r, ok => .send a (a.resume s (.sent r ok))
  | .request k _, r, true => .request k (k.afterSend r)
  | .request k _, _, false => .request k (.finished (.error .channelSend))
  | t, _, _ => t

/-- The one-shot receiver the task awaits. -/
def awaiting? : Task → Option ChanId
  | .send _ (.awaiting _ _ r) => some r
  | .request _ (.awaiting r) => some r
  | _ => none

/-- The attempt the task is in: the loop's `i`, and `0` for a request. -/
def attempt : Task → Nat
  | .send _ (.sending i _) | .send _ (.awaiting i _ _) | .send _ (.sleeping i _) => i
  | _ => 0

/-- The task once its awaited channel yielded `v`; `none` is a sender dropped unanswered. -/
def onReply : Task → Option Reply → Task
  | .send a s, v => .send a (a.resume s (.replied (.ofReply v)))
  | .request k _, v => .request k (.finished (k.onReply v))
  | t, _ => t

/-- The task whose timeout fired: the loop returns `Elapsed` from a reply wait or a backoff,
`dial` and `ping` from their reply wait; `none` where no timeout is pending. -/
def expire? : Task → Option Task
  | .send _ (.awaiting _ _ _) | .send _ (.sleeping _ _) => some .expired
  | .request k (.awaiting _) => if k.timed then some (.request k (.finished (.error .elapsed))) else none
  | _ => none

/-- Nothing in flight: no operation, or one that returned. -/
def Quiet : Task → Prop
  | .idle | .expired | .send _ (.finished _) | .request _ (.finished _) => True
  | _ => False

/-- A fresh operation, as the method call starts it. -/
def Fresh : Task → Prop
  | .send a s => s = a.start
  | .request _ s => s = .start
  | _ => False

/-- The operation returned the channel-send error. -/
def EnqueueFailed : Task → Prop
  | .send _ (.finished (.error .channelSend)) | .request _ (.finished (.error .channelSend)) => True
  | _ => False

/-- The task awaits no receiver, and did not fail a push. -/
def Clear (t : Task) : Prop := t.awaiting? = none ∧ ¬ t.EnqueueFailed

/-! ### What each move of a task leaves -/

variable {t t' : Task} {r : ChanId} {i : Nat} {e : OutEvent}

theorem clear_idle : Task.idle.Clear := by simp [Clear, awaiting?, EnqueueFailed]

@[simp] theorem enqueueFailed_request (k : RequestKind) (x : Except RequestError Answer) :
    (Task.request k (.finished x)).EnqueueFailed ↔ x = .error .channelSend := by
  rcases x with (_ | _ | _ | _ | _) | _ <;> simp [EnqueueFailed]


/-- The head of the loop awaits nothing, and bails out with `failedToSend` at worst. -/
theorem clear_loopHead (a : SendArgs) (j : Nat) (errors : List TransientError) :
    (Task.send a (a.loopHead j errors)).Clear := by
  unfold SendArgs.loopHead
  split <;> simp [Clear, awaiting?, EnqueueFailed]

theorem clear_afterFailure (a : SendArgs) (j : Nat) (errors : List TransientError)
    (e : TransientError) : (Task.send a (a.afterFailure j errors e)).Clear := by
  unfold SendArgs.afterFailure
  split
  · simp [Clear, awaiting?, EnqueueFailed]
  · split
    · simp [Clear, awaiting?, EnqueueFailed]
    · exact clear_loopHead a _ _

/-- A task that took its reply awaits nothing more: every arm of `match r.await` returns, backs
off or starts the next attempt. -/
theorem clear_onReply (h : t.awaiting? = some r) (v : Option Reply) : (t.onReply v).Clear := by
  rcases t with _ | ⟨a, _ | ⟨j, errors, _⟩ | _ | _ | _⟩ | ⟨k, _ | _ | _⟩ | _ <;>
    simp only [awaiting?, reduceCtorEq] at h
  · simp only [onReply, SendArgs.resume]
    generalize Outcome.ofReply v = o
    rcases o with _ | (_ | _) | _ <;> simp only [Outcome.verdict] <;>
      first | exact clear_afterFailure a _ _ _ | simp [Clear, awaiting?, EnqueueFailed]
  · simp only [onReply, Clear, awaiting?, enqueueFailed_request, true_and]
    unfold RequestKind.onReply
    split <;> simp

theorem clear_expire (h : t.expire? = some t') : t'.Clear := by
  rcases t with _ | ⟨a, _ | _ | _ | _ | _⟩ | ⟨k, _ | _ | _⟩ | _ <;> simp only [expire?] at h <;>
    (try split at h) <;> cases h <;> simp [Clear, awaiting?, EnqueueFailed]

theorem clear_of_fresh (h : t.Fresh) : t.Clear := by
  rcases t with _ | ⟨a, s⟩ | ⟨k, s⟩ | _ <;> simp only [Fresh] at h
  · exact h ▸ clear_loopHead a 0 []
  · simp [h, Clear, awaiting?, EnqueueFailed]

/-- A task that awaits a reply is busy. -/
theorem not_quiet_of_awaiting (h : t.awaiting? = some r) : ¬ t.Quiet := by
  rcases t with _ | ⟨a, _ | _ | _ | _ | _⟩ | ⟨k, _ | _ | _⟩ | _ <;> simp_all [awaiting?, Quiet]

theorem awaiting?_eq_none_of_quiet (h : t.Quiet) : t.awaiting? = none := by
  rcases t with _ | ⟨a, _ | _ | _ | _ | _⟩ | ⟨k, _ | _ | _⟩ | _ <;> simp_all [awaiting?, Quiet]

/-- Only a task at an await can time out. -/
theorem not_quiet_of_expire (h : t.expire? = some t') : ¬ t.Quiet := by
  rcases t with _ | ⟨a, _ | _ | _ | _ | _⟩ | ⟨k, _ | _ | _⟩ | _ <;> simp_all [expire?, Quiet]

theorem expire?_of_pending (h : t.pending? r = some (i, e)) : t.expire? = none := by
  rcases t with _ | ⟨a, _ | _ | _ | _ | _⟩ | ⟨k, _ | _ | _⟩ | _ <;> simp_all [pending?, expire?]

/-- A task about to push awaits nothing, and is busy. -/
theorem pending?_busy (h : t.pending? r = some (i, e)) : t.awaiting? = none ∧ ¬ t.Quiet := by
  rcases t with _ | ⟨a, _ | _ | _ | _ | _⟩ | ⟨k, _ | _ | _⟩ | _ <;> simp_all [pending?, awaiting?, Quiet]

/-- The only one-shot a pushed event can carry is the fresh one. -/
theorem oneshot_of_pending (h : t.pending? r = some (i, e)) {r' : ChanId}
    (h' : e.oneshot? = some r') : r' = r := by
  rcases t with _ | ⟨a, _ | _ | _ | _ | _⟩ | ⟨k, _ | _ | _⟩ | _ <;>
    simp only [pending?, reduceCtorEq, Option.some.injEq, Prod.mk.injEq] at h <;>
    obtain ⟨rfl, rfl⟩ := h
  · simpa [SendArgs.event, OutEvent.oneshot?] using h'.symm
  · cases k <;> simp_all [RequestKind.event, OutEvent.oneshot?]

/-- **After its push, a task awaits exactly the one-shot its event carries, in the same
attempt**, and has not failed. -/
theorem afterPush_of_pending (h : t.pending? r = some (i, e)) :
    (t.afterPush r true).awaiting? = e.oneshot? ∧ (t.afterPush r true).attempt = i ∧
      ¬ (t.afterPush r true).EnqueueFailed := by
  rcases t with _ | ⟨a, _ | _ | _ | _ | _⟩ | ⟨k, _ | _ | _⟩ | _ <;>
    simp only [pending?, reduceCtorEq, Option.some.injEq, Prod.mk.injEq] at h <;>
    obtain ⟨rfl, rfl⟩ := h
  · simp [afterPush, SendArgs.resume, awaiting?, attempt, EnqueueFailed, SendArgs.event,
      OutEvent.oneshot?]
  · cases k <;> simp [afterPush, RequestKind.afterSend, awaiting?, attempt, EnqueueFailed,
      RequestKind.event, OutEvent.oneshot?]

end Task

/-! ### Channels -/

/-- A one-shot channel, with the task and attempt that made it. -/
structure Chan where
  owner : Nat
  attempt : Nat
  value : Option Reply
  senderLive : Bool
  receiverLive : Bool
  deriving DecidableEq, Repr

namespace Chan

/-- `Sender::send(v)`: the value is kept if the receiver is still there, and the sender is
consumed either way. -/
def complete (ch : Chan) (v : Reply) : Chan :=
  { ch with value := if ch.receiverLive then some v else ch.value, senderLive := false }

/-- The sender dropped unanswered. -/
def close (ch : Chan) : Chan := { ch with senderLive := false }

/-- The receiver yielded, or was dropped. -/
def release (ch : Chan) : Chan := { ch with receiverLive := false }

/-- `r.await` is ready: a value is there, or the sender is gone. -/
def Ready (ch : Chan) : Prop := ch.value.isSome ∨ ch.senderLive = false

end Chan

/-- What `crossbeam`'s `send` on the bounded channel does. -/
inductive SendResult
  /-- The event is at the back of the channel. -/
  | ok (queue : List OutEvent)
  /-- The channel is full: `send` blocks the thread until a slot frees. -/
  | full
  /-- Every receiver is gone: `send` returns `Err(SendError(event))`. -/
  | disconnected
  deriving DecidableEq, Repr

/-- `crossbeam::channel::Sender::send` on a channel of capacity `outCapacity` with `receivers`
receivers: disconnection is checked first, then room. -/
def crossbeamSend (queue : List OutEvent) (receivers : Nat) (e : OutEvent) : SendResult :=
  if receivers = 0 then .disconnected
  else if queue.length < outCapacity then .ok (queue ++ [e]) else .full

section crossbeamSend

variable {queue q : List OutEvent} {receivers : Nat} {e : OutEvent}

theorem crossbeamSend_eq_ok :
    crossbeamSend queue receivers e = .ok q ↔
      receivers ≠ 0 ∧ queue.length < outCapacity ∧ q = queue ++ [e] := by
  unfold crossbeamSend
  split_ifs <;> simp_all [eq_comm]

theorem crossbeamSend_eq_full :
    crossbeamSend queue receivers e = .full ↔ receivers ≠ 0 ∧ outCapacity ≤ queue.length := by
  unfold crossbeamSend
  split_ifs <;> simp_all

theorem crossbeamSend_eq_disconnected :
    crossbeamSend queue receivers e = .disconnected ↔ receivers = 0 := by
  unfold crossbeamSend
  split_ifs <;> simp_all

end crossbeamSend

/-- `Network::poll`: `try_recv` on the channel, `Ready` with the oldest event or `Pending` on an
empty one. The `Context` is never read, so no waker is kept. -/
def Network.poll : List OutEvent → Option (OutEvent × List OutEvent)
  | [] => none
  | e :: rest => some (e, rest)

@[simp] theorem Network.poll_eq_some {queue rest : List OutEvent} {e : OutEvent} :
    Network.poll queue = some (e, rest) ↔ queue = e :: rest := by
  cases queue <;> simp [Network.poll]

@[simp] theorem Network.poll_eq_none {queue : List OutEvent} :
    Network.poll queue = none ↔ queue = [] := by
  cases queue <;> simp [Network.poll]

/-! ### The world -/

/-- Whether the swarm task is being polled, or parked after `Poll::Pending`. -/
inductive Driver
  | polling
  | parked
  deriving DecidableEq, Repr

/-- The shared state of every `Network` clone, its callers and the driver. -/
structure World where
  queue : List OutEvent
  networks : Nat
  held : List OutEvent
  chans : ChanId → Option Chan
  nextChan : ChanId
  tasks : Nat → Task
  driver : Driver
  log : List (Nat × Nat × OutEvent)

namespace World

/-- `Network::new`: one `Network`, an empty channel, no task running. -/
def init : World where
  queue := []
  networks := 1
  held := []
  chans := fun _ ↦ none
  nextChan := 0
  tasks := fun _ ↦ .idle
  driver := .polling
  log := []

/-- The channels once task `p` pushed `e` in attempt `i`: the one-shot `e` carries is open. -/
def openFor (w : World) (p i : Nat) (e : OutEvent) : ChanId → Option Chan :=
  match e.oneshot? with
  | some r => Function.update w.chans r (some ⟨p, i, none, true, true⟩)
  | none => w.chans

/-- The channels once task `p` gave up its awaited receiver. -/
def releaseFor (w : World) (p : Nat) : ChanId → Option Chan :=
  match (w.tasks p).awaiting? with
  | some r => Function.update w.chans r ((w.chans r).map Chan.release)
  | none => w.chans

variable {w : World} {p : Nat}

theorem openFor_apply (i : Nat) (e : OutEvent) (r : ChanId) :
    w.openFor p i e r = if e.oneshot? = some r then some ⟨p, i, none, true, true⟩ else w.chans r := by
  unfold openFor
  cases h : e.oneshot? with
  | none => simp
  | some r₀ =>
    rcases eq_or_ne r r₀ with rfl | hr
    · simp
    · simp [Function.update_apply, hr, hr.symm]

theorem releaseFor_apply (r : ChanId) :
    w.releaseFor p r =
      (w.chans r).map fun ch ↦ if (w.tasks p).awaiting? = some r then ch.release else ch := by
  unfold releaseFor
  cases h : (w.tasks p).awaiting? with
  | none => simp
  | some r₀ =>
    rcases eq_or_ne r r₀ with rfl | hr
    · simp
    · simp [Function.update_apply, hr, hr.symm]

theorem releaseFor_of_awaiting_none (h : (w.tasks p).awaiting? = none) : w.releaseFor p = w.chans := by
  simp [releaseFor, h]

end World

open World in
/-- One step of a task, of the driver, or of a `Network` handle. -/
inductive Step : World → World → Prop
  /-- Task `p`'s `send` finds room: its event is at the back, and the task goes on. -/
  | push {w : World} {p i : Nat} {e : OutEvent} {q : List OutEvent}
      (hp : (w.tasks p).pending? w.nextChan = some (i, e))
      (hs : crossbeamSend w.queue w.networks e = .ok q) :
      Step w { w with
        queue := q, chans := w.openFor p i e, nextChan := w.nextChan + 1,
        tasks := Function.update w.tasks p ((w.tasks p).afterPush w.nextChan true),
        log := w.log ++ [(p, i, e)] }
  /-- Task `p`'s `send` returns `Err`: every receiver is gone. -/
  | pushFails {w : World} {p i : Nat} {e : OutEvent}
      (hp : (w.tasks p).pending? w.nextChan = some (i, e))
      (hs : crossbeamSend w.queue w.networks e = .disconnected) :
      Step w { w with
        nextChan := w.nextChan + 1,
        tasks := Function.update w.tasks p ((w.tasks p).afterPush w.nextChan false) }
  /-- Task `p`'s awaited channel yields. -/
  | receive {w : World} {p : Nat} {r : ChanId} {ch : Chan}
      (hp : (w.tasks p).awaiting? = some r) (hc : w.chans r = some ch) (hready : ch.Ready) :
      Step w { w with
        chans := w.releaseFor p, tasks := Function.update w.tasks p ((w.tasks p).onReply ch.value) }
  /-- Task `p`'s backoff ends. -/
  | wake {w : World} {p : Nat} {a : SendArgs} {i : Nat} {errors : List TransientError}
      (hp : w.tasks p = .send a (.sleeping i errors)) :
      Step w { w with
        tasks := Function.update w.tasks p (.send a (a.resume (.sleeping i errors) .woke)) }
  /-- Task `p`'s timeout fires at an await, and its receiver, if any, is dropped. -/
  | expire {w : World} {p : Nat} {t : Task} (hp : (w.tasks p).expire? = some t) :
      Step w { w with chans := w.releaseFor p, tasks := Function.update w.tasks p t }
  /-- A holder of a live `Network` starts an operation on task `p`. -/
  | spawn {w : World} {p : Nat} {t : Task} (hp : w.tasks p = .idle) (ht : t.Fresh)
      (hn : 1 ≤ w.networks) :
      Step w { w with tasks := Function.update w.tasks p t }
  /-- The caller of a returned operation moves on. -/
  | retire {w : World} {p : Nat} (hp : (w.tasks p).Quiet) :
      Step w { w with tasks := Function.update w.tasks p .idle }
  /-- `Network::poll` returns the oldest event; the driver keeps the sender it carries. -/
  | pollReady {w : World} {e : OutEvent} {rest : List OutEvent} (hd : w.driver = .polling)
      (hq : Network.poll w.queue = some (e, rest)) :
      Step w { w with
        queue := rest, held := if e.oneshot?.isSome then w.held ++ [e] else w.held }
  /-- `Network::poll` returns `Pending` on an empty channel, without keeping `cx`'s waker; the
  swarm task parks. -/
  | pollPending {w : World} (hd : w.driver = .polling) (hq : Network.poll w.queue = none) :
      Step w { w with driver := .parked }
  /-- Something other than the channel wakes the swarm task. -/
  | wakeDriver {w : World} (hd : w.driver = .parked) :
      Step w { w with driver := .polling }
  /-- The driver answers a held event. -/
  | reply {w : World} {e : OutEvent} {r : ChanId} {ch : Chan} {v : Reply} (he : e ∈ w.held)
      (hr : e.oneshot? = some r) (hc : w.chans r = some ch) (hv : v.Fits e) :
      Step w { w with
        held := w.held.erase e, chans := Function.update w.chans r (some (ch.complete v)) }
  /-- The driver drops a held event's reply sender unanswered. -/
  | dropReply {w : World} {e : OutEvent} {r : ChanId} {ch : Chan} (he : e ∈ w.held)
      (hr : e.oneshot? = some r) (hc : w.chans r = some ch) :
      Step w { w with held := w.held.erase e, chans := Function.update w.chans r (some ch.close) }
  /-- A `Network` is cloned. -/
  | cloneNetwork {w : World} (hn : 1 ≤ w.networks) : Step w { w with networks := w.networks + 1 }
  /-- A `Network` is dropped; the last one only when no task is using it. -/
  | dropNetwork {w : World} (hn : 2 ≤ w.networks ∨ 1 ≤ w.networks ∧ ∀ p, (w.tasks p).Quiet) :
      Step w { w with networks := w.networks - 1 }

/-- The worlds reachable from `Network::new`. -/
inductive Reachable : World → Prop
  | init : Reachable World.init
  | step {w w' : World} : Reachable w → Step w w' → Reachable w'

/-- **What a step does to one task**: nothing, or the move of that task the step names. -/
theorem Step.task_moves {w w' : World} (h : Step w w') (p : Nat) :
    w'.tasks p = w.tasks p ∨
    (∃ i e, (w.tasks p).pending? w.nextChan = some (i, e) ∧
      ((∃ q, crossbeamSend w.queue w.networks e = .ok q) ∧
          w'.tasks p = (w.tasks p).afterPush w.nextChan true ∨
        crossbeamSend w.queue w.networks e = .disconnected ∧
          w'.tasks p = (w.tasks p).afterPush w.nextChan false)) ∨
    (∃ r ch, (w.tasks p).awaiting? = some r ∧ w.chans r = some ch ∧ ch.Ready ∧
      w'.tasks p = (w.tasks p).onReply ch.value) ∨
    (∃ a i errors, w.tasks p = .send a (.sleeping i errors) ∧
      w'.tasks p = .send a (a.resume (.sleeping i errors) .woke)) ∨
    (w.tasks p).expire? = some (w'.tasks p) ∨
    (w.tasks p = .idle ∧ (w'.tasks p).Fresh) ∨
    ((w.tasks p).Quiet ∧ w'.tasks p = .idle) := by
  cases h
  case push p' i e q hp hs =>
    rcases eq_or_ne p p' with rfl | hne
    · exact .inr (.inl ⟨i, e, hp, .inl ⟨⟨q, hs⟩, Function.update_same _ _ _⟩⟩)
    · exact .inl (Function.update_noteq hne _ _)
  case pushFails p' i e hp hs =>
    rcases eq_or_ne p p' with rfl | hne
    · exact .inr (.inl ⟨i, e, hp, .inr ⟨hs, Function.update_same _ _ _⟩⟩)
    · exact .inl (Function.update_noteq hne _ _)
  case receive p' r ch hp hc hready =>
    rcases eq_or_ne p p' with rfl | hne
    · exact .inr (.inr (.inl ⟨r, ch, hp, hc, hready, Function.update_same _ _ _⟩))
    · exact .inl (Function.update_noteq hne _ _)
  case wake p' a i errors hp =>
    rcases eq_or_ne p p' with rfl | hne
    · exact .inr (.inr (.inr (.inl ⟨a, i, errors, hp, Function.update_same _ _ _⟩)))
    · exact .inl (Function.update_noteq hne _ _)
  case expire p' t hp =>
    rcases eq_or_ne p p' with rfl | hne
    · exact .inr (.inr (.inr (.inr (.inl (by simpa using hp)))))
    · exact .inl (Function.update_noteq hne _ _)
  case spawn p' t hp ht hn =>
    rcases eq_or_ne p p' with rfl | hne
    · exact .inr (.inr (.inr (.inr (.inr (.inl ⟨hp, by simpa using ht⟩)))))
    · exact .inl (Function.update_noteq hne _ _)
  case retire p' hp =>
    rcases eq_or_ne p p' with rfl | hne
    · exact .inr (.inr (.inr (.inr (.inr (.inr ⟨hp, Function.update_same _ _ _⟩)))))
    · exact .inl (Function.update_noteq hne _ _)
  all_goals exact .inl rfl

end Iroh.Bitswap
