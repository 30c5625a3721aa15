import Mathlib.Data.List.Range
import Iroh.Bitswap.Types

/-!
# The retry loop of `send_message_with_retry_and_timeout`

The body that `tokio::time::timeout` wraps is a `for i in 0..retries` loop. Each attempt
makes a fresh one-shot channel, pushes `OutEvent::SendMessage` on the outbound channel, and
awaits the driver's reply:

```
Ok(Ok(()))                           → return Ok
Ok(Err(ProtocolNotSupported))        → return that error
Err(RecvError) | Ok(Err(Other(e)))   → errors.push(e); if i < retries - 1 { sleep(backoff) }
```

and after the last attempt `bail!("Failed to send message to {}: {:?}", peer, errors)`.

## The loop as a machine

The future is suspended at one of three places: at the `send` of attempt `i`, awaiting the
reply `r` of attempt `i`, or in the backoff sleep after attempt `i`. `LoopState` names them,
with the errors collected so far, and `SendArgs.resume` is the code between two of them:
everything the loop does is said once, there. Two pieces of it have names of their own:
`SendArgs.loopHead` is the head of the `for` loop, and `SendArgs.afterFailure` the common
tail of the two transient arms. `retries - 1` is a `usize` subtraction; `usizePred` returns
`none` where a debug build panics, and the loop then moves to `LoopState.panicked`.

The same machine is driven three ways: here without a clock (`SendArgs.run`, under a
`Script` of what each `send` returns and what the driver answers), in `Deadline` against
the clock and `tokio`'s timeout, and in `World` by many callers sharing one queue.

## The untimed run

`sendMessageWithRetry_untimed` is the law of a run the deadline does not cut short: with
`k = min(retries, 1 + the first decisive outcome)`, the run pushes the `SendMessage` events of
attempts `0, …, k - 1`, each for the call's peer, message and connection, with one backoff sleep
between consecutive ones, and returns the last reply when it was decisive, and otherwise the
failure that lists every attempt's transient error in order. It rests on two facts about single attempts
(`run_transient_attempt`, `run_last_attempt`) and one induction over the transient prefix
(`run_transient_prefix`).
-/

namespace Iroh.Bitswap

/-! ### Data of the loop -/

/-- A transient failure an attempt records before the next one: `errors.push(channel_err.into())`
when the driver dropped the reply sender (`RecvError`), `errors.push(other.into())` for
`SendError::Other`. -/
inductive TransientError
  | recv
  | other (reason : String)
  deriving DecidableEq, Repr

/-- The errors the loop itself returns; the deadline's own error is added by `Deadline`.
* `channelSend`: `anyhow!("channel send failed: {:?}", e)`, when the `send` of an attempt fails;
* `protocolNotSupported`: `SendError::ProtocolNotSupported.into()`;
* `failedToSend peer errors`: `bail!("Failed to send message to {}: {:?}", peer, errors)`. -/
inductive LoopError
  | channelSend
  | protocolNotSupported
  | failedToSend (peer : PeerId) (errors : List TransientError)
  deriving DecidableEq, Repr

/-- What `r.await` yields for one attempt: `Ok(Ok(()))`, `Ok(Err(e))`, or `Err(RecvError)` when
the driver dropped the reply sender unanswered. -/
inductive Outcome
  | ok
  | failed (e : SendError)
  | dropped
  deriving DecidableEq, Repr

/-- What an arm of `match r.await` does: leave the loop with a result, or record an error. -/
inductive Verdict
  | done (result : Except LoopError Unit)
  | retry (e : TransientError)
  deriving DecidableEq, Repr

namespace Outcome

/-- The four arms of `match r.await`. -/
def verdict : Outcome → Verdict
  | .ok => .done (.ok ())
  | .failed .protocolNotSupported => .done (.error .protocolNotSupported)
  | .failed (.other reason) => .retry (.other reason)
  | .dropped => .retry .recv

/-- The outcome ends the loop: `Ok` or `ProtocolNotSupported`. -/
def decisive : Outcome → Bool
  | .ok | .failed .protocolNotSupported => true
  | _ => false

/-- The error a transient outcome records; `none` for a decisive one. -/
def transient? : Outcome → Option TransientError
  | .ok | .failed .protocolNotSupported => none
  | .failed (.other reason) => some (.other reason)
  | .dropped => some .recv

theorem verdict_of_decisive_false {o : Outcome} (h : o.decisive = false) :
    ∃ e, o.verdict = .retry e ∧ o.transient? = some e := by
  rcases o with _ | (_ | _) | _ <;> simp_all [decisive, verdict, transient?]

theorem verdict_of_decisive {o : Outcome} (h : o.decisive = true) :
    ∃ r, o.verdict = .done r ∧ o.transient? = none := by
  rcases o with _ | (_ | _) | _ <;> simp_all [decisive, verdict, transient?]

end Outcome

/-- The arguments of `send_message_with_retry_and_timeout`, fixed for the call. -/
structure SendArgs where
  peer : PeerId
  connectionId : Option ConnectionId
  message : BitswapMessage
  retries : Nat
  timeout : Duration
  backoff : Duration
  deriving DecidableEq, Repr

/-- Where the loop's future is suspended, with the errors collected so far. -/
inductive LoopState
  /-- At the `send` of attempt `i`'s event. -/
  | sending (i : Nat) (errors : List TransientError)
  /-- At `r.await` for attempt `i`, whose reply channel is `r`. -/
  | awaiting (i : Nat) (errors : List TransientError) (r : ChanId)
  /-- In `sleep(backoff).await` after attempt `i`. -/
  | sleeping (i : Nat) (errors : List TransientError)
  /-- The loop returned. -/
  | finished (result : Except LoopError Unit)
  /-- `retries - 1` underflowed. -/
  | panicked
  deriving DecidableEq, Repr

/-- What the runtime hands the loop back at its suspension point. -/
inductive Resume
  /-- `oneshot::channel()` made the channel `r`, and `send` returned `Ok` (or `Err`). -/
  | sent (r : ChanId) (ok : Bool)
  /-- `r.await` completed. -/
  | replied (o : Outcome)
  /-- The backoff sleep elapsed. -/
  | woke
  deriving DecidableEq, Repr

/-- `retries - 1` on `usize`: `none` is the underflow panic of a debug build. -/
def usizePred (n : Nat) : Option Nat := if n = 0 then none else some (n - 1)

namespace SendArgs

variable (a : SendArgs)

/-- The event of an attempt whose reply channel is `r`:
`OutEvent::SendMessage { peer, message: message.clone(), response: s, connection_id }`. -/
def event (r : ChanId) : OutEvent := .sendMessage a.peer a.message r a.connectionId

/-- The head of `for i in 0..retries`: start attempt `i`, or leave with `bail!`. -/
def loopHead (i : Nat) (errors : List TransientError) : LoopState :=
  if i < a.retries then .sending i errors else .finished (.error (.failedToSend a.peer errors))

/-- The tail of both transient arms: `errors.push(e)`, then back off unless `i` was the last
attempt (`if i < retries - 1`). -/
def afterFailure (i : Nat) (errors : List TransientError) (e : TransientError) : LoopState :=
  match usizePred a.retries with
  | none => .panicked
  | some last => if i < last then .sleeping i (errors ++ [e]) else a.loopHead (i + 1) (errors ++ [e])

/-- The code between two suspension points. An answer the state does not wait for changes
nothing. -/
def resume : LoopState → Resume → LoopState
  | .sending i errors, .sent r ok => if ok then .awaiting i errors r else .finished (.error .channelSend)
  | .awaiting i errors _, .replied o =>
    match o.verdict with
    | .done result => .finished result
    | .retry e => a.afterFailure i errors e
  | .sleeping i errors, .woke => a.loopHead (i + 1) errors
  | s, _ => s

/-- The loop before its first poll. -/
def start : LoopState := a.loopHead 0 []

variable {a}

@[simp] theorem loopHead_of_lt {i : Nat} (h : i < a.retries) (errors : List TransientError) :
    a.loopHead i errors = .sending i errors := if_pos h

@[simp] theorem loopHead_of_le {i : Nat} (h : a.retries ≤ i) (errors : List TransientError) :
    a.loopHead i errors = .finished (.error (.failedToSend a.peer errors)) :=
  if_neg (Nat.not_lt.2 h)

/-- After a transient failure that is not the last attempt, the loop backs off. -/
theorem afterFailure_of_lt {i : Nat} (h : i + 1 < a.retries) (errors : List TransientError)
    (e : TransientError) : a.afterFailure i errors e = .sleeping i (errors ++ [e]) := by
  simp only [afterFailure, usizePred, if_neg (show a.retries ≠ 0 by omega)]
  exact if_pos (by omega)

/-- After a transient failure of the last attempt, the loop bails out with every error. -/
theorem afterFailure_last {i : Nat} (h : i + 1 = a.retries) (errors : List TransientError)
    (e : TransientError) :
    a.afterFailure i errors e = .finished (.error (.failedToSend a.peer (errors ++ [e]))) := by
  simp only [afterFailure, usizePred, if_neg (show a.retries ≠ 0 by omega)]
  rw [if_neg (by omega), loopHead_of_le h.ge]

end SendArgs

/-! ### Runs of a step function -/

section runFuel

variable {S E : Type} (f : S → Option (List E × S))

/-- `fuel` steps of `f` from `s`, stopping early where `f` gives `none`, with every step's
effects in order. The loop's runs with and without the clock are both of this form. -/
def runFuel : Nat → S → List E × S
  | 0, s => ([], s)
  | n + 1, s =>
    match f s with
    | none => ([], s)
    | some (es, s') => (es ++ (runFuel n s').1, (runFuel n s').2)

variable {f}

theorem runFuel_of_none {s : S} (h : f s = none) : ∀ n, runFuel f n s = ([], s)
  | 0 => rfl
  | _ + 1 => by simp [runFuel, h]

theorem runFuel_succ_of_some {s s' : S} {es : List E} (h : f s = some (es, s')) (n : Nat) :
    runFuel f (n + 1) s = (es ++ (runFuel f n s').1, (runFuel f n s').2) := by
  simp [runFuel, h]

/-- Fuel splits: a run of `m + n` is a run of `m` followed by a run of `n`. -/
theorem runFuel_add (m n : Nat) (s : S) :
    runFuel f (m + n) s =
      ((runFuel f m s).1 ++ (runFuel f n (runFuel f m s).2).1,
        (runFuel f n (runFuel f m s).2).2) := by
  induction m generalizing s with
  | zero => simp [runFuel]
  | succ m ih =>
    rw [Nat.add_right_comm]
    rcases h : f s with _ | ⟨es, s'⟩
    · simp [runFuel_of_none h]
    · simp [runFuel_succ_of_some h, ih]

end runFuel

/-! ### The untimed run -/

/-- What the world does at attempt `i`, for a run the deadline does not cut short: whether
the `send` returns `Ok`, and the driver's reply. -/
structure Script where
  accepts : Nat → Bool
  outcome : Nat → Outcome

/-- The script in which every `send` succeeds and the driver replies `o i` to attempt `i`. -/
def Script.accepting (o : Nat → Outcome) : Script := ⟨fun _ ↦ true, o⟩

/-- What a run shows to the outside: an event pushed on the outbound channel, or a backoff
sleep. -/
inductive Effect
  | enqueue (e : OutEvent)
  | sleep (d : Duration)
  deriving DecidableEq, Repr

namespace SendArgs

variable (a : SendArgs) (σ : Script)

/-- One resumption under the script, with its effects; `none` once the loop has returned.
Attempt `i` gets the reply channel `i`: fresh, since attempts are numbered. -/
def advance : LoopState → Option (List Effect × LoopState)
  | .sending i errors =>
    some (if σ.accepts i then [.enqueue (a.event i)] else [],
      a.resume (.sending i errors) (.sent i (σ.accepts i)))
  | .awaiting i errors r => some ([], a.resume (.awaiting i errors r) (.replied (σ.outcome i)))
  | .sleeping i errors => some ([.sleep a.backoff], a.resume (.sleeping i errors) .woke)
  | .finished _ | .panicked => none

/-- `fuel` resumptions from `s`, and the effects they have. -/
def run : Nat → LoopState → List Effect × LoopState := runFuel (a.advance σ)

variable {a σ}

theorem run_of_advance_none {s : LoopState} (h : a.advance σ s = none) (n : Nat) :
    a.run σ n s = ([], s) :=
  runFuel_of_none h n

@[simp] theorem run_finished (n : Nat) (r : Except LoopError Unit) :
    a.run σ n (.finished r) = ([], .finished r) :=
  run_of_advance_none (s := .finished r) rfl n

/-- Fuel splits: a run of `m + n` is a run of `m` followed by a run of `n`. -/
theorem run_add (m n : Nat) (s : LoopState) :
    a.run σ (m + n) s =
      ((a.run σ m s).1 ++ (a.run σ n (a.run σ m s).2).1, (a.run σ n (a.run σ m s).2).2) :=
  runFuel_add m n s

/-- More fuel changes nothing once the loop has returned. -/
theorem run_eq_of_finished {n m : Nat} {s : LoopState} {es : List Effect}
    {r : Except LoopError Unit} (h : a.run σ n s = (es, .finished r)) (hm : n ≤ m) :
    a.run σ m s = (es, .finished r) := by
  obtain ⟨k, rfl⟩ := Nat.exists_eq_add_of_le hm
  rw [run_add, h]; simp

variable (a) in
/-- The states a run can reach: attempts are numbered below `retries`, a backoff follows only an
attempt that is not the last, and `retries - 1` has not underflowed. -/
def WellFormed : LoopState → Prop
  | .sending i _ | .awaiting i _ _ => i < a.retries
  | .sleeping i _ => i + 1 < a.retries
  | .finished _ => True
  | .panicked => False

theorem wellFormed_loopHead (i : Nat) (errors : List TransientError) :
    a.WellFormed (a.loopHead i errors) := by
  unfold loopHead; split <;> simp [WellFormed, *]

/-- **One transient attempt** that is not the last: its event, a backoff sleep, and the next
attempt's `send`, with the error recorded. -/
theorem run_transient_attempt {i : Nat} {errors : List TransientError} {e : TransientError}
    (hi : i + 1 < a.retries) (hacc : σ.accepts i = true) (he : (σ.outcome i).verdict = .retry e) :
    a.run σ 3 (.sending i errors) =
      ([.enqueue (a.event i), .sleep a.backoff], .sending (i + 1) (errors ++ [e])) := by
  simp [run, runFuel, advance, resume, hacc, he, afterFailure_of_lt hi, loopHead_of_lt hi]

/-- **The attempts before the last**: while attempts are accepted and transient, each pushes its
event and backs off, and the errors pile up in attempt order. -/
theorem run_transient_prefix (j : Nat) : ∀ (i : Nat) (errors : List TransientError),
    i + j < a.retries →
    (∀ t, i ≤ t → t < i + j → σ.accepts t = true ∧ (σ.outcome t).decisive = false) →
    a.run σ (3 * j) (.sending i errors) =
      ((List.range' i j).flatMap (fun t ↦ [.enqueue (a.event t), .sleep a.backoff]),
        .sending (i + j) (errors ++ (List.range' i j).filterMap fun t ↦ (σ.outcome t).transient?)) := by
  induction j with
  | zero => intro i errors _ _; simp [run, runFuel]
  | succ j ih =>
    intro i errors hij hpre
    obtain ⟨hacc, hdec⟩ := hpre i le_rfl (by omega)
    obtain ⟨e, he, hte⟩ := Outcome.verdict_of_decisive_false hdec
    rw [show 3 * (j + 1) = 3 + 3 * j by omega, run_add, run_transient_attempt (by omega) hacc he,
      ih (i + 1) _ (by omega) fun t h₁ h₂ ↦ hpre t (by omega) (by omega)]
    simp [List.range'_succ, hte, Nat.add_right_comm i 1 j, Nat.add_assoc]

/-- **A decisive attempt**: its event, and the reply is the result. -/
theorem run_decisive_attempt {i : Nat} {errors : List TransientError} {r : Except LoopError Unit}
    (hacc : σ.accepts i = true) (hr : (σ.outcome i).verdict = .done r) :
    a.run σ 2 (.sending i errors) = ([.enqueue (a.event i)], .finished r) := by
  simp [run, runFuel, advance, resume, hacc, hr]

/-- **The last attempt failing transiently**: its event, and no sleep after it; the loop bails out
with every error. -/
theorem run_final_attempt {i : Nat} {errors : List TransientError} {e : TransientError}
    (hi : i + 1 = a.retries) (hacc : σ.accepts i = true) (he : (σ.outcome i).verdict = .retry e) :
    a.run σ 2 (.sending i errors) =
      ([.enqueue (a.event i)], .finished (.error (.failedToSend a.peer (errors ++ [e])))) := by
  simp [run, runFuel, advance, resume, hacc, he, afterFailure_last hi]

/-- **A refused `send`** leaves through `?` with the channel-send error, pushing nothing. -/
theorem run_refused_attempt {i : Nat} {errors : List TransientError} (hacc : σ.accepts i = false) :
    a.run σ 1 (.sending i errors) = ([], .finished (.error .channelSend)) := by
  simp [run, runFuel, advance, resume, hacc]

end SendArgs

/-! ### The law of the untimed run -/

/-- How many attempts a run makes when every `send` succeeds: `min(retries, 1 + the first index
whose outcome is Ok or ProtocolNotSupported)`; `findIdx` is the length when there is none. -/
def attemptCount (retries : Nat) (o : Nat → Outcome) : Nat :=
  min retries ((List.range retries).findIdx (fun i ↦ (o i).decisive) + 1)

section attemptCount

variable {n : Nat} {o : Nat → Outcome}

theorem attemptCount_le : attemptCount n o ≤ n := Nat.min_le_left _ _

theorem attemptCount_pos (h : 0 < n) : 0 < attemptCount n o := by
  unfold attemptCount; omega

/-- Every attempt before the last one counted was transient. -/
theorem decisive_eq_false_of_lt {t : Nat} (h : t + 1 < attemptCount n o) :
    (o t).decisive = false := by
  have ht : t < (List.range n).findIdx (fun i ↦ (o i).decisive) := by
    unfold attemptCount at h; omega
  simpa using List.not_of_lt_findIdx ht

/-- When fewer attempts than `n` are counted, the last one was decisive. -/
theorem decisive_of_attemptCount_lt (h : attemptCount n o < n) :
    (o (attemptCount n o - 1)).decisive = true := by
  have hlt : (List.range n).findIdx (fun i ↦ (o i).decisive) < (List.range n).length := by
    simp only [List.length_range]; unfold attemptCount at h; omega
  have hk : attemptCount n o - 1 = (List.range n).findIdx (fun i ↦ (o i).decisive) := by
    unfold attemptCount at h ⊢; omega
  have := List.findIdx_getElem (w := hlt)
  rw [List.getElem_range] at this
  rwa [hk]

end attemptCount

namespace SendArgs

variable (a : SendArgs)

variable {a}

/-- **The run in which every `send` succeeds**: each attempt's event with a backoff sleep after
all but the last, and the last attempt's reply, or, when it was transient, every attempt's error
in order. -/
theorem run_accepting (o : Nat → Outcome) (h : 0 < a.retries) :
    a.run (.accepting o) (3 * a.retries) a.start =
      (((List.range (attemptCount a.retries o)).flatMap fun i ↦
          [.enqueue (a.event i), .sleep a.backoff]).dropLast,
        .finished (match (o (attemptCount a.retries o - 1)).verdict with
          | .done r => r
          | .retry _ => .error (.failedToSend a.peer
              ((List.range a.retries).filterMap fun i ↦ (o i).transient?)))) := by
  obtain ⟨m, hm⟩ : ∃ m, attemptCount a.retries o = m + 1 :=
    ⟨_, (Nat.succ_pred_eq_of_pos (attemptCount_pos h)).symm⟩
  have hle : m + 1 ≤ a.retries := hm ▸ attemptCount_le
  have hpre := run_transient_prefix (a := a) (σ := .accepting o) m 0 [] (by omega)
    fun t _ ht ↦ ⟨rfl, decisive_eq_false_of_lt (n := a.retries) (o := o) (by omega)⟩
  rw [start, loopHead_of_lt h, show 3 * a.retries = 3 * m + (2 + (3 * a.retries - 3 * m - 2)) by
    omega, run_add, hpre, run_add, hm, Nat.add_sub_cancel]
  simp only [Nat.zero_add, List.nil_append, ← List.range_eq_range'] at *
  rcases hv : (o m).verdict with r | e
  · rw [run_decisive_attempt rfl hv]
    simp [List.range_succ, List.dropLast_append_of_ne_nil]
  · have hlast : m + 1 = a.retries := by
      by_contra hne
      have := decisive_of_attemptCount_lt (n := a.retries) (o := o) (by omega)
      rw [hm, Nat.add_sub_cancel] at this
      obtain ⟨r, hr, -⟩ := Outcome.verdict_of_decisive this
      rw [hr] at hv; cases hv
    have hte : (o m).transient? = some e := by
      rcases ho : o m with _ | (_ | _) | _ <;> simp_all [Outcome.verdict, Outcome.transient?]
    rw [run_final_attempt hlast rfl hv]
    simp [← hlast, List.range_succ, hte, Script.accepting, List.dropLast_append_of_ne_nil]

/-- **A refused `send`** after `j` transient attempts: their events and sleeps, and the
channel-send error, with no event for attempt `j`. -/
theorem run_refused (σ : Script) {j : Nat} (hj : j < attemptCount a.retries σ.outcome)
    (hacc : ∀ i < j, σ.accepts i = true) (hrefused : σ.accepts j = false) :
    a.run σ (3 * a.retries) a.start =
      ((List.range j).flatMap fun i ↦ [.enqueue (a.event i), .sleep a.backoff],
        .finished (.error .channelSend)) := by
  have hr : j < a.retries := Nat.lt_of_lt_of_le hj attemptCount_le
  have hpre := run_transient_prefix (a := a) (σ := σ) j 0 [] (by omega)
    fun t _ ht ↦ ⟨hacc t (by omega), decisive_eq_false_of_lt (n := a.retries) (by omega)⟩
  rw [start, loopHead_of_lt (by omega), show 3 * a.retries = 3 * j + (1 + (3 * a.retries - 3 * j - 1))
    by omega, run_add, hpre, run_add, Nat.zero_add, run_refused_attempt hrefused]
  simp [← List.range_eq_range']

/-- A list of options all of which are `some` is the `some`s of its `filterMap`. -/
theorem map_eq_map_some_filterMap {α β : Type} {f : α → Option β} {l : List α}
    (h : ∀ x ∈ l, (f x).isSome) : l.map f = (l.filterMap f).map some := by
  rw [List.map_filterMap_some_eq_filter_map_isSome, List.filter_eq_self.2]
  simpa using h

end SendArgs

/-- The law of the run in which every `send` succeeds: its events and sleeps, and which result
it returns for which last reply. -/
theorem SendArgs.run_accepting_law (a : SendArgs) (o : Nat → Outcome) :
    let k := attemptCount a.retries o
    let run := a.run (.accepting o) (3 * a.retries) a.start
    run.1 = ((List.range k).flatMap fun i ↦ [.enqueue (a.event i), .sleep a.backoff]).dropLast ∧
    (run.2 = .finished (.ok ()) ↔ 0 < k ∧ o (k - 1) = .ok) ∧
    (run.2 = .finished (.error .protocolNotSupported) ↔
      0 < k ∧ o (k - 1) = .failed .protocolNotSupported) ∧
    ∀ errors, run.2 = .finished (.error (.failedToSend a.peer errors)) ↔
      k = a.retries ∧ errors.map some = (List.range a.retries).map fun i ↦ (o i).transient? := by
  dsimp only
  rcases Nat.eq_zero_or_pos a.retries with h0 | hpos
  · -- no attempt, and no evaluation of `retries - 1`
    have hk : attemptCount a.retries o = 0 := by simp [attemptCount, h0]
    rw [SendArgs.start, SendArgs.loopHead_of_le h0.le, SendArgs.run_finished, hk]
    refine ⟨?_, ?_, ?_, ?_⟩ <;> simp [h0]
  have hk := attemptCount_pos (o := o) hpos
  have hle := attemptCount_le (n := a.retries) (o := o)
  rw [SendArgs.run_accepting o hpos]
  refine ⟨rfl, ?_⟩
  rcases hdec : (o (attemptCount a.retries o - 1)).decisive
  · -- the last attempt was transient: it was attempt `retries - 1`, and so was every one
    have hkr : attemptCount a.retries o = a.retries := by
      by_contra hne
      have := decisive_of_attemptCount_lt (n := a.retries) (o := o) (by omega)
      simp_all
    have hsome : ∀ i ∈ List.range a.retries, ((o i).transient?).isSome := by
      intro i hi
      have hi' : i + 1 < attemptCount a.retries o ∨ i = attemptCount a.retries o - 1 := by
        simp at hi; omega
      obtain ⟨e, -, he⟩ := Outcome.verdict_of_decisive_false <| hi'.elim
        (decisive_eq_false_of_lt (n := a.retries)) (· ▸ hdec)
      simp [he]
    obtain ⟨e, he, -⟩ := Outcome.verdict_of_decisive_false hdec
    rw [he]
    simp only [SendArgs.map_eq_map_some_filterMap hsome,
      (List.map_injective_iff.2 (Option.some_injective _)).eq_iff, hkr, true_and]
    refine ⟨?_, ?_, fun errors ↦ by simp [eq_comm]⟩ <;>
      rcases hlast : o (attemptCount a.retries o - 1) with _ | (_ | reason) | _ <;>
      simp_all [Outcome.decisive]
  · -- the last reply was decisive, so no list of transient errors describes the run
    obtain ⟨r, hr, hnone⟩ := Outcome.verdict_of_decisive hdec
    have hmem : none ∈ (List.range a.retries).map fun i ↦ (o i).transient? :=
      List.mem_map.2 ⟨_, List.mem_range.2 (by omega), hnone⟩
    rw [hr]
    refine ⟨?_, ?_, fun errors ↦ ⟨fun h ↦ ?_, fun ⟨_, hmap⟩ ↦ ?_⟩⟩
    rotate_left 3
    · rw [← hmap] at hmem; simp at hmem
    all_goals rcases hlast : o (attemptCount a.retries o - 1) with _ | (_ | reason) | _ <;>
      simp_all [Outcome.verdict, Outcome.decisive] <;> subst hr <;> simp

/-- **`send_message_with_retry_and_timeout` when the deadline does not fire.** For every retry
count, `0` included, and every sequence of the driver's replies, with
`k = min(retries, 1 + the first Ok or ProtocolNotSupported)`: the call pushes the events
`SendMessage { peer, message, response, connection_id }` of attempts `0, …, k - 1`, each with the
call's own peer, message and connection and the attempt's fresh reply channel, with one
backoff sleep between consecutive attempts and none after the last; it returns `Ok` exactly when
the last reply was `Ok`, `ProtocolNotSupported` exactly when that was the last reply, and
otherwise the failure listing the `retries` transient errors in attempt order (no attempt and no
error when `retries = 0`). A `send` that fails at an attempt the loop reaches ends the call at once
with the channel-send error, after the earlier attempts' events and sleeps. -/
theorem sendMessageWithRetry_untimed (a : SendArgs) (o : Nat → Outcome) :
    let k := attemptCount a.retries o
    let run := a.run (.accepting o) (3 * a.retries) a.start
    run.1 = ((List.range k).flatMap fun i ↦
      [.enqueue (.sendMessage a.peer a.message i a.connectionId), .sleep a.backoff]).dropLast ∧
    (run.2 = .finished (.ok ()) ↔ 0 < k ∧ o (k - 1) = .ok) ∧
    (run.2 = .finished (.error .protocolNotSupported) ↔
      0 < k ∧ o (k - 1) = .failed .protocolNotSupported) ∧
    (∀ errors, run.2 = .finished (.error (.failedToSend a.peer errors)) ↔
      k = a.retries ∧ errors.map some = (List.range a.retries).map fun i ↦ (o i).transient?) ∧
    ∀ (σ : Script) (j : Nat), σ.outcome = o → j < k → (∀ i < j, σ.accepts i = true) →
      σ.accepts j = false →
      a.run σ (3 * a.retries) a.start =
        ((List.range j).flatMap fun i ↦
          [.enqueue (.sendMessage a.peer a.message i a.connectionId), .sleep a.backoff],
          .finished (.error .channelSend)) :=
  let h := a.run_accepting_law o
  ⟨h.1, h.2.1, h.2.2.1, h.2.2.2, fun σ _ ho hj ↦ SendArgs.run_refused σ (ho ▸ hj)⟩

end Iroh.Bitswap
