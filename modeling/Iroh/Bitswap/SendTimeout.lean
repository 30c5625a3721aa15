import Mathlib.Data.Nat.Defs
import Iroh.Bitswap.Types

/-!
# `send_timeout`: the deadline a message size buys

`Network::send_message` gives the retry loop the overall deadline `send_timeout(len)`:

```
timeout = SEND_LATENCY + Duration::from_secs(size as u64 / MIN_SEND_RATE)
clamp to [MIN_SEND_TIMEOUT, MAX_SEND_TIMEOUT]
```

The division is on `u64`, so the transfer time is counted in **whole seconds**, rounded down:
a message of `n` bytes is allowed `1 + ⌊n / 12500⌋` seconds before the clamp, not
`1 s + n · 80 µs` (`sendTimeout_ne_exact` at `n = 37499`, where the two differ by almost a
second). What holds for every `usize` is the closed form `sendTimeout_eq_clamp`: the `+=`
never overflows, since `⌊n / 12500⌋ + 1` is far below `u64::MAX`, and the result is the
clamped whole-second sum, which is non-decreasing in the size (`sendTimeout_mono`).
-/

namespace Iroh.Bitswap

/-- `send_timeout`. `none` is the panic of `+=` on overflow (`Duration::checked_add` failing);
the comparisons are `timeout > MAX_SEND_TIMEOUT` and then `timeout < MIN_SEND_TIMEOUT`. -/
def sendTimeout (size : UInt64) : Option Duration := do
  let timeout ← sendLatency.checkedAdd (.fromSecs (size.toNat / minSendRate))
  if maxSendTimeout < timeout then maxSendTimeout
  else if timeout < minSendTimeout then minSendTimeout
  else timeout

/-- The transfer time never overflows the seconds of a `Duration`. -/
theorem latency_add_le_u64Max (size : UInt64) : 1 + size.toNat / minSendRate ≤ u64Max := by
  have := size.toNat_lt_size
  simp only [minSendRate, u64Max, UInt64.size] at *
  omega

/-- **Closed form.** `send_timeout` returns, without overflow, the clamp of one second plus the
whole seconds of transfer at `MIN_SEND_RATE`. -/
theorem sendTimeout_eq_clamp (size : UInt64) :
    sendTimeout size = some (.fromSecs (min 60 (max 2 (1 + size.toNat / minSendRate)))) := by
  simp only [sendTimeout, sendLatency, Duration.checkedAdd_fromSecs (latency_add_le_u64Max size),
    Option.bind_eq_bind, Option.some_bind, maxSendTimeout, minSendTimeout]
  split_ifs <;> simp only [Duration.lt_iff_toNanos, Duration.toNanos_fromSecs] at * <;>
    congr 2 <;> omega

/-- The timeout is non-decreasing in the message size. -/
theorem sendTimeout_mono {m n : UInt64} {a b : Duration} (hmn : m.toNat ≤ n.toNat)
    (ha : sendTimeout m = some a) (hb : sendTimeout n = some b) : a.toNanos ≤ b.toNanos := by
  rw [sendTimeout_eq_clamp] at ha hb
  cases ha; cases hb
  have := Nat.div_le_div_right (c := minSendRate) hmn
  simp only [Duration.toNanos_fromSecs]
  omega

/-- **The timeout a message gets.** For every `usize` size, `send_timeout` computes without
overflow the clamp to `[2 s, 60 s]` of one second plus the transfer time in whole seconds, and
the result is non-decreasing in the size. -/
theorem sendTimeout_whole_seconds (size : UInt64) :
    sendTimeout size = some (.fromSecs (min 60 (max 2 (1 + size.toNat / minSendRate)))) ∧
      ∀ (m : UInt64) (a b : Duration), m.toNat ≤ size.toNat → sendTimeout m = some a →
        sendTimeout size = some b → a.toNanos ≤ b.toNanos :=
  ⟨sendTimeout_eq_clamp size, fun _ _ _ hm ha hb ↦ sendTimeout_mono hm ha hb⟩

/-- The timeout read with the exact transfer time `n · 80 µs`, in nanoseconds, clamped to
`[MIN_SEND_TIMEOUT, MAX_SEND_TIMEOUT]`: the spec's formula, not the code's. -/
def exactSendTimeoutNanos (n : Nat) : Nat :=
  min maxSendTimeout.toNanos (max minSendTimeout.toNanos (sendLatency.toNanos + n * 80000))

/-- At `37499` bytes the code allows `3 s` where the exact transfer time gives `3.99992 s`. -/
theorem sendTimeout_ne_exact :
    (sendTimeout 37499).map Duration.toNanos ≠ some (exactSendTimeoutNanos 37499) := by
  decide

end Iroh.Bitswap
