import Mathlib.Order.Basic

/-!
# The data of the bitswap network adapter

`iroh-bitswap/src/network.rs` moves requests from asynchronous callers to the swarm driver
through one bounded `crossbeam` channel of `OutEvent`s. Each event that expects an answer
carries the sending half of a fresh `tokio` channel, and the driver answers on it. This module
fixes the data of that exchange: the events, the driver's answers, the errors, the
configuration and the constants. The behaviour is in the modules that import it.

## What is opaque

`PeerId`, `Cid`, `BitswapMessage`, `ConnectionId` and `ProtocolId` come from other crates and
only cross this layer. They are numbered, so that models can be evaluated, and nothing but
equality is read from them, with two exceptions that the code does read: a message's
`encoded_len()` and a protocol's `supports_have()`. Neither method is in the repository's
files, so each is a field of the opaque value.

A channel is named by a `ChanId`: the identity of the `oneshot::channel()` or
`mpsc::channel(16)` call that made it. The network world allocates them fresh.

## Durations

`std::time::Duration` is whole seconds and a nanosecond part below one second. The bound is a
field, so no denormalised duration can be built. Its `+=` panics when the seconds overflow a
`u64`; `Duration.checkedAdd` returns `none` there.
-/

namespace Iroh.Bitswap

/-- A `Result` compares by variant and payload, so that states holding one are decidable. -/
instance instDecidableEqExcept {ε α : Type} [DecidableEq ε] [DecidableEq α] :
    DecidableEq (Except ε α)
  | .ok a, .ok b => if h : a = b then isTrue (h ▸ rfl) else isFalse fun h' ↦ h (Except.ok.inj h')
  | .error a, .error b =>
    if h : a = b then isTrue (h ▸ rfl) else isFalse fun h' ↦ h (Except.error.inj h')
  | .ok _, .error _ => isFalse Except.noConfusion
  | .error _, .ok _ => isFalse Except.noConfusion

/-! ### Opaque identities -/

/-- A remote participant, `libp2p::PeerId`. -/
structure PeerId where
  id : Nat
  deriving DecidableEq, Repr

/-- A content identifier, `cid::Cid`. -/
structure Cid where
  id : Nat
  deriving DecidableEq, Repr

/-- A connection the swarm allocated, `libp2p::core::connection::ConnectionId`. -/
structure ConnectionId where
  id : Nat
  deriving DecidableEq, Repr

/-- A negotiated protocol version, `crate::protocol::ProtocolId`, with the capability
`supports_have()` reads. -/
structure ProtocolId where
  id : Nat
  supportsHave : Bool
  deriving DecidableEq, Repr

/-- A protocol message, `crate::message::BitswapMessage`, with its `encoded_len()`
(a `usize`, 64 bits wide on the targets). -/
structure BitswapMessage where
  id : Nat
  encodedLen : UInt64
  deriving DecidableEq, Repr

/-- The identity of one channel: the call to `oneshot::channel()` or `mpsc::channel(16)` that
made it. -/
abbrev ChanId := Nat

/-! ### Durations -/

/-- `u64::MAX`, the largest number of seconds a `Duration` holds. -/
def u64Max : Nat := 18446744073709551615

/-- `std::time::Duration`: whole seconds and a nanosecond part below one second. -/
structure Duration where
  secs : Nat
  nanos : Nat
  nanos_lt : nanos < 1000000000
  deriving DecidableEq, Repr

namespace Duration

/-- `Duration::from_secs`. -/
def fromSecs (s : Nat) : Duration := ⟨s, 0, by decide⟩

/-- `Duration::from_millis`. -/
def fromMillis (ms : Nat) : Duration :=
  ⟨ms / 1000, ms % 1000 * 1000000, by omega⟩

/-- The duration as a count of nanoseconds: the order `Duration` derives is this one. -/
def toNanos (d : Duration) : Nat := d.secs * 1000000000 + d.nanos

instance : LT Duration := ⟨fun a b ↦ a.toNanos < b.toNanos⟩

instance (a b : Duration) : Decidable (a < b) :=
  inferInstanceAs (Decidable (a.toNanos < b.toNanos))

/-- `Duration::checked_add`: the nanoseconds carry into the seconds, and `none` when the seconds
pass `u64::MAX`. `+=` is this followed by `expect("overflow when adding durations")`. -/
def checkedAdd (a b : Duration) : Option Duration :=
  if h : a.nanos + b.nanos < 1000000000 then
    if a.secs + b.secs ≤ u64Max then some ⟨a.secs + b.secs, a.nanos + b.nanos, h⟩ else none
  else
    if a.secs + b.secs + 1 ≤ u64Max then
      some ⟨a.secs + b.secs + 1, a.nanos + b.nanos - 1000000000, by
        have := a.nanos_lt; have := b.nanos_lt; omega⟩
    else none

@[simp] theorem fromSecs_secs (s : Nat) : (fromSecs s).secs = s := rfl

@[simp] theorem fromSecs_nanos (s : Nat) : (fromSecs s).nanos = 0 := rfl

@[simp] theorem toNanos_fromSecs (s : Nat) : (fromSecs s).toNanos = s * 1000000000 := by
  simp [toNanos]

theorem lt_iff_toNanos {a b : Duration} : a < b ↔ a.toNanos < b.toNanos := Iff.rfl

/-- Adding whole seconds below the overflow bound never overflows, and adds the seconds. -/
theorem checkedAdd_fromSecs {a b : Nat} (h : a + b ≤ u64Max) :
    (fromSecs a).checkedAdd (fromSecs b) = some (fromSecs (a + b)) := by
  simp [checkedAdd, fromSecs, h]

end Duration

/-! ### The constants of `network.rs` -/

/-- `MAX_SEND_TIMEOUT`. -/
def maxSendTimeout : Duration := .fromSecs 60

/-- `MIN_SEND_TIMEOUT`. -/
def minSendTimeout : Duration := .fromSecs 2

/-- `SEND_LATENCY`. -/
def sendLatency : Duration := .fromSecs 1

/-- `MIN_SEND_RATE`, in bytes a second: 100 kbit/s. -/
def minSendRate : Nat := 100 * 1000 / 8

/-- The capacity `Network::new` gives the outbound channel: `crossbeam::channel::bounded(1024)`. -/
def outCapacity : Nat := 1024

/-! ### Events and answers -/

/-- The `BitswapEvent`s this layer emits through `GenerateEvent`. The crate's other variants
never pass through `Network`. -/
inductive BitswapEvent
  /-- `Ping { peer, response }`, answered on a one-shot with `Option<Duration>`. -/
  | ping (peer : PeerId) (response : ChanId)
  /-- `FindProviders { key, response }`, answered on an `mpsc` channel of capacity 16. -/
  | findProviders (key : Cid) (response : ChanId)
  /-- `Provide { key }`, with no answer. -/
  | provide (key : Cid)
  deriving DecidableEq, Repr

/-- `OutEvent`: what an operation pushes on the outbound channel for the driver. -/
inductive OutEvent
  | dial (peer : PeerId) (response : ChanId)
  | sendMessage (peer : PeerId) (message : BitswapMessage) (response : ChanId)
      (connectionId : Option ConnectionId)
  | generateEvent (event : BitswapEvent)
  deriving DecidableEq, Repr

/-- The one-shot reply channel an event carries; `FindProviders` carries an `mpsc` channel and
`Provide` none. -/
def OutEvent.oneshot? : OutEvent → Option ChanId
  | .dial _ r => some r
  | .sendMessage _ _ r _ => some r
  | .generateEvent (.ping _ r) => some r
  | .generateEvent (.findProviders _ _) => none
  | .generateEvent (.provide _) => none

/-- `SendError`, the driver's answer to a `SendMessage` it could not deliver. -/
inductive SendError
  /-- `#[error("protocol not supported")]`: the peer does not speak the protocol. -/
  | protocolNotSupported
  /-- `#[error("{0}")]`: any other failure, with its text. -/
  | other (reason : String)
  deriving DecidableEq, Repr

/-! ### Configuration -/

/-- `MessageSenderConfig`. -/
structure MessageSenderConfig where
  maxRetries : Nat
  sendTimeout : Duration
  sendErrorBackoff : Duration
  deriving DecidableEq, Repr

/-- `MessageSenderConfig::default()`. -/
def MessageSenderConfig.default : MessageSenderConfig where
  maxRetries := 3
  sendTimeout := maxSendTimeout
  sendErrorBackoff := .fromMillis 100

end Iroh.Bitswap
