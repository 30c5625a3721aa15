import Iroh.Bitswap.RetryLoop
import Iroh.Bitswap.SendTimeout

/-!
# Sending on a dialled connection

`MessageSender` keeps the connection `new_message_sender` dialled and the configuration of its
sends, and `MessageSender::send_message` hands both to `send_message_with_retry_and_timeout`.
`Network::send_message` dials too, then sends with one attempt and a timeout from the message's
size. Both are the loop of `RetryLoop` with particular arguments; this module fixes them, and shows
that `Network::send_message` makes exactly one attempt (`networkSendMessage_one_attempt`).

The `dial` before each is the request of `World`; here only its answer, the connection and the
protocol, is read.
-/

namespace Iroh.Bitswap

/-- `MessageSender`: the peer (its field `to`), the connection and protocol its dial negotiated,
and the configuration of its sends. -/
structure MessageSender where
  peer : PeerId
  config : MessageSenderConfig
  connectionId : ConnectionId
  protocolId : ProtocolId
  deriving DecidableEq, Repr

namespace MessageSender

/-- `MessageSender::supports_have`. -/
def supportsHave (m : MessageSender) : Bool := m.protocolId.supportsHave

/-- `MessageSender::send_message`: the loop on the dialled connection, with the configured
retries, timeout and backoff. -/
def sendMessage (m : MessageSender) (message : BitswapMessage) : SendArgs where
  peer := m.peer
  connectionId := some m.connectionId
  message := message
  retries := m.config.maxRetries
  timeout := m.config.sendTimeout
  backoff := m.config.sendErrorBackoff

end MessageSender

/-- `Network::new_message_sender`, once its `dial` with `CONNECT_TIMEOUT` returned the connection
and the protocol. -/
def newMessageSender (peer : PeerId) (config : MessageSenderConfig)
    (dialed : ConnectionId × ProtocolId) : MessageSender :=
  ⟨peer, config, dialed.1, dialed.2⟩

/-- `Network::send_message`, once its `dial` returned: one attempt, no connection id, the timeout
`send_timeout` gives the encoded length, and a backoff of 100 ms; `none` where `send_timeout`
panics. -/
def Network.sendMessage (peer : PeerId) (message : BitswapMessage) : Option SendArgs := do
  let timeout ← sendTimeout message.encodedLen
  pure ⟨peer, none, message, 1, timeout, .fromMillis 100⟩

/-- **`Network::send_message` makes exactly one attempt.** It calls the loop on no connection,
with one retry, a backoff of 100 ms and the timeout `send_timeout` gives the encoded length, which
never overflows. Without a deadline the loop pushes one `SendMessage` and returns the reply's `Ok`
or `ProtocolNotSupported`, or fails with that one transient error. -/
theorem networkSendMessage_one_attempt (peer : PeerId) (message : BitswapMessage)
    (o : Nat → Outcome) :
    ∃ a, Network.sendMessage peer message = some a ∧ a.peer = peer ∧ a.message = message ∧
      a.connectionId = none ∧ a.retries = 1 ∧ a.backoff = .fromMillis 100 ∧
      a.timeout = .fromSecs (min 60 (max 2 (1 + message.encodedLen.toNat / minSendRate))) ∧
      a.run (.accepting o) 3 a.start =
        ([.enqueue (.sendMessage peer message 0 none)],
          .finished (match (o 0).verdict with
            | .done r => r
            | .retry e => .error (.failedToSend peer [e]))) := by
  refine ⟨⟨peer, none, message, 1,
      .fromSecs (min 60 (max 2 (1 + message.encodedLen.toNat / minSendRate))), .fromMillis 100⟩,
    by simp [Network.sendMessage, sendTimeout_eq_clamp], rfl, rfl, rfl, rfl, rfl, rfl, ?_⟩
  rw [SendArgs.start, SendArgs.loopHead, if_pos Nat.zero_lt_one]
  rcases h : (o 0).verdict with r | e
  · exact SendArgs.run_eq_of_finished (SendArgs.run_decisive_attempt rfl h) (by decide)
  · exact SendArgs.run_eq_of_finished (SendArgs.run_final_attempt rfl rfl h) (by decide)

end Iroh.Bitswap
