/-
The websocket client component itself: the record behind a client handle,
the events it dispatches, how it gives a connection up, and how it sends.

# The environment

The transport below is not part of the source: what it answers is input.
`esp_transport_ws_send_raw` answers the number of bytes written of the
frame it is given, or an error, and a list of such answers drives a send;
past its end every write fails. The clock is any function from the count
of readings to milliseconds that never runs backwards (`Clock`).

# The log

`log` is no field of the source: it records, in order, what the component
did that somebody outside can see (`Output`): the events dispatched, the
frames handed to the transport, and what the send functions returned.
Each entry carries the number of clock readings made before it.
-/
import Mathlib.Algebra.Group.Nat.Defs
import WledDial.Model.WebsocketClient

namespace WledDial

-- =============================================================== config

/-- The fields of `esp_websocket_client_config_t` that set the timers and
the buffer. -/
structure EspWebsocketClientConfig where
  disableAutoReconnect : Bool
  reconnectTimeoutMs : Int
  pingIntervalSec : Nat
  pingpongTimeoutSec : Int
  disablePingpongDiscon : Bool
  bufferSize : Int

/-- `esp_websocket_client_config_t cfg = {}`. -/
def EspWebsocketClientConfig.zero : EspWebsocketClientConfig :=
  ⟨false, 0, 0, 0, false, 0⟩

/-- What a client keeps of them. -/
structure ClientConfig where
  autoReconnect : Bool
  waitTimeoutMs : Int
  pingIntervalSec : Nat
  pingpongTimeoutSec : Int
  bufferSize : Nat
  wait_pos : autoReconnect = true → 0 < waitTimeoutMs
  ping_pos : 0 < pingIntervalSec
  buffer_pos : 0 < bufferSize

namespace ClientConfig

/-- `WEBSOCKET_RECONNECT_TIMEOUT_MS`. -/
def reconnectTimeoutMs : Int := 10 * 1000

/-- `WEBSOCKET_PING_INTERVAL_SEC`. -/
def defaultPingIntervalSec : Nat := 10

/-- `WEBSOCKET_PINGPONG_TIMEOUT_SEC`. -/
def defaultPingpongTimeoutSec : Int := 120

/-- What `esp_websocket_client_init` and `esp_websocket_client_set_config`
make of a configuration: whatever is not set gets its default. -/
def ofConfig (config : EspWebsocketClientConfig) : ClientConfig where
  autoReconnect := !config.disableAutoReconnect
  waitTimeoutMs :=
    if !config.disableAutoReconnect ∧ config.reconnectTimeoutMs ≤ 0 then
      reconnectTimeoutMs
    else config.reconnectTimeoutMs
  pingIntervalSec :=
    if config.pingIntervalSec = 0 then defaultPingIntervalSec
    else config.pingIntervalSec
  pingpongTimeoutSec :=
    if config.disablePingpongDiscon then 0
    else if config.pingpongTimeoutSec ≠ 0 then config.pingpongTimeoutSec
    else defaultPingpongTimeoutSec
  bufferSize :=
    if config.bufferSize ≤ 0 then WledDial.bufferSize
    else config.bufferSize.toNat
  wait_pos := by
    intro hauto
    split
    · decide
    · next hset => exact Int.not_le.mp fun hle => hset ⟨hauto, hle⟩
  ping_pos := by
    split
    · decide
    · omega
  buffer_pos := by
    split
    · decide
    · omega

/-- The configuration of the `EspWledController` constructor; its address
and network timeout are the transport's. -/
def dial : ClientConfig :=
  ofConfig { EspWebsocketClientConfig.zero with reconnectTimeoutMs := 10000 }

/-- An `int` compared with a `uint64_t`. -/
def asUInt64 (i : Int) : Nat := (i % 2 ^ 64).toNat

/-- `client->wait_timeout_ms`, as it is compared. -/
def waitMs (config : ClientConfig) : Nat := asUInt64 config.waitTimeoutMs

/-- `client->config->ping_interval_sec * 1000`: a `size_t` of 32 bits. -/
def pingMs (config : ClientConfig) : Nat :=
  config.pingIntervalSec * 1000 % 2 ^ 32

/-- `client->config->pingpong_timeout_sec * 1000`, as it is compared. -/
def pongMs (config : ClientConfig) : Nat :=
  asUInt64 (config.pingpongTimeoutSec * 1000)

example : (dial.waitMs, dial.pingMs, dial.pongMs) = (10000, 10000, 120000) := by
  decide

end ClientConfig

-- ================================================================ clock

/-- The clock behind `_tick_get_ms`, by the count of its readings. -/
structure Clock where
  read : Nat → Nat
  mono : ∀ {i j : Nat}, i ≤ j → read i ≤ read j

-- ============================================================== the log

/-- `esp_websocket_error_type_t`. -/
inductive ErrorType where
  | none
  | tcpTransport
  | pongTimeout
  | handshake
  deriving DecidableEq

/-- `WS_TRANSPORT_OPCODES_FIN`. -/
def finBit : UInt8 := 0x80

/-- A frame given to `esp_transport_ws_send_raw`, and its answer. -/
structure Write where
  opcode : UInt8
  payload : Bytes
  wlen : Int

namespace Write

/-- The transport took the whole frame. -/
def Whole (w : Write) : Prop := w.wlen = w.payload.length

/-- The answer that ends a send: an error, or nothing taken of
something. -/
def Failed (w : Write) : Prop := w.wlen < 0 ∨ (w.wlen = 0 ∧ w.payload ≠ [])

/-- What the transport took. -/
def taken (w : Write) : Bytes := w.payload.take w.wlen.toNat

instance (w : Write) : Decidable w.Whole :=
  inferInstanceAs (Decidable (_ = _))

instance (w : Write) : Decidable w.Failed :=
  inferInstanceAs (Decidable (_ ∨ (_ ∧ _)))

end Write

/-- The kinds of message a caller may send. -/
inductive MessageKind where
  | text
  | binary
  deriving DecidableEq

def MessageKind.opcode : MessageKind → Opcode
  | .text => .text
  | .binary => .binary

/-- A message a caller sends. -/
structure Message where
  kind : MessageKind
  data : Bytes
  deriving DecidableEq

/-- What somebody outside sees of the component: an event, with the error
type it carries; a frame of a send; a ping, pong or close frame, whose
answer is not looked at; the result of a send. -/
inductive Output where
  | event (id : EventId) (data : EventData) (errorType : ErrorType)
  | write (w : Write)
  | control (opcode : UInt8) (payload : Bytes)
  | returned (m : Message) (ret : Int)

/-- An output, and the clock readings made before it. -/
structure Entry where
  ticks : Nat
  output : Output

/-- The entry starts a connection. -/
def Entry.connects (e : Entry) : Bool :=
  match e.output with
  | .event .connected _ _ => true
  | _ => false

-- =========================================================== the client

/-- `websocket_client_state_t`. -/
inductive ClientState where
  | error
  | unknow
  | init
  | connected
  | waitTimeout
  | closing
  deriving DecidableEq

/-- The state's number in the source. -/
def ClientState.toInt : ClientState → Int
  | .error => -1
  | .unknow => 0
  | .init => 1
  | .connected => 2
  | .waitTimeout => 3
  | .closing => 4

/-- `struct esp_websocket_client`. The last opcode is `none` for
`WS_TRANSPORT_OPCODES_NONE`. -/
structure EspWebsocketClient where
  config : ClientConfig
  state : ClientState
  run : Bool
  reconnectTickMs : Nat
  pingTickMs : Nat
  pingpongTickMs : Nat
  waitForPongResp : Bool
  closeFrameSent : Bool
  errorType : ErrorType
  lastFin : Bool
  lastOpcode : Option UInt8
  payloadLen : Nat
  payloadOffset : Nat
  rxBuffer : Bytes
  ticks : Nat
  log : List Entry

namespace EspWebsocketClient

/-- `esp_websocket_client_init`: a zeroed record, three readings of the
clock, and a receive buffer with anything in it. -/
def init (clock : Clock) (config : ClientConfig) (rxBuffer : Bytes) :
    EspWebsocketClient where
  config := config
  state := .unknow
  run := false
  reconnectTickMs := clock.read 1
  pingTickMs := clock.read 2
  pingpongTickMs := 0
  waitForPongResp := false
  closeFrameSent := false
  errorType := .none
  lastFin := false
  lastOpcode := some 0
  payloadLen := 0
  payloadOffset := 0
  rxBuffer := rxBuffer
  ticks := 3
  log := []

/-- What `_tick_get_ms` returns now. -/
def now (clock : Clock) (c : EspWebsocketClient) : Nat := clock.read c.ticks

/-- After the reading. -/
def ticked (c : EspWebsocketClient) : EspWebsocketClient :=
  { c with ticks := c.ticks + 1 }

/-- Log what is done now. -/
def logs (c : EspWebsocketClient) (outputs : List Output) :
    EspWebsocketClient :=
  { c with log := c.log ++ outputs.map (Entry.mk c.ticks) }

/-- The event data `esp_websocket_client_dispatch_event` fills in. -/
def eventData (c : EspWebsocketClient) (data : Bytes) : EventData where
  data := data
  fin := c.lastFin
  opCode := c.lastOpcode.getD 0
  payloadLen := c.payloadLen
  payloadOffset := c.payloadOffset

/-- `esp_websocket_client_dispatch_event`: the handlers run before it
returns. -/
def dispatchEvent (c : EspWebsocketClient) (event : EventId) (data : Bytes) :
    EspWebsocketClient :=
  c.logs [.event event (c.eventData data) c.errorType]

/-- `esp_websocket_client_error`, but for the text of the message. -/
def error (c : EspWebsocketClient) : EspWebsocketClient :=
  c.dispatchEvent .error []

/-- `esp_websocket_client_abort_connection`, whose result every caller
drops. -/
def abortConnection (clock : Clock) (c : EspWebsocketClient)
    (errorType : ErrorType) : EspWebsocketClient :=
  if c.state.toInt < ClientState.init.toInt then c
  else if !c.config.autoReconnect then
    { c with run := false, state := .unknow }.dispatchEvent .disconnected []
  else
    { c.ticked with
      reconnectTickMs := c.now clock
      errorType := errorType
      state := .waitTimeout }.dispatchEvent .disconnected []

/-- `esp_websocket_client_is_connected`. -/
def isConnected (c : EspWebsocketClient) : Bool := c.state = .connected

-- ============================================================== sending

/-- What the loop of a send ends with. -/
structure SendResult where
  ret : Int
  writes : List Write
  failed : Bool

/-- `need_write`, with `rest` bytes left: what fits the transmit buffer. -/
def needWrite (bufferSize rest : Nat) : Nat :=
  if bufferSize < rest then bufferSize else rest

/-- The opcode of the next frame. FIN is taken off a frame that leaves
something, and put on the one that takes the rest if the caller asked for
it. -/
def frameOpcode (bufferSize rest : Nat) (containedFin : Bool)
    (opcode : UInt8) : UInt8 :=
  if bufferSize < rest then opcode &&& ~~~finBit
  else if containedFin then opcode ||| finBit
  else opcode

/-- The loop of `esp_websocket_client_send_with_exact_opcode`, from the
index `widx` on. The opcode is 0 after the first frame; one that is not 0
is sent even without data. -/
def sendLoop (bufferSize : Nat) (containedFin : Bool) (data : Bytes) :
    UInt8 → Nat → List Int → SendResult
  | opcode, widx, answers =>
      if widx < data.length ∨ opcode ≠ 0 then
        let need := needWrite bufferSize (data.length - widx)
        let frame := frameOpcode bufferSize (data.length - widx) containedFin
          opcode
        let payload := (data.drop widx).take need
        match answers with
        | [] => ⟨-1, [⟨frame, payload, -1⟩], true⟩
        | wlen :: answers =>
            if wlen < 0 ∨ (wlen = 0 ∧ need ≠ 0) then
              ⟨wlen, [⟨frame, payload, wlen⟩], true⟩
            else
              let r := sendLoop bufferSize containedFin data 0
                (widx + wlen.toNat) answers
              { r with writes := ⟨frame, payload, wlen⟩ :: r.writes }
      else ⟨widx, [], false⟩

/-- `esp_websocket_client_send_with_exact_opcode`, once it holds the
lock. -/
def sendLocked (clock : Clock) (c : EspWebsocketClient) (opcode : UInt8)
    (data : Bytes) (answers : List Int) : Int × EspWebsocketClient :=
  let r := sendLoop c.config.bufferSize (opcode &&& finBit ≠ 0) data opcode
    0 answers
  let c := c.logs (r.writes.map Output.write)
  if r.failed then (r.ret, c.error.abortConnection clock .tcpTransport)
  else (r.ret, c)

/-- `esp_websocket_client_send_with_exact_opcode`, with the lock free. -/
def sendWithExactOpcode (clock : Clock) (c : EspWebsocketClient)
    (opcode : UInt8) (data : Bytes) (answers : List Int) :
    Int × EspWebsocketClient :=
  if !c.isConnected then (-1, c)
  else c.sendLocked clock opcode data answers

/-- `esp_websocket_client_send_with_opcode`. -/
def sendWithOpcode (clock : Clock) (c : EspWebsocketClient) (opcode : UInt8)
    (data : Bytes) (answers : List Int) : Int × EspWebsocketClient :=
  c.sendWithExactOpcode clock (opcode ||| finBit) data answers

/-- `esp_websocket_client_send_text` or `esp_websocket_client_send_bin`,
once it holds the lock. -/
def sendMessage (clock : Clock) (c : EspWebsocketClient) (m : Message)
    (answers : List Int) : Int × EspWebsocketClient :=
  c.sendLocked clock (m.kind.opcode.code ||| finBit) m.data answers

/-- `esp_websocket_client_send_text`. -/
def sendText (clock : Clock) (c : EspWebsocketClient) (data : Bytes)
    (answers : List Int) : Int × EspWebsocketClient :=
  c.sendWithOpcode clock Opcode.text.code data answers

/-- `esp_websocket_client_send_text_partial`. -/
def sendTextPartial (clock : Clock) (c : EspWebsocketClient) (data : Bytes)
    (answers : List Int) : Int × EspWebsocketClient :=
  c.sendWithExactOpcode clock Opcode.text.code data answers

/-- `esp_websocket_client_send_cont_msg`. -/
def sendContMsg (clock : Clock) (c : EspWebsocketClient) (data : Bytes)
    (answers : List Int) : Int × EspWebsocketClient :=
  c.sendWithExactOpcode clock Opcode.cont.code data answers

/-- `esp_websocket_client_send_bin`. -/
def sendBin (clock : Clock) (c : EspWebsocketClient) (data : Bytes)
    (answers : List Int) : Int × EspWebsocketClient :=
  c.sendWithOpcode clock Opcode.binary.code data answers

/-- `esp_websocket_client_send_bin_partial`. -/
def sendBinPartial (clock : Clock) (c : EspWebsocketClient) (data : Bytes)
    (answers : List Int) : Int × EspWebsocketClient :=
  c.sendWithExactOpcode clock Opcode.binary.code data answers

/-- `esp_websocket_client_send_fin`. -/
def sendFin (clock : Clock) (c : EspWebsocketClient) (answers : List Int) :
    Int × EspWebsocketClient :=
  c.sendWithExactOpcode clock finBit [] answers

end EspWebsocketClient

end WledDial
