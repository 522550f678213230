/-
The task of the websocket client (`esp_websocket_client_task`), and a
caller that sends while it runs.

# The task

One pass of the loop takes the lock and acts on the state: connect,
keep the connection alive and read a frame, wait out the reconnect
timeout, or answer a close frame (`switchState`). Behind it, without the
lock, a connected client waits for something to read, and one that has
answered a close frame ends the task. `TaskPc` is where the task stands
between two accesses another task could see.

# The caller

A send checks that the client is connected, waits for the lock, and only
then writes (`check`, `lockTimeout`, `send`): between the two the task
may do anything. There is one caller: the menu's callbacks all run on
the GUI task.

# The environment

What the transport answers is part of each step: whether a connect
succeeds, what the polls return, the reads of a frame (`Read`; past the
end of the list every read fails), the answers to a send.
-/
import WledDial.Model.EspWebsocketClient
import WledDial.Lib.System

namespace WledDial

open Transition

-- ============================================================ receiving

/-- An answer of `esp_transport_read`, with what the transport then says
of the frame: its length, FIN, and its opcode or
`WS_TRANSPORT_OPCODES_NONE`. -/
inductive Read where
  | failed
  | read (data : Bytes) (payloadLen : Nat) (fin : Bool)
      (opcode : Option UInt8)
  deriving DecidableEq

/-- How a call of `esp_websocket_client_recv` ends. -/
inductive RecvEnd where
  | failed
  | timeout
  | frame
  deriving DecidableEq

namespace EspWebsocketClient

/-- The loop of `esp_websocket_client_recv`: a read goes to the start of
the receive buffer and is dispatched as a data event. -/
def recvLoop : EspWebsocketClient → List Read →
    RecvEnd × EspWebsocketClient
  | c, [] => (.failed, c.error)
  | c, .failed :: _ => (.failed, c.error)
  | c, .read data payloadLen fin opcode :: reads =>
      let c := { c with
        rxBuffer := data ++ c.rxBuffer.drop data.length
        payloadLen := payloadLen
        lastFin := fin
        lastOpcode := opcode }
      if data.length = 0 ∧ opcode = none then (.timeout, c)
      else
        let c := c.dispatchEvent .data data
        let c := { c with payloadOffset := c.payloadOffset + data.length }
        if c.payloadOffset < c.payloadLen then c.recvLoop reads
        else (.frame, c)

/-- What follows a whole frame: a ping is answered with what is in the
receive buffer, a pong is noted, and a close frame starts the closing. -/
def afterFrame (c : EspWebsocketClient) : EspWebsocketClient :=
  if c.lastOpcode = some Opcode.ping.code then
    c.logs [.control (Opcode.pong.code ||| finBit)
      (c.rxBuffer.take c.payloadLen)]
  else if c.lastOpcode = some Opcode.pong.code then
    { c with waitForPongResp := false }
  else if c.lastOpcode = some Opcode.close.code then
    { c with state := .closing }
  else c

/-- `esp_websocket_client_recv`: whether it returns `ESP_OK`. -/
def recv (c : EspWebsocketClient) (reads : List Read) :
    Bool × EspWebsocketClient :=
  match { c with payloadOffset := 0 }.recvLoop reads with
  | (.failed, c) => (false, c)
  | (.timeout, c) => (true, c)
  | (.frame, c) => (true, c.afterFrame)

-- =========================================================== keep alive

/-- Send a ping if the connection was silent for the ping interval, and
wait for a pong from the first one on. -/
def sendPing (clock : Clock) (c : EspWebsocketClient) : EspWebsocketClient :=
  if c.now clock - c.pingTickMs > c.config.pingMs then
    let c := c.ticked
    let c : EspWebsocketClient := { c.ticked with pingTickMs := c.now clock }
    let c := c.logs [.control (Opcode.ping.code ||| finBit) []]
    if !c.waitForPongResp && decide (c.config.pingpongTimeoutSec ≠ 0) then
      { c.ticked with pingpongTickMs := c.now clock, waitForPongResp := true }
    else c
  else c.ticked

/-- Give the connection up if the pong is overdue; whether it did. -/
def checkPong (clock : Clock) (c : EspWebsocketClient) :
    Bool × EspWebsocketClient :=
  if c.now clock - c.pingpongTickMs > c.config.pongMs ∧ c.waitForPongResp then
    (true, c.ticked.error.abortConnection clock .pongTimeout)
  else (false, c.ticked)

/-- The connected case: pings and pongs, unless the client has started to
close, and then a frame if the last poll found one. -/
def switchConnected (clock : Clock) (readSelect : Int) (reads : List Read)
    (c : EspWebsocketClient) : EspWebsocketClient :=
  let (overdue, c) :=
    if !c.closeFrameSent then (c.sendPing clock).checkPong clock
    else (false, c)
  if overdue then c
  else if readSelect = 0 then c
  else
    let c := { c.ticked with pingTickMs := c.now clock }
    match c.recv reads with
    | (false, c) => c.abortConnection clock .tcpTransport
    | (true, c) => c

/-- The initial case: try to connect. -/
def switchInit (clock : Clock) (connect : Int) (c : EspWebsocketClient) :
    EspWebsocketClient :=
  let c := c.dispatchEvent .beforeConnect []
  if connect < 0 then c.error.abortConnection clock .tcpTransport
  else
    { c with
      state := .connected
      waitForPongResp := false
      errorType := .none }.dispatchEvent .connected []

/-- The waiting case: back to the start once the timeout has passed. -/
def switchWaitTimeout (clock : Clock) (c : EspWebsocketClient) :
    EspWebsocketClient :=
  if c.now clock - c.reconnectTickMs > c.config.waitMs then
    let c := c.ticked
    { c.ticked with state := .init, reconnectTickMs := c.now clock }
  else c.ticked

/-- The closing case: echo the close frame, once. -/
def switchClosing (c : EspWebsocketClient) : EspWebsocketClient :=
  if !c.closeFrameSent then
    { c.logs [.control (Opcode.close.code ||| finBit) []] with
      closeFrameSent := true }
  else c

/-- The `switch` of the loop. -/
def switchState (clock : Clock) (readSelect connect : Int)
    (reads : List Read) (c : EspWebsocketClient) : EspWebsocketClient :=
  match c.state with
  | .init => c.switchInit clock connect
  | .connected => c.switchConnected clock readSelect reads
  | .waitTimeout => c.switchWaitTimeout clock
  | .closing => c.switchClosing
  | .error => c
  | .unknow => c

end EspWebsocketClient

-- ============================================================= the task

/-- Where the task stands: not begun; at the loop condition; about to
take the lock; behind the switch; in `esp_transport_poll_read`; about to
give up after a failed poll; waiting for the server to close; behind the
loop; deleted. -/
inductive TaskPc where
  | created
  | loop
  | locking
  | switched
  | polling
  | pollFailed
  | closing
  | left
  | deleted
  deriving DecidableEq

/-- The client, the task with its `read_select`, and the message of a
caller that waits for the lock. -/
structure ClientTask where
  client : EspWebsocketClient
  pc : TaskPc
  readSelect : Int
  sender : Option Message

/-- A step of the task or of the caller. -/
inductive TaskStep where
  | begin
  | loop
  | switch (connect : Int) (reads : List Read)
  | select
  | polled (result : Int)
  | pollAborts
  | closed
  | finish
  | check (m : Message)
  | lockTimeout
  | send (answers : List Int)

/-- The steps that are the task's own. -/
def TaskStep.own : TaskStep → Bool
  | .check _ | .lockTimeout | .send _ => false
  | _ => true

namespace ClientTask

/-- A client that was started: `esp_websocket_client_start` has created
the task. -/
def start (clock : Clock) (config : ClientConfig) (rxBuffer : Bytes) :
    ClientTask :=
  ⟨.init clock config rxBuffer, .created, 0, none⟩

/-- What the task does behind the switch, without the lock. -/
def select (t : ClientTask) : ClientTask :=
  match t.client.state with
  | .connected => { t with pc := .polling }
  | .closing =>
      if t.client.closeFrameSent then { t with pc := .closing }
      else { t with pc := .loop }
  | _ => { t with pc := .loop }

/-- One step. -/
def step (clock : Clock) (t : ClientTask) : TaskStep → Option ClientTask
  | .begin =>
      if t.pc = .created then
        some { t with
          client := { t.client with
            run := true
            state := .init
            closeFrameSent := false }.dispatchEvent .begin []
          pc := .loop
          readSelect := 0 }
      else none
  | .loop =>
      if t.pc = .loop then
        some { t with pc := if t.client.run then .locking else .left }
      else none
  | .switch connect reads =>
      if t.pc = .locking then
        some { t with
          client := t.client.switchState clock t.readSelect connect reads
          pc := .switched }
      else none
  | .select => if t.pc = .switched then some t.select else none
  | .polled result =>
      if t.pc = .polling then
        some (if result < 0 then
          { t with
            client := t.client.error
            pc := .pollFailed
            readSelect := result }
        else { t with pc := .loop, readSelect := result })
      else none
  | .pollAborts =>
      if t.pc = .pollFailed then
        some { t with
          client := t.client.abortConnection clock .tcpTransport
          pc := .loop }
      else none
  | .closed =>
      if t.pc = .closing then
        some { t with
          client := { t.client with run := false, state := .unknow
            }.dispatchEvent .closed []
          pc := .left }
      else none
  | .finish =>
      if t.pc = .left then
        some { t with
          client := { t.client.dispatchEvent .finish [] with state := .unknow }
          pc := .deleted }
      else none
  | .check m =>
      if t.sender = none then
        some (if t.client.isConnected then { t with sender := some m }
        else { t with client := t.client.logs [.returned m (-1)] })
      else none
  | .lockTimeout =>
      t.sender.map fun m =>
        { t with
          client := t.client.logs [.returned m (-1)]
          sender := none }
  | .send answers =>
      t.sender.map fun m =>
        let (ret, c) := t.client.sendMessage clock m answers
        { t with client := c.logs [.returned m ret], sender := none }

/-- The task and its caller as a transition system. -/
def system (clock : Clock) (config : ClientConfig) :
    System ClientTask TaskStep where
  init t := ∃ rxBuffer, t = start clock config rxBuffer
  step := step clock

/-- Every step is admitted. -/
abbrev Reachable (clock : Clock) (config : ClientConfig) (t : ClientTask) :
    Prop :=
  (system clock config).ReachableBy (fun _ => True) t

end ClientTask

end WledDial
