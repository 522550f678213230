/-
An owner that ends the client while its task and another caller run.

`esp_websocket_client_stop` takes `run` away and waits for the task to set
`STOPPED_BIT`. `esp_websocket_client_close` and
`esp_websocket_client_close_with_code` send a close frame, note that they
did, and wait as long as they were told to; past that they go on as stop
does. The note is made without the lock. A pass of the task through its
switch is one step (ClientTask.lean), so the note falls before it or
behind it. `OwnerPc` is where such a call stands between two accesses another
task could see. A call returns whether it answered `ESP_OK`, which
`returned` keeps in order; it is no field of the source.

There is one owner, it is not the client's own task, and it does not start
the client again.
-/
import WledDial.Model.ClientTask

namespace WledDial

open Transition

namespace EspWebsocketClient

/-- The body of a close frame: the code in network order, and a reason. -/
def closeBody (code : UInt16) (data : Bytes) : Bytes :=
  (code >>> 8).toUInt8 :: code.toUInt8 :: data

/-- `esp_websocket_client_send_close`, once it holds the lock. -/
def sendClose (clock : Clock) (c : EspWebsocketClient) (body : Bytes)
    (answers : List Int) : EspWebsocketClient :=
  (c.sendLocked clock (Opcode.close.code ||| finBit) body answers).2

end EspWebsocketClient

/-- Where the owner stands: in no call; about to check, for a close frame,
that the client is connected; about to take the lock for it; about to note
that it was sent; waiting for the task as long as it was told to; about to
take `run` away; waiting for the task however long it takes. -/
inductive OwnerPc where
  | idle
  | checking (body : Bytes)
  | sending (body : Bytes)
  | noting
  | closing
  | halting
  | stopping

/-- The task, its `STOPPED_BIT`, and the owner. -/
structure OwnedClient where
  task : ClientTask
  stoppedBit : Bool
  owner : OwnerPc
  returned : List Bool

/-- A step of the task or of the other caller, or one of the owner: a call
of stop, or of close with the body of its frame; the check; the close
frame; `CLOSE_FRAME_SENT_BIT` is set; the end of the time to wait; `run` is
taken away; the end of a call. -/
inductive OwnerStep where
  | task (s : TaskStep)
  | stop
  | close (body : Bytes)
  | checks
  | sendClose (answers : List Int)
  | notes
  | timeout
  | halts
  | returns

/-- `esp_websocket_client_close`. -/
def OwnerStep.closeClient : OwnerStep := .close []

/-- `esp_websocket_client_close_with_code`. -/
def OwnerStep.closeWithCode (code : UInt16) (data : Bytes) : OwnerStep :=
  .close (EspWebsocketClient.closeBody code data)

/-- The steps that are the task's own. -/
def OwnerStep.own : OwnerStep → Bool
  | .task s => s.own
  | _ => false

/-- What a step of the task makes of `STOPPED_BIT`: cleared when the task
begins, set when it ends. -/
def TaskStep.stoppedBit (bit : Bool) : TaskStep → Bool
  | .begin => false
  | .finish => true
  | _ => bit

namespace OwnedClient

/-- A client that was started. -/
def start (clock : Clock) (config : ClientConfig) (rxBuffer : Bytes) :
    OwnedClient :=
  ⟨.start clock config rxBuffer, false, .idle, []⟩

/-- The owner has changed the client, and goes on at `owner`. -/
def go (o : OwnedClient) (client : EspWebsocketClient) (owner : OwnerPc) :
    OwnedClient :=
  { o with task := { o.task with client := client }, owner := owner }

/-- A call that the client lets go on, if it runs. -/
def called (o : OwnedClient) (owner : OwnerPc) : OwnedClient :=
  if o.task.client.run then { o with owner := owner }
  else { o with returned := o.returned ++ [false] }

/-- One step. -/
def step (clock : Clock) (o : OwnedClient) : OwnerStep → Option OwnedClient
  | .task s =>
      (o.task.step clock s).map fun t =>
        { o with
          task := t
          stoppedBit := s.stoppedBit o.stoppedBit }
  | .stop =>
      match o.owner with
      | .idle => some (o.called .halting)
      | _ => none
  | .close body =>
      match o.owner with
      | .idle => some (o.called (.checking body))
      | _ => none
  | .checks =>
      match o.owner with
      | .checking body =>
          some { o with
            owner := if o.task.client.isConnected then .sending body
              else .noting }
      | _ => none
  | .sendClose answers =>
      match o.owner with
      | .sending body =>
          some (o.go (o.task.client.sendClose clock body answers) .noting)
      | _ => none
  | .notes =>
      match o.owner with
      | .noting =>
          some (o.go { o.task.client with closeFrameSent := true } .closing)
      | _ => none
  | .timeout =>
      match o.owner with
      | .closing =>
          if o.stoppedBit then none else some { o with owner := .halting }
      | _ => none
  | .halts =>
      match o.owner with
      | .halting => some (o.go { o.task.client with run := false } .stopping)
      | _ => none
  | .returns =>
      if o.stoppedBit then
        match o.owner with
        | .closing =>
            some { o with owner := .idle, returned := o.returned ++ [true] }
        | .stopping =>
            some { o.go { o.task.client with state := .unknow } .idle with
              returned := o.returned ++ [true] }
        | _ => none
      else none

/-- The task, its caller and its owner as a transition system. -/
def system (clock : Clock) (config : ClientConfig) :
    System OwnedClient OwnerStep where
  init o := ∃ rxBuffer, o = start clock config rxBuffer
  step := step clock

/-- Every step is admitted. -/
abbrev Reachable (clock : Clock) (config : ClientConfig) (o : OwnedClient) :
    Prop :=
  (system clock config).ReachableBy (fun _ => True) o

end OwnedClient

end WledDial
