/-
The dial with the component itself in place of the link: the menu over
the board's controller, the controller over the client of
ClientTask.lean, and its handler behind the events the client posts.

# One step

A step of the task runs whole, and the handler runs on each event as it
is posted, so a step ends with the cache that its events leave (`hears`).
A callback of the menu runs whole too, as it does in Dial.lean: no step
of the task is under way then, and the lock is free, so that a send goes
out at once or is refused. What comes between the check of a send and its
lock is in ClientTask.lean.

# The commands

`queued` and `served` are no fields of the source: the commands whose
send has succeeded on the connection, until the server takes them and
from then on.
-/
import WledDial.Model.Dial
import WledDial.Model.ClientTask

namespace WledDial

open Transition

/-- The menu, the cache of the controller, the client and its task. -/
structure OnlineDial where
  menu : MainMenu
  isWledOn : Bool
  brightness : Int16
  client : EspWebsocketClient
  pc : TaskPc
  readSelect : Int
  served : List Command
  queued : List Command

/-- What can happen: an event on the GUI task, with what the transport
answers to the frames of its send; a step of the client's task; the
server takes a command. -/
inductive OnlineEvent where
  | ui (e : UiEvent) (answers : List Int)
  | task (s : TaskStep)
  | serve

/-- The handler of the controller runs on what was posted. -/
def EspWledController.hears (lib : ArduinoJson) (entries : List Entry)
    (esp : EspWledController) : EspWledController :=
  entries.foldl (fun esp e =>
    match e.output with
    | .event id data _ => esp.websocketEventHandler lib id data
    | _ => esp) esp

namespace OnlineDial

/-- The task; nobody waits for its lock. -/
def task (d : OnlineDial) : ClientTask := ⟨d.client, d.pc, d.readSelect, none⟩

/-- The link as Dial.lean has it: up while the client is connected, with
the commands the server has yet to take. -/
def link (d : OnlineDial) : WebsocketClient :=
  if d.client.isConnected then ⟨true, d.queued⟩ else ⟨false, []⟩

/-- The controller as Wled.lean has it. -/
def esp (d : OnlineDial) : EspWledController :=
  ⟨d.isWledOn, d.brightness, d.link⟩

/-- The device as Dial.lean has it. -/
def dial (d : OnlineDial) : Dial := ⟨d.menu, d.esp⟩

/-- The client has gone on to `client`: its events were handled, and a new
connection starts with nothing sent. -/
def hears (lib : ArduinoJson) (d : OnlineDial) (client : EspWebsocketClient) :
    OnlineDial :=
  let entries := client.log.drop d.client.log.length
  let esp := d.esp.hears lib entries
  let isNew := entries.any Entry.connects
  { d with
    isWledOn := esp.isWledOn
    brightness := esp.brightness
    client := client
    served := if isNew then [] else d.served
    queued := if isNew then [] else d.queued }

/-- Send a command; the controller drops the result. -/
def sendText (clock : Clock) (lib : ArduinoJson) (answers : List Int)
    (cmd : Command) (d : OnlineDial) : OnlineDial :=
  let (ret, client) := d.client.sendText clock cmd.payload answers
  let d := d.hears lib (client.logs [.returned ⟨.text, cmd.payload⟩ ret])
  if 0 < ret then { d with queued := d.queued ++ [cmd] } else d

/-- The controller over the client. -/
def controller (clock : Clock) (lib : ArduinoJson) (answers : List Int) :
    WledController OnlineDial where
  turnWledOn := sendText clock lib answers .turnOn
  setWledBrightness brightness := sendText clock lib answers (.bri brightness)
  isWledOn := isWledOn
  getWledBrightness := brightness

/-- As set up: the menu as first shown, nothing cached, the client
started. -/
def start (clock : Clock) (rxBuffer : Bytes) : OnlineDial where
  menu := .mainMenu
  isWledOn := false
  brightness := 0
  client := .init clock .dial rxBuffer
  pc := .created
  readSelect := 0
  served := []
  queued := []

/-- One event. -/
def step (clock : Clock) (lib : ArduinoJson) (d : OnlineDial) :
    OnlineEvent → Option OnlineDial
  | .ui e answers =>
      (uiStep (controller clock lib answers) e d.menu d).map fun r =>
        { r.state with menu := r.value }
  | .task s =>
      if s.own then
        (d.task.step clock s).map fun t =>
          { d.hears lib t.client with pc := t.pc, readSelect := t.readSelect }
      else none
  | .serve =>
      match d.queued with
      | [] => none
      | cmd :: rest =>
          some { d with served := d.served ++ [cmd], queued := rest }

/-- The whole device as a transition system. -/
def system (clock : Clock) (lib : ArduinoJson) :
    System OnlineDial OnlineEvent where
  init d := ∃ rxBuffer, d = start clock rxBuffer
  step := step clock lib

/-- Every event is admitted. -/
abbrev Reachable (clock : Clock) (lib : ArduinoJson) (d : OnlineDial) :
    Prop :=
  (system clock lib).ReachableBy (fun _ => True) d

end OnlineDial

end WledDial
