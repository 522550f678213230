/-
The WLED controllers: the interface the menu drives (`WledController`),
the board's implementation over the websocket (`EspWledController`) and
the simulator's (`MockWledController`).

# Calls

A routine that drives a controller is a `Calls` program: the virtual
calls it makes, in program order, each continuing with what the call
returned. The same program is run atomically against a controller
(`Calls.run`), which is how one run of a GUI callback is meant, and
access by access against a memory another task writes (Race.lean). The
mutating calls are recorded as they are made, whatever becomes of them
on the link.

# The cache

`EspWledController` keeps the last state the server reported. It is the
only thing reports write and the only thing the menu reads; a send
changes the link and never the cache.
-/
import WledDial.Model.WebsocketClient

namespace WledDial

-- ======================================================== the interface

/-- The virtual methods of a controller with state `σ`. -/
structure WledController (σ : Type) where
  turnWledOn : σ → σ
  setWledBrightness : Int16 → σ → σ
  isWledOn : σ → Bool
  getWledBrightness : σ → Int16

/-- The call that issues a command. -/
def WledController.command {σ : Type} (c : WledController σ) :
    Command → σ → σ
  | .turnOn => c.turnWledOn
  | .bri v => c.setWledBrightness v

/-- A routine that drives a controller. -/
inductive Calls (α : Type) where
  | ret (a : α)
  | turnWledOn (k : Calls α)
  | setWledBrightness (brightness : Int16) (k : Calls α)
  | isWledOn (k : Bool → Calls α)
  | getWledBrightness (k : Int16 → Calls α)

/-- What a routine leaves behind: its result, the controller, and the
commands it issued. -/
structure Outcome (σ α : Type) where
  value : α
  state : σ
  issued : List Command

namespace Calls

variable {σ α β : Type}

def bind : Calls α → (α → Calls β) → Calls β
  | .ret a, f => f a
  | .turnWledOn k, f => .turnWledOn (k.bind f)
  | .setWledBrightness v k, f => .setWledBrightness v (k.bind f)
  | .isWledOn k, f => .isWledOn fun b => (k b).bind f
  | .getWledBrightness k, f => .getWledBrightness fun v => (k v).bind f

instance : Monad Calls where
  pure := .ret
  bind := bind

/-- Run the routine against a controller nobody else touches. -/
def run (c : WledController σ) : Calls α → σ → Outcome σ α
  | .ret a, s => ⟨a, s, []⟩
  | .turnWledOn k, s =>
      let r := k.run c (c.turnWledOn s)
      { r with issued := .turnOn :: r.issued }
  | .setWledBrightness v k, s =>
      let r := k.run c (c.setWledBrightness v s)
      { r with issued := .bri v :: r.issued }
  | .isWledOn k, s => (k (c.isWledOn s)).run c s
  | .getWledBrightness k, s => (k (c.getWledBrightness s)).run c s

/-- A routine followed by another runs as one after the other. -/
theorem run_bind (c : WledController σ) (p : Calls α) (f : α → Calls β)
    (s : σ) :
    (p >>= f).run c s =
      let r := p.run c s
      let q := (f r.value).run c r.state
      { q with issued := r.issued ++ q.issued } := by
  show (p.bind f).run c s = _
  induction p generalizing s with
  | ret a => rfl
  | turnWledOn k ih => simp only [bind, run, ih]; rfl
  | setWledBrightness v k ih => simp only [bind, run, ih]; rfl
  | isWledOn k ih => exact ih (c.isWledOn s) s
  | getWledBrightness k ih => exact ih (c.getWledBrightness s) s

end Calls

-- ======================================================= EspWledController

/-- The board's controller: the state last reported, and the client. -/
structure EspWledController where
  isWledOn : Bool
  brightness : Int16
  client : WebsocketClient
  deriving DecidableEq

namespace EspWledController

variable (lib : ArduinoJson)

/-- `static EspWledController controller`: static storage is zeroed, and
the constructor sets only the client, which is not connected yet. -/
def init : EspWledController := ⟨false, 0, ⟨false, []⟩⟩

/-- `on_wled_json_data`. -/
def onWledJsonData (doc : Json) (c : EspWledController) :
    EspWledController :=
  if (doc.get (ascii "state")).isObject then
    { c with
      isWledOn := lib.asBool ((doc.get (ascii "state")).get (ascii "on"))
      brightness := (lib.asSignedInt
        ((doc.get (ascii "state")).get (ascii "bri"))).toInt16 }
  else c

/-- What a document says of the state: the two values it would be cached
as, if it has a state object at all. -/
def reading (doc : Json) : Option (Bool × Int16) :=
  if (doc.get (ascii "state")).isObject then
    some (lib.asBool ((doc.get (ascii "state")).get (ascii "on")),
      (lib.asSignedInt
        ((doc.get (ascii "state")).get (ascii "bri"))).toInt16)
  else none

/-- The two cached values. -/
def cached (c : EspWledController) : Bool × Int16 :=
  (c.isWledOn, c.brightness)

/-- A report overwrites both cached values, or neither. -/
theorem cached_onWledJsonData (doc : Json) (c : EspWledController) :
    (c.onWledJsonData lib doc).cached = (reading lib doc).getD c.cached := by
  unfold onWledJsonData reading
  split <;> rfl

/-- A report does not touch the client. -/
@[simp] theorem client_onWledJsonData (doc : Json)
    (c : EspWledController) :
    (c.onWledJsonData lib doc).client = c.client := by
  unfold onWledJsonData
  split <;> rfl

/-- A document that says something of the state is cached as it
reads. -/
theorem onWledJsonData_of_reading {doc : Json} {r : Bool × Int16}
    (h : reading lib doc = some r) (c : EspWledController) :
    c.onWledJsonData lib doc = ⟨r.1, r.2, c.client⟩ := by
  unfold reading at h
  split at h
  · next hobj =>
    cases h
    rw [onWledJsonData, if_pos hobj]
  · cases h

/-- `websocket_event_handler`. The result of `deserializeJson` is not
looked at, nor is anything of the event but its opcode and data. -/
def websocketEventHandler (eventId : EventId) (data : EventData)
    (c : EspWledController) : EspWledController :=
  match eventId with
  | .begin => c
  | .connected => c
  | .data =>
      -- opcode 1 is a text frame and contains updates from wled
      if data.opCode = 0x1 then
        let doc := (lib.deserializeJson data.data).2
        c.onWledJsonData lib doc
      else c
  | _ => c

/-- `turn_wled_on`: the result of the send is dropped. -/
def turnWledOn (c : EspWledController) : EspWledController :=
  { c with client := (c.client.sendText .turnOn).2 }

/-- `set_wled_brightness`: the result of the send is dropped. -/
def setWledBrightness (brightness : Int16) (c : EspWledController) :
    EspWledController :=
  { c with client := (c.client.sendText (.bri brightness)).2 }

/-- The controller, as the menu sees it. -/
def controller : WledController EspWledController where
  turnWledOn := turnWledOn
  setWledBrightness := setWledBrightness
  isWledOn := isWledOn
  getWledBrightness := brightness

/-- Issuing commands is sending them on the client, and leaves the cache
alone. -/
theorem foldl_command (cmds : List Command) (c : EspWledController) :
    cmds.foldl (fun c cmd => controller.command cmd c) c
      = { c with
          client := cmds.foldl (fun cl cmd => (cl.sendText cmd).2)
            c.client } := by
  induction cmds generalizing c with
  | nil => rfl
  | cons cmd cmds ih =>
      rw [List.foldl_cons, ih]
      cases cmd <;> rfl

end EspWledController

-- ====================================================== MockWledController

/-- The simulator's controller. -/
structure MockWledController where
  isOn : Bool
  brightness : Int16
  deriving DecidableEq

namespace MockWledController

def init : MockWledController := ⟨false, 200⟩

/-- The mock stores the brightness it is given; what it returns is a
constant. -/
def controller : WledController MockWledController where
  turnWledOn c := { c with isOn := true }
  setWledBrightness brightness c := { c with brightness := brightness }
  isWledOn := isOn
  getWledBrightness _ := 200

end MockWledController

end WledDial
