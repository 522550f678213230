/-
The two builds of the program, driven by the same gestures and timer
runs.

# The simulator

`initial_setup` hands the menu a `MockWledController`, and nothing else
takes part (`Simulator`).

# The board

It hands the menu an `EspWledController`, whose far end is an ideal
server (`Ideal`): off at brightness 200, each command sets its own field
and nothing else. Between two events the network is brought to rest
(`Board.step`): the server takes the command issued, if there was one,
and its full report is handled. Before the first event the link came up
and the first report was handled (`Board.run_connect`).
-/
import WledDial.Model.Net

namespace WledDial

open Transition

-- ======================================================== the simulator

/-- The simulator's build: the menu, its controller, and the commands
issued so far. -/
structure Simulator where
  menu : MainMenu
  mock : MockWledController
  issued : List Command
  deriving DecidableEq

namespace Simulator

def init : Simulator := ⟨.mainMenu, .init, []⟩

/-- One event. -/
def step (s : Simulator) (e : UiEvent) : Option Simulator :=
  (uiStep MockWledController.controller e s.menu s.mock).map fun r =>
    ⟨r.value, r.state, s.issued ++ r.issued⟩

def system : System Simulator UiEvent where
  init s := s = init
  step := step

/-- What is shown, and what was issued to have it shown. -/
def view (s : Simulator) : Screen × List Command := (s.menu.screen, s.issued)

end Simulator

-- ============================================================ the board

/-- The server sets the field a command names, and nothing else. -/
structure Ideal {Change : Type} (env : WledServer Change) : Prop where
  turnOn : ∀ s, env.command .turnOn s = { s with on := true }
  bri : ∀ (v : Level) s, env.command (.bri v.toInt16) s = { s with bri := v }

theorem ideal_exact : Ideal WledServer.exact where
  turnOn _ := rfl
  bri v s := by
    show { s with bri := lvArcSetValue v.toInt16.toInt } = { s with bri := v }
    rw [lvArcSetValue_toInt16]

/-- The board's build, with the server it talks to, and the commands
issued so far. -/
structure Board where
  net : Net
  issued : List Command
  deriving DecidableEq

namespace Board

variable {Change : Type}

/-- The server off at 200, the link up, its first report handled. -/
def init : Board :=
  ⟨⟨⟨.mainMenu, ⟨false, 200, ⟨true, []⟩⟩⟩, ⟨false, 200⟩, []⟩, []⟩

/-- One event, and the network at rest again. -/
def step (lib : ArduinoJson) (env : WledServer Change) (b : Board)
    (e : UiEvent) : Option Board :=
  (b.net.step lib env (.ui e)).bind fun n =>
    ((Net.system lib env).run n n.settle).map fun n' =>
      ⟨n', b.issued ++ n.commands⟩

def system (lib : ArduinoJson) (env : WledServer Change) :
    System Board UiEvent where
  init b := b = init
  step := step lib env

/-- What is shown, and what was issued to have it shown. -/
def view (b : Board) : Screen × List Command :=
  (b.net.dial.menu.screen, b.issued)

/-- The board as it starts is a dial that was set up, connected, and told
the state of a server that is off at 200. -/
theorem run_connect (lib : ArduinoJson) (env : WledServer Change) :
    (Net.system lib env).run ⟨Dial.init, ⟨false, 200⟩, []⟩
      [.reconnect, .deliver] = some init.net := by
  have hconnect : Net.step lib env ⟨Dial.init, ⟨false, 200⟩, []⟩ .reconnect
      = some ⟨⟨.mainMenu, ⟨false, 0, ⟨true, []⟩⟩⟩, ⟨false, 200⟩,
          [⟨false, 200⟩]⟩ := rfl
  have hfirst : Net.step lib env ⟨⟨.mainMenu, ⟨false, 0, ⟨true, []⟩⟩⟩,
      ⟨false, 200⟩, [⟨false, 200⟩]⟩ .deliver = some init.net :=
    @Net.deliver_of Change lib env _ ⟨false, 200⟩ [] rfl
  exact System.run_cons.mpr ⟨_, hconnect, System.run_singleton.mpr hfirst⟩

end Board

/-- A run of the timer does the same over a getter that returns 200 as
over one that returns the server's brightness. -/
def SameTick (b : Board) : Prop :=
  b.net.server.bri = 200
    ∨ (b.net.dial.menu.arcFocused = true ∧ b.net.dial.menu.arcValue ≠ 200
      ∧ b.net.dial.menu.arcValue ≠ b.net.server.bri)

instance (b : Board) : Decidable (SameTick b) :=
  inferInstanceAs (Decidable (_ ∨ (_ ∧ _ ∧ _)))

end WledDial
