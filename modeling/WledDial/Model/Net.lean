/-
The dial, a WLED server, and the link between them: a queue of commands
one way (the client's transmit queue), a queue of state reports the
other.

# The server

`WledServer` is any server: how it answers a command and what other
clients do to it are functions of its state, and after each change it
emits a full state report. Its state (`Server`) keeps the brightness in
0 to 255 by its type. The reports in flight are kept as the states they
describe; `WledServer.report` is the document that is delivered.

# The link

It is down at first. Coming up, the server emits a report of its state;
going down, it takes both queues with it, and sends are lost until it is
up again. What happens on the server while it is down emits nothing.

Every step is a step of the dial against its environment, or none of its
business (`Net.refines`), so what Dial.lean proves of every run holds
here.
-/
import WledDial.Model.Dial

namespace WledDial

open Transition

/-- A WLED server: what a command does to it, what the changes of other
clients do, and the report it emits. -/
structure WledServer (Change : Type) where
  command : Command → Server → Server
  change : Change → Server → Server
  report : Server → Json
  report_state : ∀ s, StateReport (report s) s.on s.bri

/-- A server that does exactly what a command says and no more, and takes
any state another client gives it. -/
def WledServer.exact : WledServer Server where
  command
    | .turnOn, s => { s with on := true }
    | .bri v, s => { s with bri := lvArcSetValue v.toInt }
  change s _ := s
  report s := fullReport s.on s.bri
  report_state s := stateReport_fullReport s.on s.bri

/-- The dial, the server, and the reports on their way. -/
structure Net where
  dial : Dial
  server : Server
  reports : List Server
  deriving DecidableEq

/-- What can happen in the network. -/
inductive NetEvent (Change : Type) where
  | ui (e : UiEvent)
  | serveCommand
  | serveChange (ch : Change)
  | deliver
  | drop
  | reconnect
  deriving DecidableEq

namespace Net

variable {Change : Type}

/-- The link is up. -/
abbrev up (n : Net) : Bool := n.dial.esp.client.connected

/-- The commands on their way to the server. -/
abbrev commands (n : Net) : List Command := n.dial.esp.client.tx

/-- A cache at the server's state, field by field. -/
theorem cached_fields {n : Net}
    (h : n.dial.esp.cached = n.server.values) :
    n.dial.esp.isWledOn = n.server.on
      ∧ n.dial.esp.brightness = n.server.bri.toInt16 :=
  Prod.ext_iff.mp h

/-- The server takes a new state and reports it, if there is a link. -/
def emit (s : Server) (n : Net) : Net :=
  { n with
    server := s
    reports := if n.up then n.reports ++ [s] else n.reports }

/-- One event. -/
def step (lib : ArduinoJson) (env : WledServer Change) (n : Net) :
    NetEvent Change → Option Net
  | .ui e => (n.dial.step lib (.ui e)).map fun d => { n with dial := d }
  | .serveCommand =>
      match n.commands with
      | [] => none
      | cmd :: _ =>
          (n.dial.step lib .transmit).map fun d =>
            { n with dial := d }.emit (env.command cmd n.server)
  | .serveChange ch => some (n.emit (env.change ch n.server))
  | .deliver =>
      match n.reports with
      | [] => none
      | r :: rest =>
          (n.dial.step lib (.report (env.report r))).map fun d =>
            { n with dial := d, reports := rest }
  | .drop =>
      (n.dial.step lib .linkDown).map fun d =>
        { n with dial := d, reports := [] }
  | .reconnect =>
      (n.dial.step lib .linkUp).map fun d =>
        { n with dial := d, reports := [n.server] }

/-- The network as a transition system: the dial as set up, any
server. -/
def system (lib : ArduinoJson) (env : WledServer Change) :
    System Net (NetEvent Change) where
  init n := n.dial = Dial.init ∧ n.reports = []
  step := step lib env

/-- The link is up and nothing is on its way. The first report of the
connection is delivered then: reconnecting queued it. -/
structure AtRest (n : Net) : Prop where
  up : n.up = true
  noCommands : n.commands = []
  noReports : n.reports = []

/-- The state the server will have once it took the commands in
flight. -/
def heading (env : WledServer Change) (n : Net) : Server :=
  n.commands.foldl (fun s cmd => env.command cmd s) n.server

/-- What brings a network whose link is up to rest: the server takes every
command in flight, and then every report is delivered. -/
def settle (n : Net) : List (NetEvent Change) :=
  List.replicate n.commands.length .serveCommand
    ++ List.replicate (n.reports.length + n.commands.length) .deliver

/-- The events of a network, as they are for the dial in it. -/
def dialEvents (env : WledServer Change) (n : Net) :
    NetEvent Change → List DialEvent
  | .ui e => [.ui e]
  | .serveCommand => [.transmit]
  | .serveChange _ => []
  | .deliver =>
      match n.reports with
      | [] => []
      | r :: _ => [.report (env.report r)]
  | .drop => [.linkDown]
  | .reconnect => [.linkUp]

-- ================================================ what each step does

section

variable {lib : ArduinoJson} {env : WledServer Change} {n n' : Net}

/-- A GUI event is the dial's, and reaches the server only by the commands
it queues on a link that is up. -/
theorem step_ui {e : UiEvent} (h : step lib env n (.ui e) = some n') :
    n.dial.step lib (.ui e) = some n'.dial ∧ n'.server = n.server
      ∧ n'.reports = n.reports ∧ n'.up = n.up
      ∧ n'.commands = if n.up then n.commands
          ++ e.issues n.dial.esp.isWledOn n.dial.esp.brightness n.dial.menu
        else n.commands := by
  obtain ⟨d, hd, rfl⟩ := Option.map_eq_some_iff.mp h
  obtain ⟨-, -, hesp⟩ := Dial.step_ui hd
  refine ⟨hd, rfl, rfl, ?_, ?_⟩
  · show d.esp.client.connected = _
    rw [hesp]
    simp only
    split <;> rfl
  · show d.esp.client.tx = _
    rw [hesp]
    simp only [up, commands]
    split <;> rfl

/-- Whatever the menu lets happen can happen. -/
theorem ui_enabled (lib : ArduinoJson) (env : WledServer Change) {n : Net}
    {e : UiEvent} (h : e.enabled n.dial.menu = true) :
    ∃ n', step lib env n (.ui e) = some n' := by
  obtain ⟨d, hd⟩ : ∃ d, n.dial.step lib (.ui e) = some d :=
    ⟨_, (Dial.step_ui_eq lib n.dial e).trans (if_pos h)⟩
  refine ⟨{ n with dial := d }, ?_⟩
  simp only [step, hd]
  rfl

/-- The server takes the oldest command and reports. -/
theorem serveCommand_of {cmd : Command} {rest : List Command}
    (h : n.commands = cmd :: rest) :
    step lib env n .serveCommand = some { n with
      dial := { n.dial with
        esp := { n.dial.esp with
          client := { n.dial.esp.client with tx := rest } } }
      server := env.command cmd n.server
      reports := if n.up then n.reports ++ [env.command cmd n.server]
        else n.reports } := by
  simp only [step, h, Dial.step]
  rfl

/-- `serveCommand_of`, read from the step taken. -/
theorem step_serveCommand (h : step lib env n .serveCommand = some n') :
    ∃ cmd rest, n.commands = cmd :: rest
      ∧ n' = { n with
          dial := { n.dial with
            esp := { n.dial.esp with
              client := { n.dial.esp.client with tx := rest } } }
          server := env.command cmd n.server
          reports := if n.up then n.reports ++ [env.command cmd n.server]
            else n.reports } := by
  cases hcmds : n.commands with
  | nil =>
      simp only [step, hcmds] at h
      cases h
  | cons cmd rest =>
      rw [serveCommand_of hcmds] at h
      cases h
      exact ⟨cmd, rest, rfl, rfl⟩

/-- The oldest report is handled, and cached as what it says. -/
theorem deliver_of {r : Server} {rest : List Server}
    (h : n.reports = r :: rest) :
    step lib env n .deliver = some { n with
      dial := { n.dial with esp := ⟨r.on, r.bri.toInt16, n.dial.esp.client⟩ }
      reports := rest } := by
  simp only [step, h, Dial.step_report (env.report_state r)]
  rfl

/-- `deliver_of`, read from the step taken. -/
theorem step_deliver (h : step lib env n .deliver = some n') :
    ∃ r rest, n.reports = r :: rest
      ∧ n' = { n with
          dial := { n.dial with
            esp := ⟨r.on, r.bri.toInt16, n.dial.esp.client⟩ }
          reports := rest } := by
  cases hreports : n.reports with
  | nil =>
      simp only [step, hreports] at h
      cases h
  | cons r rest =>
      rw [deliver_of hreports] at h
      cases h
      exact ⟨r, rest, rfl, rfl⟩

theorem step_drop (h : step lib env n .drop = some n') :
    n.up = true
      ∧ n' = { n with
          dial := { n.dial with
            esp := { n.dial.esp with client := ⟨false, []⟩ } }
          reports := [] } := by
  obtain ⟨d, hd, rfl⟩ := Option.map_eq_some_iff.mp h
  simp only [Dial.step] at hd
  split at hd
  · next hup =>
    cases hd
    exact ⟨hup, rfl⟩
  · cases hd

theorem step_reconnect (h : step lib env n .reconnect = some n') :
    n.up = false
      ∧ n' = { n with
          dial := { n.dial with
            esp := { n.dial.esp with client := ⟨true, []⟩ } }
          reports := [n.server] } := by
  obtain ⟨d, hd, rfl⟩ := Option.map_eq_some_iff.mp h
  simp only [Dial.step] at hd
  split at hd
  · cases hd
  · next hdown =>
    cases hd
    exact ⟨by simpa using hdown, rfl⟩

/-- A step of the network is the dial's run of the events it is for the
dial. -/
theorem dialEvents_run {e : NetEvent Change}
    (h : step lib env n e = some n') :
    (Dial.system lib).run n.dial (dialEvents env n e) = some n'.dial := by
  cases e with
  | ui e => exact System.run_singleton.mpr (step_ui h).1
  | serveCommand =>
      obtain ⟨cmd, rest, hcmds, rfl⟩ := step_serveCommand h
      have htx : n.dial.esp.client.tx = cmd :: rest := hcmds
      apply System.run_singleton.mpr
      show Dial.step lib n.dial .transmit = _
      simp only [Dial.step, htx]
  | serveChange ch =>
      cases h
      rfl
  | deliver =>
      obtain ⟨r, rest, hreports, rfl⟩ := step_deliver h
      have hevents : dialEvents env n .deliver = [.report (env.report r)] := by
        simp only [dialEvents, hreports]
      rw [hevents]
      exact System.run_singleton.mpr
        (Dial.step_report (env.report_state r) lib n.dial)
  | drop =>
      obtain ⟨hup, rfl⟩ := step_drop h
      apply System.run_singleton.mpr
      show Dial.step lib n.dial .linkDown = _
      simp only [Dial.step, if_pos hup]
  | reconnect =>
      obtain ⟨hdown, rfl⟩ := step_reconnect h
      have hdown' : n.dial.esp.client.connected = false := hdown
      apply System.run_singleton.mpr
      show Dial.step lib n.dial .linkUp = _
      simp only [Dial.step, hdown', Bool.false_eq_true, if_false]

end

/-- The network refines the dial: the environment of the dial is the
server, the link and the reports. -/
def refines (lib : ArduinoJson) (env : WledServer Change) :
    Refines (system lib env) (Dial.system lib) where
  abs := dial
  ev := dialEvents env
  init _ h := h.1
  step _ _ _ h := dialEvents_run h

/-- The reports of a network are full reports. -/
theorem dialEvents_fullReports (env : WledServer Change) (n : Net)
    (e : NetEvent Change) : ∀ f ∈ dialEvents env n e, FullReports f := by
  intro f hf
  cases e with
  | deliver =>
      simp only [dialEvents] at hf
      split at hf
      · cases hf
      · next r rest hreports =>
        rw [List.mem_singleton] at hf
        rw [hf]
        exact ⟨r.on, r.bri, env.report_state r⟩
  | serveChange ch => cases hf
  | ui | serveCommand | drop | reconnect =>
      rw [List.mem_singleton.mp hf]
      trivial

end Net

end WledDial
