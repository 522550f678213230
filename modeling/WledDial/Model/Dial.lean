/-
The dial as a device: the menu over the board's controller, against an
environment that may do anything to it.

# The events

Besides what happens on the GUI task, a document arrives and is handled
whole (`report`), the link comes up or drops, and the link takes the
oldest command queued (`transmit`). What a document says is not
constrained here; `StateReport` is the full state report of a WLED
server, and the results about such reports ask for it.

A run of `update_with_lvgl_state` is one step. Race.lean takes it apart.
-/
import WledDial.Model.MainMenu
import WledDial.Lib.System

namespace WledDial

open Transition

/-- The menu and the controller it drives. -/
structure Dial where
  menu : MainMenu
  esp : EspWledController
  deriving DecidableEq

/-- What can happen to the dial. -/
inductive DialEvent where
  | ui (e : UiEvent)
  | report (doc : Json)
  | linkUp
  | linkDown
  | transmit

namespace Dial

/-- After `initial_setup`: the menu as first shown, nothing cached, no
link. -/
def init : Dial := ⟨.mainMenu, .init⟩

/-- One event. -/
def step (lib : ArduinoJson) (d : Dial) : DialEvent → Option Dial
  | .ui e =>
      (uiStep EspWledController.controller e d.menu d.esp).map fun r =>
        ⟨r.value, r.state⟩
  | .report doc => some { d with esp := d.esp.onWledJsonData lib doc }
  | .linkUp =>
      if d.esp.client.connected then none
      else some { d with esp := { d.esp with client := ⟨true, []⟩ } }
  | .linkDown =>
      if d.esp.client.connected then
        some { d with esp := { d.esp with client := ⟨false, []⟩ } }
      else none
  | .transmit =>
      match d.esp.client.tx with
      | [] => none
      | _ :: rest =>
          some { d with
            esp := { d.esp with client := { d.esp.client with tx := rest } } }

/-- The dial as a transition system. -/
def system (lib : ArduinoJson) : System Dial DialEvent where
  init d := d = init
  step := step lib

/-- The commands a run of `update_with_lvgl_state` would issue now. -/
def tickIssues (d : Dial) : List Command :=
  (d.menu.updateWithLvglState.run EspWledController.controller d.esp).issued

/-- The menu a run of `update_with_lvgl_state` would leave now. -/
def tickMenu (d : Dial) : MainMenu :=
  (d.menu.updateWithLvglState.run EspWledController.controller d.esp).value

-- ======================================================== what a step does

theorem tickMenu_eq (d : Dial) :
    d.tickMenu = d.menu.shown d.esp.isWledOn d.esp.brightness := by
  unfold tickMenu
  rw [MainMenu.run_updateWithLvglState]
  rfl

theorem tickIssues_eq (d : Dial) :
    d.tickIssues = d.tickMenu.sends d.esp.brightness := by
  unfold tickIssues
  rw [tickMenu_eq, MainMenu.run_updateWithLvglState]
  rfl

/-- A GUI event moves the menu and queues its commands on a link that is
up; the cache stays as it is. -/
theorem step_ui_eq (lib : ArduinoJson) (d : Dial) (e : UiEvent) :
    step lib d (.ui e) =
      if e.enabled d.menu then
        some ⟨e.menuAfter d.esp.isWledOn d.esp.brightness d.menu,
          { d.esp with
            client := if d.esp.client.connected then
                { d.esp.client with
                  tx := d.esp.client.tx
                    ++ e.issues d.esp.isWledOn d.esp.brightness d.menu }
              else d.esp.client }⟩
      else none := by
  simp only [step]
  rw [uiStep_eq]
  simp only
  split
  · rw [EspWledController.foldl_command, WebsocketClient.foldl_sendText]
    rfl
  · rfl

/-- `step_ui_eq`, read from the step taken. -/
theorem step_ui {lib : ArduinoJson} {d d' : Dial} {e : UiEvent}
    (h : step lib d (.ui e) = some d') :
    e.enabled d.menu = true
      ∧ d'.menu = e.menuAfter d.esp.isWledOn d.esp.brightness d.menu
      ∧ d'.esp = { d.esp with
          client := if d.esp.client.connected then
              { d.esp.client with
                tx := d.esp.client.tx
                  ++ e.issues d.esp.isWledOn d.esp.brightness d.menu }
            else d.esp.client } := by
  rw [step_ui_eq] at h
  split at h
  · next hen =>
    cases h
    exact ⟨hen, rfl, rfl⟩
  · cases h

/-- What happens on the link changes the client and nothing else. -/
theorem step_link {lib : ArduinoJson} {d d' : Dial} {e : DialEvent}
    (hui : ∀ u, e ≠ .ui u) (hdoc : ∀ doc, e ≠ .report doc)
    (h : step lib d e = some d') :
    d'.menu = d.menu ∧ d'.esp.cached = d.esp.cached := by
  cases e with
  | ui u => exact absurd rfl (hui u)
  | report doc => exact absurd rfl (hdoc doc)
  | linkUp =>
      simp only [step] at h
      split at h <;> cases h
      exact ⟨rfl, rfl⟩
  | linkDown =>
      simp only [step] at h
      split at h <;> cases h
      exact ⟨rfl, rfl⟩
  | transmit =>
      simp only [step] at h
      split at h <;> cases h
      exact ⟨rfl, rfl⟩

/-- Whatever is not a report leaves the cache as it is. -/
theorem step_cached {lib : ArduinoJson} {d d' : Dial} {e : DialEvent}
    (hdoc : ∀ doc, e ≠ .report doc) (h : step lib d e = some d') :
    d'.esp.cached = d.esp.cached := by
  by_cases hui : ∃ u, e = .ui u
  · obtain ⟨u, rfl⟩ := hui
    obtain ⟨-, -, hesp⟩ := step_ui h
    rw [hesp]
    rfl
  · exact (step_link (fun u hu => hui ⟨u, hu⟩) hdoc h).2

end Dial

-- ============================================================== reports

/-- The state a WLED server reports. -/
structure Server where
  on : Bool
  bri : Level
  deriving DecidableEq

/-- The state as the dial caches it. -/
def Server.values (s : Server) : Bool × Int16 := (s.on, s.bri.toInt16)

/-- A full state report: the state object holds both fields, the flag a
Boolean and the brightness an integer in 0 to 255. -/
def StateReport (doc : Json) (on : Bool) (bri : Level) : Prop :=
  ∃ state, doc.find? (ascii "state") = some state ∧ state.isObject = true
    ∧ state.find? (ascii "on") = some (.bool on)
    ∧ state.find? (ascii "bri") = some (.int (bri : Nat))

/-- A full report is read for what it says. -/
theorem StateReport.reading {doc : Json} {on : Bool} {bri : Level}
    (h : StateReport doc on bri) (lib : ArduinoJson) :
    EspWledController.reading lib doc = some (on, bri.toInt16) := by
  have hlt : (bri : Nat) < 256 := bri.isLt
  obtain ⟨state, hstate, hobj, hon, hbri⟩ := h
  unfold EspWledController.reading
  rw [Json.get_of_find? hstate, if_pos hobj, Json.get_of_find? hon,
    Json.get_of_find? hbri, lib.asBool_bool,
    lib.asSignedInt_int _ ⟨by omega, by omega⟩, Int32.toInt16_ofInt]
  rfl

/-- A document with nothing but a state object. -/
def stateDocument (members : List (Bytes × Json)) : Json :=
  .obj [(ascii "state", .obj members)]

@[simp] theorem stateDocument_find? (members : List (Bytes × Json)) :
    (stateDocument members).find? (ascii "state") = some (.obj members) :=
  Json.find?_cons_self ..

/-- The shortest full state report. -/
def fullReport (on : Bool) (bri : Level) : Json :=
  stateDocument [(ascii "on", .bool on), (ascii "bri", .int (bri : Nat))]

theorem stateReport_fullReport (on : Bool) (bri : Level) :
    StateReport (fullReport on bri) on bri := by
  refine ⟨_, stateDocument_find? _, rfl, Json.find?_cons_self .., ?_⟩
  rw [Json.find?_cons_ne (by decide)]
  exact Json.find?_cons_self ..

/-- A step that handles a full report caches what it says. -/
theorem Dial.step_report {doc : Json} {on : Bool} {bri : Level}
    (h : StateReport doc on bri) (lib : ArduinoJson) (d : Dial) :
    Dial.step lib d (.report doc)
      = some { d with esp := ⟨on, bri.toInt16, d.esp.client⟩ } := by
  show some { d with esp := d.esp.onWledJsonData lib doc } = _
  rw [EspWledController.onWledJsonData_of_reading lib (h.reading lib)]

/-- The events of an environment that sends nothing but full state
reports. -/
def FullReports : DialEvent → Prop
  | .report doc => ∃ on bri, StateReport doc on bri
  | _ => True

/-- The events of an environment whose documents, where they are read for
a brightness at all, are read for one in 0 to 255. -/
def InRangeReports (lib : ArduinoJson) : DialEvent → Prop
  | .report doc =>
      ∀ r, EspWledController.reading lib doc = some r → InRange r.2
  | _ => True

/-- Full reports are among them. -/
theorem inRangeReports_of_full (lib : ArduinoJson) {e : DialEvent}
    (h : FullReports e) : InRangeReports lib e := by
  cases e with
  | report doc =>
      obtain ⟨on, bri, hdoc⟩ := h
      intro r hr
      rw [hdoc.reading lib] at hr
      cases hr
      exact bri.inRange
  | ui | linkUp | linkDown | transmit => trivial

@[simp] theorem fullReports_ui (u : UiEvent) : FullReports (.ui u) := trivial

@[simp] theorem fullReports_linkUp : FullReports .linkUp := trivial

@[simp] theorem fullReports_fullReport (on : Bool) (bri : Level) :
    FullReports (.report (fullReport on bri)) :=
  ⟨on, bri, stateReport_fullReport on bri⟩

end WledDial
