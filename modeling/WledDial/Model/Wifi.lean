/-
The Wi-Fi station: `initialize_wifi_stack`, the event handler it
registers, and the driver the two call.

# The driver

ESP-IDF is not part of the source. What it answers to each call of
`initialize_wifi_stack` is `EspIdf`; what it does afterwards is
`Station`: whether the station is connected, the attempts accepted and
not yet over, and the events posted and not yet handled. A call of
`esp_wifi_connect` is accepted, and starts an attempt, or returns an
error, and starts nothing. An attempt ends with the station connected or
with a disconnected event, and a connected station that loses its link
posts one too (`Station.step`).

# The code

Every call of `initialize_wifi_stack` is under `ESP_ERROR_CHECK` or an
`assert`, either of which aborts, but two: `esp_wifi_get_config`, without
which the zeroed configuration stands, and `esp_wifi_connect`. The
handler drops the result of its own `esp_wifi_connect` as well.
-/
import WledDial.Lib.System

namespace WledDial

open Transition

-- ========================================================== the driver

/-- `esp_err_t`, with the codes the source names. -/
inductive EspErr where
  | ok
  | nvsNoFreePages
  | nvsNewVersionFound
  | other (code : Int32)
  deriving DecidableEq

/-- The events of `WIFI_EVENT`, with the one the source names. -/
inductive WifiEvent where
  | staDisconnected
  | other (id : Int32)
  deriving DecidableEq

/-- The two fields of the station's configuration that are read. -/
structure StaConfig where
  ssid : List UInt8
  password : List UInt8

/-- `wifi_config_t wifi_config = {}`. -/
def StaConfig.zero : StaConfig := ⟨List.replicate 32 0, List.replicate 64 0⟩

/-- What the calls of `initialize_wifi_stack` are answered. A
configuration that cannot be read is not written. -/
structure EspIdf where
  nvsFlashInit : (erased : Bool) → EspErr
  nvsFlashErase : EspErr
  espNetifInit : EspErr
  espEventLoopCreateDefault : EspErr
  espNetifCreateDefaultWifiSta : Bool
  espNetifSetHostname : String → EspErr
  espEventHandlerRegister : EspErr
  espWifiInit : EspErr
  espWifiSetMode : EspErr
  espWifiStart : EspErr
  espWifiGetConfig : Option StaConfig

/-- The station and the event loop. -/
structure Station where
  connected : Bool
  attempts : Nat
  events : List WifiEvent
  deriving DecidableEq

/-- A station that was started and not told to connect. -/
def Station.started : Station := ⟨false, 0, []⟩

/-- `esp_wifi_connect`: the result, and an attempt if it is accepted. -/
def espWifiConnect (answer : EspErr) (s : Station) : EspErr × Station :=
  if answer = .ok then (.ok, { s with attempts := s.attempts + 1 })
  else (answer, s)

-- ============================================================ the code

/-- The calls whose failure aborts. -/
inductive EspCheck where
  | nvsFlashErase
  | nvsFlashInit
  | espNetifInit
  | espEventLoopCreateDefault
  | staNetif
  | espNetifSetHostname
  | espEventHandlerRegister
  | espWifiInit
  | espWifiSetMode
  | espWifiStart
  deriving DecidableEq

/-- `ESP_ERROR_CHECK`: anything but `ESP_OK` aborts. -/
def espErrorCheck (call : EspCheck) (err : EspErr) : Except EspCheck Unit :=
  if err = .ok then .ok () else .error call

/-- `initialize_wifi_stack` up to the start of the station. -/
def startWifi (esp : EspIdf) : Except EspCheck Unit := do
  let mut ret := esp.nvsFlashInit false
  if ret = .nvsNoFreePages ∨ ret = .nvsNewVersionFound then
    espErrorCheck .nvsFlashErase esp.nvsFlashErase
    ret := esp.nvsFlashInit true
  espErrorCheck .nvsFlashInit ret
  espErrorCheck .espNetifInit esp.espNetifInit
  espErrorCheck .espEventLoopCreateDefault esp.espEventLoopCreateDefault
  if !esp.espNetifCreateDefaultWifiSta then
    throw .staNetif
  espErrorCheck .espNetifSetHostname (esp.espNetifSetHostname "wled-dial")
  espErrorCheck .espEventHandlerRegister esp.espEventHandlerRegister
  espErrorCheck .espWifiInit esp.espWifiInit
  espErrorCheck .espWifiSetMode esp.espWifiSetMode
  espErrorCheck .espWifiStart esp.espWifiStart

/-- `initialize_wifi_stack`; `connect` is what its `esp_wifi_connect` is
answered, if it makes the call. -/
def initializeWifiStack (esp : EspIdf) (connect : EspErr) :
    Except EspCheck Station := do
  startWifi esp
  -- check if there is an existing network stored
  let wifiConfig := esp.espWifiGetConfig.getD StaConfig.zero
  if wifiConfig.ssid.headD 0 ≠ 0 ∧ wifiConfig.password.headD 0 ≠ 0 then
    return (espWifiConnect connect .started).2
  return .started

/-- `wifi_event_handler`; `connect` is what its `esp_wifi_connect` is
answered, if it makes the call. -/
def wifiEventHandler (connect : EspErr) (eventId : WifiEvent) (s : Station) :
    Station :=
  match eventId with
  | .staDisconnected => (espWifiConnect connect s).2
  | _ => s

/-- A network is stored, with an SSID and a password. -/
def StoredNetwork (esp : EspIdf) : Prop :=
  ∃ config, esp.espWifiGetConfig = some config
    ∧ config.ssid.headD 0 ≠ 0 ∧ config.password.headD 0 ≠ 0

-- ============================================================== steps

/-- What can happen once `initialize_wifi_stack` has returned: the driver
posts any other event, an attempt ends either way, the link is lost, the
event loop handles the oldest event. -/
inductive WifiStep where
  | post (id : Int32)
  | attemptSucceeds
  | attemptFails
  | linkLost
  | handle (connect : EspErr)
  deriving DecidableEq

namespace Station

/-- One step. -/
def step (s : Station) : WifiStep → Option Station
  | .post id => some { s with events := s.events ++ [.other id] }
  | .attemptSucceeds =>
      match s.attempts with
      | 0 => none
      | attempts + 1 => some { s with connected := true, attempts := attempts }
  | .attemptFails =>
      match s.attempts with
      | 0 => none
      | attempts + 1 =>
          some { s with
            attempts := attempts
            events := s.events ++ [.staDisconnected] }
  | .linkLost =>
      if s.connected then
        some { s with
          connected := false
          events := s.events ++ [.staDisconnected] }
      else none
  | .handle connect =>
      match s.events with
      | [] => none
      | e :: rest => some (wifiEventHandler connect e { s with events := rest })

/-- The station of a dial that has a network stored. -/
def system : System Station WifiStep where
  init s := ∃ esp connect, StoredNetwork esp
    ∧ initializeWifiStack esp connect = .ok s
  step := step

/-- The station is connected, or an attempt is in flight, or a
disconnected event waits to be handled. -/
def OnlineOrPending (s : Station) : Prop :=
  s.connected = true ∨ 0 < s.attempts ∨ .staDisconnected ∈ s.events

instance (s : Station) : Decidable s.OnlineOrPending :=
  inferInstanceAs (Decidable (_ ∨ _ ∨ _))

/-- If the step makes the handler call `esp_wifi_connect`, the call is
accepted. -/
def Accepts (s : Station) : WifiStep → Prop
  | .handle connect => s.events.head? = some .staDisconnected → connect = .ok
  | _ => True

instance (s : Station) : (e : WifiStep) → Decidable (s.Accepts e)
  | .handle _ => inferInstanceAs (Decidable (_ → _))
  | .post _ => isTrue trivial
  | .attemptSucceeds => isTrue trivial
  | .attemptFails => isTrue trivial
  | .linkLost => isTrue trivial

end Station

/-- With a network stored, what `initialize_wifi_stack` leaves is what its
`esp_wifi_connect` leaves. -/
theorem initializeWifiStack_stored {esp : EspIdf} {connect : EspErr}
    {s : Station} (hstored : StoredNetwork esp)
    (h : initializeWifiStack esp connect = .ok s) :
    s = (espWifiConnect connect .started).2 := by
  obtain ⟨config, hconfig, hssid, hpassword⟩ := hstored
  unfold initializeWifiStack at h
  cases hstart : startWifi esp with
  | error call =>
      rw [hstart] at h
      cases h
  | ok _ =>
      rw [hstart, hconfig] at h
      simp only [Option.getD_some, if_pos (And.intro hssid hpassword)] at h
      cases h
      rfl

end WledDial
