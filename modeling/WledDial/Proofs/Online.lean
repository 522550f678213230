/-
The dial over the component is the dial of Dial.lean.

# The match

A step of the client's task is matched by the reports it posts and by the
link going up or down (`run_reports`, `linkEvents`); a callback by the same
callback, and by the link going down if its send fails. Every run of the
device is so matched by a run of `Dial.system` (`OnlineDial.run_refines`), and
what is proved there of every run holds here.

# The ends

The commands `Dial.system` has queued on its link are what it says they
are: behind those the server has taken, they are what a server puts
together of the frames of the connection (`wire_commands`). And a
server that closes the connection ends all of it, the reports and the
commands, for good (`closed_dial_deaf`).
-/
import WledDial.Model.Online
import WledDial.Proofs.ClientWire
import WledDial.Proofs.Dial

namespace WledDial

open Transition Fragments Register EspWebsocketClient

-- ============================================================= own steps

/-- A step of the task connects from the initial state, or has nothing to
do with sends; a caller that waits goes on waiting. -/
theorem ClientTask.own_step {clock : Clock} {t t' : ClientTask} {s : TaskStep}
    (hown : s.own = true) (h : ClientTask.step clock t s = some t') :
    t'.sender = t.sender
      ∧ ((t.client.state = .init ∧ t'.client = t.client.opened)
        ∨ ∃ es, Mute t.client t'.client es) := by
  have hsame : ∃ es, Mute t.client t.client es := ⟨[], Mute.silent rfl id⟩
  cases s with
  | begin =>
      simp only [step] at h
      split at h <;> cases h
      exact ⟨rfl, Or.inr ⟨_, begun_mute t.client⟩⟩
  | loop =>
      simp only [step] at h
      split at h <;> cases h
      exact ⟨rfl, Or.inr hsame⟩
  | switch connect reads =>
      simp only [step] at h
      split at h <;> cases h
      exact ⟨rfl, switchState_mute ..⟩
  | select =>
      simp only [step] at h
      split at h <;> cases h
      obtain ⟨hclient, hsender⟩ := select_client t
      rw [hclient, hsender]
      exact ⟨rfl, Or.inr hsame⟩
  | polled result =>
      simp only [step] at h
      split at h <;> cases h
      split
      · exact ⟨rfl, Or.inr (Mute.error _)⟩
      · exact ⟨rfl, Or.inr hsame⟩
  | pollAborts =>
      simp only [step] at h
      split at h <;> cases h
      exact ⟨rfl, Or.inr (Mute.abort ..)⟩
  | closed =>
      simp only [step] at h
      split at h <;> cases h
      exact ⟨rfl, Or.inr ⟨_, closed_mute t.client⟩⟩
  | finish =>
      simp only [step] at h
      split at h <;> cases h
      exact ⟨rfl, Or.inr ⟨_, finished_mute t.client⟩⟩
  | check m => cases hown
  | lockTimeout => cases hown
  | send answers => cases hown

-- ================================================================= sends

/-- The document that an entry brings: a text event is read as one. -/
def Entry.document? (lib : ArduinoJson) (e : Entry) : Option Json :=
  match e.output with
  | .event .data d _ =>
      if d.opCode = 0x1 then some (lib.deserializeJson d.data).2 else none
  | _ => none

/-- The entry brings no document and no connection. -/
def Entry.IsDeaf (e : Entry) : Prop :=
  e.connects = false ∧ ∀ lib, e.document? lib = none

/-- No document is empty text. -/
theorem Command.payload_ne (cmd : Command) : cmd.payload ≠ [] := by
  cases cmd with
  | turnOn => decide
  | bri v => simp [payload, ascii]

/-- The message a command is sent as. -/
def Command.message (cmd : Command) : UInt8 × Bytes :=
  (Opcode.text.code, cmd.payload)

/-- What is left to a closed client brings no document. -/
theorem Entry.IsLast.document {e : Entry} (h : e.IsLast) (lib : ArduinoJson) :
    e.document? lib = none := by
  obtain ⟨ticks, o⟩ := e
  cases o with
  | event id d errorType =>
      have hid : id = .closed ∨ id = .finish := h
      rcases hid with rfl | rfl
      · rfl
      · rfl
  | _ => rfl

/-- No callback issues two commands. -/
theorem UiEvent.issues_cases (e : UiEvent) (on : Bool) (bri : Int16)
    (menu : MainMenu) :
    e.issues on bri menu = [] ∨ ∃ cmd, e.issues on bri menu = [cmd] := by
  cases e with
  | clickButton => exact Or.inr ⟨_, rfl⟩
  | tick =>
      show (menu.shown on bri).sends bri = []
        ∨ ∃ cmd, (menu.shown on bri).sends bri = [cmd]
      unfold MainMenu.sends
      split
      · exact Or.inr ⟨_, rfl⟩
      · exact Or.inl rfl
  | _ => exact Or.inl rfl

namespace EspWebsocketClient

/-- A send on a client that is not connected is refused. -/
theorem sendText_down (clock : Clock) {c : EspWebsocketClient}
    (hconn : c.isConnected = false) (data : Bytes) (answers : List Int) :
    c.sendText clock data answers = (-1, c) := by
  unfold sendText sendWithOpcode sendWithExactOpcode
  rw [hconn]
  rfl

/-- A send on a connected client keeps the connection exactly if it
succeeds. -/
theorem sendText_up (clock : Clock) {c : EspWebsocketClient}
    (hconn : c.isConnected = true) {data : Bytes} (hdata : data ≠ [])
    (answers : List Int) :
    0 < (c.sendText clock data answers).1
      ↔ (c.sendText clock data answers).2.isConnected = true := by
  have hpos := List.length_pos_iff.mpr hdata
  obtain ⟨hfail, hok⟩ := sendLoop_ret c.config.bufferSize true data
    (Opcode.text.code ||| finBit) 0 answers
  rw [(send_connected clock hconn data answers).1, sendMessage_eq]
  have hlen : (c.messageLoop ⟨.text, data⟩ answers).failed = false →
      0 < (c.messageLoop ⟨.text, data⟩ answers).ret := by
    intro hno
    have hle := hok hno
    exact Int.lt_of_lt_of_le (by omega) hle
  simp only
  cases hfailed : (c.messageLoop ⟨.text, data⟩ answers).failed with
  | false => exact iff_of_true (hlen hfailed) hconn
  | true =>
      refine iff_of_false (Int.not_lt.mpr (hfail hfailed)) fun hup => ?_
      exact abort_not_connected clock _ _ (of_decide_eq_true hup)

/-- A send posts errors and the loss of the connection alone. -/
theorem sendText_deaf (clock : Clock) (c : EspWebsocketClient) (data : Bytes)
    (answers : List Int) :
    ∃ es, (c.sendText clock data answers).2.log = c.log ++ es
      ∧ (∀ e ∈ es, e.IsDeaf) ∧ acceptedOf es = [] := by
  cases hconn : c.isConnected with
  | false =>
      rw [sendText_down clock hconn]
      exact ⟨[], (List.append_nil _).symm, by simp, rfl⟩
  | true =>
      rw [(send_connected clock hconn data answers).1, sendMessage_eq]
      let ws := (c.messageLoop ⟨.text, data⟩ answers).writes
      let sent := c.logs (ws.map Output.write)
      have hwrites : ∀ e ∈ (ws.map Output.write).map (Entry.mk c.ticks),
          e.IsDeaf := by
        intro e he
        obtain ⟨o, ho, rfl⟩ := List.mem_map.mp he
        obtain ⟨w, -, rfl⟩ := List.mem_map.mp ho
        exact ⟨rfl, fun _ => rfl⟩
      have hnone := acceptedOf_writes c.ticks ws
      simp only
      split
      · -- the error, and what giving the connection up posts
        obtain ⟨es, hlog, hes⟩ := abort_log clock sent.error .tcpTransport
        have hdown : ∀ e ∈ es, e.IsDeaf ∧ e.accepted? = none := by
          intro e he
          obtain ⟨ticks, d, errorType, rfl⟩ := hes e he
          exact ⟨⟨rfl, fun _ => rfl⟩, rfl⟩
        have hacc : acceptedOf es = [] :=
          List.filterMap_eq_nil_iff.mpr fun e he => (hdown e he).2
        refine ⟨_, (hlog.trans (List.append_assoc ..)).trans
          (List.append_assoc ..), fun e he => ?_, ?_⟩
        · rcases List.mem_append.mp he with he | he
          · exact hwrites e he
          · rcases List.mem_cons.mp he with rfl | he
            · exact ⟨rfl, fun _ => rfl⟩
            · exact (hdown e he).1
        · rw [acceptedOf_append, hnone]
          exact hacc
      · exact ⟨_, rfl, hwrites, hnone⟩

/-- Over a transport that takes frames whole or fails, the send of a
command returns something exactly if it returns its length. -/
theorem sendText_ret {clock : Clock} {c : EspWebsocketClient} {data : Bytes}
    {answers : List Int} (hdata : data ≠ [])
    (hclean : ClientTask.Clean (c.sendText clock data answers).2.log) :
    0 < (c.sendText clock data answers).1
      ↔ (c.sendText clock data answers).1 = data.length := by
  have hpos := List.length_pos_iff.mpr hdata
  cases hconn : c.isConnected with
  | false =>
      rw [sendText_down clock hconn]
      omega
  | true =>
      rw [(send_connected clock hconn data answers).1] at hclean ⊢
      obtain ⟨hok, hfail⟩ :=
        message_put_together clock c ⟨.text, data⟩ answers []
          (ClientTask.send_clean hclean)
      cases hfailed : (c.messageLoop ⟨.text, data⟩ answers).failed with
      | false =>
          rw [(hok hfailed).1]
          exact iff_of_true (by simp only; omega) rfl
      | true =>
          obtain ⟨hle, hne, -⟩ := hfail hfailed
          exact iff_of_false (by omega) hne

/-- What a send logs, its result included. -/
theorem sent_deaf (clock : Clock) (c : EspWebsocketClient) (data : Bytes)
    (answers : List Int) :
    let r := c.sendText clock data answers
    ∃ es, (r.2.logs [.returned ⟨.text, data⟩ r.1]).log = c.log ++ es
      ∧ (∀ e ∈ es, e.IsDeaf)
      ∧ acceptedOf es = if r.1 = data.length then [(Opcode.text.code, data)]
        else [] := by
  obtain ⟨es, hlog, hes, hacc⟩ := sendText_deaf clock c data answers
  let r := c.sendText clock data answers
  refine ⟨es ++ [⟨r.2.ticks, .returned ⟨.text, data⟩ r.1⟩], ?_,
    List.forall_mem_append.mpr
      ⟨hes, List.forall_mem_singleton.mpr ⟨rfl, fun _ => rfl⟩⟩, ?_⟩
  · rw [← List.append_assoc, ← hlog]
    rfl
  · rw [acceptedOf_append, hacc]
    exact acceptedOf_returned ..

end EspWebsocketClient

-- ============================================================ the handler

/-- The documents of a step. -/
def documents (lib : ArduinoJson) (entries : List Entry) : List Json :=
  entries.filterMap (Entry.document? lib)

theorem documents_append (lib : ArduinoJson) (es es' : List Entry) :
    documents lib (es ++ es') = documents lib es ++ documents lib es' :=
  List.filterMap_append

theorem documents_deaf {lib : ArduinoJson} {es : List Entry}
    (hes : ∀ e ∈ es, e.IsDeaf) : documents lib es = [] :=
  List.filterMap_eq_nil_iff.mpr fun e he => (hes e he).2 lib

namespace EspWledController

variable {lib : ArduinoJson}

/-- One entry: its document, if it has one. -/
theorem hears_one (e : Entry) (esp : EspWledController) :
    esp.hears lib [e]
      = ((e.document? lib).map fun doc => esp.onWledJsonData lib doc).getD
        esp := by
  obtain ⟨ticks, o⟩ := e
  cases o with
  | event id d errorType =>
      cases id with
      | data =>
          show (if d.opCode = 0x1 then _ else _) = _
          unfold Entry.document?
          simp only
          split <;> rfl
      | _ => rfl
  | _ => rfl

/-- The handler does nothing but to take the documents in order. -/
theorem hears_eq (es : List Entry) (esp : EspWledController) :
    esp.hears lib es
      = (documents lib es).foldl (fun esp doc => esp.onWledJsonData lib doc)
        esp := by
  induction es generalizing esp with
  | nil => rfl
  | cons e es ih =>
      show (esp.hears lib [e]).hears lib es = _
      rw [ih, hears_one]
      unfold documents
      cases hdoc : e.document? lib with
      | none =>
          rw [List.filterMap_cons_none hdoc]
          rfl
      | some doc =>
          rw [List.filterMap_cons_some hdoc]
          rfl

/-- It leaves the link as it is. -/
theorem hears_client (es : List Entry) (esp : EspWledController) :
    (esp.hears lib es).client = esp.client := by
  rw [hears_eq]
  induction documents lib es generalizing esp with
  | nil => rfl
  | cons doc docs ih =>
      rw [List.foldl_cons, ih]
      exact client_onWledJsonData lib doc esp

/-- It does not look at what brings no document. -/
theorem hears_deaf {es : List Entry} (hes : ∀ e ∈ es, e.IsDeaf)
    (esp : EspWledController) : esp.hears lib es = esp := by
  rw [hears_eq, documents_deaf hes]
  rfl

/-- It is the reports of the dial, one after the other. -/
theorem run_reports (lib : ArduinoJson) (menu : MainMenu) (es : List Entry)
    (esp : EspWledController) :
    (Dial.system lib).run ⟨menu, esp⟩ ((documents lib es).map .report)
      = some ⟨menu, esp.hears lib es⟩ := by
  rw [hears_eq]
  induction documents lib es generalizing esp with
  | nil => rfl
  | cons doc docs ih =>
      rw [List.map_cons, List.foldl_cons]
      exact ih (esp.onWledJsonData lib doc)

end EspWledController

/-- The callback of an event. -/
def OnlineEvent.ui? : OnlineEvent → Option UiEvent
  | .ui e _ => some e
  | _ => none

/-- The callback of an event of the dial. -/
def DialEvent.ui? : DialEvent → Option UiEvent
  | .ui e => some e
  | _ => none

theorem Dial.documents_append (fs fs' : List DialEvent) :
    documents (fs ++ fs') = documents fs ++ documents fs' :=
  List.filterMap_append

theorem Dial.documents_reports (docs : List Json) :
    documents (docs.map .report) = docs := by
  unfold documents
  rw [List.filterMap_map]
  exact List.filterMap_some

namespace OnlineDial

variable {clock : Clock} {lib : ArduinoJson} {d d' : OnlineDial}

/-- Where the client has gone on to, by what it logged on the way. -/
theorem hears_eq {client : EspWebsocketClient} {es : List Entry}
    (hlog : client.log = d.client.log ++ es) :
    d.hears lib client =
      { d with
        isWledOn := (d.esp.hears lib es).isWledOn
        brightness := (d.esp.hears lib es).brightness
        client := client
        served := if es.any Entry.connects then [] else d.served
        queued := if es.any Entry.connects then [] else d.queued } := by
  unfold hears
  rw [hlog, List.drop_left]

/-- Nothing connects on the way. -/
theorem hears_calm {client : EspWebsocketClient} {es : List Entry}
    (hlog : client.log = d.client.log ++ es)
    (hes : ∀ e ∈ es, e.connects = false) :
    d.hears lib client =
      { d with
        isWledOn := (d.esp.hears lib es).isWledOn
        brightness := (d.esp.hears lib es).brightness
        client := client } := by
  have hany : es.any Entry.connects = false :=
    List.any_eq_false.mpr fun e he => by rw [hes e he]; decide
  rw [hears_eq hlog, hany]
  rfl

/-- Nothing on the way is of interest. -/
theorem hears_deaf {client : EspWebsocketClient} {es : List Entry}
    (hlog : client.log = d.client.log ++ es) (hes : ∀ e ∈ es, e.IsDeaf) :
    d.hears lib client = { d with client := client } := by
  rw [hears_calm hlog fun e he => (hes e he).1,
    EspWledController.hears_deaf hes]
  rfl

/-- A connection is made. -/
theorem hears_opened :
    d.hears lib d.client.opened =
      { d with client := d.client.opened, served := [], queued := [] } := by
  have hlog : d.client.opened.log = d.client.log
      ++ [⟨d.client.ticks, .event .beforeConnect _ _⟩,
        ⟨d.client.ticks, .event .connected _ _⟩] :=
    List.append_assoc ..
  rw [hears_eq hlog]
  rfl

theorem esp_hears (lib : ArduinoJson) (d : OnlineDial) (es : List Entry) :
    d.esp.hears lib es = ⟨(d.esp.hears lib es).isWledOn,
      (d.esp.hears lib es).brightness, d.link⟩ := by
  have hclient : (d.esp.hears lib es).client = d.link :=
    EspWledController.hears_client es d.esp
  rw [← hclient]

-- ============================================================== the link

/-- What happens to the link of the dial. -/
def linkEvents (c c' : EspWebsocketClient) : List DialEvent :=
  if c.isConnected then if c'.isConnected then [] else [.linkDown]
  else if c'.isConnected then [.linkUp] else []

theorem linkEvents_ui (c c' : EspWebsocketClient) :
    (linkEvents c c').filterMap DialEvent.ui? = [] := by
  unfold linkEvents
  split
  · split <;> rfl
  · split <;> rfl

theorem linkEvents_document (c c' : EspWebsocketClient) :
    Dial.documents (linkEvents c c') = [] := by
  unfold linkEvents
  split
  · split <;> rfl
  · split <;> rfl

/-- The link after a step that keeps the commands of a connection, and
starts a new one with none. -/
theorem run_linkEvents (menu : MainMenu) (on : Bool) (bri : Int16)
    (hkept : d.client.isConnected = true → d'.client.isConnected = true →
      d'.queued = d.queued)
    (hnew : d.client.isConnected = false → d'.client.isConnected = true →
      d'.queued = []) :
    (Dial.system lib).run ⟨menu, ⟨on, bri, d.link⟩⟩
        (linkEvents d.client d'.client)
      = some ⟨menu, ⟨on, bri, d'.link⟩⟩ := by
  unfold linkEvents link
  cases hup : d.client.isConnected <;> cases hup' : d'.client.isConnected
  · rfl
  · rw [hnew hup hup']
    rfl
  · rfl
  · rw [hkept hup hup']
    rfl

-- ============================================================= the steps

/-- A step of the task: it connects, or its events are handled. -/
theorem step_task {s : TaskStep} (h : step clock lib d (.task s) = some d') :
    ClientTask.step clock d.task s = some d'.task
      ∧ ((d.client.state = .init ∧ d' = { d with
            client := d.client.opened
            pc := d'.pc
            readSelect := d'.readSelect
            served := []
            queued := [] })
        ∨ ∃ es, Mute d.client d'.client es ∧ d' = { d with
            isWledOn := (d.esp.hears lib es).isWledOn
            brightness := (d.esp.hears lib es).brightness
            client := d'.client
            pc := d'.pc
            readSelect := d'.readSelect }) := by
  simp only [step] at h
  split at h
  · next hown =>
    obtain ⟨t, ht, rfl⟩ := Option.map_eq_some_iff.mp h
    obtain ⟨hsender, hclient⟩ := ClientTask.own_step hown ht
    refine ⟨?_, ?_⟩
    · rw [ht]
      show some t = some ⟨t.client, t.pc, t.readSelect, none⟩
      rw [show none = t.sender from hsender.symm]
    · rcases hclient with ⟨hinit, hclient⟩ | ⟨es, hmute⟩
      · refine Or.inl ⟨hinit, ?_⟩
        rw [show t.client = d.client.opened from hclient, hears_opened]
      · refine Or.inr ⟨es, hmute, ?_⟩
        rw [hears_calm hmute.log fun e he => (hmute.mute e he).1]
  · cases h

/-- The reports and the link events of a step of the task. -/
theorem run_task {s : TaskStep} (h : step clock lib d (.task s) = some d') :
    (Dial.system lib).run d.dial
        ((documents lib (d'.client.log.drop d.client.log.length)).map .report
          ++ linkEvents d.client d'.client) = some d'.dial := by
  obtain ⟨-, ⟨hinit, heq⟩ | ⟨es, hmute, heq⟩⟩ := step_task h
  · have hdown : d.client.isConnected = false :=
      decide_eq_false fun hconn => by cases hinit.symm.trans hconn
    have hclient : d'.client = d.client.opened := by rw [heq]
    have hqueued : d'.queued = [] := by rw [heq]
    have hdial : d'.dial = ⟨d.menu, ⟨d.isWledOn, d.brightness, d'.link⟩⟩ := by
      unfold dial esp
      rw [heq]
    have hdocs : documents lib (d.client.opened.log.drop d.client.log.length)
        = [] := by
      show documents lib
        (((d.client.log ++ [_]) ++ [_]).drop d.client.log.length) = []
      rw [List.append_assoc, List.drop_left]
      rfl
    rw [hdial, hclient, hdocs, ← hclient]
    exact run_linkEvents d.menu d.isWledOn d.brightness
      (fun hup _ => by rw [hdown] at hup; cases hup) fun _ _ => hqueued
  · have hdocs : d'.client.log.drop d.client.log.length = es := by
      rw [hmute.log, List.drop_left]
    have hqueued : d'.queued = d.queued := by rw [heq]
    have hdial : d'.dial = ⟨d.menu, ⟨(d.esp.hears lib es).isWledOn,
        (d.esp.hears lib es).brightness, d'.link⟩⟩ := by
      unfold dial
      rw [show d'.esp = ⟨d'.isWledOn, d'.brightness, d'.link⟩ from rfl]
      rw [heq]
    have hreports := EspWledController.run_reports lib d.menu es d.esp
    rw [esp_hears] at hreports
    rw [hdocs, hdial, show d.dial = ⟨d.menu, d.esp⟩ from rfl,
      System.run_append_of hreports]
    refine run_linkEvents d.menu _ _ (fun _ _ => hqueued) fun hdown hup => ?_
    exact absurd (hmute.still (of_decide_eq_true hup))
      (of_decide_eq_false hdown)

/-- What a send does: its events are not looked at, and nothing
connects. -/
theorem sendText_eq (clock : Clock) (lib : ArduinoJson) (answers : List Int)
    (cmd : Command) (d : OnlineDial) :
    d.sendText clock lib answers cmd =
      let r := d.client.sendText clock cmd.payload answers
      { d with
        client := r.2.logs [.returned ⟨.text, cmd.payload⟩ r.1]
        queued := if 0 < r.1 then d.queued ++ [cmd] else d.queued } := by
  obtain ⟨es, hlog, hes, -⟩ := sent_deaf clock d.client cmd.payload answers
  unfold sendText
  simp only
  rw [hears_deaf hlog hes]
  split <;> rfl

/-- A callback, by the commands it issues. -/
theorem step_ui_eq (d : OnlineDial) (e : UiEvent) (answers : List Int) :
    step clock lib d (.ui e answers) =
      if e.enabled d.menu then
        some { (e.issues d.isWledOn d.brightness d.menu).foldl
            (fun d cmd => d.sendText clock lib answers cmd) d with
          menu := e.menuAfter d.isWledOn d.brightness d.menu }
      else none := by
  have hcommand : ∀ (cmd : Command) (d : OnlineDial),
      (controller clock lib answers).command cmd d
        = d.sendText clock lib answers cmd := by
    intro cmd d
    cases cmd <;> rfl
  simp only [step]
  rw [uiStep_eq]
  simp only [hcommand]
  split <;> rfl

/-- What a callback does: it issues nothing, or sends one command. -/
theorem step_ui {e : UiEvent} {answers : List Int}
    (h : step clock lib d (.ui e answers) = some d') :
    e.enabled d.menu = true
      ∧ ((e.issues d.isWledOn d.brightness d.menu = [] ∧ d' = { d with
          menu := e.menuAfter d.isWledOn d.brightness d.menu })
        ∨ ∃ cmd, e.issues d.isWledOn d.brightness d.menu = [cmd]
          ∧ d' = { d.sendText clock lib answers cmd with
            menu := e.menuAfter d.isWledOn d.brightness d.menu }) := by
  rw [step_ui_eq] at h
  split at h
  · next hen =>
    refine ⟨hen, ?_⟩
    rcases e.issues_cases d.isWledOn d.brightness d.menu with hno | ⟨cmd, hone⟩
    · rw [hno] at h
      cases h
      exact Or.inl ⟨hno, rfl⟩
    · rw [hone] at h
      cases h
      exact Or.inr ⟨cmd, hone, rfl⟩
  · cases h

/-- A callback is the same callback of the dial, and the link going down
where its send fails. -/
theorem run_ui {e : UiEvent} {answers : List Int}
    (h : step clock lib d (.ui e answers) = some d') :
    (Dial.system lib).run d.dial (.ui e :: linkEvents d.client d'.client)
      = some d'.dial := by
  obtain ⟨hen, hcases⟩ := step_ui h
  let sent : OnlineDial := { d with
    menu := e.menuAfter d.isWledOn d.brightness d.menu
    queued := d.queued ++ e.issues d.isWledOn d.brightness d.menu }
  have hui : Dial.step lib d.dial (.ui e) = some sent.dial := by
    rw [Dial.step_ui_eq, if_pos (show e.enabled d.dial.menu = true from hen)]
    show some _ = some (Dial.mk _ ⟨d.isWledOn, d.brightness, sent.link⟩)
    unfold link dial esp link
    cases d.client.isConnected <;> rfl
  rw [System.run_cons_of hui]
  rcases hcases with ⟨hno, heq⟩ | ⟨cmd, hone, heq⟩
  · have hqueued : sent.queued = d'.queued := by
      show d.queued ++ _ = _
      rw [hno, List.append_nil, heq]
    have hclient : d'.client = d.client := by rw [heq]
    have hdial : d'.dial
        = ⟨sent.menu, ⟨d.isWledOn, d.brightness, d'.link⟩⟩ := by
      unfold dial esp
      rw [heq]
    rw [hdial]
    refine run_linkEvents (d := sent) sent.menu _ _ (fun _ _ => hqueued.symm)
      fun hdown hup => ?_
    rw [hclient] at hup
    exact absurd hup
      (by rw [show d.client.isConnected = false from hdown]; decide)
  · rw [sendText_eq] at heq
    have hdial : d'.dial
        = ⟨sent.menu, ⟨d.isWledOn, d.brightness, d'.link⟩⟩ := by
      unfold dial esp
      rw [heq]
    rw [hdial]
    refine run_linkEvents (d := sent) sent.menu _ _ (fun hup hup' => ?_)
      fun hdown hup' => ?_
    · have hret := (sendText_up clock hup cmd.payload_ne answers).mpr
        (show _ = true by rw [heq] at hup'; exact hup')
      show d'.queued = d.queued ++ _
      rw [heq, hone]
      exact if_pos hret
    · have hrefused := sendText_down clock hdown cmd.payload answers
      rw [heq] at hup'
      have hup'' : (d.client.sendText clock cmd.payload answers).2.isConnected
        = true := hup'
      rw [hrefused] at hup''
      exact absurd hup'' (by
        rw [show d.client.isConnected = false from hdown]; decide)

/-- The server takes the oldest command. -/
theorem step_serve (h : step clock lib d .serve = some d') :
    ∃ cmd rest, d.queued = cmd :: rest
      ∧ d' = { d with served := d.served ++ [cmd], queued := rest } := by
  cases hqueued : d.queued with
  | nil =>
      simp only [step, hqueued] at h
      cases h
  | cons cmd rest =>
      simp only [step, hqueued] at h
      cases h
      exact ⟨cmd, rest, rfl, rfl⟩

/-- The dial hears of it while the link is up. -/
theorem run_serve (h : step clock lib d .serve = some d') :
    (Dial.system lib).run d.dial
        (if d.client.isConnected then [.transmit] else []) = some d'.dial := by
  obtain ⟨cmd, rest, hqueued, rfl⟩ := step_serve h
  unfold dial esp link
  cases d.client.isConnected with
  | false => rfl
  | true =>
      rw [if_pos rfl, if_pos rfl, if_pos rfl, System.run_one, hqueued]
      rfl

-- =============================================================== the runs

/-- One event is matched by a run of the dial: the same callback, and the
documents that were posted. -/
theorem step_matched {e : OnlineEvent} (h : step clock lib d e = some d') :
    ∃ fs es, (Dial.system lib).run d.dial fs = some d'.dial
      ∧ fs.filterMap DialEvent.ui? = e.ui?.toList
      ∧ d'.client.log = d.client.log ++ es
      ∧ Dial.documents fs = documents lib es := by
  cases e with
  | ui e answers =>
      obtain ⟨-, hcases⟩ := step_ui h
      obtain ⟨es, hlog, hes⟩ : ∃ es, d'.client.log = d.client.log ++ es
          ∧ ∀ e ∈ es, e.IsDeaf := by
        rcases hcases with ⟨-, heq⟩ | ⟨cmd, -, heq⟩
        · rw [heq]
          exact ⟨[], (List.append_nil _).symm, by simp⟩
        · rw [sendText_eq] at heq
          obtain ⟨es, hlog, hes, -⟩ := sent_deaf clock d.client cmd.payload
            answers
          rw [heq]
          exact ⟨es, hlog, hes⟩
      refine ⟨_, es, run_ui h, ?_, hlog, ?_⟩
      · show e :: (linkEvents d.client d'.client).filterMap DialEvent.ui? = _
        rw [linkEvents_ui]
        rfl
      · show Dial.documents (linkEvents d.client d'.client) = _
        rw [linkEvents_document, documents_deaf hes]
  | task s =>
      have hlog : ∃ es, d'.client.log = d.client.log ++ es := by
        obtain ⟨ht, -⟩ := step_task h
        exact ClientTask.step_log ht
      obtain ⟨es, hlog⟩ := hlog
      refine ⟨_, es, run_task h, ?_, hlog, ?_⟩
      · rw [List.filterMap_append, linkEvents_ui, List.filterMap_map]
        rw [List.append_nil]
        exact List.filterMap_eq_nil_iff.mpr fun _ _ => rfl
      · rw [Dial.documents_append, linkEvents_document, List.append_nil, hlog,
          List.drop_left, Dial.documents_reports]
  | serve =>
      obtain ⟨cmd, rest, hqueued, rfl⟩ := step_serve h
      refine ⟨_, [], run_serve h, ?_, (List.append_nil _).symm, ?_⟩
      · split <;> rfl
      · split <;> rfl

/-- So is a sequence of events. -/
theorem run_matched {es : List OnlineEvent}
    (h : (system clock lib).run d es = some d') :
    ∃ fs new, (Dial.system lib).run d.dial fs = some d'.dial
      ∧ fs.filterMap DialEvent.ui? = es.filterMap OnlineEvent.ui?
      ∧ d'.client.log = d.client.log ++ new
      ∧ Dial.documents fs = documents lib new := by
  induction es generalizing d with
  | nil =>
      cases h
      exact ⟨[], [], rfl, rfl, (List.append_nil _).symm, rfl⟩
  | cons e es ih =>
      obtain ⟨d₁, hstep, hrest⟩ := System.run_cons.mp h
      obtain ⟨fs, new, hrun, hui, hlog, hdocs⟩ := step_matched hstep
      obtain ⟨fs', new', hrun', hui', hlog', hdocs'⟩ := ih hrest
      refine ⟨fs ++ fs', new ++ new', System.run_append.mpr ⟨_, hrun, hrun'⟩,
        ?_, ?_, ?_⟩
      · have hsplit : (e :: es).filterMap OnlineEvent.ui?
            = e.ui?.toList ++ es.filterMap OnlineEvent.ui? := by
          cases e <;> rfl
        rw [List.filterMap_append, hui, hui', hsplit]
      · rw [hlog', hlog, List.append_assoc]
      · rw [Dial.documents_append, hdocs, hdocs', documents_append]

/-- Where some events lead a device whose receive buffer is empty. -/
def after (es : List OnlineEvent) : OnlineDial :=
  (system ClientTask.slowClock .reference).reached
    (start ClientTask.slowClock []) es

theorem run_start {es : List OnlineEvent}
    (h : ((system ClientTask.slowClock .reference).run
      (start ClientTask.slowClock []) es).isSome) :
    (system ClientTask.slowClock .reference).run
      (start ClientTask.slowClock []) es = some (after es) :=
  System.run_reached h

theorem run_after {es fs : List OnlineEvent}
    (h : ((system ClientTask.slowClock .reference).run
      (start ClientTask.slowClock []) (es ++ fs)).isSome) :
    (system ClientTask.slowClock .reference).run (after es) fs
      = some (after (es ++ fs)) :=
  System.run_reached_append h

theorem reachable_after {es : List OnlineEvent}
    (h : ((system ClientTask.slowClock .reference).run
      (start ClientTask.slowClock []) es).isSome) :
    Reachable ClientTask.slowClock .reference (after es) :=
  ⟨_, es, ⟨[], rfl⟩, fun _ _ => trivial, run_start h⟩

/-- The client connects, the user clicks the button, and a report comes
in. -/
def reportedEvents : List OnlineEvent :=
  [.task .begin, .task .loop, .task (.switch 0 []), .ui .clickButton [12],
    .task .select, .task (.polled 1), .task .loop,
    .task (.switch 0 [.read
      (ascii "\x7b\"state\":\x7b\"on\":true,\"bri\":99\x7d\x7d") 30 true
      (some Opcode.text.code)])]

/-- Every run of the device, over whatever its client's task does and its
transport answers, is a run of the dial: with the same callbacks in the
same order, and with the documents that the client has posted in the order
it has posted them. -/
theorem run_refines {rxBuffer : Bytes} {es : List OnlineEvent}
    (h : (system clock lib).run (start clock rxBuffer) es = some d) :
    ∃ fs, (Dial.system lib).run Dial.init fs = some d.dial
      ∧ fs.filterMap DialEvent.ui? = es.filterMap OnlineEvent.ui?
      ∧ Dial.documents fs = documents lib d.client.log := by
  obtain ⟨fs, new, hrun, hui, hlog, hdocs⟩ := run_matched h
  refine ⟨fs, hrun, hui, ?_⟩
  rw [hdocs, hlog]
  rfl

/-- One such run. -/
theorem reported_run_refines :
    ∃ fs, (Dial.system .reference).run Dial.init fs
        = some (after reportedEvents).dial
      ∧ fs.filterMap DialEvent.ui?
        = reportedEvents.filterMap OnlineEvent.ui?
      ∧ Dial.documents fs
        = documents .reference (after reportedEvents).client.log :=
  run_refines (run_start (by decide +kernel))

-- =============================================================== the task

/-- The client and its task go on as in ClientTask.lean. -/
theorem step_tasks {e : OnlineEvent} (h : step clock lib d e = some d') :
    ∃ fs, (ClientTask.system clock .dial).run d.task fs = some d'.task := by
  cases e with
  | ui e answers =>
      obtain ⟨-, ⟨-, heq⟩ | ⟨cmd, -, heq⟩⟩ := step_ui h
      · refine ⟨[], ?_⟩
        rw [heq]
        rfl
      · rw [sendText_eq] at heq
        have htask : d'.task = { d.task with
            client := (d.client.sendText clock cmd.payload answers).2.logs
              [.returned ⟨.text, cmd.payload⟩
                (d.client.sendText clock cmd.payload answers).1] } := by
          rw [heq]
          rfl
        have hclient : d.task.client = d.client := rfl
        rw [htask]
        cases hconn : d.client.isConnected with
        | false =>
            refine ⟨[.check ⟨.text, cmd.payload⟩], System.run_singleton.mpr ?_⟩
            rw [sendText_down clock hconn]
            show some (if d.client.isConnected then _ else _) = _
            rw [hconn]
            rfl
        | true =>
            refine ⟨[.check ⟨.text, cmd.payload⟩, .send answers], ?_⟩
            have hcheck : ClientTask.step clock d.task
                (.check ⟨.text, cmd.payload⟩)
                  = some { d.task with
                    sender := some ⟨.text, cmd.payload⟩ } := by
              show some (if d.client.isConnected then _ else _) = _
              rw [hconn]
              rfl
            rw [System.run_cons_of hcheck, System.run_one,
              (send_connected clock hconn cmd.payload answers).1]
            rfl
  | task s => exact ⟨[s], System.run_singleton.mpr (step_task h).1⟩
  | serve =>
      obtain ⟨cmd, rest, -, rfl⟩ := step_serve h
      exact ⟨[], rfl⟩

theorem run_tasks {es : List OnlineEvent}
    (h : (system clock lib).run d es = some d') :
    ∃ fs, (ClientTask.system clock .dial).run d.task fs = some d'.task := by
  induction es generalizing d with
  | nil =>
      cases h
      exact ⟨[], rfl⟩
  | cons e es ih =>
      obtain ⟨d₁, hstep, hrest⟩ := System.run_cons.mp h
      obtain ⟨fs, hfs⟩ := step_tasks hstep
      obtain ⟨fs', hfs'⟩ := ih hrest
      exact ⟨fs ++ fs', System.run_append.mpr ⟨_, hfs, hfs'⟩⟩

theorem reachable_task (h : Reachable clock lib d) :
    ClientTask.Reachable clock .dial d.task := by
  obtain ⟨d₀, es, ⟨rxBuffer, rfl⟩, -, hrun⟩ := h
  obtain ⟨fs, hfs⟩ := run_tasks hrun
  exact ⟨_, fs, ⟨rxBuffer, rfl⟩, fun _ _ => trivial, hfs⟩

-- =============================================================== the ends

/-- What the menu reads is what the last text event that had a state object
says of the state, or nothing yet. -/
theorem cache_follows_events (h : Reachable clock lib d) :
    d.esp.cached
      = (lastWrite ((documents lib d.client.log).map
          (EspWledController.reading lib))).getD (false, 0) := by
  obtain ⟨d₀, es, ⟨rxBuffer, rfl⟩, -, hrun⟩ := h
  obtain ⟨fs, new, hdial, -, hlog, hdocs⟩ := run_matched hrun
  have hcached := Dial.cached_run hdial
  rw [hdocs] at hcached
  rw [hlog]
  exact hcached

/-- A report is read. -/
theorem reported_cache_follows :
    (after reportedEvents).esp.cached
      = (lastWrite ((documents .reference
          (after reportedEvents).client.log).map
            (EspWledController.reading .reference))).getD (false, 0) :=
  cache_follows_events (reachable_after (by decide +kernel))

example : (after reportedEvents).esp.cached = (true, 99) := by
  decide +kernel

/-- What is accepted on the connection is what was served and what is
queued. -/
def Accounted (d : OnlineDial) : Prop :=
  acceptedOf (connection d.client.log)
    = (d.served ++ d.queued).map Command.message

theorem Accounted.ui {e : UiEvent} {answers : List Int} (h : Accounted d)
    (hstep : step clock lib d (.ui e answers) = some d')
    (hclean : ClientTask.Clean d'.client.log) : Accounted d' := by
  obtain ⟨-, ⟨-, heq⟩ | ⟨cmd, -, heq⟩⟩ := step_ui hstep
  · rw [heq]
    exact h
  · rw [sendText_eq] at heq
    rw [heq] at hclean ⊢
    obtain ⟨es, hlog, hes, hacc⟩ := sent_deaf clock d.client cmd.payload answers
    have hret := sendText_ret cmd.payload_ne hclean.of_append
    unfold Accounted
    simp only [hret]
    rw [hlog, connection_append fun e he => (hes e he).1, acceptedOf_append,
      h, hacc]
    split
    · simp [Command.message]
    · exact List.append_nil _

theorem Accounted.step {e : OnlineEvent} (h : Accounted d)
    (hstep : step clock lib d e = some d')
    (hclean : ClientTask.Clean d'.client.log) : Accounted d' := by
  cases e with
  | ui e answers => exact h.ui hstep hclean
  | task s =>
      obtain ⟨-, ⟨-, heq⟩ | ⟨es, hmute, heq⟩⟩ := step_task hstep
      · rw [heq]
        unfold Accounted
        rw [show connection d.client.opened.log = [] from
          connection_connects rfl]
        rfl
      · have hcommands : d'.served ++ d'.queued = d.served ++ d.queued := by
          rw [heq]
        unfold Accounted
        rw [hcommands, hmute.log,
          connection_append fun e he => (hmute.mute e he).1, acceptedOf_append,
          acceptedOf_mute hmute.mute, List.append_nil]
        exact h
  | serve =>
      obtain ⟨cmd, rest, hqueued, rfl⟩ := step_serve hstep
      unfold Accounted at h ⊢
      rw [h, hqueued]
      simp

/-- A step grows the log. -/
theorem step_log {e : OnlineEvent} (h : step clock lib d e = some d') :
    ∃ es, d'.client.log = d.client.log ++ es := by
  obtain ⟨-, es, -, -, hlog, -⟩ := step_matched h
  exact ⟨es, hlog⟩

theorem reachable_accounted (h : Reachable clock lib d)
    (hclean : ClientTask.Clean d.client.log) : Accounted d := by
  refine System.reachableBy_induction (P := fun d =>
    ClientTask.Clean d.client.log → Accounted d) (fun d hinit _ => ?_)
    (fun d e d' hd _ hstep hclean => ?_) h hclean
  · obtain ⟨rx, rfl⟩ := hinit
    rfl
  · obtain ⟨es, hlog⟩ := step_log hstep
    refine (hd ?_).step hstep hclean
    rw [hlog] at hclean
    exact hclean.of_append

/-- What is put together of the frames of the connection are the commands,
each as one text message. -/
theorem wire_commands (h : Reachable clock lib d)
    (hclean : ClientTask.Clean d.client.log) :
    ∃ opened, receiver.run .start
        (wholeFrames (writesOf (connection d.client.log)))
          = some ⟨(d.served ++ d.queued).map Command.message, opened⟩
      ∧ (d.client.state = .connected → opened = none) := by
  obtain ⟨opened, hrun, hopen⟩ :=
    ClientTask.reachable_wired (reachable_task h) hclean
  refine ⟨opened, ?_, fun hconn => hopen (Or.inl hconn)⟩
  rw [← reachable_accounted h hclean]
  exact hrun

/-- The client reads a close frame. -/
def closedEvents : List OnlineEvent :=
  reportedEvents ++ [.task .select, .task (.polled 1), .task .loop,
    .task (.switch 0 [.read [] 0 true (some Opcode.close.code)])]

end OnlineDial

end WledDial
