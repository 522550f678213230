/-
The websocket client component, as far as the controller meets it: the
events it posts, how one frame becomes data events, and what
`esp_websocket_client_send_text` does to the link.

# Receiving

`esp_websocket_client_recv` reads a frame through a buffer of
`buffer_size` bytes and posts one `WEBSOCKET_EVENT_DATA` for each read,
all with the frame's own opcode and total length and with the offset
reached so far. The component never puts the reads of a frame together,
nor the frames of a fragmented message: that is left to the handler.

# Sending

A send on a client that is not connected returns -1 and writes nothing.
The transport itself (frame masking, retries, timeouts) is below this
model: a connected send enters the transmit queue, and a write that
fails is a link that drops with the queue.
-/
import WledDial.Lib.Json

namespace WledDial

-- =============================================================== events

/-- `esp_websocket_event_id_t`. -/
inductive EventId where
  | error
  | connected
  | disconnected
  | data
  | closed
  | beforeConnect
  | begin
  | finish
  deriving DecidableEq

/-- The frame opcodes of the websocket transport. -/
inductive Opcode where
  | cont
  | text
  | binary
  | close
  | ping
  | pong
  deriving DecidableEq

/-- The opcode on the wire. -/
def Opcode.code : Opcode → UInt8
  | .cont => 0x0
  | .text => 0x1
  | .binary => 0x2
  | .close => 0x8
  | .ping => 0x9
  | .pong => 0xa

/-- Close, ping and pong: frames that may stand between the frames of a
fragmented message. -/
def Opcode.isControl : Opcode → Bool
  | .close | .ping | .pong => true
  | _ => false

/-- `esp_websocket_event_data_t`: `data` is `data_ptr` up to
`data_len`. -/
structure EventData where
  data : Bytes
  fin : Bool
  opCode : UInt8
  payloadLen : Nat
  payloadOffset : Nat

-- ============================================================ receiving

/-- `WEBSOCKET_BUFFER_SIZE_BYTE`, the buffer of a client that sets no
size. -/
def bufferSize : Nat := 1024

/-- A received frame, as the successive reads of its payload. Every read
fits the buffer, and none is empty unless the payload is. -/
structure Frame where
  opCode : Opcode
  fin : Bool
  reads : List Bytes
  reads_ne : reads ≠ []
  reads_fit : ∀ r ∈ reads, r.length ≤ bufferSize
  reads_full : reads.length = 1 ∨ ∀ r ∈ reads, r ≠ []

namespace Frame

def payload (f : Frame) : Bytes := f.reads.flatten

/-- The event that `esp_websocket_client_dispatch_event` posts for one
read. -/
def dataEvent (f : Frame) (offset : Nat) (read : Bytes) : EventData where
  data := read
  fin := f.fin
  opCode := f.opCode.code
  payloadLen := f.payload.length
  payloadOffset := offset

/-- The loop of `esp_websocket_client_recv`: dispatch a read, advance the
offset by its length, and go on while the offset is short of the
payload. -/
def recvLoop (f : Frame) : Nat → List Bytes → List EventData
  | _, [] => []
  | offset, read :: reads =>
      f.dataEvent offset read ::
        if offset + read.length < f.payload.length then
          recvLoop f (offset + read.length) reads
        else []

/-- `esp_websocket_client_recv` on one frame. -/
def recv (f : Frame) : List EventData := f.recvLoop 0 f.reads

/-- While the reads left are not empty, the loop dispatches each of
them. -/
theorem recvLoop_data (f : Frame) {offset : Nat} {reads : List Bytes}
    (hlen : offset + reads.flatten.length = f.payload.length)
    (hne : ∀ r ∈ reads, r ≠ []) :
    (f.recvLoop offset reads).map EventData.data = reads := by
  induction reads generalizing offset with
  | nil => rfl
  | cons r rs ih =>
      have hrest : offset + r.length + rs.flatten.length
          = f.payload.length := by
        rw [← hlen, List.flatten_cons, List.length_append]
        omega
      rw [recvLoop, List.map_cons]
      cases rs with
      | nil =>
          congr 1
          split
          · rfl
          · rfl
      | cons r' rs =>
          have hr' : 0 < r'.length :=
            List.length_pos_iff.mpr (hne r' (by simp))
          have hlt : offset + r.length < f.payload.length := by
            rw [List.flatten_cons, List.length_append] at hrest
            omega
          rw [if_pos hlt,
            ih hrest fun r hr => hne r (List.mem_cons_of_mem _ hr)]
          rfl

/-- One event for each read, carrying exactly what was read. -/
theorem recv_data (f : Frame) : f.recv.map EventData.data = f.reads := by
  rcases f.reads_full with hone | hne
  · obtain ⟨r, hr⟩ := List.length_eq_one_iff.mp hone
    unfold recv
    rw [hr, recvLoop, List.map_cons]
    congr 1
    split
    · rfl
    · rfl
  · refine recvLoop_data f ?_ hne
    rw [Nat.zero_add]
    rfl

/-- Every event of a frame carries the frame's opcode. -/
theorem recv_opCode (f : Frame) : ∀ e ∈ f.recv, e.opCode = f.opCode.code := by
  have hloop : ∀ (reads : List Bytes) (offset : Nat),
      ∀ e ∈ f.recvLoop offset reads, e.opCode = f.opCode.code := by
    intro reads
    induction reads with
    | nil =>
        intro offset e he
        exact absurd he (List.not_mem_nil)
    | cons r rs ih =>
        intro offset e he
        rw [recvLoop] at he
        rcases List.mem_cons.mp he with rfl | he
        · rfl
        · split at he
          · exact ih _ e he
          · exact absurd he (List.not_mem_nil)
  exact hloop f.reads 0

/-- The events with opcode 1 are those of text frames. -/
theorem recv_filter (f : Frame) :
    f.recv.filter (fun e => e.opCode = 0x1)
      = if f.opCode = .text then f.recv else [] := by
  split
  · next htext =>
    refine List.filter_eq_self.mpr fun e he => ?_
    rw [f.recv_opCode e he, htext]
    rfl
  · next hno =>
    refine List.filter_eq_nil_iff.mpr fun e he => ?_
    rw [f.recv_opCode e he]
    cases hop : f.opCode with
    | text => exact absurd hop hno
    | cont | binary | close | ping | pong => decide

end Frame

/-- The frames a text message arrives in: a text frame and, if it is
fragmented, continuation frames, the last of them with FIN, with control
frames anywhere between. -/
structure TextMessage where
  frames : List Frame
  first : Frame
  conts : List Frame
  frames_eq : frames.filter (fun f => !f.opCode.isControl) = first :: conts
  first_text : first.opCode = .text
  conts_cont : ∀ f ∈ conts, f.opCode = .cont
  fins : (first :: conts).map Frame.fin
    = List.replicate conts.length false ++ [true]

namespace TextMessage

/-- The whole text, all fragments together. -/
def text (m : TextMessage) : Bytes :=
  m.first.payload ++ (m.conts.map Frame.payload).flatten

/-- The data events the message arrives as. -/
def events (m : TextMessage) : List EventData := m.frames.flatMap Frame.recv

/-- Those of them with opcode 1. -/
def textEvents (m : TextMessage) : List EventData :=
  m.events.filter fun e => e.opCode = 0x1

/-- The message is posted as one event with opcode 1, and that carries all
of its text. -/
def PostedWhole (m : TextMessage) : Prop :=
  m.textEvents.map EventData.data = [m.text]

/-- One event with opcode 1 for each read of the text frame. -/
theorem textEvents_data (m : TextMessage) :
    m.textEvents.map EventData.data = m.first.reads := by
  -- the control frames of the message post none
  have hdata : ∀ frames : List Frame,
      (frames.flatMap Frame.recv).filter (fun e => e.opCode = 0x1)
        = ((frames.filter fun f => !f.opCode.isControl).flatMap
            Frame.recv).filter fun e => e.opCode = 0x1 := by
    intro frames
    induction frames with
    | nil => rfl
    | cons f fs ih =>
        rw [List.flatMap_cons, List.filter_append, f.recv_filter, ih]
        cases hop : f.opCode with
        | text | cont | binary =>
            rw [List.filter_cons_of_pos (by rw [hop]; rfl), List.flatMap_cons,
              List.filter_append, f.recv_filter, hop]
        | close | ping | pong =>
            rw [List.filter_cons_of_neg (by rw [hop]; decide)]
            rfl
  -- nor do its continuation frames
  have hconts : (m.conts.flatMap Frame.recv).filter
      (fun e => e.opCode = 0x1) = [] := by
    rw [List.filter_flatMap, List.flatMap_eq_nil_iff]
    intro f hf
    rw [f.recv_filter, m.conts_cont f hf]
    rfl
  unfold textEvents events
  rw [hdata, m.frames_eq, List.flatMap_cons, List.filter_append, hconts,
    m.first.recv_filter, m.first_text, List.append_nil]
  exact m.first.recv_data

theorem postedWhole_iff (m : TextMessage) :
    m.PostedWhole ↔ m.first.reads = [m.text] := by
  rw [PostedWhole, textEvents_data]

/-- A text frame whose last read is the whole text has no other. -/
theorem reads_eq_of_last {m : TextMessage} {reads : List Bytes}
    (h : m.first.reads = reads ++ [m.text]) : m.first.reads = [m.text] := by
  have hlen : (reads.flatten ++ m.text).length ≤ m.text.length := by
    have htext : m.text = reads.flatten ++ m.text
        ++ (m.conts.map Frame.payload).flatten := by
      conv_lhs => rw [text, Frame.payload, h, List.flatten_append,
        List.flatten_singleton]
    conv_rhs => rw [htext, List.length_append]
    omega
  rw [List.length_append] at hlen
  have hnil : reads.flatten = [] := List.length_eq_zero_iff.mp (by omega)
  rcases m.first.reads_full with hone | hne
  · rw [h, List.length_append, List.length_singleton] at hone
    rw [h, List.length_eq_zero_iff.mp (by omega : reads.length = 0),
      List.nil_append]
  · cases reads with
    | nil => exact h
    | cons r rs =>
        have hr : r = [] := List.flatten_eq_nil_iff.mp hnil r
          (List.mem_cons_self ..)
        exact absurd hr (hne r (by rw [h]; simp))

end TextMessage

-- ============================================================== sending

/-- What a controller asks of the server. -/
inductive Command where
  | turnOn
  | bri (brightness : Int16)
  deriving DecidableEq

/-- The text that asks it. -/
def Command.payload : Command → Bytes
  | .turnOn => ascii "\x7b\"on\": true\x7d"
  | .bri v => ascii ("\x7b\"bri\":" ++ toString v.toInt ++ "\x7d")

/-- The sending side of the client: whether the link is up, and the
commands written to it that the server has not taken yet. -/
structure WebsocketClient where
  connected : Bool
  tx : List Command
  deriving DecidableEq

namespace WebsocketClient

/-- `esp_websocket_client_send_text`: the number of bytes sent, or -1 on
a client that is not connected. -/
def sendText (c : WebsocketClient) (cmd : Command) : Int × WebsocketClient :=
  if !c.connected then (-1, c)
  else (cmd.payload.length, { c with tx := c.tx ++ [cmd] })

/-- A run of sends: queued in order, or all lost. -/
theorem foldl_sendText (c : WebsocketClient) (cmds : List Command) :
    cmds.foldl (fun c cmd => (c.sendText cmd).2) c
      = if c.connected then { c with tx := c.tx ++ cmds } else c := by
  induction cmds generalizing c with
  | nil => simp
  | cons cmd cmds ih =>
      rw [List.foldl_cons, ih]
      unfold sendText
      cases hc : c.connected <;> simp [hc]

end WebsocketClient

end WledDial
