/-
What the routines of the client task do, said once: the fields they
change and the outputs they log. Nothing above this file unfolds them.
-/
import WledDial.Model.ClientTask
import Mathlib.Logic.Relation

namespace WledDial

-- ============================================================ receiving

/-- The event is the last of its frame. -/
def EventData.Completes (d : EventData) : Prop :=
  d.payloadLen ≤ d.payloadOffset + d.data.length

namespace EspWebsocketClient

@[simp] theorem logs_nil (c : EspWebsocketClient) : c.logs [] = c := by
  unfold logs
  rw [List.map_nil, List.append_nil]

theorem logs_logs (c : EspWebsocketClient) (os os' : List Output) :
    (c.logs os).logs os' = c.logs (os ++ os') := by
  unfold logs
  simp only [List.map_append, List.append_assoc]

/-- The fields of the frame that was read. -/
def framed (c : EspWebsocketClient) (rx : Bytes) (len off : Nat) (fin : Bool)
    (op : Option UInt8) : EspWebsocketClient :=
  { c with
    rxBuffer := rx
    payloadLen := len
    payloadOffset := off
    lastFin := fin
    lastOpcode := op }

/-- The data events of a receive. -/
def dataOutputs (errorType : ErrorType) (ds : List EventData) : List Output :=
  ds.map fun d => Output.event .data d errorType

/-- How a receive ends tells the data events apart: only the last one of a
whole frame completes it. If that was the only read of the frame, the
receive buffer starts with what it read. -/
def EndsFrame (rx : Bytes) (len : Nat) (op : Option UInt8)
    (ds : List EventData) : Prop :=
  ∃ ds' d, ds = ds' ++ [d] ∧ d.opCode = op.getD 0 ∧ d.Completes
    ∧ d.payloadLen = len ∧ (d.payloadOffset = 0 → rx.take len = d.data.take len)
    ∧ ∀ d' ∈ ds', ¬ d'.Completes

/-- A read that fails leaves an error, and nothing of the frame. -/
theorem recvLoop_failed (c : EspWebsocketClient) :
    (RecvEnd.failed, c.error) = (.failed, if RecvEnd.failed = .failed
      then ((c.framed c.rxBuffer c.payloadLen c.payloadOffset c.lastFin
        c.lastOpcode).logs (dataOutputs c.errorType [])).error
      else (c.framed c.rxBuffer c.payloadLen c.payloadOffset c.lastFin
        c.lastOpcode).logs (dataOutputs c.errorType [])) := by
  rw [if_pos rfl, dataOutputs, List.map_nil, logs_nil]
  rfl

/-- What the loop of a receive leaves: the fields of the frame, an event
for each read, and an error if a read failed. -/
theorem recvLoop_spec (c : EspWebsocketClient) (reads : List Read) :
    ∃ stop rx len off fin op ds,
      c.recvLoop reads
        = (stop, if stop = .failed
            then ((c.framed rx len off fin op).logs
              (dataOutputs c.errorType ds)).error
            else (c.framed rx len off fin op).logs
              (dataOutputs c.errorType ds))
      ∧ (if stop = .frame then EndsFrame rx len op ds
        else ∀ d ∈ ds, ¬ d.Completes) := by
  induction reads generalizing c with
  | nil => exact ⟨.failed, _, _, _, _, _, [], recvLoop_failed c, by simp⟩
  | cons r reads ih =>
      cases r with
      | failed =>
          exact ⟨.failed, _, _, _, _, _, [], recvLoop_failed c, by simp⟩
      | read data len fin op =>
          let rx := data ++ c.rxBuffer.drop data.length
          let c₁ := c.framed rx len c.payloadOffset fin op
          by_cases htimeout : data.length = 0 ∧ op = none
          · refine ⟨.timeout, rx, len, c.payloadOffset, fin, op, [], ?_,
              by simp⟩
            rw [recvLoop, if_pos htimeout, dataOutputs, List.map_nil, logs_nil]
            rfl
          · let d := c₁.eventData data
            let c₂ := (c.framed rx len (c.payloadOffset + data.length) fin
              op).logs [.event .data d c.errorType]
            by_cases hmore : c.payloadOffset + data.length < len
            · have hloop : c.recvLoop (.read data len fin op :: reads)
                  = c₂.recvLoop reads := by
                rw [recvLoop, if_neg htimeout]
                exact if_pos hmore
              obtain ⟨stop, rx', len', off', fin', op', ds, hc, hends⟩ := ih c₂
              have hlogs : (c₂.framed rx' len' off' fin' op').logs
                  (dataOutputs c₂.errorType ds)
                    = (c.framed rx' len' off' fin' op').logs
                      (dataOutputs c.errorType (d :: ds)) :=
                logs_logs (c.framed rx' len' off' fin' op') _ _
              refine ⟨stop, rx', len', off', fin', op', d :: ds, ?_, ?_⟩
              · rw [hloop, hc, hlogs]
              · have hd : ¬ d.Completes := Nat.not_le.mpr hmore
                split
                · next hstop =>
                  rw [if_pos hstop] at hends
                  obtain ⟨ds', d₁, rfl, hop, hdone, hlen, hrx, hds'⟩ := hends
                  exact ⟨d :: ds', d₁, rfl, hop, hdone, hlen, hrx,
                    List.forall_mem_cons.mpr ⟨hd, hds'⟩⟩
                · next hstop =>
                  rw [if_neg hstop] at hends
                  exact List.forall_mem_cons.mpr ⟨hd, hends⟩
            · refine ⟨.frame, rx, len, c.payloadOffset + data.length, fin, op,
                [d], ?_, [], d, rfl, rfl, Nat.not_lt.mp hmore, rfl, ?_, by simp⟩
              · rw [recvLoop, if_neg htimeout]
                exact if_neg hmore
              · -- the one read of the frame is at the start of the buffer
                intro hoff
                have hlen : len ≤ data.length := by
                  have hzero : c.payloadOffset = 0 := hoff
                  omega
                exact List.take_append_of_le_length hlen

/-- What a receive leaves, and whether it returns `ESP_OK`. -/
theorem recv_spec (c : EspWebsocketClient) (reads : List Read) :
    ∃ rx len off fin op ds,
      let c' := (c.framed rx len off fin op).logs (dataOutputs c.errorType ds)
      (c.recv reads = (false, c'.error) ∧ ∀ d ∈ ds, ¬ d.Completes)
      ∨ (c.recv reads = (true, c') ∧ ∀ d ∈ ds, ¬ d.Completes)
      ∨ (c.recv reads = (true, c'.afterFrame) ∧ EndsFrame rx len op ds) := by
  obtain ⟨stop, rx, len, off, fin, op, ds, hc, hends⟩ :=
    recvLoop_spec { c with payloadOffset := 0 } reads
  refine ⟨rx, len, off, fin, op, ds, ?_⟩
  cases stop with
  | failed =>
      refine Or.inl ⟨?_, hends⟩
      rw [recv, hc]
      rfl
  | timeout =>
      refine Or.inr (Or.inl ⟨?_, hends⟩)
      rw [recv, hc]
      rfl
  | frame =>
      refine Or.inr (Or.inr ⟨?_, hends⟩)
      rw [recv, hc]
      rfl

/-- What follows a whole frame. -/
theorem afterFrame_cases (c : EspWebsocketClient) :
    (c.lastOpcode = some Opcode.ping.code ∧ c.afterFrame
      = c.logs [.control (Opcode.pong.code ||| finBit)
        (c.rxBuffer.take c.payloadLen)])
    ∨ (c.lastOpcode = some Opcode.pong.code
      ∧ c.afterFrame = { c with waitForPongResp := false })
    ∨ (c.lastOpcode = some Opcode.close.code
      ∧ c.afterFrame = { c with state := .closing })
    ∨ (c.lastOpcode ≠ some Opcode.pong.code ∧ c.afterFrame = c) := by
  unfold afterFrame
  by_cases hping : c.lastOpcode = some Opcode.ping.code
  · rw [if_pos hping]
    exact Or.inl ⟨hping, rfl⟩
  · rw [if_neg hping]
    by_cases hpong : c.lastOpcode = some Opcode.pong.code
    · rw [if_pos hpong]
      exact Or.inr (Or.inl ⟨hpong, rfl⟩)
    · rw [if_neg hpong]
      by_cases hclose : c.lastOpcode = some Opcode.close.code
      · rw [if_pos hclose]
        exact Or.inr (Or.inr (Or.inl ⟨hclose, rfl⟩))
      · rw [if_neg hclose]
        exact Or.inr (Or.inr (Or.inr ⟨hpong, rfl⟩))

-- ================================================================ states

/-- The client was started and has not ended. -/
def Started (c : EspWebsocketClient) : Prop :=
  c.state ≠ .error ∧ c.state ≠ .unknow

/-- The connection is given up, and made again after the timeout. -/
def waiting (clock : Clock) (errorType : ErrorType) (c : EspWebsocketClient) :
    EspWebsocketClient :=
  { c.ticked with
    reconnectTickMs := c.now clock
    errorType := errorType
    state := .waitTimeout }.dispatchEvent .disconnected []

/-- The connection is given up for good. -/
def lost (c : EspWebsocketClient) : EspWebsocketClient :=
  { c with run := false, state := .unknow }.dispatchEvent .disconnected []

/-- How a connection is given up: not by a client that is not started. -/
theorem abort_cases (clock : Clock) (c : EspWebsocketClient)
    (errorType : ErrorType) :
    (¬ c.Started ∧ c.abortConnection clock errorType = c)
    ∨ (c.Started ∧ c.config.autoReconnect = true
      ∧ c.abortConnection clock errorType = c.waiting clock errorType)
    ∨ (c.Started ∧ c.config.autoReconnect = false
      ∧ c.abortConnection clock errorType = c.lost) := by
  have hlt : c.state.toInt < ClientState.init.toInt ↔ ¬ c.Started := by
    unfold Started
    cases c.state <;> decide
  by_cases hstart : c.Started
  · have hge := fun h => hlt.mp h hstart
    unfold abortConnection
    rw [if_neg hge]
    cases hauto : c.config.autoReconnect with
    | true => exact Or.inr (Or.inl ⟨hstart, rfl, rfl⟩)
    | false => exact Or.inr (Or.inr ⟨hstart, rfl, rfl⟩)
  · exact Or.inl ⟨hstart, if_pos (hlt.mpr hstart)⟩

/-- A connection that is given up is not up. -/
theorem abort_not_connected (clock : Clock) (c : EspWebsocketClient)
    (errorType : ErrorType) :
    (c.abortConnection clock errorType).state ≠ .connected := by
  rcases abort_cases clock c errorType with
    ⟨hno, heq⟩ | ⟨-, -, heq⟩ | ⟨-, -, heq⟩
  · rw [heq]
    intro hconn
    exact hno ⟨by rw [hconn]; decide, by rw [hconn]; decide⟩
  · rw [heq]
    exact nofun
  · rw [heq]
    exact nofun

/-- All it posts is that the connection is down. -/
theorem abort_log (clock : Clock) (c : EspWebsocketClient)
    (errorType : ErrorType) :
    ∃ es, (c.abortConnection clock errorType).log = c.log ++ es
      ∧ ∀ e ∈ es, ∃ ticks d errorType,
          e = ⟨ticks, .event .disconnected d errorType⟩ := by
  rcases abort_cases clock c errorType with
    ⟨-, heq⟩ | ⟨-, -, heq⟩ | ⟨-, -, heq⟩
  · rw [heq]
    exact ⟨[], (List.append_nil _).symm, by simp⟩
  · rw [heq]
    refine ⟨_, rfl, fun e he => ?_⟩
    rw [List.mem_singleton.mp he]
    exact ⟨_, _, _, rfl⟩
  · rw [heq]
    refine ⟨_, rfl, fun e he => ?_⟩
    rw [List.mem_singleton.mp he]
    exact ⟨_, _, _, rfl⟩

-- ================================================================= moves

/-- What may be logged while no field changes: an error, and by a caller
the frame of a send or its result. -/
def Aside (caller : Bool) : Output → Prop
  | .event id _ _ => id = .error
  | .write _ => caller = true
  | .control _ _ => False
  | .returned _ _ => caller = true

theorem Aside.weaken {caller : Bool} {o : Output} (h : Aside caller o) :
    Aside true o := by
  cases o with
  | event id d errorType => exact h
  | control opcode payload => exact h
  | write w => rfl
  | returned m ret => rfl

/-- The connection was heard of. -/
def touched (clock : Clock) (c : EspWebsocketClient) : EspWebsocketClient :=
  { c.ticked with pingTickMs := c.now clock }

/-- A ping was sent. -/
def pinged (clock : Clock) (c : EspWebsocketClient) : EspWebsocketClient :=
  { c with
    ticks := c.ticks + 2
    pingTickMs := clock.read (c.ticks + 1)
    }.logs [.control (Opcode.ping.code ||| finBit) []]

/-- A pong is waited for from now on. -/
def awaiting (clock : Clock) (c : EspWebsocketClient) : EspWebsocketClient :=
  { c.ticked with pingpongTickMs := c.now clock, waitForPongResp := true }

/-- A connection was made. -/
def opened (c : EspWebsocketClient) : EspWebsocketClient :=
  { c.dispatchEvent .beforeConnect [] with
    state := .connected
    waitForPongResp := false
    errorType := .none }.dispatchEvent .connected []

/-- The reconnect timeout has passed. -/
def retried (clock : Clock) (c : EspWebsocketClient) : EspWebsocketClient :=
  { c with
    ticks := c.ticks + 2
    state := .init
    reconnectTickMs := clock.read (c.ticks + 1) }

/-- A close frame was answered. -/
def echoed (c : EspWebsocketClient) : EspWebsocketClient :=
  { c.logs [.control (Opcode.close.code ||| finBit) []] with
    closeFrameSent := true }

/-- What happens to the client under the lock, piece by piece: every
routine of the task is a sequence of these, and every send of a caller. -/
inductive Move (clock : Clock) (caller : Bool) (c : EspWebsocketClient) :
    EspWebsocketClient → Prop
  | reading (hstate : c.state = .connected ∨ (c.state = .waitTimeout
      ∧ c.now clock ≤ c.reconnectTickMs + c.config.waitMs)) :
      Move clock caller c c.ticked
  | touches (hstate : c.state = .connected) :
      Move clock caller c (c.touched clock)
  | asides {o : Output} (haside : Aside caller o) :
      Move clock caller c (c.logs [o])
  | aborts : Move clock caller c (c.abortConnection clock .tcpTransport)
  | opens (hstate : c.state = .init) : Move clock caller c c.opened
  | misses (hstate : c.state = .init) : Move clock caller c
      ((c.dispatchEvent .beforeConnect []).error.abortConnection clock
        .tcpTransport)
  | pings (hstate : c.state = .connected) (hclose : c.closeFrameSent = false)
      (hdue : c.config.pingMs < c.now clock - c.pingTickMs)
      (hawaits : c.waitForPongResp = true ∨ c.config.pingpongTimeoutSec = 0) :
      Move clock caller c (c.pinged clock)
  | awaits (hstate : c.state = .connected) (hclose : c.closeFrameSent = false)
      (hdue : c.config.pingMs < c.now clock - c.pingTickMs)
      (hawaits : c.waitForPongResp = false) :
      Move clock caller c ((c.pinged clock).awaiting clock)
  | overdue (hstate : c.state = .connected) (hclose : c.closeFrameSent = false)
      (hdue : c.config.pongMs < c.now clock - c.pingpongTickMs)
      (hawaits : c.waitForPongResp = true) :
      Move clock caller c (c.ticked.error.abortConnection clock .pongTimeout)
  | reads (hstate : c.state = .connected) (rx : Bytes) (len off : Nat)
      (fin : Bool) (op : Option UInt8) {ds : List EventData}
      (hds : ∀ d ∈ ds, ¬ d.Completes) : Move clock caller c
        ((c.framed rx len off fin op).logs (dataOutputs c.errorType ds))
  | frames (hstate : c.state = .connected) (rx : Bytes) (len off : Nat)
      (fin : Bool) (op : Option UInt8) {ds : List EventData}
      (hends : EndsFrame rx len op ds) : Move clock caller c
        ((c.framed rx len off fin op).logs
          (dataOutputs c.errorType ds)).afterFrame
  | retries (hstate : c.state = .waitTimeout)
      (hdue : c.config.waitMs < c.now clock - c.reconnectTickMs) :
      Move clock caller c (c.retried clock)
  | echoes (hstate : c.state = .closing) (hclose : c.closeFrameSent = false) :
      Move clock caller c c.echoed

/-- A sequence of them. -/
abbrev Moves (clock : Clock) (caller : Bool) :
    EspWebsocketClient → EspWebsocketClient → Prop :=
  Relation.ReflTransGen (Move clock caller)

/-- A sequence of them that does not start in the initial state, and so
makes no attempt to connect. -/
abbrev Steady (clock : Clock) (caller : Bool) :
    EspWebsocketClient → EspWebsocketClient → Prop :=
  Relation.ReflTransGen fun c c' => Move clock caller c c' ∧ c.state ≠ .init

section

variable {clock : Clock} {caller : Bool} {c : EspWebsocketClient}

theorem Move.error : Move clock caller c c.error := .asides rfl

theorem Steady.moves {c' : EspWebsocketClient}
    (h : Steady clock caller c c') : Moves clock caller c c' := by
  induction h with
  | refl => exact .refl
  | tail _ hmove ih => exact ih.tail hmove.1

theorem switchInit_moves (hstate : c.state = .init) (connect : Int) :
    Moves clock caller c (c.switchInit clock connect) := by
  unfold switchInit
  split
  · exact .single (.misses hstate)
  · exact .single (.opens hstate)

/-- `sendPing`, by what it leaves. -/
theorem sendPing_eq (clock : Clock) (c : EspWebsocketClient) :
    c.sendPing clock =
      if c.now clock - c.pingTickMs > c.config.pingMs then
        if !c.waitForPongResp && decide (c.config.pingpongTimeoutSec ≠ 0) then
          (c.pinged clock).awaiting clock
        else c.pinged clock
      else c.ticked :=
  rfl

theorem sendPing_steady (hstate : c.state = .connected)
    (hclose : c.closeFrameSent = false) :
    Steady clock caller c (c.sendPing clock) := by
  have hinit : c.state ≠ .init := by
    rw [hstate]
    decide
  rw [sendPing_eq]
  split
  · next hdue =>
    split
    · next hawaits =>
      rw [Bool.and_eq_true, Bool.not_eq_true'] at hawaits
      exact .single ⟨.awaits hstate hclose hdue hawaits.1, hinit⟩
    · next hno =>
      refine .single ⟨.pings hstate hclose hdue ?_, hinit⟩
      by_cases hwait : c.waitForPongResp = true
      · exact Or.inl hwait
      · refine Or.inr (Decidable.of_not_not fun hsec => hno ?_)
        simp [hwait, hsec]
  · exact .single ⟨.reading (Or.inl hstate), hinit⟩

/-- A ping leaves the client connected. -/
theorem sendPing_state (clock : Clock) (c : EspWebsocketClient) :
    (c.sendPing clock).state = c.state
      ∧ (c.sendPing clock).closeFrameSent = c.closeFrameSent := by
  rw [sendPing_eq]
  split
  · split <;> exact ⟨rfl, rfl⟩
  · exact ⟨rfl, rfl⟩

theorem checkPong_steady (hstate : c.state = .connected)
    (hclose : c.closeFrameSent = false) :
    Steady clock caller c (c.checkPong clock).2 := by
  have hinit : c.state ≠ .init := by
    rw [hstate]
    decide
  unfold checkPong
  split
  · next hdue => exact .single ⟨.overdue hstate hclose hdue.1 hdue.2, hinit⟩
  · exact .single ⟨.reading (Or.inl hstate), hinit⟩

/-- The connection is kept unless the pong is overdue. -/
theorem checkPong_state (h : (c.checkPong clock).1 = false) :
    (c.checkPong clock).2 = c.ticked := by
  unfold checkPong at h ⊢
  split
  · next hdue =>
    rw [if_pos hdue] at h
    cases h
  · rfl

theorem recv_steady (hstate : c.state = .connected) (reads : List Read) :
    Steady clock caller c (match c.recv reads with
      | (false, c) => c.abortConnection clock .tcpTransport
      | (true, c) => c) := by
  have hinit : c.state ≠ .init := by
    rw [hstate]
    decide
  obtain ⟨rx, len, off, fin, op, ds, hrecv⟩ := recv_spec c reads
  rcases hrecv with ⟨hrecv, hds⟩ | ⟨hrecv, hds⟩ | ⟨hrecv, hends⟩
  · rw [hrecv]
    exact ((Relation.ReflTransGen.single ⟨.reads hstate rx len off fin op
      hds, hinit⟩).tail ⟨.error, hinit⟩).tail ⟨.aborts, hinit⟩
  · rw [hrecv]
    exact .single ⟨.reads hstate rx len off fin op hds, hinit⟩
  · rw [hrecv]
    exact .single ⟨.frames hstate rx len off fin op hends, hinit⟩

/-- A pass through the `switch` of a client that is connected. -/
theorem switchConnected_steady (hstate : c.state = .connected)
    (readSelect : Int) (reads : List Read) :
    Steady clock caller c (c.switchConnected clock readSelect reads) := by
  have hread : ∀ {c : EspWebsocketClient}, c.state = .connected →
      Steady clock caller c (if readSelect = 0 then c
        else match (c.touched clock).recv reads with
          | (false, c) => c.abortConnection clock .tcpTransport
          | (true, c) => c) := by
    intro c hstate
    split
    · exact .refl
    · exact .head ⟨.touches hstate, by rw [hstate]; decide⟩
        (recv_steady (c := c.touched clock) hstate reads)
  unfold switchConnected
  cases hclose : c.closeFrameSent with
  | true => exact hread hstate
  | false =>
      have hping : Steady clock caller c (c.sendPing clock) :=
        sendPing_steady hstate hclose
      obtain ⟨hstate', hclose'⟩ := sendPing_state clock c
      have hpong : Steady clock caller (c.sendPing clock)
          ((c.sendPing clock).checkPong clock).2 :=
        checkPong_steady (hstate'.trans hstate) (hclose'.trans hclose)
      simp only [Bool.not_false, if_true]
      cases hover : ((c.sendPing clock).checkPong clock).1 with
      | true => exact hping.trans hpong
      | false =>
          refine (hping.trans hpong).trans (hread ?_)
          rw [checkPong_state hover]
          exact hstate'.trans hstate

theorem switchWaitTimeout_steady (hstate : c.state = .waitTimeout) :
    Steady clock caller c (c.switchWaitTimeout clock) := by
  have hinit : c.state ≠ .init := by
    rw [hstate]
    decide
  unfold switchWaitTimeout
  split
  · next hdue => exact .single ⟨.retries hstate hdue, hinit⟩
  · next hnot =>
    exact .single ⟨.reading (Or.inr ⟨hstate, by omega⟩), hinit⟩

theorem switchClosing_steady (hstate : c.state = .closing) :
    Steady clock caller c c.switchClosing := by
  have hinit : c.state ≠ .init := by
    rw [hstate]
    decide
  unfold switchClosing
  cases hclose : c.closeFrameSent with
  | true => exact .refl
  | false => exact .single ⟨.echoes hstate hclose, hinit⟩

/-- A pass through the `switch` of a client that is not about to
connect. -/
theorem switchState_steady (clock : Clock) (hinit : c.state ≠ .init)
    (readSelect connect : Int) (reads : List Read) :
    Steady clock caller c (c.switchState clock readSelect connect reads) := by
  unfold switchState
  cases hstate : c.state with
  | init => exact absurd hstate hinit
  | connected => exact switchConnected_steady hstate readSelect reads
  | waitTimeout => exact switchWaitTimeout_steady hstate
  | closing => exact switchClosing_steady hstate
  | error => exact .refl
  | unknow => exact .refl

/-- A pass through the `switch`. -/
theorem switchState_moves (clock : Clock) (c : EspWebsocketClient)
    (readSelect connect : Int) (reads : List Read) :
    Moves clock caller c (c.switchState clock readSelect connect reads) := by
  by_cases hinit : c.state = .init
  · unfold switchState
    rw [hinit]
    exact switchInit_moves hinit connect
  · exact (switchState_steady clock hinit readSelect connect reads).moves

/-- Several such outputs. -/
theorem asides_moves (c : EspWebsocketClient) (os : List Output)
    (haside : ∀ o ∈ os, Aside caller o) : Moves clock caller c (c.logs os) := by
  induction os generalizing c with
  | nil =>
      rw [logs_nil]
  | cons o os ih =>
      have hsplit : c.logs (o :: os) = (c.logs [o]).logs os :=
        (logs_logs c [o] os).symm
      rw [hsplit]
      exact .head (.asides (haside o (List.mem_cons_self ..)))
        (ih (c.logs [o]) fun o ho => haside o (List.mem_cons_of_mem _ ho))

/-- A send, and the result it returns. -/
theorem sendLocked_moves (clock : Clock) (c : EspWebsocketClient)
    (opcode : UInt8) (data : Bytes) (answers : List Int) :
    Moves clock true c (c.sendLocked clock opcode data answers).2 := by
  unfold sendLocked
  simp only
  generalize sendLoop _ _ _ _ _ _ = r
  have hwrites : Moves clock true c (c.logs (r.writes.map Output.write)) := by
    refine asides_moves c _ fun o ho => ?_
    obtain ⟨w, -, rfl⟩ := List.mem_map.mp ho
    rfl
  split
  · exact (hwrites.tail .error).tail .aborts
  · exact hwrites

end

-- ============================================================= the steps

/-- The task has begun. -/
def begun (c : EspWebsocketClient) : EspWebsocketClient :=
  { c with run := true, state := .init, closeFrameSent := false
    }.dispatchEvent .begin []

/-- The server has closed the connection. -/
def closed (c : EspWebsocketClient) : EspWebsocketClient :=
  { c with run := false, state := .unknow }.dispatchEvent .closed []

/-- The task is about to be deleted. -/
def finished (c : EspWebsocketClient) : EspWebsocketClient :=
  { c.dispatchEvent .finish [] with state := .unknow }

end EspWebsocketClient

namespace ClientTask

open EspWebsocketClient Transition

/-- Where the loop of the task may go from `pc`. -/
structure Goes (c : EspWebsocketClient) (pc pc' : TaskPc) : Prop where
  running : pc ≠ .created ∧ pc ≠ .left ∧ pc ≠ .deleted
  still : pc' ≠ .created ∧ pc' ≠ .deleted
  left : pc' = .left → c.run = false
  closing : pc' = .closing → c.state = .closing
  polling : pc' = .polling → c.state = .connected

/-- What a step does. -/
inductive Does (clock : Clock) (t : ClientTask) : ClientTask → Prop
  | begins (hpc : t.pc = .created) : Does clock t
      { t with client := t.client.begun, pc := .loop, readSelect := 0 }
  | works {c : EspWebsocketClient} {pc : TaskPc} {readSelect : Int}
      (hmoves : Moves clock false t.client c) (hpc : Goes c t.pc pc)
      (hpoll : pc = .pollFailed → t.pc = .polling ∧ c.state = t.client.state) :
      Does clock t { t with client := c, pc := pc, readSelect := readSelect }
  | closes (hpc : t.pc = .closing) : Does clock t
      { t with client := t.client.closed, pc := .left }
  | finishes (hpc : t.pc = .left) : Does clock t
      { t with client := t.client.finished, pc := .deleted }
  | checks {m : Message} (hsender : t.sender = none)
      (hstate : t.client.state = .connected) : Does clock t
        { t with sender := some m }
  | refuses {m : Message} (hsender : t.sender = none)
      (hstate : t.client.state ≠ .connected) : Does clock t
        { t with client := t.client.logs [.returned m (-1)] }
  | givesUp {m : Message} (hsender : t.sender = some m) : Does clock t
      { t with client := t.client.logs [.returned m (-1)], sender := none }
  | sends {m : Message} (answers : List Int) (hsender : t.sender = some m) :
      Does clock t
        { t with
          client := (t.client.sendMessage clock m answers).2.logs
            [.returned m (t.client.sendMessage clock m answers).1]
          sender := none }

variable {clock : Clock} {config : ClientConfig} {t t' : ClientTask}

/-- Behind the switch only the task moves. -/
theorem select_client (t : ClientTask) :
    t.select.client = t.client ∧ t.select.sender = t.sender := by
  unfold select
  split
  · exact ⟨rfl, rfl⟩
  · split <;> exact ⟨rfl, rfl⟩
  · exact ⟨rfl, rfl⟩

/-- Behind the switch. -/
theorem select_does (hpc : t.pc = .switched) : Does clock t t.select := by
  have hrun : t.pc ≠ .created ∧ t.pc ≠ .left ∧ t.pc ≠ .deleted := by
    rw [hpc]
    decide
  have hloop : Does clock t { t with pc := .loop } :=
    .works .refl ⟨hrun, by decide, nofun, nofun, nofun⟩ nofun
  unfold select
  cases hstate : t.client.state with
  | connected =>
      exact .works .refl ⟨hrun, by decide, nofun, nofun, fun _ => hstate⟩ nofun
  | closing =>
      simp only
      split
      · exact .works .refl ⟨hrun, by decide, nofun, fun _ => hstate, nofun⟩
          nofun
      · exact hloop
  | _ => exact hloop

/-- A step that is taken. -/
theorem step_does {e : TaskStep} (h : step clock t e = some t') :
    Does clock t t' := by
  cases e with
  | begin =>
      simp only [step] at h
      split at h <;> cases h
      next hpc => exact .begins hpc
  | loop =>
      simp only [step] at h
      split at h <;> cases h
      next hpc =>
      refine .works .refl ⟨by rw [hpc]; decide, ?_, ?_, ?_, ?_⟩ ?_
      all_goals cases hrun : t.client.run <;> simp
  | switch connect reads =>
      simp only [step] at h
      split at h <;> cases h
      next hpc =>
      exact .works (switchState_moves ..)
        ⟨by rw [hpc]; decide, by decide, nofun, nofun, nofun⟩ nofun
  | select =>
      simp only [step] at h
      split at h <;> cases h
      next hpc => exact select_does hpc
  | polled result =>
      simp only [step] at h
      split at h <;> cases h
      next hpc =>
      split
      · exact .works (.single .error)
          ⟨by rw [hpc]; decide, by decide, nofun, nofun, nofun⟩
          fun _ => ⟨hpc, rfl⟩
      · exact .works .refl
          ⟨by rw [hpc]; decide, by decide, nofun, nofun, nofun⟩ nofun
  | pollAborts =>
      simp only [step] at h
      split at h <;> cases h
      next hpc =>
      exact .works (.single .aborts)
        ⟨by rw [hpc]; decide, by decide, nofun, nofun, nofun⟩ nofun
  | closed =>
      simp only [step] at h
      split at h <;> cases h
      next hpc => exact .closes hpc
  | finish =>
      simp only [step] at h
      split at h <;> cases h
      next hpc => exact .finishes hpc
  | check m =>
      simp only [step] at h
      split at h <;> cases h
      next hsender =>
      split
      · next hconn => exact .checks hsender (of_decide_eq_true hconn)
      · next hconn =>
        exact .refuses hsender fun hstate => hconn (decide_eq_true hstate)
  | lockTimeout =>
      obtain ⟨m, hsender, rfl⟩ := Option.map_eq_some_iff.mp h
      exact .givesUp hsender
  | send answers =>
      obtain ⟨m, hsender, rfl⟩ := Option.map_eq_some_iff.mp h
      exact .sends answers hsender

/-- What holds of the place of the task and the client: at the start, when
the task begins, ends and finishes, and after every move. -/
theorem reachable_rule {P : TaskPc → EspWebsocketClient → Prop}
    (hstart : ∀ rxBuffer, P .created (.init clock config rxBuffer))
    (hbegin : ∀ c, P .created c → P .loop c.begun)
    (hclosed : ∀ c, P .closing c → P .left c.closed)
    (hfinish : ∀ c, P .left c → P .deleted c.finished)
    (hmove : ∀ caller pc c c', P pc c → Move clock caller c c' → P pc c')
    (hgoes : ∀ pc pc' c, P pc c → Goes c pc pc' → P pc' c)
    (h : Reachable clock config t) : P t.pc t.client := by
  refine System.reachableBy_induction (P := fun t => P t.pc t.client)
    (fun t hinit => ?_) (fun t e t' ht _ hstep => ?_) h
  · obtain ⟨rxBuffer, rfl⟩ := hinit
    exact hstart rxBuffer
  · have hmoves : ∀ {caller c'}, Moves clock caller t.client c' →
        P t.pc c' := by
      intro caller c' hc
      induction hc with
      | refl => exact ht
      | tail _ hlast ih => exact hmove _ _ _ _ ih hlast
    cases step_does hstep with
    | begins hpc =>
        rw [hpc] at ht
        exact hbegin _ ht
    | works hc hpc _ => exact hgoes _ _ _ (hmoves hc) hpc
    | closes hpc =>
        rw [hpc] at ht
        exact hclosed _ ht
    | finishes hpc =>
        rw [hpc] at ht
        exact hfinish _ ht
    | checks _ _ => exact ht
    | refuses _ _ => exact hmove true _ _ _ ht (.asides rfl)
    | givesUp _ => exact hmove true _ _ _ ht (.asides rfl)
    | sends answers _ =>
        exact hmove true _ _ _ (hmoves (sendLocked_moves ..)) (.asides rfl)

end ClientTask

end WledDial
