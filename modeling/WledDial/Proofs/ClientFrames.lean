/-
The task of the client against the frames of WebsocketClient.lean.

# One frame

There a frame is given by the reads of its payload, and its data events by
the loop on offsets (`Frame.recv`). Here the client's own loop gets the
same reads from the transport: it posts those events and no others, and
takes the frame as whole (`recv_frame`).

# A run

A run reads when it comes to it: between two frames callers send, pings
fall due, connections are lost and made again. Whatever else it does posts
no data and sends no pong (`Idles`), so the data events of a run are those
of the frames it was given, in their order (`frames_arrive`).
-/
import Mathlib.Data.List.ReduceOption
import WledDial.Proofs.ClientEvents

namespace WledDial

/-- The answer of the transport to the read that gets `data`. -/
def Frame.answer (f : Frame) (data : Bytes) : Read :=
  .read data f.payload.length f.fin (some f.opCode.code)

/-- The answers that deliver the frame. -/
def Frame.answers (f : Frame) : List Read := f.reads.map f.answer

/-- The data event that an entry logs. -/
def Entry.data? (e : Entry) : Option EventData :=
  match e.output with
  | .event .data d _ => some d
  | _ => none

/-- What a pong that an entry logs carries. -/
def Entry.pong? (e : Entry) : Option Bytes :=
  match e.output with
  | .control opcode payload =>
      if opcode = Opcode.pong.code ||| finBit then some payload else none
  | _ => none

namespace EspWebsocketClient

/-- The fields of a frame that was read whole. -/
def received (c : EspWebsocketClient) (rx : Bytes) (f : Frame) :
    EspWebsocketClient :=
  c.framed rx f.payload.length f.payload.length f.fin (some f.opCode.code)

/-- The loop, from an offset on: the receive buffer keeps the last read at
its start. -/
theorem recvLoop_frame (f : Frame) {reads : List Bytes}
    (c : EspWebsocketClient)
    (hlen : c.payloadOffset + reads.flatten.length = f.payload.length)
    (hreads : reads ≠ []) (hfull : reads.length = 1 ∨ ∀ r ∈ reads, r ≠ []) :
    ∃ rx, c.recvLoop (reads.map f.answer)
        = (.frame, (c.received rx f).logs (dataOutputs c.errorType
          (f.recvLoop c.payloadOffset reads)))
      ∧ ∀ r, reads.getLast? = some r → r <+: rx := by
  induction reads generalizing c with
  | nil => exact absurd rfl hreads
  | cons r rs ih =>
      have hrest : c.payloadOffset + r.length + rs.flatten.length
          = f.payload.length := by
        rw [← hlen, List.flatten_cons, List.length_append]
        omega
      let c₂ := (c.framed (r ++ c.rxBuffer.drop r.length) f.payload.length
        (c.payloadOffset + r.length) f.fin (some f.opCode.code)).logs
          [.event .data (f.dataEvent c.payloadOffset r) c.errorType]
      have hloop : c.recvLoop ((r :: rs).map f.answer)
          = if c.payloadOffset + r.length < f.payload.length then
              c₂.recvLoop (rs.map f.answer)
            else (.frame, c₂) := by
        rw [List.map_cons, Frame.answer, recvLoop, if_neg (by simp)]
        rfl
      cases rs with
      | nil =>
          have hend : c.payloadOffset + r.length = f.payload.length := hrest
          refine ⟨r ++ c.rxBuffer.drop r.length, ?_, fun r' hr' => ?_⟩
          · rw [hloop, if_neg (by omega), Frame.recvLoop, if_neg (by omega)]
            show (RecvEnd.frame, (c.framed _ _ (c.payloadOffset + r.length) _
              _).logs _) = _
            rw [hend]
            rfl
          · cases hr'
            exact List.prefix_append ..
      | cons r' rs =>
          have hne : ∀ x ∈ r :: r' :: rs, x ≠ [] :=
            hfull.resolve_left (by simp)
          have hpos : 0 < r'.length :=
            List.length_pos_iff.mpr (hne r' (by simp))
          have hmore : c.payloadOffset + r.length < f.payload.length := by
            rw [List.flatten_cons, List.length_append] at hrest
            omega
          obtain ⟨rx, hrx, hlast⟩ := ih c₂ hrest (by simp)
            (Or.inr fun x hx => hne x (List.mem_cons_of_mem _ hx))
          have hevents : f.recvLoop c.payloadOffset (r :: r' :: rs)
              = f.dataEvent c.payloadOffset r
                :: f.recvLoop (c.payloadOffset + r.length) (r' :: rs) := by
            rw [Frame.recvLoop, if_pos hmore]
          refine ⟨rx, ?_, hlast⟩
          rw [hloop, if_pos hmore, hrx, hevents]
          exact congrArg (Prod.mk RecvEnd.frame)
            (logs_logs (c.received rx f) _ _)

/-- The receive of a frame: its events, and what follows a whole frame. -/
theorem recv_frame (c : EspWebsocketClient) (f : Frame) :
    ∃ rx, c.recv f.answers = (true, ((c.received rx f).logs
        (dataOutputs c.errorType f.recv)).afterFrame)
      ∧ ∀ r, f.reads.getLast? = some r → r <+: rx := by
  obtain ⟨rx, hloop, hlast⟩ := recvLoop_frame f { c with payloadOffset := 0 }
    (Nat.zero_add _) f.reads_ne f.reads_full
  refine ⟨rx, ?_, hlast⟩
  unfold recv Frame.answers
  rw [hloop]
  rfl

/-- The pong that a frame asks for. -/
def pongOf (f : Frame) : List Bytes :=
  if f.opCode = .ping then [f.payload] else []

/-- What the entries have of the frames: their data events and, if pings
were read at once, a pong for each of these, with what it carried. -/
structure Brings (fs : List Frame) (es : List Entry) : Prop where
  data : es.filterMap Entry.data? = fs.flatMap Frame.recv
  pongs : (∀ f ∈ fs, f.opCode = .ping → f.reads.length = 1) →
    es.filterMap Entry.pong? = fs.flatMap pongOf

theorem Brings.append {fs fs' : List Frame} {es es' : List Entry}
    (h : Brings fs es) (h' : Brings fs' es') :
    Brings (fs ++ fs') (es ++ es') := by
  refine ⟨?_, fun hone => ?_⟩
  · rw [List.filterMap_append, h.data, h'.data, List.flatMap_append]
  · rw [List.filterMap_append,
      h.pongs fun f hf => hone f (List.mem_append_left _ hf),
      h'.pongs fun f hf => hone f (List.mem_append_right _ hf),
      List.flatMap_append]

/-- From the one client to the other the frames were received, and no
others. -/
def Took (c : EspWebsocketClient) (fs : List Frame) (c' : EspWebsocketClient) :
    Prop :=
  ∃ es, c'.log = c.log ++ es ∧ Brings fs es

theorem Took.trans {c c₁ c' : EspWebsocketClient} {fs fs' : List Frame}
    (h : Took c fs c₁) (h' : Took c₁ fs' c') : Took c (fs ++ fs') c' := by
  obtain ⟨es, hlog, hes⟩ := h
  obtain ⟨es', hlog', hes'⟩ := h'
  exact ⟨es ++ es', by rw [hlog', hlog, List.append_assoc], hes.append hes'⟩

/-- The loop of the receive, and what follows a whole frame: a ping that is
read at once is answered with what it carried, whatever was in the receive
buffer. -/
theorem afterFrame_took (c : EspWebsocketClient) {f : Frame}
    (hlast : ∀ r, f.reads.getLast? = some r → r <+: c.rxBuffer)
    (hc : c.lastOpcode = some f.opCode.code)
    (hlen : c.payloadLen = f.payload.length) :
    ∃ es, c.afterFrame.log = c.log ++ es ∧ es.filterMap Entry.data? = []
      ∧ ((f.opCode = .ping → f.reads.length = 1) →
        es.filterMap Entry.pong? = pongOf f) := by
  by_cases hping : f.opCode = .ping
  · refine ⟨[⟨c.ticks, .control (Opcode.pong.code ||| finBit)
      (c.rxBuffer.take c.payloadLen)⟩], ?_, rfl, fun hone => ?_⟩
    · unfold afterFrame
      rw [if_pos (by rw [hc, hping])]
      rfl
    · obtain ⟨r, hr⟩ := List.length_eq_one_iff.mp (hone hping)
      have hpayload : f.payload = r := by
        rw [Frame.payload, hr]
        exact List.append_nil r
      have htake : c.rxBuffer.take r.length = r :=
        (List.prefix_iff_eq_take.mp (hlast r (by rw [hr]; rfl))).symm
      rw [pongOf, if_pos hping, hlen, hpayload, htake]
      rfl
  · have hno : c.lastOpcode ≠ some Opcode.ping.code := by
      rw [hc]
      intro h
      apply hping
      revert h
      cases f.opCode <;> decide
    refine ⟨[], ?_, rfl, fun _ => by rw [pongOf, if_neg hping]; rfl⟩
    rw [List.append_nil]
    unfold afterFrame
    rw [if_neg hno]
    split
    · rfl
    · split <;> rfl

/-- The receive of a frame. -/
theorem recv_took (c : EspWebsocketClient) (f : Frame) :
    ∃ c', c.recv f.answers = (true, c') ∧ Took c [f] c' := by
  obtain ⟨rx, hrecv, hlast⟩ := recv_frame c f
  let events := (dataOutputs c.errorType f.recv).map (Entry.mk c.ticks)
  have hdata : events.filterMap Entry.data? = f.recv := by
    show ((f.recv.map _).map _).filterMap _ = _
    rw [List.map_map, List.filterMap_map]
    exact List.filterMap_some
  have hpong : events.filterMap Entry.pong? = [] := by
    show ((f.recv.map _).map _).filterMap _ = _
    rw [List.map_map, List.filterMap_map]
    exact List.filterMap_eq_nil_iff.mpr fun _ _ => rfl
  obtain ⟨es, hlog, hesdata, hespong⟩ := afterFrame_took
    ((c.received rx f).logs (dataOutputs c.errorType f.recv)) hlast rfl rfl
  refine ⟨_, hrecv, events ++ es, ?_, ?_, fun hone => ?_⟩
  · rw [hlog]
    exact List.append_assoc ..
  · rw [List.filterMap_append, hdata, hesdata, List.flatMap_singleton,
      List.append_nil]
  · rw [List.filterMap_append, hpong, List.flatMap_singleton]
    exact hespong (hone f (List.mem_singleton_self f))

-- ========================================================= all the rest

section

variable {clock : Clock} {c c₁ c' : EspWebsocketClient}

/-- From the one client to the other nothing was received. -/
abbrev Idles (c c' : EspWebsocketClient) : Prop := Took c [] c'

theorem Idles.outputs {es : List Entry} (hlog : c'.log = c.log ++ es)
    (hes : ∀ e ∈ es, e.data? = none ∧ e.pong? = none) : Idles c c' :=
  ⟨es, hlog, List.filterMap_eq_nil_iff.mpr fun e he => (hes e he).1,
    fun _ => List.filterMap_eq_nil_iff.mpr fun e he => (hes e he).2⟩

/-- One entry is logged. -/
theorem Idles.output {e : Entry} (hlog : c'.log = c.log ++ [e])
    (hdata : e.data? = none) (hpong : e.pong? = none) : Idles c c' := by
  refine Idles.outputs hlog fun x hx => ?_
  rw [List.mem_singleton.mp hx]
  exact ⟨hdata, hpong⟩

/-- Nothing is logged. -/
theorem Idles.silent (hlog : c'.log = c.log) : Idles c c' :=
  Idles.outputs (by rw [hlog, List.append_nil]) (by simp)

theorem Idles.abort (clock : Clock) (c : EspWebsocketClient)
    (errorType : ErrorType) : Idles c (c.abortConnection clock errorType) := by
  obtain ⟨es, hlog, hes⟩ := abort_log clock c errorType
  refine Idles.outputs hlog fun e he => ?_
  obtain ⟨ticks, d, errorType, rfl⟩ := hes e he
  exact ⟨rfl, rfl⟩

theorem Idles.error (c : EspWebsocketClient) : Idles c c.error :=
  Idles.output (e := ⟨c.ticks, .event .error _ _⟩) rfl rfl rfl

/-- An error, and the connection is given up. -/
theorem Idles.fails (clock : Clock) (c : EspWebsocketClient)
    (errorType : ErrorType) :
    Idles c (c.error.abortConnection clock errorType) :=
  (Idles.error c).trans (Idles.abort clock c.error errorType)

theorem sendPing_idles (clock : Clock) (c : EspWebsocketClient) :
    Idles c (c.sendPing clock) := by
  have hping : Idles c (c.pinged clock) :=
    Idles.output (e := ⟨c.ticks + 2, .control _ _⟩) rfl rfl rfl
  rw [sendPing_eq]
  split
  · split
    · exact hping.trans (Idles.silent rfl)
    · exact hping
  · exact Idles.silent rfl

theorem checkPong_idles (clock : Clock) (c : EspWebsocketClient) :
    Idles c (c.checkPong clock).2 := by
  have htick : Idles c c.ticked := Idles.silent rfl
  unfold checkPong
  split
  · exact htick.trans (Idles.fails clock c.ticked .pongTimeout)
  · exact htick

theorem switchInit_idles (clock : Clock) (connect : Int)
    (c : EspWebsocketClient) : Idles c (c.switchInit clock connect) := by
  have hbefore : Idles c (c.dispatchEvent .beforeConnect []) :=
    Idles.output (e := ⟨c.ticks, .event .beforeConnect _ _⟩) rfl rfl rfl
  unfold switchInit
  split
  · exact hbefore.trans (Idles.fails clock _ .tcpTransport)
  · exact hbefore.trans
      (Idles.output (e := ⟨c.ticks, .event .connected _ _⟩) rfl rfl rfl)

theorem switchWaitTimeout_idles (clock : Clock) (c : EspWebsocketClient) :
    Idles c (c.switchWaitTimeout clock) := by
  unfold switchWaitTimeout
  split
  · exact Idles.silent rfl
  · exact Idles.silent rfl

theorem switchClosing_idles (c : EspWebsocketClient) :
    Idles c c.switchClosing := by
  unfold switchClosing
  split
  · exact Idles.output (e := ⟨c.ticks, .control _ _⟩) rfl rfl rfl
  · exact Idles.silent rfl

theorem sendLocked_idles (clock : Clock) (c : EspWebsocketClient)
    (opcode : UInt8) (data : Bytes) (answers : List Int) :
    Idles c (c.sendLocked clock opcode data answers).2 := by
  unfold sendLocked
  simp only
  generalize sendLoop _ _ _ _ _ _ = r
  have hwrites : Idles c (c.logs (r.writes.map Output.write)) := by
    refine Idles.outputs rfl fun e he => ?_
    obtain ⟨o, ho, rfl⟩ := List.mem_map.mp he
    obtain ⟨w, -, rfl⟩ := List.mem_map.mp ho
    exact ⟨rfl, rfl⟩
  split
  · exact hwrites.trans (Idles.fails clock _ .tcpTransport)
  · exact hwrites

-- ============================================================= the passes

/-- The pass through the `switch` comes to a read: the last poll has found
something, and no pong is overdue. -/
def readsNow (clock : Clock) (readSelect : Int) (c : EspWebsocketClient) :
    Bool :=
  decide (c.state = .connected) && decide (readSelect ≠ 0)
    && (c.closeFrameSent || !((c.sendPing clock).checkPong clock).1)

/-- What is to be read: a frame, or a failure of the transport. -/
def readsOf : Option Frame → List Read
  | some f => f.answers
  | none => [.failed]

/-- A read that comes to what is to be read. -/
theorem reads_took (clock : Clock) (c : EspWebsocketClient)
    (a : Option Frame) :
    Took c a.toList (match c.recv (readsOf a) with
      | (false, c) => c.abortConnection clock .tcpTransport
      | (true, c) => c) := by
  cases a with
  | some f =>
      obtain ⟨c', hrecv, htook⟩ := recv_took c f
      rw [readsOf, hrecv]
      exact htook
  | none =>
      have hzero : Idles c { c with payloadOffset := 0 } := Idles.silent rfl
      exact hzero.trans (Idles.fails clock _ .tcpTransport)

theorem switchConnected_took (clock : Clock) {readSelect : Int}
    (hconn : c.state = .connected) {reads : List Read}
    {as : List (Option Frame)}
    (has : (if c.readsNow clock readSelect then [reads] else [])
      = as.map readsOf) :
    Took c as.reduceOption (c.switchConnected clock readSelect reads) := by
  let r := if !c.closeFrameSent then (c.sendPing clock).checkPong clock
    else (false, c)
  have hbefore : Idles c r.2 := by
    show Idles c (if !c.closeFrameSent then _ else _ : Bool × _).2
    split
    · exact (sendPing_idles clock c).trans (checkPong_idles clock _)
    · exact Idles.silent rfl
  have hswitch : c.switchConnected clock readSelect reads
      = if r.1 then r.2
        else if readSelect = 0 then r.2
        else match (r.2.touched clock).recv reads with
          | (false, c) => c.abortConnection clock .tcpTransport
          | (true, c) => c :=
    rfl
  have hnow : c.readsNow clock readSelect
      = (decide (readSelect ≠ 0) && !r.1) := by
    show (decide (c.state = .connected) && _ && _)
      = (_ && !(if !c.closeFrameSent then _ else _ : Bool × _).1)
    rw [hconn]
    cases c.closeFrameSent <;> rfl
  rw [hnow] at has
  rw [hswitch]
  cases hover : r.1 with
  | true =>
      rw [hover, Bool.not_true, Bool.and_false, if_neg (by decide)] at has
      rw [List.map_eq_nil_iff.mp has.symm, if_pos rfl]
      exact hbefore
  | false =>
      rw [hover] at has
      rw [if_neg (by decide)]
      by_cases hselect : readSelect = 0
      · rw [hselect, if_neg (by decide)] at has
        rw [List.map_eq_nil_iff.mp has.symm, if_pos hselect]
        exact hbefore
      · rw [if_pos (by simp [hselect])] at has
        obtain ⟨a, rfl, hreads⟩ := List.map_eq_singleton_iff.mp has.symm
        have htouch : Idles r.2 (r.2.touched clock) := Idles.silent rfl
        have htook := (hbefore.trans htouch).trans
          (reads_took clock (r.2.touched clock) a)
        have hone : [a].reduceOption = [] ++ a.toList := by
          cases a <;> rfl
        rw [if_neg hselect, hone, ← hreads]
        exact htook

/-- A pass through the `switch`. -/
theorem switchState_took (clock : Clock) (readSelect connect : Int)
    {reads : List Read} {as : List (Option Frame)}
    (has : (if c.readsNow clock readSelect then [reads] else [])
      = as.map readsOf) :
    Took c as.reduceOption
      (c.switchState clock readSelect connect reads) := by
  by_cases hconn : c.state = .connected
  · unfold switchState
    simp only [hconn]
    exact switchConnected_took clock hconn has
  · have hnot : c.readsNow clock readSelect = false := by
      unfold readsNow
      rw [decide_eq_false hconn]
      rfl
    rw [hnot, if_neg (by decide)] at has
    rw [List.map_eq_nil_iff.mp has.symm]
    unfold switchState
    cases hstate : c.state with
    | init => exact switchInit_idles clock connect c
    | connected => exact absurd hstate hconn
    | waitTimeout => exact switchWaitTimeout_idles clock c
    | closing => exact switchClosing_idles c
    | error => exact Idles.silent rfl
    | unknow => exact Idles.silent rfl

end

end EspWebsocketClient

-- =============================================================== the run

namespace ClientTask

open EspWebsocketClient Transition

variable {clock : Clock} {config : ClientConfig} {t t' : ClientTask}

/-- What the transport is read for in a step. -/
def arriving (clock : Clock) (t : ClientTask) : TaskStep → List (List Read)
  | .switch _ reads =>
      if t.client.readsNow clock t.readSelect then [reads] else []
  | _ => []

/-- A step that does not pass through the `switch`. -/
theorem step_idles {e : TaskStep} (h : step clock t e = some t')
    (hno : ∀ connect reads, e ≠ .switch connect reads) :
    Idles t.client t'.client := by
  cases e with
  | begin =>
      simp only [step] at h
      split at h <;> cases h
      exact Idles.output (e := ⟨_, .event .begin _ _⟩) rfl rfl rfl
  | loop =>
      simp only [step] at h
      split at h <;> cases h
      exact Idles.silent rfl
  | switch connect reads => exact absurd rfl (hno connect reads)
  | select =>
      simp only [step] at h
      split at h <;> cases h
      exact Idles.silent (by rw [(select_client t).1])
  | polled result =>
      simp only [step] at h
      split at h <;> cases h
      split
      · exact Idles.error t.client
      · exact Idles.silent rfl
  | pollAborts =>
      simp only [step] at h
      split at h <;> cases h
      exact Idles.abort clock t.client .tcpTransport
  | closed =>
      simp only [step] at h
      split at h <;> cases h
      exact Idles.output (e := ⟨_, .event .closed _ _⟩) rfl rfl rfl
  | finish =>
      simp only [step] at h
      split at h <;> cases h
      exact Idles.output (e := ⟨_, .event .finish _ _⟩) rfl rfl rfl
  | check m =>
      simp only [step] at h
      split at h <;> cases h
      split
      · exact Idles.silent rfl
      · exact Idles.output (e := ⟨_, .returned _ _⟩) rfl rfl rfl
  | lockTimeout =>
      obtain ⟨m, -, rfl⟩ := Option.map_eq_some_iff.mp h
      exact Idles.output (e := ⟨_, .returned _ _⟩) rfl rfl rfl
  | send answers =>
      obtain ⟨m, -, rfl⟩ := Option.map_eq_some_iff.mp h
      exact (sendLocked_idles clock t.client _ m.data answers).trans
        (Idles.output (e := ⟨_, .returned _ _⟩) rfl rfl rfl)

/-- A step takes what it reads. -/
theorem step_took {e : TaskStep} (h : step clock t e = some t')
    {as : List (Option Frame)}
    (has : arriving clock t e = as.map readsOf) :
    Took t.client as.reduceOption t'.client := by
  by_cases hswitch : ∃ connect reads, e = .switch connect reads
  · obtain ⟨connect, reads, rfl⟩ := hswitch
    simp only [step] at h
    split at h <;> cases h
    exact switchState_took clock t.readSelect connect has
  · have hno : arriving clock t e = [] := by
      unfold arriving
      split
      · exact absurd ⟨_, _, rfl⟩ hswitch
      · rfl
    rw [hno] at has
    rw [List.map_eq_nil_iff.mp has.symm]
    exact step_idles h fun connect reads he => hswitch ⟨connect, reads, he⟩

/-- A frame in one read. -/
def inOne (opCode : Opcode) (fin : Bool) (payload : Bytes)
    (hfit : payload.length ≤ bufferSize) : Frame where
  opCode := opCode
  fin := fin
  reads := [payload]
  reads_ne := List.cons_ne_nil _ _
  reads_fit := by simpa using hfit
  reads_full := Or.inl rfl

/-- A text in two fragments, and between them a pong and a ping. -/
def fragmented : List (Option Frame) :=
  [some (inOne .text false [0x7b] (by decide)),
    some (inOne .pong true [] (by decide)),
    some (inOne .ping true [1, 2] (by decide)),
    some (inOne .cont true [0x7d] (by decide))]

/-- The client connects; every poll finds something. -/
def fragmentedSteps : List TaskStep :=
  [.begin, .loop, .switch 0 []]
    ++ fragmented.flatMap fun a =>
      [.select, .polled 1, .loop, .switch 0 (readsOf a)]

end ClientTask

end WledDial
