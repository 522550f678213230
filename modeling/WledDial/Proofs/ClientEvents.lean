/-
The events a client posts: what its handlers can rely on.

# The protocol

`eventProtocol` says in which order events come: a begin first, then
attempts, each of them ending in a connection or in a disconnect, data on
a connection only, and at the end a closed event and a finish. Every run
of the task and its caller keeps to it, in any interleaving, and where
the protocol stands can be read off the client (`events_in_order`).

# The end

A client that reconnects by itself ends only when the server closes the
connection (`ends_by_close`). It does not come back then, although it was
asked to reconnect: until it is started again nothing is attempted, and
every send fails (`closed_for_good`). A send that loses the race against
the closing does bring the connection back, and then no ping is sent any
more (`close_ends_pings`).
-/
import WledDial.Proofs.ClientTask
import WledDial.Lib.History

namespace WledDial

open Transition History

-- ========================================================= the protocol

/-- Where a client stands, for somebody who sees its events only. -/
inductive Phase where
  | fresh
  | offline
  | attempting
  | online
  | ended
  | finished
  deriving DecidableEq

/-- After a disconnect. -/
def Phase.dropped (auto : Bool) : Phase := if auto then .offline else .ended

/-- What an event makes of a phase, if it may come in it. A close of the
server may be overtaken by a disconnect. -/
def Phase.next (auto : Bool) : Phase → EventId → Option Phase
  | phase, .error => some phase
  | .fresh, .begin => some .offline
  | .offline, .beforeConnect => some .attempting
  | .offline, .disconnected => some (.dropped auto)
  | .offline, .closed => some .ended
  | .attempting, .connected => some .online
  | .attempting, .disconnected => some (.dropped auto)
  | .online, .data => some .online
  | .online, .disconnected => some (.dropped auto)
  | .online, .closed => some .ended
  | .ended, .closed => if auto then none else some .ended
  | .ended, .finish => some .finished
  | _, _ => none

/-- The protocol of the events, on a log. -/
def eventProtocol (auto : Bool) : System Phase Entry where
  init phase := phase = .fresh
  step phase e :=
    match e.output with
    | .event id _ _ => phase.next auto id
    | _ => some phase

/-- What the client says of the phase. -/
def EspWebsocketClient.phase (c : EspWebsocketClient) : Phase :=
  if c.run then
    if c.state = .connected ∨ c.state = .closing then .online else .offline
  else .ended

/-- And the place of the task. -/
def TaskPc.phase (pc : TaskPc) (c : EspWebsocketClient) : Phase :=
  match pc with
  | .created => .fresh
  | .deleted => .finished
  | _ => c.phase

/-- Between its beginning and its end the task says nothing of it. -/
theorem TaskPc.phase_eq {pc : TaskPc} (hcreated : pc ≠ .created)
    (hdeleted : pc ≠ .deleted) (c : EspWebsocketClient) :
    pc.phase c = c.phase := by
  cases pc with
  | created => exact absurd rfl hcreated
  | deleted => exact absurd rfl hdeleted
  | _ => rfl

namespace EspWebsocketClient

/-- The client runs exactly while it is started. -/
def Sound (c : EspWebsocketClient) : Prop :=
  if c.run then c.Started else c.state = .unknow

theorem Sound.run {c : EspWebsocketClient} (h : c.Sound) (hstart : c.Started) :
    c.run = true := by
  cases hrun : c.run with
  | true => rfl
  | false =>
      unfold Sound at h
      rw [hrun, if_neg Bool.false_ne_true] at h
      exact absurd h hstart.2

/-- The invariant: the log keeps to the protocol, up to the phase that the
task and the client are in. -/
structure InOrder (auto : Bool) (pc : TaskPc) (c : EspWebsocketClient) :
    Prop where
  config : c.config.autoReconnect = auto
  sound : c.Sound
  idle : pc = .created ∨ pc = .left ∨ pc = .deleted → c.run = false
  closing : pc = .closing → c.run = true ∨ auto = false
  log : (eventProtocol auto).run .fresh c.log = some (pc.phase c)

variable {clock : Clock} {auto : Bool} {pc : TaskPc} {c c' : EspWebsocketClient}

theorem phase_online (hrun : c.run = true)
    (hstate : c.state = .connected ∨ c.state = .closing) :
    c.phase = .online := by
  rw [phase, hrun, if_pos rfl, if_pos hstate]

theorem phase_offline (hrun : c.run = true)
    (hstate : ¬ (c.state = .connected ∨ c.state = .closing)) :
    c.phase = .offline := by
  rw [phase, hrun, if_pos rfl, if_neg hstate]

/-- While the client runs the phase is the client's. -/
theorem InOrder.phase_eq (h : InOrder auto pc c) (hstart : c.Started)
    (c' : EspWebsocketClient) : pc.phase c' = c'.phase := by
  have hrun : ¬ c.run = false := by
    rw [h.sound.run hstart]
    decide
  exact TaskPc.phase_eq (fun hpc => hrun (h.idle (Or.inl hpc)))
    (fun hpc => hrun (h.idle (Or.inr (Or.inr hpc)))) c'

/-- Outputs that are no events, or errors, are none of the protocol's
business. -/
theorem run_asides {phase : Phase} {es : List Entry}
    (h : ∀ e ∈ es, Aside true e.output
      ∨ ∃ op payload, e.output = .control op payload) :
    (eventProtocol auto).run phase es = some phase := by
  refine System.run_of_loops fun e he => ?_
  show (match e.output with
    | .event id _ _ => phase.next auto id
    | _ => some phase) = some phase
  rcases h e he with haside | ⟨op, payload, hout⟩
  · cases hout : e.output with
    | event id d errorType =>
        rw [hout] at haside
        have herror : id = .error := haside
        rw [herror]
        cases phase <;> rfl
    | _ => rfl
  · rw [hout]

/-- Data events come online, any number of them. -/
theorem run_data (errorType : ErrorType) (ticks : Nat) (ds : List EventData) :
    (eventProtocol auto).run .online
      ((dataOutputs errorType ds).map (Entry.mk ticks)) = some .online := by
  refine System.run_of_loops fun e he => ?_
  obtain ⟨o, ho, rfl⟩ := List.mem_map.mp he
  obtain ⟨d, -, rfl⟩ := List.mem_map.mp ho
  rfl

/-- A move that leaves the state alone and says nothing of events. -/
theorem InOrder.same {es : List Entry} (h : InOrder auto pc c)
    (hconfig : c'.config = c.config) (hstate : c'.state = c.state)
    (hrun : c'.run = c.run) (hlog : c'.log = c.log ++ es)
    (hes : ∀ e ∈ es, Aside true e.output
      ∨ ∃ op payload, e.output = .control op payload) :
    InOrder auto pc c' := by
  have hphase : pc.phase c' = pc.phase c := by
    unfold TaskPc.phase phase
    rw [hstate, hrun]
  refine ⟨by rw [hconfig, h.config], ?_, ?_, ?_, ?_⟩
  · unfold Sound Started
    rw [hrun, hstate]
    exact h.sound
  · rw [hrun]
    exact h.idle
  · rw [hrun]
    exact h.closing
  · rw [hlog, System.run_append_of h.log, hphase]
    exact run_asides hes

/-- A move of a client that is started and stays so. -/
theorem InOrder.started {es : List Entry} (h : InOrder auto pc c)
    (hconfig : c'.config = c.config) (hstart : c.Started)
    (hstart' : c'.Started) (hrun : c'.run = c.run) (hlog : c'.log = c.log ++ es)
    (hes : (eventProtocol auto).run c.phase es = some c'.phase) :
    InOrder auto pc c' := by
  have hsound : c'.Sound := by
    unfold Sound
    rw [hrun, h.sound.run hstart]
    exact hstart'
  refine ⟨by rw [hconfig, h.config], hsound, ?_, ?_, ?_⟩
  · rw [hrun]
    exact h.idle
  · rw [hrun]
    exact h.closing
  · rw [hlog, System.run_append_of h.log, h.phase_eq hstart,
      h.phase_eq hstart, hes]

/-- Giving a connection up, behind whatever brought it to a phase that a
disconnect ends. -/
theorem InOrder.drops {es : List Entry} (h : InOrder auto pc c)
    (c' : EspWebsocketClient) (phase : Phase) (hstart : c.Started)
    (hconfig : c'.config = c.config) (hstart' : c'.Started)
    (hrun : c'.run = c.run) (hlog : c'.log = c.log ++ es)
    (hes : (eventProtocol auto).run c.phase es = some phase)
    (hdrop : phase.next auto .disconnected = some (.dropped auto))
    (errorType : ErrorType) :
    InOrder auto pc (c'.abortConnection clock errorType) := by
  have hends : ∀ e : Entry, (∃ d errorType, e.output =
      .event .disconnected d errorType) → (eventProtocol auto).run c.phase
        (es ++ [e]) = some (.dropped auto) := by
    intro e he
    obtain ⟨d, errorType, hout⟩ := he
    rw [System.run_append_of hes, System.run_one]
    simp only [eventProtocol, hout, hdrop]
  rcases abort_cases clock c' errorType with
    ⟨hno, -⟩ | ⟨-, hauto, heq⟩ | ⟨-, hauto, heq⟩
  · exact absurd hstart' hno
  · rw [heq]
    rw [hconfig, h.config] at hauto
    subst hauto
    refine h.started hconfig hstart ⟨nofun, nofun⟩ hrun
      (by rw [waiting, ← List.append_assoc, ← hlog]; rfl)
      ((hends _ ⟨_, _, rfl⟩).trans ?_)
    unfold EspWebsocketClient.phase
    rw [show (c'.waiting clock errorType).run = true from
      hrun.trans (h.sound.run hstart)]
    rfl
  · rw [heq]
    rw [hconfig, h.config] at hauto
    subst hauto
    refine ⟨(congrArg _ hconfig).trans h.config, rfl, fun _ => rfl,
      fun _ => Or.inr rfl, ?_⟩
    have hlost : c'.lost.log = c.log ++ (es ++ [⟨c'.ticks,
        .event .disconnected (c'.eventData []) c'.errorType⟩]) := by
      rw [← List.append_assoc, ← hlog]
      rfl
    rw [hlost, System.run_append_of h.log, h.phase_eq hstart,
      h.phase_eq hstart]
    exact hends _ ⟨_, _, rfl⟩

/-- What a frame does behind its events: it may answer, and it may start
the closing. -/
theorem afterFrame_spec (c : EspWebsocketClient) :
    c.afterFrame.config = c.config ∧ c.afterFrame.run = c.run
      ∧ (c.afterFrame.state = c.state ∨ (c.afterFrame.state = .closing
        ∧ c.lastOpcode = some Opcode.close.code))
      ∧ c.afterFrame.closeFrameSent = c.closeFrameSent
      ∧ ∃ es : List Entry, c.afterFrame.log = c.log ++ es
        ∧ ∀ e ∈ es, ∃ payload,
          e.output = .control (Opcode.pong.code ||| finBit) payload := by
  rcases afterFrame_cases c with ⟨-, h⟩ | ⟨-, h⟩ | ⟨hclose, h⟩ | ⟨-, h⟩
  · rw [h]
    refine ⟨rfl, rfl, Or.inl rfl, rfl, [_], rfl, fun e he => ?_⟩
    rw [List.mem_singleton.mp he]
    exact ⟨_, rfl⟩
  · rw [h]
    exact ⟨rfl, rfl, Or.inl rfl, rfl, [], (List.append_nil _).symm, by simp⟩
  · rw [h]
    exact ⟨rfl, rfl, Or.inr ⟨rfl, hclose⟩, rfl, [], (List.append_nil _).symm,
      by simp⟩
  · rw [h]
    exact ⟨rfl, rfl, Or.inl rfl, rfl, [], (List.append_nil _).symm, by simp⟩

/-- Every move keeps to the protocol. -/
theorem InOrder.move {caller : Bool} (h : InOrder auto pc c)
    (hmove : Move clock caller c c') : InOrder auto pc c' := by
  have hcontrol : ∀ {ticks : Nat} {op : UInt8} {payload : Bytes},
      ∀ e ∈ [Entry.mk ticks (.control op payload)], Aside true e.output
        ∨ ∃ op payload, e.output = .control op payload := by
    intro ticks op payload e he
    rw [List.mem_singleton.mp he]
    exact Or.inr ⟨op, payload, rfl⟩
  have hstarted : ∀ {state : ClientState}, c.state = state → state ≠ .error →
      state ≠ .unknow → c.Started ∧ c.run = true := by
    intro state hstate herror hunknow
    have hstart : c.Started := ⟨hstate ▸ herror, hstate ▸ hunknow⟩
    exact ⟨hstart, h.sound.run hstart⟩
  cases hmove with
  | reading _ =>
      exact h.same rfl rfl rfl (List.append_nil _).symm (by simp)
  | touches _ =>
      exact h.same rfl rfl rfl (List.append_nil _).symm (by simp)
  | asides haside =>
      refine h.same rfl rfl rfl rfl fun e he => Or.inl ?_
      rw [List.mem_singleton.mp he]
      exact Aside.weaken haside
  | aborts =>
      by_cases hstart : c.Started
      · refine h.drops c _ hstart rfl hstart rfl (List.append_nil _).symm
          (System.run_nil _) ?_ _
        rw [phase, h.sound.run hstart, if_pos rfl]
        split <;> rfl
      · rcases abort_cases clock c .tcpTransport with
          ⟨-, heq⟩ | ⟨hstart', -⟩ | ⟨hstart', -⟩
        · rw [heq]
          exact h
        · exact absurd hstart' hstart
        · exact absurd hstart' hstart
  | opens hstate =>
      obtain ⟨hstart, hrun⟩ := hstarted hstate nofun nofun
      refine h.started rfl hstart ⟨nofun, nofun⟩ rfl (List.append_assoc ..) ?_
      rw [phase_offline hrun (by simp [hstate]),
        phase_online (c := c.opened) hrun (Or.inl rfl)]
      rfl
  | misses hstate =>
      obtain ⟨hstart, hrun⟩ := hstarted hstate nofun nofun
      refine h.drops (c.dispatchEvent .beforeConnect []).error .attempting
        hstart rfl hstart rfl (List.append_assoc ..) ?_ rfl _
      rw [phase_offline hrun (by simp [hstate])]
      rfl
  | pings _ _ _ _ => exact h.same rfl rfl rfl rfl hcontrol
  | awaits _ _ _ _ => exact h.same rfl rfl rfl rfl hcontrol
  | overdue hstate _ _ _ =>
      obtain ⟨hstart, hrun⟩ := hstarted hstate nofun nofun
      refine h.drops c.ticked.error .online hstart rfl hstart rfl rfl ?_ rfl _
      rw [phase_online hrun (Or.inl hstate)]
      rfl
  | reads hstate rx len off fin op _ =>
      obtain ⟨hstart, hrun⟩ := hstarted hstate nofun nofun
      refine h.started rfl hstart hstart rfl rfl ?_
      rw [phase_online hrun (Or.inl hstate), phase_online
        (c := (c.framed rx len off fin op).logs _) hrun (Or.inl hstate)]
      exact run_data _ _ _
  | @frames hstate rx len off fin op ds _ =>
      obtain ⟨hstart, hrun⟩ := hstarted hstate nofun nofun
      obtain ⟨hconfig, hrun', hstate', -, es, hlog, hes⟩ := afterFrame_spec
        ((c.framed rx len off fin op).logs (dataOutputs c.errorType ds))
      have honline : _ = ClientState.connected ∨ _ = ClientState.closing :=
        hstate'.imp (fun h => h.trans hstate) And.left
      refine h.started hconfig hstart ?_ hrun'
        (hlog.trans (List.append_assoc ..)) ?_
      · rcases honline with h | h
          <;> exact ⟨by rw [h]; decide, by rw [h]; decide⟩
      · rw [phase_online hrun (Or.inl hstate),
          phase_online (hrun'.trans hrun) honline]
        apply (System.run_append_of (run_data _ _ _) es).trans
        exact run_asides fun e he => Or.inr ⟨_, hes e he⟩
  | retries hstate _ =>
      obtain ⟨hstart, hrun⟩ := hstarted hstate nofun nofun
      refine h.started rfl hstart ⟨nofun, nofun⟩ rfl (List.append_nil _).symm ?_
      rw [phase_offline hrun (by simp [hstate]),
        phase_offline (c := c.retried clock) hrun (by simp [retried])]
      rfl
  | echoes _ _ => exact h.same rfl rfl rfl rfl hcontrol

end EspWebsocketClient

namespace ClientTask

open EspWebsocketClient

variable {clock : Clock} {config : ClientConfig} {t t' : ClientTask}

/-- The phase a client is in. -/
def phase (t : ClientTask) : Phase := t.pc.phase t.client

theorem reachable_inOrder (h : Reachable clock config t) :
    InOrder config.autoReconnect t.pc t.client := by
  refine reachable_rule (P := InOrder config.autoReconnect) (fun rx => ?_)
    (fun c hc => ?_) (fun c hc => ?_) (fun c hc => ?_)
    (fun _ pc c c' hc hmove => hc.move hmove) (fun pc pc' c hc hgoes => ?_) h
  · exact ⟨rfl, rfl, fun _ => rfl, nofun, rfl⟩
  · refine ⟨hc.config, ⟨nofun, nofun⟩, nofun, nofun, ?_⟩
    apply (System.run_append_of hc.log _).trans
    rfl
  · refine ⟨hc.config, rfl, fun _ => rfl, nofun, ?_⟩
    refine (System.run_append_of hc.log _).trans ((System.run_one _ _).trans ?_)
    rw [show TaskPc.closing.phase c = c.phase from rfl]
    rcases hc.closing rfl with hrun | hauto
    · by_cases hstate : c.state = .connected ∨ c.state = .closing
      · rw [phase_online hrun hstate]
        rfl
      · rw [phase_offline hrun hstate]
        rfl
    · rw [hauto]
      unfold EspWebsocketClient.phase
      cases c.run with
      | true =>
          simp only [if_true]
          split <;> rfl
      | false => rfl
  · have hrun : c.run = false := hc.idle (Or.inr (Or.inl rfl))
    have hphase : TaskPc.phase .left c = .ended :=
      if_neg (by rw [hrun]; decide)
    refine ⟨hc.config, ?_, fun _ => hrun, nofun, ?_⟩
    · unfold Sound
      rw [show c.finished.run = false from hrun]
      rfl
    · refine (System.run_append_of hc.log _).trans
        ((System.run_one _ _).trans ?_)
      rw [hphase]
      rfl
  · refine ⟨hc.config, hc.sound, ?_, ?_, ?_⟩
    · intro hpc
      rcases hpc with hpc | hpc | hpc
      · exact absurd hpc hgoes.still.1
      · exact hgoes.left hpc
      · exact absurd hpc hgoes.still.2
    · intro hpc
      have hstate := hgoes.closing hpc
      exact Or.inl (hc.sound.run
        ⟨by rw [hstate]; decide, by rw [hstate]; decide⟩)
    · rw [TaskPc.phase_eq hgoes.still.1 hgoes.still.2,
        ← TaskPc.phase_eq hgoes.running.1 hgoes.running.2.2]
      exact hc.log

/-- A clock of twenty seconds between two readings. -/
def slowClock : Clock := ⟨fun n => 20000 * n, Nat.mul_le_mul_left 20000⟩

/-- Where some steps lead the dial's client. -/
def after (es : List TaskStep) : ClientTask :=
  (system slowClock .dial).reached (start slowClock .dial []) es

theorem run_start {es : List TaskStep}
    (h : ((system slowClock .dial).run (start slowClock .dial []) es).isSome) :
    (system slowClock .dial).run (start slowClock .dial []) es
      = some (after es) :=
  System.run_reached h

theorem reachable_after {es : List TaskStep}
    (h : ((system slowClock .dial).run (start slowClock .dial []) es).isSome) :
    Reachable slowClock .dial (after es) :=
  ⟨_, es, ⟨[], rfl⟩, fun _ _ => trivial, run_start h⟩

theorem run_after {es fs : List TaskStep}
    (h : ((system slowClock .dial).run (start slowClock .dial [])
      (es ++ fs)).isSome) :
    (system slowClock .dial).run (after es) fs = some (after (es ++ fs)) :=
  System.run_reached_append h

/-- The client connects, and reads a close frame. -/
def closeSteps : List TaskStep :=
  [.begin, .loop, .switch 0 [], .select, .polled 1, .loop,
    .switch 0 [.read [] 0 true (some Opcode.close.code)]]

end ClientTask

-- ============================================================== the end

/-- The last data event of a close frame. -/
def Entry.IsClose (e : Entry) : Prop :=
  ∃ d errorType, e.output = .event .data d errorType
    ∧ d.opCode = Opcode.close.code ∧ d.Completes

/-- A closed event or a finish. -/
def Entry.IsEnd (e : Entry) : Prop :=
  ∃ id d errorType, e.output = .event id d errorType
    ∧ (id = .closed ∨ id = .finish)

/-- What is left to a client the server has closed: the answer to the close
frame, the end, and sends that fail. -/
def Entry.IsLast (e : Entry) : Prop :=
  match e.output with
  | .event id _ _ => id = .closed ∨ id = .finish
  | .write _ => False
  | .control opcode _ => opcode = Opcode.close.code ||| finBit
  | .returned _ ret => ret = -1

/-- A new connection. -/
def Entry.IsConnect (e : Entry) : Prop :=
  ∃ d errorType, e.output = .event .connected d errorType

/-- A ping. -/
def Entry.IsPing (e : Entry) : Prop :=
  e.output = .control (Opcode.ping.code ||| finBit) []

namespace EspWebsocketClient

variable {clock : Clock} {c c₁ c₂ : EspWebsocketClient} {es es' : List Entry}

/-- What every move keeps, and what it may log. -/
structure Extends (c c' : EspWebsocketClient) (es : List Entry) : Prop where
  log : c'.log = c.log ++ es
  config : c'.config = c.config
  run : c'.run = c.run ∨ c.config.autoReconnect = false
  closing : c'.state = .closing → c.state = .closing ∨ ∃ e ∈ es, e.IsClose
  noEnd : ∀ e ∈ es, ¬ e.IsEnd
  closeFrameSent : c.closeFrameSent = true → c'.closeFrameSent = true
  noPing : c.closeFrameSent = true → ∀ e ∈ es, ¬ e.IsPing

theorem Extends.trans (h : Extends c c₁ es) (h' : Extends c₁ c₂ es') :
    Extends c c₂ (es ++ es') := by
  have hmem : ∀ {P : Entry → Prop}, (∀ e ∈ es, P e) → (∀ e ∈ es', P e) →
      ∀ e ∈ es ++ es', P e := by
    intro P hes hes' e he
    exact (List.mem_append.mp he).elim (hes e) (hes' e)
  refine ⟨?_, h'.config.trans h.config, ?_, ?_, hmem h.noEnd h'.noEnd,
    fun hc => h'.closeFrameSent (h.closeFrameSent hc),
    fun hc => hmem (h.noPing hc) (h'.noPing (h.closeFrameSent hc))⟩
  · rw [h'.log, h.log, List.append_assoc]
  · have hrun := h'.run
    rw [h.config] at hrun
    rcases hrun with hrun | hauto
    · rw [hrun]
      exact h.run
    · exact Or.inr hauto
  · intro hclosing
    rcases h'.closing hclosing with hclosing | ⟨e, he, hclose⟩
    · exact (h.closing hclosing).imp_right fun ⟨e, he, hclose⟩ =>
        ⟨e, List.mem_append_left _ he, hclose⟩
    · exact Or.inr ⟨e, List.mem_append_right _ he, hclose⟩

/-- Nothing is logged. -/
theorem Extends.silent (hlog : c₁.log = c.log) (hconfig : c₁.config = c.config)
    (hrun : c₁.run = c.run) (hstate : c₁.state = .closing → c.state = .closing)
    (hclose : c₁.closeFrameSent = c.closeFrameSent) : Extends c c₁ [] := by
  refine ⟨by rw [hlog, List.append_nil], hconfig, Or.inl hrun,
    fun h => Or.inl (hstate h), by simp, fun h => hclose.trans h, by simp⟩

/-- An output that neither ends anything nor pings. -/
def Mild : Output → Prop
  | .event id _ _ => id ≠ .closed ∧ id ≠ .finish
  | .control opcode _ => opcode ≠ Opcode.ping.code ||| finBit
  | _ => True

theorem Mild.of_aside {caller : Bool} {o : Output} (h : Aside caller o) :
    Mild o := by
  cases o with
  | event id d errorType =>
      have herror : id = .error := h
      rw [herror]
      exact ⟨nofun, nofun⟩
  | control op payload => exact absurd h id
  | _ => trivial

/-- Such outputs are logged. -/
theorem Extends.logs (c : EspWebsocketClient) (os : List Output)
    (hos : ∀ o ∈ os, Mild o) :
    Extends c (c.logs os) (os.map (Entry.mk c.ticks)) := by
  refine ⟨rfl, rfl, Or.inl rfl, Or.inl, fun e he => ?_, id, fun _ e he => ?_⟩
  · obtain ⟨o, ho, rfl⟩ := List.mem_map.mp he
    intro hend
    obtain ⟨id, d, errorType, hout, hid⟩ := hend
    have hmild : Mild o := hos o ho
    rw [show o = .event id d errorType from hout] at hmild
    exact hid.elim hmild.1 hmild.2
  · obtain ⟨o, ho, rfl⟩ := List.mem_map.mp he
    intro hping
    have hmild : Mild o := hos o ho
    rw [show o = .control (Opcode.ping.code ||| finBit) [] from hping] at hmild
    exact hmild rfl

/-- One such output. -/
theorem Extends.log1 (c : EspWebsocketClient) {o : Output} (ho : Mild o) :
    Extends c (c.logs [o]) [⟨c.ticks, o⟩] := by
  refine Extends.logs c [o] fun o' ho' => ?_
  rw [List.mem_singleton.mp ho']
  exact ho

theorem Extends.event (c : EspWebsocketClient) (id : EventId) (data : Bytes)
    (hid : id ≠ .closed ∧ id ≠ .finish) :
    Extends c (c.dispatchEvent id data)
      [⟨c.ticks, .event id (c.eventData data) c.errorType⟩] :=
  Extends.log1 c hid

theorem Extends.abort (clock : Clock) (c : EspWebsocketClient)
    (errorType : ErrorType) :
    ∃ es, Extends c (c.abortConnection clock errorType) es := by
  rcases abort_cases clock c errorType with
    ⟨-, heq⟩ | ⟨-, -, heq⟩ | ⟨-, hauto, heq⟩
  · rw [heq]
    exact ⟨[], Extends.silent rfl rfl rfl id rfl⟩
  · rw [heq]
    have hdown : Extends c { c.ticked with
        reconnectTickMs := c.now clock
        errorType := errorType
        state := .waitTimeout } [] := Extends.silent rfl rfl rfl nofun rfl
    exact ⟨_, hdown.trans (Extends.event _ _ [] ⟨nofun, nofun⟩)⟩
  · rw [heq]
    have hdown : Extends c { c with run := false, state := .unknow } [] :=
      ⟨(List.append_nil _).symm, rfl, Or.inr hauto, nofun, by simp, id,
        by simp⟩
    exact ⟨_, hdown.trans (Extends.event _ _ [] ⟨nofun, nofun⟩)⟩

theorem Extends.data (c : EspWebsocketClient) (rx : Bytes) (len off : Nat)
    (fin : Bool) (op : Option UInt8) (ds : List EventData) :
    Extends c ((c.framed rx len off fin op).logs (dataOutputs c.errorType ds))
      ((dataOutputs c.errorType ds).map (Entry.mk c.ticks)) := by
  have hframed : Extends c (c.framed rx len off fin op) [] :=
    Extends.silent rfl rfl rfl id rfl
  refine hframed.trans
    (Extends.logs _ (dataOutputs c.errorType ds) fun o ho => ?_)
  obtain ⟨d, -, rfl⟩ := List.mem_map.mp ho
  exact ⟨nofun, nofun⟩

/-- A frame starts the closing by its last data event. -/
theorem Extends.frame (c : EspWebsocketClient) {rx : Bytes} {len off : Nat}
    {fin : Bool} {op : Option UInt8} {ds : List EventData}
    (hends : EndsFrame rx len op ds) :
    ∃ es, Extends c ((c.framed rx len off fin op).logs
      (dataOutputs c.errorType ds)).afterFrame es := by
  have hdata := Extends.data c rx len off fin op ds
  obtain ⟨hconfig, hrun, hstate, hclose, es, hlog, hes⟩ := afterFrame_spec
    ((c.framed rx len off fin op).logs (dataOutputs c.errorType ds))
  refine ⟨(dataOutputs c.errorType ds).map (Entry.mk c.ticks) ++ es, ?_,
    hconfig, Or.inl hrun, fun hclosing => ?_, fun e he => ?_, ?_,
    fun hc e he => ?_⟩
  · rw [hlog, hdata.log, List.append_assoc]
  · rcases hstate with hstate | ⟨-, hop⟩
    · exact Or.inl (hstate.symm.trans hclosing)
    · obtain ⟨ds', d, rfl, hd, hdone, -⟩ := hends
      have hcode : op = some Opcode.close.code := hop
      refine Or.inr ⟨⟨c.ticks, .event .data d c.errorType⟩, ?_, d, _, rfl, ?_,
        hdone⟩
      · simp [dataOutputs]
      · rw [hd, hcode]
        rfl
  · rcases List.mem_append.mp he with he | he
    · exact hdata.noEnd e he
    · obtain ⟨payload, hout⟩ := hes e he
      intro hend
      obtain ⟨id, d, errorType, hout', -⟩ := hend
      rw [hout] at hout'
      cases hout'
  · intro hc
    exact hclose.trans hc
  · rcases List.mem_append.mp he with he | he
    · exact hdata.noPing hc e he
    · obtain ⟨payload, hout⟩ := hes e he
      intro hping
      rw [Entry.IsPing, hout] at hping
      injection hping with hop
      exact absurd hop (by decide)

/-- Every move. -/
theorem Move.extends {caller : Bool} {c' : EspWebsocketClient}
    (h : Move clock caller c c') : ∃ es, Extends c c' es := by
  cases h with
  | reading _ => exact ⟨[], Extends.silent rfl rfl rfl id rfl⟩
  | touches _ => exact ⟨[], Extends.silent rfl rfl rfl id rfl⟩
  | asides haside => exact ⟨_, Extends.log1 c (Mild.of_aside haside)⟩
  | aborts => exact Extends.abort clock c _
  | opens _ =>
      have hbefore := Extends.event c .beforeConnect [] ⟨nofun, nofun⟩
      have hup : Extends (c.dispatchEvent .beforeConnect [])
          { c.dispatchEvent .beforeConnect [] with
            state := .connected
            waitForPongResp := false
            errorType := .none } [] := Extends.silent rfl rfl rfl nofun rfl
      exact ⟨_, (hbefore.trans hup).trans
        (Extends.event _ _ [] ⟨nofun, nofun⟩)⟩
  | misses _ =>
      have hbefore := Extends.event c .beforeConnect [] ⟨nofun, nofun⟩
      have herror := Extends.event (c.dispatchEvent .beforeConnect []) .error
        [] ⟨nofun, nofun⟩
      obtain ⟨es, habort⟩ := Extends.abort clock
        (c.dispatchEvent .beforeConnect []).error .tcpTransport
      exact ⟨_, (hbefore.trans herror).trans habort⟩
  | pings _ hclose _ _ =>
      refine ⟨_, rfl, rfl, Or.inl rfl, Or.inl, fun e he => ?_, id,
        fun hc => absurd hc (by rw [hclose]; decide)⟩
      rw [List.mem_singleton.mp he]
      exact nofun
  | awaits _ hclose _ _ =>
      refine ⟨_, rfl, rfl, Or.inl rfl, Or.inl, fun e he => ?_, id,
        fun hc => absurd hc (by rw [hclose]; decide)⟩
      rw [List.mem_singleton.mp he]
      exact nofun
  | overdue _ _ _ _ =>
      have htick : Extends c c.ticked [] := Extends.silent rfl rfl rfl id rfl
      have herror := Extends.event c.ticked .error [] ⟨nofun, nofun⟩
      obtain ⟨es, habort⟩ := Extends.abort clock c.ticked.error .pongTimeout
      exact ⟨_, (htick.trans herror).trans habort⟩
  | reads _ rx len off fin op _ =>
      exact ⟨_, Extends.data c rx len off fin op _⟩
  | frames _ rx len off fin op hends => exact Extends.frame c hends
  | retries _ _ => exact ⟨[], Extends.silent rfl rfl rfl nofun rfl⟩
  | echoes _ _ =>
      have hecho := Extends.log1 c
        (o := .control (Opcode.close.code ||| finBit) []) (by
          show Opcode.close.code ||| finBit ≠ Opcode.ping.code ||| finBit
          decide)
      exact ⟨_, hecho.log, hecho.config, hecho.run, hecho.closing, hecho.noEnd,
        fun _ => rfl, hecho.noPing⟩

end EspWebsocketClient

namespace ClientTask

open EspWebsocketClient

variable {clock : Clock} {config : ClientConfig} {t t' : ClientTask}

/-- The invariant of a client that reconnects by itself: what has ended,
or is about to, was closed by the server. -/
structure ClosedBy (pc : TaskPc) (c : EspWebsocketClient) : Prop where
  auto : c.config.autoReconnect = true
  seen : c.state = .closing ∨ pc = .closing ∨ pc = .left ∨ pc = .deleted
    ∨ (c.run = false ∧ pc ≠ .created) → ∃ e ∈ c.log, e.IsClose
  ends : Throughout (fun before e => e.IsEnd → ∃ x ∈ before, x.IsClose) c.log

/-- An end behind a close frame. -/
theorem ClosedBy.end {pc pc' : TaskPc} {c c' : EspWebsocketClient}
    {e : Entry} (h : ClosedBy pc c) (hpc : pc = .closing ∨ pc = .left)
    (hconfig : c'.config = c.config) (hlog : c'.log = c.log ++ [e]) :
    ClosedBy pc' c' := by
  have hseen : ∃ e ∈ c.log, e.IsClose :=
    h.seen (Or.inr (hpc.imp_right Or.inl))
  refine ⟨by rw [hconfig, h.auto], fun _ => ?_, ?_⟩
  · obtain ⟨x, hx, hclose⟩ := hseen
    exact ⟨x, by rw [hlog]; exact List.mem_append_left _ hx, hclose⟩
  · rw [hlog]
    exact throughout_concat h.ends fun _ => hseen

/-- A client that reconnects by itself is never closed and never finishes,
however often the network fails, unless the server sent a close frame. -/
theorem ends_by_close (h : Reachable clock config t)
    (hauto : config.autoReconnect = true) :
    Throughout (fun before e => e.IsEnd → ∃ x ∈ before, x.IsClose)
      t.client.log := by
  refine ClosedBy.ends (reachable_rule (P := ClosedBy)
    (fun rx => ?_) (fun c hc => ?_) (fun c hc => hc.end (Or.inl rfl) rfl rfl)
    (fun c hc => hc.end (Or.inr rfl) rfl rfl)
    (fun _ pc c c' hc hmove => ?_) (fun pc pc' c hc hgoes => ?_) h)
  · exact ⟨hauto, by simp [EspWebsocketClient.init], throughout_nil⟩
  · have hlog : c.begun.log = c.log ++ [_] := rfl
    refine ⟨hc.auto, fun hend => ?_, ?_⟩
    · rcases hend with hend | hend | hend | hend | ⟨hend, -⟩ <;> cases hend
    · rw [hlog]
      refine throughout_concat hc.ends fun hend => ?_
      obtain ⟨id, d, errorType, hout, hid⟩ := hend
      cases hout
      rcases hid with hid | hid <;> cases hid
  · obtain ⟨es, hes⟩ := hmove.extends
    have hrun : c'.run = c.run :=
      hes.run.resolve_right (by rw [hc.auto]; decide)
    have hkeeps : (∃ e ∈ c.log, e.IsClose) → ∃ e ∈ c'.log, e.IsClose := by
      intro hseen
      obtain ⟨e, he, hclose⟩ := hseen
      exact ⟨e, by rw [hes.log]; exact List.mem_append_left _ he, hclose⟩
    refine ⟨by rw [hes.config, hc.auto], fun hend => ?_, ?_⟩
    · rw [hrun] at hend
      rcases hend with hclosing | hend
      · rcases hes.closing hclosing with hclosing | ⟨e, he, hclose⟩
        · exact hkeeps (hc.seen (Or.inl hclosing))
        · exact ⟨e, by rw [hes.log]; exact List.mem_append_right _ he, hclose⟩
      · exact hkeeps (hc.seen (Or.inr hend))
    · rw [hes.log]
      exact throughout_append hc.ends fun x hx _ hend =>
        absurd hend (hes.noEnd x hx)
  · refine ⟨hc.auto, fun hend => hc.seen ?_, hc.ends⟩
    rcases hend with hclosing | hpc | hpc | hpc | ⟨hrun, -⟩
    · exact Or.inl hclosing
    · exact Or.inl (hgoes.closing hpc)
    · exact Or.inr (Or.inr (Or.inr (Or.inr
        ⟨hgoes.left hpc, hgoes.running.1⟩)))
    · exact absurd hpc hgoes.still.2
    · exact Or.inr (Or.inr (Or.inr (Or.inr ⟨hrun, hgoes.running.1⟩)))

/-- The dial's client, closed and finished. -/
theorem closed_client_ends : (after (closeSteps
      ++ [.select, .loop, .switch 0 [], .select, .closed, .finish])).pc
        = .deleted
    ∧ Throughout (fun before e => e.IsEnd → ∃ x ∈ before, x.IsClose)
      (after (closeSteps ++ [.select, .loop, .switch 0 [], .select, .closed,
        .finish])).client.log :=
  ⟨by decide +kernel, ends_by_close (reachable_after (by decide +kernel)) rfl⟩

/-- A task that has not begun has not sent a close frame. -/
theorem created_idle (h : Reachable clock config t) (hpc : t.pc = .created) :
    t.client.closeFrameSent = false ∧ t.client.state = .unknow
      ∧ t.sender = none := by
  refine System.reachableBy_induction (P := fun t => t.pc = .created →
    t.client.closeFrameSent = false ∧ t.client.state = .unknow
      ∧ t.sender = none) (fun t hinit _ => ?_)
    (fun t e t' ht _ hstep => ?_) h hpc
  · obtain ⟨rx, rfl⟩ := hinit
    exact ⟨rfl, rfl, rfl⟩
  · intro hpc
    cases step_does hstep with
    | begins _ => cases hpc
    | works _ hgoes _ => exact absurd hpc hgoes.still.1
    | closes _ => cases hpc
    | finishes _ => cases hpc
    | checks _ hstate =>
        have hidle := ht hpc
        rw [hstate] at hidle
        cases hidle.2.1
    | refuses _ _ => exact ht hpc
    | givesUp hsender =>
        have hidle := ht hpc
        rw [hsender] at hidle
        cases hidle.2.2
    | sends _ hsender =>
        have hidle := ht hpc
        rw [hsender] at hidle
        cases hidle.2.2

/-- A close frame was sent, and behind `base` there is no ping in the
log. -/
def Pingless (base : List Entry) (c : EspWebsocketClient) : Prop :=
  c.closeFrameSent = true ∧ ∃ out, c.log = base ++ out ∧ ∀ e ∈ out, ¬ e.IsPing

theorem Pingless.start {c : EspWebsocketClient} (h : c.closeFrameSent = true) :
    Pingless c.log c :=
  ⟨h, [], (List.append_nil _).symm, by simp⟩

theorem Pingless.adds {base es : List Entry} {c c' : EspWebsocketClient}
    (h : Pingless base c) (hclose : c'.closeFrameSent = true)
    (hlog : c'.log = c.log ++ es) (hes : ∀ e ∈ es, ¬ e.IsPing) :
    Pingless base c' := by
  obtain ⟨-, out, hout, hno⟩ := h
  refine ⟨hclose, out ++ es, ?_, fun e he => ?_⟩
  · rw [hlog, hout, List.append_assoc]
  · exact (List.mem_append.mp he).elim (hno e) (hes e)

/-- Neither the task nor a send pings again. -/
theorem Pingless.moves {base : List Entry} {caller : Bool}
    {c c' : EspWebsocketClient}
    (h : Pingless base c) (hmoves : Moves clock caller c c') :
    Pingless base c' := by
  induction hmoves with
  | refl => exact h
  | tail _ hlast ih =>
      obtain ⟨es, hes⟩ := hlast.extends
      exact ih.adds (hes.closeFrameSent ih.1) hes.log (hes.noPing ih.1)

theorem Pingless.step {base : List Entry} {e : TaskStep}
    (hpc : t.pc ≠ .created) (h : Pingless base t.client)
    (hstep : step clock t e = some t') :
    t'.pc ≠ .created ∧ Pingless base t'.client := by
  cases step_does hstep with
  | begins hcreated => exact absurd hcreated hpc
  | works hmoves hgoes _ => exact ⟨hgoes.still.1, h.moves hmoves⟩
  | closes _ => exact ⟨nofun, h.adds h.1 rfl (by simp [Entry.IsPing])⟩
  | finishes _ => exact ⟨nofun, h.adds h.1 rfl (by simp [Entry.IsPing])⟩
  | checks _ _ => exact ⟨hpc, h⟩
  | refuses _ _ => exact ⟨hpc, h.adds h.1 rfl (by simp [Entry.IsPing])⟩
  | givesUp _ => exact ⟨hpc, h.adds h.1 rfl (by simp [Entry.IsPing])⟩
  | sends answers _ =>
      exact ⟨hpc, h.moves ((sendLocked_moves ..).tail (.asides rfl))⟩

/-- After a close frame was sent, no ping is: not on this connection, and
not on any the client makes before it is started again. -/
theorem close_ends_pings {es : List TaskStep} (h : Reachable clock config t)
    (hclose : t.client.closeFrameSent = true)
    (hrun : (system clock config).run t es = some t') :
    ∃ out, t'.client.log = t.client.log ++ out ∧ ∀ e ∈ out, ¬ e.IsPing := by
  have hpc : t.pc ≠ .created := by
    intro hpc
    rw [(created_idle h hpc).1] at hclose
    cases hclose
  have hkept := System.run_invariant
    (P := fun s : ClientTask =>
      s.pc ≠ .created ∧ Pingless t.client.log s.client)
    (fun _ _ _ hs hstep => hs.2.step hs.1 hstep) hrun
    ⟨hpc, Pingless.start hclose⟩
  exact hkept.2.2

/-- A send checks for the connection before the close frame is read and
writes after it was answered. -/
def lateSendSteps : List TaskStep :=
  [.begin, .loop, .switch 0 [], .check ⟨.text, []⟩, .select, .polled 1, .loop,
    .switch 0 [.read [] 0 true (some Opcode.close.code)], .select, .loop,
    .switch 0 [], .send [], .select, .loop, .switch 0 [], .select, .loop,
    .switch 0 []]

/-- The send that came too late brings the connection back, without its
pings. -/
theorem late_send_ends_pings : (after lateSendSteps).client.state = .connected
    ∧ ∃ out, (after (lateSendSteps
        ++ [.select, .polled 0, .loop, .switch 0 []])).client.log
          = (after lateSendSteps).client.log ++ out
      ∧ ∀ e ∈ out, ¬ e.IsPing :=
  ⟨by decide +kernel, close_ends_pings (reachable_after (by decide +kernel))
    (by decide +kernel) (run_after (by decide +kernel))⟩

/-- A send keeps the state, or gives the connection up. -/
theorem sendLocked_state (clock : Clock) (c : EspWebsocketClient)
    (opcode : UInt8) (data : Bytes) (answers : List Int) :
    let c' := (c.sendLocked clock opcode data answers).2
    c'.state = c.state ∨ c'.state = .waitTimeout ∨ c'.state = .unknow := by
  unfold sendLocked
  simp only
  generalize sendLoop _ _ _ _ _ _ = r
  split
  · rcases abort_cases clock (c.logs (r.writes.map Output.write)).error
      .tcpTransport with ⟨-, heq⟩ | ⟨-, -, heq⟩ | ⟨-, -, heq⟩
    · simp only [heq]
      exact Or.inl rfl
    · simp only [heq]
      exact Or.inr (Or.inl rfl)
    · simp only [heq]
      exact Or.inr (Or.inr rfl)
  · exact Or.inl rfl

/-- While the task polls, the client is not closing: a close frame is read
by the task itself, and not then. -/
theorem polling_not_closing (h : Reachable clock config t)
    (hpc : t.pc = .polling ∨ t.pc = .pollFailed) :
    t.client.state ≠ .closing := by
  refine System.reachableBy_induction (P := fun t =>
    t.pc = .polling ∨ t.pc = .pollFailed → t.client.state ≠ .closing)
    (fun t hinit _ => ?_) (fun t e t' ht _ hstep => ?_) h hpc
  · obtain ⟨rx, rfl⟩ := hinit
    exact nofun
  · intro hpc
    cases step_does hstep with
    | begins _ => rcases hpc with hpc | hpc <;> cases hpc
    | works _ hgoes hpoll =>
        rcases hpc with hpc | hpc
        · simp only [hgoes.polling hpc, ne_eq, reduceCtorEq, not_false_eq_true]
        · obtain ⟨hpolling, hstate⟩ := hpoll hpc
          rw [hstate]
          exact ht (Or.inl hpolling)
    | closes _ => rcases hpc with hpc | hpc <;> cases hpc
    | finishes _ => rcases hpc with hpc | hpc <;> cases hpc
    | checks _ _ => exact ht hpc
    | refuses _ _ => exact ht hpc
    | givesUp _ => exact ht hpc
    | sends answers _ =>
        intro hclosing
        rcases sendLocked_state clock t.client _ _ answers with hs | hs | hs
        · exact ht hpc (hs.symm.trans hclosing)
        · cases hs.symm.trans hclosing
        · cases hs.symm.trans hclosing

/-- The server has closed the connection and nobody is sending: behind
`base` there is nothing in the log but what is left to do. -/
structure Closing (base : List Entry) (t : ClientTask) : Prop where
  sender : t.sender = none
  log : ∃ out, t.client.log = base ++ out ∧ ∀ e ∈ out, e.IsLast
  stands : (t.client.state = .closing ∧ t.client.run = true
      ∧ t.pc ∈ [.loop, .locking, .switched, .closing])
    ∨ (t.client.state = .unknow ∧ t.pc ∈ [.left, .deleted])

theorem Closing.adds {base : List Entry} {c : EspWebsocketClient} {e : Entry}
    (h : Closing base t) (hlog : c.log = t.client.log ++ [e]) (he : e.IsLast) :
    ∃ out, c.log = base ++ out ∧ ∀ e ∈ out, e.IsLast := by
  obtain ⟨out, hout, hlast⟩ := h.log
  refine ⟨out ++ [e], by rw [hlog, hout, List.append_assoc], fun x hx => ?_⟩
  rcases List.mem_append.mp hx with hx | hx
  · exact hlast x hx
  · rw [List.mem_singleton.mp hx]
    exact he

theorem Closing.step {base : List Entry} {e : TaskStep} (h : Closing base t)
    (hstep : step clock t e = some t') : Closing base t' := by
  have hnever : t.pc ≠ .created ∧ t.pc ≠ .polling ∧ t.pc ≠ .pollFailed := by
    refine ⟨?_, ?_, ?_⟩
    all_goals
      intro hpc
      rcases h.stands with ⟨-, -, hin⟩ | ⟨-, hin⟩ <;> rw [hpc] at hin <;>
        exact absurd hin (by decide)
  have hgoing : t.pc ∉ [.left, .deleted] →
      t.client.state = .closing ∧ t.client.run = true := by
    intro hno
    rcases h.stands with ⟨hstate, hrun, -⟩ | ⟨-, hpc⟩
    · exact ⟨hstate, hrun⟩
    · exact absurd hpc hno
  cases e with
  | begin =>
      simp only [ClientTask.step] at hstep
      split at hstep <;> cases hstep
      next hpc => exact absurd hpc hnever.1
  | loop =>
      simp only [ClientTask.step] at hstep
      split at hstep <;> cases hstep
      next hpc =>
      obtain ⟨hstate, hrun⟩ := hgoing (by rw [hpc]; decide)
      refine ⟨h.sender, h.log, Or.inl ⟨hstate, hrun, ?_⟩⟩
      simp [hrun]
  | switch connect reads =>
      simp only [ClientTask.step] at hstep
      split at hstep <;> cases hstep
      next hpc =>
      obtain ⟨hstate, hrun⟩ := hgoing (by rw [hpc]; decide)
      have hswitch : t.client.switchState clock t.readSelect connect reads
          = t.client.switchClosing := by
        unfold switchState
        rw [hstate]
      rw [hswitch]
      unfold switchClosing
      cases t.client.closeFrameSent with
      | true => exact ⟨h.sender, h.log, Or.inl ⟨hstate, hrun, by simp⟩⟩
      | false => exact ⟨h.sender, h.adds rfl rfl,
          Or.inl ⟨hstate, hrun, by simp⟩⟩
  | select =>
      simp only [ClientTask.step] at hstep
      split at hstep <;> cases hstep
      next hpc =>
      obtain ⟨hstate, hrun⟩ := hgoing (by rw [hpc]; decide)
      unfold select
      simp only [hstate]
      split
      · exact ⟨h.sender, h.log, Or.inl ⟨hstate, hrun, by simp⟩⟩
      · exact ⟨h.sender, h.log, Or.inl ⟨hstate, hrun, by simp⟩⟩
  | polled result =>
      simp only [ClientTask.step] at hstep
      split at hstep <;> cases hstep
      next hpc => exact absurd hpc hnever.2.1
  | pollAborts =>
      simp only [ClientTask.step] at hstep
      split at hstep <;> cases hstep
      next hpc => exact absurd hpc hnever.2.2
  | closed =>
      simp only [ClientTask.step] at hstep
      split at hstep <;> cases hstep
      exact ⟨h.sender, h.adds rfl (Or.inl rfl), Or.inr ⟨rfl, by simp⟩⟩
  | finish =>
      simp only [ClientTask.step] at hstep
      split at hstep <;> cases hstep
      exact ⟨h.sender, h.adds rfl (Or.inr rfl), Or.inr ⟨rfl, by simp⟩⟩
  | check m =>
      simp only [ClientTask.step] at hstep
      split at hstep <;> cases hstep
      have hoff : t.client.isConnected = false := by
        apply decide_eq_false
        rcases h.stands with ⟨hstate, -⟩ | ⟨hstate, -⟩
          <;> rw [hstate] <;> decide
      rw [hoff, if_neg Bool.false_ne_true]
      exact ⟨h.sender, h.adds rfl rfl, h.stands⟩
  | lockTimeout =>
      simp only [ClientTask.step, h.sender] at hstep
      cases hstep
  | send answers =>
      simp only [ClientTask.step, h.sender] at hstep
      cases hstep

/-- Whatever is done from there on. -/
theorem closing_run {es : List TaskStep} (h : Reachable clock config t)
    (hstate : t.client.state = .closing) (hsender : t.sender = none)
    (hrun : (system clock config).run t es = some t') :
    Closing t.client.log t' := by
  have horder := reachable_inOrder h
  have hon : t.client.run = true := horder.sound.run
    ⟨by rw [hstate]; decide, by rw [hstate]; decide⟩
  have hidle : ¬ (t.pc = .created ∨ t.pc = .left ∨ t.pc = .deleted) := by
    intro hpc
    rw [horder.idle hpc] at hon
    cases hon
  have hpoll : ¬ (t.pc = .polling ∨ t.pc = .pollFailed) := fun hpc =>
    polling_not_closing h hpc hstate
  have hstart : Closing t.client.log t := by
    refine ⟨hsender, ⟨[], (List.append_nil _).symm, by simp⟩,
      Or.inl ⟨hstate, hon, ?_⟩⟩
    cases hpc : t.pc <;> simp [hpc] at hidle hpoll ⊢
  exact System.run_invariant (P := Closing t.client.log)
    (fun _ _ _ hs hstep => hs.step hstep) hrun hstart

theorem Closing.not_connected {base : List Entry} (h : Closing base t) :
    t.client.state ≠ .connected := by
  rcases h.stands with ⟨hstate, -⟩ | ⟨hstate, -⟩ <;> rw [hstate] <;> decide

/-- Once the server has sent a close frame, and unless a send is under way,
the client answers it and ends: it posts its closed event and its finish,
makes no further attempt, is never connected again, and whatever is sent
fails, until it is started anew. A reconnect timeout does not change
that. -/
theorem closed_for_good {es : List TaskStep} (h : Reachable clock config t)
    (hstate : t.client.state = .closing) (hsender : t.sender = none)
    (hrun : (system clock config).run t es = some t') :
    t'.client.state ≠ .connected
      ∧ ∃ out, t'.client.log = t.client.log ++ out ∧ ∀ e ∈ out, e.IsLast := by
  have hkept := closing_run h hstate hsender hrun
  exact ⟨hkept.not_connected, hkept.log⟩

/-- What is left to do once the close frame was read, and a send. -/
def endSteps : List TaskStep :=
  [.select, .loop, .switch 0 [], .check ⟨.text, []⟩, .select, .closed, .finish]

/-- The dial's client does not come back. -/
theorem closed_client_stays_closed :
    (after (closeSteps ++ endSteps)).client.state ≠ .connected
      ∧ ∃ out, (after (closeSteps ++ endSteps)).client.log
          = (after closeSteps).client.log ++ out
        ∧ ∀ e ∈ out, e.IsLast :=
  closed_for_good (reachable_after (by decide +kernel)) (by decide +kernel)
    (by decide +kernel) (run_after (by decide +kernel))

end ClientTask

end WledDial
