/-
The timers of a client: when it tries again, when it pings, and when it
takes a silent connection for dead.

# Times

An entry of the log carries the number of clock readings made before it,
so `clock.read (e.ticks - 1)` is the last reading before the entry `e`.
Where a result bounds a time from above, `δ` is how far the clock may
get between two readings, which is what the polls and the delays of the
task leave to the scheduler.

# The results

A lost connection is tried again after the reconnect timeout and at most
two readings later (`retries_paced`); two pings are more than the ping
interval apart (`pings_spaced`); a client that gives a connection up for
an overdue pong has sent a ping on it that was not answered for longer
than the pong timeout (`pong_timeouts_justified`); and a connection on
which nothing is read does not stay up for longer than the two timeouts
allow (`silence_bounded`).
-/
import WledDial.Proofs.ClientEvents

namespace WledDial

open Transition History

/-- A disconnect. -/
def Entry.IsDisconnect (e : Entry) : Prop :=
  ∃ d errorType, e.output = .event .disconnected d errorType

/-- An attempt to connect. -/
def Entry.IsAttempt (e : Entry) : Prop :=
  ∃ d errorType, e.output = .event .beforeConnect d errorType

-- ============================================================== retries

/-- The last disconnect came right behind reading `i`, and no attempt was
made since. -/
def LastDisconnect (i : Nat) (log : List Entry) : Prop :=
  Since (fun x => ¬ x.IsDisconnect ∧ ¬ x.IsAttempt)
    (fun x => x.IsDisconnect ∧ x.ticks = i + 1) log

/-- An attempt at reading `j` keeps to the timeout that reading `i`
started. -/
def InTime (clock : Clock) (config : ClientConfig) (i j : Nat) : Prop :=
  clock.read i + config.waitMs < clock.read j
    ∧ ∀ δ, (∀ n, clock.read (n + 1) ≤ clock.read n + δ) →
      clock.read j ≤ clock.read i + config.waitMs + 2 * δ

/-- Every attempt keeps to the timeout of the last disconnect. -/
def Paced (clock : Clock) (config : ClientConfig) : List Entry → Prop :=
  Throughout fun before e => e.IsAttempt →
    ∀ i, LastDisconnect i before → InTime clock config i (e.ticks - 1)

namespace EspWebsocketClient

/-- The invariant of the reconnect timer. -/
structure Retrying (clock : Clock) (config : ClientConfig) (pc : TaskPc)
    (c : EspWebsocketClient) : Prop where
  config_eq : c.config = config
  ticks : 0 < c.ticks
  created : pc = .created → c.state = .unknow ∧ ∀ e ∈ c.log, ¬ e.IsDisconnect
  waits : c.state = .waitTimeout → ∀ i, LastDisconnect i c.log →
    c.reconnectTickMs = clock.read i
      ∧ clock.read (c.ticks - 1) ≤ clock.read i + config.waitMs
  starts : c.state = .init → ∀ i, LastDisconnect i c.log →
    InTime clock config i (c.ticks - 1)
  paced : Paced clock config c.log

variable {clock : Clock} {config : ClientConfig} {pc : TaskPc}
  {c c' : EspWebsocketClient} {es : List Entry}

/-- A client that was started has begun. -/
theorem Retrying.begun (h : Retrying clock config pc c)
    (hstart : c.state ≠ .unknow) : pc ≠ .created :=
  fun hpc => hstart (h.created hpc).1

/-- A client that has ended makes no attempt. -/
theorem Retrying.ended {pc' : TaskPc} {e : Entry}
    (h : Retrying clock config pc c) (hpc : pc' ≠ .created)
    (he : ¬ e.IsAttempt) (hlog : c'.log = c.log ++ [e])
    (hstate : c'.state = .unknow) (hconfig : c'.config = c.config)
    (hticks : c'.ticks = c.ticks) : Retrying clock config pc' c' where
  config_eq := hconfig.trans h.config_eq
  ticks := by rw [hticks]; exact h.ticks
  created hcreated := absurd hcreated hpc
  waits hwaits := by cases hstate.symm.trans hwaits
  starts hstarts := by cases hstate.symm.trans hstarts
  paced := by
    rw [hlog]
    exact throughout_concat h.paced fun hattempt => absurd hattempt he

/-- Entries that are neither attempts nor disconnects are none of the
timer's business. -/
theorem Retrying.plain (h : Retrying clock config pc c)
    (hes : ∀ e ∈ es, ¬ e.IsDisconnect ∧ ¬ e.IsAttempt)
    (hlog : c'.log = c.log ++ es) (hconfig : c'.config = c.config)
    (hticks : c.ticks ≤ c'.ticks)
    (hstate : (c'.state = c.state ∧ c'.reconnectTickMs = c.reconnectTickMs
        ∧ (c'.ticks = c.ticks ∨ c.state = .connected))
      ∨ (c'.state ≠ .waitTimeout ∧ c'.state ≠ .init ∧ c.state ≠ .unknow)) :
    Retrying clock config pc c' := by
  have hlast : ∀ {i}, LastDisconnect i c'.log → LastDisconnect i c.log := by
    intro i hlast
    rw [hlog] at hlast
    exact since_of_append (fun e he hdisc => (hes e he).1 hdisc.1) hlast
  refine ⟨hconfig.trans h.config_eq, Nat.lt_of_lt_of_le h.ticks hticks, ?_, ?_,
    ?_, ?_⟩
  · intro hpc
    obtain ⟨hunknow, hno⟩ := h.created hpc
    rcases hstate with ⟨hstate, -⟩ | ⟨-, -, hstart⟩
    · refine ⟨hstate.trans hunknow, fun e he => ?_⟩
      rw [hlog] at he
      rcases List.mem_append.mp he with he | he
      · exact hno e he
      · exact (hes e he).1
    · exact absurd hunknow hstart
  · intro hwait i hi
    rcases hstate with ⟨hstate, hreconnect, hticks⟩ | ⟨hno, -⟩
    · rw [hstate] at hwait
      rcases hticks with hticks | hconn
      · rw [hreconnect, hticks]
        exact h.waits hwait i (hlast hi)
      · rw [hwait] at hconn
        cases hconn
    · exact absurd hwait hno
  · intro hinit i hi
    rcases hstate with ⟨hstate, -, hticks⟩ | ⟨-, hno, -⟩
    · rw [hstate] at hinit
      rcases hticks with hticks | hconn
      · rw [hticks]
        exact h.starts hinit i (hlast hi)
      · rw [hinit] at hconn
        cases hconn
    · exact absurd hinit hno
  · rw [hlog]
    exact throughout_append h.paced fun e he _ hattempt =>
      absurd hattempt (hes e he).2

/-- Giving a connection up starts the timer. -/
theorem Retrying.drops (hconfig : c.config = config) (hticks : 0 < c.ticks)
    (hpc : pc ≠ .created) (hstart : c.Started)
    (hpaced : Paced clock config c.log) (errorType : ErrorType) :
    Retrying clock config pc (c.abortConnection clock errorType) := by
  have hcons : ∀ {e : Entry}, e.IsDisconnect →
      Paced clock config (c.log ++ [e]) := by
    intro e he
    refine throughout_concat hpaced fun hattempt => ?_
    obtain ⟨d, errorType, hout⟩ := he
    obtain ⟨d', errorType', hout'⟩ := hattempt
    rw [hout] at hout'
    cases hout'
  rcases abort_cases clock c errorType with
    ⟨hno, -⟩ | ⟨-, -, heq⟩ | ⟨-, -, heq⟩
  · exact absurd hstart hno
  · rw [heq]
    refine ⟨hconfig, Nat.succ_pos _, fun h => absurd h hpc, fun _ i hi => ?_,
      nofun, hcons ⟨_, _, rfl⟩⟩
    rcases since_concat_iff.mp hi with ⟨-, hi⟩ | ⟨⟨hno, -⟩, -⟩
    · have hi : c.ticks = i := Nat.succ.inj hi
      subst hi
      exact ⟨rfl, Nat.le_add_right ..⟩
    · exact absurd ⟨_, _, rfl⟩ hno
  · rw [heq]
    exact ⟨hconfig, hticks, fun h => absurd h hpc, nofun, nofun,
      hcons ⟨_, _, rfl⟩⟩

/-- An attempt keeps to the timer. -/
theorem Retrying.attempt (h : Retrying clock config pc c)
    (hstate : c.state = .init) :
    Paced clock config (c.dispatchEvent .beforeConnect []).log :=
  throughout_concat h.paced fun _ i hi => h.starts hstate i hi

/-- The data events of a frame. -/
theorem plain_data (errorType : ErrorType) (ticks : Nat) (ds : List EventData) :
    ∀ e ∈ (dataOutputs errorType ds).map (Entry.mk ticks),
      ¬ e.IsDisconnect ∧ ¬ e.IsAttempt := by
  intro e he
  obtain ⟨o, ho, rfl⟩ := List.mem_map.mp he
  obtain ⟨d, -, rfl⟩ := List.mem_map.mp ho
  exact ⟨nofun, nofun⟩

/-- Every move keeps to the timer. -/
theorem Retrying.move {caller : Bool} (h : Retrying clock config pc c)
    (hmove : Move clock caller c c') : Retrying clock config pc c' := by
  have hcontrol : ∀ {ticks : Nat} {op : UInt8} {payload : Bytes},
      ∀ e ∈ [Entry.mk ticks (.control op payload)],
        ¬ e.IsDisconnect ∧ ¬ e.IsAttempt := by
    intro ticks op payload e he
    rw [List.mem_singleton.mp he]
    exact ⟨nofun, nofun⟩
  have hstarted : ∀ {state : ClientState}, c.state = state → state ≠ .error →
      state ≠ .unknow → c.Started ∧ pc ≠ .created := by
    intro state hstate herror hunknow
    exact ⟨⟨hstate ▸ herror, hstate ▸ hunknow⟩, h.begun (hstate ▸ hunknow)⟩
  cases hmove with
  | reading hstate =>
      rcases hstate with hconn | ⟨hwait, hle⟩
      · exact h.plain (by simp) (List.append_nil _).symm rfl
          (Nat.le_succ _) (Or.inl ⟨rfl, rfl, Or.inr hconn⟩)
      · refine ⟨h.config_eq, Nat.succ_pos _, h.created, fun _ i hi => ?_,
          fun hinit => ?_, h.paced⟩
        · obtain ⟨hreconnect, -⟩ := h.waits hwait i hi
          rw [hreconnect, h.config_eq] at hle
          exact ⟨hreconnect, hle⟩
        · exact absurd (hwait.symm.trans hinit) nofun
  | touches hconn =>
      exact h.plain (by simp) (List.append_nil _).symm rfl
        (Nat.le_succ _) (Or.inl ⟨rfl, rfl, Or.inr hconn⟩)
  | @asides o haside =>
      refine h.plain (fun e he => ?_) rfl rfl
        (Nat.le_refl _) (Or.inl ⟨rfl, rfl, Or.inl rfl⟩)
      rw [List.mem_singleton.mp he]
      constructor
      · intro hdisc
        obtain ⟨d, errorType, hout⟩ := hdisc
        have ho : o = .event .disconnected d errorType := hout
        rw [ho] at haside
        cases haside
      · intro hattempt
        obtain ⟨d, errorType, hout⟩ := hattempt
        have ho : o = .event .beforeConnect d errorType := hout
        rw [ho] at haside
        cases haside
  | aborts =>
      by_cases hstart : c.Started
      · exact Retrying.drops h.config_eq h.ticks (h.begun hstart.2) hstart
          h.paced _
      · rcases abort_cases clock c .tcpTransport with
          ⟨-, heq⟩ | ⟨hstart', -⟩ | ⟨hstart', -⟩
        · rw [heq]
          exact h
        · exact absurd hstart' hstart
        · exact absurd hstart' hstart
  | opens hstate =>
      obtain ⟨-, hpc⟩ := hstarted hstate nofun nofun
      refine ⟨h.config_eq, h.ticks, fun hcreated => absurd hcreated hpc, nofun,
        nofun, throughout_concat (h.attempt hstate) nofun⟩
  | misses hstate =>
      obtain ⟨hstart, hpc⟩ := hstarted hstate nofun nofun
      exact Retrying.drops (c := (c.dispatchEvent .beforeConnect []).error)
        h.config_eq h.ticks hpc hstart
        (throughout_concat (h.attempt hstate) nofun) _
  | pings hconn _ _ _ =>
      exact h.plain hcontrol rfl rfl (Nat.le_add_right ..)
        (Or.inl ⟨rfl, rfl, Or.inr hconn⟩)
  | awaits hconn _ _ _ =>
      exact h.plain hcontrol rfl rfl (Nat.le_add_right _ 3)
        (Or.inl ⟨rfl, rfl, Or.inr hconn⟩)
  | overdue hstate _ _ _ =>
      obtain ⟨hstart, hpc⟩ := hstarted hstate nofun nofun
      exact Retrying.drops (c := c.ticked.error) h.config_eq (Nat.succ_pos _)
        hpc hstart (throughout_concat h.paced nofun) _
  | @reads _ rx len off fin op ds _ =>
      exact h.plain (plain_data c.errorType c.ticks ds) rfl rfl
        (Nat.le_refl _) (Or.inl ⟨rfl, rfl, Or.inl rfl⟩)
  | @frames hconn rx len off fin op ds _ =>
      have hdata : Retrying clock config pc
          ((c.framed rx len off fin op).logs (dataOutputs c.errorType ds)) :=
        h.plain (plain_data c.errorType c.ticks ds) rfl rfl
          (Nat.le_refl _) (Or.inl ⟨rfl, rfl, Or.inl rfl⟩)
      rcases afterFrame_cases ((c.framed rx len off fin op).logs
        (dataOutputs c.errorType ds)) with
          ⟨-, heq⟩ | ⟨-, heq⟩ | ⟨-, heq⟩ | ⟨-, heq⟩
      · rw [heq]
        exact hdata.plain hcontrol rfl rfl (Nat.le_refl _)
          (Or.inl ⟨rfl, rfl, Or.inl rfl⟩)
      · rw [heq]
        exact hdata.plain (by simp) (List.append_nil _).symm rfl
          (Nat.le_refl _) (Or.inl ⟨rfl, rfl, Or.inl rfl⟩)
      · rw [heq]
        refine hdata.plain (by simp) (List.append_nil _).symm rfl
          (Nat.le_refl _) (Or.inr ⟨nofun, nofun, fun hunknow => ?_⟩)
        exact absurd (hconn.symm.trans hunknow) nofun
      · rw [heq]
        exact hdata
  | retries hstate hdue =>
      obtain ⟨-, hpc⟩ := hstarted hstate nofun nofun
      refine ⟨h.config_eq, Nat.succ_pos _, fun hcreated => absurd hcreated hpc,
        nofun, fun _ i hi => ?_, h.paced⟩
      obtain ⟨hreconnect, hlast⟩ := h.waits hstate i hi
      rw [hreconnect, h.config_eq] at hdue
      have hpos := h.ticks
      have hnow : clock.read c.ticks ≤ clock.read (c.ticks + 1) :=
        clock.mono (Nat.le_succ _)
      refine ⟨?_, fun δ hδ => ?_⟩
      · show clock.read i + config.waitMs < clock.read (c.ticks + 1)
        have hlate : config.waitMs < clock.read c.ticks - clock.read i := hdue
        omega
      · show clock.read (c.ticks + 1) ≤ _
        have hfirst := hδ (c.ticks - 1)
        have hsecond := hδ c.ticks
        rw [Nat.sub_add_cancel hpos] at hfirst
        omega
  | echoes hstate _ =>
      exact h.plain hcontrol rfl rfl (Nat.le_refl _)
        (Or.inl ⟨rfl, rfl, Or.inl rfl⟩)

end EspWebsocketClient

namespace ClientTask

open EspWebsocketClient

variable {clock : Clock} {config : ClientConfig} {t t' : ClientTask}

theorem reachable_retrying (h : Reachable clock config t) :
    Retrying clock config t.pc t.client := by
  refine reachable_rule (P := Retrying clock config) (fun rx => ?_)
    (fun c hc => ?_) (fun c hc => ?_) (fun c hc => ?_)
    (fun _ pc c c' hc hmove => hc.move hmove) (fun pc pc' c hc hgoes => ?_) h
  · refine ⟨rfl, Nat.succ_pos _,
      fun _ => ⟨rfl, by simp [EspWebsocketClient.init]⟩,
      fun hwaits => ?_, fun hstarts => ?_, throughout_nil⟩
    · cases hwaits
    · cases hstarts
  · -- nothing was lost before the task began
    refine ⟨hc.config_eq, hc.ticks, fun hpc => ?_, fun hwaits => ?_,
      fun _ i hi => ?_, throughout_concat hc.paced fun hattempt => ?_⟩
    · cases hpc
    · cases hwaits
    · rcases since_concat_iff.mp hi with ⟨hdisc, -⟩ | ⟨-, hi⟩
      · obtain ⟨d, errorType, hout⟩ := hdisc
        cases hout
      · refine (not_since_nil (since_of_append
          (fun e he hdisc => ?_) hi)).elim
        exact (hc.created rfl).2 e he hdisc.1
    · obtain ⟨d, errorType, hout⟩ := hattempt
      cases hout
  · exact hc.ended (e := ⟨_, .event .closed _ _⟩) (by decide)
      (by simp [Entry.IsAttempt]) rfl rfl rfl rfl
  · exact hc.ended (e := ⟨_, .event .finish _ _⟩) (by decide)
      (by simp [Entry.IsAttempt]) rfl rfl rfl rfl
  · exact ⟨hc.config_eq, hc.ticks, fun hpc => absurd hpc hgoes.still.1,
      hc.waits, hc.starts, hc.paced⟩

/-- Between a disconnect and the next attempt the reconnect timeout passes,
and not more than two readings of the clock beyond it, whatever the
caller does meanwhile. -/
theorem retries_paced (h : Reachable clock config t) :
    Paced clock config t.client.log :=
  (reachable_retrying h).paced

/-- The first attempt fails, the second comes twenty seconds later. -/
theorem second_attempt_paced : Paced slowClock .dial
    (after [.begin, .loop, .switch (-1) [], .select, .loop, .switch 0 [],
      .select, .loop, .switch 0 []]).client.log :=
  retries_paced (reachable_after (by decide +kernel))

end ClientTask

-- ================================================================ pings

/-- Pings are apart. -/
def Spaced (clock : Clock) (config : ClientConfig) : List Entry → Prop :=
  Throughout fun before e => e.IsPing → ∀ x ∈ before, x.IsPing →
    clock.read (x.ticks - 1) + config.pingMs < clock.read (e.ticks - 1)

namespace EspWebsocketClient

variable {clock : Clock} {config : ClientConfig} {c c' : EspWebsocketClient}
  {es : List Entry}

/-- The invariant of the ping timer. -/
structure Pinging (clock : Clock) (config : ClientConfig)
    (c : EspWebsocketClient) : Prop where
  config_eq : c.config = config
  past : c.pingTickMs ≤ clock.read c.ticks
  since : ∀ x ∈ c.log, x.IsPing → clock.read (x.ticks - 1) ≤ c.pingTickMs
  spaced : Spaced clock config c.log

/-- What is no ping may set the timer forward. -/
theorem Pinging.plain (h : Pinging clock config c)
    (hes : ∀ e ∈ es, ¬ e.IsPing) (hlog : c'.log = c.log ++ es)
    (hconfig : c'.config = c.config) (hle : c.pingTickMs ≤ c'.pingTickMs)
    (hpast : c'.pingTickMs ≤ clock.read c'.ticks) :
    Pinging clock config c' := by
  refine ⟨hconfig.trans h.config_eq, hpast, fun x hx hping => ?_, ?_⟩
  · rw [hlog] at hx
    rcases List.mem_append.mp hx with hx | hx
    · exact Nat.le_trans (h.since x hx hping) hle
    · exact absurd hping (hes x hx)
  · rw [hlog]
    exact throughout_append h.spaced fun e he _ hping =>
      absurd hping (hes e he)

theorem no_ping {opcode : UInt8} {payload : Bytes}
    (h : opcode ≠ Opcode.ping.code ||| finBit) :
    Output.control opcode payload
      ≠ .control (Opcode.ping.code ||| finBit) [] := by
  intro heq
  injection heq with hop
  exact h hop

theorem no_ping_event (id : EventId) {d : EventData} {errorType : ErrorType} :
    Output.event id d errorType
      ≠ .control (Opcode.ping.code ||| finBit) [] := by
  intro heq
  cases heq

/-- An output that is no ping. -/
theorem Pinging.output (h : Pinging clock config c) {o : Output}
    (ho : o ≠ .control (Opcode.ping.code ||| finBit) [])
    (hlog : c'.log = c.log ++ [⟨c.ticks, o⟩]) (hconfig : c'.config = c.config)
    (hle : c'.pingTickMs = c.pingTickMs) (hticks : c'.ticks = c.ticks) :
    Pinging clock config c' := by
  refine h.plain (fun e he hping => ?_) hlog hconfig (Nat.le_of_eq hle.symm)
    (by rw [hle, hticks]; exact h.past)
  rw [List.mem_singleton.mp he] at hping
  exact ho hping

/-- A reading. -/
theorem Pinging.reads (h : Pinging clock config c) {n : Nat}
    (hlog : c'.log = c.log) (hconfig : c'.config = c.config)
    (hle : c'.pingTickMs = c.pingTickMs) (hticks : c'.ticks = c.ticks + n) :
    Pinging clock config c' := by
  have hnone : c'.log = c.log ++ [] := by rw [hlog, List.append_nil]
  apply h.plain (by simp) hnone hconfig (Nat.le_of_eq hle.symm)
  rw [hle, hticks]
  exact Nat.le_trans h.past (clock.mono (Nat.le_add_right ..))

theorem Pinging.abort (h : Pinging clock config c) (errorType : ErrorType) :
    Pinging clock config (c.abortConnection clock errorType) := by
  rcases abort_cases clock c errorType with
    ⟨-, heq⟩ | ⟨-, -, heq⟩ | ⟨-, -, heq⟩
  · rw [heq]
    exact h
  · rw [heq]
    have hread : Pinging clock config c.ticked :=
      h.reads (n := 1) rfl rfl rfl rfl
    exact hread.output (o := .event .disconnected _ _) nofun rfl rfl rfl rfl
  · rw [heq]
    exact h.output (o := .event .disconnected _ _) nofun rfl rfl rfl rfl

/-- The data events of a frame. -/
theorem Pinging.data (h : Pinging clock config c) (rx : Bytes) (len off : Nat)
    (fin : Bool) (op : Option UInt8) (ds : List EventData) :
    Pinging clock config
      ((c.framed rx len off fin op).logs (dataOutputs c.errorType ds)) := by
  refine h.plain
    (fun e he => ?_) rfl rfl (Nat.le_refl _) h.past
  obtain ⟨o, ho, rfl⟩ := List.mem_map.mp he
  obtain ⟨d, -, rfl⟩ := List.mem_map.mp ho
  exact nofun

/-- A ping sets the timer to the reading before it. -/
theorem Pinging.ping (h : Pinging clock config c)
    (hdue : c.config.pingMs < c.now clock - c.pingTickMs) :
    Pinging clock config (c.pinged clock) := by
  rw [h.config_eq] at hdue
  have hdue : config.pingMs < clock.read c.ticks - c.pingTickMs := hdue
  have hmono : clock.read c.ticks ≤ clock.read (c.ticks + 1) :=
    clock.mono (Nat.le_succ _)
  refine ⟨h.config_eq, clock.mono (Nat.le_succ _), fun x hx hping => ?_,
    throughout_concat h.spaced fun _ x hx hping => ?_⟩
  · show clock.read (x.ticks - 1) ≤ clock.read (c.ticks + 1)
    rcases List.mem_append.mp hx with hx | hx
    · have hsince := h.since x hx hping
      omega
    · rw [List.mem_singleton.mp hx]
      exact Nat.le_refl _
  · show clock.read (x.ticks - 1) + config.pingMs < clock.read (c.ticks + 1)
    have hsince := h.since x hx hping
    omega

theorem Pinging.move {caller : Bool} (h : Pinging clock config c)
    (hmove : Move clock caller c c') : Pinging clock config c' := by
  cases hmove with
  | reading _ => exact h.reads (n := 1) rfl rfl rfl rfl
  | touches _ =>
      exact h.plain (by simp) (List.append_nil _).symm rfl h.past
        (clock.mono (Nat.le_succ _))
  | @asides o haside =>
      refine h.output (o := o) (fun ho => ?_) rfl rfl rfl rfl
      rw [ho] at haside
      exact haside
  | aborts => exact h.abort _
  | opens _ =>
      have hbefore : Pinging clock config (c.dispatchEvent .beforeConnect []) :=
        h.output (o := .event .beforeConnect _ _) nofun rfl rfl rfl rfl
      exact hbefore.output (o := .event .connected _ _) nofun rfl rfl rfl rfl
  | misses _ =>
      have hbefore : Pinging clock config (c.dispatchEvent .beforeConnect []) :=
        h.output (o := .event .beforeConnect _ _) nofun rfl rfl rfl rfl
      have herror : Pinging clock config
          (c.dispatchEvent .beforeConnect []).error :=
        hbefore.output (o := .event .error _ _) nofun rfl rfl rfl rfl
      exact herror.abort _
  | pings _ _ hdue _ => exact h.ping hdue
  | awaits _ _ hdue _ => exact (h.ping hdue).reads (n := 1) rfl rfl rfl rfl
  | overdue _ _ _ _ =>
      have hread : Pinging clock config c.ticked :=
        h.reads (n := 1) rfl rfl rfl rfl
      have herror : Pinging clock config c.ticked.error :=
        hread.output (o := .event .error _ _) nofun rfl rfl rfl rfl
      exact herror.abort _
  | reads _ rx len off fin op _ => exact h.data rx len off fin op _
  | @frames _ rx len off fin op ds _ =>
      have hdata := h.data rx len off fin op ds
      rcases afterFrame_cases ((c.framed rx len off fin op).logs
        (dataOutputs c.errorType ds)) with
          ⟨-, heq⟩ | ⟨-, heq⟩ | ⟨-, heq⟩ | ⟨-, heq⟩
      · rw [heq]
        exact hdata.output (no_ping (by decide)) rfl rfl rfl rfl
      · rw [heq]
        exact hdata.reads (n := 0) rfl rfl rfl rfl
      · rw [heq]
        exact hdata.reads (n := 0) rfl rfl rfl rfl
      · rw [heq]
        exact hdata
  | retries _ _ => exact h.reads (n := 2) rfl rfl rfl rfl
  | echoes _ _ =>
      exact h.output (no_ping
        (by decide)) rfl rfl rfl rfl

end EspWebsocketClient

namespace ClientTask

open EspWebsocketClient

variable {clock : Clock} {config : ClientConfig} {t t' : ClientTask}

theorem reachable_pinging (h : Reachable clock config t) :
    Pinging clock config t.client := by
  refine reachable_rule (P := fun _ => Pinging clock config) (fun rx => ?_)
    (fun c hc => ?_) (fun c hc => ?_) (fun c hc => ?_)
    (fun _ pc c c' hc hmove => hc.move hmove) (fun pc pc' c hc _ => hc) h
  · exact ⟨rfl, clock.mono (Nat.le_succ 2), by simp [EspWebsocketClient.init],
      throughout_nil⟩
  · exact hc.output (no_ping_event .begin) rfl rfl rfl rfl
  · exact hc.output (no_ping_event .closed) rfl rfl rfl rfl
  · exact hc.output (no_ping_event .finish) rfl rfl rfl rfl

/-- Two pings are more than the ping interval apart, also on different
connections. -/
theorem pings_spaced (h : Reachable clock config t) :
    Spaced clock config t.client.log :=
  (reachable_pinging h).spaced

/-- Two pings of the dial's client. -/
theorem two_pings_spaced : Spaced slowClock .dial
    (after [.begin, .loop, .switch 0 [], .select, .polled 0, .loop,
      .switch 0 [], .select, .polled 0, .loop, .switch 0 []]).client.log :=
  pings_spaced (reachable_after (by decide +kernel))

end ClientTask

-- ================================================================ pongs

/-- The last data event of a pong. -/
def Entry.IsPong (e : Entry) : Prop :=
  ∃ d errorType, e.output = .event .data d errorType
    ∧ d.opCode = Opcode.pong.code ∧ d.Completes

/-- A disconnect for an overdue pong. -/
def Entry.IsPongTimeout (e : Entry) : Prop :=
  ∃ d, e.output = .event .disconnected d .pongTimeout

/-- A ping was sent right before reading `i`, and on the same connection no
pong has come since. -/
def Unanswered (i : Nat) (log : List Entry) : Prop :=
  Since (fun x => ¬ x.IsPong ∧ ¬ x.IsConnect) (fun x => x.IsPing ∧ x.ticks = i)
    log

/-- Whenever a connection is given up for an overdue pong, a ping on it was
not answered for longer than the timeout. -/
def Justified (clock : Clock) (config : ClientConfig) : List Entry → Prop :=
  Throughout fun before e => e.IsPongTimeout → ∃ i, Unanswered i before
    ∧ clock.read i + config.pongMs < clock.read (e.ticks - 1)

namespace EspWebsocketClient

variable {clock : Clock} {config : ClientConfig} {c c' : EspWebsocketClient}
  {es : List Entry}

/-- The invariant of the pong timer. -/
structure Awaiting (clock : Clock) (config : ClientConfig)
    (c : EspWebsocketClient) : Prop where
  config_eq : c.config = config
  past : c.pingpongTickMs ≤ clock.read c.ticks
  awaits : c.waitForPongResp = true → ∃ i, Unanswered i c.log
    ∧ c.pingpongTickMs = clock.read i
  errorType : c.config.autoReconnect = false → c.errorType = .none
  justified : Justified clock config c.log

/-- What neither answers a ping nor gives a connection up for one. -/
theorem Awaiting.plain (h : Awaiting clock config c)
    (hes : ∀ e ∈ es, (¬ e.IsPong ∧ ¬ e.IsConnect) ∧ ¬ e.IsPongTimeout)
    (hlog : c'.log = c.log ++ es) (hconfig : c'.config = c.config)
    (hsame : c'.pingpongTickMs = c.pingpongTickMs
      ∧ c'.waitForPongResp = c.waitForPongResp) (hticks : c.ticks ≤ c'.ticks)
    (herror : c.config.autoReconnect = false → c'.errorType = .none) :
    Awaiting clock config c' := by
  refine ⟨hconfig.trans h.config_eq, ?_, ?_, ?_, ?_⟩
  · rw [hsame.1]
    exact Nat.le_trans h.past (clock.mono hticks)
  · rw [hsame.1, hsame.2, hlog]
    intro hwait
    obtain ⟨i, hi, htick⟩ := h.awaits hwait
    exact ⟨i, since_append hi fun e he => (hes e he).1, htick⟩
  · rw [hconfig]
    exact herror
  · rw [hlog]
    exact throughout_append h.justified fun e he _ htimeout =>
      absurd htimeout (hes e he).2

/-- A reading. -/
theorem Awaiting.reads (h : Awaiting clock config c) {n : Nat}
    (hlog : c'.log = c.log) (hconfig : c'.config = c.config)
    (hsame : c'.pingpongTickMs = c.pingpongTickMs
      ∧ c'.waitForPongResp = c.waitForPongResp)
    (hticks : c'.ticks = c.ticks + n)
    (herror : c'.errorType = c.errorType) : Awaiting clock config c' := by
  have hnone : c'.log = c.log ++ [] := by rw [hlog, List.append_nil]
  exact h.plain (by simp) hnone hconfig hsame
    (by rw [hticks]; exact Nat.le_add_right ..)
    (fun hauto => herror.trans (h.errorType hauto))

/-- One output that is no data event. -/
theorem Awaiting.output (h : Awaiting clock config c) {o : Output}
    (ho : ∀ d errorType, o ≠ .event .data d errorType
      ∧ o ≠ .event .connected d errorType
      ∧ o ≠ .event .disconnected d .pongTimeout)
    (hlog : c'.log = c.log ++ [⟨c.ticks, o⟩]) (hconfig : c'.config = c.config)
    (hsame : c'.pingpongTickMs = c.pingpongTickMs
      ∧ c'.waitForPongResp = c.waitForPongResp) (hticks : c'.ticks = c.ticks)
    (herror : c'.errorType = c.errorType) : Awaiting clock config c' := by
  refine h.plain (fun e he => ?_) hlog hconfig hsame (Nat.le_of_eq hticks.symm)
    (fun hauto => herror.trans (h.errorType hauto))
  rw [List.mem_singleton.mp he]
  refine ⟨⟨?_, ?_⟩, ?_⟩
  · intro hpong
    obtain ⟨d, errorType, hout, -⟩ := hpong
    exact (ho d errorType).1 hout
  · intro hconnect
    obtain ⟨d, errorType, hout⟩ := hconnect
    exact (ho d errorType).2.1 hout
  · intro htimeout
    obtain ⟨d, hout⟩ := htimeout
    exact (ho d .none).2.2 hout

/-- Giving a connection up: for an overdue pong only if it is. -/
theorem Awaiting.abort (h : Awaiting clock config c) {errorType : ErrorType}
    (hlate : errorType = .pongTimeout → c.waitForPongResp = true
      ∧ c.pingpongTickMs + config.pongMs < clock.read c.ticks) :
    Awaiting clock config (c.abortConnection clock errorType) := by
  rcases abort_cases clock c errorType with
    ⟨-, heq⟩ | ⟨-, hauto, heq⟩ | ⟨-, hauto, heq⟩
  · rw [heq]
    exact h
  · rw [heq]
    have hcalm : ∀ x ∈ [Entry.mk (c.ticks + 1)
        (.event .disconnected (c.eventData []) errorType)],
          ¬ x.IsPong ∧ ¬ x.IsConnect := by
      intro x hx
      rw [List.mem_singleton.mp hx]
      exact ⟨nofun, nofun⟩
    refine ⟨h.config_eq, Nat.le_trans h.past (clock.mono (Nat.le_succ _)),
      fun hwait => ?_, fun hno => ?_,
      throughout_concat h.justified fun htimeout => ?_⟩
    · obtain ⟨i, hi, htick⟩ := h.awaits hwait
      exact ⟨i, since_append hi hcalm, htick⟩
    · exact absurd (hauto.symm.trans hno) nofun
    · obtain ⟨d, hout⟩ := htimeout
      cases hout
      obtain ⟨hwait, hlt⟩ := hlate rfl
      obtain ⟨i, hi, htick⟩ := h.awaits hwait
      rw [htick] at hlt
      exact ⟨i, hi, hlt⟩
  · rw [heq]
    refine h.output (o := .event .disconnected (c.eventData []) c.errorType)
      (fun d errorType => ⟨nofun, nofun, ?_⟩) rfl rfl ⟨rfl, rfl⟩ rfl rfl
    rw [h.errorType hauto]
    exact nofun

/-- The data events of a frame that is no pong. -/
theorem Awaiting.data (h : Awaiting clock config c) (rx : Bytes) (len off : Nat)
    (fin : Bool) (op : Option UInt8) {ds : List EventData}
    (hds : ∀ d ∈ ds, d.opCode = Opcode.pong.code → ¬ d.Completes) :
    Awaiting clock config
      ((c.framed rx len off fin op).logs (dataOutputs c.errorType ds)) := by
  refine h.plain
    (fun e he => ?_) rfl rfl ⟨rfl, rfl⟩ (Nat.le_refl _) h.errorType
  obtain ⟨o, ho, rfl⟩ := List.mem_map.mp he
  obtain ⟨d, hd, rfl⟩ := List.mem_map.mp ho
  refine ⟨⟨?_, nofun⟩, nofun⟩
  intro hpong
  obtain ⟨d', errorType, hout, hop, hdone⟩ := hpong
  cases hout
  exact hds d hd hop hdone

/-- The events of a whole frame tell a pong by the opcode of the frame. -/
theorem no_pong {rx : Bytes} {len : Nat} {op : Option UInt8}
    {ds : List EventData} (hends : EndsFrame rx len op ds)
    (hop : op ≠ some Opcode.pong.code) :
    ∀ d ∈ ds, d.opCode = Opcode.pong.code → ¬ d.Completes := by
  obtain ⟨ds', last, rfl, hlast, -, -, -, hds'⟩ := hends
  intro d hd hpong
  rcases List.mem_append.mp hd with hd | hd
  · exact hds' d hd
  · rw [List.mem_singleton.mp hd, hlast] at hpong
    cases op with
    | none => exact absurd hpong (by decide)
    | some opcode => exact absurd (congrArg some hpong) hop

/-- A pong ends the waiting. -/
theorem Awaiting.pong (h : Awaiting clock config c) (rx : Bytes)
    (len off : Nat) (fin : Bool) (op : Option UInt8) (ds : List EventData) :
    Awaiting clock config
      { (c.framed rx len off fin op).logs (dataOutputs c.errorType ds) with
        waitForPongResp := false } := by
  refine ⟨h.config_eq, h.past, nofun, h.errorType,
    throughout_append h.justified fun e he _ htimeout => ?_⟩
  obtain ⟨o, ho, rfl⟩ := List.mem_map.mp he
  obtain ⟨d, -, rfl⟩ := List.mem_map.mp ho
  obtain ⟨d', hout⟩ := htimeout
  cases hout

/-- The first ping of a silence. -/
theorem Awaiting.first (h : Awaiting clock config c) :
    Awaiting clock config ((c.pinged clock).awaiting clock) := by
  refine ⟨h.config_eq, clock.mono (Nat.le_succ _), fun _ => ?_, h.errorType,
    throughout_concat h.justified nofun⟩
  exact ⟨c.ticks + 2, since_concat_iff.mpr (Or.inl ⟨rfl, rfl⟩), rfl⟩

theorem Awaiting.move {caller : Bool} (h : Awaiting clock config c)
    (hmove : Move clock caller c c') : Awaiting clock config c' := by
  have htcp : ErrorType.tcpTransport = .pongTimeout →
      c.waitForPongResp = true
        ∧ c.pingpongTickMs + config.pongMs < clock.read c.ticks := nofun
  cases hmove with
  | reading _ => exact h.reads (n := 1) rfl rfl ⟨rfl, rfl⟩ rfl rfl
  | touches _ => exact h.reads (n := 1) rfl rfl ⟨rfl, rfl⟩ rfl rfl
  | @asides o haside =>
      refine h.output (o := o) (fun d errorType => ⟨?_, ?_, ?_⟩) rfl rfl
        ⟨rfl, rfl⟩ rfl rfl
      all_goals
        intro ho
        rw [ho] at haside
        cases haside
  | aborts => exact h.abort nofun
  | opens _ =>
      have hbefore : Awaiting clock config
          (c.dispatchEvent .beforeConnect []) :=
        h.output (o := .event .beforeConnect _ _)
          (fun _ _ => ⟨nofun, nofun, nofun⟩) rfl rfl ⟨rfl, rfl⟩ rfl rfl
      exact ⟨h.config_eq, h.past, nofun, fun _ => rfl,
        throughout_concat hbefore.justified nofun⟩
  | misses _ =>
      have hbefore : Awaiting clock config
          (c.dispatchEvent .beforeConnect []) :=
        h.output (o := .event .beforeConnect _ _)
          (fun _ _ => ⟨nofun, nofun, nofun⟩) rfl rfl ⟨rfl, rfl⟩ rfl rfl
      have herror : Awaiting clock config
          (c.dispatchEvent .beforeConnect []).error :=
        hbefore.output (o := .event .error _ _)
          (fun _ _ => ⟨nofun, nofun, nofun⟩) rfl rfl ⟨rfl, rfl⟩ rfl rfl
      exact herror.abort nofun
  | pings _ _ _ _ =>
      refine h.plain (fun e he => ?_) rfl rfl ⟨rfl, rfl⟩
        (Nat.le_add_right _ 2) h.errorType
      rw [List.mem_singleton.mp he]
      exact ⟨⟨nofun, nofun⟩, nofun⟩
  | awaits _ _ _ _ => exact h.first
  | overdue _ _ hdue hwait =>
      have hread : Awaiting clock config c.ticked :=
        h.reads (n := 1) rfl rfl ⟨rfl, rfl⟩ rfl rfl
      have herror : Awaiting clock config c.ticked.error :=
        hread.output (o := .event .error _ _)
          (fun _ _ => ⟨nofun, nofun, nofun⟩) rfl rfl ⟨rfl, rfl⟩ rfl rfl
      refine herror.abort fun _ => ⟨hwait, ?_⟩
      rw [h.config_eq] at hdue
      have hlate : config.pongMs < clock.read c.ticks - c.pingpongTickMs := hdue
      have hmono : clock.read c.ticks ≤ clock.read (c.ticks + 1) :=
        clock.mono (Nat.le_succ _)
      show c.pingpongTickMs + config.pongMs < clock.read (c.ticks + 1)
      omega
  | reads _ rx len off fin op hds =>
      exact h.data rx len off fin op fun d hd _ => hds d hd
  | @frames _ rx len off fin op ds hends =>
      rcases afterFrame_cases ((c.framed rx len off fin op).logs
        (dataOutputs c.errorType ds)) with
          ⟨hop, heq⟩ | ⟨-, heq⟩ | ⟨hop, heq⟩ | ⟨hop, heq⟩
      · rw [heq]
        have hping : op = some Opcode.ping.code := hop
        have hdata := h.data rx len off fin op (no_pong hends
          (by rw [hping]; decide))
        exact hdata.output (o := .control _ _)
          (fun _ _ => ⟨nofun, nofun, nofun⟩) rfl rfl ⟨rfl, rfl⟩ rfl rfl
      · rw [heq]
        exact h.pong rx len off fin op ds
      · rw [heq]
        have hclose : op = some Opcode.close.code := hop
        have hdata := h.data rx len off fin op (no_pong hends
          (by rw [hclose]; decide))
        exact hdata.reads (n := 0) rfl rfl ⟨rfl, rfl⟩ rfl rfl
      · rw [heq]
        exact h.data rx len off fin op (no_pong hends hop)
  | retries _ _ => exact h.reads (n := 2) rfl rfl ⟨rfl, rfl⟩ rfl rfl
  | echoes _ _ =>
      exact h.output (o := .control _ _) (fun _ _ => ⟨nofun, nofun, nofun⟩) rfl
        rfl ⟨rfl, rfl⟩ rfl rfl

end EspWebsocketClient

namespace ClientTask

open EspWebsocketClient

variable {clock : Clock} {config : ClientConfig} {t t' : ClientTask}

theorem reachable_awaiting (h : Reachable clock config t) :
    Awaiting clock config t.client := by
  refine reachable_rule (P := fun _ => Awaiting clock config) (fun rx => ?_)
    (fun c hc => ?_) (fun c hc => ?_) (fun c hc => ?_)
    (fun _ pc c c' hc hmove => hc.move hmove) (fun pc pc' c hc _ => hc) h
  · exact ⟨rfl, Nat.zero_le _, nofun, fun _ => rfl, throughout_nil⟩
  · exact hc.output (o := .event .begin _ _)
      (fun _ _ => ⟨nofun, nofun, nofun⟩) rfl rfl ⟨rfl, rfl⟩ rfl rfl
  · exact hc.output (o := .event .closed _ _)
      (fun _ _ => ⟨nofun, nofun, nofun⟩) rfl rfl ⟨rfl, rfl⟩ rfl rfl
  · exact hc.output (o := .event .finish _ _)
      (fun _ _ => ⟨nofun, nofun, nofun⟩) rfl rfl ⟨rfl, rfl⟩ rfl rfl

/-- No connection is given up for an overdue pong that is not: a ping was
sent on it, and for longer than the timeout no pong came. -/
theorem pong_timeouts_justified (h : Reachable clock config t) :
    Justified clock config t.client.log :=
  (reachable_awaiting h).justified

/-- Three polls without an answer. -/
def silentSteps : List TaskStep :=
  [.begin, .loop, .switch 0 []] ++ (List.replicate 3
    [.select, .polled 0, .loop, .switch 0 []]).flatten

/-- The dial's client pings, and gives the connection up. -/
theorem overdue_pong_justified :
    (after silentSteps).client.state = .waitTimeout
      ∧ Justified slowClock .dial (after silentSteps).client.log :=
  ⟨by decide +kernel, pong_timeouts_justified (reachable_after
    (by decide +kernel))⟩

end ClientTask

-- ============================================================== silence

namespace EspWebsocketClient

variable {clock : Clock} {config : ClientConfig} {c c' : EspWebsocketClient}
  {base δ : Nat}

/-- A pass through the `switch` with nothing to read. -/
theorem switchConnected_silent (hclose : c.closeFrameSent = false)
    (reads : List Read) :
    c.switchConnected clock 0 reads
      = ((c.sendPing clock).checkPong clock).2 := by
  unfold switchConnected
  rw [hclose]
  simp only [Bool.not_false, if_true]
  split <;> rfl

/-- The connection is kept only if the pong is not overdue. -/
theorem checkPong_kept
    (hconn : (c.checkPong clock).2.state = .connected) :
    (c.checkPong clock).2 = c.ticked ∧ (c.waitForPongResp = true →
      c.now clock ≤ c.pingpongTickMs + c.config.pongMs) := by
  unfold checkPong at hconn ⊢
  split
  · next hover =>
    rw [if_pos hover] at hconn
    exact absurd hconn (abort_not_connected clock _ _)
  · next hover =>
    refine ⟨rfl, fun hwait => ?_⟩
    have hnot : ¬ c.now clock - c.pingpongTickMs > c.config.pongMs :=
      fun hlate => hover ⟨hlate, hwait⟩
    omega

/-- The invariant of a silence that began when the clock stood at `base`:
until the first ping the time is bounded by the ping interval, and behind
it by the pong timeout. -/
structure Quiet (clock : Clock) (config : ClientConfig) (base δ : Nat)
    (c : EspWebsocketClient) : Prop where
  config_eq : c.config = config
  closeFrameSent : c.closeFrameSent = false
  timers : (c.waitForPongResp = true
      ∧ c.pingpongTickMs ≤ base + config.pingMs + 4 * δ)
    ∨ (c.waitForPongResp = false ∧ c.pingTickMs ≤ base
      ∧ clock.read c.ticks ≤ base + config.pingMs + 2 * δ)
  bound : clock.read c.ticks ≤ base + config.pingMs + config.pongMs + 5 * δ

/-- A pass through the `switch` that leaves the connection up. -/
theorem Quiet.switch (h : Quiet clock config base δ c)
    (hδ : ∀ n, clock.read (n + 1) ≤ clock.read n + δ)
    (hsec : config.pingpongTimeoutSec ≠ 0)
    (hconn : ((c.sendPing clock).checkPong clock).2.state = .connected) :
    Quiet clock config base δ ((c.sendPing clock).checkPong clock).2 := by
  obtain ⟨hticked, hkept⟩ := checkPong_kept hconn
  rw [hticked]
  have hclose : (c.sendPing clock).closeFrameSent = false :=
    (sendPing_state clock c).2.trans h.closeFrameSent
  have h₀ := hδ c.ticks
  have h₁ : clock.read (c.ticks + 2) ≤ clock.read (c.ticks + 1) + δ :=
    hδ (c.ticks + 1)
  have h₂ : clock.read (c.ticks + 3) ≤ clock.read (c.ticks + 2) + δ :=
    hδ (c.ticks + 2)
  have h₃ : clock.read (c.ticks + 4) ≤ clock.read (c.ticks + 3) + δ :=
    hδ (c.ticks + 3)
  rw [sendPing_eq] at hkept hclose ⊢
  by_cases hdue : c.now clock - c.pingTickMs > c.config.pingMs
  · rw [if_pos hdue] at hkept hclose ⊢
    by_cases hwait : c.waitForPongResp = true
    · -- the pong that was waited for is still waited for
      have hno : (!c.waitForPongResp
          && decide (c.config.pingpongTimeoutSec ≠ 0)) = false := by
        rw [hwait]
        rfl
      rw [hno, if_neg Bool.false_ne_true] at hkept hclose ⊢
      rcases h.timers with ⟨-, hpong⟩ | ⟨hno, -⟩
      · have hlate : clock.read (c.ticks + 2)
            ≤ c.pingpongTickMs + c.config.pongMs := hkept hwait
        rw [h.config_eq] at hlate
        refine ⟨h.config_eq, hclose, Or.inl ⟨hwait, hpong⟩, ?_⟩
        show clock.read (c.ticks + 3) ≤ _
        omega
      · exact absurd (hwait.symm.trans hno) nofun
    · -- the first ping
      rw [Bool.not_eq_true] at hwait
      have hyes : (!c.waitForPongResp
          && decide (c.config.pingpongTimeoutSec ≠ 0)) = true := by
        rw [hwait, h.config_eq, decide_eq_true hsec]
        rfl
      rw [hyes, if_pos rfl] at hkept hclose ⊢
      rcases h.timers with ⟨hno, -⟩ | ⟨-, -, htime⟩
      · exact absurd (hwait.symm.trans hno) nofun
      · have hlate : clock.read (c.ticks + 3)
            ≤ clock.read (c.ticks + 2) + c.config.pongMs := hkept rfl
        rw [h.config_eq] at hlate
        refine ⟨h.config_eq, hclose, Or.inl ⟨rfl, ?_⟩, ?_⟩
        · show clock.read (c.ticks + 2) ≤ _
          omega
        · show clock.read (c.ticks + 4) ≤ _
          omega
  · rw [if_neg hdue] at hkept hclose ⊢
    have hsoon : clock.read c.ticks ≤ c.pingTickMs + config.pingMs := by
      have hnot : ¬ clock.read c.ticks - c.pingTickMs > c.config.pingMs := hdue
      rw [h.config_eq] at hnot
      omega
    rcases h.timers with ⟨hwait, hpong⟩ | ⟨hwait, hping, -⟩
    · have hlate : clock.read (c.ticks + 1)
          ≤ c.pingpongTickMs + c.config.pongMs := hkept hwait
      rw [h.config_eq] at hlate
      refine ⟨h.config_eq, hclose, Or.inl ⟨hwait, hpong⟩, ?_⟩
      show clock.read (c.ticks + 2) ≤ _
      omega
    · refine ⟨h.config_eq, hclose, Or.inr ⟨hwait, hping, ?_⟩, ?_⟩
      · show clock.read (c.ticks + 2) ≤ _
        omega
      · show clock.read (c.ticks + 2) ≤ _
        omega

/-- A send that leaves the connection up reads no clock. -/
theorem Quiet.send (h : Quiet clock config base δ c) (m : Message)
    (answers : List Int)
    (hconn : (c.sendMessage clock m answers).2.state = .connected) :
    Quiet clock config base δ (c.sendMessage clock m answers).2 := by
  unfold sendMessage sendLocked at hconn ⊢
  simp only at hconn ⊢
  split
  · next hfailed =>
    rw [if_pos hfailed] at hconn
    exact absurd hconn (abort_not_connected clock _ _)
  · exact ⟨h.config_eq, h.closeFrameSent, h.timers, h.bound⟩

end EspWebsocketClient

namespace ClientTask

open EspWebsocketClient

variable {clock : Clock} {config : ClientConfig} {t t' : ClientTask}
  {base δ : Nat}

/-- The step that may read. -/
def switches : TaskStep → Bool
  | .switch _ _ => true
  | _ => false

/-- A step of a connection on which nothing is read. -/
def Silent (t : ClientTask) (e : TaskStep) : Prop :=
  t.client.state = .connected ∧ (switches e = true → t.readSelect = 0)

instance (t : ClientTask) (e : TaskStep) : Decidable (Silent t e) :=
  inferInstanceAs (Decidable (_ ∧ (_ → _)))

/-- Such a step keeps the bound, if it leaves the connection up. -/
theorem quiet_step {e : TaskStep} (h : Quiet clock config base δ t.client)
    (hδ : ∀ n, clock.read (n + 1) ≤ clock.read n + δ)
    (hsec : config.pingpongTimeoutSec ≠ 0) (hsilent : Silent t e)
    (hstep : step clock t e = some t') (hconn : t'.client.state = .connected) :
    Quiet clock config base δ t'.client := by
  have hlogs : ∀ os, Quiet clock config base δ (t.client.logs os) :=
    fun os => ⟨h.config_eq, h.closeFrameSent, h.timers, h.bound⟩
  cases e with
  | switch connect reads =>
      simp only [step] at hstep
      split at hstep <;> cases hstep
      have hswitch : t.client.switchState clock t.readSelect connect reads
          = ((t.client.sendPing clock).checkPong clock).2 := by
        unfold switchState
        rw [hsilent.1, hsilent.2 rfl]
        exact switchConnected_silent h.closeFrameSent reads
      simp only [hswitch] at hconn ⊢
      exact h.switch hδ hsec hconn
  | send answers =>
      obtain ⟨m, hsender, rfl⟩ := Option.map_eq_some_iff.mp hstep
      have hsent := h.send m answers hconn
      exact ⟨hsent.config_eq, hsent.closeFrameSent, hsent.timers, hsent.bound⟩
  | begin =>
      simp only [step] at hstep
      split at hstep <;> cases hstep
      cases hconn
  | loop =>
      simp only [step] at hstep
      split at hstep <;> cases hstep
      exact h
  | select =>
      simp only [step] at hstep
      split at hstep <;> cases hstep
      unfold select
      rw [hsilent.1]
      exact h
  | polled result =>
      simp only [step] at hstep
      split at hstep <;> cases hstep
      split
      · exact hlogs _
      · exact h
  | pollAborts =>
      simp only [step] at hstep
      split at hstep <;> cases hstep
      exact absurd hconn (abort_not_connected clock _ _)
  | closed =>
      simp only [step] at hstep
      split at hstep <;> cases hstep
      cases hconn
  | finish =>
      simp only [step] at hstep
      split at hstep <;> cases hstep
      cases hconn
  | check m =>
      simp only [step] at hstep
      split at hstep <;> cases hstep
      split
      · exact h
      · exact hlogs _
  | lockTimeout =>
      obtain ⟨m, hsender, rfl⟩ := Option.map_eq_some_iff.mp hstep
      exact hlogs _

/-- As long as a connection is up on which nothing is read, no more time
has passed than the ping interval and the pong timeout, and the few
readings of the clock between two polls: a peer that is gone is noticed,
whatever the caller sends meanwhile. -/
theorem silence_bounded {es : List TaskStep} (h : Reachable clock config t)
    (hδ : ∀ n, clock.read (n + 1) ≤ clock.read n + δ)
    (hsec : config.pingpongTimeoutSec ≠ 0)
    (hclose : t.client.closeFrameSent = false)
    (hrun : (system clock config).run t es = some t')
    (hsilent : (system clock config).Along Silent t es)
    (hconn : t'.client.state = .connected) :
    clock.read t'.client.ticks ≤ clock.read t.client.ticks + config.pingMs
      + config.pongMs + 5 * δ := by
  have hping := reachable_pinging h
  have hpong := reachable_awaiting h
  have hstart : Quiet clock config (clock.read t.client.ticks) δ t.client := by
    refine ⟨hping.config_eq, hclose, ?_, by omega⟩
    cases hwait : t.client.waitForPongResp with
    | true =>
        have hpast := hpong.past
        exact Or.inl ⟨rfl, by omega⟩
    | false => exact Or.inr ⟨rfl, hping.past, by omega⟩
  have hkept := System.run_induction
    (P := fun s : ClientTask => s.client.state = .connected →
      Quiet clock config (clock.read t.client.ticks) δ s.client)
    (fun s e s' hs hsilent hstep hconn =>
      quiet_step (hs hsilent.1) hδ hsec hsilent hstep hconn)
    hrun hsilent fun _ => hstart
  exact (hkept hconn).bound

/-- The dial's client with a server that has gone: two polls on, it is
still within its time. -/
theorem silent_server_bounded :
    slowClock.read (after ([.begin, .loop, .switch 0 []] ++ [.select, .polled 0,
      .loop, .switch 0 []])).client.ticks
    ≤ slowClock.read (after [.begin, .loop, .switch 0 []]).client.ticks
      + ClientConfig.dial.pingMs + ClientConfig.dial.pongMs + 5 * 20000 :=
  silence_bounded
    (reachable_after (by decide +kernel))
    (fun n => by simp only [slowClock]; omega) (by decide) (by decide +kernel)
    (run_after (by decide +kernel)) (by decide +kernel) (by decide +kernel)

end ClientTask

end WledDial
