/-
What the server gets of what is sent to it.

# The two ends

At one end, the messages whose send returned their length
(`acceptedOf`); at the other, what a receiver (Fragments.lean) puts
together of the frames that the transport took whole (`wholeFrames`).
Both are read off the log of the connection that is up (`connection`),
since a new connection starts with an empty wire.

# The result

Over a transport that takes frames whole or fails, the two ends agree at
every moment of every run: no accepted message is lost, doubled, reordered
or mixed with another, and none is put together that was not accepted
(`messages_delivered`). The invariant behind it is that an unfinished
message is never followed by another one: a send that fails takes the
connection down with it, and the one that comes next finds out.
-/
import WledDial.Proofs.Send
import WledDial.Proofs.ClientEvents

namespace WledDial

open Transition Fragments EspWebsocketClient

-- ============================================================== the log

/-- What was logged since the connection came up. -/
def connection (log : List Entry) : List Entry :=
  log.foldl (fun es e => if e.connects then [] else es ++ [e]) []

/-- The frame of a send that the entry logs. -/
def Entry.write? (e : Entry) : Option Write :=
  match e.output with
  | .write w => some w
  | _ => none

/-- The message whose send the entry says has succeeded. -/
def Entry.accepted? (e : Entry) : Option (UInt8 × Bytes) :=
  match e.output with
  | .returned m ret =>
      if ret = m.data.length then some (m.kind.opcode.code, m.data) else none
  | _ => none

/-- The frames of the sends. -/
def writesOf (log : List Entry) : List Write := log.filterMap Entry.write?

/-- The messages whose send has succeeded. -/
def acceptedOf (log : List Entry) : List (UInt8 × Bytes) :=
  log.filterMap Entry.accepted?

theorem connection_append {log es : List Entry}
    (hes : ∀ e ∈ es, e.connects = false) :
    connection (log ++ es) = connection log ++ es := by
  induction es generalizing log with
  | nil => rw [List.append_nil, List.append_nil]
  | cons e es ih =>
      have hone : connection (log ++ [e]) = connection log ++ [e] := by
        unfold connection
        rw [List.foldl_append, List.foldl_cons, List.foldl_nil,
          if_neg (by rw [hes e (List.mem_cons_self ..)]; decide)]
      have hrest : connection (log ++ [e] ++ es)
          = connection (log ++ [e]) ++ es :=
        ih fun x hx => hes x (List.mem_cons_of_mem _ hx)
      rw [List.append_assoc, List.singleton_append] at hrest
      rw [hrest, hone, List.append_assoc, List.singleton_append]

theorem connection_connects {log : List Entry} {e : Entry}
    (he : e.connects = true) : connection (log ++ [e]) = [] := by
  unfold connection
  rw [List.foldl_append, List.foldl_cons, List.foldl_nil, if_pos he]

theorem writesOf_append (log es : List Entry) :
    writesOf (log ++ es) = writesOf log ++ writesOf es :=
  List.filterMap_append

theorem acceptedOf_append (log es : List Entry) :
    acceptedOf (log ++ es) = acceptedOf log ++ acceptedOf es :=
  List.filterMap_append

/-- The frames of a send, as they are logged. -/
theorem writesOf_writes (ticks : Nat) (ws : List Write) :
    writesOf ((ws.map Output.write).map (Entry.mk ticks)) = ws := by
  induction ws with
  | nil => rfl
  | cons w ws ih =>
      show w :: writesOf ((ws.map Output.write).map (Entry.mk ticks)) = _
      rw [ih]

theorem acceptedOf_writes (ticks : Nat) (ws : List Write) :
    acceptedOf ((ws.map Output.write).map (Entry.mk ticks)) = [] := by
  induction ws with
  | nil => rfl
  | cons w ws ih => exact ih

/-- The result of a send. -/
theorem acceptedOf_returned (ticks : Nat) (m : Message) (ret : Int) :
    acceptedOf [⟨ticks, .returned m ret⟩]
      = if ret = m.data.length then [(m.kind.opcode.code, m.data)] else [] := by
  by_cases hret : ret = m.data.length
  · rw [if_pos hret]
    exact List.filterMap_cons_some (if_pos hret)
  · rw [if_neg hret]
    exact List.filterMap_cons_none (if_neg hret)

theorem wholeFrames_append (ws ws' : List Write) :
    wholeFrames (ws ++ ws') = wholeFrames ws ++ wholeFrames ws' := by
  unfold wholeFrames
  rw [List.filter_append, List.map_append]

/-- The entry has nothing to do with sends or the start of a connection. -/
def Entry.IsMute (e : Entry) : Prop :=
  e.connects = false ∧ e.write? = none ∧ e.accepted? = none

theorem writesOf_mute {es : List Entry} (hes : ∀ e ∈ es, e.IsMute) :
    writesOf es = [] :=
  List.filterMap_eq_nil_iff.mpr fun e he => (hes e he).2.1

theorem acceptedOf_mute {es : List Entry} (hes : ∀ e ∈ es, e.IsMute) :
    acceptedOf es = [] :=
  List.filterMap_eq_nil_iff.mpr fun e he => (hes e he).2.2

-- ======================================================= the invariant

/-- The two ends of the connection agree, and no message is left open where
one could follow. -/
def Delivered (clean : Prop) (log : List Entry) : Prop :=
  ∃ opened, receiver.run .start (wholeFrames (writesOf (connection log)))
      = some ⟨acceptedOf (connection log), opened⟩
    ∧ (clean → opened = none)

theorem Delivered.imp {p q : Prop} {log : List Entry} (h : Delivered p log)
    (hpq : q → p) : Delivered q log := by
  obtain ⟨opened, hrun, hopen⟩ := h
  exact ⟨opened, hrun, fun hq => hopen (hpq hq)⟩

/-- Nothing is sent on a new connection. -/
theorem delivered_of_nil {p : Prop} {log : List Entry}
    (h : connection log = []) : Delivered p log := by
  refine ⟨none, ?_, fun _ => rfl⟩
  rw [h]
  rfl

theorem Delivered.mute {p : Prop} {log es : List Entry} (h : Delivered p log)
    (hes : ∀ e ∈ es, e.IsMute) : Delivered p (log ++ es) := by
  obtain ⟨opened, hrun, hopen⟩ := h
  refine ⟨opened, ?_, hopen⟩
  rw [connection_append fun e he => (hes e he).1, writesOf_append,
    acceptedOf_append, writesOf_mute hes, acceptedOf_mute hes, List.append_nil,
    List.append_nil]
  exact hrun

namespace EspWebsocketClient

variable {clock : Clock} {waiting : Prop} {c c' : EspWebsocketClient}
  {es : List Entry}

/-- The invariant, of a client with a caller that may be waiting to write:
no message is open where one could follow. -/
def Wired (waiting : Prop) (c : EspWebsocketClient) : Prop :=
  Delivered (c.state = .connected ∨ waiting) c.log

/-- Nothing that happens between the two has to do with sends, and nothing
connects. -/
structure Mute (c c' : EspWebsocketClient) (es : List Entry) : Prop where
  log : c'.log = c.log ++ es
  mute : ∀ e ∈ es, e.IsMute
  still : c'.state = .connected → c.state = .connected

theorem Mute.trans {c₁ : EspWebsocketClient} {es' : List Entry}
    (h : Mute c c₁ es) (h' : Mute c₁ c' es') : Mute c c' (es ++ es') := by
  refine ⟨by rw [h'.log, h.log, List.append_assoc], fun e he => ?_,
    fun hconn => h.still (h'.still hconn)⟩
  exact (List.mem_append.mp he).elim (h.mute e) (h'.mute e)

/-- Nothing is logged. -/
theorem Mute.silent (hlog : c'.log = c.log)
    (hstate : c'.state = .connected → c.state = .connected) : Mute c c' [] :=
  ⟨by rw [hlog, List.append_nil], by simp, hstate⟩

/-- One entry is logged. -/
theorem Mute.output {e : Entry} (he : e.IsMute) (hlog : c'.log = c.log ++ [e])
    (hstate : c'.state = .connected → c.state = .connected) :
    Mute c c' [e] := by
  refine ⟨hlog, fun x hx => ?_, hstate⟩
  rw [List.mem_singleton.mp hx]
  exact he

theorem Mute.error (c : EspWebsocketClient) : ∃ es, Mute c c.error es :=
  ⟨_, Mute.output (e := ⟨c.ticks, .event .error _ _⟩) ⟨rfl, rfl, rfl⟩ rfl id⟩

/-- Giving a connection up sends nothing. -/
theorem Mute.abort (clock : Clock) (c : EspWebsocketClient)
    (errorType : ErrorType) :
    ∃ es, Mute c (c.abortConnection clock errorType) es := by
  obtain ⟨es, hlog, hes⟩ := abort_log clock c errorType
  refine ⟨es, hlog, fun e he => ?_, fun hconn =>
    absurd hconn (abort_not_connected clock c errorType)⟩
  obtain ⟨ticks, d, errorType, rfl⟩ := hes e he
  exact ⟨rfl, rfl, rfl⟩

/-- An error, and the connection is given up. -/
theorem Mute.fails (clock : Clock) (c : EspWebsocketClient)
    (errorType : ErrorType) :
    ∃ es, Mute c (c.error.abortConnection clock errorType) es := by
  obtain ⟨es, herror⟩ := Mute.error c
  obtain ⟨es', habort⟩ := Mute.abort clock c.error errorType
  exact ⟨es ++ es', herror.trans habort⟩

theorem Mute.data (c : EspWebsocketClient) (rx : Bytes) (len off : Nat)
    (fin : Bool) (op : Option UInt8) (ds : List EventData) :
    Mute c ((c.framed rx len off fin op).logs (dataOutputs c.errorType ds))
      ((dataOutputs c.errorType ds).map (Entry.mk c.ticks)) := by
  refine ⟨rfl, fun e he => ?_, id⟩
  obtain ⟨o, ho, rfl⟩ := List.mem_map.mp he
  obtain ⟨d, -, rfl⟩ := List.mem_map.mp ho
  exact ⟨rfl, rfl, rfl⟩

theorem Mute.frame (c : EspWebsocketClient) (rx : Bytes) (len off : Nat)
    (fin : Bool) (op : Option UInt8) (ds : List EventData) :
    ∃ es, Mute c ((c.framed rx len off fin op).logs
      (dataOutputs c.errorType ds)).afterFrame es := by
  have hdata := Mute.data c rx len off fin op ds
  rcases afterFrame_cases ((c.framed rx len off fin op).logs
    (dataOutputs c.errorType ds)) with
      ⟨-, heq⟩ | ⟨-, heq⟩ | ⟨-, heq⟩ | ⟨-, heq⟩
  · rw [heq]
    exact ⟨_, hdata.trans (Mute.output
      (e := ⟨c.ticks, .control _ _⟩) ⟨rfl, rfl, rfl⟩ rfl id)⟩
  · rw [heq]
    exact ⟨_, hdata.trans (Mute.silent rfl id)⟩
  · rw [heq]
    exact ⟨_, hdata.trans (Mute.silent rfl nofun)⟩
  · rw [heq]
    exact ⟨_, hdata⟩

/-- An attempt to connect that fails. -/
theorem Mute.misses (clock : Clock) (c : EspWebsocketClient) :
    ∃ es, Mute c ((c.dispatchEvent .beforeConnect []).error.abortConnection
      clock .tcpTransport) es := by
  have hbefore : Mute c (c.dispatchEvent .beforeConnect []) [_] :=
    Mute.output (e := ⟨c.ticks, .event .beforeConnect _ _⟩) ⟨rfl, rfl, rfl⟩ rfl
      id
  obtain ⟨es, hfails⟩ := Mute.fails clock (c.dispatchEvent .beforeConnect [])
    .tcpTransport
  exact ⟨_, hbefore.trans hfails⟩

/-- The task writes no frame of a send, and connects only from the initial
state. -/
theorem Move.mute (hmove : Move clock false c c') :
    (c.state = .init ∧ c' = c.opened) ∨ ∃ es, Mute c c' es := by
  cases hmove with
  | reading _ => exact Or.inr ⟨_, Mute.silent rfl id⟩
  | touches _ => exact Or.inr ⟨_, Mute.silent rfl id⟩
  | @asides o haside =>
      cases o with
      | event event d errorType =>
          have herror : event = .error := haside
          rw [herror]
          exact Or.inr ⟨_, Mute.output
            (e := ⟨c.ticks, .event .error d errorType⟩) ⟨rfl, rfl, rfl⟩ rfl id⟩
      | write w => cases haside
      | control opcode payload => exact absurd haside id
      | returned m ret => cases haside
  | aborts => exact Or.inr (Mute.abort ..)
  | opens hstate => exact Or.inl ⟨hstate, rfl⟩
  | misses _ => exact Or.inr (Mute.misses ..)
  | pings _ _ _ _ =>
      exact Or.inr ⟨_, Mute.output
        (e := ⟨c.ticks + 2, .control _ _⟩) ⟨rfl, rfl, rfl⟩ rfl id⟩
  | awaits _ _ _ _ =>
      exact Or.inr ⟨_, Mute.output
        (e := ⟨c.ticks + 2, .control _ _⟩) ⟨rfl, rfl, rfl⟩ rfl id⟩
  | overdue _ _ _ _ =>
      obtain ⟨es, hfails⟩ := Mute.fails clock c.ticked .pongTimeout
      have hticked : Mute c c.ticked [] := Mute.silent rfl id
      exact Or.inr ⟨_, hticked.trans hfails⟩
  | reads _ rx len off fin op _ =>
      exact Or.inr ⟨_, Mute.data c rx len off fin op _⟩
  | frames _ rx len off fin op _ =>
      exact Or.inr (Mute.frame c rx len off fin op _)
  | retries _ _ => exact Or.inr ⟨_, Mute.silent rfl nofun⟩
  | echoes _ _ =>
      exact Or.inr ⟨_, Mute.output (e := ⟨c.ticks, .control _ _⟩)
        ⟨rfl, rfl, rfl⟩ rfl id⟩

theorem Steady.mute (h : Steady clock false c c') : ∃ es, Mute c c' es := by
  induction h with
  | refl => exact ⟨[], Mute.silent rfl id⟩
  | tail _ hlast ih =>
      obtain ⟨es, hmute⟩ := ih
      obtain ⟨es', hmute'⟩ := hlast.1.mute.resolve_left fun h => hlast.2 h.1
      exact ⟨es ++ es', hmute.trans hmute'⟩

/-- A pass through the `switch`. -/
theorem switchState_mute (clock : Clock) (c : EspWebsocketClient)
    (readSelect connect : Int) (reads : List Read) :
    (c.state = .init
      ∧ c.switchState clock readSelect connect reads = c.opened)
    ∨ ∃ es, Mute c (c.switchState clock readSelect connect reads) es := by
  by_cases hinit : c.state = .init
  · unfold switchState
    simp only [hinit]
    unfold switchInit
    split
    · exact Or.inr (Mute.misses clock c)
    · exact Or.inl ⟨trivial, rfl⟩
  · exact Or.inr
      (switchState_steady clock hinit readSelect connect reads).mute

/-- The task begins. -/
theorem begun_mute (c : EspWebsocketClient) :
    Mute c c.begun [⟨c.ticks, .event .begin (c.eventData []) c.errorType⟩] :=
  Mute.output ⟨rfl, rfl, rfl⟩ rfl nofun

/-- The server has closed the connection. -/
theorem closed_mute (c : EspWebsocketClient) :
    Mute c c.closed [⟨c.ticks, .event .closed (c.eventData []) c.errorType⟩] :=
  Mute.output ⟨rfl, rfl, rfl⟩ rfl nofun

/-- The task ends. -/
theorem finished_mute (c : EspWebsocketClient) :
    Mute c c.finished
      [⟨c.ticks, .event .finish (c.eventData []) c.errorType⟩] :=
  Mute.output ⟨rfl, rfl, rfl⟩ rfl nofun

theorem Wired.mute (h : Wired waiting c) (hmute : Mute c c' es) :
    Wired waiting c' := by
  unfold Wired
  rw [hmute.log]
  exact (Delivered.mute h hmute.mute).imp fun hp => hp.imp_left hmute.still

/-- A move of the task. -/
theorem Wired.move (h : Wired waiting c) (hmove : Move clock false c c') :
    Wired waiting c' := by
  rcases hmove.mute with ⟨-, rfl⟩ | ⟨es, hmute⟩
  · exact delivered_of_nil (connection_connects rfl)
  · exact h.mute hmute

theorem Wired.moves (h : Wired waiting c) (hmoves : Moves clock false c c') :
    Wired waiting c' := by
  induction hmoves with
  | refl => exact h
  | tail _ hlast ih => exact ih.move hlast

/-- A result of a send that is not the length of its data. -/
theorem mute_returned {ticks : Nat} {m : Message} {ret : Int}
    (hret : ret ≠ m.data.length) :
    (Entry.mk ticks (.returned m ret)).IsMute :=
  ⟨rfl, rfl, if_neg hret⟩

/-- The frames of a send. -/
theorem run_writes {log : List Entry} {ws : List Write}
    {r r' : Receiver UInt8 UInt8}
    (hrun : receiver.run .start (wholeFrames (writesOf (connection log)))
      = some r)
    (hput : receiver.run r (wholeFrames ws) = some r') (ticks : Nat) :
    let log' := log ++ (ws.map Output.write).map (Entry.mk ticks)
    receiver.run .start (wholeFrames (writesOf (connection log'))) = some r'
      ∧ acceptedOf (connection log') = acceptedOf (connection log) := by
  have hws : ∀ e ∈ (ws.map Output.write).map (Entry.mk ticks),
      e.connects = false := by
    intro e he
    obtain ⟨o, ho, rfl⟩ := List.mem_map.mp he
    obtain ⟨w, -, rfl⟩ := List.mem_map.mp ho
    rfl
  constructor
  · rw [connection_append hws, writesOf_append, writesOf_writes,
      wholeFrames_append, System.run_append_of hrun]
    exact hput
  · rw [connection_append hws, acceptedOf_append, acceptedOf_writes,
      List.append_nil]

/-- A message that was put together is accepted. -/
theorem delivered_accept {p : Prop} {log : List Entry} {m : Message}
    {acc : List (UInt8 × Bytes)} (hacc : acceptedOf (connection log) = acc)
    (hrun : receiver.run .start (wholeFrames (writesOf (connection log)))
      = some ⟨acc ++ [(m.kind.opcode.code, m.data)], none⟩) (ticks : Nat) :
    Delivered p (log ++ [⟨ticks, .returned m (m.data.length : Int)⟩]) := by
  have hone := acceptedOf_returned ticks m m.data.length
  rw [if_pos rfl] at hone
  have hnone : writesOf [⟨ticks, .returned m (m.data.length : Int)⟩] = [] := rfl
  refine ⟨none, ?_, fun _ => rfl⟩
  rw [connection_append (by simp [Entry.connects]), writesOf_append,
    acceptedOf_append, hone, hnone, hacc, List.append_nil]
  exact hrun

/-- A send: what is put together of it is what it returned. -/
theorem Wired.send (clock : Clock) (h : Wired True c) (m : Message)
    (answers : List Int)
    (hclean : ∀ w ∈ (c.messageLoop m answers).writes, w.Whole ∨ w.Failed) :
    Wired False ((c.sendMessage clock m answers).2.logs
      [.returned m (c.sendMessage clock m answers).1]) := by
  obtain ⟨opened, hrun, hopen⟩ := h
  rw [hopen (Or.inr trivial)] at hrun
  obtain ⟨hok, hfail⟩ := message_put_together clock c m answers
    (acceptedOf (connection c.log)) hclean
  cases hfailed : (c.messageLoop m answers).failed with
  | false =>
      obtain ⟨heq, hput⟩ := hok hfailed
      obtain ⟨hrun', hacc⟩ := run_writes hrun hput c.ticks
      rw [heq]
      exact delivered_accept hacc hrun' c.ticks
  | true =>
      -- the message may be left open, but the connection is given up
      obtain ⟨-, hne, heq, opened', hput⟩ := hfail hfailed
      obtain ⟨hrun', hacc⟩ := run_writes hrun hput c.ticks
      let sent := (c.logs ((c.messageLoop m answers).writes.map Output.write))
      rw [← hacc] at hrun'
      have hsent : Delivered False sent.log := ⟨opened', hrun', False.elim⟩
      obtain ⟨es, hfails⟩ := Mute.fails clock sent .tcpTransport
      have haborted : Wired False
          (sent.error.abortConnection clock .tcpTransport) := by
        unfold Wired
        rw [hfails.log]
        exact (hsent.mute hfails.mute).imp fun hp =>
          hp.elim (abort_not_connected clock _ _) id
      rw [← heq] at haborted
      exact haborted.mute (Mute.output (mute_returned hne) rfl id)

end EspWebsocketClient

/-- The log only grows. -/
theorem EspWebsocketClient.moves_log {clock : Clock} {caller : Bool}
    {c c' : EspWebsocketClient} (h : Moves clock caller c c') :
    ∃ es, c'.log = c.log ++ es := by
  induction h with
  | refl => exact ⟨[], (List.append_nil _).symm⟩
  | tail _ hlast ih =>
      obtain ⟨es, hlog⟩ := ih
      obtain ⟨es', hes'⟩ := hlast.extends
      exact ⟨es ++ es', by rw [hes'.log, hlog, List.append_assoc]⟩

namespace ClientTask

variable {clock : Clock} {config : ClientConfig} {t t' : ClientTask}

/-- A step grows the log. -/
theorem step_log {e : TaskStep} (h : step clock t e = some t') :
    ∃ es, t'.client.log = t.client.log ++ es := by
  cases step_does h with
  | begins _ => exact ⟨_, rfl⟩
  | works hc _ _ => exact moves_log hc
  | closes _ => exact ⟨_, rfl⟩
  | finishes _ => exact ⟨_, rfl⟩
  | checks _ _ => exact ⟨[], (List.append_nil _).symm⟩
  | refuses _ _ => exact ⟨_, rfl⟩
  | givesUp _ => exact ⟨_, rfl⟩
  | sends answers _ =>
      exact moves_log ((sendLocked_moves clock t.client _ _ answers).tail
        (.asides rfl))

/-- The transport took every frame of a send whole, or failed. -/
def Clean (log : List Entry) : Prop :=
  ∀ w ∈ writesOf log, w.Whole ∨ w.Failed

instance (log : List Entry) : Decidable (Clean log) :=
  inferInstanceAs (Decidable (∀ w ∈ writesOf log, _))

theorem Clean.of_append {log es : List Entry} (h : Clean (log ++ es)) :
    Clean log := by
  rw [Clean, writesOf_append] at h
  exact fun w hw => h w (List.mem_append_left _ hw)

/-- The frames of a send are in the log. -/
theorem send_clean {c : EspWebsocketClient} {m : Message} {answers : List Int}
    (h : Clean (c.sendMessage clock m answers).2.log) :
    ∀ w ∈ (c.messageLoop m answers).writes, w.Whole ∨ w.Failed := by
  let sent := c.logs
    ((c.messageLoop m answers).writes.map Output.write)
  have hsent : Clean sent.log := by
    rw [sendMessage_eq] at h
    simp only at h
    split at h
    · obtain ⟨es, hfails⟩ := Mute.fails clock sent .tcpTransport
      rw [hfails.log] at h
      exact h.of_append
    · exact h
  intro w hw
  apply hsent w
  show w ∈ writesOf (c.log ++ _)
  rw [writesOf_append, writesOf_writes]
  exact List.mem_append_right _ hw

theorem wired_step {e : TaskStep} (h : Wired (t.sender ≠ none) t.client)
    (hstep : step clock t e = some t') (hclean : Clean t'.client.log) :
    Wired (t'.sender ≠ none) t'.client := by
  have hnone : ∀ {m : Message}, (-1 : Int) ≠ m.data.length := by
    intro m
    omega
  cases step_does hstep with
  | begins _ => exact h.mute (begun_mute t.client)
  | works hmoves _ _ => exact h.moves hmoves
  | closes _ => exact h.mute (closed_mute t.client)
  | finishes _ => exact h.mute (finished_mute t.client)
  | checks _ hstate => exact h.imp fun _ => Or.inl hstate
  | refuses _ _ => exact h.mute (Mute.output (mute_returned hnone) rfl id)
  | @givesUp m hsender =>
      have hwired : Wired (t.sender ≠ none)
          (t.client.logs [.returned m (-1)]) :=
        h.mute (Mute.output (mute_returned hnone) rfl id)
      exact hwired.imp fun hp => hp.imp_right fun hno => absurd rfl hno
  | sends answers hsender =>
      have hwaiting : Wired True t.client := h.imp fun hp =>
        hp.imp_right fun _ => by rw [hsender]; exact nofun
      have hsent := hwaiting.send clock _ answers (send_clean hclean.of_append)
      exact hsent.imp fun hp => hp.imp_right fun hno => absurd rfl hno

theorem reachable_wired (h : Reachable clock config t)
    (hclean : Clean t.client.log) : Wired (t.sender ≠ none) t.client := by
  refine System.reachableBy_induction (P := fun t => Clean t.client.log →
    Wired (t.sender ≠ none) t.client) (fun t hinit _ => ?_)
    (fun t e t' ht _ hstep hclean => ?_) h hclean
  · obtain ⟨rx, rfl⟩ := hinit
    exact delivered_of_nil rfl
  · obtain ⟨es, hlog⟩ := step_log hstep
    refine wired_step (ht ?_) hstep hclean
    rw [hlog] at hclean
    exact hclean.of_append

/-- At every moment of every run, over a transport that takes frames whole
or fails: the messages that the server has put together on the connection
are exactly those whose send has succeeded on it, in their order. Between
two messages nothing is left open while the client is connected, or while
a caller is about to write. -/
theorem messages_delivered (h : Reachable clock config t)
    (hclean : Clean t.client.log) :
    ∃ opened, receiver.run .start
        (wholeFrames (writesOf (connection t.client.log)))
          = some ⟨acceptedOf (connection t.client.log), opened⟩
      ∧ (t.client.state = .connected ∨ t.sender ≠ none → opened = none) :=
  reachable_wired h hclean

/-- A message is sent; of the next one the transport takes nothing, and it
takes the connection with it. -/
def twoSends : List TaskStep :=
  [.begin, .loop, .switch 0 [], .check ⟨.text, [0x7b, 0x7d]⟩, .send [2],
    .check ⟨.text, [0x5b, 0x5d]⟩, .send [-1]]

theorem first_send_delivered :
    ∃ opened, receiver.run .start
        (wholeFrames (writesOf (connection (after twoSends).client.log)))
          = some ⟨acceptedOf (connection (after twoSends).client.log), opened⟩
      ∧ ((after twoSends).client.state = .connected
        ∨ (after twoSends).sender ≠ none → opened = none) :=
  messages_delivered (reachable_after (by decide +kernel)) (by decide +kernel)

example : acceptedOf (connection (after twoSends).client.log)
    = [(Opcode.text.code, [0x7b, 0x7d])] := by
  decide +kernel

end ClientTask

-- ================================================================ parts

namespace EspWebsocketClient

variable {clock : Clock} {c : EspWebsocketClient}

/-- A caller that goes on with a message: `esp_websocket_client_send_cont_msg`
for each of the parts, which come with the answers of the transport. -/
def sendContMsgs (clock : Clock) :
    EspWebsocketClient → List (Bytes × List Int) → EspWebsocketClient
  | c, [] => c
  | c, part :: parts =>
      sendContMsgs clock (c.sendContMsg clock part.1 part.2).2 parts

/-- The first part of a message. -/
def sendPartial (clock : Clock) (c : EspWebsocketClient) (kind : MessageKind)
    (part : Bytes × List Int) : EspWebsocketClient :=
  match kind with
  | .text => (c.sendTextPartial clock part.1 part.2).2
  | .binary => (c.sendBinPartial clock part.1 part.2).2

/-- A caller that sends a message in parts, the way the component has it
done: a first part, the parts that follow, and the end. -/
def sendParts (clock : Clock) (c : EspWebsocketClient) (kind : MessageKind)
    (first : Bytes × List Int) (parts : List (Bytes × List Int))
    (last : List Int) : EspWebsocketClient :=
  ((sendContMsgs clock (c.sendPartial clock kind first) parts).sendFin clock
    last).2

theorem sendPartial_eq (kind : MessageKind) (part : Bytes × List Int) :
    c.sendPartial clock kind part
      = (c.sendWithExactOpcode clock kind.opcode.code part.1 part.2).2 := by
  cases kind <;> rfl

/-- A send on a client that is still connected behind it: it has written
its data, cut as the opcode says, or had nothing to write. -/
theorem exact_cuts {opcode : UInt8} {data : Bytes} {answers : List Int}
    (hkept : (c.sendWithExactOpcode clock opcode data answers).2.state
      = .connected)
    (hclean : ClientTask.Clean
      (c.sendWithExactOpcode clock opcode data answers).2.log) :
    ∃ ws : List Write,
      (c.sendWithExactOpcode clock opcode data answers).2
          = c.logs (ws.map Output.write)
        ∧ (∀ w ∈ ws, w.Whole)
        ∧ ((ws = [] ∧ data = [] ∧ opcode = 0)
          ∨ Cut c.config.bufferSize (decide (opcode &&& finBit ≠ 0))
            (opensOf opcode) data (ws.map Write.frame)) := by
  by_cases hconn : c.isConnected = true
  · let r := sendLoop c.config.bufferSize (decide (opcode &&& finBit ≠ 0)) data
      opcode 0 answers
    have heq : (c.sendWithExactOpcode clock opcode data answers).2
        = if r.failed then (c.logs (r.writes.map
            Output.write)).error.abortConnection clock .tcpTransport
          else c.logs (r.writes.map Output.write) := by
      unfold sendWithExactOpcode sendLocked
      rw [hconn]
      simp only [Bool.not_true, Bool.false_eq_true, if_false]
      split <;> rfl
    rw [heq] at hkept hclean ⊢
    cases hfailed : r.failed with
    | true =>
        rw [if_pos hfailed] at hkept
        exact absurd hkept (abort_not_connected clock _ _)
    | false =>
        rw [hfailed, if_neg Bool.false_ne_true] at hclean
        rw [if_neg Bool.false_ne_true]
        refine ⟨r.writes, rfl, ?_⟩
        by_cases hgo : 0 < data.length ∨ opcode ≠ 0
        · have hwrites : ∀ w ∈ r.writes, w.Whole ∨ w.Failed := by
            intro w hw
            apply hclean w
            show w ∈ writesOf (c.log ++ _)
            rw [writesOf_append, writesOf_writes]
            exact List.mem_append_right _ hw
          obtain ⟨hall, hcut⟩ := (sendLoop_cuts answers decide_eq_true hgo
            hwrites).whole hfailed
          exact ⟨hall, Or.inr hcut⟩
        · have hstop : r = ⟨(0 : Nat), [], false⟩ := sendLoop_stop hgo
          have hempty := not_or.mp hgo
          rw [hstop]
          refine ⟨by simp, Or.inl ⟨rfl, ?_, not_not.mp hempty.2⟩⟩
          exact List.length_eq_zero_iff.mp (by omega)
  · unfold sendWithExactOpcode at hkept
    simp only [hconn, Bool.not_false, if_true] at hkept
    exact absurd (decide_eq_true hkept) hconn

/-- A client that is not connected sends nothing. -/
theorem sendContMsgs_off (h : c.state ≠ .connected)
    (parts : List (Bytes × List Int)) : sendContMsgs clock c parts = c := by
  have hoff : c.isConnected = false := decide_eq_false h
  have hsend : ∀ part : Bytes × List Int,
      (c.sendContMsg clock part.1 part.2).2 = c := by
    intro part
    unfold sendContMsg sendWithExactOpcode
    rw [hoff]
    rfl
  induction parts with
  | nil => rfl
  | cons part parts ih => rw [sendContMsgs, hsend part, ih]

theorem exact_log (clock : Clock) (c : EspWebsocketClient) (opcode : UInt8)
    (data : Bytes) (answers : List Int) :
    ∃ es, (c.sendWithExactOpcode clock opcode data answers).2.log
      = c.log ++ es := by
  unfold sendWithExactOpcode
  split
  · exact ⟨[], (List.append_nil _).symm⟩
  · exact moves_log (sendLocked_moves clock c opcode data answers)

theorem sendContMsgs_log (c : EspWebsocketClient)
    (parts : List (Bytes × List Int)) :
    ∃ es, (sendContMsgs clock c parts).log = c.log ++ es := by
  induction parts generalizing c with
  | nil => exact ⟨[], (List.append_nil _).symm⟩
  | cons part parts ih =>
      obtain ⟨es, hlog⟩ := exact_log clock c Opcode.cont.code part.1 part.2
      obtain ⟨es', hlog'⟩ := ih (c.sendContMsg clock part.1 part.2).2
      refine ⟨es ++ es', ?_⟩
      rw [sendContMsgs, hlog', sendContMsg, hlog, List.append_assoc]

/-- What the far end has of the connection. -/
def Put (c : EspWebsocketClient) (r : Receiver UInt8 UInt8) : Prop :=
  receiver.run .start (wholeFrames (writesOf (connection c.log))) = some r

instance (c : EspWebsocketClient) (r : Receiver UInt8 UInt8) :
    Decidable (Put c r) :=
  inferInstanceAs (Decidable (_ = _))

theorem Put.writes {r r' : Receiver UInt8 UInt8} (h : Put c r) {ws : List Write}
    (hall : ∀ w ∈ ws, w.Whole)
    (hput : receiver.run r (ws.map Write.frame) = some r') :
    Put (c.logs (ws.map Output.write)) r' := by
  rw [← wholeFrames_of_whole hall] at hput
  exact (run_writes h hput c.ticks).1

/-- The parts that go on with an open message. -/
theorem Put.sendContMsgs {done : List (UInt8 × Bytes)} {k : UInt8}
    {acc : Bytes} (h : Put c ⟨done, some (k, acc)⟩)
    (parts : List (Bytes × List Int))
    (hkept : (sendContMsgs clock c parts).state = .connected)
    (hclean : ClientTask.Clean (sendContMsgs clock c parts).log) :
    Put (sendContMsgs clock c parts)
      ⟨done, some (k, acc ++ (parts.map Prod.fst).flatten)⟩ := by
  induction parts generalizing c acc with
  | nil =>
      rw [List.map_nil, List.flatten_nil, List.append_nil]
      exact h
  | cons part parts ih =>
      let next := (c.sendContMsg clock part.1 part.2).2
      have hnext : next.state = .connected := by
        refine Decidable.of_not_not fun hoff => hoff ?_
        rw [← sendContMsgs_off hoff parts]
        exact hkept
      have hclean' : ClientTask.Clean next.log := by
        obtain ⟨es, hlog⟩ := sendContMsgs_log next parts
        rw [EspWebsocketClient.sendContMsgs, hlog] at hclean
        exact hclean.of_append
      obtain ⟨ws, heq, hall, hcut⟩ := exact_cuts hnext hclean'
      have hput : Put next ⟨done, some (k, acc ++ part.1)⟩ := by
        show Put (c.sendWithExactOpcode clock _ part.1 part.2).2 _
        rw [heq]
        rcases hcut with ⟨rfl, hempty, -⟩ | hcut
        · rw [hempty, List.append_nil]
          exact h.writes hall rfl
        · exact h.writes hall (run_continue hcut rfl done k acc)
      have hrest := ih hput hkept hclean
      rw [List.append_assoc] at hrest
      exact hrest

end EspWebsocketClient

end WledDial
