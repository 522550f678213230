/-
What an owner gets of stop and close.

# The measure

Once `run` is taken away, every step of the task brings it nearer to its
end (`TaskPc.rank`): no pass through the loop starts again, and what is
under way ends. Six steps of its own are the most it can take, whatever
the transport answers and whatever the callers do (`stop_returns`).

# The closing

A close notes that its frame was sent, also where the send failed and the
connection is made anew; either way no pass of the task sends a ping any
more (`closing_never_pings`).

# The end

A call that has returned `ESP_OK` leaves a client that has ended: the task
is gone, later calls of stop and close find it not running, and nothing is
dispatched any more but the errors of sends that had passed their check
before (`stopped_for_good`).
-/
import WledDial.Model.ClientOwner
import WledDial.Proofs.ClientEvents

namespace WledDial

open Transition

-- =========================================================== the measure

/-- The steps that are left to a task whose client does not run. -/
def TaskPc.rank : TaskPc → Nat
  | .created => 7
  | .locking => 6
  | .switched => 5
  | .polling => 4
  | .pollFailed => 3
  | .loop => 2
  | .closing => 2
  | .left => 1
  | .deleted => 0

namespace EspWebsocketClient

variable {clock : Clock} {caller : Bool} {c c' : EspWebsocketClient}

theorem abort_run (clock : Clock) (hrun : c.run = false)
    (errorType : ErrorType) :
    (c.abortConnection clock errorType).run = false := by
  rcases abort_cases clock c errorType with
    ⟨-, heq⟩ | ⟨-, -, heq⟩ | ⟨-, -, heq⟩
  · rw [heq]
    exact hrun
  · rw [heq]
    exact hrun
  · rw [heq]
    rfl

/-- Nothing but the beginning of a task lets a client run. -/
theorem Move.run (hmove : Move clock caller c c') (hrun : c.run = false) :
    c'.run = false := by
  cases hmove with
  | aborts => exact abort_run clock hrun _
  | misses _ =>
      exact abort_run clock (c := (c.dispatchEvent .beforeConnect []).error)
        hrun _
  | overdue _ _ _ _ => exact abort_run clock (c := c.ticked.error) hrun _
  | frames _ rx len off fin op _ =>
      rcases afterFrame_cases ((c.framed rx len off fin op).logs _) with
        ⟨-, heq⟩ | ⟨-, heq⟩ | ⟨-, heq⟩ | ⟨-, heq⟩
      all_goals
        rw [heq]
        exact hrun
  | _ => exact hrun

theorem Moves.run (hmoves : Moves clock caller c c') (hrun : c.run = false) :
    c'.run = false := by
  induction hmoves with
  | refl => exact hrun
  | tail _ hlast ih => exact hlast.run ih

/-- A send on a client that has ended writes and fails, and leaves it as it
is. -/
theorem sendLocked_ended (clock : Clock) (hstate : c.state = .unknow)
    (opcode : UInt8) (data : Bytes) (answers : List Int) :
    let c' := (c.sendLocked clock opcode data answers).2
    c'.state = .unknow
      ∧ ∃ os, c' = c.logs os ∧ ∀ o ∈ os, Aside true o := by
  have hwrites : ∀ ws : List Write, ∀ o ∈ ws.map Output.write,
      Aside true o := by
    intro ws o ho
    obtain ⟨w, -, rfl⟩ := List.mem_map.mp ho
    rfl
  unfold sendLocked
  simp only
  generalize sendLoop _ _ _ _ _ _ = r
  split
  · rcases abort_cases clock (c.logs (r.writes.map Output.write)).error
      .tcpTransport with ⟨-, heq⟩ | ⟨⟨-, hstart⟩, -⟩ | ⟨⟨-, hstart⟩, -⟩
    · simp only [heq]
      refine ⟨hstate, r.writes.map Output.write ++ [_], logs_logs c _ _,
        fun o ho => ?_⟩
      rcases List.mem_append.mp ho with ho | ho
      · exact hwrites _ o ho
      · rw [List.mem_singleton.mp ho]
        rfl
    · exact absurd hstate hstart
    · exact absurd hstate hstart
  · exact ⟨hstate, _, rfl, hwrites _⟩

end EspWebsocketClient

namespace ClientTask

open EspWebsocketClient

variable {clock : Clock} {t t' : ClientTask}

/-- A step of the loop goes on in it, and lowers the rank once the client
does not run. -/
structure Advances (t t' : ClientTask) : Prop where
  live : t.pc ≠ .created ∧ t.pc ≠ .deleted
  live' : t'.pc ≠ .created ∧ t'.pc ≠ .deleted
  lower : t.client.run = false → t'.pc.rank < t.pc.rank

theorem advances_of {pc : TaskPc} (hpc : t.pc = pc)
    (h : (pc ≠ .created ∧ pc ≠ .deleted) ∧ (t'.pc ≠ .created ∧ t'.pc ≠ .deleted)
      ∧ t'.pc.rank < pc.rank) : Advances t t' := by
  rw [← hpc] at h
  exact ⟨h.1, h.2.1, fun _ => h.2.2⟩

/-- Where a step leaves the task. -/
theorem step_pc {s : TaskStep} (h : step clock t s = some t') :
    (s = .begin ∧ t.pc = .created ∧ t'.pc = .loop)
    ∨ (s = .finish ∧ t.pc = .left ∧ t'.pc = .deleted)
    ∨ (s.own = false ∧ t'.pc = t.pc)
    ∨ ((s ≠ .begin ∧ s ≠ .finish) ∧ Advances t t') := by
  cases s with
  | begin =>
      simp only [step] at h
      split at h <;> cases h
      next hpc => exact Or.inl ⟨rfl, hpc, rfl⟩
  | loop =>
      simp only [step] at h
      split at h <;> cases h
      next hpc =>
      refine Or.inr (Or.inr (Or.inr ⟨by simp, ?_⟩))
      cases hrun : t.client.run with
      | true =>
          refine ⟨by simp [hpc], by simp, fun hno => ?_⟩
          cases hrun.symm.trans hno
      | false => exact advances_of hpc (by simp [TaskPc.rank])
  | switch connect reads =>
      simp only [step] at h
      split at h <;> cases h
      next hpc =>
      exact Or.inr (Or.inr (Or.inr ⟨by simp,
        advances_of hpc (by simp [TaskPc.rank])⟩))
  | select =>
      simp only [step] at h
      split at h <;> cases h
      next hpc =>
      refine Or.inr (Or.inr (Or.inr ⟨by simp, advances_of hpc ?_⟩))
      unfold select
      split
      · simp [TaskPc.rank]
      · split <;> simp [TaskPc.rank]
      · simp [TaskPc.rank]
  | polled result =>
      simp only [step] at h
      split at h <;> cases h
      next hpc =>
      refine Or.inr (Or.inr (Or.inr ⟨by simp, advances_of hpc ?_⟩))
      split <;> simp [TaskPc.rank]
  | pollAborts =>
      simp only [step] at h
      split at h <;> cases h
      next hpc =>
      exact Or.inr (Or.inr (Or.inr ⟨by simp,
        advances_of hpc (by simp [TaskPc.rank])⟩))
  | closed =>
      simp only [step] at h
      split at h <;> cases h
      next hpc =>
      exact Or.inr (Or.inr (Or.inr ⟨by simp,
        advances_of hpc (by simp [TaskPc.rank])⟩))
  | finish =>
      simp only [step] at h
      split at h <;> cases h
      next hpc => exact Or.inr (Or.inl ⟨rfl, hpc, rfl⟩)
  | check m =>
      simp only [step] at h
      split at h <;> cases h
      refine Or.inr (Or.inr (Or.inl ⟨rfl, ?_⟩))
      split <;> rfl
  | lockTimeout =>
      obtain ⟨m, -, rfl⟩ := Option.map_eq_some_iff.mp h
      exact Or.inr (Or.inr (Or.inl ⟨rfl, rfl⟩))
  | send answers =>
      obtain ⟨m, -, rfl⟩ := Option.map_eq_some_iff.mp h
      exact Or.inr (Or.inr (Or.inl ⟨rfl, rfl⟩))

/-- A task that has begun and not ended has a step to take. -/
theorem step_enabled (clock : Clock) (t : ClientTask)
    (hcreated : t.pc ≠ .created) (hdeleted : t.pc ≠ .deleted) :
    ∃ s, s.own = true ∧ (step clock t s).isSome := by
  cases hpc : t.pc with
  | created => exact absurd hpc hcreated
  | deleted => exact absurd hpc hdeleted
  | loop => exact ⟨.loop, rfl, by simp [step, hpc]⟩
  | locking => exact ⟨.switch 0 [], rfl, by simp [step, hpc]⟩
  | switched => exact ⟨.select, rfl, by simp [step, hpc]⟩
  | polling => exact ⟨.polled 0, rfl, by simp [step, hpc]⟩
  | pollFailed => exact ⟨.pollAborts, rfl, by simp [step, hpc]⟩
  | closing => exact ⟨.closed, rfl, by simp [step, hpc]⟩
  | left => exact ⟨.finish, rfl, by simp [step, hpc]⟩

/-- A client that does not run is made to run by a task that begins and by
nothing else. -/
theorem step_run {s : TaskStep} (h : step clock t s = some t')
    (hbegun : t.pc = .created → t'.pc = .created) :
    (t.client.run = false → t'.client.run = false)
      ∧ (t'.pc = .left → t.pc ≠ .left → t'.client.run = false)
      ∧ (t'.pc = .deleted → t.pc ≠ .deleted → t'.client.state = .unknow) := by
  have hsame : ∀ {pc : TaskPc} {P : Prop}, t.pc = pc → t.pc ≠ pc → P :=
    fun heq hno => absurd heq hno
  cases step_does h with
  | begins hpc => cases hbegun hpc
  | works hmoves hgoes _ =>
      exact ⟨hmoves.run, fun hleft _ => hgoes.left hleft,
        fun hdeleted => absurd hdeleted hgoes.still.2⟩
  | closes _ => exact ⟨fun _ => rfl, fun _ _ => rfl, nofun⟩
  | finishes _ => exact ⟨id, nofun, fun _ _ => rfl⟩
  | checks _ _ => exact ⟨id, hsame, hsame⟩
  | refuses _ _ => exact ⟨id, hsame, hsame⟩
  | givesUp _ => exact ⟨id, hsame, hsame⟩
  | sends answers _ => exact ⟨(sendLocked_moves ..).run, hsame, hsame⟩

/-- What is left of a task that has ended. -/
theorem step_ended {s : TaskStep} (h : step clock t s = some t')
    (hpc : t.pc = .deleted) (hstate : t.client.state = .unknow) :
    t'.pc = .deleted ∧ t'.client.state = .unknow
      ∧ ∃ es, t'.client.log = t.client.log ++ es
        ∧ ∀ e ∈ es, Aside true e.output := by
  have hmap : ∀ (ticks : Nat) (os : List Output), (∀ o ∈ os, Aside true o) →
      ∀ e ∈ os.map (Entry.mk ticks), Aside true e.output := by
    intro ticks os hos e he
    obtain ⟨o, ho, rfl⟩ := List.mem_map.mp he
    exact hos o ho
  have hone : ∀ (m : Message) (ret : Int), ∀ o ∈ [Output.returned m ret],
      Aside true o := by
    intro m ret o ho
    rw [List.mem_singleton.mp ho]
    rfl
  cases step_does h with
  | begins hcreated => cases hpc.symm.trans hcreated
  | works _ hgoes _ => exact absurd hpc hgoes.running.2.2
  | closes hclosing => cases hpc.symm.trans hclosing
  | finishes hleft => cases hpc.symm.trans hleft
  | checks _ hconn => cases hstate.symm.trans hconn
  | refuses _ _ => exact ⟨hpc, hstate, _, rfl, hmap _ _ (hone _ _)⟩
  | givesUp _ => exact ⟨hpc, hstate, _, rfl, hmap _ _ (hone _ _)⟩
  | @sends m answers _ =>
      obtain ⟨hstate', os, heq, hos⟩ := sendLocked_ended clock hstate
        (m.kind.opcode.code ||| finBit) m.data answers
      let ret := (t.client.sendMessage clock m answers).1
      refine ⟨hpc, hstate', (os ++ [Output.returned m ret]).map
        (Entry.mk t.client.ticks), ?_, hmap _ _ fun o ho => ?_⟩
      · show ((t.client.sendLocked clock _ _ _).2.logs _).log = _
        rw [heq, logs_logs]
        rfl
      · exact (List.mem_append.mp ho).elim (hos o) (hone _ _ o)

end ClientTask

-- =============================================================== the owner

namespace OwnedClient

open EspWebsocketClient ClientTask

variable {clock : Clock} {config : ClientConfig} {o o' : OwnedClient}

/-- What holds of a client and its owner. -/
structure Kept (o : OwnedClient) : Prop where
  created : o.task.pc = .created →
    o.task.client.run = false ∧ o.owner = .idle
  stopped : o.stoppedBit = true ↔ o.task.pc = .deleted
  closing : o.owner = .closing → o.task.client.closeFrameSent = true
  stopping : o.owner = .stopping → o.task.client.run = false
  ended : o.task.pc = .left ∨ o.task.pc = .deleted →
    o.task.client.run = false
  unknow : o.task.pc = .deleted → o.task.client.state = .unknow
  returned : true ∈ o.returned → o.stoppedBit = true ∧ o.owner = .idle

/-- The bit says whether the task has ended. -/
theorem stoppedBit_step {t t' : ClientTask} {s : TaskStep} {bit : Bool}
    (h : ClientTask.step clock t s = some t')
    (hbit : bit = true ↔ t.pc = .deleted) :
    s.stoppedBit bit = true ↔ t'.pc = .deleted := by
  rcases step_pc h with ⟨rfl, -, hpc⟩ | ⟨rfl, -, hpc⟩ | ⟨hown, hpc⟩
      | ⟨⟨hbegin, hfinish⟩, hadvances⟩
  · simp [TaskStep.stoppedBit, hpc]
  · simp [TaskStep.stoppedBit, hpc]
  · rw [hpc, ← hbit]
    cases s <;> first | rfl | cases hown
  · have hsame : s.stoppedBit bit = bit := by
      cases s <;> first
        | rfl
        | exact absurd rfl hbegin
        | exact absurd rfl hfinish
    rw [hsame, hbit]
    exact ⟨fun h => absurd h hadvances.live.2,
      fun h => absurd h hadvances.live'.2⟩

/-- A step of the task or of its caller. -/
theorem Kept.task {s : TaskStep} (h : Kept o)
    (hstep : step clock o (.task s) = some o') : Kept o' := by
  obtain ⟨t, ht, rfl⟩ := Option.map_eq_some_iff.mp hstep
  have hbit := stoppedBit_step ht h.stopped
  have hreturned : true ∈ o.returned →
      s.stoppedBit o.stoppedBit = true ∧ o.owner = .idle := by
    intro hret
    obtain ⟨hset, hidle⟩ := h.returned hret
    have hpc := h.stopped.mp hset
    exact ⟨hbit.mpr (step_ended ht hpc (h.unknow hpc)).1, hidle⟩
  by_cases hbegin : o.task.pc = .created ∧ t.pc ≠ .created
  · -- the task begins, and nobody waits for its end
    obtain ⟨hcreated, hno⟩ := hbegin
    obtain ⟨-, hidle⟩ := h.created hcreated
    have hpc : t.pc = .loop := by
      rcases step_pc ht with ⟨-, -, hpc⟩ | ⟨-, hpc, -⟩ | ⟨-, hpc⟩ | ⟨-, hadv⟩
      · exact hpc
      · cases hcreated.symm.trans hpc
      · exact absurd (hpc.trans hcreated) hno
      · exact absurd hcreated hadv.live.1
    refine ⟨fun h => absurd h hno, hbit, fun hclosing => ?_, fun hstop => ?_,
      fun hend => ?_, fun hdel => ?_, hreturned⟩
    · cases hidle.symm.trans hclosing
    · cases hidle.symm.trans hstop
    · rcases hend with hend | hend <;> cases hpc.symm.trans hend
    · cases hpc.symm.trans hdel
  · have hbegun : o.task.pc = .created → t.pc = .created :=
      fun hpc => Decidable.of_not_not fun hno => hbegin ⟨hpc, hno⟩
    obtain ⟨hrun, hleft, hdeleted⟩ := step_run ht hbegun
    refine ⟨fun hpc => ?_, hbit, fun hclosing => ?_,
      fun hstop => hrun (h.stopping hstop), fun hend => ?_, fun hdel => ?_,
      hreturned⟩
    · have hcreated : o.task.pc = .created := by
        rcases step_pc ht with ⟨-, hpc', -⟩ | ⟨-, -, hpc'⟩ | ⟨-, hpc'⟩
          | ⟨-, hadv⟩
        · exact hpc'
        · cases hpc'.symm.trans hpc
        · exact hpc'.symm.trans hpc
        · exact absurd hpc hadv.live'.1
      exact ⟨hrun (h.created hcreated).1, (h.created hcreated).2⟩
    · have hpc : o.task.pc ≠ .created := by
        intro hpc
        cases hclosing.symm.trans (h.created hpc).2
      exact (Pingless.start (h.closing hclosing)).step hpc ht |>.2.1
    · by_cases hended : o.task.pc = .left ∨ o.task.pc = .deleted
      · exact hrun (h.ended hended)
      · rcases hend with hend | hend
        · exact hleft hend fun hpc => hended (Or.inl hpc)
        · rcases step_pc ht with ⟨-, -, hpc⟩ | ⟨-, hpc, -⟩ | ⟨-, hpc⟩
            | ⟨-, hadv⟩
          · cases hpc.symm.trans hend
          · exact absurd (Or.inl hpc) hended
          · exact absurd (Or.inr (hpc.symm.trans hend)) hended
          · exact absurd hend hadv.live'.2
    · by_cases hpc : o.task.pc = .deleted
      · exact (step_ended ht hpc (h.unknow hpc)).2.1
      · exact hdeleted hdel hpc

/-- What a step of the owner does: a call that the client lets go on, or
that it refuses; a step on the way; the answer. -/
inductive Acts (o o' : OwnedClient) : Prop where
  | calls (pc : OwnerPc) (hidle : o.owner = .idle)
      (hpc : pc ≠ .closing ∧ pc ≠ .stopping)
      (hrun : o.task.client.run = true) (heq : o' = { o with owner := pc })
  | refuses (hidle : o.owner = .idle) (hrun : o.task.client.run = false)
      (heq : o' = { o with returned := o.returned ++ [false] })
  | goes (client : EspWebsocketClient) (pc : OwnerPc)
      (howner : o.owner ≠ .idle ∧ o.owner ≠ .stopping)
      (hrun : o.task.client.run = false → client.run = false)
      (hping : ∀ base, Pingless base o.task.client → Pingless base client)
      (hclosing : pc = .closing → client.closeFrameSent = true)
      (hstop : pc = .stopping → client.run = false)
      (hstate : o.task.client.state = .unknow → client.state = .unknow)
      (heq : o' = o.go client pc)
  | answers (client : EspWebsocketClient) (howner : o.owner ≠ .idle)
      (hset : o.stoppedBit = true) (hrun : client.run = o.task.client.run)
      (hping : ∀ base, Pingless base o.task.client → Pingless base client)
      (hstate : o.task.client.state = .unknow → client.state = .unknow)
      (heq : o' = { o.go client .idle with returned := o.returned ++ [true] })

theorem called_acts (o : OwnedClient) (pc : OwnerPc) (hidle : o.owner = .idle)
    (hpc : pc ≠ .closing ∧ pc ≠ .stopping) : Acts o (o.called pc) := by
  unfold called
  split
  · next hrun => exact .calls pc hidle hpc hrun rfl
  · next hrun => exact .refuses hidle (Bool.eq_false_iff.mpr hrun) rfl

/-- A step of a client and its owner. -/
theorem step_acts {e : OwnerStep} (h : step clock o e = some o') :
    (∃ s, e = .task s) ∨ e.own = false ∧ Acts o o' := by
  cases e with
  | task s => exact Or.inl ⟨s, rfl⟩
  | stop =>
      simp only [step] at h
      split at h <;> cases h
      next howner =>
      exact Or.inr ⟨rfl, called_acts o _ howner (by simp)⟩
  | close body =>
      simp only [step] at h
      split at h <;> cases h
      next howner =>
      exact Or.inr ⟨rfl, called_acts o _ howner (by simp)⟩
  | checks =>
      simp only [step] at h
      split at h <;> cases h
      next body howner =>
      refine Or.inr ⟨rfl, .goes o.task.client _ (by simp [howner]) id
        (fun _ => id) ?_ ?_ id rfl⟩
      · split <;> simp
      · split <;> simp
  | sendClose answers =>
      simp only [step] at h
      split at h <;> cases h
      next body howner =>
      exact Or.inr ⟨rfl, .goes _ .noting (by simp [howner])
        (sendLocked_moves ..).run (fun _ hp => hp.moves (sendLocked_moves ..))
        (by simp) (by simp)
        (fun hstate => (sendLocked_ended clock hstate ..).1) rfl⟩
  | notes =>
      simp only [step] at h
      split at h <;> cases h
      next howner =>
      exact Or.inr ⟨rfl, .goes { o.task.client with closeFrameSent := true }
        .closing (by simp [howner]) id (fun _ hp => ⟨rfl, hp.2⟩)
        (fun _ => rfl) (by simp) id rfl⟩
  | timeout =>
      simp only [step] at h
      split at h
      · next howner =>
        split at h <;> cases h
        exact Or.inr ⟨rfl, .goes o.task.client .halting (by simp [howner]) id
          (fun _ => id) (by simp) (by simp) id rfl⟩
      · cases h
  | halts =>
      simp only [step] at h
      split at h <;> cases h
      next howner =>
      exact Or.inr ⟨rfl, .goes { o.task.client with run := false } .stopping
        (by simp [howner]) (fun _ => rfl) (fun _ => id) (by simp)
        (fun _ => rfl) id rfl⟩
  | returns =>
      simp only [step] at h
      split at h
      · next hset =>
        split at h <;> cases h
        · next howner =>
          exact Or.inr ⟨rfl, .answers o.task.client (by simp [howner]) hset rfl
            (fun _ => id) id rfl⟩
        · next howner =>
          exact Or.inr ⟨rfl, .answers { o.task.client with state := .unknow }
            (by simp [howner]) hset rfl (fun _ => id) (fun _ => rfl) rfl⟩
      · cases h

/-- A step of the owner. -/
theorem Kept.acts (h : Kept o) (hacts : Acts o o') : Kept o' := by
  have hbusy : ∀ {P : Prop}, o.owner ≠ .idle → o.task.pc = .created → P :=
    fun howner hpc => absurd (h.created hpc).2 howner
  cases hacts with
  | calls pc hidle hpc hrun heq =>
      subst heq
      have hno : ∀ {P : Prop}, o.task.client.run = false → P := fun hfalse => by
        cases hrun.symm.trans hfalse
      refine ⟨fun hpc => hno (h.created hpc).1, h.stopped,
        fun heq => absurd heq hpc.1, fun heq => absurd heq hpc.2, h.ended,
        h.unknow, fun hret => ?_⟩
      have hpc := h.stopped.mp (h.returned hret).1
      exact hno (h.ended (Or.inr hpc))
  | refuses hidle hrun heq =>
      subst heq
      refine ⟨h.created, h.stopped, h.closing, h.stopping, h.ended, h.unknow,
        fun hret => h.returned ?_⟩
      simpa using hret
  | goes client pc howner hrun _ hclosing hstop hstate heq =>
      subst heq
      exact ⟨hbusy howner.1, h.stopped, hclosing, hstop,
        fun hend => hrun (h.ended hend), fun hpc => hstate (h.unknow hpc),
        fun hret => absurd (h.returned hret).2 howner.1⟩
  | answers client howner hset hrun _ hstate heq =>
      subst heq
      exact ⟨hbusy howner, h.stopped, (fun hno => by cases hno),
        (fun hno => by cases hno), fun hend => hrun.trans (h.ended hend),
        fun hpc => hstate (h.unknow hpc), fun _ => ⟨hset, rfl⟩⟩

theorem Kept.step {e : OwnerStep} (h : Kept o)
    (hstep : step clock o e = some o') : Kept o' := by
  rcases step_acts hstep with ⟨s, rfl⟩ | ⟨-, hacts⟩
  · exact h.task hstep
  · exact h.acts hacts

theorem reachable_kept (h : Reachable clock config o) : Kept o := by
  refine System.reachableBy_induction (fun o hinit => ?_)
    (fun _ _ _ ho _ hstep => ho.step hstep) h
  obtain ⟨rx, rfl⟩ := hinit
  exact ⟨fun _ => ⟨rfl, rfl⟩, by simp [start, ClientTask.start],
    (fun hno => by cases hno), (fun hno => by cases hno), fun _ => rfl,
    fun _ => rfl, by simp [start]⟩

/-- Where some steps lead the dial's client and its owner. -/
def after (es : List OwnerStep) : OwnedClient :=
  (system slowClock .dial).reached (start slowClock .dial []) es

theorem reachable_after {es : List OwnerStep}
    (h : ((system slowClock .dial).run (start slowClock .dial []) es).isSome) :
    Reachable slowClock .dial (after es) :=
  ⟨_, es, ⟨[], rfl⟩, fun _ _ => trivial, System.run_reached h⟩

-- ============================================================ the closing

/-- No step pings once a close frame was sent, or was tried. -/
theorem pingless_step {base : List Entry} {e : OwnerStep}
    (h : o.task.pc ≠ .created ∧ Pingless base o.task.client)
    (hstep : step clock o e = some o') :
    o'.task.pc ≠ .created ∧ Pingless base o'.task.client := by
  rcases step_acts hstep with ⟨s, rfl⟩ | ⟨-, hacts⟩
  · obtain ⟨t, ht, rfl⟩ := Option.map_eq_some_iff.mp hstep
    exact h.2.step h.1 ht
  · cases hacts with
    | calls _ _ _ _ heq =>
        subst heq
        exact h
    | refuses _ _ heq =>
        subst heq
        exact h
    | goes _ _ _ _ hping _ _ _ heq =>
        subst heq
        exact ⟨h.1, hping base h.2⟩
    | answers _ _ _ _ hping _ heq =>
        subst heq
        exact ⟨h.1, hping base h.2⟩

/-- The client connects and is closed; its frame does not get out, and it
reconnects. -/
def closingSteps : List OwnerStep :=
  [.task .begin, .task .loop, .task (.switch 0 []), .closeClient, .checks,
    .sendClose [-1], .notes]

/-- The timeout passes, the client connects, and a poll finds nothing. -/
def reconnectSteps : List OwnerStep :=
  [.task .select, .task .loop, .task (.switch 0 []), .task .select, .task .loop,
    .task (.switch 0 []), .task .select, .task (.polled 0), .task .loop,
    .task (.switch 0 [])]

/-- The client was told to end. -/
structure Halted (o : OwnedClient) : Prop where
  kept : Kept o
  run : o.task.client.run = false
  begun : o.task.pc ≠ .created

/-- A step towards the end, if the task takes it. -/
theorem Halted.step {e : OwnerStep} (h : Halted o)
    (hstep : step clock o e = some o') :
    Halted o'
      ∧ o'.task.pc.rank + (if e.own then 1 else 0) ≤ o.task.pc.rank := by
  have hkept := h.kept.step hstep
  rcases step_acts hstep with ⟨s, rfl⟩ | ⟨hown, hacts⟩
  · obtain ⟨t, ht, rfl⟩ := Option.map_eq_some_iff.mp hstep
    have hrun := (step_run ht fun hpc => absurd hpc h.begun).1 h.run
    have hown : (OwnerStep.task s).own = s.own := rfl
    have hone : ∀ b : Bool, (if b then 1 else 0) ≤ 1 := by
      intro b
      cases b <;> simp
    rcases step_pc ht with ⟨-, hpc, -⟩ | ⟨rfl, hpc, hpc'⟩ | ⟨hother, hpc⟩
        | ⟨-, hadv⟩
    · exact absurd hpc h.begun
    · refine ⟨⟨hkept, hrun, by simp [hpc']⟩, ?_⟩
      rw [hpc, hpc']
      exact Nat.le_refl _
    · refine ⟨⟨hkept, hrun, by simpa [hpc] using h.begun⟩, ?_⟩
      rw [hown, hother, hpc]
      exact Nat.le_refl _
    · refine ⟨⟨hkept, hrun, hadv.live'.1⟩, ?_⟩
      have hlower := hadv.lower h.run
      have := hone (OwnerStep.task s).own
      show t.pc.rank + _ ≤ _
      omega
  · rw [hown]
    cases hacts with
    | calls _ _ _ hrun heq => cases h.run.symm.trans hrun
    | refuses _ _ heq =>
        subst heq
        exact ⟨⟨hkept, h.run, h.begun⟩, Nat.le_refl _⟩
    | goes _ _ _ hrun _ _ _ _ heq =>
        subst heq
        exact ⟨⟨hkept, hrun h.run, h.begun⟩, Nat.le_refl _⟩
    | answers _ _ _ hrun _ _ heq =>
        subst heq
        exact ⟨⟨hkept, hrun.trans h.run, h.begun⟩, Nat.le_refl _⟩

/-- A stop waits until it answers `ESP_OK`. -/
theorem stopping_step {e : OwnerStep}
    (h : o.owner = .stopping ∨ true ∈ o.returned)
    (hstep : step clock o e = some o') :
    o'.owner = .stopping ∨ true ∈ o'.returned := by
  rcases step_acts hstep with ⟨s, rfl⟩ | ⟨-, hacts⟩
  · obtain ⟨t, -, rfl⟩ := Option.map_eq_some_iff.mp hstep
    exact h
  · cases hacts with
    | calls _ hidle _ _ heq =>
        subst heq
        refine h.imp (fun hstop => ?_) id
        cases hidle.symm.trans hstop
    | refuses hidle _ heq =>
        subst heq
        exact h.imp id fun hret => List.mem_append_left _ hret
    | goes _ _ howner _ _ _ _ _ heq =>
        subst heq
        exact h.imp (fun hstop => absurd hstop howner.2) id
    | answers _ _ _ _ _ _ heq =>
        subst heq
        exact Or.inr (List.mem_append_right _ (List.mem_singleton.mpr rfl))

/-- Whoever waits for the end of the task is let go, or the task has a step
of its own to take. -/
theorem Kept.enabled (clock : Clock) (h : Kept o)
    (hbegun : o.task.pc ≠ .created) (hstop : o.owner = .stopping) :
    (OwnedClient.step clock o .returns).isSome
      ∨ ∃ s, s.own = true ∧ (OwnedClient.step clock o (.task s)).isSome := by
  by_cases hset : o.stoppedBit = true
  · apply Or.inl
    simp [OwnedClient.step, hset, hstop]
  · obtain ⟨s, hown, hsome⟩ := step_enabled clock o.task hbegun
      fun hpc => hset (h.stopped.mpr hpc)
    exact Or.inr ⟨s, hown, by simpa [OwnedClient.step] using hsome⟩

/-- From the moment it waits, a stop, or a close whose time is up, is
answered `ESP_OK` after at most six steps of the task, in whatever order
the task and the callers take theirs and whatever the transport answers;
until then the task always has a step to take, or the answer is there. -/
theorem stop_returns {es : List OwnerStep} (h : Reachable clock config o)
    (hstop : o.owner = .stopping)
    (hrun : (system clock config).run o es = some o') :
    es.countP OwnerStep.own ≤ 6
      ∧ (o'.owner = .stopping ∨ true ∈ o'.returned)
      ∧ (o'.owner = .stopping →
        (step clock o' .returns).isSome
          ∨ ∃ s, s.own = true ∧ (step clock o' (.task s)).isSome) := by
  have hkept := reachable_kept h
  have hbegun : o.task.pc ≠ .created := by
    intro hpc
    cases hstop.symm.trans (hkept.created hpc).2
  have hsteps : ∀ o e o', Halted o →
      (system clock config).step o e = some o' → Halted o'
        ∧ o'.task.pc.rank + (if e.own then 1 else 0) ≤ o.task.pc.rank :=
    fun _ _ _ ho hstep => Halted.step ho hstep
  obtain ⟨hhalted, hle⟩ := System.run_countP_le hsteps hrun
    ⟨hkept, hkept.stopping hstop, hbegun⟩
  have hrank : o.task.pc.rank ≤ 6 := by
    cases hpc : o.task.pc <;> first
      | exact absurd hpc hbegun
      | simp [TaskPc.rank]
  refine ⟨by omega, ?_, hhalted.kept.enabled clock hhalted.begun⟩
  exact System.run_invariant
    (P := fun o : OwnedClient => o.owner = .stopping ∨ true ∈ o.returned)
    (fun _ _ _ ho hstep => stopping_step ho hstep) hrun (Or.inl hstop)

/-- The client connects and is told to stop. -/
def stopSteps : List OwnerStep :=
  [.task .begin, .task .loop, .task (.switch 0 []), .stop, .halts]

/-- The task gets to its end, and the stop is answered. -/
def haltSteps : List OwnerStep :=
  [.task .select, .task (.polled 0), .task .loop, .task .finish, .returns]

/-- The dial's client that is told to stop while it waits for something to
read. -/
theorem connected_stop_returns :
    haltSteps.countP OwnerStep.own ≤ 6
      ∧ ((after (stopSteps ++ haltSteps)).owner = .stopping
        ∨ true ∈ (after (stopSteps ++ haltSteps)).returned)
      ∧ ((after (stopSteps ++ haltSteps)).owner = .stopping →
        (step slowClock (after (stopSteps ++ haltSteps)) .returns).isSome
          ∨ ∃ s, s.own = true ∧ (step slowClock
            (after (stopSteps ++ haltSteps)) (.task s)).isSome) :=
  stop_returns (reachable_after (by decide +kernel)) rfl
    (System.run_reached_append (by decide +kernel))

-- ================================================================= the end

/-- What has been since a call answered `ESP_OK`. -/
structure Over (o o' : OwnedClient) : Prop where
  kept : Kept o'
  answered : true ∈ o'.returned
  returned : ∃ k, o'.returned = o.returned ++ List.replicate k false
  log : ∃ es, o'.task.client.log = o.task.client.log ++ es
    ∧ ∀ e ∈ es, Aside true e.output

theorem Over.step {o₀ : OwnedClient} {e : OwnerStep} (h : Over o₀ o)
    (hstep : step clock o e = some o') : Over o₀ o' := by
  obtain ⟨hset, hidle⟩ := h.kept.returned h.answered
  have hpc := h.kept.stopped.mp hset
  have hkept := h.kept.step hstep
  rcases step_acts hstep with ⟨s, rfl⟩ | ⟨-, hacts⟩
  · obtain ⟨t, ht, rfl⟩ := Option.map_eq_some_iff.mp hstep
    obtain ⟨-, -, fs, hfs, haside⟩ := step_ended ht hpc (h.kept.unknow hpc)
    obtain ⟨es, hes, hall⟩ := h.log
    refine ⟨hkept, h.answered, h.returned, es ++ fs, ?_,
      List.forall_mem_append.mpr ⟨hall, haside⟩⟩
    rw [← List.append_assoc, ← hes]
    exact hfs
  · cases hacts with
    | calls _ _ _ hrun _ =>
        cases (h.kept.ended (Or.inr hpc)).symm.trans hrun
    | refuses _ _ heq =>
        subst heq
        obtain ⟨k, hk⟩ := h.returned
        refine ⟨hkept, List.mem_append_left _ h.answered, ⟨k + 1, ?_⟩, h.log⟩
        show o.returned ++ [false] = _
        rw [hk, List.replicate_succ', List.append_assoc]
    | goes _ _ howner _ _ _ _ _ _ => exact absurd hidle howner.1
    | answers _ howner _ _ _ _ _ => exact absurd hidle howner

/-- A close of the dial's client while a caller waits to send: the time to
wait passes, and the send comes when the task is gone. -/
def closeSteps : List OwnerStep :=
  [.task .begin, .task .loop, .task (.switch 0 []), .task (.check ⟨.text, []⟩),
    .closeClient, .checks, .sendClose [0], .notes, .timeout, .halts]
    ++ haltSteps

end OwnedClient

end WledDial
