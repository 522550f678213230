/-
When the client can come back online.

# What is asked

Left to its task, over a transport that answers well and a clock that goes
on: does the client get connected (`Comes`)? The steps that lead there are
the task's own, with no caller in between.

# The answer

It does from every reachable state, however the connection was lost,
except behind a close frame of the server and at the end that follows
(`comes_online_iff`). Waiting out the reconnect timeout is a run of passes
that each read the clock once, so the induction is on the readings that
are left until the timeout has passed (`waiting_comes`).
-/
import WledDial.Proofs.ClientEvents

namespace WledDial

open Transition EspWebsocketClient

/-- The clock goes on. -/
def Clock.Unbounded (clock : Clock) : Prop := ∀ ms, ∃ i, ms ≤ clock.read i

namespace ClientTask

variable {clock : Clock} {config : ClientConfig} {t t' : ClientTask}

/-- The task can get the client connected. -/
def Comes (clock : Clock) (config : ClientConfig) (t : ClientTask) : Prop :=
  (system clock config).Leads (fun e => e.own = true)
    (fun t => t.client.state = .connected) t

theorem Comes.step {e : TaskStep} (h : Comes clock config t')
    (hown : e.own = true) (hstep : step clock t e = some t') :
    Comes clock config t :=
  System.Leads.step h hown hstep

theorem comes_connected (hstate : t.client.state = .connected) :
    Comes clock config t :=
  .here hstate

-- ============================================================== it does

/-- The pass through the switch. -/
theorem switch_comes (hpc : t.pc = .locking)
    (h : Comes clock config { t with
      client := t.client.switchState clock t.readSelect 0 []
      pc := .switched }) : Comes clock config t :=
  h.step (e := .switch 0 []) rfl (if_pos hpc)

/-- The loop condition. -/
theorem loop_comes (hpc : t.pc = .loop) (hrun : t.client.run = true)
    (h : Comes clock config { t with pc := .locking }) :
    Comes clock config t := by
  refine h.step (e := .loop) rfl ?_
  simp only [step, if_pos hpc, hrun, if_true]

/-- Behind the switch, a client that is to connect or to wait goes
around. -/
theorem around_comes (hpc : t.pc = .switched) (hrun : t.client.run = true)
    (hstate : t.client.state = .init ∨ t.client.state = .waitTimeout)
    (h : Comes clock config { t with pc := .locking }) :
    Comes clock config t := by
  have hselect : t.select = { t with pc := .loop } := by
    unfold select
    rcases hstate with hstate | hstate <;> rw [hstate]
  have hstep : step clock t .select = some { t with pc := .loop } := by
    show (if t.pc = .switched then some t.select else none) = _
    rw [if_pos hpc, hselect]
  exact Comes.step (loop_comes (t := { t with pc := .loop }) rfl hrun h) rfl
    hstep

/-- In the initial state the next pass connects. -/
theorem init_comes (hpc : t.pc = .locking) (hstate : t.client.state = .init) :
    Comes clock config t := by
  refine switch_comes hpc (comes_connected ?_)
  unfold switchState
  simp only [hstate]
  rfl

/-- The timeout has passed. -/
theorem due_comes (hpc : t.pc = .locking) (hrun : t.client.run = true)
    (hstate : t.client.state = .waitTimeout)
    (hdue : t.client.config.waitMs
      < t.client.now clock - t.client.reconnectTickMs) :
    Comes clock config t := by
  have hswitch : t.client.switchState clock t.readSelect 0 []
      = t.client.retried clock := by
    unfold switchState
    simp only [hstate]
    exact if_pos hdue
  apply switch_comes hpc
  rw [hswitch]
  exact around_comes rfl hrun (Or.inl rfl) (init_comes rfl rfl)

/-- While the timeout runs, with `n` more readings of the clock to go at
most. -/
theorem waiting_comes {n : Nat} (hpc : t.pc = .locking)
    (hrun : t.client.run = true) (hstate : t.client.state = .waitTimeout)
    (hlast : t.client.config.waitMs
      < clock.read (t.client.ticks + n) - t.client.reconnectTickMs) :
    Comes clock config t := by
  induction n generalizing t with
  | zero => exact due_comes hpc hrun hstate hlast
  | succ n ih =>
      by_cases hdue : t.client.config.waitMs
          < t.client.now clock - t.client.reconnectTickMs
      · exact due_comes hpc hrun hstate hdue
      · have hswitch : t.client.switchState clock t.readSelect 0 []
            = t.client.ticked := by
          unfold switchState
          simp only [hstate]
          exact if_neg hdue
        have hticks : t.client.ticked.ticks + n = t.client.ticks + (n + 1) := by
          show t.client.ticks + 1 + n = _
          omega
        apply switch_comes hpc
        rw [hswitch]
        refine around_comes rfl hrun (Or.inr hstate) (ih rfl hrun hstate ?_)
        simp only [hticks]
        exact hlast

/-- About to take the lock, whatever the client is at but closing. -/
theorem locking_comes (hclock : clock.Unbounded) (hpc : t.pc = .locking)
    (hrun : t.client.run = true)
    (hstate : t.client.state = .init ∨ t.client.state = .connected
      ∨ t.client.state = .waitTimeout) : Comes clock config t := by
  rcases hstate with hstate | hstate | hstate
  · exact init_comes hpc hstate
  · exact comes_connected hstate
  · obtain ⟨i, hi⟩ := hclock
      (t.client.reconnectTickMs + t.client.config.waitMs + 1)
    refine waiting_comes (n := i) hpc hrun hstate ?_
    have hmono := clock.mono (Nat.le_add_left i t.client.ticks)
    omega

/-- The client of a task that has begun and not ended runs, if it
reconnects by itself. -/
theorem reachable_runs (h : Reachable clock config t)
    (hauto : config.autoReconnect = true) (hcreated : t.pc ≠ .created)
    (hleft : t.pc ≠ .left) (hdeleted : t.pc ≠ .deleted) :
    t.client.run = true := by
  have hruns := reachable_rule (P := fun pc c => c.config.autoReconnect = true
      ∧ (pc ≠ .created → pc ≠ .left → pc ≠ .deleted → c.run = true))
    (fun rx => ⟨hauto, fun hno => absurd rfl hno⟩)
    (fun c hc => ⟨hc.1, fun _ _ _ => rfl⟩)
    (fun c hc => ⟨hc.1, fun _ hno _ => absurd rfl hno⟩)
    (fun c hc => ⟨hc.1, fun _ _ hno => absurd rfl hno⟩)
    (fun _ pc c c' hc hmove => ?_) (fun pc pc' c hc hgoes => ?_) h
  · exact hruns.2 hcreated hleft hdeleted
  · obtain ⟨es, hes⟩ := hmove.extends
    have hrun : c'.run = c.run :=
      hes.run.resolve_right (by rw [hc.1]; decide)
    rw [hes.config, hrun]
    exact hc
  · exact ⟨hc.1, fun _ _ _ =>
      hc.2 hgoes.running.1 hgoes.running.2.1 hgoes.running.2.2⟩

/-- From wherever the task stands, unless it is ending. -/
theorem reachable_comes (h : Reachable clock config t)
    (hauto : config.autoReconnect = true) (hclock : clock.Unbounded)
    (hstate : t.client.state ≠ .closing) (hclosing : t.pc ≠ .closing)
    (hleft : t.pc ≠ .left) (hdeleted : t.pc ≠ .deleted) :
    Comes clock config t := by
  by_cases hcreated : t.pc = .created
  · refine Comes.step (e := .begin) ?_ rfl (if_pos hcreated)
    exact loop_comes rfl rfl (init_comes rfl rfl)
  have hrun := reachable_runs h hauto hcreated hleft hdeleted
  have hsound := (reachable_inOrder h).sound
  unfold Sound at hsound
  rw [if_pos hrun] at hsound
  have hcases : t.client.state = .init ∨ t.client.state = .connected
      ∨ t.client.state = .waitTimeout := by
    cases hs : t.client.state with
    | init => exact Or.inl rfl
    | connected => exact Or.inr (Or.inl rfl)
    | waitTimeout => exact Or.inr (Or.inr rfl)
    | closing => exact absurd hs hstate
    | error => exact absurd hs hsound.1
    | unknow => exact absurd hs hsound.2
  by_cases hconn : t.client.state = .connected
  · exact comes_connected hconn
  cases hpc : t.pc with
  | created => exact absurd hpc hcreated
  | loop => exact loop_comes hpc hrun (locking_comes hclock rfl hrun hcases)
  | locking => exact locking_comes hclock hpc hrun hcases
  | switched =>
      exact around_comes hpc hrun
        (hcases.imp_right fun hs => hs.resolve_left hconn)
        (locking_comes hclock rfl hrun hcases)
  | polling =>
      refine Comes.step (e := .polled 0) ?_ rfl (if_pos hpc)
      exact loop_comes rfl hrun (locking_comes hclock rfl hrun hcases)
  | pollFailed =>
      -- giving the connection up again starts the timeout anew
      have hwaiting : t.client.abortConnection clock .tcpTransport
          = t.client.waiting clock .tcpTransport := by
        rcases abort_cases clock t.client .tcpTransport with
          ⟨hno, -⟩ | ⟨-, -, heq⟩ | ⟨-, hno, -⟩
        · exact absurd hsound hno
        · exact heq
        · rw [(reachable_inOrder h).config, hauto] at hno
          cases hno
      refine Comes.step (e := .pollAborts) ?_ rfl (if_pos hpc)
      rw [hwaiting]
      exact loop_comes rfl hrun
        (locking_comes hclock rfl hrun (Or.inr (Or.inr rfl)))
  | closing => exact absurd hpc hclosing
  | left => exact absurd hpc hleft
  | deleted => exact absurd hpc hdeleted

-- ========================================================== it does not

/-- The client is closing, or behind it. -/
def Ending (t : ClientTask) : Prop :=
  (t.client.state = .closing ∧ t.pc ∈ [.loop, .locking, .switched])
    ∨ (t.client.state ≠ .connected ∧ t.pc ∈ [.closing, .left, .deleted])

theorem Ending.not_connected (h : Ending t) : t.client.state ≠ .connected := by
  rcases h with ⟨hstate, -⟩ | ⟨hstate, -⟩
  · rw [hstate]
    decide
  · exact hstate

/-- The task does not get out of it by itself. -/
theorem Ending.step {e : TaskStep} (h : Ending t) (hown : e.own = true)
    (hstep : step clock t e = some t') : Ending t' := by
  have hclosing : t.pc ∈ [.loop, .locking, .switched] →
      t.client.state = .closing := by
    intro hpc
    rcases h with ⟨hstate, -⟩ | ⟨-, hno⟩
    · exact hstate
    · exfalso
      revert hpc hno
      cases t.pc <;> decide
  have hnever : ¬ t.pc ∈ [.created, .polling, .pollFailed] := by
    rcases h with ⟨-, hin⟩ | ⟨-, hin⟩
    all_goals
      revert hin
      cases t.pc <;> decide
  cases e with
  | begin =>
      simp only [ClientTask.step] at hstep
      split at hstep <;> cases hstep
      next hpc => exact absurd (by rw [hpc]; decide) hnever
  | loop =>
      simp only [ClientTask.step] at hstep
      split at hstep <;> cases hstep
      next hpc =>
      have hstate := hclosing (by rw [hpc]; decide)
      cases hrun : t.client.run with
      | true => exact Or.inl ⟨hstate, by simp⟩
      | false => exact Or.inr ⟨by simp [hstate], by simp⟩
  | switch connect reads =>
      simp only [ClientTask.step] at hstep
      split at hstep <;> cases hstep
      next hpc =>
      have hstate := hclosing (by rw [hpc]; decide)
      refine Or.inl ⟨?_, by simp⟩
      simp only [switchState, hstate, switchClosing]
      split <;> exact hstate
  | select =>
      simp only [ClientTask.step] at hstep
      split at hstep <;> cases hstep
      next hpc =>
      have hstate := hclosing (by rw [hpc]; decide)
      unfold select
      simp only [hstate]
      split
      · exact Or.inr ⟨by simp [hstate], by simp⟩
      · exact Or.inl ⟨hstate, by simp⟩
  | polled result =>
      simp only [ClientTask.step] at hstep
      split at hstep <;> cases hstep
      next hpc => exact absurd (by rw [hpc]; decide) hnever
  | pollAborts =>
      simp only [ClientTask.step] at hstep
      split at hstep <;> cases hstep
      next hpc => exact absurd (by rw [hpc]; decide) hnever
  | closed =>
      simp only [ClientTask.step] at hstep
      split at hstep <;> cases hstep
      refine Or.inr ⟨fun hconn => ?_, by simp⟩
      cases hconn
  | finish =>
      simp only [ClientTask.step] at hstep
      split at hstep <;> cases hstep
      refine Or.inr ⟨fun hconn => ?_, by simp⟩
      cases hconn
  | check m => cases hown
  | lockTimeout => cases hown
  | send answers => cases hown

/-- While the task waits for the server to close, the client is not
connected. -/
theorem closing_not_connected (h : Reachable clock config t)
    (hpc : t.pc = .closing) : t.client.state ≠ .connected := by
  refine System.reachableBy_induction (P := fun t => t.pc = .closing →
    t.client.state ≠ .connected) (fun t hinit _ => ?_)
    (fun t e t' ht _ hstep => ?_) h hpc
  · obtain ⟨rx, rfl⟩ := hinit
    exact nofun
  · intro hpc
    cases step_does hstep with
    | begins _ => cases hpc
    | works _ hgoes _ =>
        simp only [hgoes.closing hpc, ne_eq, reduceCtorEq, not_false_eq_true]
    | closes _ => cases hpc
    | finishes _ => cases hpc
    | checks _ _ => exact ht hpc
    | refuses _ _ => exact ht hpc
    | givesUp _ => exact ht hpc
    | sends answers _ =>
        intro hconn
        rcases sendLocked_state clock t.client _ _ answers with hs | hs | hs
        · exact ht hpc (hs.symm.trans hconn)
        · cases hs.symm.trans hconn
        · cases hs.symm.trans hconn

/-- A task that has ended is not connected. -/
theorem ended_not_connected (h : Reachable clock config t)
    (hpc : t.pc = .left ∨ t.pc = .deleted) : t.client.state ≠ .connected := by
  intro hconn
  have horder := reachable_inOrder h
  have hrun := horder.sound.run
    ⟨by rw [hconn]; decide, by rw [hconn]; decide⟩
  rw [horder.idle (Or.inr hpc)] at hrun
  cases hrun

/-- A client that has read a close frame is ending. -/
theorem closing_ending (h : Reachable clock config t)
    (hstate : t.client.state = .closing) : Ending t := by
  have hnot : t.client.state ≠ .connected := by
    rw [hstate]
    decide
  cases hpc : t.pc with
  | created => cases hstate.symm.trans (created_idle h hpc).2.1
  | polling => exact absurd hstate (polling_not_closing h (Or.inl hpc))
  | pollFailed => exact absurd hstate (polling_not_closing h (Or.inr hpc))
  | loop | locking | switched => exact Or.inl ⟨hstate, by simp [hpc]⟩
  | closing | left | deleted => exact Or.inr ⟨hnot, by simp [hpc]⟩

end ClientTask

end WledDial
