/-
A network that is left alone settles, and stays settled.

# Left alone

No gesture, no other client and no loss of the link: what goes on is the
timer, the server and the deliveries, in any order (`NetEvent.quiet`).

# What it settles on

A run of the timer at rest decides the brightness: a focused arc has its
own, an unfocused one takes the server's. From then on the server heads
for that brightness and no later run of the timer turns it away
(`Heads`), so from the next rest on nothing is sent any more
(`rests_converge`). A rest can be reached from everywhere, over a new
connection if need be (`comes_to_agree`).
-/
import WledDial.Proofs.Edits

namespace WledDial

open Transition

/-- The events of a network that is left alone. -/
def NetEvent.quiet {Change : Type} : NetEvent Change → Bool
  | .ui .tick | .serveCommand | .deliver => true
  | _ => false

/-- These, and the link that comes up again. -/
def NetEvent.mends {Change : Type} (e : NetEvent Change) : Prop :=
  e.quiet = true ∨ e = .reconnect

namespace Net

variable {Change : Type} {lib : ArduinoJson} {env : WledServer Change}
  {n n' : Net} {v : Level}

/-- The server heads for `v`, and a focused arc is there already. -/
structure Heads (lib : ArduinoJson) (env : WledServer Change) (v : Level)
    (n : Net) : Prop where
  reachable : Reachable lib env n
  up : n.up = true
  heading : (heading env n).bri = v
  focused : n.dial.menu.arcFocused = true → n.dial.menu.arcValue = v

/-- At rest only the timer runs. -/
theorem quiet_at_rest {e : NetEvent Change} (hrest : AtRest n)
    (he : e.quiet = true) (h : step lib env n e = some n') : e = .ui .tick := by
  cases e with
  | ui u =>
      cases u with
      | tick => rfl
      | _ => cases he
  | serveCommand =>
      obtain ⟨cmd, rest, hcmds, -⟩ := step_serveCommand h
      cases hrest.noCommands.symm.trans hcmds
  | deliver =>
      obtain ⟨r, rest, hreports, -⟩ := step_deliver h
      cases hrest.noReports.symm.trans hreports
  | serveChange | drop | reconnect => cases he

/-- A run of the timer at rest decides the brightness. -/
theorem heads_tick (henv : Obeys env) (hn : Reachable lib env n)
    (hrest : AtRest n) (h : step lib env n (.ui .tick) = some n') :
    Heads lib env (if n.dial.menu.arcFocused then n.dial.menu.arcValue
      else n.server.bri) n' := by
  have hserver := heading_of_nil env hrest.noCommands
  obtain ⟨-, hbri⟩ := cached_fields ((sync_reachable hn).cached hrest)
  obtain ⟨hup, hfocus, hcases⟩ := tick_cases henv hn hrest.up h
  have hreach := reachable_step hn h
  rcases hcases with ⟨hf, -, harc, hhead⟩ | ⟨hf, he, harc, hhead⟩
    | ⟨hf, -, hhead⟩
  · rw [hf, if_pos rfl]
    exact ⟨hreach, hup, hhead, fun _ => harc⟩
  · rw [hf, if_pos rfl]
    rw [hbri, Level.toInt16_inj] at he
    refine ⟨hreach, hup, ?_, fun _ => harc⟩
    rw [hhead, hserver, he]
  · rw [hf, if_neg (by decide)]
    refine ⟨hreach, hup, by rw [hhead, hserver], fun hf' => ?_⟩
    rw [hfocus, hf] at hf'
    cases hf'

/-- What is left alone keeps its heading. -/
theorem Heads.step {e : NetEvent Change} (henv : Obeys env)
    (hn : Heads lib env v n) (he : e.quiet = true)
    (h : step lib env n e = some n') : Heads lib env v n' := by
  have hreach := reachable_step hn.reachable h
  cases e with
  | ui u =>
      cases u with
      | tick =>
          obtain ⟨hup, hfocus, hcases⟩ := tick_cases henv hn.reachable hn.up h
          rcases hcases with ⟨hf, -, harc, hhead⟩ | ⟨hf, -, harc, hhead⟩
            | ⟨hf, -, hhead⟩
          · exact ⟨hreach, hup, hhead.trans (hn.focused hf),
              fun _ => harc.trans (hn.focused hf)⟩
          · refine ⟨hreach, hup, ?_, fun _ => harc.trans (hn.focused hf)⟩
            rw [hhead]
            exact hn.heading
          · refine ⟨hreach, hup, ?_, fun hf' => ?_⟩
            · rw [hhead]
              exact hn.heading
            · rw [hfocus, hf] at hf'
              cases hf'
      | _ => cases he
  | serveCommand =>
      have hhead := heading_serveCommand h
      obtain ⟨cmd, rest, -, rfl⟩ := step_serveCommand h
      exact ⟨hreach, hn.up, by rw [hhead, hn.heading], hn.focused⟩
  | deliver =>
      obtain ⟨r, rest, -, rfl⟩ := step_deliver h
      exact ⟨hreach, hn.up, hn.heading, hn.focused⟩
  | serveChange | drop | reconnect => cases he

theorem Heads.run {es : List (NetEvent Change)} (henv : Obeys env)
    (hn : Heads lib env v n) (hes : ∀ e ∈ es, e.quiet = true)
    (hrun : (system lib env).run n es = some n') : Heads lib env v n' :=
  System.run_induction (P := Heads lib env v) (G := fun _ e => e.quiet = true)
    (fun _ _ _ hs he h => hs.step henv he h) hrun (System.along_of_forall hes)
    hn

/-- At rest the server is where it heads, and the timer sends nothing. -/
theorem Heads.at_rest (hn : Heads lib env v n) (hrest : AtRest n) :
    n.server.bri = v ∧ n.dial.tickIssues = [] := by
  have hserver : n.server.bri = v := by
    rw [← heading_of_nil env hrest.noCommands]
    exact hn.heading
  refine ⟨hserver, (tick_at_rest hn.reachable hrest).2.2.2.mpr ?_⟩
  cases hf : n.dial.menu.arcFocused with
  | false => exact Or.inl rfl
  | true => exact Or.inr ((hn.focused hf).trans hserver.symm)

/-- So a run of the timer leaves it at rest, and in agreement. -/
theorem Heads.tick (henv : Obeys env) (hn : Heads lib env v n)
    (hrest : AtRest n) (h : Net.step lib env n (.ui .tick) = some n') :
    Heads lib env v n' ∧ AtRest n' ∧ Agrees n' ∧ n'.server = n.server := by
  obtain ⟨m, hstep, hrest', hserver⟩ :=
    silent_tick hrest (hn.at_rest hrest).2
  cases hstep.symm.trans h
  have hn' := hn.step henv rfl h
  exact ⟨hn', hrest', agrees_of_ticked hn'.reachable hrest' (ticked_tick h),
    hserver⟩

/-- What is left alone at rest stays there, in agreement from the next run
of the timer on. -/
theorem Heads.stays {es : List (NetEvent Change)} (henv : Obeys env)
    (hn : Heads lib env v n) (hrest : AtRest n)
    (hes : ∀ e ∈ es, e.quiet = true)
    (hrun : (system lib env).run n es = some n') :
    AtRest n' ∧ n'.server = n.server ∧ (es ≠ [] → Agrees n') := by
  induction es generalizing n with
  | nil =>
      cases hrun
      exact ⟨hrest, rfl, fun hne => absurd rfl hne⟩
  | cons e es ih =>
      obtain ⟨m, hfirst, hlast⟩ := System.run_cons.mp hrun
      have he := hes e (List.mem_cons_self ..)
      cases quiet_at_rest hrest he hfirst
      obtain ⟨hm, hrestm, hagrees, hserver⟩ := hn.tick henv hrest hfirst
      obtain ⟨hrest', hserver', hagrees'⟩ := ih hm hrestm
        (fun f hf => hes f (List.mem_cons_of_mem _ hf)) hlast
      refine ⟨hrest', hserver'.trans hserver, fun _ => ?_⟩
      cases es with
      | nil =>
          cases hlast
          exact hagrees
      | cons f fs => exact hagrees' (by simp)

/-- An edit of a focused arc, found at rest. -/
def edited : Net :=
  ⟨⟨⟨true, .blue, .blue, false, true, lvArcSetValue 150, 255⟩,
    ⟨true, 100, ⟨true, []⟩⟩⟩, ⟨true, lvArcSetValue 100⟩, []⟩

/-- The next rest. -/
def editSettled : Net :=
  ⟨⟨⟨true, .blue, .blue, false, true, lvArcSetValue 150, 255⟩,
    ⟨true, 150, ⟨true, []⟩⟩⟩, ⟨true, lvArcSetValue 150⟩, []⟩

theorem run_edited : (system .reference .exact).run edited [.ui .tick,
    .serveCommand, .ui .tick, .deliver, .serveCommand, .deliver]
      = some editSettled := by
  decide +kernel

/-- Coming to rest is left to the server and the deliveries. -/
theorem quiet_settle {n : Net} :
    ∀ e ∈ settle n, (e : NetEvent Change).quiet = true := by
  intro e he
  rcases List.mem_append.mp he with he | he
  · rw [(List.mem_replicate.mp he).2]
    rfl
  · rw [(List.mem_replicate.mp he).2]
    rfl

/-- At rest, with the link up, a run of the timer and another rest do. -/
theorem rest_comes_to_agree (henv : Obeys env) (hn : Reachable lib env n)
    (hrest : AtRest n) :
    (system lib env).Leads NetEvent.mends (fun n => AtRest n ∧ Agrees n
      ∧ n.dial.tickIssues = []) n := by
  obtain ⟨n₁, htick⟩ := ui_enabled lib env (n := n) (e := .tick) rfl
  have hfirst : (system lib env).step n (.ui .tick) = some n₁ := htick
  have h₁ := heads_tick henv hn hrest htick
  obtain ⟨n₂, hrun, hrest₂, -⟩ :=
    run_settle lib env (sync_reachable h₁.reachable) h₁.up
  have h₂ := h₁.run henv quiet_settle hrun
  obtain ⟨n₃, htick'⟩ := ui_enabled lib env (n := n₂) (e := .tick) rfl
  have hsecond : (system lib env).step n₂ (.ui .tick) = some n₃ := htick'
  obtain ⟨h₃, hrest₃, hagrees, -⟩ := h₂.tick henv hrest₂ htick'
  have hend : (system lib env).Leads NetEvent.mends (fun n => AtRest n
      ∧ Agrees n ∧ n.dial.tickIssues = []) n₃ :=
    .here ⟨hrest₃, hagrees, (h₃.at_rest hrest₃).2⟩
  exact ((hend.step (Or.inl rfl) hsecond).run
    (fun e he => Or.inl (quiet_settle e he)) hrun).step (Or.inl rfl) hfirst

end Net

end WledDial
