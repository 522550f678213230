/-
The replicas at rest: what the server, the cache and the menu agree on
once the link is up and nothing is on its way.

# The invariant

`told` is the server's newest word on the dial's side of the link: the
last report in flight or, when there is none, the cache. While the link
is up it is the server's state (`Sync`), because every change of that
state is reported and a new connection starts with a report. Commands
and lost sends do not come into it: they change nothing but the server,
and the server reports.

# The timer

One run of the timer makes the menu show the cache, or sends. A send
leaves a command in flight, whose report must be delivered before the
network rests again, or is lost with the link, and then the next
connection's report must be. So a rest that nothing was delivered to
since the last timer run (`Ticked`) is one at which that run sent
nothing.
-/
import WledDial.Model.Net
import WledDial.Proofs.Dial

namespace WledDial

open Transition

namespace Net

variable {Change : Type} {lib : ArduinoJson} {env : WledServer Change}

/-- The cache and the menu show the server's state. -/
structure Agrees (n : Net) : Prop where
  cached : n.dial.esp.cached = n.server.values
  ledOn : n.dial.menu.ledOn = n.server.on
  disabled : n.dial.menu.arcDisabled = !n.server.on
  arcValue : n.dial.menu.arcValue = n.server.bri

-- ================================================ the server's newest word

/-- The last report in flight or, without one, the cache. -/
def told (n : Net) : Bool × Int16 :=
  (n.reports.getLast?.map Server.values).getD n.dial.esp.cached

/-- While the link is up, the server's newest word is its state. -/
def Sync (n : Net) : Prop := n.up = true → n.told = n.server.values

/-- A server that reports over a link that is up has said its state. -/
theorem told_of_emitted {n : Net} {s : Server} {rs : List Server}
    (h : n.reports = rs ++ [s]) : n.told = s.values := by
  unfold told
  rw [h, List.getLast?_concat]
  rfl

/-- Handling the oldest report does not change the newest word. -/
theorem told_deliver {n n' : Net}
    (h : step lib env n .deliver = some n') : n'.told = n.told := by
  obtain ⟨r, rest, hreports, rfl⟩ := step_deliver h
  unfold told
  rw [hreports]
  cases rest with
  | nil => rfl
  | cons r' rest =>
      rw [List.getLast?_cons_cons]
      cases hlast : (r' :: rest).getLast? with
      | none => cases List.getLast?_eq_none_iff.mp hlast
      | some s => rfl

theorem sync_step {n n' : Net} {e : NetEvent Change} (hn : Sync n)
    (h : step lib env n e = some n') : Sync n' := by
  intro hup
  cases e with
  | ui e =>
      obtain ⟨hdial, hserver, hreports, hup', -⟩ := step_ui h
      have hcached := Dial.step_cached (fun doc => by simp) hdial
      rw [told, hserver, hreports, hcached]
      exact hn (hup' ▸ hup)
  | serveCommand =>
      obtain ⟨cmd, rest, -, rfl⟩ := step_serveCommand h
      have hup' : n.up = true := hup
      exact told_of_emitted (if_pos hup')
  | serveChange ch =>
      cases h
      have hup' : n.up = true := hup
      exact told_of_emitted (if_pos hup')
  | deliver =>
      rw [told_deliver h]
      obtain ⟨r, rest, -, rfl⟩ := step_deliver h
      exact hn hup
  | drop =>
      obtain ⟨-, rfl⟩ := step_drop h
      cases hup
  | reconnect =>
      obtain ⟨-, rfl⟩ := step_reconnect h
      exact @told_of_emitted _ _ [] rfl

/-- Every event of the network is admitted. -/
abbrev Reachable (lib : ArduinoJson) (env : WledServer Change) (n : Net) :
    Prop :=
  (system lib env).ReachableBy (fun _ => True) n

theorem reachable_step {n n' : Net} {e : NetEvent Change}
    (hn : Reachable lib env n) (h : step lib env n e = some n') :
    Reachable lib env n' :=
  System.ReachableBy.step hn trivial (show (system lib env).step n e = _ from h)

theorem sync_init {n : Net} (h : (system lib env).init n) : Sync n := by
  intro hup
  rw [up, h.1] at hup
  cases hup

theorem sync_reachable {n : Net} (hn : Reachable lib env n) : Sync n :=
  System.reachableBy_induction (fun _ => sync_init)
    (fun _ _ _ hs _ => sync_step hs) hn

/-- What is reachable in a network is reachable for its dial. -/
theorem dialInv_reachable {n : Net} (hn : Reachable lib env n) :
    Dial.DialInv n.dial :=
  Dial.dialInv_fullReports ((refines lib env).reachableBy
    (fun s e _ => dialEvents_fullReports env s e) hn)

/-- At rest the newest word is the cache. -/
theorem Sync.cached {n : Net} (hn : Sync n) (hrest : AtRest n) :
    n.dial.esp.cached = n.server.values := by
  have htold := hn hrest.up
  rw [told, hrest.noReports] at htold
  exact htold

-- ============================================================ to a rest

/-- With no command in flight the server is where it is heading. -/
theorem heading_of_nil (env : WledServer Change) {n : Net}
    (h : n.commands = []) : heading env n = n.server := by
  rw [heading, h]
  rfl

/-- Taking a command, the server stays on its heading. -/
theorem heading_serveCommand {n n' : Net}
    (h : step lib env n .serveCommand = some n') :
    heading env n' = heading env n := by
  obtain ⟨cmd, rest, hcmds, rfl⟩ := step_serveCommand h
  rw [heading, heading, hcmds]
  rfl

/-- The server takes every command in flight. -/
theorem run_serveCommands (lib : ArduinoJson) (env : WledServer Change)
    {n : Net} (hup : n.up = true) :
    ∃ n', (system lib env).run n
          (List.replicate n.commands.length .serveCommand) = some n'
      ∧ n'.up = true ∧ n'.commands = []
      ∧ n'.reports.length = n.reports.length + n.commands.length
      ∧ n'.server = heading env n ∧ n'.dial.menu = n.dial.menu := by
  generalize hcmds : n.commands = cmds
  induction cmds generalizing n with
  | nil =>
      exact ⟨n, rfl, hup, hcmds, rfl, (heading_of_nil env hcmds).symm, rfl⟩
  | cons cmd rest ih =>
      obtain ⟨m, hstep, hupm, hrest, hreportsm, hmenum⟩ :
          ∃ m, step lib env n .serveCommand = some m ∧ m.up = true
            ∧ m.commands = rest
            ∧ m.reports = n.reports ++ [env.command cmd n.server]
            ∧ m.dial.menu = n.dial.menu :=
        ⟨_, serveCommand_of hcmds, hup, rfl, if_pos hup, rfl⟩
      obtain ⟨n', hrun, hup', hnil, hlength, hserver, hmenu⟩ := ih hupm hrest
      refine ⟨n', System.run_cons.mpr ⟨m, hstep, hrun⟩, hup', hnil, ?_, ?_,
        hmenu.trans hmenum⟩
      · rw [hlength, hreportsm, List.length_append, List.length_singleton,
          List.length_cons]
        omega
      · rw [hserver, heading_serveCommand hstep]

/-- Every report in flight is delivered. -/
theorem run_delivers (lib : ArduinoJson) (env : WledServer Change)
    {n : Net} (hup : n.up = true) :
    ∃ n', (system lib env).run n (List.replicate n.reports.length .deliver)
        = some n'
      ∧ n'.up = true ∧ n'.reports = [] ∧ n'.commands = n.commands
      ∧ n'.server = n.server ∧ n'.dial.menu = n.dial.menu := by
  generalize hreports : n.reports = reports
  induction reports generalizing n with
  | nil => exact ⟨n, rfl, hup, hreports, rfl, rfl, rfl⟩
  | cons r rest ih =>
      obtain ⟨m, hstep, hupm, hrest, hcmdsm, hserverm, hmenum⟩ :
          ∃ m, step lib env n .deliver = some m ∧ m.up = true
            ∧ m.reports = rest ∧ m.commands = n.commands
            ∧ m.server = n.server ∧ m.dial.menu = n.dial.menu :=
        ⟨_, deliver_of hreports, hup, rfl, rfl, rfl, rfl⟩
      obtain ⟨n', hrun, hup', hnil, hcmds, hserver, hmenu⟩ := ih hupm hrest
      exact ⟨n', System.run_cons.mpr ⟨m, hstep, hrun⟩, hup', hnil,
        hcmds.trans hcmdsm, hserver.trans hserverm, hmenu.trans hmenum⟩

/-- A network whose link is up comes to rest with the server where it was
heading, the cache at the server's state, and the menu untouched. -/
theorem run_settle (lib : ArduinoJson) (env : WledServer Change)
    {n : Net} (hsync : Sync n) (hup : n.up = true) :
    ∃ n', (system lib env).run n (settle n) = some n' ∧ AtRest n'
      ∧ n'.dial.esp.cached = n'.server.values
      ∧ n'.server = heading env n ∧ n'.dial.menu = n.dial.menu := by
  obtain ⟨n₁, hrun₁, hup₁, hcmds₁, hlength, hserver₁, hmenu₁⟩ :=
    run_serveCommands lib env hup
  obtain ⟨n₂, hrun₂, hup₂, hreports₂, hcmds₂, hserver₂, hmenu₂⟩ :=
    run_delivers lib env hup₁
  rw [hlength] at hrun₂
  have hrun : (system lib env).run n (settle n) = some n₂ :=
    System.run_append.mpr ⟨n₁, hrun₁, hrun₂⟩
  have hrest : AtRest n₂ := ⟨hup₂, hcmds₂.trans hcmds₁, hreports₂⟩
  have hsync₂ : Sync n₂ :=
    System.run_induction (P := Sync) (G := fun _ _ => True)
      (fun _ _ _ hs _ => sync_step hs) hrun
      (System.along_of_forall fun _ _ => trivial) hsync
  exact ⟨n₂, hrun, hrest, hsync₂.cached hrest, hserver₂.trans hserver₁,
    hmenu₂.trans hmenu₁⟩

-- ======================================================= after the timer

/-- Something is still to come, or the menu shows the cache: what a run of
the timer leaves, and nothing but an edit or a delivery undoes. -/
def Ticked (n : Net) : Prop :=
  n.up = false ∨ n.commands ≠ [] ∨ n.reports ≠ []
    ∨ (n.dial.menu.ledOn = n.dial.esp.isWledOn
        ∧ n.dial.menu.arcValue.toInt16 = n.dial.esp.brightness)

/-- The events that set the arc or the cache from outside. -/
def Disturbs : NetEvent Change → Prop
  | .ui (.editArc _) => True
  | .deliver => True
  | _ => False

theorem ticked_tick {n n' : Net}
    (h : step lib env n (.ui .tick) = some n') : Ticked n' := by
  obtain ⟨hdial, -, -, hup, hcmds⟩ := step_ui h
  obtain ⟨-, hmenu, hesp⟩ := Dial.step_ui hdial
  cases hlink : n.up with
  | false => exact Or.inl (hup.trans hlink)
  | true =>
      rw [hlink, if_pos rfl] at hcmds
      by_cases hsend : n.dial.tickIssues = []
      · refine Or.inr (Or.inr (Or.inr ⟨?_, ?_⟩))
        · rw [hmenu, hesp]
          exact MainMenu.shown_ledOn ..
        · rw [Dial.tickIssues_eq, MainMenu.sends_eq_nil_iff,
            Dial.tickMenu_eq] at hsend
          rw [hmenu, hesp]
          exact hsend
      · refine Or.inr (Or.inl fun hnil => hsend ?_)
        rw [hcmds] at hnil
        rw [Dial.tickIssues_eq, Dial.tickMenu_eq]
        exact (List.append_eq_nil_iff.mp hnil).2

theorem ticked_step {n n' : Net} {e : NetEvent Change} (hn : Ticked n)
    (he : ¬ Disturbs e) (h : step lib env n e = some n') : Ticked n' := by
  cases e with
  | ui u =>
      obtain ⟨hdial, -, hreports, hup, hcmds⟩ := step_ui h
      obtain ⟨-, hmenu, hesp⟩ := Dial.step_ui hdial
      rcases hn with hdown | hpending | hpending | ⟨hled, harc⟩
      · exact Or.inl (hup.trans hdown)
      · refine Or.inr (Or.inl ?_)
        rw [hcmds]
        split
        · exact fun hnil => hpending (List.append_eq_nil_iff.mp hnil).1
        · exact hpending
      · refine Or.inr (Or.inr (Or.inl ?_))
        rw [hreports]
        exact hpending
      · cases u with
        | editArc v => exact absurd trivial he
        | tick => exact ticked_tick h
        | focusArc | defocusArc | clickButton =>
            refine Or.inr (Or.inr (Or.inr ?_))
            rw [hmenu, hesp]
            exact ⟨hled, harc⟩
  | serveCommand =>
      obtain ⟨cmd, rest, -, rfl⟩ := step_serveCommand h
      cases hlink : n.up with
      | false => exact Or.inl hlink
      | true => exact Or.inr (Or.inr (Or.inl (by simp)))
  | serveChange ch =>
      cases h
      cases hlink : n.up with
      | false => exact Or.inl hlink
      | true => exact Or.inr (Or.inr (Or.inl (by simp [emit, hlink])))
  | deliver => exact absurd trivial he
  | drop =>
      obtain ⟨-, rfl⟩ := step_drop h
      exact Or.inl rfl
  | reconnect =>
      obtain ⟨-, rfl⟩ := step_reconnect h
      exact Or.inr (Or.inr (Or.inl (by simp)))

/-- From a timer run on, without an edit or a delivery. -/
theorem ticked_run {n n' : Net} {es : List (NetEvent Change)}
    (hes : ∀ e ∈ es, ¬ Disturbs e)
    (hrun : (system lib env).run n (.ui .tick :: es) = some n') :
    Ticked n' := by
  obtain ⟨n₁, hfirst, hrest⟩ := System.run_cons.mp hrun
  have htick : step lib env n (.ui .tick) = some n₁ := hfirst
  exact System.run_induction (P := Ticked) (G := fun _ e => ¬ Disturbs e)
    (fun _ _ _ => ticked_step) hrest (System.along_of_forall hes)
    (ticked_tick htick)

-- ============================================================ agreement

/-- What a run of the timer shows and sends at rest. -/
theorem tick_at_rest {n : Net} (hn : Reachable lib env n)
    (hrest : AtRest n) :
    n.dial.tickMenu.ledOn = n.server.on
      ∧ n.dial.tickMenu.arcDisabled = !n.server.on
      ∧ (n.dial.tickIssues = [] → n.dial.tickMenu.arcValue = n.server.bri)
      ∧ (n.dial.tickIssues = [] ↔ n.dial.menu.arcFocused = false
          ∨ n.dial.menu.arcValue = n.server.bri) := by
  obtain ⟨hon, hbri⟩ := cached_fields ((sync_reachable hn).cached hrest)
  have hinv := dialInv_reachable hn
  refine ⟨?_, ?_, ?_, ?_⟩
  · rw [Dial.tickMenu_eq, MainMenu.shown_ledOn, hon]
  · rw [Dial.tickMenu_eq, MainMenu.shown_arcDisabled, hinv.disabled, ← hon]
    split
    · next he => rw [he]
    · rfl
  · rw [Dial.tickIssues_eq, MainMenu.sends_eq_nil_iff, hbri]
    exact Level.toInt16_inj.mp
  · rw [Dial.tickIssues_eq_nil_iff hinv.inRange, hbri, Level.toInt16_inj]

/-- A state at rest that a run of the timer left, and nothing touched
since, agrees. -/
theorem agrees_of_ticked {n : Net} (hn : Reachable lib env n)
    (hrest : AtRest n) (hticked : Ticked n) : Agrees n := by
  have hcached := (sync_reachable hn).cached hrest
  obtain ⟨hon, hbri⟩ := cached_fields hcached
  rcases hticked with hdown | hpending | hpending | ⟨hled, harc⟩
  · rw [hrest.up] at hdown
    cases hdown
  · exact absurd hrest.noCommands hpending
  · exact absurd hrest.noReports hpending
  · refine ⟨hcached, hled.trans hon, ?_, ?_⟩
    · rw [(dialInv_reachable hn).disabled, hled, hon]
    · rw [hbri] at harc
      exact Level.toInt16_inj.mp harc

/-- In every state at rest the cache is the server's state; a run of the
timer then shows the server's power and, unless it sends, its
brightness; and it sends exactly when the arc is focused on another
brightness. A state at rest that nothing was delivered to and nobody
edited since a run of the timer agrees already. -/
theorem agreement_at_rest (lib : ArduinoJson) (env : WledServer Change) :
    (∀ n, Reachable lib env n → AtRest n →
      n.dial.esp.cached = n.server.values
      ∧ n.dial.tickMenu.ledOn = n.server.on
      ∧ n.dial.tickMenu.arcDisabled = !n.server.on
      ∧ (n.dial.tickIssues = [] → n.dial.tickMenu.arcValue = n.server.bri)
      ∧ (n.dial.tickIssues = [] ↔ n.dial.menu.arcFocused = false
          ∨ n.dial.menu.arcValue = n.server.bri))
    ∧ ∀ n₀ n es₁ es₂, (system lib env).init n₀ →
      (system lib env).run n₀ (es₁ ++ .ui .tick :: es₂) = some n →
      (∀ e ∈ es₂, ¬ Disturbs e) → AtRest n → Agrees n := by
  constructor
  · intro n hn hrest
    exact ⟨(sync_reachable hn).cached hrest, tick_at_rest hn hrest⟩
  · intro n₀ n es₁ es₂ h₀ hrun hes hrest
    have hn : Reachable lib env n := ⟨n₀, _, h₀, fun _ _ => trivial, hrun⟩
    obtain ⟨n₁, -, hrun₂⟩ := System.run_append.mp hrun
    exact agrees_of_ticked hn hrest (ticked_run hes hrun₂)

/-- A connection, its first report, one timer run, and a send that was
lost before: the dial shows the server. -/
theorem reconnected_dial_agrees :
    Agrees ⟨⟨⟨true, .blue, .blue, false, false, 90, 0⟩,
      ⟨true, 90, ⟨true, []⟩⟩⟩, ⟨true, 90⟩, []⟩ :=
  (agreement_at_rest .reference .exact).2
    ⟨Dial.init, ⟨true, 90⟩, []⟩ _
    [.ui .clickButton, .reconnect, .deliver] [.ui .defocusArc]
    ⟨rfl, rfl⟩ (by decide +kernel)
    (by simp [Disturbs]) ⟨rfl, rfl, rfl⟩

end Net

end WledDial
