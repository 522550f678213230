/-
What becomes of a user's edit when the dial is the only client.

# Where an edit lives

The edit is on the arc until the timer sends it, and from then on in the
commands in flight or in the server: `heading` is the state the server
will have once it took every command in flight. Neither a delivery nor a
server step moves the arc or the heading, and focus changes move
nothing, so an edit can only be lost in a run of the timer (`Kept`,
`TickKeeps`):

- an unfocused arc is set to the cached brightness, which is an older
  one as long as the edit's own report has not been delivered. If the
  edit was not sent before, it is gone;
- a focused arc that such a refresh set to an older brightness is sent
  once the report of the edit arrives, and takes it back.

Every other run of the timer keeps the edit (`kept_tick`). After one of
these two, the network comes to a rest without it if the user does
nothing more (`lost_at_rest`).
-/
import WledDial.Proofs.Agreement

namespace WledDial

open Transition

/-- The events of a link that stays up, without other clients and without
the power button. -/
def NetEvent.alone {Change : Type} : NetEvent Change → Bool
  | .ui .clickButton => false
  | .ui _ => true
  | .serveCommand => true
  | .deliver => true
  | _ => false

/-- The event is a user's edit of the arc. -/
def NetEvent.isEdit {Change : Type} : NetEvent Change → Bool
  | .ui (.editArc _) => true
  | _ => false

namespace Net

variable {Change : Type} {lib : ArduinoJson} {env : WledServer Change}

/-- The server takes every brightness it is sent. -/
def Obeys (env : WledServer Change) : Prop :=
  ∀ (v : Level) (s : Server), (env.command (.bri v.toInt16) s).bri = v

/-- The edit to `v` is still on the arc, or the server is heading for
it. -/
def Kept (env : WledServer Change) (v : Level) (n : Net) : Prop :=
  n.dial.menu.arcValue = v ∨ (heading env n).bri = v

/-- A run of the timer now keeps the edit to `v`: a focused arc shows it,
or shows the cached brightness and is not sent; for an unfocused one it
is the cached brightness, or the one the server is heading for, by the
newest brightness in flight or, without one, its own. Commands that turn
the server on may be in flight as well and carry none. -/
def TickKeeps (env : WledServer Change) (v : Level) (n : Net) : Prop :=
  if n.dial.menu.arcFocused then
    n.dial.menu.arcValue = v
      ∨ n.dial.menu.arcValue.toInt16 = n.dial.esp.brightness
  else n.dial.esp.brightness = v.toInt16 ∨ (heading env n).bri = v

/-- Every timer run meets the condition, and nothing happens but what a
lone dial's events are. -/
def LoneStep (env : WledServer Change) (v : Level) (n : Net)
    (e : NetEvent Change) : Prop :=
  e.alone ∧ ¬ e.isEdit ∧ (e = .ui .tick → TickKeeps env v n)

instance (v : Level) (n : Net) : Decidable (TickKeeps env v n) :=
  inferInstanceAs (Decidable (if n.dial.menu.arcFocused then
      n.dial.menu.arcValue = v
        ∨ n.dial.menu.arcValue.toInt16 = n.dial.esp.brightness
    else n.dial.esp.brightness = v.toInt16 ∨ (heading env n).bri = v))

instance [DecidableEq Change] (v : Level) (n : Net) (e : NetEvent Change) :
    Decidable (LoneStep env v n e) :=
  inferInstanceAs (Decidable (_ ∧ _ ∧ (_ = _ → TickKeeps env v n)))

-- ==================================================== one step's effect

/-- Commands queued move the heading in turn. -/
theorem heading_append {n n' : Net} {cmds : List Command}
    (hcmds : n'.commands = n.commands ++ cmds)
    (hserver : n'.server = n.server) :
    heading env n'
      = cmds.foldl (fun s cmd => env.command cmd s) (heading env n) := by
  rw [heading, hcmds, hserver, List.foldl_append]
  rfl

/-- A run of the timer on a link that is up: a focused arc that differs
from the cached brightness becomes the heading; an unfocused one becomes
the cached brightness; and nothing else moves either of them. -/
theorem tick_cases {n n' : Net} (henv : Obeys env)
    (hn : Reachable lib env n) (hup : n.up = true)
    (h : step lib env n (.ui .tick) = some n') :
    n'.up = true ∧ n'.dial.menu.arcFocused = n.dial.menu.arcFocused
    ∧ ((n.dial.menu.arcFocused = true
          ∧ n.dial.menu.arcValue.toInt16 ≠ n.dial.esp.brightness
          ∧ n'.dial.menu.arcValue = n.dial.menu.arcValue
          ∧ (heading env n').bri = n.dial.menu.arcValue)
      ∨ (n.dial.menu.arcFocused = true
          ∧ n.dial.menu.arcValue.toInt16 = n.dial.esp.brightness
          ∧ n'.dial.menu.arcValue = n.dial.menu.arcValue
          ∧ heading env n' = heading env n)
      ∨ (n.dial.menu.arcFocused = false
          ∧ n'.dial.menu.arcValue.toInt16 = n.dial.esp.brightness
          ∧ heading env n' = heading env n)) := by
  have hr : InRange n.dial.esp.brightness := (dialInv_reachable hn).inRange
  obtain ⟨hdial, hserver, -, hup', hcmds⟩ := step_ui h
  obtain ⟨-, hmenu, -⟩ := Dial.step_ui hdial
  have hmenu' : n'.dial.menu
      = n.dial.menu.shown n.dial.esp.isWledOn n.dial.esp.brightness := hmenu
  have hcmds' : n'.commands = n.commands ++ n.dial.tickIssues := by
    rw [hcmds, if_pos hup, Dial.tickIssues_eq, Dial.tickMenu_eq]
    rfl
  have hhead := @heading_append _ env _ _ _ hcmds' hserver
  refine ⟨hup'.trans hup, by rw [hmenu', MainMenu.shown_arcFocused], ?_⟩
  cases hf : n.dial.menu.arcFocused with
  | true =>
      have harc : n'.dial.menu.arcValue = n.dial.menu.arcValue := by
        rw [hmenu', MainMenu.shown_arcValue_focused hf]
      rw [Dial.tickIssues_focused hf] at hhead
      by_cases he : n.dial.menu.arcValue.toInt16 = n.dial.esp.brightness
      · rw [if_neg (not_not.mpr he)] at hhead
        exact Or.inr (Or.inl ⟨rfl, he, harc, hhead⟩)
      · rw [if_pos he] at hhead
        refine Or.inl ⟨rfl, he, harc, ?_⟩
        rw [hhead]
        exact henv _ _
  | false =>
      rw [Dial.tickIssues_unfocused hf, if_pos hr] at hhead
      refine Or.inr (Or.inr ⟨rfl, ?_, hhead⟩)
      rw [hmenu', MainMenu.shown_arcValue_unfocused hf]
      exact (lvArcSetValue_eq_iff _).mpr hr

/-- A run of the timer that meets the condition keeps the edit. -/
theorem kept_tick {n n' : Net} {v : Level} (henv : Obeys env)
    (hn : Reachable lib env n) (hup : n.up = true) (hk : Kept env v n)
    (hkeeps : TickKeeps env v n)
    (h : step lib env n (.ui .tick) = some n') : Kept env v n' := by
  obtain ⟨-, -, hcases⟩ := tick_cases henv hn hup h
  rcases hcases with ⟨hf, hne, harc, hhead⟩ | ⟨hf, he, harc, hhead⟩
    | ⟨hf, harc, hhead⟩
  · rw [TickKeeps, if_pos hf] at hkeeps
    rcases hkeeps with hv | he
    · exact Or.inl (harc.trans hv)
    · exact absurd he hne
  · rw [Kept, harc, hhead]
    exact hk
  · rw [TickKeeps, if_neg (by rw [hf]; decide)] at hkeeps
    rcases hkeeps with hv | hv
    · exact Or.inl (Level.toInt16_inj.mp (harc.trans hv))
    · exact Or.inr (by rw [hhead, hv])

/-- One that does not meet it heads the server elsewhere, and leaves the
arc where nothing brings the edit back. -/
theorem lost_tick {n n' : Net} {v : Level} (henv : Obeys env)
    (hn : Reachable lib env n) (hup : n.up = true)
    (hlost : ¬ TickKeeps env v n)
    (h : step lib env n (.ui .tick) = some n') :
    (heading env n').bri ≠ v
      ∧ (n'.dial.menu.arcFocused = false
        ∨ n'.dial.menu.arcValue = (heading env n').bri) := by
  obtain ⟨-, hfocus, hcases⟩ := tick_cases henv hn hup h
  rcases hcases with ⟨hf, hne, harc, hhead⟩ | ⟨hf, he, -, -⟩
    | ⟨hf, -, hhead⟩
  · rw [TickKeeps, if_pos hf] at hlost
    refine ⟨fun hv => hlost (Or.inl (hhead.symm.trans hv)), Or.inr ?_⟩
    rw [harc, hhead]
  · rw [TickKeeps, if_pos hf] at hlost
    exact absurd (Or.inr he) hlost
  · rw [TickKeeps, if_neg (by rw [hf]; decide)] at hlost
    refine ⟨fun hv => hlost (Or.inr ?_), Or.inl (hfocus.trans hf)⟩
    rw [← hhead, hv]

-- ===================================================== runs after an edit

/-- What a run after an edit carries along. -/
structure AfterEdit (lib : ArduinoJson) (env : WledServer Change)
    (v : Level) (n : Net) : Prop where
  reachable : Reachable lib env n
  up : n.up = true
  kept : Kept env v n

theorem afterEdit_step {n n' : Net} {e : NetEvent Change} {v : Level}
    (henv : Obeys env) (hn : AfterEdit lib env v n)
    (he : LoneStep env v n e) (h : step lib env n e = some n') :
    AfterEdit lib env v n' := by
  obtain ⟨halone, hno, hkeeps⟩ := he
  have hreach : Reachable lib env n' := reachable_step hn.reachable h
  cases e with
  | ui u =>
      obtain ⟨hdial, hserver, -, hup, hcmds⟩ := step_ui h
      obtain ⟨-, hmenu, -⟩ := Dial.step_ui hdial
      -- a focus change issues nothing and leaves the arc's value
      have hidle : n'.dial.menu.arcValue = n.dial.menu.arcValue →
          n'.commands = n.commands → AfterEdit lib env v n' := by
        intro harc hsame
        refine ⟨hreach, hup.trans hn.up, ?_⟩
        rw [Kept, harc, heading, hsame, hserver]
        exact hn.kept
      rw [hn.up, if_pos rfl] at hcmds
      cases u with
      | focusArc | defocusArc =>
          exact hidle (by rw [hmenu]; rfl) (hcmds.trans (List.append_nil _))
      | editArc w => exact absurd rfl hno
      | clickButton => cases halone
      | tick =>
          exact ⟨hreach, hup.trans hn.up,
            kept_tick henv hn.reachable hn.up hn.kept (hkeeps rfl) h⟩
  | serveCommand =>
      have hhead := heading_serveCommand h
      obtain ⟨cmd, rest, -, rfl⟩ := step_serveCommand h
      refine ⟨hreach, hn.up, ?_⟩
      rw [Kept, hhead]
      exact hn.kept
  | deliver =>
      obtain ⟨r, rest, -, rfl⟩ := step_deliver h
      exact ⟨hreach, hn.up, hn.kept⟩
  | serveChange | drop | reconnect => cases halone

-- ======================================================== to a rest

/-- Coming to rest takes no gesture and no other client. -/
theorem alone_settle {n : Net} {e : NetEvent Change} (he : e ∈ settle n) :
    e.alone ∧ ¬ e.isEdit := by
  rcases List.mem_append.mp he with he | he
  · rw [(List.mem_replicate.mp he).2]
    exact ⟨rfl, Bool.false_ne_true⟩
  · rw [(List.mem_replicate.mp he).2]
    exact ⟨rfl, Bool.false_ne_true⟩

/-- At rest a run of the timer that sends nothing leaves the network at
rest. -/
theorem silent_tick {n : Net} (hrest : AtRest n)
    (hsilent : n.dial.tickIssues = []) :
    ∃ n', step lib env n (.ui .tick) = some n' ∧ AtRest n'
      ∧ n'.server = n.server := by
  obtain ⟨n', h⟩ := ui_enabled lib env (n := n) (e := .tick) rfl
  obtain ⟨-, hserver, hreports, hup, hcmds⟩ := step_ui h
  refine ⟨_, h, ⟨hup.trans hrest.up, ?_, hreports.trans hrest.noReports⟩,
    hserver⟩
  rw [hcmds, if_pos hrest.up, hrest.noCommands, List.nil_append]
  rw [Dial.tickIssues_eq, Dial.tickMenu_eq] at hsilent
  exact hsilent

-- ================================================ the edit at the server

/-- Right after an edit the edit is on the arc. -/
theorem afterEdit_edit {n n' : Net} {v : Level} (hn : Reachable lib env n)
    (hup : n.up = true) (h : step lib env n (.ui (.editArc v)) = some n') :
    AfterEdit lib env v n' := by
  obtain ⟨hdial, -, -, hup', -⟩ := step_ui h
  obtain ⟨-, hmenu, -⟩ := Dial.step_ui hdial
  refine ⟨reachable_step hn h, hup'.trans hup, Or.inl ?_⟩
  rw [hmenu]
  rfl

/-- An edit kept until a rest that a run of the timer left is the
server's brightness. -/
theorem AfterEdit.at_server {n : Net} {v : Level}
    (hn : AfterEdit lib env v n) (hrest : AtRest n) (hticked : Ticked n) :
    n.server.bri = v := by
  rcases hn.kept with hv | hv
  · rw [← (agrees_of_ticked hn.reachable hrest hticked).arcValue, hv]
  · rw [← heading_of_nil env hrest.noCommands, hv]

/-- A timer run that does not meet the condition goes on, without another
edit, to a rest where the server does not have the edit and the timer has
nothing to send. -/
theorem lost_at_rest {n : Net} {v : Level} (henv : Obeys env)
    (hn : Reachable lib env n) (hup : n.up = true)
    (hlost : ¬ TickKeeps env v n) :
    ∃ es n', (∀ e ∈ es, e.alone ∧ ¬ e.isEdit)
      ∧ (system lib env).run n (.ui .tick :: es) = some n' ∧ AtRest n'
      ∧ n'.dial.tickIssues = [] ∧ n'.server.bri ≠ v := by
  obtain ⟨n₁, htick⟩ := ui_enabled lib env (n := n) (e := .tick) rfl
  obtain ⟨hne, harc⟩ := lost_tick henv hn hup hlost htick
  obtain ⟨hup₁, -, -⟩ := tick_cases henv hn hup htick
  obtain ⟨n', hrun, hrest, hcached, hserver, hmenu⟩ :=
    run_settle lib env (sync_step (sync_reachable hn) htick) hup₁
  obtain ⟨-, hbri⟩ := cached_fields hcached
  have hrun' : (system lib env).run n (.ui .tick :: settle n₁) = some n' :=
    System.run_cons.mpr ⟨n₁, htick, hrun⟩
  have hn' : Reachable lib env n' := hn.run (fun _ _ => trivial) hrun'
  refine ⟨settle n₁, n', fun _ => alone_settle, hrun', hrest, ?_, ?_⟩
  · rw [Dial.tickIssues_eq_nil_iff (dialInv_reachable hn').inRange, hbri,
      Level.toInt16_inj, hserver, hmenu]
    exact harc
  · rw [hserver]
    exact hne

/-- Each run of `update_with_lvgl_state` is one step. After an edit to `v`,
in every run of a lone dial whose timer runs all meet the condition, the
server has `v` at every rest that a run of the timer came before and no
delivery since (such a run sent nothing: what it sent would be in
flight). In part the converse holds: a timer run that does not meet the
condition goes on, without another edit, to such a rest where the server
does not have `v`; others may lead to one where it does. -/
theorem edit_reaches_server (lib : ArduinoJson) (env : WledServer Change)
    (henv : Obeys env) (v : Level) :
    (∀ n₀ n₁ n es₁ es₂, Reachable lib env n₀ → n₀.up = true →
      step lib env n₀ (.ui (.editArc v)) = some n₁ →
      (system lib env).run n₁ (es₁ ++ .ui .tick :: es₂) = some n →
      (system lib env).Along (LoneStep env v) n₁ (es₁ ++ .ui .tick :: es₂) →
      (∀ e ∈ es₂, ¬ Disturbs e) → AtRest n → n.server.bri = v)
    ∧ ∀ n, Reachable lib env n → n.up = true → ¬ TickKeeps env v n →
      ∃ es n₁ n₂, (∀ e ∈ es, e.alone ∧ ¬ e.isEdit)
        ∧ (system lib env).run n (.ui .tick :: es) = some n₁
        ∧ n₁.dial.tickIssues = []
        ∧ step lib env n₁ (.ui .tick) = some n₂
        ∧ AtRest n₂ ∧ n₂.server.bri ≠ v := by
  constructor
  · intro n₀ n₁ n es₁ es₂ hn₀ hup hedit hrun halong hes hrest
    have hafter : AfterEdit lib env v n :=
      System.run_induction (P := AfterEdit lib env v)
        (fun _ _ _ hs he hstep => afterEdit_step henv hs he hstep)
        hrun halong (afterEdit_edit hn₀ hup hedit)
    obtain ⟨n₂, -, hrun₂⟩ := System.run_append.mp hrun
    exact hafter.at_server hrest (ticked_run hes hrun₂)
  · intro n hn hup hlost
    obtain ⟨es, n₁, hes, hrun, hrest, hsilent, hne⟩ :=
      lost_at_rest henv hn hup hlost
    obtain ⟨n₂, htick, hrest₂, hserver⟩ :=
      @silent_tick Change lib env n₁ hrest hsilent
    refine ⟨es, n₁, n₂, hes, hrun, hsilent, htick, hrest₂, ?_⟩
    rw [hserver]
    exact hne

/-- An edit that the timer finds on the arc, all the way to the server. -/
theorem focused_edit_reaches_server :
    (⟨⟨⟨true, .blue, .blue, false, true, 150, 255⟩,
      ⟨true, 150, ⟨true, []⟩⟩⟩, ⟨true, 150⟩, []⟩ : Net).server.bri = 150 :=
  (edit_reaches_server .reference .exact
    (fun v _ => lvArcSetValue_toInt16 v) 150).1
    ⟨⟨⟨true, .blue, .blue, false, true, 100, 255⟩,
      ⟨true, 100, ⟨true, []⟩⟩⟩, ⟨true, 100⟩, []⟩
    ⟨⟨⟨true, .blue, .blue, false, true, 150, 255⟩,
      ⟨true, 100, ⟨true, []⟩⟩⟩, ⟨true, 100⟩, []⟩ _
    [.ui .tick, .serveCommand, .deliver] []
    ⟨⟨Dial.init, ⟨true, 100⟩, []⟩,
      [.reconnect, .deliver, .ui .tick, .ui (.focusArc true)],
      ⟨rfl, rfl⟩, by simp, by decide +kernel⟩
    rfl (by decide +kernel) (by decide +kernel) (by decide +kernel)
    (by simp) ⟨rfl, rfl, rfl⟩

/-- An edit to 150 that the arc is defocused right after: the next timer
run takes it back, and the server stays at 100. -/
theorem defocused_edit_lost :
    ¬ ∀ (lib : ArduinoJson) (env : WledServer Server) (v : Level)
        (n₀ n₁ n : Net) (es₁ es₂ es₃ : List (NetEvent Server)),
      Obeys env → (system lib env).init n₀ →
      (∀ e ∈ es₁ ++ es₂ ++ es₃, e.alone) →
      (∀ e ∈ es₂ ++ es₃, ¬ e.isEdit) → (∀ e ∈ es₃, e ≠ .deliver) →
      (system lib env).run n₀ (.reconnect :: es₁ ++ .ui (.editArc v) :: es₂)
        = some n₁ →
      n₁.dial.tickIssues = [] →
      (system lib env).run n₁ (.ui .tick :: es₃) = some n →
      AtRest n → n.server.bri = v := by
  intro h
  have hlost := h .reference .exact 150
    ⟨Dial.init, ⟨true, 100⟩, []⟩
    ⟨⟨⟨true, .blue, .blue, false, false, 150, 0⟩,
      ⟨true, 100, ⟨true, []⟩⟩⟩, ⟨true, 100⟩, []⟩
    ⟨⟨⟨true, .blue, .blue, false, false, 100, 0⟩,
      ⟨true, 100, ⟨true, []⟩⟩⟩, ⟨true, 100⟩, []⟩
    [.deliver, .ui .tick, .ui (.focusArc true)] [.ui .defocusArc] []
    (fun v _ => lvArcSetValue_toInt16 v) ⟨rfl, rfl⟩
    (by decide) (by decide) (by simp) (by decide +kernel)
    (by decide +kernel) (by decide +kernel) ⟨rfl, rfl, rfl⟩
  exact absurd hlost (by decide)

end Net

end WledDial
