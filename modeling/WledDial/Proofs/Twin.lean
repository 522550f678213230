/-
What the simulator shows, against what the board would show.

# The controllers

Between two events the board's controller is the server itself: its
getters return the server's state, and a command sets the server's field
(`board_step`). The mock does the same with the power flag, but its
`get_wled_brightness` returns 200 whatever was set. So the two builds
differ in one number, and only a run of the timer reads it.

# When they agree

A timer run does the same on both exactly when the difference does not
show (`SameTick`): the server is at 200 after all, or the arc is focused
on a value that is neither 200 nor the server's, which both builds send.
Any other run separates them: an unfocused arc is set to two different
values, a focused one at 200 or at the server's brightness is sent by one
of them only. `simulator_faithful_iff` is this for whole runs.
-/
import Mathlib.Data.List.Infix
import WledDial.Model.Twin
import WledDial.Proofs.Agreement

namespace WledDial

open Transition

variable {Change : Type} {lib : ArduinoJson} {env : WledServer Change}

-- =========================================================== the board

namespace Board

/-- Between two events: the network is at rest, and the cache is the
server's state. -/
structure Settled (b : Board) : Prop where
  rest : Net.AtRest b.net
  cached : b.net.dial.esp.cached = b.net.server.values

theorem settled_init : Settled init where
  rest := ⟨rfl, rfl, rfl⟩
  cached := rfl

/-- A settled network is in sync. -/
theorem Settled.sync {b : Board} (hb : Settled b) : Net.Sync b.net := by
  intro _
  rw [Net.told, hb.rest.noReports]
  exact hb.cached

/-- An event on the board is the event over the server itself. -/
theorem board_step (lib : ArduinoJson) (env : WledServer Change) {b : Board}
    (hb : Settled b) (e : UiEvent) :
    if e.enabled b.net.dial.menu then
      ∃ b', b.step lib env e = some b' ∧ Settled b'
        ∧ b'.net.dial.menu = e.menuAfter b.net.server.on
            b.net.server.bri.toInt16 b.net.dial.menu
        ∧ b'.net.server = (e.issues b.net.server.on
            b.net.server.bri.toInt16 b.net.dial.menu).foldl
              (fun s cmd => env.command cmd s) b.net.server
        ∧ b'.issued = b.issued ++ e.issues b.net.server.on
            b.net.server.bri.toInt16 b.net.dial.menu
    else b.step lib env e = none := by
  obtain ⟨hon, hbri⟩ := Net.cached_fields hb.cached
  split
  · next henabled =>
    obtain ⟨n, hstep⟩ := Net.ui_enabled lib env henabled
    obtain ⟨hdial, hserver, hreports, hup, hcmds⟩ := Net.step_ui hstep
    obtain ⟨-, hmenu, -⟩ := Dial.step_ui hdial
    rw [hb.rest.up, if_pos rfl, hb.rest.noCommands, List.nil_append, hon,
      hbri] at hcmds
    rw [hon, hbri] at hmenu
    obtain ⟨n', hrun, hrest', hcached', hserver', hmenu'⟩ :=
      Net.run_settle lib env (Net.sync_step hb.sync hstep)
        (hup.trans hb.rest.up)
    refine ⟨⟨n', b.issued ++ n.commands⟩, ?_, ⟨hrest', hcached'⟩,
      hmenu'.trans hmenu, ?_, ?_⟩
    · unfold step
      rw [hstep, Option.bind_some, hrun]
      rfl
    · show n'.server = _
      rw [hserver', Net.heading, hcmds, hserver]
    · show b.issued ++ n.commands = _
      rw [hcmds]
  · next hdisabled =>
    have hdial : b.net.dial.step lib (.ui e) = none :=
      (Dial.step_ui_eq lib b.net.dial e).trans (if_neg hdisabled)
    have hnet : b.net.step lib env (.ui e) = none := by
      simp only [Net.step, hdial]
      rfl
    unfold step
    rw [hnet]
    rfl

end Board

-- =================================================== the two in lockstep

/-- The two builds show the same and issued the same, and the mock's flag
is the server's. -/
structure Same (s : Simulator) (b : Board) : Prop where
  settled : Board.Settled b
  menu : s.menu = b.net.dial.menu
  isOn : s.mock.isOn = b.net.server.on
  issued : s.issued = b.issued

theorem same_init : Same .init .init := ⟨Board.settled_init, rfl, rfl, rfl⟩

theorem Same.view {s : Simulator} {b : Board} (h : Same s b) :
    s.view = b.view := by
  unfold Simulator.view Board.view
  rw [h.menu, h.issued]

/-- Two brightnesses make a timer run do the same exactly when the arc is
focused and neither is its value, or they are one. -/
theorem tick_same_iff (menu : MainMenu) (on : Bool) (a b : Level) :
    ((menu.shown on a.toInt16).screen = (menu.shown on b.toInt16).screen
        ∧ (menu.shown on a.toInt16).sends a.toInt16
          = (menu.shown on b.toInt16).sends b.toInt16)
      ↔ b = a ∨ (menu.arcFocused = true ∧ menu.arcValue ≠ a
          ∧ menu.arcValue ≠ b) := by
  unfold MainMenu.screen MainMenu.sends
  cases hf : menu.arcFocused with
  | true =>
      simp only [MainMenu.shown_ledOn, MainMenu.shown_arcDisabled,
        MainMenu.shown_arcValue_focused hf, Ne, Level.toInt16_inj]
      by_cases ha : menu.arcValue = a
      · by_cases hb : menu.arcValue = b
        · simp [← ha, ← hb]
        · have hne : a ≠ b := fun h => hb (ha.trans h)
          simp [ha, hne, hne.symm]
      · by_cases hb : menu.arcValue = b
        · have hne : b ≠ a := fun h => ha (hb.trans h)
          simp [hb, hne]
        · simp [ha, hb]
  | false =>
      simp only [Screen.mk.injEq, MainMenu.shown_ledOn,
        MainMenu.shown_arcDisabled, MainMenu.shown_arcValue_unfocused hf,
        lvArcSetValue_toInt16, Ne, not_true_eq_false, if_false]
      simp [eq_comm]

/-- Where a timer run does the same, so does every field of the menu. -/
theorem shown_same {menu : MainMenu} {a b : Level}
    (h : b = a ∨ (menu.arcFocused = true ∧ menu.arcValue ≠ a
      ∧ menu.arcValue ≠ b)) (on : Bool) :
    menu.shown on a.toInt16 = menu.shown on b.toInt16 := by
  rcases h with rfl | ⟨hf, -, -⟩
  · rfl
  · unfold MainMenu.shown MainMenu.withRefresh
    simp only [MainMenu.withPower_arcFocused, hf, Bool.not_true,
      Bool.false_eq_true, if_false]

/-- Only the timer reads the brightness, so what an event does over 200
and over the server's brightness is the same unless it is a timer run
that tells them apart. -/
theorem event_same {e : UiEvent} {menu : MainMenu} {b : Level}
    (h : e = .tick → b = 200 ∨ (menu.arcFocused = true
      ∧ menu.arcValue ≠ 200 ∧ menu.arcValue ≠ b)) (on : Bool) :
    e.menuAfter on 200 menu = e.menuAfter on b.toInt16 menu
      ∧ e.issues on 200 menu = e.issues on b.toInt16 menu := by
  cases e with
  | tick =>
      exact ⟨shown_same (h rfl) on,
        ((tick_same_iff menu on 200 b).mpr (h rfl)).2⟩
  | _ => exact ⟨rfl, rfl⟩

/-- The commands an event issues are those the ideal server obeys. -/
theorem mem_issues {e : UiEvent} {on : Bool} {bri : Int16}
    {menu : MainMenu} {cmd : Command} (h : cmd ∈ e.issues on bri menu) :
    cmd = .turnOn ∨ ∃ v : Level, cmd = .bri v.toInt16 := by
  cases e with
  | clickButton => exact Or.inl (List.mem_singleton.mp h)
  | tick =>
      change cmd ∈ (menu.shown on bri).sends bri at h
      unfold MainMenu.sends at h
      split at h
      · exact Or.inr ⟨_, List.mem_singleton.mp h⟩
      · cases h
  | focusArc | defocusArc | editArc => cases h

/-- The mock's flag and the ideal server's power take every command the
same way. -/
theorem isOn_foldl (hideal : Ideal env) {cmds : List Command}
    (hcmds : ∀ cmd ∈ cmds, cmd = .turnOn ∨ ∃ v : Level, cmd = .bri v.toInt16)
    {m : MockWledController} {s : Server} (h : m.isOn = s.on) :
    (cmds.foldl (fun m cmd => MockWledController.controller.command cmd m)
        m).isOn
      = (cmds.foldl (fun s cmd => env.command cmd s) s).on := by
  induction cmds generalizing m s with
  | nil => exact h
  | cons cmd cmds ih =>
      refine ih (fun c hc => hcmds c (List.mem_cons_of_mem _ hc)) ?_
      rcases hcmds cmd (List.mem_cons_self ..) with rfl | ⟨v, rfl⟩
      · show true = (env.command .turnOn s).on
        rw [hideal.turnOn]
      · show m.isOn = (env.command (.bri v.toInt16) s).on
        rw [hideal.bri]
        exact h

/-- An event on the simulator. -/
theorem Simulator.step_eq (s : Simulator) (e : UiEvent) :
    s.step e =
      if e.enabled s.menu then
        some ⟨e.menuAfter s.mock.isOn 200 s.menu,
          (e.issues s.mock.isOn 200 s.menu).foldl
            (fun m cmd => MockWledController.controller.command cmd m) s.mock,
          s.issued ++ e.issues s.mock.isOn 200 s.menu⟩
      else none := by
  unfold Simulator.step
  rw [uiStep_eq]
  simp only
  split <;> rfl

/-- Both builds take an event alike, unless it is a timer run that tells
them apart. -/
theorem same_step (lib : ArduinoJson) (hideal : Ideal env) {s : Simulator}
    {b : Board} (h : Same s b) {e : UiEvent} (he : e = .tick → SameTick b) :
    (s.step e = none ∧ b.step lib env e = none)
      ∨ ∃ s' b', s.step e = some s' ∧ b.step lib env e = some b'
        ∧ Same s' b' := by
  have hboard := Board.board_step lib env h.settled e
  have hsim := s.step_eq e
  rw [h.menu] at hsim
  split at hboard
  · next henabled =>
    rw [if_pos henabled] at hsim
    obtain ⟨b', hb', hsettled, hmenu, hserver, hissued⟩ := hboard
    obtain ⟨hsameMenu, hsameIssues⟩ := event_same he b.net.server.on
    refine Or.inr ⟨_, b', hsim, hb', hsettled, ?_, ?_, ?_⟩
    · rw [hmenu, h.isOn, hsameMenu]
    · rw [hserver, h.isOn, hsameIssues]
      exact isOn_foldl hideal (fun _ => mem_issues) h.isOn
    · rw [hissued, h.isOn, h.issued, hsameIssues]
  · next hdisabled =>
    rw [if_neg hdisabled] at hsim
    exact Or.inl ⟨hsim, hboard⟩

/-- A timer run after which both still show and issued the same did not
tell them apart. -/
theorem sameTick_of_view {s : Simulator} {b : Board} (h : Same s b)
    (hview : (s.step .tick).map Simulator.view
      = (b.step lib env .tick).map Board.view) : SameTick b := by
  have hboard := Board.board_step lib env h.settled .tick
  have hsim := s.step_eq .tick
  have henabled : UiEvent.tick.enabled b.net.dial.menu = true := rfl
  rw [h.menu, if_pos henabled] at hsim
  rw [if_pos henabled] at hboard
  obtain ⟨b', hb', -, hmenu, -, hissued⟩ := hboard
  rw [hsim, hb', Option.map_some, Option.map_some, Option.some_inj,
    Simulator.view, Board.view, Prod.mk.injEq, hmenu, hissued, h.isOn,
    h.issued] at hview
  exact (tick_same_iff b.net.dial.menu b.net.server.on 200
    b.net.server.bri).mp ⟨hview.1, List.append_cancel_left hview.2⟩

-- ============================================================ whole runs

/-- Two builds in the same state stay alike along a sequence of events
exactly when no timer run of it tells them apart. -/
theorem lockstep_iff (lib : ArduinoJson) (hideal : Ideal env)
    {s : Simulator} {b : Board} (h : Same s b) (es : List UiEvent) :
    (∀ es₁, es₁ <+: es →
        (Simulator.system.run s es₁).map Simulator.view
          = ((Board.system lib env).run b es₁).map Board.view)
      ↔ (Board.system lib env).Along (fun b e => e = .tick → SameTick b)
          b es := by
  induction es generalizing s b with
  | nil =>
      refine ⟨fun _ => trivial, fun _ es₁ hpre => ?_⟩
      rw [List.prefix_nil.mp hpre]
      exact congrArg some h.view
  | cons e es ih =>
      constructor
      · intro hall
        have htick : e = .tick → SameTick b := by
          rintro rfl
          have hfirst := hall [.tick] ⟨es, rfl⟩
          rw [System.run_one, System.run_one] at hfirst
          exact sameTick_of_view h hfirst
        rcases same_step lib hideal h htick with ⟨-, hb'⟩
          | ⟨s', b', hs', hb', hsame⟩
        · exact (System.along_cons_none hb').mpr htick
        · refine (System.along_cons hb').mpr
            ⟨htick, (ih hsame).mp fun es₁ hpre => ?_⟩
          have hall₁ := hall (e :: es₁) (List.cons_prefix_cons.mpr ⟨rfl, hpre⟩)
          rwa [System.run_cons_of hs', System.run_cons_of hb'] at hall₁
      · rintro ⟨htick, hrest⟩ es₁ hpre
        cases es₁ with
        | nil => exact congrArg some h.view
        | cons e₁ es₁ =>
            obtain ⟨rfl, hrestPre⟩ := List.cons_prefix_cons.mp hpre
            rcases same_step lib hideal h htick with ⟨hs', hb'⟩
              | ⟨s', b', hs', hb', hsame⟩
            · rw [System.run_cons_none hs', System.run_cons_none hb']
              rfl
            · rw [System.run_cons_of hs', System.run_cons_of hb']
              exact (ih hsame).mpr (hrest b' hb') es₁ hrestPre

/-- For every sequence of gestures and timer runs, the two builds show the
same and have issued the same after every step exactly when every timer
run finds the board's server at 200, or the arc focused on a value that
is neither 200 nor the server's brightness. -/
theorem simulator_faithful_iff (lib : ArduinoJson) (hideal : Ideal env)
    (es : List UiEvent) :
    (∀ es₁, es₁ <+: es →
        (Simulator.system.run .init es₁).map Simulator.view
          = ((Board.system lib env).run .init es₁).map Board.view)
      ↔ (Board.system lib env).Along (fun b e => e = .tick → SameTick b)
          .init es :=
  lockstep_iff lib hideal same_init es

/-- An edit while the server is at 200, and another while it is at 100: as
long as each is sent once, the simulator is the board. -/
theorem edited_simulator_faithful :
    (Simulator.system.run .init
        [.clickButton, .tick, .focusArc true, .editArc 100, .tick,
          .editArc 150, .tick]).map Simulator.view
      = ((Board.system .reference .exact).run .init
        [.clickButton, .tick, .focusArc true, .editArc 100, .tick,
          .editArc 150, .tick]).map Board.view :=
  (simulator_faithful_iff .reference ideal_exact
    [.clickButton, .tick, .focusArc true, .editArc 100, .tick, .editArc 150,
      .tick]).mpr (by decide +kernel) _ (List.prefix_refl _)

/-- After one edit to 100 the simulator sends it with every timer run, the
board once. -/
theorem edited_simulator_resends :
    ¬ ∀ (lib : ArduinoJson) (env : WledServer Server), Ideal env →
      ∀ es : List UiEvent,
        (Simulator.system.run .init es).map Simulator.view
          = ((Board.system lib env).run .init es).map Board.view := by
  intro h
  have hsame := h .reference .exact ideal_exact
    [.clickButton, .tick, .focusArc true, .editArc 100, .tick, .tick]
  exact absurd hsame (by decide +kernel)

end WledDial
