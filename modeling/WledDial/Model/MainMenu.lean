/-
The main menu: the power button, the brightness arc, and the callbacks
LVGL runs on them.

# What of LVGL is here

The arc keeps a value in the range `lv_arc_set_range` gave it, 0 to 255
(`Level`), and `lv_arc_set_value` clamps to it. Whether the arc is the
focused object of the default group, its disabled state, and the styles
the menu sets are fields of `MainMenu`; layout (sizes, angles, fonts,
labels) is not. A user turns the encoder on the arc only while it is
focused and not disabled. On start the button holds the focus: it joins
the default group first.

# The timer

`updateWithLvglState` runs every 500 ms. It is one callback of the
source, in three parts that each access the controller: the power
transition (`syncPower`), the refresh of the arc (`refreshArc`) and the
send (`sendBrightness`). What one atomic run of it does is
`run_updateWithLvglState`, over any controller; nothing above this file
unfolds the program.
-/
import WledDial.Model.Wled

namespace WledDial

-- =============================================================== levels

/-- A brightness in the arc's range. -/
abbrev Level := Fin 256

/-- The arc's value passed as the `int16_t` argument of a send. -/
def Level.toInt16 (v : Level) : Int16 := Int16.ofInt (v : Nat)

/-- A reported brightness that the arc can show. -/
def InRange (b : Int16) : Prop := 0 ≤ b.toInt ∧ b.toInt ≤ 255

instance (b : Int16) : Decidable (InRange b) :=
  inferInstanceAs (Decidable (_ ∧ _))

@[simp] theorem Level.toInt_toInt16 (v : Level) :
    v.toInt16.toInt = ((v : Nat) : Int) := by
  have hv : (v : Nat) < 256 := v.isLt
  exact Int16.toInt_ofInt_of_le (by omega) (by omega)

theorem Level.inRange (v : Level) : InRange v.toInt16 := by
  have hv : (v : Nat) < 256 := v.isLt
  unfold InRange
  rw [Level.toInt_toInt16]
  omega

theorem Level.toInt16_inj {v w : Level} : v.toInt16 = w.toInt16 ↔ v = w := by
  rw [← Int16.toInt_inj, Level.toInt_toInt16, Level.toInt_toInt16,
    Int.ofNat_inj, Fin.val_inj]

/-- `lv_arc_set_value` on the range 0 to 255. -/
def lvArcSetValue (v : Int) : Level := ⟨(max 0 (min 255 v)).toNat, by omega⟩

/-- The arc shows a value exactly when the value is in its range. -/
theorem lvArcSetValue_eq_iff (b : Int16) :
    (lvArcSetValue b.toInt).toInt16 = b ↔ InRange b := by
  rw [← Int16.toInt_inj, Level.toInt_toInt16]
  unfold InRange lvArcSetValue
  simp only
  omega

theorem lvArcSetValue_toInt16 (v : Level) :
    lvArcSetValue v.toInt16.toInt = v :=
  Level.toInt16_inj.mp ((lvArcSetValue_eq_iff _).mpr v.inRange)

-- ============================================================= the menu

/-- The palette colours the menu sets. -/
inductive LvColor where
  | greyDarken1
  | blueGrey
  | blue
  deriving DecidableEq

/-- The globals of the menu and the state of its two widgets. -/
structure MainMenu where
  ledOn : Bool
  buttonColor : LvColor
  arcColor : LvColor
  arcDisabled : Bool
  arcFocused : Bool
  arcValue : Level
  knobOpa : Nat
  deriving DecidableEq

/-- What of the menu tells the server's state. -/
structure Screen where
  ledOn : Bool
  arcDisabled : Bool
  arcValue : Level
  deriving DecidableEq

namespace MainMenu

def screen (menu : MainMenu) : Screen :=
  ⟨menu.ledOn, menu.arcDisabled, menu.arcValue⟩

/-- `set_controls_for_off_state`. -/
def setControlsForOffState (menu : MainMenu) : MainMenu :=
  { menu with
    buttonColor := .greyDarken1
    arcColor := .blueGrey
    arcDisabled := true }

/-- `set_controls_for_on_state`. -/
def setControlsForOnState (menu : MainMenu) : MainMenu :=
  { menu with
    buttonColor := .blue
    arcColor := .blue
    arcDisabled := false }

/-- `brightness_arc_focused`: the knob's opacity tells an edited arc from
one that is only selected. -/
def brightnessArcFocused (editing : Bool) (menu : MainMenu) : MainMenu :=
  { menu with knobOpa := if editing then 255 else 127 }

/-- `brightness_arc_defocused`. -/
def brightnessArcDefocused (menu : MainMenu) : MainMenu :=
  { menu with knobOpa := 0 }

/-- `main_menu`: the menu as it is first shown. -/
def mainMenu : MainMenu :=
  let created : MainMenu :=
    { ledOn := false
      buttonColor := .blue
      arcColor := .blue
      arcDisabled := false
      arcFocused := false
      arcValue := lvArcSetValue 40
      knobOpa := 255 }
  created.brightnessArcDefocused.setControlsForOffState

-- ============================================================ the timer

/-- The power transition. Whatever `ledOn` is, one of the two conditions
stops at it and the other reads the flag. -/
def syncPower (menu : MainMenu) : Calls MainMenu :=
  if menu.ledOn then
    .isWledOn fun on =>
      .ret (if !on then { menu.setControlsForOffState with ledOn := false }
        else menu)
  else
    .isWledOn fun on =>
      .ret (if on then { menu.setControlsForOnState with ledOn := true }
        else menu)

/-- Set the arc to the current brightness if it is not focused. -/
def refreshArc (menu : MainMenu) : Calls MainMenu :=
  if !menu.arcFocused then
    .getWledBrightness fun brightness =>
      .ret { menu with arcValue := lvArcSetValue brightness.toInt }
  else .ret menu

/-- Change the brightness if it differs from the one shown. -/
def sendBrightness (menu : MainMenu) : Calls MainMenu :=
  .getWledBrightness fun current =>
    if ((menu.arcValue : Nat) : Int) ≠ current.toInt then
      .setWledBrightness menu.arcValue.toInt16 (.ret menu)
    else .ret menu

/-- `update_with_lvgl_state`. -/
def updateWithLvglState (menu : MainMenu) : Calls MainMenu := do
  let menu ← syncPower menu
  let menu ← refreshArc menu
  sendBrightness menu

/-- `on_off_button_clicked`. -/
def onOffButtonClicked (menu : MainMenu) : Calls MainMenu :=
  .turnWledOn (.ret menu)

-- ======================================================== one timer run

/-- The menu after the power transition on the flag `on`. -/
def withPower (on : Bool) (menu : MainMenu) : MainMenu :=
  if menu.ledOn && !on then { menu.setControlsForOffState with ledOn := false }
  else if !menu.ledOn && on then
    { menu.setControlsForOnState with ledOn := true }
  else menu

/-- The menu after the refresh with the brightness `bri`. -/
def withRefresh (bri : Int16) (menu : MainMenu) : MainMenu :=
  if !menu.arcFocused then { menu with arcValue := lvArcSetValue bri.toInt }
  else menu

/-- The menu a timer run leaves, having read `on` and then `bri`. -/
def shown (on : Bool) (bri : Int16) (menu : MainMenu) : MainMenu :=
  (menu.withPower on).withRefresh bri

/-- The commands a timer run issues that finds the brightness `bri` when
it compares. -/
def sends (bri : Int16) (menu : MainMenu) : List Command :=
  if menu.arcValue.toInt16 ≠ bri then [.bri menu.arcValue.toInt16] else []

@[simp] theorem withPower_ledOn (on : Bool) (menu : MainMenu) :
    (menu.withPower on).ledOn = on := by
  unfold withPower
  cases hled : menu.ledOn <;> cases on <;> simp [hled]

@[simp] theorem withPower_arcFocused (on : Bool) (menu : MainMenu) :
    (menu.withPower on).arcFocused = menu.arcFocused := by
  unfold withPower setControlsForOffState setControlsForOnState
  split
  · rfl
  · split <;> rfl

@[simp] theorem withPower_arcValue (on : Bool) (menu : MainMenu) :
    (menu.withPower on).arcValue = menu.arcValue := by
  unfold withPower setControlsForOffState setControlsForOnState
  split
  · rfl
  · split <;> rfl

@[simp] theorem shown_ledOn (on : Bool) (bri : Int16) (menu : MainMenu) :
    (menu.shown on bri).ledOn = on := by
  unfold shown withRefresh
  split <;> simp

@[simp] theorem shown_arcFocused (on : Bool) (bri : Int16)
    (menu : MainMenu) :
    (menu.shown on bri).arcFocused = menu.arcFocused := by
  unfold shown withRefresh
  split <;> simp

@[simp] theorem shown_arcDisabled (on : Bool) (bri : Int16)
    (menu : MainMenu) :
    (menu.shown on bri).arcDisabled
      = if menu.ledOn = on then menu.arcDisabled else !on := by
  have hpower : (menu.withPower on).arcDisabled
      = if menu.ledOn = on then menu.arcDisabled else !on := by
    unfold withPower setControlsForOffState setControlsForOnState
    cases hled : menu.ledOn <;> cases on <;> simp
  unfold shown withRefresh
  split <;> exact hpower

theorem shown_arcValue (on : Bool) (bri : Int16) (menu : MainMenu) :
    (menu.shown on bri).arcValue
      = if menu.arcFocused then menu.arcValue else lvArcSetValue bri.toInt := by
  unfold shown withRefresh
  cases hf : menu.arcFocused <;> simp [hf]

/-- A focused arc is left alone. -/
@[simp] theorem shown_arcValue_focused {menu : MainMenu}
    (hf : menu.arcFocused = true) (on : Bool) (bri : Int16) :
    (menu.shown on bri).arcValue = menu.arcValue := by
  rw [shown_arcValue, if_pos hf]

/-- An unfocused arc takes the brightness, clamped. -/
@[simp] theorem shown_arcValue_unfocused {menu : MainMenu}
    (hf : menu.arcFocused = false) (on : Bool) (bri : Int16) :
    (menu.shown on bri).arcValue = lvArcSetValue bri.toInt := by
  rw [shown_arcValue, if_neg (by rw [hf]; decide)]

/-- Nothing is sent exactly when the arc shows the brightness. -/
theorem sends_eq_nil_iff {bri : Int16} {menu : MainMenu} :
    menu.sends bri = [] ↔ menu.arcValue.toInt16 = bri := by
  unfold sends
  split
  · next hne => exact ⟨fun h => absurd h (by simp), fun h => absurd h hne⟩
  · next he => exact ⟨fun _ => not_not.mp he, fun _ => rfl⟩

/-- The atomic timer run, over any controller: the menu shows what the
controller returns, and the send is decided against the menu shown. -/
theorem run_updateWithLvglState {σ : Type} (c : WledController σ)
    (menu : MainMenu) (s : σ) :
    (updateWithLvglState menu).run c s =
      let after := menu.shown (c.isWledOn s) (c.getWledBrightness s)
      let issued := after.sends (c.getWledBrightness s)
      ⟨after, issued.foldl (fun s cmd => c.command cmd s) s, issued⟩ := by
  have hpower : (syncPower menu).run c s
      = ⟨menu.withPower (c.isWledOn s), s, []⟩ := by
    unfold syncPower withPower
    cases hled : menu.ledOn <;> cases hon : c.isWledOn s
      <;> simp [Calls.run, hon]
  have hrefresh : ∀ m : MainMenu, (refreshArc m).run c s
      = ⟨m.withRefresh (c.getWledBrightness s), s, []⟩ := by
    intro m
    unfold refreshArc withRefresh
    cases m.arcFocused <;> rfl
  have hsend : ∀ m : MainMenu, (sendBrightness m).run c s
      = ⟨m, (m.sends (c.getWledBrightness s)).foldl
          (fun s cmd => c.command cmd s) s,
        m.sends (c.getWledBrightness s)⟩ := by
    intro m
    have hcmp : ((m.arcValue : Nat) : Int) ≠ (c.getWledBrightness s).toInt
        ↔ m.arcValue.toInt16 ≠ c.getWledBrightness s := by
      rw [← Level.toInt_toInt16, Ne, Ne, Int16.toInt_inj]
    unfold sendBrightness sends
    simp only [Calls.run, hcmp]
    split <;> rfl
  unfold updateWithLvglState
  simp only [Calls.run_bind, hpower, hrefresh, hsend, List.nil_append]
  rfl

end MainMenu

-- ============================================================== ui events

/-- What happens on the GUI task: the user's gestures and the timer. -/
inductive UiEvent where
  | focusArc (editing : Bool)
  | defocusArc
  | editArc (v : Level)
  | clickButton
  | tick
  deriving DecidableEq

/-- The routine an event runs, if the event can happen. -/
def UiEvent.routine : UiEvent → MainMenu → Option (Calls MainMenu)
  | .focusArc editing, menu =>
      some (.ret { menu.brightnessArcFocused editing with arcFocused := true })
  | .defocusArc, menu =>
      some (.ret { menu.brightnessArcDefocused with arcFocused := false })
  | .editArc v, menu =>
      if menu.arcFocused && !menu.arcDisabled then
        some (.ret { menu with arcValue := v })
      else none
  | .clickButton, menu => some menu.onOffButtonClicked
  | .tick, menu => some menu.updateWithLvglState

/-- Run an event's routine atomically against a controller. -/
def uiStep {σ : Type} (c : WledController σ) (e : UiEvent)
    (menu : MainMenu) (s : σ) : Option (Outcome σ MainMenu) :=
  (e.routine menu).map fun p => p.run c s

namespace UiEvent

/-- An edit needs a focused, enabled arc; everything else can always
happen. -/
def enabled : UiEvent → MainMenu → Bool
  | .editArc _, menu => menu.arcFocused && !menu.arcDisabled
  | _, _ => true

/-- The menu after an event, over a controller that answers `on` and
`bri`. -/
def menuAfter (on : Bool) (bri : Int16) : UiEvent → MainMenu → MainMenu
  | .focusArc editing, menu =>
      { menu.brightnessArcFocused editing with arcFocused := true }
  | .defocusArc, menu =>
      { menu.brightnessArcDefocused with arcFocused := false }
  | .editArc v, menu => { menu with arcValue := v }
  | .clickButton, menu => menu
  | .tick, menu => menu.shown on bri

/-- The commands an event issues. -/
def issues (on : Bool) (bri : Int16) : UiEvent → MainMenu → List Command
  | .clickButton, _ => [.turnOn]
  | .tick, menu => (menu.shown on bri).sends bri
  | _, _ => []

end UiEvent

/-- What every event does, over any controller: the controller is read
through its two getters and changed by the commands issued. -/
theorem uiStep_eq {σ : Type} (c : WledController σ) (e : UiEvent)
    (menu : MainMenu) (s : σ) :
    uiStep c e menu s =
      let on := c.isWledOn s
      let bri := c.getWledBrightness s
      if e.enabled menu then
        some ⟨e.menuAfter on bri menu,
          (e.issues on bri menu).foldl (fun s cmd => c.command cmd s) s,
          e.issues on bri menu⟩
      else none := by
  cases e with
  | focusArc editing => rfl
  | defocusArc => rfl
  | editArc v =>
      show Option.map _ (if menu.arcFocused && !menu.arcDisabled then _
        else _) = if menu.arcFocused && !menu.arcDisabled then _ else _
      split <;> rfl
  | clickButton => rfl
  | tick =>
      show some (menu.updateWithLvglState.run c s) = _
      rw [MainMenu.run_updateWithLvglState]
      rfl

end WledDial
