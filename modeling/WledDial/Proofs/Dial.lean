/-
The dial against any environment: what its timer runs send, over whole
runs.

# One run of the timer

A focused arc is compared as it stands; an unfocused one has just been
set to the brightness, clamped, so it differs from it only out of range
(`tickIssues_focused`, `tickIssues_unfocused`). Nothing else decides a
send: neither the power flag nor who moved last, the arc or the cache.

# Runs

- Under reports of a brightness in range the cached one stays in range,
  and the arc is disabled exactly while the menu shows off (`DialInv`).
- Between two edits the arc moves only by a refresh, so what it shows was
  the cached brightness at some earlier point (`arc_was_cached`).
- The cache is the last reading of the documents handled, whatever else
  happened (`cached_run`).
- The arc shows no brightness of its own, and so none is sent
  (`sourced_arcValue`).
-/
import Mathlib.Data.List.Induction
import WledDial.Proofs.Reports

namespace WledDial

open Transition Register

namespace Dial

variable {lib : ArduinoJson}

-- ===================================================== one timer run

/-- A focused arc is sent if it differs from the cached brightness. -/
theorem tickIssues_focused {d : Dial} (hf : d.menu.arcFocused = true) :
    d.tickIssues
      = if d.menu.arcValue.toInt16 ≠ d.esp.brightness then
          [.bri d.menu.arcValue.toInt16]
        else [] := by
  rw [tickIssues_eq, tickMenu_eq, MainMenu.sends,
    MainMenu.shown_arcValue_focused hf]

/-- An unfocused arc is sent if the cached brightness is not one it can
show. -/
theorem tickIssues_unfocused {d : Dial} (hf : d.menu.arcFocused = false) :
    d.tickIssues
      = if InRange d.esp.brightness then []
        else [.bri (lvArcSetValue d.esp.brightness.toInt).toInt16] := by
  rw [tickIssues_eq, tickMenu_eq, MainMenu.sends,
    MainMenu.shown_arcValue_unfocused hf]
  by_cases hr : InRange d.esp.brightness
  · rw [if_pos hr, if_neg (not_not.mpr ((lvArcSetValue_eq_iff _).mpr hr))]
  · rw [if_neg hr, if_pos fun h => hr ((lvArcSetValue_eq_iff _).mp h)]

/-- In range, a timer run sends exactly when the arc is focused and
differs from the cached brightness. -/
theorem tickIssues_eq_nil_iff {d : Dial} (hr : InRange d.esp.brightness) :
    d.tickIssues = []
      ↔ d.menu.arcFocused = false
        ∨ d.menu.arcValue.toInt16 = d.esp.brightness := by
  cases hf : d.menu.arcFocused with
  | false =>
      rw [tickIssues_unfocused hf, if_pos hr]
      exact ⟨fun _ => Or.inl rfl, fun _ => rfl⟩
  | true =>
      rw [tickIssues_focused hf]
      by_cases he : d.menu.arcValue.toInt16 = d.esp.brightness
      · rw [if_neg (not_not.mpr he)]
        exact ⟨fun _ => Or.inr he, fun _ => rfl⟩
      · rw [if_pos he]
        constructor
        · intro h
          cases h
        · rintro (h | h)
          · cases h
          · exact absurd h he

-- ======================================================== the invariant

/-- What holds of the dial as long as the brightness reported is in range:
the one cached is one the arc can show, and the arc is disabled exactly
while the menu shows off. -/
structure DialInv (d : Dial) : Prop where
  inRange : InRange d.esp.brightness
  disabled : d.menu.arcDisabled = !d.menu.ledOn

theorem dialInv_init : DialInv init where
  inRange := by decide
  disabled := rfl

/-- The invariant reads the menu and the cache only. -/
theorem DialInv.of_same {d d' : Dial} (hd : DialInv d)
    (hmenu : d'.menu = d.menu) (hcached : d'.esp.cached = d.esp.cached) :
    DialInv d' := by
  have hbri : d'.esp.brightness = d.esp.brightness := congrArg Prod.snd hcached
  refine ⟨?_, ?_⟩
  · rw [hbri]
    exact hd.inRange
  · rw [hmenu]
    exact hd.disabled

/-- A GUI event keeps the disabled flag opposite to the power shown. -/
theorem menuAfter_disabled (on : Bool) (bri : Int16) (e : UiEvent)
    {menu : MainMenu} (h : menu.arcDisabled = !menu.ledOn) :
    (e.menuAfter on bri menu).arcDisabled
      = !(e.menuAfter on bri menu).ledOn := by
  cases e with
  | focusArc | defocusArc | editArc | clickButton => exact h
  | tick =>
      show (menu.shown on bri).arcDisabled = !(menu.shown on bri).ledOn
      rw [MainMenu.shown_arcDisabled, MainMenu.shown_ledOn]
      split
      · next he => rw [h, he]
      · rfl

theorem dialInv_step {d d' : Dial} {e : DialEvent} (hd : DialInv d)
    (he : InRangeReports lib e) (hstep : step lib d e = some d') :
    DialInv d' := by
  cases e with
  | report doc =>
      cases hstep
      refine ⟨?_, hd.disabled⟩
      have hcached := EspWledController.cached_onWledJsonData lib doc d.esp
      show InRange (d.esp.onWledJsonData lib doc).cached.2
      rw [hcached]
      cases hr : EspWledController.reading lib doc with
      | none => exact hd.inRange
      | some r => exact he r hr
  | ui u =>
      obtain ⟨-, hmenu, hesp⟩ := step_ui hstep
      refine ⟨?_, ?_⟩
      · rw [hesp]
        exact hd.inRange
      · rw [hmenu]
        exact menuAfter_disabled _ _ u hd.disabled
  | linkUp | linkDown | transmit =>
      obtain ⟨hmenu, hcached⟩ :=
        step_link (fun u => by simp) (fun doc => by simp) hstep
      exact hd.of_same hmenu hcached

theorem dialInv_run {d d' : Dial} {es : List DialEvent} (hd : DialInv d)
    (hes : ∀ e ∈ es, InRangeReports lib e)
    (hrun : (system lib).run d es = some d') : DialInv d' :=
  System.run_induction (P := DialInv) (G := fun _ e => InRangeReports lib e)
    (fun _ _ _ => dialInv_step) hrun (System.along_of_forall hes) hd

theorem dialInv_reachable {d : Dial}
    (hd : (system lib).ReachableBy (InRangeReports lib) d) : DialInv d :=
  System.reachableBy_induction (fun _ h => h ▸ dialInv_init)
    (fun _ _ _ => dialInv_step) hd

theorem dialInv_fullReports {d : Dial}
    (hd : (system lib).ReachableBy FullReports d) : DialInv d :=
  dialInv_reachable (hd.mono fun _ => inRangeReports_of_full lib)

-- ================================================== runs without an edit

/-- The event is a user's edit of the arc. -/
def IsEdit : DialEvent → Prop
  | .ui (.editArc _) => True
  | _ => False

/-- Without an edit, a step leaves the arc's value or sets it to a cached
brightness in range. -/
theorem step_arcValue {d d' : Dial} {e : DialEvent} (hd : DialInv d)
    (hno : ¬ IsEdit e) (hstep : step lib d e = some d') :
    d'.menu.arcValue = d.menu.arcValue
      ∨ d'.menu.arcValue.toInt16 = d'.esp.brightness := by
  cases e with
  | ui u =>
      obtain ⟨-, hmenu, hesp⟩ := step_ui hstep
      rw [hmenu, hesp]
      cases u with
      | focusArc | defocusArc | clickButton => exact Or.inl rfl
      | editArc v => exact absurd trivial hno
      | tick =>
          show (d.menu.shown _ _).arcValue = _ ∨ _
          cases hf : d.menu.arcFocused with
          | true => exact Or.inl (MainMenu.shown_arcValue_focused hf _ _)
          | false =>
              apply Or.inr
              show (d.menu.shown _ _).arcValue.toInt16 = d.esp.brightness
              rw [MainMenu.shown_arcValue_unfocused hf]
              exact (lvArcSetValue_eq_iff _).mpr hd.inRange
  | report doc =>
      cases hstep
      exact Or.inl rfl
  | linkUp | linkDown | transmit =>
      obtain ⟨hmenu, -⟩ :=
        step_link (fun u => by simp) (fun doc => by simp) hstep
      exact Or.inl (congrArg MainMenu.arcValue hmenu)

/-- From a point where the arc showed the cached brightness, and as long
as nobody edits it, the arc shows what was cached at some point since. -/
theorem arc_was_cached {d₀ d : Dial} {es : List DialEvent}
    (hd₀ : DialInv d₀)
    (hshown : d₀.menu.arcValue.toInt16 = d₀.esp.brightness)
    (hes : ∀ e ∈ es, InRangeReports lib e ∧ ¬ IsEdit e)
    (hrun : (system lib).run d₀ es = some d) :
    ∃ es₁ es₂ d₁, es = es₁ ++ es₂ ∧ (system lib).run d₀ es₁ = some d₁
      ∧ (system lib).run d₁ es₂ = some d
      ∧ d₁.esp.brightness = d.menu.arcValue.toInt16 := by
  -- induction from the end of the run: the last step either kept the
  -- arc's value, or is the point itself
  induction es using List.reverseRecOn generalizing d with
  | nil =>
      cases hrun
      exact ⟨[], [], d₀, rfl, rfl, rfl, hshown.symm⟩
  | append_singleton es e ih =>
      obtain ⟨d', hrun', hlast⟩ := System.run_append.mp hrun
      have hes' : ∀ e ∈ es, InRangeReports lib e ∧ ¬ IsEdit e :=
        fun e' he' => hes e' (List.mem_append_left _ he')
      obtain ⟨-, hno⟩ := hes e (by simp)
      have hd' : DialInv d' :=
        dialInv_run hd₀ (fun e he => (hes' e he).1) hrun'
      have hstep : step lib d' e = some d := System.run_singleton.mp hlast
      rcases step_arcValue hd' hno hstep with hkept | hset
      · obtain ⟨es₁, es₂, d₁, hsplit, hrun₁, hrun₂, hd₁⟩ := ih hes' hrun'
        refine ⟨es₁, es₂ ++ [e], d₁, ?_, hrun₁, ?_, ?_⟩
        · rw [hsplit, List.append_assoc]
        · exact System.run_append.mpr ⟨d', hrun₂, hlast⟩
        · rw [hd₁, hkept]
      · exact ⟨es ++ [e], [], d, (List.append_nil _).symm, hrun, rfl,
          hset.symm⟩

/-- From a timer run that ended with the arc at the cached brightness,
and without an edit since, a timer run sends exactly when it finds the
arc focused and the cached brightness moved away from it. What it sends
is then the arc's value, and that was cached at some point since. -/
theorem unedited_tick_sends_iff {d₀ d : Dial} {es : List DialEvent}
    (hreach : (system lib).ReachableBy (InRangeReports lib) d₀)
    (hshown : d₀.menu.arcValue.toInt16 = d₀.esp.brightness)
    (hes : ∀ e ∈ es, InRangeReports lib e ∧ ¬ IsEdit e)
    (hrun : (system lib).run d₀ es = some d) :
    (d.tickIssues ≠ []
      ↔ d.menu.arcFocused = true
        ∧ d.menu.arcValue.toInt16 ≠ d.esp.brightness)
    ∧ (d.tickIssues ≠ [] →
      d.tickIssues = [.bri d.menu.arcValue.toInt16]
      ∧ ∃ es₁ es₂ d₁, es = es₁ ++ es₂ ∧ (system lib).run d₀ es₁ = some d₁
        ∧ (system lib).run d₁ es₂ = some d
        ∧ d₁.esp.brightness = d.menu.arcValue.toInt16) := by
  have hd : DialInv d := dialInv_reachable
    (hreach.run (fun e he => (hes e he).1) hrun)
  have hiff : d.tickIssues ≠ []
      ↔ d.menu.arcFocused = true
        ∧ d.menu.arcValue.toInt16 ≠ d.esp.brightness := by
    rw [Ne, tickIssues_eq_nil_iff hd.inRange, not_or, Bool.not_eq_false]
  refine ⟨hiff, fun hsend => ?_⟩
  obtain ⟨hf, hne⟩ := hiff.mp hsend
  refine ⟨?_, arc_was_cached (dialInv_reachable hreach) hshown hes hrun⟩
  rw [tickIssues_focused hf, if_pos hne]

/-- Another client's change while the arc is focused: the next timer run
sends the old brightness. -/
theorem focused_tick_reverts_other_client :
    ¬ ∀ (lib : ArduinoJson) (d' d₀ d : Dial) (es : List DialEvent),
      (system lib).ReachableBy FullReports d' →
      step lib d' (.ui .tick) = some d₀ →
      d₀.menu.arcValue.toInt16 = d₀.esp.brightness →
      (∀ e ∈ es, FullReports e ∧ ¬ IsEdit e) →
      (system lib).run d₀ es = some d → d.tickIssues = [] := by
  intro h
  have hrevert := h .reference
    ⟨⟨true, .blue, .blue, false, true, 100, 255⟩,
      ⟨true, 100, ⟨true, []⟩⟩⟩
    ⟨⟨true, .blue, .blue, false, true, 100, 255⟩,
      ⟨true, 100, ⟨true, []⟩⟩⟩
    ⟨⟨true, .blue, .blue, false, true, 100, 255⟩,
      ⟨true, 200, ⟨true, []⟩⟩⟩
    [.report (fullReport true 200)]
    ⟨init, [.linkUp, .report (fullReport true 100), .ui .tick,
        .ui (.focusArc true)], rfl,
      by simp, by decide +kernel⟩
    (by decide +kernel) (by decide +kernel)
    (by simp [IsEdit]) (by decide +kernel)
  exact absurd hrevert (by decide +kernel)

/-- A brightness of 200 reported alone, found by an arc that is not
focused: nothing is sent. -/
theorem unfocused_tick_keeps_other_client :
    (⟨⟨true, .blue, .blue, false, false, 100, 0⟩,
      ⟨false, 200, ⟨true, []⟩⟩⟩ : Dial).tickIssues = [] := by
  have hpartial : InRangeReports .reference
      (.report (stateDocument [(ascii "bri", .int 200)])) := by
    intro r hr
    cases hr
    decide +kernel
  have hiff := (@unedited_tick_sends_iff .reference
    ⟨⟨true, .blue, .blue, false, false, 100, 0⟩, ⟨true, 100, ⟨true, []⟩⟩⟩
    ⟨⟨true, .blue, .blue, false, false, 100, 0⟩, ⟨false, 200, ⟨true, []⟩⟩⟩
    [.report (stateDocument [(ascii "bri", .int 200)])]
    ⟨init, [.linkUp, .report (fullReport true 100), .ui .tick], rfl,
      fun e he => inRangeReports_of_full _ (by revert e; simp),
      by decide +kernel⟩
    (by decide +kernel)
    (by simp [IsEdit, hpartial])
    (by decide +kernel)).1
  by_contra hsend
  exact absurd (hiff.mp hsend).1 (by decide +kernel)

-- ====================================================== the off state

/-- Every pending edit can be met by an off report: the arc keeps focus
and value, whatever the two brightnesses are. -/
theorem pending_edit_reachable (lib : ArduinoJson) (a b : Level) :
    ∃ d, (system lib).ReachableBy FullReports d
      ∧ d.esp.isWledOn = false ∧ d.menu.arcFocused = true
      ∧ d.menu.arcValue = a ∧ d.esp.brightness = b.toInt16 := by
  -- on at `b`, one timer run to enable the arc, edit it to `a`, off at `b`
  let shown := MainMenu.mainMenu.shown true b.toInt16
  let focused := (UiEvent.focusArc true).menuAfter true b.toInt16 shown
  let edited := (UiEvent.editArc a).menuAfter true b.toInt16 focused
  have hon : step lib init (.report (fullReport true b))
      = some ⟨.mainMenu, ⟨true, b.toInt16, ⟨false, []⟩⟩⟩ :=
    step_report (stateReport_fullReport true b) lib init
  have htick : step lib ⟨.mainMenu, ⟨true, b.toInt16, ⟨false, []⟩⟩⟩
      (.ui .tick) = some ⟨shown, ⟨true, b.toInt16, ⟨false, []⟩⟩⟩ :=
    step_ui_eq lib _ _
  have hfocus : step lib ⟨shown, ⟨true, b.toInt16, ⟨false, []⟩⟩⟩
      (.ui (.focusArc true))
        = some ⟨focused, ⟨true, b.toInt16, ⟨false, []⟩⟩⟩ :=
    step_ui_eq lib _ _
  have hedit : step lib ⟨focused, ⟨true, b.toInt16, ⟨false, []⟩⟩⟩
      (.ui (.editArc a)) = some ⟨edited, ⟨true, b.toInt16, ⟨false, []⟩⟩⟩ := by
    have henabled : (UiEvent.editArc a).enabled focused = true := by
      show (focused.arcFocused && !focused.arcDisabled) = true
      have hdis : focused.arcDisabled = false :=
        MainMenu.shown_arcDisabled true b.toInt16 .mainMenu
      rw [hdis]
      rfl
    rw [step_ui_eq, if_pos henabled]
    rfl
  have hoff : step lib ⟨edited, ⟨true, b.toInt16, ⟨false, []⟩⟩⟩
      (.report (fullReport false b))
        = some ⟨edited, ⟨false, b.toInt16, ⟨false, []⟩⟩⟩ :=
    step_report (stateReport_fullReport false b) lib _
  refine ⟨⟨edited, ⟨false, b.toInt16, ⟨false, []⟩⟩⟩,
    ⟨init, [.report (fullReport true b), .ui .tick, .ui (.focusArc true),
      .ui (.editArc a), .report (fullReport false b)], rfl, by simp, ?_⟩,
    rfl, rfl, rfl, rfl⟩
  exact System.run_cons.mpr ⟨_, hon, System.run_cons.mpr ⟨_, htick,
    System.run_cons.mpr ⟨_, hfocus, System.run_cons.mpr ⟨_, hedit,
      System.run_singleton.mpr hoff⟩⟩⟩⟩

/-- While the server is off, a timer run sends nothing exactly when the
arc is not focused or shows the cached brightness; and every other
combination of the two brightnesses is reached, and sends. -/
theorem off_tick_silent_iff (lib : ArduinoJson) :
    (∀ d, (system lib).ReachableBy FullReports d → d.esp.isWledOn = false →
      (d.tickIssues = []
        ↔ d.menu.arcFocused = false
          ∨ d.menu.arcValue.toInt16 = d.esp.brightness))
    ∧ ∀ a b : Level, a ≠ b →
      ∃ d, (system lib).ReachableBy FullReports d ∧ d.esp.isWledOn = false
        ∧ d.menu.arcFocused = true ∧ d.esp.brightness = b.toInt16
        ∧ d.tickIssues = [.bri a.toInt16] := by
  constructor
  · intro d hd _
    exact tickIssues_eq_nil_iff (dialInv_fullReports hd).inRange
  · intro a b hne
    obtain ⟨d, hd, hoff, hf, ha, hb⟩ := pending_edit_reachable lib a b
    refine ⟨d, hd, hoff, hf, hb, ?_⟩
    rw [tickIssues_focused hf, ha, hb,
      if_pos fun h => hne (Level.toInt16_inj.mp h)]

/-- An edit to 150 that an off report finds at the server already: the
focused arc shows what is cached, and nothing is sent. -/
theorem echoed_off_tick_silent :
    (⟨⟨true, .blue, .blue, false, true, 150, 255⟩,
      ⟨false, 150, ⟨true, []⟩⟩⟩ : Dial).tickIssues = [] :=
  ((off_tick_silent_iff .reference).1 _
    ⟨init, [.linkUp, .report (fullReport true 100), .ui .tick,
        .ui (.focusArc true), .ui (.editArc 150),
        .report (fullReport false 150)], rfl,
      by simp, by decide +kernel⟩ rfl).mpr (Or.inr (by decide +kernel))

/-- An edit to 150, then an off report: the next timer run sends the
edit to a server that is off. -/
theorem off_tick_sends_pending_edit :
    ¬ ∀ (lib : ArduinoJson) (d : Dial),
      (system lib).ReachableBy FullReports d → d.esp.isWledOn = false →
      d.tickIssues = [] := by
  intro h
  have hsend := h .reference
    ⟨⟨true, .blue, .blue, false, true, 150, 255⟩,
      ⟨false, 100, ⟨true, []⟩⟩⟩
    ⟨init, [.linkUp, .report (fullReport true 100), .ui .tick,
        .ui (.focusArc true), .ui (.editArc 150),
        .report (fullReport false 100)], rfl,
      by simp, by decide +kernel⟩
    rfl
  exact absurd hsend (by decide +kernel)

-- =================================================== any number reported

/-- The documents handled in a run. -/
def documents (es : List DialEvent) : List Json :=
  es.filterMap fun
    | .report doc => some doc
    | _ => none

/-- The cache is the last reading of the documents handled. -/
theorem cached_run {d d' : Dial} {es : List DialEvent}
    (hrun : (system lib).run d es = some d') :
    d'.esp.cached
      = (lastWrite ((documents es).map (EspWledController.reading lib))).getD
          d.esp.cached := by
  induction es generalizing d with
  | nil =>
      cases hrun
      rfl
  | cons e es ih =>
      obtain ⟨d₁, hstep, hrest⟩ := System.run_cons.mp hrun
      rw [ih hrest]
      by_cases hdoc : ∃ doc, e = .report doc
      · obtain ⟨doc, rfl⟩ := hdoc
        cases hstep
        rw [EspWledController.cached_onWledJsonData]
        show _ = ((lastWrite ((documents es).map _)).or _).getD _
        cases lastWrite ((documents es).map (EspWledController.reading lib))
          <;> rfl
      · have hno : ∀ doc, e ≠ .report doc := fun doc h => hdoc ⟨doc, h⟩
        have hdocs : documents (e :: es) = documents es := by
          cases e with
          | report doc => exact absurd rfl (hno doc)
          | ui | linkUp | linkDown | transmit => rfl
        rw [step_cached hno hstep, hdocs]

/-- The brightness the last state reported is cached as: its number read
as a 32-bit integer and wrapped to 16 bits, or 0 before any report. -/
def reportedBrightness (lib : ArduinoJson) (es : List DialEvent) : Int16 :=
  ((lastWrite ((documents es).map (EspWledController.reading lib))).getD
    init.esp.cached).2

/-- In every run, whatever the documents say, a timer run that finds the
arc unfocused sends nothing and leaves the arc at the cached brightness
exactly when the brightness last reported is cached as one in 0 to 255;
otherwise it sends the nearer end of that range. -/
theorem unfocused_tick_listens_iff {es : List DialEvent} {d : Dial}
    (hrun : (system lib).run init es = some d)
    (hf : d.menu.arcFocused = false) :
    (d.tickIssues = [] ∧ d.tickMenu.arcValue.toInt16 = d.esp.brightness
      ↔ InRange (reportedBrightness lib es))
    ∧ (¬ InRange (reportedBrightness lib es) → d.tickIssues
        = [.bri
          (lvArcSetValue (reportedBrightness lib es).toInt).toInt16]) := by
  have hbri : d.esp.brightness = reportedBrightness lib es :=
    congrArg Prod.snd (cached_run hrun)
  have hmenu : d.tickMenu.arcValue = lvArcSetValue d.esp.brightness.toInt := by
    rw [tickMenu_eq, MainMenu.shown_arcValue_unfocused hf]
  rw [hmenu, lvArcSetValue_eq_iff, tickIssues_unfocused hf, hbri]
  by_cases hr : InRange (reportedBrightness lib es)
  · rw [if_pos hr]
    exact ⟨⟨fun _ => hr, fun _ => ⟨rfl, hr⟩⟩, fun h => absurd hr h⟩
  · rw [if_neg hr]
    exact ⟨⟨fun h => h.2, fun h => absurd h hr⟩, fun _ => rfl⟩

/-- A report of 255 is listened to. -/
theorem full_brightness_listened_to :
    (⟨.mainMenu, ⟨true, 255, ⟨false, []⟩⟩⟩ : Dial).tickIssues = [] :=
  ((@unfocused_tick_listens_iff .reference
    [.report (fullReport true 255)] _ (by decide +kernel) rfl).1.mpr
    (by decide +kernel)).1

/-- A report of 300: the arc stops at 255, and 255 is sent. -/
theorem unfocused_tick_sends_clamped :
    ¬ ∀ (lib : ArduinoJson) (es : List DialEvent) (d : Dial),
      (system lib).run init es = some d → d.menu.arcFocused = false →
      d.tickIssues = []
        ∧ d.tickMenu.arcValue.toInt16 = d.esp.brightness := by
  intro h
  have hsend := h .reference
    [.report (stateDocument [(ascii "on", .bool true),
      (ascii "bri", .int 300)])]
    ⟨.mainMenu, ⟨true, 300, ⟨false, []⟩⟩⟩ (by decide +kernel) rfl
  exact absurd hsend.1 (by decide +kernel)

-- ======================================================= what is sent

/-- Where a brightness in a run can come from: the arc as created, a cache
nobody has written, the user, or a report, clamped to the arc's range. -/
def Sourced (lib : ArduinoJson) (es : List DialEvent) (v : Level) : Prop :=
  v = lvArcSetValue 40 ∨ v = lvArcSetValue 0 ∨ .ui (.editArc v) ∈ es
    ∨ ∃ doc ∈ documents es, ∃ r, EspWledController.reading lib doc = some r
      ∧ v = lvArcSetValue r.2.toInt

theorem Sourced.append {es : List DialEvent} {v : Level}
    (h : Sourced lib es v) (fs : List DialEvent) :
    Sourced lib (es ++ fs) v := by
  rcases h with h | h | h | ⟨doc, hdoc, hr⟩
  · exact Or.inl h
  · exact Or.inr (Or.inl h)
  · exact Or.inr (Or.inr (Or.inl (List.mem_append_left _ h)))
  · refine Or.inr (Or.inr (Or.inr ⟨doc, ?_, hr⟩))
    unfold documents at hdoc ⊢
    rw [List.filterMap_append]
    exact List.mem_append_left _ hdoc

/-- What an arc that is not focused is set to. -/
theorem sourced_cached {d : Dial} {es : List DialEvent}
    (hrun : (system lib).run init es = some d) :
    Sourced lib es (lvArcSetValue d.esp.brightness.toInt) := by
  have hcached := cached_run hrun
  cases hlast : lastWrite ((documents es).map
      (EspWledController.reading lib)) with
  | none =>
      rw [hlast] at hcached
      have hbri : d.esp.brightness = 0 := congrArg Prod.snd hcached
      rw [hbri]
      exact Or.inr (Or.inl rfl)
  | some r =>
      rw [hlast] at hcached
      have hbri : d.esp.brightness = r.2 := congrArg Prod.snd hcached
      obtain ⟨doc, hdoc, hr⟩ := List.mem_map.mp (mem_of_lastWrite hlast)
      rw [hbri]
      exact Or.inr (Or.inr (Or.inr ⟨doc, hdoc, r, hr, rfl⟩))

/-- What a run of the timer shows on the arc. -/
theorem sourced_shown {d : Dial} {es : List DialEvent}
    (hrun : (system lib).run init es = some d)
    (harc : Sourced lib es d.menu.arcValue) :
    Sourced lib es
      (d.menu.shown d.esp.isWledOn d.esp.brightness).arcValue := by
  rw [MainMenu.shown_arcValue]
  split
  · exact harc
  · exact sourced_cached hrun

/-- The arc shows no brightness of its own. -/
theorem sourced_arcValue {d : Dial} {es : List DialEvent}
    (hrun : (system lib).run init es = some d) :
    Sourced lib es d.menu.arcValue := by
  induction es using List.reverseRecOn generalizing d with
  | nil =>
      cases hrun
      exact Or.inl rfl
  | append_singleton es e ih =>
      obtain ⟨d', hrun', hlast⟩ := System.run_append.mp hrun
      have hstep : step lib d' e = some d := System.run_singleton.mp hlast
      have hkept : d.menu.arcValue = d'.menu.arcValue →
          Sourced lib (es ++ [e]) d.menu.arcValue := by
        intro harc
        rw [harc]
        exact (ih hrun').append [e]
      cases e with
      | ui u =>
          obtain ⟨-, hmenu, -⟩ := step_ui hstep
          cases u with
          | editArc v =>
              refine Or.inr (Or.inr (Or.inl ?_))
              rw [hmenu]
              exact List.mem_append_right _ (List.mem_singleton_self _)
          | tick =>
              rw [hmenu]
              exact (sourced_shown hrun' (ih hrun')).append _
          | focusArc | defocusArc | clickButton =>
              exact hkept (by rw [hmenu]; rfl)
      | report doc =>
          cases hstep
          exact hkept rfl
      | linkUp | linkDown | transmit =>
          obtain ⟨hmenu, -⟩ :=
            step_link (fun u => by simp) (fun doc => by simp) hstep
          exact hkept (by rw [hmenu])

/-- Whatever the environment reports and whatever the user does: the dial
asks a server to turn on when the button is clicked and at no other time,
and every brightness it sends is one that the user has set, one that was
reported, clamped to 0 to 255, or one of the two it starts from. -/
theorem sent_sourced {d : Dial} {es : List DialEvent} {e : UiEvent}
    {cmd : Command} (hrun : (system lib).run init es = some d)
    (hcmd : cmd ∈ e.issues d.esp.isWledOn d.esp.brightness d.menu) :
    (e = .clickButton ∧ cmd = .turnOn)
      ∨ (e = .tick ∧ ∃ v, cmd = .bri v.toInt16 ∧ Sourced lib es v) := by
  cases e with
  | clickButton => exact Or.inl ⟨rfl, List.mem_singleton.mp hcmd⟩
  | tick =>
      refine Or.inr ⟨rfl, _, ?_, sourced_shown hrun (sourced_arcValue hrun)⟩
      have hsends : cmd ∈ (d.menu.shown d.esp.isWledOn d.esp.brightness).sends
          d.esp.brightness := hcmd
      unfold MainMenu.sends at hsends
      split at hsends
      · exact List.mem_singleton.mp hsends
      · cases hsends
  | focusArc | defocusArc | editArc => cases hcmd

/-- An edit that is sent. -/
theorem edit_sourced :
    (UiEvent.tick = .clickButton ∧ Command.bri 150 = .turnOn)
      ∨ (UiEvent.tick = .tick ∧ ∃ v : Level, Command.bri 150 = .bri v.toInt16
        ∧ Sourced .reference [.linkUp, .report (fullReport true 100), .ui .tick,
          .ui (.focusArc true), .ui (.editArc 150)] v) :=
  sent_sourced (d := ⟨⟨true, .blue, .blue, false, true, 150, 255⟩,
    ⟨true, 100, ⟨true, []⟩⟩⟩) (by decide +kernel) (by decide +kernel)

end Dial

end WledDial
