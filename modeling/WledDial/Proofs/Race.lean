/-
A timer run against incoming reports: what the interleaving leaves, and
when an atomic run explains it.

# What a run sees

A finished run is the program replayed on what each of its calls found in
the cache (`replay`, `run_replay`): the cache after as many assignments
as the schedule put before the call. For the timer that is three reads,
or two when the arc is focused (`ReadsAt`): the flag, the brightness to
show and the brightness to compare.

# When it is atomic

An atomic run on the state some report completed shows one flag and one
brightness. The reads need not fall together for the outcome to be the
same, and `tick_linearizable_iff` says exactly when it is: the flag is
that state's, and the two brightnesses are that state's, or, for a
focused arc, the comparison comes out as it would there. Reads that fall
between the same two reports always qualify; a report between the
refresh and the comparison does not, and sends the brightness the dial
has just shown back to the server that moved on
(`report_in_tick_sends_stale`).
-/
import WledDial.Model.Race

namespace WledDial

open Transition

-- ============================================================= replay

namespace Calls

variable {α β : Type}

/-- Run a routine on what each of its calls finds in the cache. -/
def replay : Calls α → List (Bool × Int16) → Option (α × List Command)
  | .ret a, [] => some (a, [])
  | .ret _, _ :: _ => none
  | _, [] => none
  | .turnWledOn k, _ :: views =>
      (k.replay views).map fun r => (r.1, .turnOn :: r.2)
  | .setWledBrightness v k, _ :: views =>
      (k.replay views).map fun r => (r.1, .bri v :: r.2)
  | .isWledOn k, view :: views => (k view.1).replay views
  | .getWledBrightness k, view :: views => (k view.2).replay views

/-- A call first, then the rest. -/
theorem replay_next {p q : Calls α} {view : Bool × Int16}
    {cmds : List Command} (h : p.next view = some (q, cmds))
    (views : List (Bool × Int16)) :
    p.replay (view :: views)
      = (q.replay views).map fun r => (r.1, cmds ++ r.2) := by
  have hid : ∀ o : Option (α × List Command),
      o.map (fun r => (r.1, [] ++ r.2)) = o := by
    intro o
    cases o <;> rfl
  cases p with
  | ret a => cases h
  | turnWledOn k =>
      cases h
      rfl
  | setWledBrightness v k =>
      cases h
      rfl
  | isWledOn k =>
      cases h
      exact (hid _).symm
  | getWledBrightness k =>
      cases h
      exact (hid _).symm

end Calls

namespace Race

/-- Assignments made earlier shift every point. -/
theorem points_succ (p : Nat) (tasks : List Task) :
    points (p + 1) tasks = (points p tasks).map (· + 1) := by
  induction tasks generalizing p with
  | nil => rfl
  | cons t tasks ih =>
      cases t with
      | gui =>
          rw [points, ih]
          rfl
      | websocket => exact ih (p + 1)

/-- No call comes after more assignments than the schedule makes. -/
theorem le_of_mem_points {p q : Nat} {tasks : List Task}
    (hq : q ∈ points p tasks) : q ≤ p + tasks.count .websocket := by
  induction tasks generalizing p with
  | nil => cases hq
  | cons t tasks ih =>
      cases t with
      | gui =>
          rw [List.count_cons_of_ne (by decide)]
          rcases List.mem_cons.mp hq with rfl | hq
          · omega
          · exact ih hq
      | websocket =>
          have hle := ih (p := p + 1) hq
          rw [List.count_cons_self]
          omega

/-- What is left of a finished run's routine, replayed on the cache at
each of its calls, gives the result and the commands. -/
theorem run_replay {r r' : Race} {tasks : List Task} {menu : MainMenu}
    (hrun : system.run r tasks = some r') (hdone : r'.gui = .ret menu) :
    ∃ cmds, r'.issued = r.issued ++ cmds
      ∧ r.gui.replay ((points 0 tasks).map fun p =>
          writes (r.pending.take p) r.cache) = some (menu, cmds) := by
  induction tasks generalizing r with
  | nil =>
      cases hrun
      refine ⟨[], (List.append_nil _).symm, ?_⟩
      rw [hdone]
      rfl
  | cons t tasks ih =>
      obtain ⟨r₁, hstep, hrest⟩ := System.run_cons.mp hrun
      obtain ⟨cmds, hissued, hreplay⟩ := ih hrest
      cases t with
      | gui =>
          obtain ⟨⟨q, now⟩, hnext, rfl⟩ := Option.map_eq_some_iff.mp hstep
          refine ⟨now ++ cmds, ?_, ?_⟩
          · rw [hissued, List.append_assoc]
          · rw [points, List.map_cons]
            show r.gui.replay (r.cache :: _) = _
            rw [Calls.replay_next hnext, hreplay]
            rfl
      | websocket =>
          have hws : r.step .websocket = some r₁ := hstep
          simp only [step] at hws
          split at hws
          · cases hws
          · next a rest hpending =>
            cases hws
            refine ⟨cmds, hissued, ?_⟩
            rw [points, points_succ, List.map_map, hpending]
            exact hreplay

-- =========================================================== the timer

/-- The calls of a timer run: the flag, the brightness to show unless the
arc is focused, the comparison. -/
theorem updateWithLvglState_eq (menu : MainMenu) :
    menu.updateWithLvglState = .isWledOn fun on =>
      if menu.arcFocused then (menu.withPower on).sendBrightness
      else .getWledBrightness fun bri =>
        ((menu.withPower on).withRefresh bri).sendBrightness := by
  have hrefresh : ∀ m : MainMenu, m.refreshArc
      = if m.arcFocused then .ret m
        else .getWledBrightness fun bri => .ret (m.withRefresh bri) := by
    intro m
    unfold MainMenu.refreshArc MainMenu.withRefresh
    cases m.arcFocused <;> rfl
  have hpower : menu.syncPower
      = .isWledOn fun on => .ret (menu.withPower on) := by
    unfold MainMenu.syncPower MainMenu.withPower
    cases menu.ledOn
    · refine congrArg Calls.isWledOn (funext fun on => ?_)
      cases on <;> rfl
    · refine congrArg Calls.isWledOn (funext fun on => ?_)
      cases on <;> rfl
  show menu.syncPower.bind (fun m => m.refreshArc.bind fun m =>
    m.sendBrightness) = _
  rw [hpower]
  refine congrArg Calls.isWledOn (funext fun on => ?_)
  show (menu.withPower on).refreshArc.bind _ = _
  rw [hrefresh, MainMenu.withPower_arcFocused]
  cases menu.arcFocused <;> rfl

/-- The comparison sends what the brightness it reads makes it send. -/
theorem replay_sendBrightness {m menu : MainMenu}
    {views : List (Bool × Int16)} {cmds : List Command}
    (h : m.sendBrightness.replay views = some (menu, cmds)) :
    ∃ view rest, views = view :: rest ∧ menu = m
      ∧ cmds = m.sends view.2 := by
  have hcmp : ∀ bri : Int16, ((m.arcValue : Nat) : Int) ≠ bri.toInt
      ↔ m.arcValue.toInt16 ≠ bri := by
    intro bri
    rw [← Level.toInt_toInt16, Ne, Ne, Int16.toInt_inj]
  cases views with
  | nil => cases h
  | cons view rest =>
      refine ⟨view, rest, rfl, ?_⟩
      unfold MainMenu.sendBrightness at h
      unfold MainMenu.sends
      simp only [Calls.replay, hcmp] at h
      split at h
      · next hne =>
        rw [if_pos hne]
        cases rest with
        | nil => cases h
        | cons view' rest =>
            cases rest with
            | nil =>
                cases h
                exact ⟨rfl, rfl⟩
            | cons view'' rest => cases h
      · next he =>
        rw [if_neg he]
        cases rest with
        | nil =>
            cases h
            exact ⟨rfl, rfl⟩
        | cons view' rest => cases h

/-- Where the three reads of a timer run fall: the assignments made before
the flag is read, before the brightness to show and before the one to
compare. A focused arc is not refreshed, and its second read is put with
the first. -/
def ReadsAt (menu : MainMenu) (tasks : List Task) (p₁ p₂ p₃ : Nat) : Prop :=
  if menu.arcFocused then ∃ rest, points 0 tasks = p₁ :: p₃ :: rest ∧ p₂ = p₁
  else ∃ rest, points 0 tasks = p₁ :: p₂ :: p₃ :: rest

/-- The flag is read after no more assignments than the schedule makes. -/
theorem ReadsAt.le {menu : MainMenu} {tasks : List Task} {p₁ p₂ p₃ : Nat}
    (h : ReadsAt menu tasks p₁ p₂ p₃) : p₁ ≤ tasks.count .websocket := by
  have hmem : p₁ ∈ points 0 tasks := by
    unfold ReadsAt at h
    split at h
    · obtain ⟨rest, hpoints, -⟩ := h
      rw [hpoints]
      exact List.mem_cons_self ..
    · obtain ⟨rest, hpoints⟩ := h
      rw [hpoints]
      exact List.mem_cons_self ..
  have hle := le_of_mem_points hmem
  omega

/-- A finished timer run has read three times, and is the menu shown by
the first two reads and the send decided by the third. -/
theorem run_reads {menu menu' : MainMenu} {cache : Bool × Int16}
    {reports : List Server} {tasks : List Task} {r : Race}
    (hrun : system.run (start menu cache reports) tasks = some r)
    (hdone : r.gui = .ret menu') :
    ∃ p₁ p₂ p₃, ReadsAt menu tasks p₁ p₂ p₃
      ∧ menu' = menu.shown (cacheAt cache reports p₁).1
          (cacheAt cache reports p₂).2
      ∧ r.issued = menu'.sends (cacheAt cache reports p₃).2 := by
  obtain ⟨cmds, hissued, hreplay⟩ := run_replay hrun hdone
  replace hissued : r.issued = cmds := hissued
  change menu.updateWithLvglState.replay
    ((points 0 tasks).map (cacheAt cache reports)) = _ at hreplay
  rw [updateWithLvglState_eq] at hreplay
  generalize hpoints : points 0 tasks = ps at hreplay
  cases ps with
  | nil => cases hreplay
  | cons p₁ ps =>
      rw [List.map_cons, Calls.replay] at hreplay
      cases hf : menu.arcFocused with
      | true =>
          rw [if_pos hf] at hreplay
          obtain ⟨view, rest, hviews, rfl, rfl⟩ :=
            replay_sendBrightness hreplay
          obtain ⟨p₃, ps', rfl, rfl, -⟩ := List.map_eq_cons_iff.mp hviews
          refine ⟨p₁, p₁, p₃, ?_, ?_, hissued⟩
          · rw [ReadsAt, if_pos hf]
            exact ⟨ps', hpoints, rfl⟩
          · rw [MainMenu.shown, MainMenu.withRefresh,
              MainMenu.withPower_arcFocused, hf]
            rfl
      | false =>
          rw [if_neg (by rw [hf]; decide)] at hreplay
          cases ps with
          | nil => cases hreplay
          | cons p₂ ps =>
              rw [List.map_cons, Calls.replay] at hreplay
              obtain ⟨view, rest, hviews, rfl, rfl⟩ :=
                replay_sendBrightness hreplay
              obtain ⟨p₃, ps', rfl, rfl, -⟩ := List.map_eq_cons_iff.mp hviews
              refine ⟨p₁, p₂, p₃, ?_, rfl, hissued⟩
              rw [ReadsAt, if_neg (by rw [hf]; decide)]
              exact ⟨ps', hpoints⟩

-- ===================================================== range of the cache

/-- Assignments of full reports keep the cached brightness in range. -/
theorem inRange_writes {as : List Assignment} {cache : Bool × Int16}
    (has : ∀ b, .brightness b ∈ as → InRange b) (hcache : InRange cache.2) :
    InRange (writes as cache).2 := by
  induction as generalizing cache with
  | nil => exact hcache
  | cons a as ih =>
      refine ih (fun b hb => has b (List.mem_cons_of_mem _ hb)) ?_
      cases a with
      | isWledOn on => exact hcache
      | brightness b => exact has b (List.mem_cons_self ..)

theorem inRange_cacheAt {cache : Bool × Int16} (hcache : InRange cache.2)
    (reports : List Server) (p : Nat) :
    InRange (cacheAt cache reports p).2 := by
  refine inRange_writes (fun b hb => ?_) hcache
  obtain ⟨r, -, hr⟩ := List.mem_flatMap.mp (List.mem_of_mem_take hb)
  have hb' : b = r.bri.toInt16 := by simpa [assignments] using hr
  rw [hb']
  exact r.bri.inRange

-- ============================================================ the outcome

/-- The outcome of a run that left `menu` and issued `issued`. -/
def outcome (menu : MainMenu) (issued : List Command) :
    Screen × List Command :=
  (menu.screen, issued)

/-- The outcome of an atomic run of `update_with_lvgl_state` on a cache. -/
def atomicOutcome (menu : MainMenu) (cache : Bool × Int16) :
    Screen × List Command :=
  let r := menu.updateWithLvglState.run EspWledController.controller
    ⟨cache.1, cache.2, ⟨false, []⟩⟩
  outcome r.value r.issued

/-- The outcome is that of an atomic run on the cache that some number of
the reports left that the schedule has completed, with two assignments
each. -/
def Linearizable (menu : MainMenu) (cache : Bool × Int16)
    (reports : List Server) (tasks : List Task)
    (out : Screen × List Command) : Prop :=
  ∃ n, 2 * n ≤ tasks.count .websocket
    ∧ out = atomicOutcome menu (completed cache reports n)

theorem atomicOutcome_eq (menu : MainMenu) (cache : Bool × Int16) :
    atomicOutcome menu cache
      = outcome (menu.shown cache.1 cache.2)
          ((menu.shown cache.1 cache.2).sends cache.2) := by
  unfold atomicOutcome
  rw [MainMenu.run_updateWithLvglState]
  rfl

/-- A focused run read `on` and compared with `compared`: it is the atomic
one if the flag is the same and the comparison comes out the same. -/
theorem focused_eq_atomic_iff {menu : MainMenu} (hf : menu.arcFocused = true)
    {on : Bool} {bri compared : Int16} {cache : Bool × Int16} :
    outcome (menu.shown on bri) ((menu.shown on bri).sends compared)
        = atomicOutcome menu cache
      ↔ on = cache.1
        ∧ (menu.arcValue.toInt16 = compared
          ↔ menu.arcValue.toInt16 = cache.2) := by
  rw [atomicOutcome_eq]
  unfold outcome MainMenu.screen MainMenu.sends
  simp only [Prod.mk.injEq, Screen.mk.injEq, MainMenu.shown_ledOn,
    MainMenu.shown_arcDisabled, MainMenu.shown_arcValue_focused hf]
  constructor
  · rintro ⟨⟨hon, -, -⟩, hsends⟩
    refine ⟨hon, ?_⟩
    split at hsends <;> split at hsends <;> simp_all
  · rintro ⟨hon, hcmp⟩
    refine ⟨⟨hon, by rw [hon], trivial⟩, ?_⟩
    simp only [ne_eq, hcmp]

/-- An unfocused run showed `bri` and compared with `compared`: it is the
atomic one if the flag and both brightnesses are the same. -/
theorem unfocused_eq_atomic_iff {menu : MainMenu}
    (hf : menu.arcFocused = false) {on : Bool} {bri compared : Int16}
    (hbri : InRange bri) {cache : Bool × Int16} (hcache : InRange cache.2) :
    outcome (menu.shown on bri) ((menu.shown on bri).sends compared)
        = atomicOutcome menu cache
      ↔ on = cache.1 ∧ bri = cache.2 ∧ compared = cache.2 := by
  have hshown := (lvArcSetValue_eq_iff bri).mpr hbri
  have hshown' := (lvArcSetValue_eq_iff cache.2).mpr hcache
  rw [atomicOutcome_eq]
  unfold outcome MainMenu.screen MainMenu.sends
  simp only [Prod.mk.injEq, Screen.mk.injEq, MainMenu.shown_ledOn,
    MainMenu.shown_arcDisabled, MainMenu.shown_arcValue_unfocused hf,
    hshown, hshown']
  constructor
  · rintro ⟨⟨hon, -, hvalue⟩, hsends⟩
    have hsame : bri = cache.2 := by rw [← hshown, hvalue, hshown']
    refine ⟨hon, hsame, ?_⟩
    rw [hsame, if_neg (not_not.mpr rfl)] at hsends
    by_contra hne
    rw [if_pos fun h => hne h.symm] at hsends
    cases hsends
  · rintro ⟨hon, hsame, hcompared⟩
    refine ⟨⟨hon, by rw [hon], by rw [hsame]⟩, ?_⟩
    rw [hsame, hcompared]

/-- The outcome of a run with its reads at `p₁`, `p₂` and `p₃` is the
atomic one after `n` reports: what the reads must have found. -/
theorem raced_eq_atomic_iff {menu : MainMenu} {cache : Bool × Int16}
    (hcache : InRange cache.2) (reports : List Server) (p₁ p₂ p₃ n : Nat) :
    outcome
        (menu.shown (cacheAt cache reports p₁).1 (cacheAt cache reports p₂).2)
        ((menu.shown (cacheAt cache reports p₁).1
          (cacheAt cache reports p₂).2).sends (cacheAt cache reports p₃).2)
        = atomicOutcome menu (completed cache reports n)
      ↔ (cacheAt cache reports p₁).1 = (completed cache reports n).1
        ∧ if menu.arcFocused then
            (menu.arcValue.toInt16 = (cacheAt cache reports p₃).2
              ↔ menu.arcValue.toInt16 = (completed cache reports n).2)
          else
            (cacheAt cache reports p₂).2 = (completed cache reports n).2
            ∧ (cacheAt cache reports p₃).2
              = (completed cache reports n).2 := by
  cases hf : menu.arcFocused with
  | true =>
      rw [if_pos rfl]
      exact focused_eq_atomic_iff hf
  | false =>
      have hrange : InRange (completed cache reports n).2 := by
        rw [← cacheAt_two_mul]
        exact inRange_cacheAt hcache reports (2 * n)
      rw [if_neg Bool.false_ne_true]
      exact unfocused_eq_atomic_iff hf (inRange_cacheAt hcache reports p₂)
        hrange

/-- Every interleaving of a timer run with incoming reports has the
outcome that its three reads decide. It is the outcome of an atomic run
after some number of the reports completed exactly when one of the caches
they left has the flag read and, for an unfocused arc, both brightnesses
read or, for a focused one, compares with the arc as the brightness read
does. In particular it is when all three reads fall between the same two
reports. -/
theorem tick_linearizable_iff {menu menu' : MainMenu}
    {cache : Bool × Int16} {reports : List Server} {tasks : List Task}
    {r : Race} (hcache : InRange cache.2)
    (hrun : system.run (start menu cache reports) tasks = some r)
    (hdone : r.gui = .ret menu') :
    ∃ p₁ p₂ p₃, ReadsAt menu tasks p₁ p₂ p₃
      ∧ menu' = menu.shown (cacheAt cache reports p₁).1
          (cacheAt cache reports p₂).2
      ∧ r.issued = menu'.sends (cacheAt cache reports p₃).2
      ∧ (Linearizable menu cache reports tasks (outcome menu' r.issued)
        ↔ ∃ n, 2 * n ≤ tasks.count .websocket
            ∧ (cacheAt cache reports p₁).1 = (completed cache reports n).1
            ∧ if menu.arcFocused then
                (menu.arcValue.toInt16 = (cacheAt cache reports p₃).2
                  ↔ menu.arcValue.toInt16 = (completed cache reports n).2)
              else
                (cacheAt cache reports p₂).2 = (completed cache reports n).2
                ∧ (cacheAt cache reports p₃).2
                  = (completed cache reports n).2)
      ∧ ∀ n, p₁ = 2 * n → p₂ = 2 * n → p₃ = 2 * n →
          Linearizable menu cache reports tasks (outcome menu' r.issued) := by
  obtain ⟨p₁, p₂, p₃, hreads, hmenu, hissued⟩ := run_reads hrun hdone
  have hout := @raced_eq_atomic_iff menu cache hcache reports p₁ p₂ p₃
  rw [← hmenu, ← hissued] at hout
  refine ⟨p₁, p₂, p₃, hreads, hmenu, hissued, ?_, ?_⟩
  · exact exists_congr fun n => and_congr_right fun _ => hout n
  · rintro n rfl rfl rfl
    refine ⟨n, hreads.le, (hout n).mpr ?_⟩
    rw [cacheAt_two_mul]
    refine ⟨rfl, ?_⟩
    split
    · exact Iff.rfl
    · exact ⟨rfl, rfl⟩

/-- A report between the flag and the comparison of a focused run: the
arc differs from both brightnesses, so the run is the atomic one after the
report. -/
theorem overlapped_tick_linearizable :
    Linearizable ⟨true, .blue, .blue, false, true, 150, 255⟩ (true, 100)
      [⟨true, 200⟩] [.gui, .websocket, .websocket, .gui, .gui]
      (⟨true, false, 150⟩, [.bri 150]) := by
  obtain ⟨p₁, p₂, p₃, hreads, -, -, hiff, -⟩ := @tick_linearizable_iff
    ⟨true, .blue, .blue, false, true, 150, 255⟩
    ⟨true, .blue, .blue, false, true, 150, 255⟩ (true, 100)
    [⟨true, 200⟩] [.gui, .websocket, .websocket, .gui, .gui] _
    (by decide) rfl rfl
  obtain ⟨rest, hpoints, rfl⟩ := hreads
  cases hpoints
  exact hiff.mpr ⟨1, by decide, by decide, by decide⟩

/-- A report between the refresh and the comparison: the run shows 100
and sends it back, which no atomic run does. -/
theorem report_in_tick_sends_stale :
    ¬ ∀ (menu menu' : MainMenu) (cache : Bool × Int16)
        (reports : List Server) (tasks : List Task) (r : Race),
      InRange cache.2 →
      system.run (start menu cache reports) tasks = some r →
      r.gui = .ret menu' →
      Linearizable menu cache reports tasks (outcome menu' r.issued) := by
  intro h
  have hlin : Linearizable ⟨true, .blue, .blue, false, false, 40, 0⟩
      (true, 100) [⟨true, 200⟩]
      [.gui, .gui, .websocket, .websocket, .gui, .gui]
      (⟨true, false, 100⟩, [.bri 100]) :=
    h ⟨true, .blue, .blue, false, false, 40, 0⟩
      ⟨true, .blue, .blue, false, false, 100, 0⟩ (true, 100)
      [⟨true, 200⟩] [.gui, .gui, .websocket, .websocket, .gui, .gui] _
      (by decide) rfl rfl
  obtain ⟨n, hn, hout⟩ := hlin
  replace hn : 2 * n ≤ 2 := hn
  have hcases : n = 0 ∨ n = 1 := by omega
  rcases hcases with rfl | rfl
  · exact absurd hout (by decide)
  · exact absurd hout (by decide)

end Race

end WledDial
