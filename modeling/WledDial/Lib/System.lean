/-
Guarded transition systems: one executable step function, the runs it
drives, and the two inductions every safety argument about runs rests
on.

# The semantics

`step s e` is `some s'` when event `e` is enabled at `s`, so a run is a
list of events and `run` replays it. Nothing here is relational: a
concrete schedule is evaluated by the same definition the invariants
are proved about.

# The inductions

- `run_induction` carries a property along one run whose every step
  meets a side condition (`Along`), the form a conditional guarantee
  takes: "in every run whose steps all meet the condition".
- `reachableBy_induction` is the unconditional form, over the states
  some run of admitted events reaches.

`run_iff_along` is the exact form of the first: where a step outside the
condition loses the property and no step brings it back, a run ends with
the property exactly when all its steps met the condition.

`gather` collects what the steps of a run take in; `run_gather` relates it
to the two ends of the run. `run_countP_le` bounds how many steps of a kind
a run can have.

`Leads` is the other direction, what some run of admitted events can
bring about; an invariant against it settles that none can.

`Refines` maps the runs of one system into the runs of another, so that
what the second one's runs preserve holds of the first.
-/
import Mathlib.Data.List.Basic

namespace Transition

/-- A transition system: the states a run may start in and the guarded
step function. -/
structure System (S E : Type _) where
  init : S → Prop
  step : S → E → Option S

namespace System

variable {S E T F : Type _} (sys : System S E)

-- ================================================================ runs

/-- Replay a list of events, failing on the first disabled one. -/
def run : S → List E → Option S
  | s, [] => some s
  | s, e :: es => (sys.step s e).bind fun s' => run s' es

/-- Every step of the run meets `G` at the state it is taken in. -/
def Along (G : S → E → Prop) : S → List E → Prop
  | _, [] => True
  | s, e :: es => G s e ∧ ∀ s', sys.step s e = some s' → Along G s' es

variable {sys} in
/-- The condition along a run, at its first step and after it. -/
theorem along_cons {G : S → E → Prop} {s s' : S} {e : E} {es : List E}
    (h : sys.step s e = some s') :
    sys.Along G s (e :: es) ↔ G s e ∧ sys.Along G s' es := by
  constructor
  · rintro ⟨he, hrest⟩
    exact ⟨he, hrest s' h⟩
  · rintro ⟨he, hrest⟩
    refine ⟨he, fun t ht => ?_⟩
    cases h.symm.trans ht
    exact hrest

variable {sys} in
/-- Past a disabled event there is nothing to ask. -/
theorem along_cons_none {G : S → E → Prop} {s : S} {e : E} {es : List E}
    (h : sys.step s e = none) : sys.Along G s (e :: es) ↔ G s e := by
  constructor
  · exact And.left
  · intro he
    refine ⟨he, fun t ht => ?_⟩
    cases h.symm.trans ht

/-- A condition that can be checked step by step can be checked along a
run. -/
instance decidableAlong (G : S → E → Prop) [∀ s e, Decidable (G s e)] :
    (s : S) → (es : List E) → Decidable (sys.Along G s es)
  | _, [] => isTrue trivial
  | s, e :: es =>
      match hstep : sys.step s e with
      | none => decidable_of_iff (G s e) (along_cons_none hstep).symm
      | some t =>
          have := decidableAlong G t es
          decidable_of_iff (G s e ∧ sys.Along G t es) (along_cons hstep).symm

/-- Some run of events admitted by `Q` leads from an initial state to
`s`. -/
def ReachableBy (Q : E → Prop) (s : S) : Prop :=
  ∃ s₀ es, sys.init s₀ ∧ (∀ e ∈ es, Q e) ∧ sys.run s₀ es = some s

variable {sys}

@[simp] theorem run_nil (s : S) : sys.run s [] = some s := rfl

/-- A run's first step and the rest of it. -/
theorem run_cons {s s'' : S} {e : E} {es : List E} :
    sys.run s (e :: es) = some s''
      ↔ ∃ s', sys.step s e = some s' ∧ sys.run s' es = some s'' :=
  Option.bind_eq_some_iff

/-- The rest of a run whose first step is known. -/
theorem run_cons_of {s s' : S} {e : E} (h : sys.step s e = some s')
    (es : List E) : sys.run s (e :: es) = sys.run s' es := by
  rw [run, h, Option.bind_some]

/-- A run whose first event is disabled. -/
theorem run_cons_none {s : S} {e : E} (h : sys.step s e = none)
    (es : List E) : sys.run s (e :: es) = none := by
  rw [run, h, Option.bind_none]

/-- A run splits at every point of its events. -/
theorem run_append {s s'' : S} {es fs : List E} :
    sys.run s (es ++ fs) = some s''
      ↔ ∃ s', sys.run s es = some s' ∧ sys.run s' fs = some s'' := by
  induction es generalizing s with
  | nil => simp
  | cons e es ih =>
      rw [List.cons_append, run_cons]
      constructor
      · rintro ⟨s₁, he, hrest⟩
        obtain ⟨s', hes, hfs⟩ := ih.mp hrest
        exact ⟨s', run_cons.mpr ⟨s₁, he, hes⟩, hfs⟩
      · rintro ⟨s', hes, hfs⟩
        obtain ⟨s₁, he, hes'⟩ := run_cons.mp hes
        exact ⟨s₁, he, ih.mpr ⟨s', hes', hfs⟩⟩

/-- The rest of a run whose beginning is known. -/
theorem run_append_of {s s' : S} {es : List E} (h : sys.run s es = some s')
    (fs : List E) : sys.run s (es ++ fs) = sys.run s' fs := by
  induction es generalizing s with
  | nil =>
      cases h
      rfl
  | cons e es ih =>
      obtain ⟨t, he, hrest⟩ := run_cons.mp h
      rw [List.cons_append, run_cons_of he, ih hrest]

/-- A run of events that all leave the state as it is. -/
theorem run_of_loops {s : S} {es : List E}
    (h : ∀ e ∈ es, sys.step s e = some s) : sys.run s es = some s := by
  induction es with
  | nil => rfl
  | cons e es ih =>
      rw [run_cons_of (h e (List.mem_cons_self ..))]
      exact ih fun f hf => h f (List.mem_cons_of_mem _ hf)

/-- A run of one event is a step. -/
theorem run_one (s : S) (e : E) : sys.run s [e] = sys.step s e := by
  rw [run]
  cases sys.step s e <;> rfl

theorem run_singleton {s s' : S} {e : E} :
    sys.run s [e] = some s' ↔ sys.step s e = some s' := by
  rw [run_one]

/-- Where a run leads, or where it starts if it is none. -/
def reached (s : S) (es : List E) : S := (sys.run s es).getD s

theorem run_reached {s : S} {es : List E} (h : (sys.run s es).isSome) :
    sys.run s es = some (sys.reached s es) := by
  obtain ⟨t, ht⟩ := Option.isSome_iff_exists.mp h
  rw [reached, ht, Option.getD_some]

/-- The rest of a run from where its beginning leads. -/
theorem run_reached_append {s : S} {es fs : List E}
    (h : (sys.run s (es ++ fs)).isSome) :
    sys.run (sys.reached s es) fs = some (sys.reached s (es ++ fs)) := by
  obtain ⟨t, ht⟩ := Option.isSome_iff_exists.mp h
  obtain ⟨s', hes, hfs⟩ := run_append.mp ht
  rw [reached, hes, Option.getD_some, hfs, reached, ht, Option.getD_some]

-- ============================================================ gathering

/-- What the steps of a run take in, one after the other. -/
def gather {A : Type _} (sys : System S E) (f : S → E → List A) :
    S → List E → List A
  | _, [] => []
  | s, e :: es =>
      f s e ++ match sys.step s e with
        | some s' => gather sys f s' es
        | none => []

/-- What a run gathers relates its ends, if what a step takes in does and
the relation composes. -/
theorem run_gather {A : Type _} {f : S → E → List A} {R : S → List A → S → Prop}
    (hnil : ∀ s, R s [] s)
    (happend : ∀ s xs s' ys s'', R s xs s' → R s' ys s'' → R s (xs ++ ys) s'')
    (hstep : ∀ s e s', sys.step s e = some s' → R s (f s e) s')
    {s s' : S} {es : List E} (hrun : sys.run s es = some s') :
    R s (sys.gather f s es) s' := by
  induction es generalizing s with
  | nil =>
      cases hrun
      exact hnil _
  | cons e es ih =>
      obtain ⟨t, he, hrest⟩ := run_cons.mp hrun
      rw [gather, he]
      exact happend _ _ _ _ _ (hstep s e t he) (ih hrest)

-- ============================================================= bounding

/-- Under an invariant that keeps it so, a rank that the own steps lower and
no step raises bounds the own steps of a run. -/
theorem run_countP_le {I : S → Prop} {rank : S → Nat} {own : E → Bool}
    (hstep : ∀ s e s', I s → sys.step s e = some s' →
      I s' ∧ rank s' + (if own e then 1 else 0) ≤ rank s)
    {s s' : S} {es : List E} (hrun : sys.run s es = some s') (hs : I s) :
    I s' ∧ rank s' + es.countP own ≤ rank s := by
  induction es generalizing s with
  | nil =>
      cases hrun
      exact ⟨hs, Nat.le_refl _⟩
  | cons e es ih =>
      obtain ⟨t, he, hrest⟩ := run_cons.mp hrun
      obtain ⟨ht, hle⟩ := hstep s e t hs he
      obtain ⟨hs', hle'⟩ := ih hrest ht
      refine ⟨hs', ?_⟩
      rw [List.countP_cons]
      omega

-- ============================================================= leading to

/-- Some run of admitted events leads from `s` to a state with `P`. -/
def Leads (sys : System S E) (Q : E → Prop) (P : S → Prop) (s : S) : Prop :=
  ∃ es s', (∀ e ∈ es, Q e) ∧ sys.run s es = some s' ∧ P s'

theorem Leads.here {Q : E → Prop} {P : S → Prop} {s : S} (h : P s) :
    sys.Leads Q P s :=
  ⟨[], s, by simp, rfl, h⟩

/-- A run that is taken, and what leads on behind it. -/
theorem Leads.run {Q : E → Prop} {P : S → Prop} {s s' : S} {es : List E}
    (h : sys.Leads Q P s') (hQ : ∀ e ∈ es, Q e)
    (hrun : sys.run s es = some s') : sys.Leads Q P s := by
  obtain ⟨fs, t, hfs, hrest, hP⟩ := h
  refine ⟨es ++ fs, t, List.forall_mem_append.mpr ⟨hQ, hfs⟩, ?_, hP⟩
  exact run_append.mpr ⟨s', hrun, hrest⟩

/-- A step that is taken. -/
theorem Leads.step {Q : E → Prop} {P : S → Prop} {s s' : S} {e : E}
    (h : sys.Leads Q P s') (hQ : Q e) (hstep : sys.step s e = some s') :
    sys.Leads Q P s := by
  refine h.run (fun f hf => ?_) (run_singleton.mpr hstep)
  rw [List.mem_singleton.mp hf]
  exact hQ

-- ========================================================== inductions

/-- A condition on the events alone holds along every run of them. -/
theorem along_of_forall {Q : E → Prop} {s : S} {es : List E}
    (h : ∀ e ∈ es, Q e) : sys.Along (fun _ e => Q e) s es := by
  induction es generalizing s with
  | nil => trivial
  | cons e es ih =>
      exact ⟨h e (List.mem_cons_self ..),
        fun _ _ => ih fun f hf => h f (List.mem_cons_of_mem _ hf)⟩

/-- A property that every step meeting `G` preserves is carried along a
run whose steps all meet `G`. -/
theorem run_induction {P : S → Prop} {G : S → E → Prop}
    (hstep : ∀ s e s', P s → G s e → sys.step s e = some s' → P s')
    {s s' : S} {es : List E} (hrun : sys.run s es = some s')
    (hG : sys.Along G s es) (hs : P s) : P s' := by
  induction es generalizing s with
  | nil =>
      cases hrun
      exact hs
  | cons e es ih =>
      obtain ⟨t, he, hrest⟩ := run_cons.mp hrun
      exact ih hrest (hG.2 t he) (hstep s e t hs hG.1 he)

/-- A property that every step preserves is carried along every run. -/
theorem run_invariant {P : S → Prop}
    (hstep : ∀ s e s', P s → sys.step s e = some s' → P s')
    {s s' : S} {es : List E} (hrun : sys.run s es = some s') (hs : P s) :
    P s' :=
  run_induction (G := fun _ _ => True) (fun s e s' h _ => hstep s e s' h) hrun
    (along_of_forall (Q := fun _ => True) fun _ _ => trivial) hs

/-- A property that, under an invariant `I`, steps meeting `G` keep, other
steps lose and none regains: it holds after a run exactly when it held
before and every step met `G`. -/
theorem run_iff_along {I P : S → Prop} {G : S → E → Prop}
    (hstep : ∀ s e s', I s → sys.step s e = some s' →
      I s' ∧ (P s' ↔ P s ∧ G s e))
    {s s' : S} {es : List E} (hrun : sys.run s es = some s') (hs : I s) :
    P s' ↔ P s ∧ sys.Along G s es := by
  induction es generalizing s with
  | nil =>
      cases hrun
      exact ⟨fun h => ⟨h, trivial⟩, And.left⟩
  | cons e es ih =>
      obtain ⟨t, he, hrest⟩ := run_cons.mp hrun
      obtain ⟨ht, hiff⟩ := hstep s e t hs he
      rw [ih hrest ht, hiff, along_cons he, and_assoc]

/-- An invariant holds at every state the admitted events reach. -/
theorem reachableBy_induction {Q : E → Prop} {P : S → Prop}
    (hinit : ∀ s, sys.init s → P s)
    (hstep : ∀ s e s', P s → Q e → sys.step s e = some s' → P s')
    {s : S} (hs : sys.ReachableBy Q s) : P s := by
  obtain ⟨s₀, es, h₀, hQ, hrun⟩ := hs
  exact run_induction hstep hrun (along_of_forall hQ) (hinit s₀ h₀)

/-- An invariant that excludes `P` is nowhere led out of. -/
theorem Leads.not_of_invariant {Q : E → Prop} {I P : S → Prop}
    (hstep : ∀ s e s', I s → Q e → sys.step s e = some s' → I s')
    (hno : ∀ s, I s → ¬ P s) {s : S} (hs : I s) : ¬ sys.Leads Q P s := by
  rintro ⟨es, s', hes, hrun, hP⟩
  exact hno s' (run_induction hstep hrun (along_of_forall hes) hs) hP

/-- Reachability is closed under runs of admitted events. -/
theorem ReachableBy.run {Q : E → Prop} {s s' : S} {es : List E}
    (hs : sys.ReachableBy Q s) (hQ : ∀ e ∈ es, Q e)
    (hrun : sys.run s es = some s') : sys.ReachableBy Q s' := by
  obtain ⟨s₀, fs, h₀, hfs, hrun₀⟩ := hs
  refine ⟨s₀, fs ++ es, h₀, ?_, run_append.mpr ⟨s, hrun₀, hrun⟩⟩
  intro e he
  rcases List.mem_append.mp he with h | h
  · exact hfs e h
  · exact hQ e h

/-- More events reach more. -/
theorem ReachableBy.mono {Q Q' : E → Prop} {s : S} (h : ∀ e, Q e → Q' e)
    (hs : sys.ReachableBy Q s) : sys.ReachableBy Q' s := by
  obtain ⟨s₀, es, h₀, hes, hrun⟩ := hs
  exact ⟨s₀, es, h₀, fun e he => h e (hes e he), hrun⟩

/-- And under steps of them. -/
theorem ReachableBy.step {Q : E → Prop} {s s' : S} {e : E}
    (hs : sys.ReachableBy Q s) (hQ : Q e) (hstep : sys.step s e = some s') :
    sys.ReachableBy Q s' := by
  refine hs.run (fun f hf => ?_) (run_singleton.mpr hstep)
  rw [List.mem_singleton.mp hf]
  exact hQ

end System

-- ========================================================== refinement

/-- `A` refines `B`: every step of `A` is matched by a run of `B` between
the states that `abs` reads off. -/
structure Refines {S E T F : Type _} (A : System S E) (B : System T F) where
  abs : S → T
  ev : S → E → List F
  init : ∀ s, A.init s → B.init (abs s)
  step : ∀ s e s', A.step s e = some s' →
    B.run (abs s) (ev s e) = some (abs s')

/-- The abstract states of a refining run are reachable, under whatever
the matching events are admitted by. -/
theorem Refines.reachableBy {S E T F : Type _} {A : System S E}
    {B : System T F} (R : Refines A B) {QA : E → Prop} {QB : F → Prop}
    (hQ : ∀ s e, QA e → ∀ f ∈ R.ev s e, QB f) {s : S}
    (hs : A.ReachableBy QA s) : B.ReachableBy QB (R.abs s) := by
  refine System.reachableBy_induction
    (P := fun s => B.ReachableBy QB (R.abs s)) (fun s h₀ => ?_) ?_ hs
  · exact ⟨R.abs s, [], R.init s h₀, by simp, rfl⟩
  · intro s e s' hB he hstep
    exact hB.run (hQ s e he) (R.step s e s' hstep)

end Transition
