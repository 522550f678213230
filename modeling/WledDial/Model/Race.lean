/-
The two tasks at the cache: a run of `update_with_lvgl_state` on the GUI
task, while `on_wled_json_data` caches reports on the websocket task.

# The steps

Nothing orders the two tasks: the cache has no lock. Each read of a
cached value, each of the two assignments of a report and each send is a
step of its own, in program order within its task (`Race.step`). The GUI
task runs the program of MainMenu.lean, call by call (`Calls.next`); the
websocket task makes the assignments of one report after another
(`assignments`).

A schedule is the list of tasks that take the steps. `points` reads off
it how many assignments were made before each of the GUI task's calls.
-/
import WledDial.Model.Dial

namespace WledDial

open Transition

-- ========================================================== assignments

/-- An assignment to one of the cached values. -/
inductive Assignment where
  | isWledOn (on : Bool)
  | brightness (bri : Int16)
  deriving DecidableEq

/-- The cache after an assignment. -/
def Assignment.write : Assignment → Bool × Int16 → Bool × Int16
  | .isWledOn on, cache => (on, cache.2)
  | .brightness bri, cache => (cache.1, bri)

/-- The assignments `on_wled_json_data` makes for a full report, in its
order. -/
def assignments (r : Server) : List Assignment :=
  [.isWledOn r.on, .brightness r.bri.toInt16]

/-- The cache after a list of assignments. -/
def writes (as : List Assignment) (cache : Bool × Int16) : Bool × Int16 :=
  as.foldl (fun c a => a.write c) cache

/-- A report's assignments, made one after the other, are what handling
it whole does to the cache. -/
theorem writes_assignments {doc : Json} {r : Server}
    (h : StateReport doc r.on r.bri) (lib : ArduinoJson)
    (c : EspWledController) :
    writes (assignments r) c.cached = (c.onWledJsonData lib doc).cached := by
  rw [EspWledController.onWledJsonData_of_reading lib (h.reading lib)]
  rfl

-- ================================================================ tasks

/-- One call of a routine, with the cache as it stands: what is left of
the routine and what the call issued. -/
def Calls.next {α : Type} (cache : Bool × Int16) :
    Calls α → Option (Calls α × List Command)
  | .ret _ => none
  | .turnWledOn k => some (k, [.turnOn])
  | .setWledBrightness v k => some (k, [.bri v])
  | .isWledOn k => some (k cache.1, [])
  | .getWledBrightness k => some (k cache.2, [])

/-- What is left of the timer run and what it issued so far, the cache,
and the assignments the websocket task has still to make. -/
structure Race where
  gui : Calls MainMenu
  issued : List Command
  cache : Bool × Int16
  pending : List Assignment

/-- The task that takes a step. -/
inductive Task where
  | gui
  | websocket
  deriving DecidableEq

namespace Race

/-- One step of a task. -/
def step (r : Race) : Task → Option Race
  | .gui =>
      (r.gui.next r.cache).map fun q =>
        { r with gui := q.1, issued := r.issued ++ q.2 }
  | .websocket =>
      match r.pending with
      | [] => none
      | a :: rest => some { r with cache := a.write r.cache, pending := rest }

/-- A timer run and reports about to be handled. -/
def start (menu : MainMenu) (cache : Bool × Int16) (reports : List Server) :
    Race :=
  ⟨menu.updateWithLvglState, [], cache, reports.flatMap assignments⟩

/-- The tasks as a transition system. -/
def system : System Race Task where
  init r := ∃ menu cache reports, InRange cache.2 ∧ r = start menu cache reports
  step := step

/-- From `p` assignments on, how many were made before each call of the
GUI task. -/
def points : Nat → List Task → List Nat
  | _, [] => []
  | p, .gui :: tasks => p :: points p tasks
  | p, .websocket :: tasks => points (p + 1) tasks

/-- The cache after the first `p` assignments of the reports. -/
def cacheAt (cache : Bool × Int16) (reports : List Server) (p : Nat) :
    Bool × Int16 :=
  writes ((reports.flatMap assignments).take p) cache

/-- The cache as it stands after the first `n` reports. -/
def completed (cache : Bool × Int16) (reports : List Server) (n : Nat) :
    Bool × Int16 :=
  (reports.take n).foldl (fun _ r => r.values) cache

/-- A report is complete with its second assignment. -/
theorem cacheAt_two_mul (cache : Bool × Int16) (reports : List Server)
    (n : Nat) : cacheAt cache reports (2 * n) = completed cache reports n := by
  induction reports generalizing cache n with
  | nil => simp [cacheAt, completed, writes]
  | cons r reports ih =>
      cases n with
      | zero => rfl
      | succ n => exact ih r.values n

end Race

end WledDial
