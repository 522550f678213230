/-
Messages cut into frames, and put together again.

# The cut

A frame opens a message of some kind or continues the one that is open,
and says whether it ends it. `Cut n fin` is what a sender with room for
`n` symbols may make of a message: the first frame opens it, the others
continue it, and the last one ends it if `fin` says so. How long the
single pieces are is left to the sender.

# The receiver

`receiver` puts frames together as they come and has no step for a frame
that opens a message inside another or continues none. Whatever a sender
may make of a message, the receiver makes the message of it again
(`run_cut`); a message that was left open goes on with what is cut as a
continuation (`run_continue`).
-/
import WledDial.Lib.System

namespace Fragments

open Transition

variable {κ α : Type _}

-- ============================================================== frames

/-- A frame: `some k` opens a message of kind `k`, `none` continues the
one that is open. -/
structure Fragment (κ α : Type _) where
  opens : Option κ
  fin : Bool
  payload : List α
  deriving DecidableEq

/-- The frames `fs` are the text `xs`, in pieces of at most `n`. -/
inductive Cut (n : Nat) (fin : Bool) :
    Option κ → List α → List (Fragment κ α) → Prop
  | last {opens : Option κ} {xs : List α} (hfit : xs.length ≤ n) :
      Cut n fin opens xs [⟨opens, fin, xs⟩]
  | more {opens : Option κ} {xs ys : List α} {fs : List (Fragment κ α)}
      (hfit : xs.length ≤ n) (hrest : Cut n fin none ys fs) :
      Cut n fin opens (xs ++ ys) (⟨opens, false, xs⟩ :: fs)

-- ============================================================ receiving

/-- The messages put together so far, and the one that is open. -/
structure Receiver (κ α : Type _) where
  done : List (κ × List α)
  opened : Option (κ × List α)
  deriving DecidableEq

namespace Receiver

/-- A receiver that has seen nothing. -/
def start : Receiver κ α := ⟨[], none⟩

/-- The text so far of a message of kind `k`, which ends here or stays
open. -/
def extend (r : Receiver κ α) (fin : Bool) (k : κ) (xs : List α) :
    Receiver κ α :=
  if fin then ⟨r.done ++ [(k, xs)], none⟩ else ⟨r.done, some (k, xs)⟩

/-- One frame. -/
def take (r : Receiver κ α) (f : Fragment κ α) : Option (Receiver κ α) :=
  match f.opens, r.opened with
  | some k, none => some (r.extend f.fin k f.payload)
  | none, some (k, xs) => some (r.extend f.fin k (xs ++ f.payload))
  | _, _ => none

end Receiver

/-- The receiving end of a connection. -/
def receiver : System (Receiver κ α) (Fragment κ α) where
  init r := r = .start
  step := Receiver.take

section

variable {n : Nat} {fin : Bool} {xs : List α} {fs : List (Fragment κ α)}

/-- What is cut as a continuation goes on with the open message. -/
theorem run_continue {opens : Option κ} (h : Cut n fin opens xs fs)
    (hopens : opens = none) (done : List (κ × List α)) (k : κ)
    (acc : List α) :
    receiver.run ⟨done, some (k, acc)⟩ fs
      = some (Receiver.extend ⟨done, none⟩ fin k (acc ++ xs)) := by
  induction h generalizing acc with
  | last _ =>
      rw [hopens, System.run_one]
      rfl
  | @more opens xs ys fs _ _ ih =>
      rw [hopens]
      have hstep : receiver.step ⟨done, some (k, acc)⟩
          (⟨none, false, xs⟩ : Fragment κ α)
            = some ⟨done, some (k, acc ++ xs)⟩ := rfl
      rw [System.run_cons_of hstep, ih rfl, List.append_assoc]

/-- What is cut as a message of kind `k` is put together as it. -/
theorem run_cut {k : κ} (h : Cut n fin (some k) xs fs)
    (done : List (κ × List α)) :
    receiver.run ⟨done, none⟩ fs
      = some (Receiver.extend ⟨done, none⟩ fin k xs) := by
  cases h with
  | last _ =>
      rw [System.run_one]
      rfl
  | @more _ xs ys fs _ hrest =>
      have hstep : receiver.step ⟨done, none⟩
          (⟨some k, false, xs⟩ : Fragment κ α)
            = some ⟨done, some (k, xs)⟩ := rfl
      rw [System.run_cons_of hstep, run_continue hrest rfl]

/-- A whole message is one more message. -/
theorem run_message {k : κ} (h : Cut n true (some k) xs fs)
    (done : List (κ × List α)) :
    receiver.run ⟨done, none⟩ fs = some ⟨done ++ [(k, xs)], none⟩ :=
  run_cut h done

end

end Fragments
