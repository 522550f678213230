/-
Registers under partial updates. An update either writes a value or
leaves the register alone (`Option α`), and a sequence of updates leaves
the value of the last one that wrote, or the initial value if none did:
`foldl_getD` is that law, and `lastWrite` names the value it speaks of.
-/
import Mathlib.Data.List.Basic
import Mathlib.Logic.Nontrivial.Basic

namespace Register

variable {α β : Type _}

/-- The last value written by a sequence of partial updates. -/
def lastWrite : List (Option α) → Option α
  | [] => none
  | u :: us => (lastWrite us).or u

@[simp] theorem lastWrite_nil : lastWrite ([] : List (Option α)) = none := rfl

@[simp] theorem lastWrite_cons (u : Option α) (us : List (Option α)) :
    lastWrite (u :: us) = (lastWrite us).or u := rfl

/-- The last-writer law: applying the updates in order leaves the last
value written, or the initial one. -/
theorem foldl_getD (us : List (Option α)) (a : α) :
    us.foldl (fun a u => u.getD a) a = (lastWrite us).getD a := by
  induction us generalizing a with
  | nil => rfl
  | cons u us ih =>
      rw [List.foldl_cons, ih, lastWrite_cons]
      cases lastWrite us <;> rfl

/-- The last update, if it writes, is the last write. -/
theorem lastWrite_concat_some (us : List (Option α)) (a : α) :
    lastWrite (us ++ [some a]) = some a := by
  induction us with
  | nil => rfl
  | cons u us ih =>
      rw [List.cons_append, lastWrite_cons, ih]
      rfl

/-- What was written last was written. -/
theorem mem_of_lastWrite {us : List (Option α)} {a : α}
    (h : lastWrite us = some a) : some a ∈ us := by
  induction us with
  | nil => cases h
  | cons u us ih =>
      rw [lastWrite_cons, Option.or_eq_some_iff] at h
      rcases h with h | ⟨-, h⟩
      · exact List.mem_cons_of_mem _ (ih h)
      · rw [h]
        exact List.mem_cons_self ..

/-- Reading a component of every value written reads it off the last
one. -/
theorem lastWrite_map (f : α → β) (us : List (Option α)) :
    lastWrite (us.map (Option.map f)) = (lastWrite us).map f := by
  induction us with
  | nil => rfl
  | cons u us ih =>
      rw [List.map_cons, lastWrite_cons, lastWrite_cons, ih]
      cases lastWrite us <;> rfl

/-- Nothing written has no component written. -/
theorem lastWrite_bind_none {g : α → Option β} {us : List (Option α)}
    (hlast : lastWrite us = none) :
    lastWrite (us.map fun u => u.bind g) = none := by
  induction us with
  | nil => rfl
  | cons u us ih =>
      rw [lastWrite_cons, Option.or_eq_none_iff] at hlast
      rw [List.map_cons, lastWrite_cons, ih hlast.1, hlast.2]
      rfl

/-- Where the last value written has the component, the component's last
value is that one. -/
theorem lastWrite_bind_some {g : α → Option β} {us : List (Option α)}
    {a : α} {b : β} (hlast : lastWrite us = some a) (hb : g a = some b) :
    lastWrite (us.map fun u => u.bind g) = some b := by
  induction us with
  | nil => cases hlast
  | cons u us ih =>
      rw [List.map_cons, lastWrite_cons]
      cases hrest : lastWrite us with
      | some a' =>
          rw [lastWrite_cons, hrest] at hlast
          rw [ih (hrest.trans hlast)]
          rfl
      | none =>
          rw [lastWrite_cons, hrest] at hlast
          have hu : u = some a := hlast
          rw [hu]
          cases hcomp : lastWrite (us.map fun u => u.bind g) with
          | none => exact hb
          | some b' =>
              exact absurd hrest (by
                intro h
                rw [lastWrite_bind_none h] at hcomp
                cases hcomp)

/-- Two partial updates that agree on every register are one. -/
theorem getD_inj [Nontrivial α] {u v : Option α}
    (h : ∀ a, u.getD a = v.getD a) : u = v := by
  cases u with
  | none =>
      cases v with
      | none => rfl
      | some b =>
          obtain ⟨a, ha⟩ := exists_ne b
          exact absurd (h a) ha
  | some b =>
      cases v with
      | none =>
          obtain ⟨a, ha⟩ := exists_ne b
          exact absurd (h a).symm ha
      | some c => exact congrArg some (h b)

end Register
