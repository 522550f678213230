/-
Logs, and what an entry says of the entries before it.

# The past

`Since P Q log`: some entry of the log is a `Q`, and every entry after it
is a `P`. `Throughout J log`: every entry stands where `J` lets it,
given the entries before it. Both are stated by cutting the log in two,
so a theorem in these words can be read without them.

# The rules

A log grows at its end. `since_concat_iff` and `throughout_concat` say
what one more entry does, and the append lemmas what several do that are
none of `J`'s business.
-/
import Mathlib.Data.List.Induction

namespace History

variable {α : Type _} {P Q : α → Prop} {J : List α → α → Prop}
  {log out : List α} {e : α}

-- =============================================================== since

/-- There was a `Q`, and nothing but `P` since. -/
def Since (P Q : α → Prop) (log : List α) : Prop :=
  ∃ before e after, log = before ++ e :: after ∧ Q e ∧ ∀ x ∈ after, P x

theorem not_since_nil : ¬ Since P Q [] := by
  intro h
  obtain ⟨before, e, after, hlog, -, -⟩ := h
  exact List.append_ne_nil_of_right_ne_nil before (List.cons_ne_nil e after)
    hlog.symm

/-- What follows is `P` too. -/
theorem since_append (h : Since P Q log) (hout : ∀ x ∈ out, P x) :
    Since P Q (log ++ out) := by
  obtain ⟨before, e, after, rfl, he, hafter⟩ := h
  refine ⟨before, e, after ++ out, by simp, he, fun x hx => ?_⟩
  rcases List.mem_append.mp hx with hx | hx
  · exact hafter x hx
  · exact hout x hx

/-- One more entry is the `Q`, or a `P` behind one. -/
theorem since_concat_iff :
    Since P Q (log ++ [e]) ↔ Q e ∨ (P e ∧ Since P Q log) := by
  constructor
  · intro h
    obtain ⟨before, q, after, hlog, hq, hafter⟩ := h
    rcases List.eq_nil_or_concat after with rfl | ⟨after, x, rfl⟩
    · obtain ⟨-, he⟩ := List.append_inj' hlog rfl
      cases he
      exact Or.inl hq
    · have hsplit : log ++ [e] = (before ++ q :: after) ++ [x] := by
        rw [hlog]
        simp
      obtain ⟨rfl, he⟩ := List.append_inj' hsplit rfl
      cases he
      exact Or.inr ⟨hafter e (by simp), before, q, after, rfl, hq,
        fun y hy => hafter y (by simp [hy])⟩
  · intro h
    rcases h with he | ⟨he, h⟩
    · exact ⟨log, e, [], rfl, he, by simp⟩
    · refine since_append h fun x hx => ?_
      rw [List.mem_singleton.mp hx]
      exact he

/-- Where nothing that follows is a `Q`, it was there before. -/
theorem since_of_append (hout : ∀ x ∈ out, ¬ Q x)
    (h : Since P Q (log ++ out)) : Since P Q log := by
  induction out using List.reverseRecOn with
  | nil =>
      rw [List.append_nil] at h
      exact h
  | append_singleton out e ih =>
      rw [← List.append_assoc] at h
      rcases since_concat_iff.mp h with he | ⟨-, h⟩
      · exact absurd he (hout e (by simp))
      · exact ih (fun x hx => hout x (List.mem_append_left _ hx)) h

-- ========================================================== throughout

/-- Every entry stands where `J` lets it, given the entries before. -/
def Throughout (J : List α → α → Prop) (log : List α) : Prop :=
  ∀ before e after, log = before ++ e :: after → J before e

theorem throughout_nil : Throughout J [] := by
  intro before e after hlog
  exact absurd hlog.symm
    (List.append_ne_nil_of_right_ne_nil before (List.cons_ne_nil e after))

/-- One more entry has the whole log before it. -/
theorem throughout_concat (h : Throughout J log) (he : J log e) :
    Throughout J (log ++ [e]) := by
  intro before x after hlog
  rcases List.eq_nil_or_concat after with rfl | ⟨after, y, rfl⟩
  · obtain ⟨rfl, hx⟩ := List.append_inj' hlog rfl
    cases hx
    exact he
  · have hsplit : log ++ [e] = (before ++ x :: after) ++ [y] := by
      rw [hlog]
      simp
    obtain ⟨rfl, -⟩ := List.append_inj' hsplit rfl
    exact h before x after rfl

/-- Entries that may stand anywhere. -/
theorem throughout_append (h : Throughout J log)
    (hout : ∀ x ∈ out, ∀ before, J before x) : Throughout J (log ++ out) := by
  induction out using List.reverseRecOn with
  | nil =>
      rw [List.append_nil]
      exact h
  | append_singleton out e ih =>
      rw [← List.append_assoc]
      refine throughout_concat (ih fun x hx => ?_) (hout e (by simp) _)
      exact hout x (List.mem_append_left _ hx)

end History
