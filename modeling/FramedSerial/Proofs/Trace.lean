import Mathlib.Data.List.Basic

/-!
# What is seen on the way

Several parties act in turn, in an order that nobody decides, and each step
says what was seen of it. A trace is what was seen from one state to another,
the earliest first. It grows at the end, so an induction over a trace follows
the steps as they happen and has everything before the last of them at hand.
-/

namespace FramedSerial

/-- What was seen from one state to another, the earliest first. -/
inductive Trace {σ α : Type} (step : σ → α → σ → Prop) (start : σ) : List α → σ → Prop where
  | nil : Trace step start [] start
  | snoc {seen : List α} {a : α} {s s' : σ} (before : Trace step start seen s)
      (last : step s a s') : Trace step start (seen ++ [a]) s'

namespace Trace

variable {σ α : Type} {step : σ → α → σ → Prop} {start s₀ s₁ s₂ : σ}

theorem append {seen more : List α} (h : Trace step s₀ seen s₁) (h' : Trace step s₁ more s₂) :
    Trace step s₀ (seen ++ more) s₂ := by
  induction h' with
  | nil =>
      rw [List.append_nil]
      exact h
  | snoc _ last ih =>
      rw [← List.append_assoc]
      exact ih.snoc last

theorem single {a : α} (h : step s₀ a s₁) : Trace step s₀ [a] s₁ :=
  Trace.nil.snoc h

theorem cons {a : α} {more : List α} (first : step s₀ a s₁) (h : Trace step s₁ more s₂) :
    Trace step s₀ (a :: more) s₂ :=
  (single first).append h

/-- A trace passes through a state before anything that was seen on it. -/
theorem exists_step {seen : List α} {a : α} (h : Trace step start seen s₁) :
    ∀ {before after : List α}, seen = before ++ a :: after →
      ∃ s s', Trace step start before s ∧ step s a s' ∧ Trace step s' after s₁ := by
  induction h with
  | nil =>
      intro before after heq
      simp at heq
  | snoc hbefore last ih =>
      intro before after heq
      rcases List.eq_nil_or_concat' after with rfl | ⟨after, b, rfl⟩
      · obtain ⟨rfl, rfl⟩ := List.append_singleton_inj.1 heq
        exact ⟨_, _, hbefore, last, .nil⟩
      · rw [← List.cons_append, ← List.append_assoc] at heq
        obtain ⟨rfl, rfl⟩ := List.append_singleton_inj.1 heq
        obtain ⟨s, s', hrun, hstep, hafter⟩ := ih rfl
        exact ⟨s, s', hrun, hstep, hafter.snoc last⟩

end Trace

end FramedSerial
