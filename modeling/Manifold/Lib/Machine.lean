import Mathlib.Data.List.Basic

/-!
# Machines that emit events

A step is refused (`none`) or gives the next state and the events it emits. All nondeterminism is in the action.
-/

namespace Manifold.Lib

universe u v w

theorem mem_snoc {α : Type u} {a b : α} {l : List α} : a ∈ l ++ [b] ↔ a ∈ l ∨ a = b := by
  rw [List.mem_append, List.mem_singleton]

structure Machine (σ : Type u) (α : Type v) (ε : Type w) where
  init : σ → Prop
  step : σ → α → Option (σ × List ε)

namespace Machine

variable {σ : Type u} {α : Type v} {ε : Type w} (M : Machine σ α ε)

/-- `Run s es t`: some actions lead from `s` to `t` and emit `es`, oldest first. -/
inductive Run : σ → List ε → σ → Prop where
  | nil (s : σ) : Run s [] s
  | snoc {s t u : σ} {es out : List ε} (a : α) (h : Run s es t) (hs : M.step t a = some (u, out)) : Run s (es ++ out) u

def exec (s : σ) : List α → Option (σ × List ε)
  | [] => some (s, [])
  | a :: as =>
    match M.step s a with
    | none => none
    | some (t, out) => (exec t as).map (fun r => (r.1, out ++ r.2))

def Reaches (es : List ε) (s : σ) : Prop :=
  ∃ s₀, M.init s₀ ∧ M.Run s₀ es s

variable {M}

theorem Run.trans {s t u es fs} (h₁ : M.Run s es t) (h₂ : M.Run t fs u) : M.Run s (es ++ fs) u := by
  induction h₂ with
  | nil => simpa using h₁
  | snoc a _ hs ih => rw [← List.append_assoc]; exact .snoc a ih hs

theorem Run.single {s t out} (a : α) (h : M.step s a = some (t, out)) : M.Run s out t := by
  simpa using Run.snoc a (.nil s) h

theorem run_of_exec {s as r} (h : M.exec s as = some r) : M.Run s r.2 r.1 := by
  induction as generalizing s r with
  | nil => cases h; exact .nil s
  | cons a as ih =>
    simp only [exec] at h
    split at h
    · cases h
    · rename_i t out hs
      obtain ⟨r', hr', rfl⟩ := Option.map_eq_some_iff.mp h
      exact (Run.single a hs).trans (ih hr')

theorem reaches_of_exec {s as r} (hi : M.init s) (h : M.exec s as = some r) : M.Reaches r.2 r.1 :=
  ⟨s, hi, run_of_exec h⟩

theorem Reaches.run {es fs s t} (h : M.Reaches es s) (hr : M.Run s fs t) : M.Reaches (es ++ fs) t := by
  obtain ⟨s₀, hi, h₀⟩ := h
  exact ⟨s₀, hi, h₀.trans hr⟩

/-- A property of the events so far and the state holds at every reached state if it holds at the
start and every step keeps it. -/
theorem Reaches.induct {I : List ε → σ → Prop} (h0 : ∀ s, M.init s → I [] s)
    (hstep : ∀ es s a t out, M.Reaches es s → I es s → M.step s a = some (t, out) → I (es ++ out) t)
    {es : List ε} {s : σ} (h : M.Reaches es s) : I es s := by
  obtain ⟨s₀, hi, hr⟩ := h
  induction hr with
  | nil => exact h0 _ hi
  | snoc a hr hs ih => exact hstep _ _ a _ _ ⟨s₀, hi, hr⟩ ih hs

theorem Reaches.inv {I : σ → Prop} (h0 : ∀ s, M.init s → I s)
    (hstep : ∀ s a t out, I s → M.step s a = some (t, out) → I t)
    {es : List ε} {s : σ} (h : M.Reaches es s) : I s :=
  Reaches.induct (I := fun _ s => I s) h0 (fun _ s a t out _ hI hs => hstep s a t out hI hs) h

end Machine

end Manifold.Lib
