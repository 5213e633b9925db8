import Manifold.Lib.Machine
import Mathlib.Data.List.Count

/-!
# Fixed rate windows
-/

namespace Manifold.Lib.Window

structure Use where
  time : Int
  start : Int

/-- The uses lie in windows of length `w` that do not overlap, with at most `m` of them in each. -/
structure Within (w m : Int) (uses : List Use) : Prop where
  inside : ∀ u ∈ uses, u.start ≤ u.time ∧ u.time < u.start + w
  apart : uses.Pairwise (fun u v => u.start = v.start ∨ u.start + w ≤ v.start)
  full : ∀ x, (uses.countP (·.start = x) : Int) ≤ m

/-- The state of the limiter is that of the uses so far. -/
structure Tracks (w m : Int) (started : Option Int) (count now : Int) (uses : List Use) : Prop where
  within : Within w m uses
  unstarted : started = none → uses = []
  current : ∀ x, started = some x → x ≤ now ∧ (uses.countP (·.start = x) : Int) = count
  last : ∀ x, started = some x → ∀ u ∈ uses, u.start = x ∨ u.start + w ≤ x

variable {w m count now : Int} {started : Option Int} {uses : List Use}

theorem Tracks.nil (hm : 0 ≤ m) : Tracks w m none count now [] :=
  ⟨⟨by simp, .nil, by simpa using hm⟩, fun _ => rfl, by simp, by simp⟩

theorem Tracks.later {now'} (h : Tracks w m started count now uses) (hle : now ≤ now') :
    Tracks w m started count now' uses :=
  ⟨h.within, h.unstarted, fun x hx => ⟨Int.le_trans (h.current x hx).1 hle, (h.current x hx).2⟩, h.last⟩

theorem Tracks.renew (h : Tracks w m started count now uses) (hw : 0 < w) (hm : 0 < m)
    (hover : ∀ x, started = some x → x + w ≤ now) : Tracks w m (some now) 1 now (uses ++ [⟨now, now⟩]) := by
  -- every earlier window is over
  have hbefore : ∀ u ∈ uses, u.start + w ≤ now := by
    intro u hu
    cases hs : started with
    | none =>
      rw [h.unstarted hs] at hu
      cases hu
    | some x =>
      have hx := hover x hs
      rcases h.last x hs u hu with he | hlt
      · omega
      · omega
  have hnone : uses.countP (·.start = now) = 0 := by
    rw [List.countP_eq_zero]
    intro u hu
    have := hbefore u hu
    simp only [decide_eq_true_eq]
    omega
  refine ⟨⟨?_, ?_, ?_⟩, by simp, ?_, ?_⟩
  · intro u hu
    rcases Lib.mem_snoc.mp hu with hu | rfl
    · exact h.within.inside u hu
    · exact ⟨Int.le_refl _, Int.lt_add_of_pos_right _ hw⟩
  · rw [List.pairwise_append]
    refine ⟨h.within.apart, by simp, fun u hu v hv => ?_⟩
    rw [List.mem_singleton.mp hv]
    exact .inr (hbefore u hu)
  · intro x
    rw [List.countP_append, List.countP_singleton]
    by_cases hx : now = x
    · subst hx
      simp only [hnone, decide_true, if_true]
      omega
    · simpa [hx] using h.within.full x
  · rintro x ⟨⟩
    refine ⟨Int.le_refl _, ?_⟩
    rw [List.countP_append, hnone]
    simp
  rintro x ⟨⟩ u hu
  rcases Lib.mem_snoc.mp hu with hu | rfl
  · exact .inr (hbefore u hu)
  · exact .inl rfl

theorem Tracks.again {x} (h : Tracks w m (some x) count now uses) (hopen : now < x + w) (hroom : count < m) :
    Tracks w m (some x) (count + 1) now (uses ++ [⟨now, x⟩]) := by
  obtain ⟨hle, hcount⟩ := h.current x rfl
  refine ⟨⟨?_, ?_, ?_⟩, by simp, ?_, ?_⟩
  · intro u hu
    rcases Lib.mem_snoc.mp hu with hu | rfl
    · exact h.within.inside u hu
    · exact ⟨hle, hopen⟩
  · rw [List.pairwise_append]
    refine ⟨h.within.apart, by simp, fun u hu v hv => ?_⟩
    rw [List.mem_singleton.mp hv]
    exact h.last x rfl u hu
  · intro y
    rw [List.countP_append, List.countP_singleton]
    by_cases hy : x = y
    · subst hy
      simp only [decide_true, if_true]
      omega
    · simpa [hy] using h.within.full y
  · rintro y ⟨⟩
    refine ⟨hle, ?_⟩
    rw [List.countP_append, List.countP_singleton]
    simp only [decide_true, if_true]
    omega
  rintro y ⟨⟩ u hu
  rcases Lib.mem_snoc.mp hu with hu | rfl
  · exact h.last x rfl u hu
  · exact .inl rfl

end Manifold.Lib.Window
