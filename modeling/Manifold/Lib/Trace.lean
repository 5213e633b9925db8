import Mathlib.Data.List.Induction

/-!
# Traces
-/

namespace Manifold.Lib.Trace

variable {α : Type}

/-- Every entry is in the relation `Q` to the entries before it. -/
def Each (Q : List α → α → Prop) (es : List α) : Prop := ∀ pre n post, es = pre ++ n :: post → Q pre n

variable {Q : List α → α → Prop} {es out : List α}

theorem Each.nil : Each Q [] := fun pre n post h => by
  cases pre <;> cases h

theorem Each.append (h : Each Q es) (hout : ∀ pre n post, out = pre ++ n :: post → Q (es ++ pre) n) :
    Each Q (es ++ out) := by
  intro pre n post he
  rcases List.append_eq_append_iff.mp he with ⟨as, rfl, hout'⟩ | ⟨as, rfl, hpost⟩
  · exact hout as n post hout'
  -- the entry is in `es`, unless `es` ends right before it
  cases as with
  | nil =>
    rw [List.nil_append] at hpost
    have := hout [] n post hpost.symm
    rwa [List.append_nil, List.append_nil] at this
  | cons a as =>
    obtain ⟨rfl, -⟩ := List.cons.inj hpost
    exact h pre n as rfl

/-! ## The part since the last mark -/

def since (p : α → Bool) (es : List α) : List α := es.foldl (fun acc a => if p a then [] else acc ++ [a]) []

variable {p : α → Bool} {a : α}

theorem since_snoc : since p (es ++ [a]) = if p a then [] else since p es ++ [a] := by
  rw [since, List.foldl_append]
  rfl

theorem since_append (h : ∀ a ∈ out, p a = false) : since p (es ++ out) = since p es ++ out := by
  induction out using List.reverseRecOn with
  | nil => rw [List.append_nil, List.append_nil]
  | append_singleton out a ih =>
    rw [← List.append_assoc, since_snoc, ih fun b hb => h b (List.mem_append_left _ hb),
      h a (List.mem_append_right _ List.mem_cons_self), List.append_assoc]
    rfl

theorem mem_since_of_append (h : ∀ a ∈ out, p a = false) (ha : a ∈ out) : a ∈ since p (es ++ out) := by
  rw [since_append h]
  exact List.mem_append_right _ ha

end Manifold.Lib.Trace
