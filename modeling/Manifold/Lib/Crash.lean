import Manifold.Lib.Task

/-!
# Tasks that run alone and may be cut

A cut may tear the question that is being answered: `T e s t` says that a cut in `e` at `s` may leave `t`.
-/

namespace Manifold.Lib

def Pact.alone (ε σ : Type) : Pact ε σ where
  inv := fun _ => True
  rely := fun h h' => h = h'
  guar := fun _ _ => True
  rely_refl := fun _ => rfl
  rely_trans := fun a b => a.trans b

namespace Task

variable {E : Type} {A : E → Type} {μ α σ X ε : Type} (H : Handler A σ X ε) (T : E → σ → σ → Prop)

inductive Ends : Task A μ α → σ → α → σ → Prop where
  | done (m : μ) (a : α) (s : σ) : Ends (.done m a) s a s
  | await {m : μ} {e : E} {k : A e → Task A μ α} {s t u : σ} {x : X} {r : A e} {out : List ε} {a : α}
      (hs : H e s x = some (r, t, out)) (hk : Ends (k r) t a u) : Ends (.await m e k) s a u

inductive Cut : Task A μ α → σ → σ → Prop where
  | here (p : Task A μ α) (s : σ) : Cut p s s
  | torn {m : μ} {e : E} {k : A e → Task A μ α} {s t : σ} (ht : T e s t) : Cut (.await m e k) s t
  | await {m : μ} {e : E} {k : A e → Task A μ α} {s t u : σ} {x : X} {r : A e} {out : List ε}
      (hs : H e s x = some (r, t, out)) (hk : Cut (k r) t u) : Cut (.await m e k) s u

variable {H T}

theorem exists_ends (hH : ∀ e s, ∃ x r t out, H e s x = some (r, t, out)) (p : Task A μ α) (s : σ) :
    ∃ a u, p.Ends H s a u := by
  induction p generalizing s with
  | done m a => exact ⟨a, s, .done m a s⟩
  | await m e k ih =>
    obtain ⟨x, r, t, out, hs⟩ := hH e s
    obtain ⟨a, u, hk⟩ := ih r t
    exact ⟨a, u, .await hs hk⟩

theorem Ends.cut {p : Task A μ α} {s u a} (h : p.Ends H s a u) : p.Cut H T s u := by
  induction h with
  | done m a s => exact .here _ s
  | await hs _ ih => exact .await hs ih

variable {B : μ → Hist ε σ → Prop} {Q : μ → α → Hist ε σ → Prop}

theorem Safe.ends {p : Task A μ α} {h : Hist ε σ} {a u} (hp : p.Safe H (.alone ε σ) B Q h)
    (he : p.Ends H h.now a u) : ∃ m past, Q m a ⟨past, u⟩ := by
  induction p generalizing h with
  | done m b =>
    cases he
    exact ⟨m, h.past, hp⟩
  | await m e k ih =>
    cases he with
    | await hs hk =>
      obtain ⟨-, -, hsafe⟩ := hp.step trivial hs
      exact ih _ hsafe hk

/-- `I` holds wherever the task is cut, if it holds at the awaits and at the end and no torn question
breaks it. -/
theorem Safe.cut {I : σ → Prop} {p : Task A μ α} {h : Hist ε σ} {u : σ}
    (hp : p.Safe H (.alone ε σ) B Q h) (hB : ∀ m h, B m h → I h.now) (hQ : ∀ m a h, Q m a h → I h.now)
    (hT : ∀ e s t, T e s t → I s → I t) (hc : p.Cut H T h.now u) : I u := by
  induction p generalizing h with
  | done m a =>
    cases hc
    exact hQ m a h hp
  | await m e k ih =>
    cases hc with
    | here => exact hB m h hp.1
    | torn ht => exact hT e _ _ ht (hB m h hp.1)
    | await hs hk =>
      obtain ⟨-, -, hsafe⟩ := hp.step trivial hs
      exact ih _ hsafe hk

end Task

namespace Routine

variable {E : Type} {A : E → Type} {μ χ α σ X ε : Type} {H : Handler A σ X ε}
  {B P : μ → Hist ε σ → Prop}

theorem Spec.ask_alone {e Q} (hB : ∀ m h, P m h → B m h)
    (hact : ∀ m h x r t out, P m h → H e h.now x = some (r, t, out) → B m (h.snoc out t) ∧ Q (.ok r) m (h.snoc out t)) :
    Spec H (.alone ε σ) B P (Routine.ask e : Routine A μ χ (A e)) Q := by
  refine Spec.ask ?_ hB fun m h x r t out hm _ hs => ?_
  · rintro m h _ rfl hm
    exact hm
  · obtain ⟨hb, hq⟩ := hact m h x r t out hm hs
    exact ⟨trivial, trivial, hb, hq⟩

/-! ## Routines with one way to go -/

variable (H) in
/-- Run alone from `s`, the routine keeps `I` at its awaits, ends with `r` and leaves the state `t`. -/
def Leads (I : σ → Prop) (s : σ) (p : Routine A μ χ α) (r : Except χ α) (t : σ) : Prop :=
  Spec H (.alone ε σ) (fun _ h => I h.now) (fun _ h => h.now = s) p (fun r' _ h => h.now = t ∧ r' = r)

variable {β : Type} {I : σ → Prop} {s t u : σ}

theorem leads_pure {a} : Leads H I s (Pure.pure a : Routine A μ χ α) (.ok a) s :=
  Spec.pure fun _ _ h => ⟨h, rfl⟩

theorem leads_throw {e} : Leads H I s (MonadExcept.throw e : Routine A μ χ α) (.error e) s :=
  Spec.throw fun _ _ h => ⟨h, rfl⟩

theorem leads_ofExcept {r} : Leads H I s (Routine.ofExcept r : Routine A μ χ α) r s :=
  Spec.ofExcept fun _ _ h => ⟨h, rfl⟩

theorem leads_ask {e a} (hH : ∀ x, H e s x = some (a, t, [])) (hs : I s) (ht : I t) :
    Leads H I s (Routine.ask e : Routine A μ χ (A e)) (.ok a) t := by
  refine Spec.ask_alone (fun _ h hm => by rw [hm]; exact hs) fun m h x r t' out hm ha => ?_
  rw [hm, hH x] at ha
  cases ha
  exact ⟨ht, rfl, rfl⟩

theorem Leads.bind_spec {p : Routine A μ χ β} {f : β → Routine A μ χ α} {b : β}
    {Q : Except χ α → μ → Hist ε σ → Prop} (hp : Leads H I s p (.ok b) t)
    (hf : Spec H (.alone ε σ) (fun _ h => I h.now) (fun _ h => h.now = t) (f b) Q) :
    Spec H (.alone ε σ) (fun _ h => I h.now) (fun _ h => h.now = s) (p >>= f) Q := by
  refine Spec.bind (R := fun b' _ h => b' = b ∧ h.now = t) ?_ fun b' => ?_
  · refine hp.mono (fun _ _ h => h) fun r' m h hr => ?_
    obtain ⟨hnow, rfl⟩ := hr
    exact ⟨rfl, hnow⟩
  · refine Spec.of_fact fun hb => ?_
    subst hb
    exact hf

theorem Leads.bind {p : Routine A μ χ β} {f : β → Routine A μ χ α} {b : β} {r : Except χ α}
    (hp : Leads H I s p (.ok b) t) (hf : Leads H I t (f b) r u) : Leads H I s (p >>= f) r u :=
  hp.bind_spec hf

theorem Leads.bind_error {p : Routine A μ χ β} {f : β → Routine A μ χ α} {e : χ}
    (hp : Leads H I s p (.error e) t) : Leads H I s (p >>= f) (.error e) t := by
  refine Spec.bind (R := fun _ _ _ => False) ?_ fun b => fun m h hm => hm.elim
  refine hp.mono (fun _ _ h => h) fun r' m h hr => ?_
  obtain ⟨hnow, rfl⟩ := hr
  exact ⟨hnow, rfl⟩

theorem Leads.bindExcept {p : Routine A μ χ β} {f : β → Routine A μ χ α} {r : Except χ β} {g : β → Except χ α}
    (hp : Leads H I s p r t) (hf : ∀ b, Leads H I t (f b) (g b) t) : Leads H I s (p >>= f) (r >>= g) t := by
  cases r with
  | error e => exact hp.bind_error
  | ok b => exact hp.bind (hf b)

end Routine

end Manifold.Lib
