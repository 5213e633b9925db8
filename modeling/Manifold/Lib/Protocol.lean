import Manifold.Lib.Task

/-!
# Protocols of tasks

A protocol sees nothing of the shared state, so that a task follows it by its text alone.
-/

namespace Manifold.Lib

structure Protocol {E : Type} (A : E → Type) (Λ : Type) where
  allows : Λ → E → Prop
  answers : (e : E) → A e → Prop
  after : Λ → (e : E) → A e → Λ
  ends : Λ → Prop

variable {E : Type} {A : E → Type} {Λ μ χ χ' α β : Type}

/-- From the stage `l` on, the task asks only what is allowed, and ends with `Q`. -/
def Task.Follows (P : Protocol A Λ) : Task A μ α → Λ → (Λ → α → Prop) → Prop
  | .done _ a, l, Q => Q l a
  | .await _ e k, l, Q => P.allows l e ∧ ∀ r, P.answers e r → (k r).Follows P (P.after l e r) Q

variable {P : Protocol A Λ}

theorem Task.Follows.mono {t : Task A μ α} {l Q Q'} (h : t.Follows P l Q) (hQ : ∀ l a, Q l a → Q' l a) :
    t.Follows P l Q' := by
  induction t generalizing l with
  | done m a => exact hQ l a h
  | await m e k ih => exact ⟨h.1, fun r hr => ih r (h.2 r hr)⟩

theorem Task.Follows.bind {t : Task A μ α} {f : μ → α → Task A μ β} {l : Λ} {Q : Λ → β → Prop}
    (h : t.Follows P l (fun l' a => ∀ m, (f m a).Follows P l' Q)) : (t.bind f).Follows P l Q := by
  induction t generalizing l with
  | done m a => exact h m
  | await m e k ih => exact ⟨h.1, fun r hr => ih r (h.2 r hr)⟩

/-! ## Two protocols at once -/

section prod

variable {Λ' : Type} {P' : Protocol A Λ'} {t : Task A μ α} {Q : Λ → α → Prop} {Q' : Λ' → α → Prop}

def Protocol.prod (P : Protocol A Λ) (P' : Protocol A Λ') : Protocol A (Λ × Λ') where
  allows l e := P.allows l.1 e ∧ P'.allows l.2 e
  answers e r := P.answers e r ∧ P'.answers e r
  after l e r := (P.after l.1 e r, P'.after l.2 e r)
  ends l := P.ends l.1 ∧ P'.ends l.2

def Both (Φ : Λ → Prop) (Φ' : Λ' → Prop) (l : Λ × Λ') : Prop := Φ l.1 ∧ Φ' l.2

theorem Task.Follows.prod {l} (h : t.Follows P l.1 Q) (h' : t.Follows P' l.2 Q') :
    t.Follows (P.prod P') l (fun l a => Q l.1 a ∧ Q' l.2 a) := by
  induction t generalizing l with
  | done m a => exact ⟨h, h'⟩
  | await m e k ih => exact ⟨⟨h.1, h'.1⟩, fun r hr => ih r (h.2 r hr.1) (h'.2 r hr.2)⟩

theorem Task.Follows.split {l Q} (h : t.Follows (P.prod P') l Q) (ha : P.answers = P'.answers) :
    t.Follows P l.1 (fun l a => ∃ l', Q (l, l') a) ∧ t.Follows P' l.2 (fun l' a => ∃ l, Q (l, l') a) := by
  induction t generalizing l with
  | done m a => exact ⟨⟨l.2, h⟩, l.1, h⟩
  | await m e k ih =>
    refine ⟨⟨h.1.1, fun r hr => ?_⟩, h.1.2, fun r hr => ?_⟩
    · exact (ih r (h.2 r ⟨hr, ha ▸ hr⟩)).1
    · exact (ih r (h.2 r ⟨ha ▸ hr, hr⟩)).2

end prod

namespace Routine

def Obeys (P : Protocol A Λ) (Φ : Λ → Prop) (p : Routine A μ χ α) (Ψ : Except χ α → Λ → Prop) : Prop :=
  ∀ l, Φ l → ∀ m, (p m).Follows P l (fun l' r => Ψ r l')

variable {Φ Φ' : Λ → Prop} {Ψ Ψ' : Except χ α → Λ → Prop}

theorem Obeys.mono {p : Routine A μ χ α} (h : Obeys P Φ p Ψ) (hΦ : ∀ l, Φ' l → Φ l)
    (hΨ : ∀ r l, Ψ r l → Ψ' r l) : Obeys P Φ' p Ψ' := fun l hl m =>
  (h l (hΦ l hl) m).mono (fun l r => hΨ r l)

theorem Obeys.pure {a} (h : ∀ l, Φ l → Ψ (.ok a) l) : Obeys P Φ (Pure.pure a : Routine A μ χ α) Ψ :=
  fun l hl _ => h l hl

theorem Obeys.throw {e} (h : ∀ l, Φ l → Ψ (.error e) l) :
    Obeys P Φ (MonadExcept.throw e : Routine A μ χ α) Ψ := fun l hl _ => h l hl

theorem Obeys.ofExcept {r} (h : ∀ l, Φ l → Ψ r l) :
    Obeys P Φ (Routine.ofExcept r : Routine A μ χ α) Ψ := fun l hl _ => h l hl

def Outcome (R : β → Λ → Prop) (S : χ → Λ → Prop) : Except χ β → Λ → Prop
  | .ok b => R b
  | .error e => S e

theorem Obeys.bind {p : Routine A μ χ β} {f : β → Routine A μ χ α} {R : β → Λ → Prop}
    (hp : Obeys P Φ p (Outcome R fun e => Ψ (.error e)))
    (hf : ∀ b, Obeys P (R b) (f b) Ψ) : Obeys P Φ (p >>= f) Ψ := fun l hl m => by
  refine Task.Follows.bind ((hp l hl m).mono fun l' r hr m' => ?_)
  cases r with
  | ok b => exact hf b l' hr m'
  | error e => exact hr

theorem Obeys.map {p : Routine A μ χ β} {g : β → α}
    (hp : Obeys P Φ p (fun r l => Ψ (r.map g) l)) : Obeys P Φ (g <$> p) Ψ := fun l hl m => by
  refine Task.Follows.bind ((hp l hl m).mono fun l' r hr m' => ?_)
  cases r <;> exact hr

theorem Obeys.ask {e Ψ} (hallow : ∀ l, Φ l → P.allows l e)
    (h : ∀ l r, Φ l → P.answers e r → Ψ (.ok r) (P.after l e r)) :
    Obeys P Φ (Routine.ask e : Routine A μ χ (A e)) Ψ := fun l hl _ =>
  ⟨hallow l hl, fun r hr => h l r hl hr⟩

theorem Obeys.attempt {p Ψ} (hp : Obeys P Φ p (fun r l => Ψ (.ok r) l)) :
    Obeys P Φ (attempt p : Routine A μ χ' (Except χ β)) Ψ := fun l hl m =>
  Task.Follows.bind ((hp l hl m).mono fun _ _ h _ => h)

def Stays (P : Protocol A Λ) (Φ : Λ → Prop) (p : Routine A μ χ α) : Prop := Obeys P Φ p (fun _ => Φ)

theorem stays_pure {a} : Stays P Φ (Pure.pure a : Routine A μ χ α) := Obeys.pure fun _ h => h

theorem stays_throw {e} : Stays P Φ (MonadExcept.throw e : Routine A μ χ α) := Obeys.throw fun _ h => h

theorem stays_ofExcept {r} : Stays P Φ (Routine.ofExcept r : Routine A μ χ α) :=
  Obeys.ofExcept fun _ h => h

theorem stays_ask {e} (hallow : ∀ l, Φ l → P.allows l e) (h : ∀ l r, Φ l → P.answers e r → Φ (P.after l e r)) :
    Stays P Φ (Routine.ask e : Routine A μ χ (A e)) := Obeys.ask hallow h

theorem stays_bind {p : Routine A μ χ β} {f : β → Routine A μ χ α} (hp : Stays P Φ p)
    (hf : ∀ b, Stays P Φ (f b)) : Stays P Φ (p >>= f) :=
  Obeys.bind (R := fun _ => Φ) (hp.mono (fun _ h => h) (fun r _ h => by cases r <;> exact h)) hf

theorem stays_map {p : Routine A μ χ β} {g : β → α} (hp : Stays P Φ p) : Stays P Φ (g <$> p) :=
  Obeys.map hp

theorem stays_attempt {p} (hp : Stays P Φ p) : Stays P Φ (attempt p : Routine A μ χ' (Except χ β)) := Obeys.attempt hp

theorem Obeys.after {p : Routine A μ χ β} {f : β → Routine A μ χ α} (hp : Stays P Φ p)
    (herr : ∀ e l, Φ l → Ψ (.error e) l) (hf : ∀ b, Obeys P Φ (f b) Ψ) : Obeys P Φ (p >>= f) Ψ :=
  Obeys.bind (R := fun _ => Φ) (hp.mono (fun _ h => h) (fun r l h => by
    cases r with
    | ok _ => exact h
    | error e => exact herr e l h)) hf

/-! ## Resting stages -/

variable {W : Λ → Prop} {R : α → Λ → Prop}

/-- A value satisfies `R`; an error leaves the stage in `W`. -/
def Yields (W : Λ → Prop) (R : α → Λ → Prop) : Except χ α → Λ → Prop := Outcome R fun _ => W

def Leaves (P : Protocol A Λ) (W : Λ → Prop) (p : Routine A μ χ α) (Φ : Λ → Prop) : Prop :=
  Obeys P Φ p fun _ => W

theorem yields_after {p : Routine A μ χ β} {f : β → Routine A μ χ α} (hw : ∀ l, Φ l → W l) (hp : Stays P Φ p)
    (hf : ∀ b, Obeys P Φ (f b) (Yields W R)) : Obeys P Φ (p >>= f) (Yields W R) :=
  Obeys.after hp (fun _ => hw) hf

theorem Stays.yields {p : Routine A μ χ α} (h : Stays P Φ p) (hw : ∀ l, Φ l → W l) :
    Obeys P Φ p (Yields W fun _ => Φ) :=
  h.mono (fun _ h => h) fun r l h => by
    cases r with
    | ok _ => exact h
    | error _ => exact hw l h

theorem Obeys.given {p : Routine A μ χ α} {fact : Prop} (h : fact → Obeys P Φ p Ψ) :
    Obeys P (fun l => Φ l ∧ fact) p Ψ := fun l hl => h hl.2 l hl.1

theorem Leaves.yields {p : Routine A μ χ α} (h : Leaves P W p Φ) : Obeys P Φ p (Yields W fun _ => W) :=
  h.mono (fun _ h => h) fun r _ h => by cases r <;> exact h

theorem Leaves.pure {a} (hw : ∀ l, Φ l → W l) : Leaves P W (Pure.pure a : Routine A μ χ α) Φ := Obeys.pure hw

theorem Leaves.bind {p : Routine A μ χ β} {f : β → Routine A μ χ α} {R : β → Λ → Prop}
    (hp : Obeys P Φ p (Yields W R)) (hf : ∀ b, Leaves P W (f b) (R b)) : Leaves P W (p >>= f) Φ :=
  Obeys.bind hp hf

theorem Leaves.after {p : Routine A μ χ β} {f : β → Routine A μ χ α} (hw : ∀ l, Φ l → W l) (hp : Stays P Φ p)
    (hf : ∀ b, Leaves P W (f b) Φ) : Leaves P W (p >>= f) Φ :=
  Obeys.after hp (fun _ => hw) hf

theorem Leaves.then {p : Routine A μ χ β} {f : β → Routine A μ χ α} (hp : Leaves P W p Φ)
    (hf : ∀ b, Stays P W (f b)) : Leaves P W (p >>= f) Φ :=
  Obeys.bind hp.yields hf

section prod

variable {Λ' : Type} {P' : Protocol A Λ'} {W' Φ' : Λ' → Prop} {R' : α → Λ' → Prop}

theorem Obeys.prod {p : Routine A μ χ α} {Ψ' : Except χ α → Λ' → Prop} (h : Obeys P Φ p Ψ)
    (h' : Obeys P' Φ' p Ψ') : Obeys (P.prod P') (Both Φ Φ') p fun r => Both (Ψ r) (Ψ' r) :=
  fun l hl m => (h l.1 hl.1 m).prod (h' l.2 hl.2 m)

theorem Obeys.yields_prod {p : Routine A μ χ α} (h : Obeys P Φ p (Yields W R)) (h' : Obeys P' Φ' p (Yields W' R')) :
    Obeys (P.prod P') (Both Φ Φ') p (Yields (Both W W') fun a => Both (R a) (R' a)) :=
  (h.prod h').mono (fun _ h => h) fun r _ h => by cases r <;> exact h

end prod

end Routine

end Manifold.Lib
