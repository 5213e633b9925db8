import Mathlib.Data.List.Basic

/-!
# Asynchronous tasks

A task asks something of the outside at each await, where everything else may happen and the task may be dropped.
`Safe` is safety under that interference.
-/

namespace Manifold.Lib

theorem bind_eq_ok {χ α β : Type} {p : Except χ α} {f : α → Except χ β} {b : β} :
    (p >>= f) = .ok b ↔ ∃ a, p = .ok a ∧ f a = .ok b := by
  cases p with
  | error e => exact ⟨(nomatch ·), fun ⟨_, h, _⟩ => (nomatch h)⟩
  | ok a => exact ⟨fun h => ⟨a, rfl, h⟩, fun ⟨_, h, hf⟩ => by cases h; exact hf⟩

inductive Task {E : Type} (A : E → Type) (μ α : Type) where
  | done (m : μ) (a : α)
  | await (m : μ) (e : E) (k : A e → Task A μ α)

structure Hist (ε σ : Type) where
  past : List ε
  now : σ

namespace Hist

variable {ε σ : Type}

def snoc (h : Hist ε σ) (out : List ε) (t : σ) : Hist ε σ := ⟨h.past ++ out, t⟩

@[simp] theorem snoc_past (h : Hist ε σ) (out : List ε) (t : σ) : (h.snoc out t).past = h.past ++ out :=
  rfl

@[simp] theorem snoc_now (h : Hist ε σ) (out : List ε) (t : σ) : (h.snoc out t).now = t := rfl

@[simp] theorem snoc_nil (h : Hist ε σ) : h.snoc [] h.now = h := by simp [snoc]

end Hist

/-- The effect of a question on the state, under a choice of the outside: the answer, the next state
and the events. -/
abbrev Handler {E : Type} (A : E → Type) (σ X ε : Type) :=
  (e : E) → σ → X → Option (A e × σ × List ε)

/-- What holds at every await, what a task relies on and what it guarantees. -/
structure Pact (ε σ : Type) where
  inv : Hist ε σ → Prop
  rely : Hist ε σ → Hist ε σ → Prop
  guar : Hist ε σ → Hist ε σ → Prop
  rely_refl : ∀ h, rely h h
  rely_trans : ∀ {h₁ h₂ h₃}, rely h₁ h₂ → rely h₂ h₃ → rely h₁ h₃

inductive Fate where
  | onTime
  | before
  /-- The question takes effect and its answer is lost. -/
  | during

namespace Task

variable {E : Type} {A : E → Type} {μ α β σ X ε : Type}

def bind (t : Task A μ α) (f : μ → α → Task A μ β) : Task A μ β :=
  match t with
  | .done m a => f m a
  | .await m e k => .await m e (fun r => (k r).bind f)

/-- Run under a deadline. The question `clock` asks how the deadline meets the next await. -/
def timeout (clock : E) (fate : A clock → Fate) (t : Task A μ α) : Task A μ (Option α) :=
  match t with
  | .done m a => .done m (some a)
  | .await m e k =>
    .await m clock (fun c =>
      match fate c with
      | .onTime => .await m e (fun r => (k r).timeout clock fate)
      | .before => .done m none
      | .during => .await m e (fun _ => .done m none))

variable (H : Handler A σ X ε) (K : Pact ε σ)

/-- The task is safe from `h` on and ends with `Q`. What it leaves when it is dropped at an await, before or after
the question took effect, satisfies `B`. -/
def Safe (B : μ → Hist ε σ → Prop) : Task A μ α → (μ → α → Hist ε σ → Prop) → Hist ε σ → Prop
  | .done m a, Q, h => Q m a h
  | .await m e k, Q, h => B m h ∧ ∀ h', K.rely h h' → K.inv h' →
      ∀ x r t out, H e h'.now x = some (r, t, out) →
        K.guar h' (h'.snoc out t) ∧ K.inv (h'.snoc out t) ∧ B m (h'.snoc out t) ∧ (k r).Safe B Q (h'.snoc out t)

variable {H K} {B B' : μ → Hist ε σ → Prop}

theorem Safe.mono {t : Task A μ α} {Q Q' h} (ht : t.Safe H K B Q h) (hB : ∀ m h', B m h' → B' m h')
    (hQ : ∀ m a h', Q m a h' → Q' m a h') :
    t.Safe H K B' Q' h := by
  induction t generalizing h with
  | done m a => exact hQ m a h ht
  | await m e k ih =>
    refine ⟨hB m h ht.1, fun h' hr hi x r t out hs => ?_⟩
    obtain ⟨hg, hi', hb, hk⟩ := ht.2 h' hr hi x r t out hs
    exact ⟨hg, hi', hB m _ hb, ih r hk⟩

theorem Safe.bind {t : Task A μ α} {f : μ → α → Task A μ β} {Q : μ → β → Hist ε σ → Prop}
    {h : Hist ε σ} (ht : t.Safe H K B (fun m a h' => (f m a).Safe H K B Q h') h) :
    (t.bind f).Safe H K B Q h := by
  induction t generalizing h with
  | done m a => exact ht
  | await m e k ih =>
    refine ⟨ht.1, fun h' hr hi x r t out hs => ?_⟩
    obtain ⟨hg, hi', hb, hk⟩ := ht.2 h' hr hi x r t out hs
    exact ⟨hg, hi', hb, ih r hk⟩

/-- Interference that the task relies on keeps it safe, if it keeps what the task leaves and ends
with. -/
theorem Safe.stable {t : Task A μ α} {Q h h'} (ht : t.Safe H K B Q h) (hr : K.rely h h')
    (hB : ∀ m h₁ h₂, K.rely h₁ h₂ → B m h₁ → B m h₂) (hQ : ∀ m a h₁ h₂, K.rely h₁ h₂ → Q m a h₁ → Q m a h₂) :
    t.Safe H K B Q h' := by
  cases t with
  | done m a => exact hQ m a h h' hr ht
  | await m e k => exact ⟨hB m h h' hr ht.1, fun h₂ hr₂ hi => ht.2 h₂ (K.rely_trans hr hr₂) hi⟩

theorem Safe.step {m : μ} {e : E} {k : A e → Task A μ α} {Q : μ → α → Hist ε σ → Prop} {h : Hist ε σ}
    (ht : (Task.await m e k).Safe H K B Q h) (hi : K.inv h) {x : X} {r : A e} {t : σ} {out : List ε}
    (hs : H e h.now x = some (r, t, out)) :
    K.guar h (h.snoc out t) ∧ K.inv (h.snoc out t) ∧ (k r).Safe H K B Q (h.snoc out t) := by
  obtain ⟨hg, hi', -, hk⟩ := ht.2 h (K.rely_refl h) hi x r t out hs
  exact ⟨hg, hi', hk⟩

/-- A deadline ends a safe task with what it leaves at an await. The clock changes nothing. -/
theorem Safe.timeout {clock fate} {t : Task A μ α} {Q Q' h}
    (hclock : ∀ s x r t out, H clock s x = some (r, t, out) → t = s ∧ out = []) (hguar : ∀ h, K.guar h h)
    (hB : ∀ m h₁ h₂, K.rely h₁ h₂ → B m h₁ → B m h₂) (hdone : ∀ m a h, Q m a h → Q' m (some a) h)
    (hcut : ∀ m h, B m h → Q' m none h) (ht : t.Safe H K B Q h) : (t.timeout clock fate).Safe H K B Q' h := by
  induction t generalizing h with
  | done m a => exact hdone m a h ht
  | await m e k ih =>
    rw [Task.timeout]
    refine ⟨ht.1, fun h' hr hi x c t out hs => ?_⟩
    obtain ⟨rfl, rfl⟩ := hclock _ _ _ _ _ hs
    have hb : B m h' := hB m h h' hr ht.1
    rw [Hist.snoc_nil]
    refine ⟨hguar h', hi, hb, ?_⟩
    beta_reduce
    cases fate c with
    | onTime =>
      refine ⟨hb, fun h₂ hr₂ hi₂ x r t out hs => ?_⟩
      obtain ⟨hg, hi', hb', hk⟩ := ht.2 h₂ (K.rely_trans hr hr₂) hi₂ x r t out hs
      exact ⟨hg, hi', hb', ih r hk⟩
    | before => exact hcut m h' hb
    | during =>
      refine ⟨hb, fun h₂ hr₂ hi₂ x r t out hs => ?_⟩
      obtain ⟨hg, hi', hb', -⟩ := ht.2 h₂ (K.rely_trans hr hr₂) hi₂ x r t out hs
      exact ⟨hg, hi', hb', hcut m _ hb'⟩

end Task

namespace Task

variable {E : Type} {A : E → Type} {μ α β : Type} {p : E → Prop}

def Asks (p : E → Prop) : Task A μ α → Prop
  | .done _ _ => True
  | .await _ e k => p e ∧ ∀ r, (k r).Asks p

theorem Asks.bind {t : Task A μ α} {f : μ → α → Task A μ β} (ht : t.Asks p) (hf : ∀ m a, (f m a).Asks p) :
    (t.bind f).Asks p := by
  induction t with
  | done m a => exact hf m a
  | await m e k ih => exact ⟨ht.1, fun r => ih r (ht.2 r)⟩

theorem Asks.timeout {clock fate} {t : Task A μ α} (hclock : p clock) (ht : t.Asks p) :
    (t.timeout clock fate).Asks p := by
  induction t with
  | done m a => trivial
  | await m e k ih =>
    rw [Task.timeout]
    refine ⟨hclock, fun c => ?_⟩
    beta_reduce
    cases fate c with
    | onTime => exact ⟨ht.1, fun r => ih r (ht.2 r)⟩
    | before => trivial
    | during => exact ⟨ht.1, fun _ => trivial⟩

end Task

/-- An asynchronous function: it reads and changes the memory of its task and may fail. -/
def Routine {E : Type} (A : E → Type) (μ χ α : Type) := μ → Task A μ (Except χ α)

namespace Routine

variable {E : Type} {A : E → Type} {μ χ χ' α β σ X ε : Type}

def andThen (p : Routine A μ χ α) (f : α → Routine A μ χ β) : Routine A μ χ β := fun m =>
  (p m).bind (fun m r =>
    match r with
    | .ok a => f a m
    | .error e => .done m (.error e))

instance : Monad (Routine A μ χ) where
  pure a := fun m => .done m (.ok a)
  bind := andThen

instance : MonadStateOf μ (Routine A μ χ) where
  get := fun m => .done m (.ok m)
  set m := fun _ => .done m (.ok ())
  modifyGet f := fun m => .done (f m).2 (.ok (f m).1)

instance : MonadExceptOf χ (Routine A μ χ) where
  throw e := fun m => .done m (.error e)
  tryCatch p f := fun m =>
    (p m).bind (fun m r =>
      match r with
      | .ok a => .done m (.ok a)
      | .error e => f e m)

def ask (e : E) : Routine A μ χ (A e) := fun m => .await m e (fun r => .done m (.ok r))

def attempt (p : Routine A μ χ α) : Routine A μ χ' (Except χ α) := fun m =>
  (p m).bind (fun m r => .done m (.ok r))

def mapError (f : χ → χ') (p : Routine A μ χ α) : Routine A μ χ' α := fun m =>
  (p m).bind (fun m r => .done m (r.mapError f))

def ofExcept (r : Except χ α) : Routine A μ χ α := fun m => .done m r

def timeout (clock : E) (fate : A clock → Fate) (p : Routine A μ χ α) : Routine A μ χ' (Option (Except χ α)) := fun m =>
  ((p m).timeout clock fate).bind (fun m r => .done m (.ok r))

/-! ## Rules -/

variable (H : Handler A σ X ε) (K : Pact ε σ)

/-- From the memory and history `P`, the routine is safe, leaves `B` where it is dropped, and ends
with `Q`. -/
def Spec (B P : μ → Hist ε σ → Prop) (p : Routine A μ χ α)
    (Q : Except χ α → μ → Hist ε σ → Prop) : Prop :=
  ∀ m h, P m h → (p m).Safe H K B (fun m r h => Q r m h) h

def Keeps (P : μ → Hist ε σ → Prop) (p : Routine A μ χ α) : Prop := Spec H K P P p (fun _ => P)

/-- The routine leads from `P` to `P`; nothing is asked of it where it is dropped. -/
abbrev Returns (P : μ → Hist ε σ → Prop) (p : Routine A μ χ α) : Prop := Spec H K (fun _ _ => True) P p (fun _ => P)

variable {H K} {B P S : μ → Hist ε σ → Prop} {Q Q' : Except χ α → μ → Hist ε σ → Prop}

theorem Spec.mono {p} (hp : Spec H K B P p Q) (hP : ∀ m h, S m h → P m h) (hQ : ∀ r m h, Q r m h → Q' r m h) :
    Spec H K B S p Q' := fun m h hm =>
  (hp m h (hP m h hm)).mono (fun _ _ h => h) (fun m r h => hQ r m h)

theorem Spec.undropped {p} (hp : Spec H K B P p Q) : Spec H K (fun _ _ => True) P p Q := fun m h hm =>
  (hp m h hm).mono (fun _ _ _ => trivial) (fun _ _ _ h => h)

theorem Spec.pure {a} (hQ : ∀ m h, P m h → Q (.ok a) m h) :
    Spec H K B P (Pure.pure a : Routine A μ χ α) Q := fun m h hm => hQ m h hm

theorem Spec.throw {e} (hQ : ∀ m h, P m h → Q (.error e) m h) :
    Spec H K B P (MonadExcept.throw e : Routine A μ χ α) Q := fun m h hm => hQ m h hm

theorem Spec.bind {p : Routine A μ χ β} {f : β → Routine A μ χ α} {R : β → μ → Hist ε σ → Prop}
    (hp : Spec H K B P p (fun r m h =>
      match r with
      | .ok b => R b m h
      | .error e => Q (.error e) m h))
    (hf : ∀ b, Spec H K B (R b) (f b) Q) : Spec H K B P (p >>= f) Q := fun m h hm => by
  refine Task.Safe.bind ((hp m h hm).mono (fun _ _ h => h) fun m' r h' hr => ?_)
  cases r with
  | ok b => exact hf b m' h' hr
  | error e => exact hr

theorem Spec.get_bind {f} (hf : ∀ m, Spec H K B (fun m' h => m' = m ∧ P m h) (f m) Q) :
    Spec H K B P (MonadState.get >>= f) Q := fun m h hm => hf m m h ⟨rfl, hm⟩

theorem Spec.modify_bind {g f} (hg : ∀ m h, P m h → S (g m) h) (hf : Spec H K B S (f ⟨⟩) Q) :
    Spec H K B P (modify g >>= f) Q := fun m h hm => hf (g m) h (hg m h hm)

theorem Spec.modify {g Q} (hg : ∀ m h, P m h → Q (.ok ⟨⟩) (g m) h) :
    Spec H K B P (modify g : Routine A μ χ PUnit) Q := fun m h hm => hg m h hm

theorem Spec.ask {e Q} (hstable : ∀ m h h', K.rely h h' → P m h → P m h') (hB : ∀ m h, P m h → B m h)
    (hact : ∀ m h x r t out, P m h → K.inv h → H e h.now x = some (r, t, out) →
      K.guar h (h.snoc out t) ∧ K.inv (h.snoc out t) ∧ B m (h.snoc out t) ∧ Q (.ok r) m (h.snoc out t)) :
    Spec H K B P (Routine.ask e : Routine A μ χ (A e)) Q := fun m h hm =>
  ⟨hB m h hm, fun h' hr hi x r t out hs => hact m h' x r t out (hstable m h h' hr hm) hi hs⟩

theorem Spec.attempt {p Q} (hp : Spec H K B P p (fun r m h => Q (.ok r) m h)) :
    Spec H K B P (attempt p : Routine A μ χ' (Except χ β)) Q := fun m h hm =>
  Task.Safe.bind (hp m h hm)

theorem Spec.mapError {p : Routine A μ χ' α} {g : χ' → χ}
    (hp : Spec H K B P p (fun r m h => Q (r.mapError g) m h)) :
    Spec H K B P (Routine.mapError g p) Q := fun m h hm => Task.Safe.bind (hp m h hm)

theorem Spec.ofExcept {r} (hQ : ∀ m h, P m h → Q r m h) :
    Spec H K B P (Routine.ofExcept r : Routine A μ χ α) Q := fun m h hm => hQ m h hm

theorem Spec.of_fact {φ p} (hp : φ → Spec H K B P p Q) :
    Spec H K B (fun m h => φ ∧ P m h) p Q := fun m h hm => hp hm.1 m h hm.2

theorem Spec.timeout {clock fate p R Q}
    (hclock : ∀ s x r t out, H clock s x = some (r, t, out) → t = s ∧ out = []) (hguar : ∀ h, K.guar h h)
    (hB : ∀ m h h', K.rely h h' → B m h → B m h') (hp : Spec H K B P p R)
    (hdone : ∀ r m h, R r m h → Q (.ok (some r)) m h) (hcut : ∀ m h, B m h → Q (.ok none) m h) :
    Spec H K B P (Routine.timeout clock fate p : Routine A μ χ (Option (Except χ' β))) Q :=
  fun m h hm =>
    Task.Safe.bind (Task.Safe.timeout hclock hguar hB (fun m r h => hdone r m h) hcut (hp m h hm))

/-! ## What is kept throughout -/

theorem keeps_pure {a} : Keeps H K P (Pure.pure a : Routine A μ χ α) := Spec.pure fun _ _ h => h

theorem keeps_throw {e} : Keeps H K P (MonadExcept.throw e : Routine A μ χ α) :=
  Spec.throw fun _ _ h => h

theorem Spec.chain {p : Routine A μ χ β} {f : β → Routine A μ χ α} (hp : Spec H K B P p (fun _ => S))
    (hf : ∀ b, Spec H K B S (f b) (fun _ => S)) : Spec H K B P (p >>= f) (fun _ => S) :=
  Spec.bind (R := fun _ => S) (hp.mono (fun _ _ h => h) (fun r _ _ h => by cases r <;> exact h)) hf

theorem keeps_bind {p : Routine A μ χ β} {f : β → Routine A μ χ α} (hp : Keeps H K P p)
    (hf : ∀ b, Keeps H K P (f b)) : Keeps H K P (p >>= f) := Spec.chain hp hf

theorem Keeps.returns {p : Routine A μ χ α} (hp : Keeps H K P p) : Returns H K P p := Spec.undropped hp

theorem Keeps.then {p : Routine A μ χ β} {f : β → Routine A μ χ α} (hp : Keeps H K P p)
    (hf : ∀ b, Returns H K P (f b)) : Returns H K P (p >>= f) := Spec.chain hp.returns hf

theorem returns_pure {a} : Returns H K P (Pure.pure a : Routine A μ χ α) := keeps_pure.returns

theorem returns_throw {e} : Returns H K P (MonadExcept.throw e : Routine A μ χ α) := keeps_throw.returns

theorem Spec.after {p : Routine A μ χ β} {f : β → Routine A μ χ α} (hp : Keeps H K P p)
    (herr : ∀ e m h, P m h → Q (.error e) m h)
    (hf : ∀ b, Spec H K (fun _ _ => True) P (f b) Q) :
    Spec H K (fun _ _ => True) P (p >>= f) Q :=
  Spec.bind (R := fun _ => P) (hp.undropped.mono (fun _ _ h => h) (fun r m h hm => by
    cases r with
    | ok _ => exact hm
    | error e => exact herr e m h hm)) hf

theorem keeps_get : Keeps H K P (MonadState.get : Routine A μ χ μ) := fun _ _ hm => hm

theorem keeps_modify {g} (hg : ∀ m h, P m h → P (g m) h) :
    Keeps H K P (modify g : Routine A μ χ PUnit) := Spec.modify hg

theorem keeps_ask {e} (hstable : ∀ m h h', K.rely h h' → P m h → P m h')
    (hact : ∀ m h x r t out, P m h → K.inv h → H e h.now x = some (r, t, out) →
      K.guar h (h.snoc out t) ∧ K.inv (h.snoc out t) ∧ P m (h.snoc out t)) :
    Keeps H K P (Routine.ask e : Routine A μ χ (A e)) :=
  Spec.ask hstable (fun _ _ h => h) fun m h x r t out hm hi hs => by
    obtain ⟨hg, hi', hq⟩ := hact m h x r t out hm hi hs
    exact ⟨hg, hi', hq, hq⟩

theorem keeps_attempt {p} (hp : Keeps H K P p) :
    Keeps H K P (attempt p : Routine A μ χ' (Except χ β)) := Spec.attempt hp

/-! ## What is asked -/

def Asks (p : E → Prop) (r : Routine A μ χ α) : Prop := ∀ m, (r m).Asks p

section

variable {p : E → Prop}

theorem asks_pure {a} : Asks p (Pure.pure a : Routine A μ χ α) := fun _ => trivial

theorem asks_throw {e} : Asks p (MonadExcept.throw e : Routine A μ χ α) := fun _ => trivial

theorem asks_ofExcept {r} : Asks p (Routine.ofExcept r : Routine A μ χ α) := fun _ => trivial

theorem asks_ask {e} (he : p e) : Asks p (Routine.ask e : Routine A μ χ (A e)) := fun _ =>
  ⟨he, fun _ => trivial⟩

theorem asks_bind {r : Routine A μ χ β} {f : β → Routine A μ χ α} (hr : Asks p r) (hf : ∀ b, Asks p (f b)) :
    Asks p (r >>= f) := by
  refine fun m => (hr m).bind fun m' b => ?_
  cases b with
  | ok b => exact hf b m'
  | error e => trivial

theorem asks_timeout {clock fate r} (hclock : p clock) (hr : Asks p r) :
    Asks p (Routine.timeout clock fate r : Routine A μ χ (Option (Except χ' α))) :=
  fun m => ((hr m).timeout hclock).bind fun _ _ => trivial

end

end Routine

end Manifold.Lib
