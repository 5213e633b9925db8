import Manifold.Lib.Machine
import Manifold.Lib.Table

/-!
# Servers with calls in flight

Each call stands at an await. The server resumes one at a time; a call may be dropped, and the outside may change the
shared state in between.
-/

namespace Manifold.Lib

structure Server (σ φ : Type) where
  shared : σ
  calls : List (Nat × φ) := []
  next : Nat := 0

inductive Turn (γ χ β : Type) where
  | begin (call : γ)
  | resume (number : Nat) (x : χ)
  | drop (number : Nat)
  | outside (b : β)

/-- What a server runs. A call that goes on reaches its next phase or ends. -/
structure Service (σ φ γ χ β ε : Type) where
  init : σ → Prop
  start : σ → γ → Option φ
  resume : σ → φ → χ → Option (σ × Option φ × List ε)
  outside : Server σ φ → β → Option (σ × List ε)
  clears : β → Bool

namespace Server

variable {σ φ : Type} (s : Server σ φ)

def phase (number : Nat) : Option φ := (Table.lookup (·.1) number s.calls).map (·.2)

def put (number : Nat) (p : φ) : List (Nat × φ) :=
  Table.update (fun c => c.1 == number) (fun _ => (number, p)) s.calls

def without (number : Nat) : List (Nat × φ) := s.calls.filter (fun c => c.1 ≠ number)

def settle (number : Nat) : Option φ → List (Nat × φ)
  | some p => s.put number p
  | none => s.without number

variable {s} in
theorem phase_of_mem (hk : Table.Keyed (·.1) s.calls) {number p} (h : (number, p) ∈ s.calls) :
    s.phase number = some p := by
  have hl := hk.lookup h
  simp only at hl
  rw [phase, hl, Option.map_some]

end Server

namespace Service

variable {σ φ γ χ β ε : Type} (S : Service σ φ γ χ β ε)

abbrev Note (ε : Type) := Option Nat × ε

def step (guard : Server σ φ → Turn γ χ β → Bool) (s : Server σ φ) (a : Turn γ χ β) :
    Option (Server σ φ × List (Note ε)) :=
  if guard s a then
    match a with
    | .begin call =>
      (S.start s.shared call).map (fun p =>
        ({ s with calls := s.calls ++ [(s.next, p)], next := s.next + 1 }, []))
    | .resume number x =>
      (s.phase number).bind (fun p =>
        (S.resume s.shared p x).map (fun r =>
          ({ s with shared := r.1, calls := s.settle number r.2.1 }, r.2.2.map (fun e => (some number, e)))))
    | .drop number => some ({ s with calls := s.without number }, [])
    | .outside b =>
      (S.outside s b).map (fun r =>
        ({ s with shared := r.1, calls := if S.clears b then [] else s.calls }, r.2.map (fun e => (none, e))))
  else none

def machine (guard : Server σ φ → Turn γ χ β → Bool) : Machine (Server σ φ) (Turn γ χ β) (Note ε) where
  init s := S.init s.shared ∧ s.calls = [] ∧ s.next = 0
  step := S.step guard

variable {S} {guard : Server σ φ → Turn γ χ β → Bool} {s s' : Server σ φ} {a : Turn γ χ β}
  {out : List (Note ε)}

inductive Steps (S : Service σ φ γ χ β ε) (guard : Server σ φ → Turn γ χ β → Bool) (s : Server σ φ) :
    Turn γ χ β → Server σ φ → List (Note ε) → Prop where
  | begin (call : γ) (p : φ) (hg : guard s (.begin call) = true) (h : S.start s.shared call = some p) :
      Steps S guard s (.begin call) { s with calls := s.calls ++ [(s.next, p)], next := s.next + 1 } []
  | resume (number : Nat) (x : χ) (p : φ) (t : σ) (q : Option φ) (out : List ε)
      (hg : guard s (.resume number x) = true) (hp : (number, p) ∈ s.calls)
      (h : S.resume s.shared p x = some (t, q, out)) :
      Steps S guard s (.resume number x) { s with shared := t, calls := s.settle number q }
        (out.map (fun e => (some number, e)))
  | drop (number : Nat) (hg : guard s (.drop number) = true) :
      Steps S guard s (.drop number) { s with calls := s.without number } []
  | outside (b : β) (t : σ) (out : List ε) (hg : guard s (.outside b) = true)
      (h : S.outside s b = some (t, out)) :
      Steps S guard s (.outside b) { s with shared := t, calls := if S.clears b then [] else s.calls }
        (out.map (fun e => (none, e)))

theorem steps_of_step (h : S.step guard s a = some (s', out)) : Steps S guard s a s' out := by
  unfold step at h
  split at h
  · rename_i hg
    cases a with
    | begin call =>
      obtain ⟨p, hp, h⟩ := Option.map_eq_some_iff.mp h
      cases h
      exact .begin call p hg hp
    | resume number x =>
      obtain ⟨p, hp, h⟩ := Option.bind_eq_some_iff.mp h
      obtain ⟨⟨t, q, out'⟩, hr, h⟩ := Option.map_eq_some_iff.mp h
      cases h
      obtain ⟨c, hc, rfl⟩ := Option.map_eq_some_iff.mp hp
      obtain ⟨hmem, hnum⟩ := Table.lookup_mem hc
      exact .resume number x c.2 t q out' hg (hnum ▸ hmem) hr
    | drop number => cases h; exact .drop number hg
    | outside b =>
      obtain ⟨⟨t, out'⟩, hr, h⟩ := Option.map_eq_some_iff.mp h
      cases h
      exact .outside b t out' hg hr
  · cases h

/-! ## A lock

A call that wants the lock waits until no call holds it. -/

def mutex (wants holds : φ → Bool) (s : Server σ φ) : Turn γ χ β → Bool
  | .resume number _ => !(s.phase number).any wants || s.calls.all (fun c => !holds c.2)
  | _ => true

/-- Many locks, each under its key: a call that wants one waits until no call holds it. -/
def locks {κ : Type} [DecidableEq κ] (wants : φ → Option κ) (holds : φ → List κ) (s : Server σ φ) : Turn γ χ β → Bool
  | .resume number _ =>
    ((s.phase number).bind wants).all (fun k => s.calls.all (fun c => !(holds c.2).contains k))
  | _ => true

theorem mutex_of_locks {κ : Type} [DecidableEq κ] {wants holds} (h : locks wants holds s a = true) (k : κ) :
    mutex (fun p => wants p == some k) (fun p => (holds p).contains k) s a = true := by
  cases a with
  | resume number x =>
    simp only [locks, mutex] at h ⊢
    cases hp : s.phase number with
    | none => simp
    | some p =>
      by_cases hw : wants p = some k
      · simpa [hp, hw] using h
      · simp [hw]
  | _ => rfl

/-! ## Invariants -/

structure Inv (I : List (Note ε) → σ → Prop) (J : List (Note ε) → σ → Nat → φ → Prop)
    (es : List (Note ε)) (s : Server σ φ) : Prop where
  shared : I es s.shared
  calls : ∀ c ∈ s.calls, J es s.shared c.1 c.2
  fresh : ∀ c ∈ s.calls, c.1 < s.next
  keyed : Table.Keyed (·.1) s.calls

variable {I : List (Note ε) → σ → Prop} {J : List (Note ε) → σ → Nat → φ → Prop} {es : List (Note ε)}

theorem mem_settle {number q c} (h : c ∈ s.settle number q) :
    (∃ p, q = some p ∧ c = (number, p)) ∨ c ∈ s.calls ∧ c.1 ≠ number := by
  cases q with
  | none =>
    obtain ⟨hc, hne⟩ := List.mem_filter.mp h
    exact .inr ⟨hc, by simpa using hne⟩
  | some p =>
    obtain ⟨c₀, hc₀, rfl⟩ := Table.mem_update.mp h
    by_cases hn : c₀.1 = number
    · simp [hn]
    · simp [hn, hc₀]

theorem mem_settle_other {number q c} (h : c ∈ s.calls) (hne : c.1 ≠ number) : c ∈ s.settle number q := by
  cases q with
  | none => exact List.mem_filter.mpr ⟨h, by simpa using hne⟩
  | some p => exact Table.mem_update.mpr ⟨c, h, by simp [hne]⟩

theorem Inv.settle (h : Inv I J es s) {number p} (hp : (number, p) ∈ s.calls) {t q es'} (hI : I es' t)
    (hq : ∀ p', q = some p' → J es' t number p') (hothers : ∀ c ∈ s.calls, c.1 ≠ number → J es' t c.1 c.2) :
    Inv I J es' { s with shared := t, calls := s.settle number q } where
  shared := hI
  calls c hc := by
    rcases mem_settle hc with ⟨p', rfl, rfl⟩ | ⟨hc, hne⟩
    · exact hq p' rfl
    · exact hothers c hc hne
  fresh c hc := by
    rcases mem_settle hc with ⟨p', rfl, rfl⟩ | ⟨hc, -⟩
    · exact h.fresh (number, p) hp
    · exact h.fresh c hc
  keyed := by
    cases q with
    | none => exact h.keyed.filter
    | some p' => exact h.keyed.update fun c hc => by simpa using (beq_iff_eq.mp hc).symm

/-- An invariant holds in every reached state if it holds at the start, and neither a call nor the outside breaks it
for a call in flight. -/
theorem Reaches.calls (h0 : ∀ t, S.init t → I [] t)
    (hbegin : ∀ es s call p, (S.machine guard).Reaches es s → Inv I J es s → guard s (.begin call) = true →
      S.start s.shared call = some p → J es s.shared s.next p)
    (hresume : ∀ es s number x p t q out, (S.machine guard).Reaches es s → Inv I J es s →
      guard s (.resume number x) = true → (number, p) ∈ s.calls → S.resume s.shared p x = some (t, q, out) →
      I (es ++ out.map (fun e => (some number, e))) t ∧
        (∀ p', q = some p' → J (es ++ out.map (fun e => (some number, e))) t number p') ∧
        ∀ c ∈ s.calls, c.1 ≠ number → J (es ++ out.map (fun e => (some number, e))) t c.1 c.2)
    (houtside : ∀ es s b t out, (S.machine guard).Reaches es s → Inv I J es s → guard s (.outside b) = true →
      S.outside s b = some (t, out) → I (es ++ out.map (fun e => (none, e))) t ∧
        (S.clears b = false → ∀ c ∈ s.calls, J (es ++ out.map (fun e => (none, e))) t c.1 c.2))
    (h : (S.machine guard).Reaches es s) : Inv I J es s := by
  refine Machine.Reaches.induct (I := Inv I J) ?_ ?_ h
  · rintro s ⟨hs, hc, -⟩
    exact ⟨h0 _ hs, by simp [hc], by simp [hc], by simp [Table.Keyed, hc]⟩
  intro es s a t out hr hi hs
  cases steps_of_step hs with
  | begin call p hg hp =>
    rw [List.append_nil]
    refine ⟨hi.shared, ?_, ?_, hi.keyed.append fun c hc => Nat.ne_of_lt (hi.fresh c hc)⟩
    · intro c hc
      rcases Lib.mem_snoc.mp hc with hc | rfl
      · exact hi.calls c hc
      · exact hbegin es s call p hr hi hg hp
    intro c hc
    rcases Lib.mem_snoc.mp hc with hc | rfl
    · exact Nat.lt_succ_of_lt (hi.fresh c hc)
    · exact Nat.lt_succ_self _
  | resume number x p t q out hg hp hnext =>
    obtain ⟨hI, hq, hothers⟩ := hresume es s number x p t q out hr hi hg hp hnext
    exact hi.settle hp hI hq hothers
  | drop number hg =>
    rw [List.append_nil]
    have hsub : ∀ c ∈ s.without number, c ∈ s.calls := fun c hc => List.mem_of_mem_filter hc
    exact ⟨hi.shared, fun c hc => hi.calls c (hsub c hc), fun c hc => hi.fresh c (hsub c hc), hi.keyed.filter⟩
  | outside b t out hg hb =>
    obtain ⟨hI, hothers⟩ := houtside es s b t out hr hi hg hb
    cases hclear : S.clears b with
    | true => exact ⟨hI, by simp, by simp, by simp [Table.Keyed]⟩
    | false =>
      refine ⟨hI, ?_, ?_, ?_⟩
      · intro c hc
        simp only [Bool.false_eq_true, if_false] at hc
        exact hothers hclear c hc
      · simpa [hclear] using hi.fresh
      · simpa [hclear] using hi.keyed

theorem Reaches.keyed (h : (S.machine guard).Reaches es s) : Table.Keyed (·.1) s.calls :=
  (Reaches.calls (I := fun _ _ => True) (J := fun _ _ _ _ => True) (fun _ _ => trivial)
    (fun _ _ _ _ _ _ _ _ => trivial)
    (fun _ _ _ _ _ _ _ _ _ _ _ _ _ => ⟨trivial, fun _ _ => trivial, fun _ _ _ => trivial⟩)
    (fun _ _ _ _ _ _ _ _ _ => ⟨trivial, fun _ _ _ => trivial⟩) h).keyed

theorem Reaches.exclusive (wants : φ → Bool) {holds}
    (hguard : ∀ s a, guard s a = true → mutex wants holds s a = true)
    (hstart : ∀ t call p, S.start t call = some p → holds p = false)
    (hresume : ∀ t p x t' q out, S.resume t p x = some (t', some q, out) → holds q = true →
      holds p = true ∨ wants p = true) (h : (S.machine guard).Reaches es s) :
    ∀ c ∈ s.calls, ∀ d ∈ s.calls, holds c.2 = true → holds d.2 = true → c.1 = d.1 := by
  refine Machine.Reaches.induct (I := fun _ s => ∀ c ∈ s.calls, ∀ d ∈ s.calls,
    holds c.2 = true → holds d.2 = true → c.1 = d.1) ?_ ?_ h
  · rintro s ⟨-, hc, -⟩
    simp [hc]
  intro es s a t out hr hi hs
  cases steps_of_step hs with
  | begin call p hg hp =>
    have hnew := hstart _ _ _ hp
    intro c hc d hd hhc hhd
    rcases List.mem_append.mp hc with hc | hc
    · rcases List.mem_append.mp hd with hd | hd
      · exact hi c hc d hd hhc hhd
      · rw [List.mem_singleton.mp hd, hnew] at hhd
        cases hhd
    · rw [List.mem_singleton.mp hc, hnew] at hhc
      cases hhc
  | resume number x p t q out hg hp hnext =>
    -- a holder that is not the resumed call excludes that the latter holds or takes the lock
    have hother : ∀ q', q = some q' → holds q' = true → ∀ c ∈ s.calls, c.1 ≠ number → holds c.2 = false := by
      rintro q' rfl hq c hc hne
      rcases hresume _ _ _ _ _ _ hnext hq with hp' | hw
      · by_contra hcon
        exact hne (hi c hc _ hp (by simpa using hcon) hp')
      have hm := hguard _ _ hg
      simp only [mutex, Server.phase_of_mem (Reaches.keyed hr) hp, Option.any_some, hw, Bool.not_true,
        Bool.false_or, List.all_eq_true, Bool.not_eq_true'] at hm
      exact hm c hc
    intro c hc d hd hhc hhd
    rcases mem_settle hc with ⟨q', hq, rfl⟩ | ⟨hc, hnc⟩
    · rcases mem_settle hd with ⟨q'', -, rfl⟩ | ⟨hd, hnd⟩
      · rfl
      · rw [hother q' hq hhc d hd hnd] at hhd
        cases hhd
    rcases mem_settle hd with ⟨q', hq, rfl⟩ | ⟨hd, hnd⟩
    · rw [hother q' hq hhd c hc hnc] at hhc
      cases hhc
    · exact hi c hc d hd hhc hhd
  | drop number hg =>
    intro c hc d hd
    exact hi c (List.mem_of_mem_filter hc) d (List.mem_of_mem_filter hd)
  | outside b t out hg hb =>
    cases hclear : S.clears b with
    | true => simp
    | false => simpa using hi

theorem Reaches.exclusive_key {κ : Type} [DecidableEq κ] {wants : φ → Option κ} {holds : φ → List κ}
    (hguard : ∀ s a, guard s a = true → locks wants holds s a = true)
    (hstart : ∀ t call p, S.start t call = some p → holds p = [])
    (hresume : ∀ t p x t' q out, S.resume t p x = some (t', some q, out) → ∀ k ∈ holds q,
      k ∈ holds p ∨ wants p = some k)
    (h : (S.machine guard).Reaches es s) {c d : Nat × φ} (hc : c ∈ s.calls) (hd : d ∈ s.calls) {k : κ}
    (hkc : k ∈ holds c.2) (hkd : k ∈ holds d.2) : c.1 = d.1 := by
  refine Reaches.exclusive (fun p => wants p == some k) (fun s a hg => mutex_of_locks (hguard s a hg) k) ?_ ?_ h
    c hc d hd (by simpa using hkc) (by simpa using hkd)
  · intro t call p hp
    simp [hstart t call p hp]
  intro t p x t' q out hr hq
  rcases hresume t p x t' q out hr k (by simpa using hq) with hk | hk
  · exact .inl (by simpa using hk)
  · exact .inr (by simp [hk])

end Service

end Manifold.Lib
