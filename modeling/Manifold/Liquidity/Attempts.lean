import Manifold.Lib.Trace
import Manifold.Liquidity.Daemon

/-!
# Authorised attempts

A send is authorised once by the creation of its operation, and again only by an operator.
-/

namespace Manifold.Liquidity

inductive Auth where
  | initial
  /-- An attempt holds the fence, and it may have sent. -/
  | fenced
  | failed
  | released
deriving DecidableEq

def Auth.free : Auth → Prop
  | .initial | .released => True
  | _ => False

def Auth.next (o : OperationId) (a : Auth) : Event → Auth
  | .fenced o' _ => if o' = o then .fenced else a
  | .submitRefused o' => if o' = o ∧ a = .fenced then .failed else a
  | .resolved o' .safeToRetry => if o' = o then .released else a
  | .resolved o' (.failed _) => if o' = o ∧ a = .fenced then .failed else a
  | .retried o' => if o' = o ∧ a = .failed then .released else a
  | _ => a

def Auth.through (o : OperationId) (a : Auth) (es : List Note) : Auth := es.foldl (fun a n => a.next o n.2) a

def auth (o : OperationId) (es : List Note) : Auth := Auth.initial.through o es

def ProvesUnsent (o : OperationId) (ev : Event) : Prop :=
  ev = .submitRefused o ∨ ∃ reason, ev = .resolved o (.failed reason)

/-- What allows another attempt: the operator's `safe_to_retry`, or a proof that nothing was sent followed
by an accepted retry. -/
def Reauthorised (o : OperationId) (es : List Note) : Prop :=
  (∃ caller, (caller, .resolved o .safeToRetry) ∈ es) ∨
    ∃ es₁ n es₂ caller, es = es₁ ++ n :: es₂ ∧ ProvesUnsent o n.2 ∧ (caller, .retried o) ∈ es₂

def LastNote (es : List Note) (caller : Caller) (ev : Event) : Prop :=
  ∃ es₁ es₂, es = es₁ ++ (caller, ev) :: es₂ ∧ ∀ n ∈ es₂, n.1 ≠ caller

def FenceWritten (db db' : Db) (o : OperationId) : Option ItemId → Prop
  | some i =>
    (∃ r, db.operation o = some r ∧ r.itemId = some i ∧ r.status = .pending) ∧ db.itemActive i = true ∧
      ∃ r, db'.operation o = some r ∧ r.status = .inDoubt
  | none =>
    db.operation o = none ∧ ∃ r, db'.operation o = some r ∧ r.status = .inDoubt ∧ r.operationType = .withdrawal

def Db.intentOf (db : Db) (p : PreparedWithdrawal) : Option String :=
  (db.operation p.operationId).bind (·.withdrawalIntentId)

/-! ## Reading the notes -/

variable {o : OperationId} {a : Auth} {es out : List Note}

theorem Auth.through_append : a.through o (es ++ out) = (a.through o es).through o out := List.foldl_append

theorem auth_append : auth o (es ++ out) = (auth o es).through o out := Auth.through_append

theorem Auth.next_ne_fenced {ev} (ha : a ≠ .fenced) (h : ∀ it, ev ≠ .fenced o it) : a.next o ev ≠ .fenced := by
  cases ev with
  | fenced o' it =>
    have hne : o' ≠ o := fun he => h it (by rw [he])
    simpa [next, hne] using ha
  | submitRefused o' => simp only [next, ha, and_false, if_false, ne_eq, not_false_eq_true]
  | resolved o' outcome =>
    cases outcome with
    | completed => exact ha
    | failed => simp only [next, ha, and_false, if_false, ne_eq, not_false_eq_true]
    | safeToRetry => simp only [next]; split <;> simp [ha]
  | retried o' => simp only [next]; split <;> simp [ha]
  | _ => exact ha

theorem Auth.through_ne_fenced (ha : a ≠ .fenced) (h : ∀ n ∈ out, ∀ it, n.2 ≠ .fenced o it) :
    a.through o out ≠ .fenced := by
  induction out generalizing a with
  | nil => exact ha
  | cons n out ih =>
    simp only [List.forall_mem_cons] at h
    exact ih (next_ne_fenced ha h.1) h.2

theorem Auth.next_of_free {ev} (ha : a.free) (hf : ∀ it, ev ≠ .fenced o it)
    (hr : ∀ outcome, ev ≠ .resolved o outcome) : a.next o ev = a := by
  have hnf : a ≠ .fenced := by rintro rfl; exact ha
  have hnd : a ≠ .failed := by rintro rfl; exact ha
  cases ev with
  | fenced o' it =>
    have hne : o' ≠ o := fun he => hf it (by rw [he])
    simp [next, hne]
  | submitRefused o' => simp [next, hnf]
  | resolved o' outcome =>
    have hne : o' ≠ o := fun he => hr outcome (by rw [he])
    cases outcome <;> simp [next, hne]
  | retried o' => simp [next, hnd]
  | _ => rfl

theorem Auth.through_of_free (ha : a.free)
    (h : ∀ n ∈ out, (∀ it, n.2 ≠ .fenced o it) ∧ ∀ outcome, n.2 ≠ .resolved o outcome) : a.through o out = a := by
  induction out with
  | nil => rfl
  | cons n out ih =>
    simp only [List.forall_mem_cons] at h
    rw [through, List.foldl_cons, next_of_free ha h.1.1 h.1.2]
    exact ih h.2

theorem Auth.through_retried (ha : a ≠ .fenced) (h : ∀ n ∈ out, ∃ o', n.2 = .retried o')
    (ho : ∃ n ∈ out, n.2 = .retried o) : (a.through o out).free := by
  induction out generalizing a with
  | nil => simp at ho
  | cons n out ih =>
    simp only [List.forall_mem_cons] at h
    obtain ⟨o', ho'⟩ := h.1
    rw [through, List.foldl_cons]
    by_cases he : o' = o
    · have hfree : (a.next o n.2).free := by
        rw [ho', he]
        cases a <;> simp_all [next, free]
      have hrest : (a.next o n.2).through o out = a.next o n.2 := through_of_free hfree fun m hm => by
        obtain ⟨o₁, ho₁⟩ := h.2 m hm
        rw [ho₁]
        exact ⟨by simp, by simp⟩
      show ((a.next o n.2).through o out).free
      rw [hrest]
      exact hfree
    have hsame : a.next o n.2 = a := by rw [ho']; simp [next, he]
    rw [hsame]
    refine ih ha h.2 ?_
    obtain ⟨m, hm, hmo⟩ := ho
    rcases List.mem_cons.mp hm with rfl | hm
    · rw [ho'] at hmo
      cases hmo
      exact absurd rfl he
    · exact ⟨m, hm, hmo⟩

theorem Reauthorised.append (h : Reauthorised o es) : Reauthorised o (es ++ out) := by
  rcases h with ⟨c, hc⟩ | ⟨es₁, n, es₂, c, rfl, hp, hr⟩
  · exact .inl ⟨c, List.mem_append_left _ hc⟩
  · exact .inr ⟨es₁, n, es₂ ++ out, c, by simp, hp, List.mem_append_left _ hr⟩

def AfterFence (o : OperationId) (es : List Note) : Auth → Prop
  | .initial => False
  | .fenced => True
  | .failed => ∃ n ∈ es, ProvesUnsent o n.2
  | .released => Reauthorised o es

theorem AfterFence.append (h : AfterFence o es a) : AfterFence o (es ++ out) a := by
  cases a with
  | initial => exact h
  | fenced => trivial
  | failed =>
    obtain ⟨n, hn, hp⟩ := h
    exact ⟨n, List.mem_append_left _ hn, hp⟩
  | released => exact Reauthorised.append h

theorem AfterFence.next {n} (h : AfterFence o es a) : AfterFence o (es ++ [n]) (a.next o n.2) := by
  obtain ⟨c, ev⟩ := n
  have hlast : ∀ ev, (c, ev) ∈ es ++ [(c, ev)] := fun ev => List.mem_append_right _ List.mem_cons_self
  cases ev with
  | fenced o' it =>
    simp only [Auth.next]
    split
    · trivial
    · exact h.append
  | submitRefused o' =>
    simp only [Auth.next]
    split
    · rename_i hc
      exact ⟨_, hlast _, .inl (by rw [hc.1])⟩
    · exact h.append
  | resolved o' outcome =>
    cases outcome with
    | completed => exact h.append
    | failed reason =>
      simp only [Auth.next]
      split
      · rename_i hc
        exact ⟨_, hlast _, .inr ⟨reason, by rw [hc.1]⟩⟩
      · exact h.append
    | safeToRetry =>
      simp only [Auth.next]
      split
      · rename_i hc
        exact .inl ⟨c, by rw [← hc]; exact hlast _⟩
      · exact h.append
  | retried o' =>
    simp only [Auth.next]
    split
    · rename_i hc
      -- the proof that nothing was sent came before this retry
      rw [hc.2] at h
      obtain ⟨n, hn, hp⟩ := h
      obtain ⟨es₁, es₂, rfl⟩ := List.append_of_mem hn
      exact .inr ⟨es₁, n, es₂ ++ [(c, .retried o')], c, by simp, hp, by rw [← hc.1]; simp⟩
    · exact h.append
  | _ => exact h.append

theorem afterFence (es : List Note) : AfterFence o es (Auth.fenced.through o es) := by
  induction es using List.reverseRecOn with
  | nil => trivial
  | append_singleton es n ih =>
    rw [Auth.through_append]
    exact ih.next

theorem reauthorised_of_free (h : (Auth.fenced.through o es).free) : Reauthorised o es := by
  have hafter := afterFence (o := o) es
  cases ha : Auth.fenced.through o es with
  | initial => rw [ha] at hafter; exact hafter.elim
  | fenced | failed => rw [ha] at h; exact h.elim
  | released => rw [ha] at hafter; exact hafter

/-! ## The last note of a caller -/

variable {caller : Caller} {ev : Event}

theorem LastNote.append (h : LastNote es caller ev) (hout : ∀ n ∈ out, n.1 ≠ caller) :
    LastNote (es ++ out) caller ev := by
  obtain ⟨es₁, es₂, rfl, hes⟩ := h
  refine ⟨es₁, es₂ ++ out, by simp, fun n hn => ?_⟩
  rcases List.mem_append.mp hn with hn | hn
  · exact hes n hn
  · exact hout n hn

end Manifold.Liquidity
