import Manifold.Liquidity.Attempts
import Manifold.Liquidity.Lemmas.Crowd
import Manifold.Liquidity.Lemmas.Events

/-!
# One attempt at a time
-/

namespace Manifold.Liquidity

open Lib

def Attempt.operation : Attempt → Option OperationId
  | .fenced p | .left p => some p.operationId
  | .unsent o => some o
  | _ => Option.none

def sentType : Option FundingKind → OperationType
  | some kind => kind.operationType
  | none => .withdrawal

theorem sentType_inj {a b} (h : sentType a = sentType b) : a = b := by
  rcases a with _ | (_ | _) <;> rcases b with _ | (_ | _) <;> first | rfl | cases h

/-! ## What the protocol allows -/

section allows

variable {l : Stage}

theorem Stage.allows.submitPrepared {p} (h : l.allows (.submitPrepared p)) : l.attempt = .fenced p := by
  unfold allows at h
  split at h
  · cases h; assumption
  · cases h
  · exact h.elim

theorem Stage.allows.submitResponse {p} (h : l.allows (.submitResponse p)) : l.attempt = .left p := by
  unfold allows at h
  split at h
  · cases h
  · cases h; assumption
  · exact h.elim

theorem Stage.allows.mayAsk {e} (h : l.allows e) (h₁ : ∀ p, e ≠ .submitPrepared p)
    (h₂ : ∀ p, e ≠ .submitResponse p) : l.mayAsk e := by
  unfold allows at h
  split at h
  · exact absurd h (h₁ _)
  · exact absurd h (h₂ _)
  · exact h

end allows

/-! ## How a send moves -/

inductive Moves (w w' : World) (out : List Event) (e : Ask) (l l' : Stage) : Prop where
  | keeps (hg : l'.grant = l.grant ∨ l'.grant = none)
      (ha : l'.attempt = l.attempt ∨ l'.attempt.operation = none)
      (hno : ∀ o it, .fenced o it ∉ out)
  | granted (g : Grant) (hw : l.worker.isSome = true) (hg : l'.grant = some g) (ha : l'.attempt = l.attempt)
      (hrow : ∃ r, w'.db.operation g.operationId = some r ∧ r.operationType = sentType l.worker)
      (hp : g.pending = true → ∀ r, w.db.operation g.operationId = some r → r.status = .pending)
      (hno : ∀ o it, .fenced o it ∉ out)
  | unprepared (o : OperationId) (hg : l.grant = some ⟨o, true⟩) (hg' : l'.grant = l.grant)
      (ha : l'.attempt = .unsent o) (hno : ∀ o it, .fenced o it ∉ out)
  | fencedFunding (p : PreparedWithdrawal) (i : ItemId) (hg : l.grant = some ⟨p.operationId, true⟩)
      (hg' : l'.grant = none) (ha : l'.attempt = .fenced p) (hout : out = [.fenced p.operationId (some i)])
  | fencedWithdrawal (p : PreparedWithdrawal) (hw : l.worker = none) (hg : l'.grant = l.grant)
      (ha : l'.attempt = .fenced p) (row : WalletOperation) (hrow : w'.db.operation p.operationId = some row)
      (htype : row.operationType = .withdrawal) (hnew : w.db.operation p.operationId = none)
      (hout : out = [.operationCreated row, .fenced p.operationId none])
  | left (p : PreparedWithdrawal) (ha : l.attempt = .fenced p) (ha' : l'.attempt = .left p)
      (hg : l'.grant = l.grant) (hout : out = [.submitted p])
  | refused (p : PreparedWithdrawal) (ha : l.attempt = .left p) (ha' : l'.attempt = .unsent p.operationId)
      (hg : l'.grant = l.grant) (hout : out = [.submitRefused p.operationId])

section

variable {w w' : World} {out : List Event} {e : Ask} {l l' : Stage} {o : OperationId} {p : PreparedWithdrawal}

/-- A call creates the operation and fences it at once. -/
def NewSend (w w' : World) (l : Stage) (o : OperationId) : Prop :=
  l.worker = none ∧ w.db.operation o = none ∧ ∃ row, w'.db.operation o = some row ∧ row.operationType = .withdrawal

theorem Moves.fences {it} (h : Moves w w' out e l l') (hev : .fenced o it ∈ out) :
    out = [.fenced o it] ∧ l.grant = some ⟨o, true⟩ ∨
      ∃ row, out = [.operationCreated row, .fenced o it] ∧ NewSend w w' l o := by
  cases h with
  | keeps _ _ hno | granted _ _ _ _ _ _ hno | unprepared _ _ _ _ hno => exact absurd hev (hno _ _)
  | left p _ _ _ hout | refused p _ _ _ hout => simp [hout] at hev
  | fencedFunding p i hg _ _ hout =>
    obtain ⟨rfl, rfl⟩ : o = p.operationId ∧ it = some i := by simpa [hout] using hev
    exact .inl ⟨hout, hg⟩
  | fencedWithdrawal p hw _ _ row hrow htype hnew hout =>
    obtain ⟨rfl, rfl⟩ : o = p.operationId ∧ it = none := by simpa [hout] using hev
    exact .inr ⟨row, hout, hw, hnew, row, hrow, htype⟩

theorem Moves.grants {g} (h : Moves w w' out e l l') (hg : l'.grant = some g) :
    l.grant = some g ∧ (l.worker = none ∨ ∀ o it, .fenced o it ∉ out) ∨
      (l.worker.isSome = true ∧ ∃ r, w'.db.operation g.operationId = some r ∧ r.operationType = sentType l.worker) ∧
        (g.pending = true → ∀ r, w.db.operation g.operationId = some r → r.status = .pending) ∧
        ∀ o it, .fenced o it ∉ out := by
  cases h with
  | keeps hg' _ hno =>
    rcases hg' with hg' | hg'
    · exact .inl ⟨hg' ▸ hg, .inr hno⟩
    · simp [hg'] at hg
  | granted g' hw hg' _ hrow hp hno =>
    rw [hg'] at hg
    cases hg
    exact .inr ⟨⟨hw, hrow⟩, hp, hno⟩
  | fencedFunding _ _ _ hg' => simp [hg'] at hg
  | fencedWithdrawal _ hw hg' => exact .inl ⟨hg' ▸ hg, .inl hw⟩
  | unprepared _ _ hg' _ hno => exact .inl ⟨hg' ▸ hg, .inr hno⟩
  | left _ _ _ hg' hout | refused _ _ _ hg' hout => exact .inl ⟨hg' ▸ hg, .inr (by simp [hout])⟩

theorem Moves.attempts (h : Moves w w' out e l l') (ho : l'.attempt.operation = some o) :
    l.attempt.operation = some o ∨ l.grant = some ⟨o, true⟩ ∨ NewSend w w' l o := by
  cases h with
  | keeps _ ha =>
    rcases ha with ha | ha
    · exact .inl (ha ▸ ho)
    · simp [ha] at ho
  | granted _ _ _ ha => exact .inl (ha ▸ ho)
  | unprepared _ hg _ ha | fencedFunding _ _ hg _ ha =>
    rw [ha] at ho
    cases ho
    exact .inr (.inl hg)
  | fencedWithdrawal p hw _ ha row hrow htype hnew =>
    rw [ha] at ho
    cases ho
    exact .inr (.inr ⟨hw, hnew, row, hrow, htype⟩)
  | left p ha ha' | refused p ha ha' =>
    rw [ha'] at ho
    rw [ha]
    exact .inl ho

theorem Moves.unsent (h : Moves w w' out e l l') (ho : l'.attempt = .unsent o) :
    (l.attempt = .unsent o ∨ l.grant = some ⟨o, true⟩) ∧ (∀ o it, .fenced o it ∉ out) ∨ out = [.submitRefused o] := by
  cases h with
  | keeps _ ha hno =>
    rcases ha with ha | ha
    · exact .inl ⟨.inl (ha ▸ ho), hno⟩
    · simp [ho, Attempt.operation] at ha
  | granted _ _ _ ha _ _ hno => exact .inl ⟨.inl (ha ▸ ho), hno⟩
  | unprepared _ hg _ ha hno =>
    cases ho.symm.trans ha
    exact .inl ⟨.inr hg, hno⟩
  | fencedFunding _ _ _ _ ha | fencedWithdrawal _ _ _ ha | left _ _ ha => cases ho.symm.trans ha
  | refused _ _ ha _ hout =>
    cases ho.symm.trans ha
    exact .inr hout

theorem Moves.fence (h : Moves w w' out e l l') (hp : l'.attempt = .fenced p) :
    l'.attempt = l.attempt ∨ ∃ pre it, out = pre ++ [.fenced p.operationId it] := by
  cases h with
  | keeps _ ha =>
    rcases ha with ha | ha
    · exact .inl ha
    · simp [hp, Attempt.operation] at ha
  | granted _ _ _ ha => exact .inl ha
  | fencedFunding _ i _ _ ha hout =>
    cases hp.symm.trans ha
    exact .inr ⟨[], some i, hout⟩
  | fencedWithdrawal _ _ _ ha row _ _ _ hout =>
    cases hp.symm.trans ha
    exact .inr ⟨[.operationCreated row], none, hout⟩
  | unprepared _ _ _ ha | left _ _ ha | refused _ _ ha => cases hp.symm.trans ha

end

section moves

variable {w w' : World} {x : Outside} {out : List Event} {l : Stage}

theorem moves_ensure {row i r} (hk : Table.Keyed (·.operationId) w.db.operations)
    (ha : l.mayAsk (.ensureWalletOperation row i))
    (hs : handler (.ensureWalletOperation row i) w x = some (r, w', out)) :
    Moves w w' out (.ensureWalletOperation row i) l (l.after (.ensureWalletOperation row i) r) := by
  have hno : ∀ o it, .fenced o it ∉ out := fun o it hev => by
    rcases (handler_emits hk hs _ hev).2 with ⟨_, _, _, -, he, -⟩ | ⟨_, _, _, _, -, he, -⟩ <;> cases he
  obtain ⟨kind, s, ⟨hworker, -⟩, -, hrow⟩ := ha
  have hw : l.worker.isSome = true := by rw [hworker]; rfl
  have htype : row.operationType = sentType l.worker := by rw [hworker]; exact hrow.operationType
  simp only [handler] at hs
  rcases World.run_cases hs with ⟨-, -, rfl⟩ | ⟨rfl, -, hr⟩
  · exact .keeps (.inr rfl) (.inl rfl) hno
  rcases Db.ensureWalletOperation_cases w.db { row with updatedAt := x.now } i with
    h | ⟨e, h⟩ | ⟨r₀, h, -, hr₀⟩ | ⟨db', h, -, hins⟩
  · simp only [Db.runEnsure, h] at hr
    subst hr
    exact .keeps (.inr rfl) (.inl rfl) hno
  · simp only [Db.runEnsure, h] at hr
    subst hr
    exact .keeps (.inr rfl) (.inl rfl) hno
  · simp only [Db.runEnsure, h] at hr ⊢
    subst hr
    have hp := List.find?_some hr₀
    simp only [Bool.and_eq_true, decide_eq_true_eq] at hp
    have hop := Db.operation_of_mem hk (List.mem_of_find?_eq_some hr₀)
    refine .granted _ hw rfl rfl ⟨r₀, hop, hp.1.trans htype⟩ (fun hpend r hr => ?_) hno
    have : r = r₀ := Option.some.inj (hr.symm.trans hop)
    rw [this]
    simpa using hpend
  simp only [Db.runEnsure, h] at hr ⊢
  subst hr
  have hop := Db.operation_of_insert hins
  refine .granted ⟨row.operationId, true⟩ hw rfl rfl ⟨_, hop, htype⟩ (fun _ r hr => ?_) hno
  rw [show w.db.operation row.operationId = none from (Db.insertWalletOperation_eq hins).2.1] at hr
  cases hr

theorem moves_claim {o i failure r} (ha : l.mayAsk (.claimFundingSubmission o i failure))
    (hs : handler (.claimFundingSubmission o i failure) w x = some (r, w', out)) :
    Moves w w' out (.claimFundingSubmission o i failure) l (l.after (.claimFundingSubmission o i failure) r) := by
  obtain ⟨p, s, hatt, rfl, -, -, -, -, -, hgrant, -⟩ := ha
  have hafter : l.after (.claimFundingSubmission p.operationId i failure) r =
      { l with attempt := if applied r then .fenced p else .none, grant := if applied r then none else l.grant } := by
    simp only [Stage.after, Attempt.fence, hatt]
  rw [hafter]
  simp only [handler] at hs
  rcases World.run_cases hs with ⟨-, rfl, rfl⟩ | ⟨-, hout, hr⟩
  · exact .keeps (.inl rfl) (.inr rfl) (by simp)
  simp only [Db.runClaim] at hout hr
  subst hr
  cases hb : (w.db.claimFundingSubmission p.operationId i { failure with occurredAt := x.now } x.now).1 with
  | true =>
    rw [hb] at hout
    exact .fencedFunding p i hgrant rfl rfl hout
  | false =>
    rw [hb] at hout
    exact .keeps (.inl rfl) (.inr rfl) (by simp [hout])

theorem moves_admitted {config request feeRate o spendable r}
    (ha : l.mayAsk (.admitWithdrawal config request feeRate o spendable))
    (hs : handler (.admitWithdrawal config request feeRate o spendable) w x = some (r, w', out)) :
    Moves w w' out (.admitWithdrawal config request feeRate o spendable) l
      (l.after (.admitWithdrawal config request feeRate o spendable) r) := by
  obtain ⟨hworker, -, p, hatt, rfl, -⟩ := ha
  have hafter : l.after (.admitWithdrawal config request feeRate p.operationId spendable) r =
      { l with attempt := if admitted r then .fenced p else .none } := by
    simp only [Stage.after, Attempt.fence, hatt]
  rw [hafter]
  simp only [handler] at hs
  rcases World.run_cases hs with ⟨-, rfl, rfl⟩ | ⟨rfl, rfl, hr⟩
  · exact .keeps (.inl rfl) (.inr rfl) (by simp)
  rcases Db.admitWithdrawal_cases w.db config request feeRate p.operationId spendable x.now with
    ⟨e, h⟩ | ⟨r₀, h⟩ | ⟨db', h, -, hins⟩
  · simp only [Db.runAdmitWithdrawal, h] at hr ⊢
    subst hr
    exact .keeps (.inl rfl) (.inr rfl) (by simp)
  · simp only [Db.runAdmitWithdrawal, h] at hr ⊢
    subst hr
    exact .keeps (.inl rfl) (.inr rfl) (by simp)
  obtain ⟨-, hnew, -⟩ := Db.insertWalletOperation_eq hins
  simp only [Db.runAdmitWithdrawal, h] at hr ⊢
  subst hr
  exact .fencedWithdrawal p hworker rfl rfl _ (Db.operation_of_insert hins) rfl
    (Db.stamp_operation_none.mp hnew) rfl

theorem moves_prepare {p r} (ha : l.mayAsk (.prepareWithdrawal p))
    (hs : handler (.prepareWithdrawal p) w x = some (r, w', out)) :
    Moves w w' out (.prepareWithdrawal p) l (l.after (.prepareWithdrawal p) r) := by
  have hno : ∀ o it, .fenced o it ∉ out := by
    simp only [handler] at hs
    split at hs
    · cases hs; simp
    · cases hs; split <;> simp
  cases r with
  | ok u => exact .keeps (.inl rfl) (.inr rfl) hno
  | error detail =>
    rcases ha with hworker | ⟨kind, s, ⟨hworker, -⟩, hgrant, -⟩
    · refine .keeps (.inl rfl) (.inr ?_) hno
      simp [Stage.after, preparedAttempt, hworker, Attempt.operation]
    · refine .unprepared p.operationId hgrant rfl ?_ hno
      simp [Stage.after, preparedAttempt, hworker]

theorem moves_submitResponse {p r} (ha : l.attempt = .left p)
    (hs : handler (.submitResponse p) w x = some (r, w', out)) :
    Moves w w' out (.submitResponse p) l (l.after (.submitResponse p) r) := by
  simp only [handler] at hs
  split at hs
  · split at hs
    · cases hs
      exact .refused p ha rfl rfl rfl
    split at hs
    · cases hs
    · cases hs
      exact .refused p ha rfl rfl rfl
  rename_i hne
  cases hs
  refine .keeps (.inl rfl) (.inr ?_) (by simp)
  cases hx : x.submit with
  | failed detail => exact absurd hx (hne detail)
  | submitted txid => rfl
  | inDoubt detail => rfl

theorem moves {e r} (hk : Table.Keyed (·.operationId) w.db.operations) (ha : l.allows e)
    (hs : handler e w x = some (r, w', out)) : Moves w w' out e l (l.after e r) := by
  have hkeep : (∀ o i failure, e ≠ .claimFundingSubmission o i failure) →
      (∀ config request feeRate o spendable, e ≠ .admitWithdrawal config request feeRate o spendable) →
      ∀ o it, .fenced o it ∉ out := fun h₁ h₂ o it hev => by
    rcases (handler_emits hk hs _ hev).2 with ⟨_, _, _, -, he, -⟩ | ⟨_, _, _, _, -, he, -⟩
    · exact h₁ _ _ _ he
    · exact h₂ _ _ _ _ _ he
  cases e with
  | ensureWalletOperation row i => exact moves_ensure hk (ha.mayAsk (by simp) (by simp)) hs
  | claimFundingSubmission o i failure => exact moves_claim (ha.mayAsk (by simp) (by simp)) hs
  | admitWithdrawal => exact moves_admitted (ha.mayAsk (by simp) (by simp)) hs
  | prepareWithdrawal p => exact moves_prepare (ha.mayAsk (by simp) (by simp)) hs
  | submitPrepared p =>
    cases hs
    exact .left p ha.submitPrepared rfl rfl rfl
  | submitResponse p => exact moves_submitResponse ha.submitResponse hs
  | activeItems kind => exact .keeps (.inr rfl) (.inl rfl) (hkeep (by simp) (by simp))
  | markItemRunning i =>
    refine .keeps ?_ ?_ (hkeep (by simp) (by simp)) <;> simp only [Stage.after, Stage.take] <;> split <;>
      simp [Attempt.operation]
  | updateItemStep | compareAndSetItemStep =>
    refine .keeps (.inl ?_) (.inl ?_) (hkeep (by simp) (by simp)) <;> simp only [Stage.after] <;> split <;> rfl
  | setItemFailure i status failure =>
    refine .keeps ?_ (.inl ?_) (hkeep (by simp) (by simp)) <;> simp only [Stage.after, Stage.endTurn] <;>
      split <;> simp
  | _ => exact .keeps (.inl rfl) (.inl rfl) (hkeep (by simp) (by simp))

end moves

end Manifold.Liquidity
