import Manifold.Liquidity.Lemmas.Frames

/-!
# What a step writes to the wallet operations
-/

namespace Manifold.Liquidity

open Lib

variable {w w' : World} {x : Outside} {out : List Event}

/-- What no change of a row touches. The amount of an incoming deposit is learned from the chain. -/
structure Kept (r r' : WalletOperation) : Prop where
  operationId : r'.operationId = r.operationId
  operationType : r'.operationType = r.operationType
  itemId : r'.itemId = r.itemId
  federationId : r'.federationId = r.federationId
  intent : r'.withdrawalIntentId = r.withdrawalIntentId
  address : r'.address = r.address
  amount : r.amount ≠ 0 → r'.amount = r.amount

theorem Kept.refl (r : WalletOperation) : Kept r r := ⟨rfl, rfl, rfl, rfl, rfl, rfl, fun _ => rfl⟩

def SameTicks (r r' : WalletOperation) : Prop :=
  r'.settledTick = r.settledTick ∧ r'.releasedTick = r.releasedTick

def SameOutput (r r' : WalletOperation) : Prop := r'.txid = r.txid ∧ r'.txVout = r.txVout

def Db.leavesOutput (db : Db) (c : ChainOutputEvidence) (id : OperationId) : Bool :=
  (db.operations.find? (fun r => r.txid = some c.txid && r.txVout = some c.vout)).all (fun r => r.operationId = id)

/-- The row records an output that agrees with what it had recorded and that no other row has. -/
def ClaimsOutput (db : Db) (r r' : WalletOperation) : Prop :=
  ∃ c : ChainOutputEvidence, r'.txid = some c.txid ∧ r'.txVout = some c.vout ∧
    (∀ txid, r.txid = some txid → txid = c.txid) ∧ (∀ vout, r.txVout = some vout → vout = c.vout) ∧
    db.leavesOutput c r.operationId = true

def Ask.Accepted (db : Db) : Ask → Timestamp → Prop
  | .retryFundingStep request, now => (db.retryFundingStep request now).1.status = .accepted
  | .cancelAllocation federationId reason, now => (db.cancelAllocation federationId reason now).1.status = .accepted
  | _, _ => False

def ManualReviewOutcome.status : ManualReviewOutcome → OperationStatus
  | .completed _ => .completed
  | .failed _ => .failed
  | .safeToRetry => .pending

def settledNow (db : Db) (r : WalletOperation) (status : OperationStatus) : Option Nat :=
  if status = .completed then r.settledTick.or (some db.tick) else r.settledTick

inductive RowChange (db : Db) (e : Ask) (out : List Event) (r r' : WalletOperation) : Prop where
  | same (h : r' = r)
  | broadcast (hk : Kept r r') (hs : r.status.open = true) (h' : r'.status = .broadcast) (ht : SameTicks r r')
      (hx : r'.txVout = r.txVout ∧ (r.txVout ≠ none → r'.txid = r.txid))
  | inDoubt (hk : Kept r r') (hs : r.status.unsent = true) (h' : r'.status = .inDoubt) (ht : SameTicks r r')
      (hx : SameOutput r r')
  | failed (detail : String) (he : e = .markOperationFailed r.operationId detail) (hout : out = [])
      (hk : Kept r r') (hs : r.status.unsent = true) (h' : r'.status = .failed) (ht : SameTicks r r')
      (hx : SameOutput r r')
  | fenced (itemId : ItemId) (hout : out = [.fenced r.operationId (some itemId)])
      (hi : r.itemId = some itemId) (ha : db.itemActive itemId = true) (hk : Kept r r')
      (hs : r.status = .pending) (h' : r'.status = .inDoubt) (ht : SameTicks r r') (hx : SameOutput r r')
  | escalated (hk : Kept r r') (hs : r.status = .inDoubt) (h' : r'.status = .manualReviewRequired)
      (ht : SameTicks r r') (hx : SameOutput r r')
  | resolved (outcome : ManualReviewOutcome) (hout : out = [.resolved r.operationId outcome])
      (he : e = .resolveReview r.operationId outcome ∨
        ∃ txid reason, outcome = .completed txid ∧ e = .completeReviewWithoutEvidence r.operationId txid reason)
      (hk : Kept r r') (hs : r.status = .manualReviewRequired) (h' : r'.status = outcome.status)
      (ht : r'.settledTick = settledNow db r outcome.status ∧ r'.releasedTick = r.releasedTick)
      (hx : r.txVout = none → r'.txVout = none)
  | retried (hout : .retried r.operationId ∈ out) (hall : ∀ ev ∈ out, ∃ o, ev = .retried o) (hk : Kept r r')
      (hs : r.status = .failed) (h' : r'.status = .pending)
      (ht : r'.settledTick = none ∧ r'.releasedTick = none) (hx : r'.txVout = none)
      (ha : ∃ now, e.Accepted db now)
  | cancelled (hk : Kept r r') (hs : r.status = .pending ∨ r.status = .failed) (h' : r'.status = .cancelled)
      (ht : SameTicks r r') (hx : SameOutput r r') (ha : ∃ now, e.Accepted db now)
  | evidence (outputs : List ChainOutputEvidence) (required : Nat)
      (he : e = .claimChainEvidence r.operationId outputs required) (hk : Kept r r')
      (hs : r.status.open = true)
      (h' : r'.status = .broadcast ∨ r'.status = .confirmed ∨ r'.status = .completed)
      (ht : r'.settledTick = settledNow db r r'.status ∧ r'.releasedTick = r.releasedTick)
      (hx : ClaimsOutput db r r')
  | stamped (hr : r.releasedTick = none) (hs : r.settledTick.isSome = true)
      (h' : r' = { r with releasedTick := some db.tick })

inductive NewRow (db : Db) (e : Ask) (out : List Event) (row : WalletOperation) : Prop where
  | funding (itemId : ItemId) (row₀ : WalletOperation) (now : Timestamp)
      (he : e = .ensureWalletOperation row₀ itemId) (hrow : row = { row₀ with updatedAt := now })
      (hout : out = [.operationCreated row, .ensured itemId row.operationId])
      (ha : db.itemActive itemId = true) (hnew : db.operation row.operationId = none)
      (hone : ∀ r ∈ db.operations, row.itemId.isSome = true →
        ¬ (r.operationType = row.operationType ∧ r.itemId = row.itemId))
  | withdrawal (config : SetupConfig) (request : Db.WithdrawalRequest) (feeRate : Nat) (spendable : Sats)
      (now : Timestamp) (he : e = .admitWithdrawal config request feeRate row.operationId spendable)
      (hrow : row = Db.newWithdrawal request feeRate row.operationId now)
      (hout : out = [.operationCreated row, .fenced row.operationId none])
      (hnew : db.operation row.operationId = none)
      (hintent : db.operationForIntent request.withdrawalIntentId = none)
  | deposit (row₀ : WalletOperation) (now : Timestamp) (he : e = .insertWalletOperation row₀)
      (hrow : row = { row₀ with updatedAt := now }) (hout : out = [.operationCreated row])
      (hnew : db.operation row.operationId = none)

theorem NewRow.fresh {db e row} (h : NewRow db e out row) : db.operation row.operationId = none := by
  cases h <;> assumption

theorem RowChange.kept {db e r r'} (h : RowChange db e out r r') : Kept r r' := by
  cases h with
  | same h => rw [h]; exact Kept.refl r
  | stamped _ _ h => rw [h]; exact ⟨rfl, rfl, rfl, rfl, rfl, rfl, fun _ => rfl⟩
  | _ => assumption

theorem RowChange.to_pending {db e r r'} (h : RowChange db e out r r') (hp : r'.status = .pending) :
    r.status = .pending ∨ out = [.resolved r.operationId .safeToRetry] ∨
      .retried r.operationId ∈ out ∧ (∀ ev ∈ out, ∃ o, ev = .retried o) ∧ r.status = .failed := by
  cases h with
  | same h => exact .inl (h ▸ hp)
  | stamped _ _ h => exact .inl (by rw [h] at hp; exact hp)
  | resolved outcome hout _ _ _ h' =>
    rw [hp] at h'
    cases outcome with
    | completed => cases h'
    | failed => cases h'
    | safeToRetry => exact .inr (.inl hout)
  | retried hout hall _ hst => exact .inr (.inr ⟨hout, hall, hst⟩)
  | evidence _ _ _ _ _ h' => rw [hp] at h'; simp at h'
  | broadcast _ _ h' => rw [hp] at h'; cases h'
  | inDoubt _ _ h' => rw [hp] at h'; cases h'
  | failed _ _ _ _ _ h' => rw [hp] at h'; cases h'
  | fenced _ _ _ _ _ _ h' => rw [hp] at h'; cases h'
  | escalated _ _ h' => rw [hp] at h'; cases h'
  | cancelled _ _ h' => rw [hp] at h'; cases h'

abbrev OpsEvolve (db : Db) (e : Ask) (out : List Event) : List WalletOperation → List WalletOperation → Prop :=
  Table.Evolves (RowChange db e out) (NewRow db e out)

theorem opsEvolve_refl {db e t} : OpsEvolve db e out t t :=
  .refl fun _ => .same rfl

theorem opsEvolve_update {db e id guard f}
    (h : ∀ r ∈ db.operations, r.operationId = id → guard r = true → RowChange db e out r (f r)) :
    OpsEvolve db e out db.operations (db.updateOperation id guard f).operations :=
  .update (fun _ => .same rfl) fun r hr hp => by
    simp only [Bool.and_eq_true, beq_iff_eq] at hp
    exact h r hr hp.1 hp.2

namespace Db

variable {db db' : Db} {e : Ask}

theorem runClaim_ops (hk : Table.Keyed (·.operationId) db.operations) (id : OperationId) (itemId : ItemId)
    (failure : AdminFailure) (now : Timestamp) :
    OpsEvolve db e (db.runClaim id itemId failure now).2.2 db.operations
      (db.runClaim id itemId failure now).2.1.operations := by
  refine opsEvolve_update fun r hr hid hg => ?_
  have haff : (db.claimFundingSubmission id itemId failure now).1 = true :=
    affectsOperation_iff.mpr ⟨r, hid ▸ operation_of_mem hk hr, hg⟩
  simp only [Bool.and_eq_true, decide_eq_true_eq] at hg
  refine .fenced itemId ?_ hg.1.1 hg.2 ⟨rfl, rfl, rfl, rfl, rfl, rfl, fun _ => rfl⟩ hg.1.2 rfl ⟨rfl, rfl⟩
    ⟨rfl, rfl⟩
  show (if (db.claimFundingSubmission id itemId failure now).1 then _ else _) = _
  rw [haff, hid]
  rfl

theorem resolveManualReview_ops (id : OperationId) (outcome : ManualReviewOutcome) (now : Timestamp)
    (he : e = .resolveReview id outcome ∨
      ∃ txid reason, outcome = .completed txid ∧ e = .completeReviewWithoutEvidence id txid reason) :
    OpsEvolve db e [.resolved id outcome] db.operations (db.resolveManualReview id outcome now).operations := by
  refine opsEvolve_update fun r _ hid hg => ?_
  subst hid
  simp only [decide_eq_true_eq] at hg
  cases outcome with
  | completed txid =>
    exact .resolved _ rfl he ⟨rfl, rfl, rfl, rfl, rfl, rfl, fun _ => rfl⟩ hg rfl ⟨rfl, rfl⟩ id
  | failed reason => exact .resolved _ rfl he ⟨rfl, rfl, rfl, rfl, rfl, rfl, fun _ => rfl⟩ hg rfl ⟨rfl, rfl⟩ id
  | safeToRetry =>
    exact .resolved _ rfl he ⟨rfl, rfl, rfl, rfl, rfl, rfl, fun _ => rfl⟩ hg rfl ⟨rfl, rfl⟩ fun _ => rfl

theorem resolveReview_ops (id : OperationId) (outcome : ManualReviewOutcome) (now : Timestamp) :
    OpsEvolve db (.resolveReview id outcome) (runResolve id outcome (db.resolveReview id outcome now)).2.2
      db.operations (runResolve id outcome (db.resolveReview id outcome now)).2.1.operations := by
  unfold resolveReview
  split
  · exact opsEvolve_refl
  · split
    · exact opsEvolve_refl
    · exact resolveManualReview_ops id outcome now (.inl rfl)

theorem completeReview_ops (id : OperationId) (txid : Txid) (reason : String) (now : Timestamp) :
    OpsEvolve db (.completeReviewWithoutEvidence id txid reason)
      (runResolve id (.completed txid) (db.completeReviewWithoutEvidence id txid reason now)).2.2
      db.operations
      (runResolve id (.completed txid) (db.completeReviewWithoutEvidence id txid reason now)).2.1.operations := by
  unfold completeReviewWithoutEvidence
  split
  · exact opsEvolve_refl
  · split
    · exact opsEvolve_refl
    · exact resolveManualReview_ops id _ now (.inr ⟨txid, reason, rfl, rfl⟩)

/-! ### Retry and cancellation -/

theorem runRetry_ops (hk : Table.Keyed (·.operationId) db.operations) (request : RetryRequest)
    (now : Timestamp) :
    OpsEvolve db (.retryFundingStep request) (db.runRetry request now).2.2 db.operations (db.runRetry request now).2.1.operations := by
  rcases retryFundingStep_cases db request now with h | ⟨ids, wallets, h, hf, hacc⟩
  · simp only [runRetry, h]; exact opsEvolve_refl
  simp only [runRetry, h, requeue_operations]
  refine .update (fun _ => .same rfl) fun r hr hp => ?_
  have hin : r.operationId ∈ wallets := by simpa using hp
  obtain ⟨r', hr', hid, hst⟩ := hf _ hin
  have : r' = r := hk.eq hr' hr hid
  exact .retried (List.mem_map_of_mem hin) (by simp) ⟨rfl, rfl, rfl, rfl, rfl, rfl, fun _ => rfl⟩
    (this ▸ hst) rfl ⟨rfl, rfl⟩ rfl ⟨now, hacc⟩

theorem cancelAllocation_ops (hk : Table.Keyed (·.operationId) db.operations) (federationId : FederationId)
    (reason : Option String) (now : Timestamp) :
    OpsEvolve db (.cancelAllocation federationId reason) [] db.operations
      (db.cancelAllocation federationId reason now).2.operations := by
  rcases cancelAllocation_cases db federationId reason now with h | ⟨ids, wallets, text, h, hf, hacc⟩
  · rw [h]; exact opsEvolve_refl
  rw [h, cancelAll_operations]
  refine .update (fun _ => .same rfl) fun r hr hp => ?_
  obtain ⟨r', hr', hid, hst⟩ := hf r.operationId (by simpa using hp)
  have : r' = r := hk.eq hr' hr hid
  exact .cancelled ⟨rfl, rfl, rfl, rfl, rfl, rfl, fun _ => rfl⟩ (this ▸ hst) rfl ⟨rfl, rfl⟩ ⟨rfl, rfl⟩
    ⟨now, hacc⟩

/-! ### Chain evidence -/

theorem leavesOutput_of_candidate (op : WalletOperation) (address : String) (outputs : List ChainOutputEvidence) :
    ∀ c ∈ db.chainCandidates op address outputs, db.leavesOutput c op.operationId = true := by
  refine List.foldlRecOn outputs _ (motive := fun cs => ∀ c ∈ cs, db.leavesOutput c op.operationId = true)
    (by simp) fun cs hcs output _ => ?_
  dsimp only
  split
  · exact hcs
  split
  · rename_i howner
    intro c hc
    rcases Lib.mem_snoc.mp hc with hc | rfl
    · exact hcs c hc
    · exact howner
  · exact hcs

theorem claimChainEvidence_ops (id : OperationId) (outputs : List ChainOutputEvidence) (required : Nat)
    (now : Timestamp) :
    OpsEvolve db (.claimChainEvidence id outputs required) [] db.operations
      (db.claimChainEvidence id outputs required now).2.operations := by
  unfold claimChainEvidence
  split
  · exact opsEvolve_refl
  split
  · exact opsEvolve_refl
  split
  · rename_i op hop _ _ _ _ evidence hcand
    split
    · exact opsEvolve_refl
    have howner := leavesOutput_of_candidate _ _ _ evidence (hcand ▸ List.mem_singleton_self evidence)
    rw [(mem_of_operation hop).2] at howner
    refine opsEvolve_update fun r _ hid hg => ?_
    subst hid
    simp only [Bool.and_eq_true, Option.all_eq_true, decide_eq_true_eq] at hg
    refine .evidence outputs required rfl ⟨rfl, rfl, rfl, rfl, rfl, rfl, fun hne => ?_⟩ hg.1.1
      (syncedStatus_cases _ _) ⟨rfl, rfl⟩ ⟨evidence, rfl, rfl, hg.1.2, hg.2, howner⟩
    simp [withEvidence, hne]
  · exact opsEvolve_refl
  · exact opsEvolve_refl

/-! ### Insertions -/

theorem runEnsure_ops (row₀ : WalletOperation) (itemId : ItemId) (now : Timestamp) :
    OpsEvolve db (.ensureWalletOperation row₀ itemId)
      (db.runEnsure { row₀ with updatedAt := now } itemId).2.2 db.operations
      (db.runEnsure { row₀ with updatedAt := now } itemId).2.1.operations := by
  rcases ensureWalletOperation_cases db { row₀ with updatedAt := now } itemId with
    h | ⟨e, h⟩ | ⟨r, h, -⟩ | ⟨db', h, ha, hins⟩
  · simp only [runEnsure, h]; exact opsEvolve_refl
  · simp only [runEnsure, h]; exact opsEvolve_refl
  · simp only [runEnsure, h]; exact opsEvolve_refl
  · obtain ⟨hdb, hnew, hone⟩ := insertWalletOperation_eq hins
    simp only [runEnsure, h, hdb]
    exact .append (fun _ => .same rfl) (.funding itemId row₀ now rfl rfl rfl ha hnew hone)

theorem runInsert_ops (row₀ : WalletOperation) (now : Timestamp) :
    OpsEvolve db (.insertWalletOperation row₀) (db.runInsert { row₀ with updatedAt := now }).2.2 db.operations
      (db.runInsert { row₀ with updatedAt := now }).2.1.operations := by
  unfold runInsert
  split
  · rename_i hins
    obtain ⟨hdb, hnew, -⟩ := insertWalletOperation_eq hins
    rw [hdb]
    exact .append (fun _ => .same rfl) (.deposit row₀ now rfl rfl rfl hnew)
  · exact opsEvolve_refl

/-! ### Stamps -/

theorem stamp_row (r : WalletOperation) (_ : r ∈ db.operations) (h : db.stampDue r = true) :
    RowChange db e out r { r with releasedTick := some db.tick } := by
  simp only [stampDue, Bool.and_eq_true, Option.isNone_iff_eq_none] at h
  exact .stamped h.1.1.1.1 h.1.1.1.2 rfl

theorem stamp_ops : OpsEvolve db e out db.operations db.stampReleasedItemOperations.operations :=
  .update (fun _ => .same rfl) stamp_row

theorem runAdmitWithdrawal_ops (config : SetupConfig) (request : WithdrawalRequest) (feeRate : Nat)
    (id : OperationId) (spendable : Sats) (now : Timestamp) :
    OpsEvolve db (.admitWithdrawal config request feeRate id spendable)
      (db.runAdmitWithdrawal config request feeRate id spendable now).2.2 db.operations
      (db.runAdmitWithdrawal config request feeRate id spendable now).2.1.operations := by
  rcases admitWithdrawal_cases db config request feeRate id spendable now with
    ⟨e, h⟩ | ⟨r, h⟩ | ⟨db', h, hintent, hins⟩
  · simp only [runAdmitWithdrawal, h]; exact opsEvolve_refl
  · simp only [runAdmitWithdrawal, h]; exact opsEvolve_refl
  obtain ⟨hdb, hnew, -⟩ := insertWalletOperation_eq hins
  simp only [runAdmitWithdrawal, h, hdb]
  exact .update_append (fun _ => .same rfl) stamp_row
    (.withdrawal config request feeRate spendable now rfl rfl rfl (stamp_operation_none.mp hnew) hintent)

theorem runAccept_ops (config : SetupConfig) (revision : Nat) (request : LiquidityRequest) (now : Timestamp)
    (stamp : SourceType → Timestamp) : OpsEvolve db e (db.runAccept config revision request now stamp).2.2 db.operations
      (db.runAccept config revision request now stamp).2.1.operations := by
  unfold runAccept
  split
  · exact opsEvolve_refl
  · rename_i h
    rcases acceptRequest_operations h with h | h <;> simp only [h]
    · exact opsEvolve_refl
    · exact stamp_ops
  rename_i h
  rcases acceptRequest_operations h with h | h <;> simp only [h]
  · exact opsEvolve_refl
  · exact stamp_ops

end Db

theorem opsEvolve_run {α : Type} {e : Ask} {f : Db → ServiceResult α × Db × List Event} {r : ServiceResult α}
    (h : w.run x f = some (r, w', out))
    (hf : OpsEvolve w.db e (f w.db).2.2 w.db.operations (f w.db).2.1.operations) :
    OpsEvolve w.db e out w.db.operations w'.db.operations := by
  rcases World.run_cases h with ⟨rfl, -, -⟩ | ⟨rfl, rfl, -⟩
  · exact opsEvolve_refl
  · exact hf

theorem handler_ops {e r} (hk : Table.Keyed (·.operationId) w.db.operations)
    (h : handler e w x = some (r, w', out)) : OpsEvolve w.db e out w.db.operations w'.db.operations := by
  by_cases hw : e.writesOperations = false
  · rw [(handler_framed h).operations hw]
    exact opsEvolve_refl
  cases e <;> try exact absurd rfl hw
  all_goals simp only [handler] at h
  all_goals refine opsEvolve_run h ?_
  case ensureWalletOperation row itemId => exact Db.runEnsure_ops row itemId x.now
  case claimFundingSubmission id itemId failure => exact Db.runClaim_ops hk id itemId _ x.now
  case markWithdrawalBroadcast id txid =>
    exact opsEvolve_update fun r _ _ hs => .broadcast ⟨rfl, rfl, rfl, rfl, rfl, rfl, fun _ => rfl⟩ hs rfl ⟨rfl, rfl⟩
      ⟨rfl, fun h => if_neg (by simpa using h)⟩
  case markOperationInDoubt id detail =>
    exact opsEvolve_update fun r _ _ hs =>
      .inDoubt ⟨rfl, rfl, rfl, rfl, rfl, rfl, fun _ => rfl⟩ hs rfl ⟨rfl, rfl⟩ ⟨rfl, rfl⟩
  case markOperationFailed id detail =>
    refine opsEvolve_update fun r _ hid hs => ?_
    subst hid
    exact .failed detail rfl rfl ⟨rfl, rfl, rfl, rfl, rfl, rfl, fun _ => rfl⟩ hs rfl ⟨rfl, rfl⟩ ⟨rfl, rfl⟩
  case admitWithdrawal config request feeRate id spendable =>
    exact Db.runAdmitWithdrawal_ops config request feeRate id spendable x.now
  case insertWalletOperation row => exact Db.runInsert_ops row x.now
  case claimChainEvidence id outputs required => exact Db.claimChainEvidence_ops id outputs required x.now
  case escalateInDoubt id reviewAfterSecs =>
    refine opsEvolve_update fun r _ _ hs => ?_
    simp only [Db.reviewDue, Bool.and_eq_true, decide_eq_true_eq] at hs
    exact .escalated ⟨rfl, rfl, rfl, rfl, rfl, rfl, fun _ => rfl⟩ hs.1 rfl ⟨rfl, rfl⟩ ⟨rfl, rfl⟩
  case retryFundingStep request => exact Db.runRetry_ops hk request x.now
  case cancelAllocation federationId reason => exact Db.cancelAllocation_ops hk federationId reason x.now
  case resolveReview id outcome => exact Db.resolveReview_ops id outcome x.now
  case completeReviewWithoutEvidence id txid reason => exact Db.completeReview_ops id txid reason x.now
  case acceptRequest config revision request => exact Db.runAccept_ops config revision request x.now x.stamp

/-! ### Rows by their id -/

section lookup

variable {e : Ask} {r : Ans e} {o : OperationId}

theorem RowChange.operationId {db} (r r' : WalletOperation) (h : RowChange db e out r r') :
    r'.operationId = r.operationId := h.kept.operationId

theorem handler_keyed (hk : Table.Keyed (·.operationId) w.db.operations)
    (h : handler e w x = some (r, w', out)) : Table.Keyed (·.operationId) w'.db.operations :=
  (handler_ops hk h).keyed hk RowChange.operationId fun _ hn => Table.lookup_eq_none.mp hn.fresh

theorem operation_back (hk : Table.Keyed (·.operationId) w.db.operations)
    (h : handler e w x = some (r, w', out)) {row'} (ho : w'.db.operation o = some row') :
    (∃ row, w.db.operation o = some row ∧ RowChange w.db e out row row') ∨
      w.db.operation o = none ∧ NewRow w.db e out row' ∧ row'.operationId = o := by
  rcases (handler_ops hk h).lookup_back hk RowChange.operationId ho with h | ⟨hn, hid⟩
  · exact .inl h
  · exact .inr ⟨hid ▸ hn.fresh, hn, hid⟩

theorem operation_forth (hk : Table.Keyed (·.operationId) w.db.operations)
    (h : handler e w x = some (r, w', out)) {row} (ho : w.db.operation o = some row) :
    ∃ row', w'.db.operation o = some row' ∧ RowChange w.db e out row row' :=
  (handler_ops hk h).lookup_forth (handler_keyed hk h) RowChange.operationId ho

end lookup

end Manifold.Liquidity
