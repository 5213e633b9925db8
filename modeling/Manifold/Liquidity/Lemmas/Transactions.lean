import Manifold.Liquidity.World

/-!
# What a transaction can do
-/

namespace Manifold.Liquidity

open Lib

variable {w w' : World} {x : Outside} {out : List Event}

theorem World.run_cases {α : Type} {f : Db → ServiceResult α × Db × List Event} {r : ServiceResult α}
    (h : w.run x f = some (r, w', out)) :
    w' = w ∧ out = [] ∧ r = .error World.dbError ∨
      w' = { w with db := (f w.db).2.1 } ∧ out = (f w.db).2.2 ∧ r = (f w.db).1 := by
  unfold World.run at h
  split at h
  · cases h; exact .inl ⟨rfl, rfl, rfl⟩
  · cases h; exact .inr ⟨rfl, rfl, rfl⟩

theorem World.write_cases {α : Type} {f : Db → α × Db} {r : ServiceResult α}
    (h : w.write x f = some (r, w', out)) :
    w' = w ∧ out = [] ∧ r = .error World.dbError ∨ w' = { w with db := (f w.db).2 } ∧ out = [] ∧ r = .ok (f w.db).1 :=
  World.run_cases h

namespace Db

variable {db db' : Db}

/-! ## Rows -/

theorem operation_of_mem (hk : Table.Keyed (·.operationId) db.operations) {r} (hr : r ∈ db.operations) :
    db.operation r.operationId = some r := hk.lookup hr

theorem mem_of_operation {id r} (h : db.operation id = some r) :
    r ∈ db.operations ∧ r.operationId = id := Table.lookup_mem h

theorem affectsOperation_iff {id guard} :
    db.affectsOperation id guard = true ↔ ∃ r, db.operation id = some r ∧ guard r = true := by
  unfold affectsOperation
  cases db.operation id <;> simp

theorem operation_updateOperation {id guard f} (hf : ∀ r, (f r).operationId = r.operationId) {r}
    (h : db.operation id = some r) (hg : guard r = true) :
    (db.updateOperation id guard f).operation id = some (f r) := by
  have hu : (db.updateOperation id guard f).operation id = (db.operation id).map _ :=
    Table.lookup_update fun r _ => hf r
  rw [hu, h]
  simp [(mem_of_operation h).2, hg]

/-! ## Retry and cancellation -/

theorem foldl_operations {ids : List OperationId} {f} (hid : ∀ r, (f r).operationId = r.operationId)
    (hidem : ∀ r, f (f r) = f r) :
    (ids.foldl (fun d id => d.updateOperation id (fun _ => true) f) db).operations =
      Table.update (fun r => decide (r.operationId ∈ ids)) f db.operations := by
  rw [← Table.foldl_update hid hidem]
  induction ids generalizing db with
  | nil => rfl
  | cons id ids ih =>
    rw [List.foldl_cons, List.foldl_cons, ih]
    simp [updateOperation]

theorem foldl_items_operations {ids : List ItemId} (step : Db → ItemId → Db)
    (h : ∀ d id, (step d id).operations = d.operations) :
    (ids.foldl step db).operations = db.operations := by
  induction ids generalizing db with
  | nil => rfl
  | cons id ids ih => rw [List.foldl_cons, ih, h]

theorem requeue_operations (items : List ItemId) (wallets : List OperationId) (now : Timestamp) :
    (db.requeue items wallets now).operations =
      Table.update (fun r => decide (r.operationId ∈ wallets)) (fun r =>
        { r with
          status := .pending
          txid := none
          txVout := none
          confirmationCount := none
          failure := none
          submittedAt := none
          settledTick := none
          releasedTick := none
          updatedAt := now }) db.operations := by
  refine (foldl_items_operations (fun d id => d.resetItem id now) fun _ _ => rfl).trans ?_
  exact foldl_operations (fun _ => rfl) (fun _ => rfl)

theorem cancelAll_operations (items : List ItemId) (wallets : List OperationId) (reason : String)
    (now : Timestamp) :
    (db.cancelAll items wallets reason now).operations =
      Table.update (fun r => decide (r.operationId ∈ wallets)) (fun r =>
        { r with
          status := .cancelled
          failure := some { code := "cancelled", message := reason, occurredAt := now }
          updatedAt := now }) db.operations := by
  refine (foldl_items_operations (fun d id => d.cancelItem id now) fun _ _ => rfl).trans ?_
  exact foldl_operations (fun _ => rfl) (fun _ => rfl)

theorem retryScan_failed {named} (hn : ∀ r, named = some r → r ∈ db.operations) {items ids wallets}
    (h : db.retryScan named items = .ok (ids, wallets)) :
    ∀ o ∈ wallets, ∃ r ∈ db.operations, r.operationId = o ∧ r.status = .failed := by
  induction items generalizing ids wallets with
  | nil => cases h; simp
  | cons i items ih =>
    simp only [retryScan] at h
    split at h
    · cases h
    split at h
    · exact ih h
    split at h
    · cases h
    obtain ⟨⟨ids', wallets'⟩, hrec, hret⟩ := bind_eq_ok.mp h
    cases hret
    intro o ho
    rcases List.mem_append.mp ho with ho | ho
    · obtain ⟨r, hr, rfl⟩ := List.mem_map.mp ho
      obtain ⟨hr, hst⟩ := List.mem_filter.mp hr
      refine ⟨r, ?_, rfl, by simpa using hst⟩
      split at hr
      · rw [List.mem_singleton.mp hr]; exact hn _ rfl
      · exact List.mem_of_mem_filter hr
    · exact ih hrec o ho

theorem retryOperation_mem {request named} (h : db.retryOperation request = .ok named) :
    ∀ r, named = some r → r ∈ db.operations := by
  intro r hr
  unfold retryOperation at h
  split at h
  · cases h; cases hr
  split at h
  · cases h
  rename_i id _ r' hr'
  split at h
  · cases h
  split at h
  · cases h
  split at h
  · cases h
  · cases h
    cases hr
    exact (mem_of_operation hr').1

theorem retryFundingStep_cases (db : Db) (request : RetryRequest) (now : Timestamp) :
    (db.retryFundingStep request now).2 = (db, []) ∨
      ∃ ids wallets, (db.retryFundingStep request now).2 = (db.requeue ids wallets now, wallets) ∧
        (∀ o ∈ wallets, ∃ r ∈ db.operations, r.operationId = o ∧ r.status = .failed) ∧
          (db.retryFundingStep request now).1.status = .accepted := by
  unfold retryFundingStep
  split
  · exact .inl rfl
  split
  · exact .inl rfl
  rename_i named hnamed
  dsimp only
  split
  · exact .inl rfl
  split
  · exact .inl rfl
  · exact .inl rfl
  · rename_i ids wallets _ hscan
    exact .inr ⟨ids, wallets, rfl, retryScan_failed (retryOperation_mem hnamed) hscan, rfl⟩

theorem cancelScan_open {items ids wallets} (h : db.cancelScan items = .ok (ids, wallets)) :
    ∀ o ∈ wallets, ∃ r ∈ db.operations, r.operationId = o ∧ (r.status = .pending ∨ r.status = .failed) := by
  induction items generalizing ids wallets with
  | nil => cases h; simp
  | cons i items ih =>
    simp only [cancelScan] at h
    split at h
    · split at h
      · cases h
      obtain ⟨⟨ids', wallets'⟩, hrec, hret⟩ := bind_eq_ok.mp h
      cases hret
      intro o ho
      rcases List.mem_append.mp ho with ho | ho
      · obtain ⟨r, hr, rfl⟩ := List.mem_map.mp ho
        obtain ⟨hr, hst⟩ := List.mem_filter.mp hr
        exact ⟨r, List.mem_of_mem_filter hr, rfl, by simpa using hst⟩
      · exact ih hrec o ho
    · exact ih h

theorem cancelAllocation_cases (db : Db) (federationId : FederationId) (reason : Option String) (now : Timestamp) :
    (db.cancelAllocation federationId reason now).2 = db ∨
      ∃ ids wallets text, (db.cancelAllocation federationId reason now).2 = db.cancelAll ids wallets text now ∧
        (∀ o ∈ wallets, ∃ r ∈ db.operations, r.operationId = o ∧ (r.status = .pending ∨ r.status = .failed)) ∧
          (db.cancelAllocation federationId reason now).1.status = .accepted := by
  unfold cancelAllocation
  split
  · exact .inl rfl
  dsimp only
  split
  · exact .inl rfl
  · split <;> exact .inl rfl
  · rename_i ids wallets _ hscan
    exact .inr ⟨ids, wallets, _, rfl, cancelScan_open hscan, rfl⟩

/-! ## Settlement -/

theorem syncedStatus_cases (confirmations required : Nat) :
    syncedStatus confirmations required = .broadcast ∨ syncedStatus confirmations required = .confirmed ∨
      syncedStatus confirmations required = .completed := by
  unfold syncedStatus
  split
  · exact .inr (.inr rfl)
  · split
    · exact .inr (.inl rfl)
    · exact .inl rfl

theorem runUpsertBalance_cases (db : Db) (observation : BalanceObservation) :
    (db.runUpsertBalance observation).2 = (db, []) ∨
      (db.runUpsertBalance observation).2 = ({ db with observation := some observation }, []) := by
  unfold runUpsertBalance
  split
  · rename_i db' h
    obtain ⟨_, _, h⟩ := bind_eq_ok.mp h
    split at h
    · cases h; exact .inr rfl
    cases h
    split
    · exact .inr rfl
    · exact .inl rfl
  · exact .inl rfl

/-! ## Insertions -/

theorem insertWalletOperation_eq {row} (h : db.insertWalletOperation row = .ok db') :
    db' = { db with operations := db.operations ++ [row] } ∧ db.operation row.operationId = none ∧
      ∀ r ∈ db.operations, row.itemId.isSome = true →
        ¬ (r.operationType = row.operationType ∧ r.itemId = row.itemId) := by
  obtain ⟨_, _, h⟩ := bind_eq_ok.mp h
  split at h
  · cases h
  split at h
  · cases h
  rename_i hnone
  split at h
  · cases h
  rename_i hfree
  cases h
  refine ⟨rfl, by simpa using hnone, fun r hr hi hsame => hfree ?_⟩
  simp only [Bool.and_eq_true, List.any_eq_true, decide_eq_true_eq]
  exact ⟨hi, r, hr, hsame⟩

theorem operation_of_insert {row} (h : db.insertWalletOperation row = .ok db') :
    db'.operation row.operationId = some row := by
  obtain ⟨rfl, hnew, -⟩ := insertWalletOperation_eq h
  exact Table.lookup_insert hnew

theorem ensureWalletOperation_cases (db : Db) (row : WalletOperation) (itemId : ItemId) :
    db.ensureWalletOperation row itemId = (.ok .inactive, db) ∨
      (∃ e, db.ensureWalletOperation row itemId = (.error e, db)) ∨
      (∃ r, db.ensureWalletOperation row itemId = (.ok (.existing r), db) ∧ db.itemActive itemId = true ∧
        db.walletOperationForItem row.operationType itemId = some r) ∨
      ∃ db', db.ensureWalletOperation row itemId = (.ok .created, db') ∧ db.itemActive itemId = true ∧
        db.insertWalletOperation row = .ok db' := by
  unfold ensureWalletOperation
  split
  · rename_i ha
    split
    · rename_i r hr
      exact .inr (.inr (.inl ⟨r, rfl, ha, hr⟩))
    split
    · rename_i e _
      exact .inr (.inl ⟨e, rfl⟩)
    · rename_i db' hins
      exact .inr (.inr (.inr ⟨db', rfl, ha, hins⟩))
  · exact .inl rfl

def stampDue (db : Db) (r : WalletOperation) : Bool :=
  r.releasedTick.isNone && r.settledTick.isSome && r.itemId.isSome && r.operationType.outgoing &&
    !db.reservedByItem r

theorem stamp_operation_none {id} : db.stampReleasedItemOperations.operation id = none ↔ db.operation id = none := by
  have h : db.stampReleasedItemOperations.operation id = (db.operation id).map (fun r =>
      if db.stampDue r then { r with releasedTick := some db.tick } else r) := Table.lookup_update fun _ _ => rfl
  rw [h, Option.map_eq_none_iff]

theorem admitWithdrawal_cases (db : Db) (config : SetupConfig) (request : WithdrawalRequest) (feeRate : Nat)
    (id : OperationId) (spendable : Sats) (now : Timestamp) :
    (∃ e, db.admitWithdrawal config request feeRate id spendable now = .error e) ∨
      (∃ r, db.admitWithdrawal config request feeRate id spendable now = .ok (.existing r, db)) ∨
      ∃ db', db.admitWithdrawal config request feeRate id spendable now = .ok (.inserted, db') ∧
        db.operationForIntent request.withdrawalIntentId = none ∧
        db.stampReleasedItemOperations.insertWalletOperation (newWithdrawal request feeRate id now) = .ok db' := by
  unfold admitWithdrawal
  split
  · rename_i r _
    exact .inr (.inl ⟨r, rfl⟩)
  rename_i hnone
  dsimp only
  split
  · exact .inl ⟨_, rfl⟩
  cases hins : (db.availableBalanceForRequest config spendable).2.insertWalletOperation
    (newWithdrawal request feeRate id now) with
  | error e => exact .inl ⟨e, rfl⟩
  | ok db' => exact .inr (.inr ⟨db', rfl, hnone, hins⟩)

/-! ## Acceptance and release -/

theorem insertAllocation_eq {request plan stamp} (h : db.insertAllocation request plan stamp = .ok (some db')) :
    db' = { db with
      allocations := db.allocations ++ [{
        federationId := request.target.federationId
        requesterPubkey := request.requesterPubkey
        providerPubkey := request.providerPubkey
        network := request.network
        detailsPayloadHash := request.detailsPayloadHash
        target := request.target
        committedAmount := plan.committedAmount
        reservedAmount := plan.reservedAmount }]
      items := db.items ++ plan.items.map (newItem stamp request.target.federationId) } ∧
      (∀ a ∈ db.allocations, a.federationId ≠ request.target.federationId) ∧
      ∀ p ∈ plan.items, db.item p.itemId = none := by
  obtain ⟨_, _, h⟩ := bind_eq_ok.mp h
  obtain ⟨_, _, h⟩ := bind_eq_ok.mp h
  split at h
  · cases h
  rename_i hfree
  split at h
  · cases h
  rename_i hnew
  cases h
  refine ⟨rfl, fun a ha he => hfree ?_, fun p hp => ?_⟩
  · simp only [List.any_eq_true, Bool.or_eq_true, decide_eq_true_eq]
    exact ⟨a, ha, .inl he⟩
  · simp only [List.any_eq_true, not_exists, not_and, Option.not_isSome_iff_eq_none] at hnew
    exact hnew p hp

theorem releaseAllocation_cases (db : Db) (federationId : FederationId) :
    (∃ a, db.releaseAllocation federationId = (.released a, db.deleteAllocation federationId) ∧
        (db.allocationHolding federationId).isIdle = true) ∨
      (∀ a, (db.releaseAllocation federationId).1 ≠ .released a) ∧ (db.releaseAllocation federationId).2 = db := by
  unfold releaseAllocation
  split
  · exact .inr ⟨by simp, rfl⟩
  rename_i a _
  dsimp only
  split
  · rename_i hidle
    exact .inl ⟨a.requesterPubkey, rfl, hidle⟩
  · exact .inr ⟨by simp, rfl⟩

theorem runRelease_operations (federationId : FederationId) :
    (db.runRelease federationId).2.1.operations = db.operations := by
  rcases releaseAllocation_cases db federationId with ⟨a, h, -⟩ | ⟨hne, h⟩
  · simp only [runRelease, h]; rfl
  unfold runRelease
  split
  · rename_i hr
    exact absurd (by rw [hr]) (hne _)
  · rename_i _ outcome db' _ hr
    rw [hr] at h
    exact congrArg Db.operations h

theorem takeOverIdleAllocation_eq {request} (h : db.takeOverIdleAllocation request = some db') :
    db' = db.deleteAllocation request.target.federationId ∧ db.takesOver request = true := by
  unfold takeOverIdleAllocation at h
  split at h
  · cases h
  rename_i a ha
  split at h
  · cases h
  rename_i hne
  split at h
  · rename_i hrel
    cases h
    rcases releaseAllocation_cases db request.target.federationId with ⟨a, he, hidle⟩ | ⟨hno, -⟩
    · rw [he] at hrel
      cases hrel
      exact ⟨rfl, by simp [takesOver, ha, hne, hidle]⟩
    · rw [hrel] at hno
      exact absurd rfl (hno _)
  · cases h

theorem stamp_allocationHolding (federationId : FederationId) :
    db.stampReleasedItemOperations.allocationHolding federationId = db.allocationHolding federationId := by
  have h : db.stampReleasedItemOperations.operations.countP
      (fun r => db.tiedTo federationId r && r.status.pendingSettlement) =
      db.operations.countP (fun r => db.tiedTo federationId r && r.status.pendingSettlement) :=
    Table.countP_update fun _ _ => rfl
  exact congrArg (fun n => (⟨_, n, _⟩ : Holding)) h

theorem stamp_takesOver (request : LiquidityRequest) :
    db.stampReleasedItemOperations.takesOver request = db.takesOver request := by
  unfold takesOver
  rw [stamp_allocationHolding]
  rfl

theorem acceptRequest_cases {config revision request now stamp acceptance released}
    (h : db.acceptRequest config revision request now stamp = .ok (acceptance, db', released)) :
    (∀ plan, acceptance ≠ .accepted plan) ∧ db' = db ∨
      ∃ plan freed, acceptance = .accepted plan ∧ planItems config request = .ok plan.items ∧
        freed = (if released then db.stampReleasedItemOperations.deleteAllocation request.target.federationId
          else db.stampReleasedItemOperations) ∧
        (released = true → db.takesOver request = true) ∧
        freed.insertAllocation request plan stamp = .ok (some db') := by
  unfold acceptRequest at h
  split at h
  · cases h; exact .inl ⟨by simp, rfl⟩
  split at h
  · cases h; exact .inl ⟨by simp, rfl⟩
  obtain ⟨planned, hplan, h⟩ := bind_eq_ok.mp h
  split at h
  · cases h; exact .inl ⟨by simp, rfl⟩
  rename_i plan db₁
  obtain ⟨hitems, hdb₁⟩ : planItems config request = .ok plan.items ∧ db₁ = db.stampReleasedItemOperations := by
    obtain ⟨items, hitems, hplan⟩ := bind_eq_ok.mp hplan
    obtain ⟨committed, _, hplan⟩ := bind_eq_ok.mp hplan
    obtain ⟨reserved, _, hplan⟩ := bind_eq_ok.mp hplan
    split at hplan
    · cases hplan
    rename_i available db₂ hav
    split at hplan
    · cases hplan
    split at hplan
    · cases hplan
    cases hplan
    refine ⟨hitems, ?_⟩
    obtain ⟨o, -, ho⟩ := Option.bind_eq_some_iff.mp hav
    split at ho
    · cases ho; rfl
    · cases ho
  subst hdb₁
  obtain ⟨inserted, hins, h⟩ := bind_eq_ok.mp h
  split at h
  · cases h; exact .inl ⟨by simp, rfl⟩
  cases h
  refine .inr ⟨plan, _, rfl, hitems, rfl, ?_⟩
  obtain ⟨first, hfirst, hins⟩ := bind_eq_ok.mp hins
  split at hins
  · cases hins
    exact ⟨by simp, by simpa using hfirst⟩
  split at hins
  · cases hins
  rename_i freed hfreed
  obtain ⟨second, hsecond, hins⟩ := bind_eq_ok.mp hins
  split at hins
  · cases hins
    obtain ⟨rfl, htakes⟩ := takeOverIdleAllocation_eq hfreed
    exact ⟨fun _ => stamp_takesOver request ▸ htakes, hsecond⟩
  · cases hins

theorem acceptRequest_accepted {config revision request now stamp plan released}
    (h : db.acceptRequest config revision request now stamp = .ok (.accepted plan, db', released)) :
    db.setup.revision = revision ∧ now < request.expiresAt ∧
      ∃ planned, db.planAllocation config request = .ok (some (plan, planned)) := by
  unfold acceptRequest at h
  split at h
  · cases h
  rename_i hrev
  split at h
  · cases h
  rename_i hexp
  obtain ⟨planned, hplan, h⟩ := bind_eq_ok.mp h
  split at h
  · cases h
  · obtain ⟨inserted, -, h⟩ := bind_eq_ok.mp h
    split at h <;> cases h
    exact ⟨not_not.mp hrev, Nat.not_le.mp hexp, _, hplan⟩

theorem acceptRequest_operations {config revision request now stamp acceptance released}
    (h : db.acceptRequest config revision request now stamp = .ok (acceptance, db', released)) :
    db'.operations = db.operations ∨ db'.operations = db.stampReleasedItemOperations.operations := by
  rcases acceptRequest_cases h with ⟨-, rfl⟩ | ⟨plan, freed, -, -, rfl, -, hins⟩
  · exact .inl rfl
  · rw [(insertAllocation_eq hins).1]
    cases released <;> exact .inr rfl

end Db

end Manifold.Liquidity
