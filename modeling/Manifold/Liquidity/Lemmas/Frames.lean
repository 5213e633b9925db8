import Manifold.Liquidity.Lemmas.Transactions
import Manifold.Liquidity.Public

/-!
# What a question leaves alone
-/

namespace Manifold.Liquidity

open Lib

/-- Only wallet operations, items and gateway observations differ. -/
def Touches (db db' : Db) : Prop :=
  ∃ operations items observations,
    db' = { db with operations := operations, items := items, gatewayObservations := observations }

theorem Touches.refl (db : Db) : Touches db db := ⟨_, _, _, rfl⟩

theorem Touches.trans {a b c} (h₁ : Touches a b) (h₂ : Touches b c) : Touches a c := by
  obtain ⟨_, _, _, rfl⟩ := h₁
  obtain ⟨_, _, _, rfl⟩ := h₂
  exact ⟨_, _, _, rfl⟩

namespace Db

variable {db : Db}

theorem foldl_touches {κ : Type} {ids : List κ} {step} (h : ∀ d id, Touches d (step d id)) :
    Touches db (ids.foldl step db) := by
  induction ids generalizing db with
  | nil => exact .refl db
  | cons id ids ih => exact (h db id).trans ih

theorem runRetry_touches (request : RetryRequest) (now : Timestamp) : Touches db (db.runRetry request now).2.1 := by
  rcases retryFundingStep_cases db request now with h | ⟨ids, wallets, h, -⟩ <;> simp only [runRetry, h]
  · exact .refl db
  refine Touches.trans (b := wallets.foldl (fun d id => d.resetWalletOperation id now) db) ?_ ?_
  · exact foldl_touches fun _ _ => ⟨_, _, _, rfl⟩
  · exact foldl_touches fun _ _ => ⟨_, _, _, rfl⟩

theorem cancelAllocation_touches (federationId : FederationId) (reason : Option String) (now : Timestamp) :
    Touches db (db.cancelAllocation federationId reason now).2 := by
  rcases cancelAllocation_cases db federationId reason now with h | ⟨ids, wallets, text, h, -⟩ <;> rw [h]
  · exact .refl db
  refine Touches.trans (b := wallets.foldl (fun d id => d.cancelWalletOperation id text now) db) ?_ ?_
  · exact foldl_touches fun _ _ => ⟨_, _, _, rfl⟩
  · exact foldl_touches fun _ _ => ⟨_, _, _, rfl⟩

end Db

def Ask.writesItems : Ask → Bool
  | .markItemRunning _ | .updateItemStep .. | .compareAndSetItemStep .. | .completeItem .. | .setItemFailure ..
  | .retryFundingStep _ | .cancelAllocation .. | .abandonGatewayItem .. | .abandonTargetClientValue ..
  | .bindAndResume .. | .releaseAllocation _ | .acceptRequest .. => true
  | _ => false

def Ask.writesOperations : Ask → Bool
  | .ensureWalletOperation .. | .claimFundingSubmission .. | .markWithdrawalBroadcast .. | .markOperationInDoubt ..
  | .markOperationFailed .. | .admitWithdrawal .. | .insertWalletOperation _ | .claimChainEvidence ..
  | .escalateInDoubt .. | .retryFundingStep _ | .cancelAllocation .. | .resolveReview ..
  | .completeReviewWithoutEvidence .. | .acceptRequest .. => true
  | _ => false

def Ask.observesBalance : Ask → Bool
  | .beginBalanceRead | .upsertWalletBalanceObservation .. => true
  | _ => false

structure Framed (e : Ask) (w w' : World) : Prop where
  items : e.writesItems = false → w'.db.items = w.db.items
  operations : e.writesOperations = false → w'.db.operations = w.db.operations
  touches : e.accepts = false → (∀ f, e ≠ .releaseAllocation f) → e.observesBalance = false → Touches w.db w'.db
  loaded : e ≠ .activeItems .stabilityPool → w'.loadedStability = w.loadedStability

variable {w w' : World} {x : Outside} {out : List Event} {e : Ask}

theorem Framed.refl (e : Ask) (w : World) : Framed e w w :=
  ⟨fun _ => rfl, fun _ => rfl, fun _ _ _ => .refl _, fun _ => rfl⟩

theorem Framed.touch {operations items observations}
    (hi : e.writesItems = true ∨ items = w.db.items) (ho : e.writesOperations = true ∨ operations = w.db.operations) :
    Framed e w { w with db :=
      { w.db with operations := operations, items := items, gatewayObservations := observations } } where
  items h := hi.resolve_left (by simp [h])
  operations h := ho.resolve_left (by simp [h])
  touches _ _ _ := ⟨_, _, _, rfl⟩
  loaded _ := rfl

theorem World.run_framed {α : Type} {f : Db → ServiceResult α × Db × List Event} {r : ServiceResult α}
    (h : w.run x f = some (r, w', out)) (hf : Framed e w { w with db := (f w.db).2.1 }) : Framed e w w' := by
  rcases World.run_cases h with ⟨rfl, -, -⟩ | ⟨rfl, -, -⟩
  · exact .refl e _
  · exact hf

theorem handler_framed {r} (hs : handler e w x = some (r, w', out)) : Framed e w w' := by
  cases e <;> simp only [handler] at hs
  case activeItems kind =>
      split at hs <;> cases hs
      · exact .refl _ w
      cases kind with
      | gateway => exact ⟨fun _ => rfl, fun _ => rfl, fun _ _ _ => .refl _, fun _ => rfl⟩
      | stabilityPool => exact ⟨fun _ => rfl, fun _ => rfl, fun _ _ _ => .refl _, fun h => absurd rfl h⟩
  case prepareWithdrawal p => split at hs <;> cases hs <;> exact .refl _ w
  case submitResponse p =>
      split at hs
      · split at hs
        · cases hs; exact ⟨fun _ => rfl, fun _ => rfl, fun _ _ _ => .refl _, fun _ => rfl⟩
        · split at hs <;> cases hs
          exact .refl _ w
      · cases hs; exact .refl _ w
  all_goals first
    | (cases hs; exact ⟨fun _ => rfl, fun _ => rfl, fun _ _ _ => .refl _, fun _ => rfl⟩)
    | refine World.run_framed hs ?_
  case completeItem id kind fulfilled evidence =>
      simp only [Db.runComplete, Db.completeItem]
      split
      · exact .refl _ w
      · exact .touch (.inl rfl) (.inr rfl)
  case ensureWalletOperation row i =>
      rcases Db.ensureWalletOperation_cases w.db { row with updatedAt := x.now } i with
        h | ⟨e, h⟩ | ⟨r₀, h, -⟩ | ⟨db', h, -, hins⟩ <;> simp only [Db.runEnsure, h]
      · exact .refl _ w
      · exact .refl _ w
      · exact .refl _ w
      · rw [(Db.insertWalletOperation_eq hins).1]
        exact .touch (.inr rfl) (.inl rfl)
  case getWalletOperation id => split <;> exact .refl _ w
  case admitWithdrawal config request feeRate id spendable =>
      rcases Db.admitWithdrawal_cases w.db config request feeRate id spendable x.now with
        ⟨e, h⟩ | ⟨r₀, h⟩ | ⟨db', h, -, hins⟩ <;> simp only [Db.runAdmitWithdrawal, h]
      · exact .refl _ w
      · exact .refl _ w
      · rw [(Db.insertWalletOperation_eq hins).1]
        exact .touch (.inr rfl) (.inl rfl)
  case insertWalletOperation row =>
      unfold Db.runInsert
      split
      · rename_i hins
        rw [(Db.insertWalletOperation_eq hins).1]
        exact .touch (.inr rfl) (.inl rfl)
      · exact .refl _ w
  case beginBalanceRead => exact ⟨fun _ => rfl, fun _ => rfl, fun _ _ => (Bool.noConfusion ·), fun _ => rfl⟩
  case upsertWalletBalanceObservation network spendable readAt =>
      rcases Db.runUpsertBalance_cases w.db ⟨network, spendable, x.now, readAt⟩ with h | h <;> rw [h]
      · exact .refl _ w
      · exact ⟨fun _ => rfl, fun _ => rfl, fun _ _ => (Bool.noConfusion ·), fun _ => rfl⟩
  case claimChainEvidence id outputs required =>
      simp only [Db.claimChainEvidence]
      split
      · exact .refl _ w
      · split
        · exact .refl _ w
        · repeat' split
          all_goals exact .touch (.inr rfl) (.inl rfl)
  case retryFundingStep request =>
      exact ⟨(Bool.noConfusion ·), (Bool.noConfusion ·), fun _ _ _ => Db.runRetry_touches request x.now, fun _ => rfl⟩
  case cancelAllocation f reason =>
      exact ⟨(Bool.noConfusion ·), (Bool.noConfusion ·), fun _ _ _ => Db.cancelAllocation_touches f reason x.now, fun _ => rfl⟩
  case resolveReview | completeReviewWithoutEvidence =>
      simp only [Db.runResolve, Db.resolveReview, Db.completeReviewWithoutEvidence]
      split
      · exact .refl _ w
      · split <;> exact .touch (.inr rfl) (.inl rfl)
  case abandonGatewayItem id operationId detail =>
      simp only [Db.abandonGatewayItem]
      split
      · exact .refl _ w
      · split
        · exact .refl _ w
        · split <;> exact .touch (.inl rfl) (.inr rfl)
  case abandonTargetClientValue | bindAndResume =>
      simp only [Db.abandonTargetClientValue, Db.runBind, Db.bindAndResume]
      split <;> exact .touch (.inl rfl) (.inr rfl)
  case releaseAllocation f => exact ⟨(Bool.noConfusion ·), fun _ => Db.runRelease_operations f, fun _ h => absurd rfl (h f), fun _ => rfl⟩
  case acceptRequest => exact ⟨(Bool.noConfusion ·), (Bool.noConfusion ·), (Bool.noConfusion ·), fun _ => rfl⟩
  all_goals first
    | exact .touch (.inr rfl) (.inl rfl)
    | exact .touch (.inl rfl) (.inr rfl)
    | exact .touch (.inr rfl) (.inr rfl)

end Manifold.Liquidity
