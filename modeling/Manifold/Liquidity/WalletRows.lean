import Manifold.Liquidity.Lemmas.Allocations

/-!
# The life of a wallet operation
-/

namespace Manifold.Liquidity

open Lib

inductive SyncedWalletStatus where
  | broadcast | confirmed | completed

def SyncedWalletStatus.operationStatus : SyncedWalletStatus → OperationStatus
  | .broadcast => .broadcast
  | .confirmed => .confirmed
  | .completed => .completed

structure WalletOperationSync where
  operationId : OperationId
  status : SyncedWalletStatus
  txid : Option Txid
  confirmationCount : Option Nat
  amount : Option Sats
  detail : Option String

def Db.applySyncUpdate (db : Db) (sync : WalletOperationSync) (now : Timestamp) : ServiceResult Db := do
  let _ ← toI64Sats (sync.amount.getD 0)
  let status := sync.status.operationStatus
  return db.updateOperation sync.operationId (·.status.open) (fun r =>
    { r with
      status := status
      txid := if r.txVout.isNone then sync.txid.or r.txid else r.txid
      confirmationCount := sync.confirmationCount.or r.confirmationCount
      amount := sync.amount.getD r.amount
      failure := (sync.detail.map (fun detail =>
        { code := "wallet_sync", message := detail, occurredAt := now })).or r.failure
      settledTick := if status.pendingSettlement then r.settledTick else r.settledTick.or (some db.tick)
      updatedAt := now })

inductive RowWrite where
  | ask (e : Ask) (x : Outside)
  | sync (update : WalletOperationSync) (now : Timestamp)

def WalletOperation.isInput (r : WalletOperation) : Bool :=
  r.status = .pending && r.txid.isNone && r.txVout.isNone && r.settledTick.isNone

def Ask.inserts : Ask → Option WalletOperation
  | .ensureWalletOperation row _ => some row
  | .insertWalletOperation row => some row
  | _ => none

def rowStep (w : World) : RowWrite → Option (World × List Event)
  | .ask e x => if e.inserts.all (·.isInput) then (handler e w x).map (·.2) else none
  | .sync update now => some (((w.db.applySyncUpdate update now).toOption.elim w ({ w with db := · })), [])

def rowWriters : Machine World RowWrite Event where
  init w := w = {}
  step := rowStep

namespace RowWrite

def operator : RowWrite → Bool
  | .ask (.retryFundingStep _) _ | .ask (.cancelAllocation ..) _ | .ask (.resolveReview ..) _
  | .ask (.completeReviewWithoutEvidence ..) _ => true
  | _ => false

def Accepted (db : Db) : RowWrite → Prop
  | .ask e x => e.Accepted db x.now
  | .sync .. => False

end RowWrite

/-! ## One write -/

inductive RowMove (db : Db) (out : List Event) : RowWrite → WalletOperation → WalletOperation → Prop where
  | asked {e x r r'} (h : RowChange db e out r r') : RowMove db out (.ask e x) r r'
  | same {update now r} : RowMove db out (.sync update now) r r
  | synced {update now r r'} (hid : r'.operationId = r.operationId) (hs : r.status.open = true)
      (h' : r'.status = update.status.operationStatus) (ht : r'.settledTick = settledNow db r r'.status)
      (hx : r'.txVout = r.txVout ∧ (r.txVout ≠ none → r'.txid = r.txid)) : RowMove db out (.sync update now) r r'

structure Inserted (db : Db) (r : WalletOperation) : Prop where
  fresh : db.operation r.operationId = none
  status : r.status ≠ .completed
  txVout : r.txVout = none
  settledTick : r.settledTick = none

variable {w w' : World} {out : List Event} {a : RowWrite} {r r' : WalletOperation}

theorem NewRow.inserted {db e row} (h : NewRow db e out row) (hi : e.inserts.all (·.isInput) = true) :
    Inserted db row := by
  have hfresh := h.fresh
  have hinput : ∀ row₀ : WalletOperation, row₀.isInput = true →
      row₀.status ≠ .completed ∧ row₀.txVout = none ∧ row₀.settledTick = none := by
    intro row₀ h
    simp only [WalletOperation.isInput, Bool.and_eq_true, decide_eq_true_eq, Option.isNone_iff_eq_none] at h
    exact ⟨by simp [h.1.1.1], h.1.2, h.2⟩
  cases h with
  | funding itemId row₀ now he hrow =>
    subst he hrow
    obtain ⟨h₁, h₂, h₃⟩ := hinput row₀ hi
    exact ⟨hfresh, h₁, h₂, h₃⟩
  | deposit row₀ now he hrow =>
    subst he hrow
    obtain ⟨h₁, h₂, h₃⟩ := hinput row₀ hi
    exact ⟨hfresh, h₁, h₂, h₃⟩
  | withdrawal config request feeRate spendable now he hrow =>
    rw [hrow] at hfresh ⊢
    exact ⟨hfresh, by simp [Db.newWithdrawal], rfl, rfl⟩

theorem applySyncUpdate_evolves {db db' update now} (h : db.applySyncUpdate update now = .ok db') :
    Table.Evolves (RowMove db out (.sync update now)) (Inserted db) db.operations db'.operations := by
  obtain ⟨_, -, h⟩ := bind_eq_ok.mp h
  cases h
  refine .update (fun _ => .same) fun r _ hp => ?_
  simp only [Bool.and_eq_true] at hp
  refine .synced rfl hp.2 rfl ?_ ⟨rfl, fun hv => if_neg (by simpa using hv)⟩
  cases update.status <;> simp [settledNow, SyncedWalletStatus.operationStatus, OperationStatus.pendingSettlement]

theorem rowStep_evolves (hk : Table.Keyed (·.operationId) w.db.operations) (h : rowStep w a = some (w', out)) :
    Table.Evolves (RowMove w.db out a) (Inserted w.db) w.db.operations w'.db.operations ∧ w.db.tick ≤ w'.db.tick := by
  cases a with
  | ask e x =>
    simp only [rowStep] at h
    split at h
    · rename_i hi
      obtain ⟨⟨r, w₁, out₁⟩, hh, he⟩ := Option.map_eq_some_iff.mp h
      cases he
      obtain ⟨g, new, heq, hg, hnew⟩ := handler_ops hk hh
      exact ⟨⟨g, new, heq, fun r hr => .asked (hg r hr), fun r hr => (hnew r hr).inserted hi⟩, handler_tick hh⟩
    · cases h
  | sync update now =>
    cases h
    cases hr : w.db.applySyncUpdate update now with
    | error e => exact ⟨.refl fun _ => .same, Nat.le_refl _⟩
    | ok db' =>
      refine ⟨applySyncUpdate_evolves hr, ?_⟩
      obtain ⟨_, -, hr⟩ := bind_eq_ok.mp hr
      cases hr
      exact Nat.le_refl _

theorem RowMove.operationId (r r' : WalletOperation) (h : RowMove w.db out a r r') :
    r'.operationId = r.operationId := by
  cases h with
  | asked h => exact h.kept.operationId
  | same => rfl
  | synced hid => exact hid

theorem Ask.Accepted.anytime {db : Db} {e : Ask} {now now'} (h : e.Accepted db now) : e.Accepted db now' := by
  cases e with
  | retryFundingStep request =>
    simp only [Ask.Accepted, Db.retryFundingStep] at h ⊢
    cases hop : db.retryOperation request with
    | error answer => simpa only [hop] using h
    | ok named =>
      simp only [hop] at h ⊢
      generalize db.retryScan named _ = scan at h ⊢
      rcases scan with answer | ⟨_ | _, _ | _⟩ <;> split_ifs at h ⊢ <;> exact h
  | cancelAllocation federationId reason =>
    simp only [Ask.Accepted, Db.cancelAllocation] at h ⊢
    generalize db.cancelScan _ = scan at h ⊢
    rcases scan with answer | ⟨_ | _, _⟩ <;> split_ifs at h ⊢ <;> exact h
  | _ => exact h

theorem Ask.Accepted.operator {db e now x} (h : e.Accepted db now) :
    (RowWrite.ask e x).operator = true := by
  cases e <;> first | exact h.elim | rfl

structure RowSafe (db : Db) (a : RowWrite) (r r' : WalletOperation) : Prop where
  completed : r.status = .completed → r'.status = .completed ∧ r'.settledTick = r.settledTick
  cancelled : r.status = .cancelled → r'.status = .cancelled
  failed : r.status = .failed → r'.status = .failed ∨ a.Accepted db
  pending : r'.status = .pending → r.status = .pending ∨ a.operator = true
  review : r.status = .manualReviewRequired → r'.status = .manualReviewRequired ∨ a.operator = true
  output : r.txVout ≠ none → r'.txVout = r.txVout ∧ r'.txid = r.txid ∨ a.operator = true ∧ r'.status = .pending

def OutputSeen (r : WalletOperation) : Prop :=
  r.txVout = none ∨ r.txid ≠ none ∧ (r.status = .broadcast ∨ r.status = .confirmed ∨ r.status = .completed)

structure RowGood (db : Db) (r : WalletOperation) : Prop where
  seen : OutputSeen r
  ticks : ∀ tick, r.settledTick = some tick → tick ≤ db.tick
  settled : r.status = .completed → r.settledTick ≠ none

theorem RowSafe.refl {db} (r : WalletOperation) : RowSafe db a r r :=
  ⟨fun h => ⟨h, rfl⟩, id, .inl, .inl, .inl, fun _ => .inl ⟨rfl, rfl⟩⟩

theorem ClaimsOutput.agrees {db} (h : ClaimsOutput db r r') :
    (r.txVout = none ∨ r'.txVout = r.txVout) ∧ (r.txid = none ∨ r'.txid = r.txid) := by
  obtain ⟨c, htxid, hvout, ht, hv, -⟩ := h
  refine ⟨?_, ?_⟩
  · cases hr : r.txVout with
    | none => exact .inl rfl
    | some vout => exact .inr (by rw [hvout, hv vout hr])
  · cases hr : r.txid with
    | none => exact .inl rfl
    | some txid => exact .inr (by rw [htxid, ht txid hr])

theorem settledNow_good {db} (status : OperationStatus) (h : ∀ tick, r.settledTick = some tick → tick ≤ db.tick) :
    (∀ tick, settledNow db r status = some tick → tick ≤ db.tick) ∧
      (status = .completed → settledNow db r status ≠ none) := by
  unfold settledNow
  cases hr : r.settledTick <;> split <;> simp_all

theorem RowChange.safe {db e x} (h : RowChange db e out r r') (hr : RowGood db r) :
    RowSafe db (.ask e x) r r' ∧ RowGood db r' := by
  obtain ⟨hseen, hticks, hsettled⟩ := hr
  cases h with
  | same h => rw [h]; exact ⟨.refl r, hseen, hticks, hsettled⟩
  | stamped _ _ h =>
    rw [h]
    exact ⟨⟨fun h => ⟨h, rfl⟩, id, .inl, .inl, .inl, fun _ => .inl ⟨rfl, rfl⟩⟩, hseen, hticks, hsettled⟩
  | broadcast _ hs h' ht hx =>
    refine ⟨?_, ?_⟩ <;> constructor <;> grind [OperationStatus.open, SameTicks, OutputSeen]
  | inDoubt | failed =>
    refine ⟨?_, ?_⟩ <;> constructor <;> grind [OperationStatus.unsent, SameOutput, SameTicks, OutputSeen]
  | fenced | escalated =>
    refine ⟨?_, ?_⟩ <;> constructor <;> grind [SameOutput, SameTicks, OutputSeen]
  | resolved outcome _ he _ hs h' ht hx =>
    have hop : (RowWrite.ask e x).operator = true := by
      rcases he with rfl | ⟨txid, reason, -, rfl⟩ <;> rfl
    have hnow := settledNow_good outcome.status hticks
    refine ⟨?_, ?_⟩ <;> constructor <;> grind [OutputSeen]
  | retried _ _ _ hs h' ht hx ha =>
    obtain ⟨now, ha⟩ := ha
    have hop : (RowWrite.ask e x).operator = true := ha.operator
    have hacc : (RowWrite.ask e x).Accepted db := ha.anytime
    refine ⟨?_, ?_⟩ <;> constructor <;> grind [OutputSeen]
  | cancelled _ hs h' ht hx ha =>
    obtain ⟨now, ha⟩ := ha
    have hacc : (RowWrite.ask e x).Accepted db := ha.anytime
    refine ⟨?_, ?_⟩ <;> constructor <;> grind [SameOutput, SameTicks, OutputSeen]
  | evidence _ _ _ _ hs h' ht hx =>
    have hagree := hx.agrees
    have hnow := settledNow_good r'.status hticks
    obtain ⟨c, htxid, hvout, -⟩ := hx
    refine ⟨?_, ?_⟩ <;> constructor <;> grind [OperationStatus.open, OutputSeen]

theorem RowMove.safe {db} (h : RowMove db out a r r') (hr : RowGood db r) : RowSafe db a r r' ∧ RowGood db r' := by
  cases h with
  | asked h => exact h.safe hr
  | same => exact ⟨.refl r, hr⟩
  | @synced update _ _ _ hid hs h' ht hx =>
    obtain ⟨hseen, hticks, hsettled⟩ := hr
    have h' : r'.status = .broadcast ∨ r'.status = .confirmed ∨ r'.status = .completed := by
      rw [h']
      cases update.status <;> simp [SyncedWalletStatus.operationStatus]
    have hnow := settledNow_good r'.status hticks
    refine ⟨?_, ?_⟩ <;> constructor <;> grind [OperationStatus.open, OutputSeen]

theorem RowMove.output {db} (h : RowMove db out a r r') (hr : OutputSeen r) :
    r'.txVout = none ∨ r'.txVout = r.txVout ∧ r'.txid = r.txid ∨
      (∃ outputs required x, a = .ask (.claimChainEvidence r.operationId outputs required) x) ∧
        ClaimsOutput db r r' := by
  cases h with
  | same => exact .inr (.inl ⟨rfl, rfl⟩)
  | synced hid hs h' ht hx => grind
  | asked h =>
    cases h with
    | same h => grind
    | stamped _ _ h => grind
    | evidence outputs required he _ _ _ _ hx => exact .inr (.inr ⟨⟨outputs, required, _, by rw [he]⟩, hx⟩)
    | broadcast _ _ _ _ hx => grind
    | resolved _ _ _ _ hs _ _ hx => grind [OutputSeen]
    | _ => grind [SameOutput]

/-! ## Every run -/

structure RowsSound (db : Db) : Prop where
  keyed : Table.Keyed (·.operationId) db.operations
  good : ∀ r ∈ db.operations, RowGood db r
  owned : ∀ r₁ ∈ db.operations, ∀ r₂ ∈ db.operations, r₁.txVout ≠ none → r₁.txVout = r₂.txVout →
    r₁.txid = r₂.txid → r₁.operationId = r₂.operationId

theorem ClaimsOutput.owner {db r₂} (h : ClaimsOutput db r r') (hs : RowsSound db) (h₂ : r₂ ∈ db.operations)
    (hvout : r₂.txVout = r'.txVout) (htxid : r₂.txid = r'.txid) : r₂.operationId = r.operationId := by
  obtain ⟨c, ht, hv, -, -, hleave⟩ := h
  unfold Db.leavesOutput at hleave
  cases hf : db.operations.find? (fun r => r.txid = some c.txid && r.txVout = some c.vout) with
  | none =>
    have := List.find?_eq_none.mp hf r₂ h₂
    simp [hvout, htxid, ht, hv] at this
  | some owner =>
    have hp := List.find?_some hf
    simp only [Bool.and_eq_true, decide_eq_true_eq] at hp
    rw [hf] at hleave
    have hid : owner.operationId = r.operationId := by simpa using hleave
    rw [← hid]
    exact hs.owned r₂ h₂ owner (List.mem_of_find?_eq_some hf) (by simp [hvout, hv]) (by rw [hvout, hv, hp.2])
      (by rw [htxid, ht, hp.1])

theorem RowsSound.step (hs : RowsSound w.db) (h : rowStep w a = some (w', out)) : RowsSound w'.db := by
  obtain ⟨hev, htick⟩ := rowStep_evolves hs.keyed h
  refine ⟨hev.keyed hs.keyed RowMove.operationId fun _ hn => Table.lookup_eq_none.mp hn.fresh, ?_, ?_⟩
  · intro r' hr'
    rcases hev.back hr' with ⟨r, hr, hm⟩ | hn
    · obtain ⟨-, hgood⟩ := hm.safe (hs.good r hr)
      exact ⟨hgood.seen, fun tick ht => (hgood.ticks tick ht).trans htick, hgood.settled⟩
    · exact ⟨.inl hn.txVout, by simp [hn.settledTick], fun hst => absurd hst hn.status⟩
  intro r₁' hr₁' r₂' hr₂' hv hvout htxid
  rcases hev.back hr₁' with ⟨r₁, hr₁, hm₁⟩ | hn₁
  · rcases hev.back hr₂' with ⟨r₂, hr₂, hm₂⟩ | hn₂
    · rw [hm₁.operationId, hm₂.operationId]
      rcases hm₁.output (hs.good r₁ hr₁).seen with h₁ | ⟨hv₁, ht₁⟩ | ⟨⟨_, _, _, ha₁⟩, hc₁⟩
      · exact absurd h₁ hv
      · rcases hm₂.output (hs.good r₂ hr₂).seen with h₂ | ⟨hv₂, ht₂⟩ | ⟨-, hc₂⟩
        · exact absurd (hvout.trans h₂) hv
        · exact hs.owned r₁ hr₁ r₂ hr₂ (hv₁ ▸ hv) (by rw [← hv₁, hvout, hv₂]) (by rw [← ht₁, htxid, ht₂])
        · exact hc₂.owner hs hr₁ (by rw [← hv₁, hvout]) (by rw [← ht₁, htxid])
      rcases hm₂.output (hs.good r₂ hr₂).seen with h₂ | ⟨hv₂, ht₂⟩ | ⟨⟨_, _, _, ha₂⟩, -⟩
      · exact absurd (hvout.trans h₂) hv
      · exact (hc₁.owner hs hr₂ (by rw [← hv₂, hvout]) (by rw [← ht₂, htxid])).symm
      · have hask := ha₁.symm.trans ha₂
        simp only [RowWrite.ask.injEq, Ask.claimChainEvidence.injEq] at hask
        exact hask.1.1
    · exact absurd (hvout.trans hn₂.txVout) hv
  · exact absurd hn₁.txVout hv

theorem rowsSound {es} (h : rowWriters.Reaches es w) : RowsSound w.db :=
  h.inv (I := fun w => RowsSound w.db) (fun _ hw => by rw [hw]; exact ⟨List.nodup_nil, by simp, by simp⟩)
    fun _ _ _ _ hi hs => hi.step hs

/-- An output is recorded on one row at most, a completed send has the tick of its settlement, and no write does to a
row what `RowSafe` excludes. -/
theorem wallet_rows_safe {es w} (h : rowWriters.Reaches es w) :
    (∀ r₁ ∈ w.db.operations, ∀ r₂ ∈ w.db.operations, r₁.txVout ≠ none → r₁.txVout = r₂.txVout →
      r₁.txid = r₂.txid → r₁.operationId = r₂.operationId) ∧
    (∀ r ∈ w.db.operations, r.status = .completed → r.operationType.outgoing = true →
      ∃ tick, r.settledTick = some tick ∧ tick ≤ w.db.tick) ∧
    ∀ a w' out, rowStep w a = some (w', out) → ∀ o r, w.db.operation o = some r →
      ∃ r', w'.db.operation o = some r' ∧ RowSafe w.db a r r' := by
  have hs := rowsSound h
  refine ⟨hs.owned, ?_, ?_⟩
  · intro r hr hst _
    obtain ⟨tick, ht⟩ := Option.ne_none_iff_exists'.mp ((hs.good r hr).settled hst)
    exact ⟨tick, ht, (hs.good r hr).ticks tick ht⟩
  intro a w' out hstep o r hr
  obtain ⟨r', hr', hm⟩ :=
    (rowStep_evolves hs.keyed hstep).1.lookup_forth (hs.step hstep).keyed RowMove.operationId hr
  exact ⟨r', hr', (hm.safe (hs.good r (Db.mem_of_operation hr).1)).1⟩

/-- Two withdrawals are of one amount to one address, and one output is found. -/
def contestedOutput : List RowWrite :=
  [.ask (.admitWithdrawal {} ⟨"intent", "address", 10, none⟩ 5 "first" 1000) {},
    .ask (.admitWithdrawal {} ⟨"other", "address", 10, none⟩ 5 "second" 1000) {}, .ask .beginBalanceRead {},
    .ask (.claimChainEvidence "first" [⟨"txid", 0, some "address", 10, 6⟩] 6) {},
    .ask (.claimChainEvidence "second" [⟨"txid", 0, some "address", 10, 6⟩] 6) {}]

theorem wallet_rows_safe_contested :
    (rowWriters.exec {} contestedOutput).map (·.1.db.operations.map (fun r =>
        (r.operationId, r.status, r.txVout, r.settledTick))) =
      some [("first", .completed, some 0, some 1), ("second", .inDoubt, none, none)] ∧
    ∀ r ∈ rowWriters.exec {} contestedOutput,
      (∀ r₁ ∈ r.1.db.operations, ∀ r₂ ∈ r.1.db.operations, r₁.txVout ≠ none → r₁.txVout = r₂.txVout →
        r₁.txid = r₂.txid → r₁.operationId = r₂.operationId) ∧
      (∀ row ∈ r.1.db.operations, row.status = .completed → row.operationType.outgoing = true →
        ∃ tick, row.settledTick = some tick ∧ tick ≤ r.1.db.tick) ∧
      ∀ a w' out, rowStep r.1 a = some (w', out) → ∀ row, r.1.db.operation "first" = some row →
        ∃ row', w'.db.operation "first" = some row' ∧ RowSafe r.1.db a row row' := by
  refine ⟨by decide +kernel, fun r hr => ?_⟩
  obtain ⟨howned, hsettled, hsafe⟩ := wallet_rows_safe (Machine.reaches_of_exec rfl hr)
  exact ⟨howned, hsettled, fun a w' out hs => hsafe a w' out hs "first"⟩

end Manifold.Liquidity
