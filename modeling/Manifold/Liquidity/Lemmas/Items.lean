import Manifold.Liquidity.Lemmas.Crowd
import Manifold.Liquidity.Lemmas.Events

/-!
# What a step writes to the items
-/

namespace Manifold.Liquidity

open Lib

structure KeptItem (i i' : AllocationItem) : Prop where
  itemId : i'.itemId = i.itemId
  federationId : i'.federationId = i.federationId
  sourceType : i'.sourceType = i.sourceType
  committedAmount : i'.committedAmount = i.committedAmount
  reservedAmount : i'.reservedAmount = i.reservedAmount

theorem KeptItem.refl (i : AllocationItem) : KeptItem i i := ⟨rfl, rfl, rfl, rfl, rfl⟩

inductive ItemChange (e : Ask) (i i' : AllocationItem) : Prop where
  | same (h : i' = i)
  | running (he : e = .markItemRunning i.itemId) (hk : KeptItem i i') (hs : i.status.active = true)
      (h' : i'.status = .running) (hstep : i'.step = i.step)
  | step (step : StepJson)
      (he : e = .updateItemStep i.itemId step ∨
        ∃ expected, e = .compareAndSetItemStep i.itemId expected step ∧ i.step = some expected)
      (hk : KeptItem i i') (hs : i.status.active = true) (h' : i'.status = i.status)
      (hstep : i'.step = some step)
  | completed (kind : FundingKind) (fulfilled : Sats) (evidence : CompletionEvidence)
      (he : e = .completeItem i.itemId kind fulfilled evidence) (hk : KeptItem i i')
      (hs : i.status.active = true) (h' : i'.status = .completed) (hstep : i'.step = i.step)
  | failed (status : ItemStatus) (failure : LiquidityFailure) (he : e = .setItemFailure i.itemId status failure)
      (hk : KeptItem i i') (hs : i.status.active = true) (h' : i'.status = status) (hstep : i'.step = i.step)
  | reset (hk : KeptItem i i') (hs : i.status = .actionRequired) (h' : i'.status = .pending)
      (hstep : i'.step = i.step)
  | stopped (hk : KeptItem i i') (h' : i'.status = .cancelled ∨ i'.status = .failed) (hstep : i'.step = i.step)
  | bound (step : StabilityStep) (he : e = .bindAndResume i.itemId step) (hk : KeptItem i i')
      (hs : i.status = .actionRequired) (h' : i'.status = .running) (hstep : i'.step = some (.stability step))

theorem ItemChange.kept {e i i'} (h : ItemChange e i i') : KeptItem i i' := by
  cases h with
  | same h => rw [h]; exact KeptItem.refl i
  | _ => assumption

theorem ItemChange.step_cases {e i i'} (h : ItemChange e i i') :
    i'.step = i.step ∨
      (∃ step, (e = .updateItemStep i.itemId step ∨
          ∃ expected, e = .compareAndSetItemStep i.itemId expected step ∧ i.step = some expected) ∧
        i.status.active = true ∧ i'.step = some step) ∨
      ∃ step, e = .bindAndResume i.itemId step ∧ i.status = .actionRequired ∧ i'.status = .running ∧
        i'.step = some (.stability step) := by
  cases h with
  | same h => exact .inl (by rw [h])
  | step step he _ hs _ hstep => exact .inr (.inl ⟨step, he, hs, hstep⟩)
  | bound step he _ hs h' hstep => exact .inr (.inr ⟨step, he, hs, h', hstep⟩)
  | _ => exact .inl (by assumption)

abbrev ItemsDerive (e : Ask) : List AllocationItem → List AllocationItem → Prop :=
  Table.Derives (·.itemId) (ItemChange e)

theorem itemsDerive_refl {e t} : ItemsDerive e t t := .refl fun _ => .same rfl

namespace Db

variable {db db' : Db} {e : Ask}

theorem items_updateItem {id guard f} (hf : ∀ i, (f i).itemId = i.itemId)
    (h : ∀ i, i.itemId = id → guard i = true → ItemChange e i (f i)) :
    ItemsDerive e db.items (db.updateItem id guard f).items :=
  .update (fun _ => .same rfl) (fun i _ hp => by
    simp only [Bool.and_eq_true, beq_iff_eq] at hp
    exact h i hp.1 hp.2) fun i _ => hf i

/-! ## Retry and cancellation -/

theorem foldl_items {C} {ids : List ItemId} {step} (hC : ∀ i, C i i) (htrans : ∀ a b c, C a b → C b c → C a c)
    (h : ∀ d id, Table.Derives (·.itemId) C d.items (step d id).items) :
    Table.Derives (·.itemId) C db.items (ids.foldl step db).items := by
  induction ids generalizing db with
  | nil => exact .refl hC
  | cons id ids ih => exact (h db id).trans htrans ih

theorem foldl_operations_items {ids : List OperationId} {step} (h : ∀ d id, (step d id).items = d.items) :
    (ids.foldl step db).items = db.items := by
  induction ids generalizing db with
  | nil => rfl
  | cons id ids ih => rw [List.foldl_cons, ih, h]

def Requeued (i i' : AllocationItem) : Prop :=
  i' = i ∨ KeptItem i i' ∧ i.status = .actionRequired ∧ i'.status = .pending ∧ i'.step = i.step

theorem requeue_items (ids : List ItemId) (wallets : List OperationId) (now : Timestamp) :
    Table.Derives (·.itemId) Requeued db.items (db.requeue ids wallets now).items := by
  have hops : (wallets.foldl (fun d id => d.resetWalletOperation id now) db).items = db.items :=
    foldl_operations_items fun _ _ => rfl
  rw [← hops]
  refine foldl_items (fun _ => .inl rfl) ?_ fun d id => ?_
  · rintro a b c (rfl | hab) (rfl | hbc)
    · exact .inl rfl
    · exact .inr hbc
    · exact .inr hab
    · rw [hab.2.2.1] at hbc
      exact absurd hbc.2.1 (by simp)
  · refine .update (fun _ => .inl rfl) (fun i _ hp => ?_) fun _ _ => rfl
    simp only [Bool.and_eq_true, decide_eq_true_eq] at hp
    exact .inr ⟨⟨rfl, rfl, rfl, rfl, rfl⟩, hp.2, rfl, rfl⟩

def Cancelled (i i' : AllocationItem) : Prop :=
  i' = i ∨ KeptItem i i' ∧ i'.status = .cancelled ∧ i'.step = i.step

theorem cancelAll_items (ids : List ItemId) (wallets : List OperationId) (reason : String) (now : Timestamp) :
    Table.Derives (·.itemId) Cancelled db.items (db.cancelAll ids wallets reason now).items := by
  have hops : (wallets.foldl (fun d id => d.cancelWalletOperation id reason now) db).items = db.items :=
    foldl_operations_items fun _ _ => rfl
  rw [← hops]
  refine foldl_items (fun _ => .inl rfl) ?_ fun d id => ?_
  · rintro a b c (rfl | hab) (rfl | hbc)
    · exact .inl rfl
    · exact .inr hbc
    · exact .inr hab
    refine .inr ⟨⟨?_, ?_, ?_, ?_, ?_⟩, hbc.2.1, hbc.2.2.trans hab.2.2⟩
    · exact hbc.1.itemId.trans hab.1.itemId
    · exact hbc.1.federationId.trans hab.1.federationId
    · exact hbc.1.sourceType.trans hab.1.sourceType
    · exact hbc.1.committedAmount.trans hab.1.committedAmount
    · exact hbc.1.reservedAmount.trans hab.1.reservedAmount
  · exact .update (fun _ => .inl rfl) (fun i _ _ => .inr ⟨⟨rfl, rfl, rfl, rfl, rfl⟩, rfl, rfl⟩) fun _ _ => rfl

theorem runRetry_items (request : RetryRequest) (now : Timestamp) :
    ItemsDerive e db.items (db.runRetry request now).2.1.items := by
  rcases retryFundingStep_cases db request now with h | ⟨ids, wallets, h, -⟩
  · simp only [runRetry, h]; exact itemsDerive_refl
  simp only [runRetry, h]
  refine (requeue_items ids wallets now).mono ?_
  rintro i i' (rfl | ⟨hk, hs, h', hstep⟩)
  · exact .same rfl
  · exact .reset hk hs h' hstep

theorem cancelAllocation_items (federationId : FederationId) (reason : Option String) (now : Timestamp) :
    ItemsDerive e db.items (db.cancelAllocation federationId reason now).2.items := by
  rcases cancelAllocation_cases db federationId reason now with h | ⟨ids, wallets, text, h, -⟩
  · rw [h]; exact itemsDerive_refl
  rw [h]
  refine (cancelAll_items ids wallets text now).mono ?_
  rintro i i' (rfl | ⟨hk, h', hstep⟩)
  · exact .same rfl
  · exact .stopped hk (.inl h') hstep

/-! ## Acceptance -/

structure Planned (config : SetupConfig) (federationId : FederationId) (p : PlannedItem) : Prop where
  itemId : p.itemId = itemIdOf federationId p.sourceType
  amount : 0 < p.amount
  reserved : p.reservedAmount = p.amount + config.feeReserve

theorem planItem_eq {config federationId source amount items}
    (h : planItem config federationId source amount = .ok items) :
    ∀ p ∈ items, Planned config federationId p ∧ p.sourceType = source ∧ items = [p] := by
  unfold planItem at h
  split at h
  · rename_i hpos
    obtain ⟨reserved, hr, h⟩ := bind_eq_ok.mp h
    cases h
    unfold checkedSatsAdd at hr
    split at hr
    · cases hr
      intro p hp
      rw [List.mem_singleton.mp hp]
      exact ⟨⟨rfl, hpos, rfl⟩, rfl, rfl⟩
    · cases hr
  · cases h; simp

theorem itemIdOf_source {federationId a b} (h : itemIdOf federationId a = itemIdOf federationId b) : a = b := by
  have hd : a.display = b.display := (String.append_right_inj _).mp h
  cases a <;> cases b <;> first | rfl | exact absurd hd (by decide)

theorem planItems_planned {config request items} (h : planItems config request = .ok items) :
    (∀ p ∈ items, Planned config request.target.federationId p) ∧ (items.map (·.itemId)).Nodup := by
  obtain ⟨gateway, hg, h⟩ := bind_eq_ok.mp h
  obtain ⟨stability, hs, h⟩ := bind_eq_ok.mp h
  cases h
  have hg := planItem_eq hg
  have hs := planItem_eq hs
  constructor
  · intro p hp
    rcases List.mem_append.mp hp with hp | hp
    · exact (hg p hp).1
    · exact (hs p hp).1
  have hone : ∀ {l : List PlannedItem} {source : SourceType},
      (∀ p ∈ l, Planned config request.target.federationId p ∧ p.sourceType = source ∧ l = [p]) →
      (l.map (·.itemId)).Nodup := by
    intro l source hl
    cases l with
    | nil => simp
    | cons p l => rw [(hl p List.mem_cons_self).2.2]; simp
  rw [List.map_append, List.nodup_append]
  refine ⟨hone hg, hone hs, fun a ha b hb hab => ?_⟩
  obtain ⟨p, hp, rfl⟩ := List.mem_map.mp ha
  obtain ⟨q, hq, rfl⟩ := List.mem_map.mp hb
  rw [(hg p hp).1.itemId, (hs q hq).1.itemId] at hab
  have := itemIdOf_source hab
  rw [(hg p hp).2.1, (hs q hq).2.1] at this
  cases this

end Db

structure Accepted (e : Ask) (out : List Event) (kept new : List AllocationItem) (config : SetupConfig)
    (revision : Nat) (request : LiquidityRequest) (items : List PlannedItem) (stamp : SourceType → Timestamp) : Prop where
  ask : e = .acceptRequest config revision request
  plan : planItems config request = .ok items
  new : new = items.map (Db.newItem stamp request.target.federationId)
  inserted : ∃ before, out = before ++ [.allocationInserted request.target.federationId] ∧
    ∀ ev ∈ before, ev = .allocationReleased request.target.federationId
  free : ∀ p ∈ items, ∀ i ∈ kept, i.itemId ≠ p.itemId

def ItemsStep (e : Ask) (out : List Event) (t t' : List AllocationItem) : Prop :=
  ∃ kept new, t' = kept ++ new ∧ ItemsDerive e t kept ∧
    (∀ i ∈ kept, .allocationReleased i.federationId ∉ out) ∧
    (new = [] ∨ ∃ config revision request items stamp, Accepted e out kept new config revision request items stamp)

section handler

variable {w w' : World} {x : Outside} {out : List Event} {e : Ask} {r : Ans e} {f : FederationId}

theorem itemsStep_of_derive {t t'} (h : ItemsDerive e t t') (hno : ∀ f, .allocationReleased f ∉ out) :
    ItemsStep e out t t' :=
  ⟨t', [], by simp, h, fun i _ => hno i.federationId, .inl rfl⟩

theorem World.run_items {α : Type} {f : Db → ServiceResult α × Db × List Event} {r : ServiceResult α}
    (h : w.run x f = some (r, w', out)) (hf : ItemsDerive e w.db.items (f w.db).2.1.items) :
    ItemsDerive e w.db.items w'.db.items := by
  rcases World.run_cases h with ⟨rfl, -, -⟩ | ⟨rfl, -, -⟩
  · exact itemsDerive_refl
  · exact hf

theorem runRelease_items {r'} (hs : handler (.releaseAllocation f) w x = some (r', w', out)) :
    ItemsStep (.releaseAllocation f) out w.db.items w'.db.items := by
  simp only [handler] at hs
  rcases World.run_cases hs with ⟨rfl, rfl, -⟩ | ⟨rfl, rfl, -⟩
  · exact itemsStep_of_derive itemsDerive_refl (by simp)
  rcases Db.releaseAllocation_cases w.db f with ⟨a, h, -⟩ | ⟨hne, h⟩
  · simp only [Db.runRelease, h]
    refine ⟨_, [], (List.append_nil _).symm, .filter fun _ => .same rfl, fun i hi hev => ?_, .inl rfl⟩
    have hf : i.federationId = f := by simpa using hev
    simp [Db.deleteAllocation, hf] at hi
  have hrun : (w.db.runRelease f).2 = (w.db, []) := by
    unfold Db.runRelease
    split
    · rename_i hr
      exact absurd (by rw [hr]) (hne _)
    · rename_i hr
      rw [hr] at h
      exact Prod.ext h rfl
  rw [hrun]
  exact itemsStep_of_derive itemsDerive_refl (by simp)

theorem runAccept_items {config revision request r'}
    (hs : handler (.acceptRequest config revision request) w x = some (r', w', out)) :
    ItemsStep (.acceptRequest config revision request) out w.db.items w'.db.items := by
  simp only [handler] at hs
  rcases World.run_cases hs with ⟨rfl, rfl, -⟩ | ⟨rfl, rfl, -⟩
  · exact itemsStep_of_derive itemsDerive_refl (by simp)
  unfold Db.runAccept
  split
  · exact itemsStep_of_derive itemsDerive_refl (by simp)
  · rename_i plan db' released h
    rcases Db.acceptRequest_cases h with ⟨hne, -⟩ | ⟨plan', freed, hplan, hitems, hfreed, -, hins⟩
    · exact absurd rfl (hne plan)
    cases hplan
    obtain ⟨hdb, -, hfree⟩ := Db.insertAllocation_eq hins
    have hno : ∀ p ∈ plan.items, ∀ i ∈ freed.items, i.itemId ≠ p.itemId := fun p hp =>
      Table.lookup_eq_none.mp (hfree p hp)
    refine ⟨freed.items, plan.items.map (Db.newItem x.stamp request.target.federationId), by rw [hdb], ?_, ?_,
      .inr ⟨config, revision, request, plan.items, x.stamp, rfl, hitems, rfl, ?_, hno⟩⟩
    · rw [hfreed]
      cases released
      · exact itemsDerive_refl
      · exact .filter fun _ => .same rfl
    · intro i hi hev
      cases released
      · simp at hev
      · have hf : i.federationId = request.target.federationId := by simpa using hev
        rw [hfreed] at hi
        simp [Db.deleteAllocation, hf] at hi
    · exact ⟨_, rfl, by cases released <;> simp⟩
  rename_i acceptance db' released hne h
  rcases Db.acceptRequest_cases h with ⟨-, rfl⟩ | ⟨plan, -, hplan, -⟩
  · exact itemsStep_of_derive itemsDerive_refl (by simp)
  · exact absurd hplan (hne plan)

theorem handler_items (hk : Table.Keyed (·.operationId) w.db.operations)
    (hs : handler e w x = some (r, w', out)) : ItemsStep e out w.db.items w'.db.items := by
  -- only a release or an acceptance emits a release
  have hno : (∀ f, e ≠ .releaseAllocation f) → (∀ c v q, e ≠ .acceptRequest c v q) →
      ∀ f, .allocationReleased f ∉ out := fun h₁ h₂ f hev => by
    rcases handler_emits hk hs _ hev with he | ⟨_, _, _, he, -⟩
    · exact h₁ _ he
    · exact h₂ _ _ _ he
  by_cases hw : e.writesItems = false
  · refine itemsStep_of_derive ((handler_framed hs).items hw ▸ itemsDerive_refl) (hno ?_ ?_)
    · rintro _ rfl; cases hw
    · rintro _ _ _ rfl; cases hw
  cases e <;> try exact absurd rfl hw
  all_goals simp only [handler] at hs
  case releaseAllocation f => exact runRelease_items hs
  case acceptRequest config revision request => exact runAccept_items hs
  all_goals refine itemsStep_of_derive (World.run_items hs ?_) (hno (by simp) (by simp))
  case markItemRunning id =>
    exact Db.items_updateItem (fun _ => rfl) fun i hid hg =>
      .running (by rw [hid]) ⟨rfl, rfl, rfl, rfl, rfl⟩ hg rfl rfl
  case updateItemStep id step =>
    exact Db.items_updateItem (fun _ => rfl) fun i hid hg =>
      .step step (.inl (by rw [hid])) ⟨rfl, rfl, rfl, rfl, rfl⟩ hg rfl rfl
  case compareAndSetItemStep id expected next =>
    refine Db.items_updateItem (fun _ => rfl) fun i hid hg => ?_
    simp only [Bool.and_eq_true, decide_eq_true_eq] at hg
    exact .step next (.inr ⟨expected, by rw [hid], hg.2⟩) ⟨rfl, rfl, rfl, rfl, rfl⟩ hg.1 rfl rfl
  case completeItem id kind fulfilled evidence =>
    simp only [Db.runComplete, Db.completeItem]
    split
    · exact itemsDerive_refl
    · exact Db.items_updateItem (fun _ => rfl) fun i hid hg =>
        .completed kind fulfilled evidence (by rw [hid]) ⟨rfl, rfl, rfl, rfl, rfl⟩ hg rfl rfl
  case setItemFailure id status failure =>
    exact Db.items_updateItem (fun _ => rfl) fun i hid hg =>
      .failed status failure (by rw [hid]) ⟨rfl, rfl, rfl, rfl, rfl⟩ hg rfl rfl
  case retryFundingStep request => exact Db.runRetry_items request x.now
  case cancelAllocation federationId reason => exact Db.cancelAllocation_items federationId reason x.now
  case abandonGatewayItem id operationId detail =>
    simp only [Db.abandonGatewayItem]
    split
    · exact itemsDerive_refl
    split
    · exact itemsDerive_refl
    split
    · exact Db.items_updateItem (fun _ => rfl) fun i _ _ => .stopped ⟨rfl, rfl, rfl, rfl, rfl⟩ (.inr rfl) rfl
    · exact itemsDerive_refl
  case abandonTargetClientValue id detail =>
    simp only [Db.abandonTargetClientValue]
    split
    · exact Db.items_updateItem (fun _ => rfl) fun i _ _ => .stopped ⟨rfl, rfl, rfl, rfl, rfl⟩ (.inr rfl) rfl
    · exact itemsDerive_refl
  case bindAndResume id step =>
    simp only [Db.runBind, Db.bindAndResume]
    split
    · refine Db.items_updateItem (fun _ => rfl) fun i hid hg => ?_
      simp only [decide_eq_true_eq] at hg
      exact .bound step (by rw [hid]) ⟨rfl, rfl, rfl, rfl, rfl⟩ hg rfl rfl
    · exact itemsDerive_refl

theorem ItemsStep.back {t t'} (h : ItemsStep e out t t') {i'} (hi : i' ∈ t') :
    (∃ i ∈ t, ItemChange e i i' ∧ .allocationReleased i.federationId ∉ out) ∨
      ∃ kept new config revision request items stamp, Accepted e out kept new config revision request items stamp ∧
        ∃ p ∈ items, i' = Db.newItem stamp request.target.federationId p := by
  obtain ⟨kept, new, rfl, hd, hrel, hnew⟩ := h
  rcases List.mem_append.mp hi with hi | hi
  · obtain ⟨i, hit, hc⟩ := hd.back i' hi
    exact .inl ⟨i, hit, hc, hc.kept.federationId ▸ hrel i' hi⟩
  rcases hnew with rfl | ⟨config, revision, request, items, now, hacc⟩
  · cases hi
  · rw [hacc.new] at hi
    obtain ⟨p, hp, rfl⟩ := List.mem_map.mp hi
    exact .inr ⟨kept, new, config, revision, request, items, now, hacc, p, hp, rfl⟩

theorem ItemsStep.keyed {t t'} (h : ItemsStep e out t t') (hk : Table.Keyed (·.itemId) t) :
    Table.Keyed (·.itemId) t' := by
  obtain ⟨kept, new, rfl, hd, -, hnew⟩ := h
  have hkept := hd.keyed hk
  rcases hnew with rfl | ⟨config, revision, request, items, now, hacc⟩
  · rwa [List.append_nil]
  have hids : new.map (·.itemId) = items.map (·.itemId) := by
    rw [hacc.new, List.map_map]
    rfl
  rw [Table.Keyed, List.map_append, hids, List.nodup_append]
  refine ⟨hkept, (Db.planItems_planned hacc.plan).2, fun a ha b hb => ?_⟩
  obtain ⟨i, hi, rfl⟩ := List.mem_map.mp ha
  obtain ⟨p, hp, rfl⟩ := List.mem_map.mp hb
  exact hacc.free p hp i hi

end handler

end Manifold.Liquidity
