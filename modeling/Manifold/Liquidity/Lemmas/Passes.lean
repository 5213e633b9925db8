import Manifold.Liquidity.Lemmas.Follows

/-!
# The gateway pass follows the protocol
-/

namespace Manifold.Liquidity

open Lib Lib.Routine

variable {kind : FundingKind} {rest : List Snap} {s : Snap} {grant : Grant} {Φ : Stage → Prop}

/-! ## Steps of the item in its turn -/

theorem turn_setAddress {l step} (h : Turn kind rest s l) :
    Turn kind rest { s with address := fundedAddress kind (some step) } (l.setAddress step) where
  worker := h.worker
  quiet := h.quiet
  sub := h.sub
  keyed := h.keyed
  turn := by simp only [Stage.setAddress, h.worker, h.turn, Option.map_some]

theorem obeys_updateItemStep {step g} (h : s.address = none ∨ fundedAddress kind (some step) = s.address) :
    Obeys protocol (fun l => Turn kind rest s l ∧ l.grant = g)
      (Job.tryAsk (Job.ask (.updateItemStep s.itemId step)))
      (Ends kind rest fun _ l =>
        Turn kind rest { s with address := fundedAddress kind (some step) } l ∧ l.grant = g) := by
  refine Obeys.tryAsk (Obeys.ask (fun l hl => ?_) fun l r hl _ => ?_)
  · exact Stage.allows_of_quiet hl.1.quiet ⟨kind, s, ⟨hl.1.worker, hl.1.turn⟩, rfl, h⟩
  · cases r with
    | error e => exact hl.1.toWaits
    | ok u => exact ⟨turn_setAddress hl.1, hl.2⟩

theorem obeys_compareAndSetItemStep {expected next g} (h : fundedAddress kind (some next) = s.address) :
    Obeys protocol (fun l => Turn kind rest s l ∧ l.grant = g)
      (Job.tryAsk (Job.ask (.compareAndSetItemStep s.itemId expected next)))
      (Ends kind rest fun _ l => Turn kind rest s l ∧ l.grant = g) := by
  refine Obeys.tryAsk (Obeys.ask (fun l hl => ?_) fun l r hl _ => ?_)
  · exact Stage.allows_of_quiet hl.1.quiet ⟨kind, s, ⟨hl.1.worker, hl.1.turn⟩, rfl, .inr h⟩
  have hset : Turn kind rest s (l.setAddress next) := by
    have := @turn_setAddress _ _ _ _ next hl.1
    rwa [h] at this
  cases r with
  | error e => exact hl.1.toWaits
  | ok b =>
    cases b with
    | true => exact ⟨hset, hl.2⟩
    | false => exact hl

theorem obeys_completeItem {fulfilled evidence} :
    Over kind rest (Job.tryAsk (Job.ask (.completeItem s.itemId kind fulfilled evidence)))
      (Granted kind rest s grant) := by
  refine Obeys.tryAsk (Obeys.ask (fun l hl => ?_) fun l r hl _ => ?_)
  · exact Stage.allows_of_quiet hl.quiet ⟨s, ⟨hl.worker, hl.turn⟩, rfl, by rw [hl.grant]; rfl⟩
  · cases r <;> exact hl.toWaits

theorem obeys_markItemRunning (hk : Table.Keyed (·.itemId) (s :: rest)) :
    Obeys protocol (Waits kind (s :: rest)) (Job.tryAsk (Job.ask (.markItemRunning s.itemId)))
      (Ends kind rest fun b l => if b then Turn kind rest s l ∧ l.grant = none else Waits kind rest l) := by
  have hs : s ∈ s :: rest := List.mem_cons_self
  refine Obeys.tryAsk (Obeys.ask (fun l hl => ?_) fun l r hl _ => ?_)
  · exact Stage.allows_of_quiet hl.quiet ⟨by rw [hl.worker]; rfl, s, hl.sub s hs, rfl⟩
  rcases r with e | (_ | _)
  · exact hl.tail
  · exact hl.tail
  refine ⟨⟨⟨hl.worker, rfl, fun s' hs' => ?_, hl.keyed.filter⟩, hl.keyed.lookup (hl.sub s hs)⟩, rfl⟩
  -- the other items have other ids
  have hne : s'.itemId ≠ s.itemId := fun he =>
    (List.nodup_cons.mp hk).1 (List.mem_map.mpr ⟨s', hs', he⟩)
  exact List.mem_filter.mpr ⟨hl.sub s' (List.mem_cons_of_mem _ hs'), by simpa using hne⟩

/-! ## Gateway items -/

def GatewayItem.snap (item : GatewayItem) : Snap :=
  ⟨item.itemId, item.federationId, gatewayWithdrawalAmount item, item.step.depositAddress⟩

theorem stepOf_gateway (item : GatewayItem) : StepOf .gateway item.snap (gatewayFundingStep item) :=
  ⟨rfl, rfl, rfl, rfl, rfl⟩

theorem obeys_saveGatewayStep {item : GatewayItem} {step : GatewayStep} {g}
    (h : item.step.depositAddress = none ∨ step.depositAddress = item.step.depositAddress) :
    Obeys protocol (fun l => Turn .gateway rest item.snap l ∧ l.grant = g)
      (saveGatewayStep { item with step := step })
      (Ends .gateway rest fun _ l =>
        Turn .gateway rest ({ item with step := step } : GatewayItem).snap l ∧ l.grant = g) :=
  obeys_updateItemStep (s := item.snap) h

theorem obeys_saveGranted (item : GatewayItem) (step : GatewayStep)
    (h : step.depositAddress = item.step.depositAddress) :
    Obeys protocol (Granted .gateway rest item.snap grant) (saveGatewayStep { item with step := step })
      (Ends .gateway rest fun _ => Granted .gateway rest ({ item with step := step } : GatewayItem).snap grant) :=
  Obeys.mono (obeys_saveGatewayStep (g := some grant) (.inr h)) (fun _ hl => ⟨hl.toTurn, hl.grant⟩)
    fun r _ hr => by
      cases r with
      | error e => exact hr
      | ok u => exact ⟨hr.1, hr.2⟩

abbrev GatewayPhase (rest : List Snap) : Phase (GatewayItem × Bool) → Stage → Prop :=
  InPhase (Waits .gateway rest) fun r => Turn .gateway rest r.1.snap

theorem obeys_saveThenGo {item : GatewayItem} {step : GatewayStep} {advanced}
    (h : item.step.depositAddress = none ∨ step.depositAddress = item.step.depositAddress) :
    Obeys protocol (Turn .gateway rest item.snap)
      (saveGatewayStep { item with step := step } >>= fun _ =>
        (pure (.go ({ item with step := step }, advanced)) : Job (Phase (GatewayItem × Bool))))
      (Ends .gateway rest (GatewayPhase rest)) := fun l hl =>
  Obeys.bind (R := fun _ l' => Turn .gateway rest ({ item with step := step } : GatewayItem).snap l' ∧
      l'.grant = l.grant) (obeys_saveGatewayStep h)
    (fun _ => Obeys.pure fun _ h => h.1) l ⟨hl, rfl⟩

theorem obeys_markGatewayConnected {item} :
    Obeys protocol (Turn .gateway rest item.snap) (markGatewayConnected item)
      (Ends .gateway rest (GatewayPhase rest)) :=
  obeys_saveThenGo (.inr rfl)

theorem turn_waits (l : Stage) (h : Turn kind rest s l) : Waits kind rest l := h.toWaits

theorem granted_waits (l : Stage) (h : Granted kind rest s grant l) : Waits kind rest l := h.toWaits

theorem obeys_stopGateway {item : GatewayItem} {code reason} :
    Obeys protocol (Turn .gateway rest item.snap) (stopForAction item.itemId code reason)
      (Ends .gateway rest (GatewayPhase rest)) :=
  inPhase_stopForAction (over_requireItemAction (s := item.snap) fun _ h => h)

theorem obeys_connectGateway {item} :
    Obeys protocol (Turn .gateway rest item.snap) (connectGateway item)
      (Ends .gateway rest (GatewayPhase rest)) := by
  refine yields_after turn_waits (stays_query quiet_turn _) fun checked => ?_
  cases checked with
  | error _ => exact obeys_stopGateway
  | ok invite =>
    refine yields_after turn_waits (stays_query quiet_turn _) fun connected => ?_
    cases connected with
    | error _ => exact obeys_stopGateway
    | ok federation =>
      dsimp only
      split
      · exact obeys_stopGateway
      · exact obeys_markGatewayConnected

theorem obeys_ensureGatewayConnected {snapshot item} :
    Obeys protocol (Turn .gateway rest item.snap) (ensureGatewayConnected snapshot item)
      (Ends .gateway rest (GatewayPhase rest)) := by
  unfold ensureGatewayConnected
  dsimp only
  split
  · exact Obeys.pure fun _ h => h
  · split
    · exact obeys_markGatewayConnected
    · exact obeys_connectGateway

theorem obeys_ensureDepositAddress {validAddress setup item advanced} :
    Obeys protocol (Turn .gateway rest item.snap) (ensureDepositAddress validAddress setup item advanced)
      (Ends .gateway rest (GatewayPhase rest)) := by
  unfold ensureDepositAddress
  split
  · exact Obeys.pure fun _ h => h
  rename_i hnone
  refine yields_after turn_waits (stays_query quiet_turn _) fun answer => ?_
  cases answer with
  | error e => exact obeys_stopGateway
  | ok address =>
    dsimp only
    split
    · exact obeys_stopGateway
    · exact obeys_saveThenGo (.inl hnone)

theorem over_noteAttributionDelay {setup item r} :
    Obeys protocol (Granted .gateway rest item.snap grant) (noteAttributionDelay setup item r)
      (Ends .gateway rest fun _ => Granted .gateway rest item.snap grant) := by
  unfold noteAttributionDelay
  split
  · exact Obeys.pure fun _ h => h
  refine yields_after granted_waits (stays_query quiet_granted _) fun now => ?_
  split
  · exact Obeys.pure fun _ h => h
  · exact obeys_saveGranted item { item.step with attributionOverdueSince := some now } rfl

theorem stays_recheckGatewayDeposit (hq : Quiet Φ) {item} : Stays protocol Φ (recheckGatewayDeposit item) := by
  unfold recheckGatewayDeposit
  split
  · exact stays_pure
  · exact stays_orUnavailable (stays_query hq _)

theorem over_recheckAndNoteDelay {setup item r} :
    Over .gateway rest (recheckAndNoteDelay setup item r) (Granted .gateway rest item.snap grant) :=
  Leaves.bind over_noteAttributionDelay fun _ =>
    Leaves.after granted_waits (stays_recheckGatewayDeposit quiet_granted) fun _ => Obeys.pure granted_waits

theorem over_completeClaimed {setup item r} :
    Over .gateway rest (completeClaimed setup item r) (Granted .gateway rest item.snap grant) := by
  have hq : Quiet (Granted .gateway rest item.snap grant) := quiet_granted
  refine Leaves.after granted_waits (stays_orUnavailable (stays_query hq _)) fun observed => ?_
  split
  · exact over_recheckAndNoteDelay
  refine Leaves.after granted_waits (stays_query hq _) fun now => ?_
  refine Leaves.after granted_waits (stays_tryAsk (stays_neutral hq rfl)) fun _ => ?_
  refine Leaves.after granted_waits (stays_orUnavailable (stays_query hq _)) fun info => ?_
  refine Leaves.after granted_waits (stays_query hq _) fun completed => ?_
  exact obeys_completeItem (s := item.snap)

theorem over_completeIfGatewayFunded {setup item o} :
    Over .gateway rest (completeIfGatewayFunded setup item o) (Granted .gateway rest item.snap grant) := by
  refine Leaves.after granted_waits (stays_tryAsk (stays_neutral quiet_granted rfl)) fun r => ?_
  split
  · exact over_recheckAndNoteDelay
  refine Leaves.after granted_waits (stays_query quiet_granted _) fun answer => ?_
  split
  · exact Obeys.pure granted_waits
  · exact over_recheckAndNoteDelay
  · exact over_completeClaimed

theorem obeys_saveGatewayOperation {item r} :
    Obeys protocol (Granted .gateway rest item.snap grant) (saveGatewayOperation item r)
      (Ends .gateway rest fun item' => Granted .gateway rest item'.snap grant) := by
  unfold saveGatewayOperation
  split
  · exact Obeys.pure fun _ h => h
  · exact Obeys.bind
      (obeys_saveGranted item { item.step with walletOperationId := some r.operationId } rfl)
      fun _ => Obeys.pure fun _ h => h

theorem over_advanceGatewayOperation {setup item advanced r} (hg : grant.Of r) :
    Over .gateway rest (advanceGatewayOperation setup item advanced r)
      (Granted .gateway rest item.snap grant) := by
  have hdone : ∀ b : Bool, Over .gateway rest (pure b) (Granted .gateway rest item.snap grant) :=
    fun _ => Obeys.pure granted_waits
  unfold advanceGatewayOperation
  split
  · rename_i hp
    rw [hg.eq_of_pending hp]
    exact Leaves.then (over_submitFundingWithdrawal (stepOf_gateway item)) fun _ => stays_pure
  · exact hdone _
  · exact hdone _
  · exact hdone _
  · exact hdone _
  · exact Leaves.then (over_requireItemAction (s := item.snap) fun _ h => h.toTurn) fun _ => stays_pure
  · exact Leaves.then (over_failItem (s := item.snap) fun _ h => h.toTurn) fun _ => stays_pure
  · exact over_completeIfGatewayFunded

theorem over_fundGatewayItem {setup item advanced} :
    Over .gateway rest (fundGatewayItem setup item advanced) (Turn .gateway rest item.snap) := by
  refine Leaves.bind (obeys_ensureWalletOperation (stepOf_gateway item)) fun r => ?_
  cases r with
  | none => exact Obeys.pure fun _ h => h
  | some r =>
    exact Obeys.granted fun g hg =>
      Leaves.bind obeys_saveGatewayOperation fun item' => over_advanceGatewayOperation hg

theorem over_processGatewayItem {validAddress setup snapshot item}
    (hk : Table.Keyed (·.itemId) (item.snap :: rest)) :
    Over .gateway rest (processGatewayItem validAddress setup snapshot item)
      (Waits .gateway (item.snap :: rest)) := by
  refine leaves_markRunningThen (obeys_markItemRunning hk) (Obeys.mono ?_ (fun _ h => h.1) fun _ _ h => h)
  unfold advanceGatewayItem
  split
  · exact Leaves.then (over_requireItemAction (s := item.snap) fun _ h => h) fun _ => stays_pure
  · refine leaves_andPhase obeys_ensureGatewayConnected fun r => ?_
    refine leaves_andPhase obeys_ensureDepositAddress fun r' => ?_
    exact over_fundGatewayItem

theorem over_processGatewayItems {validAddress setup snapshot items}
    (hk : Table.Keyed (·.itemId) (items.map GatewayItem.snap)) :
    Over .gateway [] (processGatewayItems validAddress setup snapshot items)
      (Waits .gateway (items.map GatewayItem.snap)) := by
  induction items with
  | nil => exact Obeys.pure fun _ h => h
  | cons item items ih =>
    have hnil : ∀ l, Waits .gateway (items.map GatewayItem.snap) l → Waits .gateway [] l := fun l hl =>
      ⟨hl.worker, hl.quiet, by simp, hl.keyed⟩
    refine Obeys.bind (R := fun _ => Waits .gateway (items.map GatewayItem.snap))
      (Obeys.attempt ((over_processGatewayItem hk).mono (fun _ h => h) fun _ _ h => h)) fun r => ?_
    have hrest := ih (List.nodup_cons.mp hk).2
    cases r with
    | ok b => exact hrest
    | error e =>
      dsimp only
      split
      · exact hrest
      · exact Obeys.throw hnil

theorem gatewayItemOfRow_snap {row item} (h : gatewayItemOfRow row = .ok item) : item.snap = snapOf .gateway row.1 := by
  unfold gatewayItemOfRow at h
  cases hs : StepJson.readGateway row.1.step with
  | error e => rw [hs] at h; cases h
  | ok step =>
    rw [hs] at h
    cases h
    simp only [GatewayItem.snap, gatewayWithdrawalAmount, snapOf, fundedAmount, fundedAddress, hs]
    rfl

theorem gatewayItems_snap {rows : List (AllocationItem × FundingTarget)} {items : List GatewayItem}
    (h : rows.mapM gatewayItemOfRow = .ok items) :
    items.map GatewayItem.snap = rows.map (fun row => snapOf .gateway row.1) := by
  induction rows generalizing items with
  | nil => cases h; rfl
  | cons row rows ih =>
    rw [List.mapM_cons] at h
    cases hi : gatewayItemOfRow row with
    | error e => rw [hi] at h; cases h
    | ok item =>
      cases hr : rows.mapM gatewayItemOfRow with
      | error e => rw [hi, hr] at h; cases h
      | ok tail =>
        rw [hi, hr] at h
        cases h
        rw [List.map_cons, List.map_cons, gatewayItemOfRow_snap hi, ih hr]

def Begins (kind : FundingKind) (l : Stage) : Prop := l.worker = some kind ∧ l.attempt.quiet = true

theorem obeys_activeItems :
    Obeys protocol (Begins kind) (Job.tryAsk (Job.ask (.activeItems kind)))
      (Ends kind [] fun rows l =>
        Table.Keyed (·.itemId) (rows.map fun row => snapOf kind row.1) ∧
          Waits kind (rows.map fun row => snapOf kind row.1) l) := by
  refine Obeys.tryAsk (Obeys.ask (fun l hl => Stage.allows_of_quiet hl.2 hl.1) fun l r hl hr => ?_)
  cases r with
  | error e => exact ⟨hl.1, hl.2, by simp, List.nodup_nil⟩
  | ok rows =>
    have hk : Table.Keyed (·.itemId) (rows.map fun row => snapOf kind row.1) := by
      rw [Table.Keyed, List.map_map]
      exact hr rows rfl
    exact ⟨hk, hl.1, hl.2, fun _ h => h, hk⟩

section neutral

variable (hq : Quiet Φ)

include hq

theorem stays_noteGatewayCannotAnswer {setup} : Stays protocol Φ (noteGatewayCannotAnswer setup) := by
  refine stays_bind (stays_tryAsk (stays_neutral hq rfl)) fun o => ?_
  split
  · exact stays_pure
  · exact stays_bind (stays_query hq _) fun _ => stays_tryAsk (stays_neutral hq rfl)

theorem stays_readUsableGatewaySnapshot {setup} : Stays protocol Φ (readUsableGatewaySnapshot setup) := by
  refine stays_bind (stays_query hq _) fun answer => ?_
  split
  · split
    · exact stays_bind (stays_bind (stays_tryAsk (stays_neutral hq rfl)) fun _ => stays_pure)
        fun _ => stays_pure
    · exact stays_bind (stays_noteGatewayCannotAnswer hq) fun _ => stays_pure
  · exact stays_bind (stays_noteGatewayCannotAnswer hq) fun _ => stays_pure

theorem stays_persistFederations {setup now} (federations : List GatewayFederation) :
    Stays protocol Φ (persistFederations setup now federations) := by
  induction federations with
  | nil => exact stays_pure
  | cons f federations ih => exact stays_bind (stays_tryAsk (stays_neutral hq rfl)) fun _ => ih

theorem stays_persistGatewaySnapshot {setup snapshot} : Stays protocol Φ (persistGatewaySnapshot setup snapshot) :=
  stays_bind (stays_query hq _) fun _ =>
    stays_bind (stays_tryAsk (stays_neutral hq rfl)) fun _ => stays_persistFederations hq _

theorem stays_observeConfiguredGateway : Stays protocol Φ observeConfiguredGateway := by
  refine stays_bind (stays_readyConfig hq) fun setup => ?_
  refine stays_bind (stays_readUsableGatewaySnapshot hq) fun snapshot => ?_
  split
  · exact stays_pure
  · exact stays_persistGatewaySnapshot hq

end neutral

theorem obeys_activeGatewayItems :
    Obeys protocol (Begins .gateway) activeGatewayItems
      (Ends .gateway [] fun items l => Table.Keyed (·.itemId) (items.map GatewayItem.snap) ∧
        Waits .gateway (items.map GatewayItem.snap) l) := by
  refine Obeys.bind obeys_activeItems fun rows => Obeys.ofExcept fun l hl => ?_
  cases hm : rows.mapM gatewayItemOfRow with
  | error e => exact ⟨hl.2.worker, hl.2.quiet, by simp, hl.2.keyed⟩
  | ok items =>
    show Table.Keyed _ _ ∧ Waits _ _ _
    rw [gatewayItems_snap hm]
    exact hl

theorem over_processGatewayAllocations {validAddress} :
    Obeys protocol (fun l => l = { worker := some .gateway }) (processGatewayAllocations validAddress)
      (fun _ => Waits .gateway []) := by
  have hbegin : ∀ l : Stage, l = { worker := some .gateway } → Waits .gateway [] l := by
    rintro _ rfl
    exact ⟨rfl, rfl, by simp, List.nodup_nil⟩
  refine Leaves.after hbegin (stays_readyConfig fun l hl => (hbegin l hl).quiet) fun setup => ?_
  refine Leaves.bind (obeys_activeGatewayItems.mono (fun l hl => by rw [hl]; exact ⟨rfl, rfl⟩) fun _ _ h => h)
    fun items => ?_
  have hw : ∀ l, (Table.Keyed (·.itemId) (items.map GatewayItem.snap) ∧
      Waits .gateway (items.map GatewayItem.snap) l) → Waits .gateway [] l := fun l hl =>
    ⟨hl.2.worker, hl.2.quiet, by simp, hl.2.keyed⟩
  split
  · exact Obeys.pure hw
  refine Leaves.after hw (stays_readUsableGatewaySnapshot fun l hl => (hw l hl).quiet) fun snapshot => ?_
  split
  · exact Obeys.pure hw
  · refine Leaves.after hw (stays_persistGatewaySnapshot fun l hl => (hw l hl).quiet) fun _ => ?_
    exact fun l hl => over_processGatewayItems hl.1 l hl.2

end Manifold.Liquidity
