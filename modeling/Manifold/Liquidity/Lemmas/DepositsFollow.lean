import Manifold.Liquidity.Deposits
import Manifold.Liquidity.Lemmas.Passes

/-!
# The stability pass follows the protocols
-/

namespace Manifold.Liquidity

open Lib Lib.Routine

variable {α β : Type} {Φ : DepositStage → Prop} {rest : List StabilityItem} {item : StabilityItem} {funded : Bool}

/-! ## Steps -/

theorem StepMove.of_deposit {s s'} (hid : s'.spDepositOperationId = s.spDepositOperationId)
    (hamount : s'.spDepositAmount = s.spDepositAmount)
    (hfee : s'.spDepositMinFeeRatePpb = s.spDepositMinFeeRatePpb) (hst : s'.spDepositStatus = s.spDepositStatus)
    (haddr : s.pegInAddress.isSome = true → s'.pegInAddress = s.pegInAddress)
    (hclaim : s.pegInAddress.isSome = true → ∀ a, s.claimedAmount = some a → s'.claimedAmount = some a) :
    StepMove s s' where
  operationId := hid
  amount := hamount
  minFeeRatePpb := hfee
  submitting h := hst ▸ h
  rank r hr := ⟨r, by unfold StabilityStep.depositRank at hr ⊢; rw [hst, hr], Nat.le_refl r⟩
  address := haddr
  claimed := hclaim

theorem advance_cases (s : StabilityStep) (operationId : String) (status : SpDepositStatus) :
    (s.advanceSpDepositStatus operationId status).1 = s ∧
        (∃ r n, s.depositRank = some r ∧ status.rank = some n ∧ n < r) ∨
      (s.advanceSpDepositStatus operationId status).1 =
        { s with spDepositOperationId := some operationId, spDepositStatus := some status } ∧
        (s.spDepositOperationId = some operationId → ∀ r n, s.depositRank = some r → status.rank = some n → r ≤ n) := by
  unfold StabilityStep.advanceSpDepositStatus StabilityStep.depositRank
  dsimp only
  split_ifs with hb
  · refine .inl ⟨rfl, ?_⟩
    revert hb
    cases hr : s.spDepositStatus.bind (·.rank) <;> cases hn : status.rank <;> simp
  · refine .inr ⟨rfl, fun hid r n hr hn => ?_⟩
    rw [hid, hr, hn] at hb
    simpa using hb

theorem stepMove_advance {s operationId status n} (h : s.spDepositOperationId = some operationId)
    (hs : status ≠ .submitting) (hn : status.rank = some n) :
    StepMove s (s.advanceSpDepositStatus operationId status).1 := by
  rcases advance_cases s operationId status with ⟨he, -⟩ | ⟨he, hle⟩ <;> rw [he]
  · exact .of_deposit rfl rfl rfl rfl (fun _ => rfl) fun _ _ h => h
  · exact ⟨h.symm, rfl, rfl, fun he => absurd (Option.some.inj he) hs, fun r hr => ⟨n, hn, hle h r n hr hn⟩,
      fun _ => rfl, fun _ _ h => h⟩

theorem advance_success {s : StabilityStep} {operationId} :
    (s.advanceSpDepositStatus operationId .success).1 =
      { s with spDepositOperationId := some operationId, spDepositStatus := some .success } := by
  rcases advance_cases s operationId .success with ⟨-, r, n, hr, hn, hlt⟩ | ⟨he, -⟩
  · -- no status ranks above `success`
    obtain ⟨st, -, hst⟩ := Option.bind_eq_some_iff.mp hr
    cases hn
    cases st <;> cases hst <;> omega
  · exact he

theorem submission_of_submitting {parse} {s : StabilityStep} {submission}
    (h : s.submittingSubmission parse = .ok (some submission)) :
    s.spDepositStatus = some .submitting ∧ s.submission = some submission := by
  unfold StabilityStep.submittingSubmission at h
  split at h
  · rename_i hst
    split at h
    · rename_i operationId amount fee hid hamount hfee
      split at h
      · cases h
      split at h
      · cases h
      · cases h
        exact ⟨by simpa [StabilityStep.hasInFlightSubmission] using hst,
          by simp only [StabilityStep.submission, hid, hamount, hfee]⟩
    · cases h
  · cases h

theorem submission_operationId {s : StabilityStep} {submission : StabilityDepositSubmission}
    (h : s.submission = some submission) : s.spDepositOperationId = some submission.operationId := by
  unfold StabilityStep.submission at h
  split at h
  · rename_i hid _ _
    cases h
    exact hid
  · cases h

/-! ## The stages of a turn -/

structure Waiting (rest : List StabilityItem) (d : DepositStage) : Prop where
  sub : ∀ item ∈ rest, item ∈ d.waiting
  keyed : Table.Keyed (·.itemId) d.waiting

theorem Waiting.tail {d} (h : Waiting (item :: rest) d) : Waiting rest d :=
  ⟨fun i hi => h.sub i (List.mem_cons_of_mem _ hi), h.keyed⟩

structure AtTurn (rest : List StabilityItem) (item : StabilityItem) (funded : Bool) (d : DepositStage) : Prop
    extends Waiting rest d where
  turn : ∃ t, d.turn = some t ∧ t.item = item ∧ (funded = true → t.funded = true)

structure AtFence (rest : List StabilityItem) (item : StabilityItem) (funded : Bool) (d : DepositStage) : Prop
    extends AtTurn rest item funded d where
  fenced : ∃ t, d.turn = some t ∧ t.fenced = true

theorem atTurn_waiting : ∀ d, AtTurn rest item funded d → Waiting rest d := fun _ h => h.toWaiting

def Steady (Φ : DepositStage → Prop) : Prop :=
  ∀ d (f : DepositTurn → DepositTurn), (∀ t, (f t).item = t.item ∧ (t.funded = true → (f t).funded = true)) →
    Φ d → Φ { d with turn := d.turn.map f }

theorem steady_waiting : Steady (Waiting rest) := fun _ _ _ h => ⟨h.sub, h.keyed⟩

theorem steady_atTurn : Steady (AtTurn rest item funded) := fun d f hf h => by
  obtain ⟨t, ht, hitem, hfunded⟩ := h.turn
  refine ⟨⟨h.sub, h.keyed⟩, f t, ?_, (hf t).1.trans hitem, fun hb => (hf t).2 (hfunded hb)⟩
  rw [ht, Option.map_some]

/-- The question is always allowed and only lifts the fence. -/
def Ask.plain : Ask → Bool
  | .query _ | .loadSetup | .prepareWithdrawal _ | .claimFundingSubmission .. | .submitPrepared _
  | .submitResponse _ | .markWithdrawalBroadcast .. | .markOperationInDoubt .. | .markOperationFailed .. => true
  | _ => false

theorem Steady.unfenced (hΦ : Steady Φ) {d} (h : Φ d) : Φ d.unfenced :=
  hΦ d (fun t => { t with fenced := false }) (fun _ => ⟨rfl, fun h => h⟩) h

theorem stays_plain (hΦ : Steady Φ) {e} (he : e.plain = true) : Stays deposits Φ (Job.ask e) := by
  refine stays_ask (fun d _ => ?_) fun d r hd _ => ?_
  · cases e <;> first | exact trivial | cases he
  · cases e <;> first | exact hΦ.unfenced hd | cases he

theorem stays_plainQuery (hΦ : Steady Φ) (q : Query) : Stays deposits Φ (Job.query q) := stays_plain hΦ rfl

theorem stays_getWalletOperation (hΦ : Steady Φ) {id} : Stays deposits Φ (Job.ask (.getWalletOperation id)) :=
  stays_ask (fun _ _ => trivial) fun d r hd _ =>
    hΦ d (fun t => DepositStage.see id t r)
      (fun t => ⟨rfl, fun h => by simp only [DepositStage.see, h, Bool.true_or]⟩) hd

theorem stays_markAndGetPlain (hΦ : Steady Φ) {id mark} (hm : mark.plain = true) {unit} :
    Stays deposits Φ (markAndGet id mark unit) :=
  stays_bind (stays_tryAsk (stays_map (stays_plain hΦ hm))) fun _ => stays_tryAsk (stays_getWalletOperation hΦ)

/-! ## Both protocols -/

def both : Protocol Ans (Stage × DepositStage) := protocol.prod deposits

def StabilityItem.snap (item : StabilityItem) : Snap :=
  ⟨item.itemId, item.federationId, item.reservedAmount, item.step.pegInAddress⟩

theorem stepOf_stability (item : StabilityItem) : StepOf .stabilityPool item.snap (stabilityFundingStep item) :=
  ⟨rfl, rfl, rfl, rfl, rfl⟩

abbrev Idle (rest : List StabilityItem) : Stage × DepositStage → Prop :=
  Both (Waits .stabilityPool (rest.map StabilityItem.snap)) (Waiting rest)

abbrev Held (rest : List StabilityItem) (item : StabilityItem) (g : Option Grant) (l : Stage) : Prop :=
  Turn .stabilityPool (rest.map StabilityItem.snap) item.snap l ∧ l.grant = g

abbrev Here (rest : List StabilityItem) (item : StabilityItem) (g : Option Grant) (funded : Bool) :
    Stage × DepositStage → Prop :=
  Both (Held rest item g) (AtTurn rest item funded)

variable {g : Option Grant} {grant : Grant}

theorem here_idle : ∀ x, Here rest item g funded x → Idle rest x := fun _ h => ⟨h.1.1.toWaits, h.2.toWaiting⟩

theorem quiet_held : Quiet (Held rest item g) := fun _ h => h.1.quiet

theorem granted_held : ∀ l, Held rest item (some grant) l →
    Granted .stabilityPool (rest.map StabilityItem.snap) item.snap grant l := fun _ h => ⟨h.1, h.2⟩

theorem stays_query_here {q} : Stays both (Here rest item g funded) (Job.query q) :=
  Obeys.prod (stays_query quiet_held q) (stays_plainQuery steady_atTurn q)

/-! ## Ending a turn -/

theorem leaves_setItemFailure {id status failure} (hs : status = .actionRequired ∨ status = .failed)
    (hid : ∀ item ∈ rest, item.itemId ≠ id) (hw : ∀ d, Φ d → Waiting rest d)
    (hi : ∀ d, Φ d → (∃ item ∈ d.waiting, item.itemId = id) ∨ ∃ t, d.atTurn id t) :
    Leaves deposits (Waiting rest) (Job.tryAsk (Job.ask (.setItemFailure id status failure))) Φ := by
  refine Obeys.tryAsk (Obeys.ask (fun d hd => ⟨hs, hi d hd⟩) fun d r hd _ => ?_)
  have hdrop : ∀ item ∈ rest, item ∈ (d.drop id).waiting := fun item hi =>
    List.mem_filter.mpr ⟨(hw d hd).sub item hi, by simpa using hid item hi⟩
  cases r <;> exact ⟨hdrop, (hw d hd).keyed.filter⟩

section turn

variable (hne : ∀ other ∈ rest, other.itemId ≠ item.itemId)

include hne

theorem leaves_failure {status failure} (hs : status = .actionRequired ∨ status = .failed) :
    Leaves deposits (Waiting rest) (Job.tryAsk (Job.ask (.setItemFailure item.itemId status failure)))
      (AtTurn rest item funded) :=
  leaves_setItemFailure hs hne atTurn_waiting fun _ hd => by
    obtain ⟨t, ht, hitem, -⟩ := hd.turn
    exact .inr ⟨t, ht, by rw [hitem]⟩

theorem leaves_requireItemAction {code reason} :
    Leaves both (Idle rest) (requireItemAction item.itemId code reason) (Here rest item g funded) :=
  Obeys.prod (over_requireItemAction (s := item.snap) fun _ h => h.1) (leaves_failure hne (.inl rfl))

theorem leaves_failItem {code reason} :
    Leaves both (Idle rest) (failItem item.itemId code reason) (Here rest item g funded) :=
  Obeys.prod (over_failItem (s := item.snap) fun _ h => h.1) (leaves_failure hne (.inr rfl))

theorem leaves_askOperator {code reason b} :
    Leaves both (Idle rest) (requireItemAction item.itemId code reason >>= fun _ => (pure b : Job Bool))
      (Here rest item g funded) :=
  (leaves_requireItemAction hne).then fun _ => stays_pure

theorem inPhase_refuseTarget {reason : String} {R : α → Stage × DepositStage → Prop} :
    Obeys both (Here rest item g funded) (refuseTarget item reason) (Yields (Idle rest) (InPhase (Idle rest) R)) :=
  Obeys.bind (leaves_failItem hne).yields fun _ => Obeys.pure fun _ h => h

end turn

/-! ## Writing the step -/

theorem atTurn_setStep {d step b} (h : AtTurn rest item funded d) :
    AtTurn rest { item with step := step } funded (d.setStep (.stability step) b) := by
  obtain ⟨t, ht, rfl, hf⟩ := h.turn
  refine ⟨⟨h.sub, h.keyed⟩, { t with item := { t.item with step := step }, fenced := b }, ?_, rfl, hf⟩
  show d.turn.map _ = _
  rw [ht]
  rfl

theorem obeys_saveStep {step} (h : StepMove item.step step) :
    Obeys both (Here rest item g funded) (saveStabilityStep { item with step := step })
      (Yields (Idle rest) fun _ => Here rest { item with step := step } g funded) := by
  have haddr : item.step.pegInAddress = none ∨ step.pegInAddress = item.step.pegInAddress := by
    by_cases hs : item.step.pegInAddress.isSome = true
    · exact .inr (h.address hs)
    · exact .inl (by simpa using hs)
  refine Obeys.yields_prod (obeys_updateItemStep (s := item.snap) haddr)
    (Obeys.tryAsk (Obeys.ask (fun d hd => ?_) fun d r hd _ => ?_))
  · obtain ⟨t, ht, rfl, -⟩ := hd.turn
    exact ⟨t, step, ⟨ht, rfl⟩, rfl, h⟩
  · cases r with
    | error e => exact steady_waiting.unfenced hd.toWaiting
    | ok u => exact atTurn_setStep hd

theorem leaves_saveLast {step : StabilityStep} {b : Bool} (h : StepMove item.step step) :
    Leaves both (Idle rest) (saveStabilityStep { item with step := step } >>= fun _ => pure b)
      (Here rest item g funded) :=
  Leaves.bind (obeys_saveStep h) fun _ => Leaves.pure here_idle

/-- A compare-and-set on the step that the item is known to be in. -/
theorem obeys_compareAndSet {next R}
    (hnext : next.pegInAddress = item.step.pegInAddress)
    (hmay : next = item.step ∨ ∃ submission, item.Begins submission ∧ next = item.step.beginSubmission submission)
    (hR : ∀ d, AtTurn rest item funded d → R (d.setStep (.stability next)
      (StepJson.stability item.step = .stability next))) :
    Obeys both (Here rest item g funded)
      (Job.tryAsk (Job.ask (.compareAndSetItemStep item.itemId (.stability item.step) (.stability next))))
      (Yields (Idle rest) fun won => if won then Both (Held rest item g) R else Idle rest) := by
  have hsend : Obeys protocol (Held rest item g)
      (Job.tryAsk (Job.ask (.compareAndSetItemStep item.itemId (.stability item.step) (.stability next))))
      (Ends .stabilityPool (rest.map StabilityItem.snap) fun _ => Held rest item g) :=
    obeys_compareAndSetItemStep hnext
  have hdeposit : Obeys deposits (AtTurn rest item funded)
      (Job.tryAsk (Job.ask (.compareAndSetItemStep item.itemId (.stability item.step) (.stability next))))
      (Yields (Waiting rest) fun won d => if won then R d else Waiting rest d) := by
    refine Obeys.tryAsk (Obeys.ask (fun d hd => ?_) fun d r hd _ => ?_)
    · obtain ⟨t, ht, rfl, -⟩ := hd.turn
      refine ⟨t, ⟨ht, rfl⟩, rfl, ?_⟩
      rcases hmay with rfl | ⟨submission, hb, rfl⟩
      · exact .inl rfl
      · exact .inr ⟨submission, hb, rfl⟩
    · rcases r with e | (_ | _)
      · exact steady_waiting.unfenced hd.toWaiting
      · exact steady_waiting.unfenced hd.toWaiting
      · exact hR d hd
  refine (Obeys.yields_prod hsend hdeposit).mono (fun _ h => h) fun r x h => ?_
  rcases r with e | (_ | _)
  · exact h
  · exact ⟨h.1.1.toWaits, h.2⟩
  · exact h

theorem obeys_fence :
    Obeys both (Here rest item g funded)
      (Job.tryAsk (Job.ask (.compareAndSetItemStep item.itemId (.stability item.step) (.stability item.step))))
      (Yields (Idle rest) fun won => if won then Both (Held rest item g) (AtFence rest item funded) else Idle rest) := by
  refine obeys_compareAndSet rfl (.inl rfl) fun d hd => ⟨atTurn_setStep hd, ?_⟩
  obtain ⟨t, ht, -, -⟩ := hd.turn
  refine ⟨{ t with item := { t.item with step := item.step }, fenced := true }, ?_, rfl⟩
  show d.turn.map _ = _
  rw [ht, Option.map_some, decide_eq_true rfl]
  rfl

/-! ## The provider deposit -/

section turn

variable (hne : ∀ other ∈ rest, other.itemId ≠ item.itemId) {parse : String → Bool} {setup : SetupConfig}
  {submission : StabilityDepositSubmission}

theorem obeys_submit (hst : item.step.spDepositStatus = some .submitting)
    (hsub : item.step.submission = some submission) :
    Obeys both (Both (Held rest item g) (AtFence rest item funded))
      (Job.orUnavailable (Job.ask (.submitDepositToProvide item.itemId submission)))
      (Yields (Idle rest) fun _ => Here rest item g funded) := by
  have hsend : Stays protocol (Held rest item g) (Job.ask (.submitDepositToProvide item.itemId submission)) :=
    stays_ask (fun _ hl => Stage.allows_of_quiet hl.1.quiet hl.1.worker) fun _ _ hl _ => hl
  refine Obeys.yields_prod ((stays_orUnavailable hsend).yields fun _ h => h.1.toWaits)
    (Obeys.bind (R := fun _ => AtTurn rest item funded) (Obeys.ask (fun d hd => ?_) fun d r hd _ => ?_) fun r => ?_)
  · obtain ⟨t, ht, rfl, -⟩ := hd.turn
    obtain ⟨t', ht', hfenced⟩ := hd.fenced
    cases ht.symm.trans ht'
    exact ⟨t, ⟨ht, rfl⟩, hfenced, hst, hsub⟩
  · exact steady_atTurn.unfenced hd.toAtTurn
  · exact Obeys.ofExcept fun d hd => by
      cases r
      · exact hd.toWaiting
      · exact hd

include hne in
theorem leaves_submitDeposit {began} (hst : item.step.spDepositStatus = some .submitting)
    (hsub : item.step.submission = some submission) :
    Leaves both (Idle rest) (submitDeposit item began submission) (Here rest item g funded) := by
  refine Leaves.after here_idle stays_query_here fun spent => ?_
  split
  · exact Leaves.pure here_idle
  refine Leaves.bind obeys_fence fun won => ?_
  cases won with
  | false => exact Leaves.pure fun _ h => h
  | true =>
    refine Leaves.bind (obeys_submit hst hsub) fun receipt => ?_
    unfold recordReceipt
    split
    · exact leaves_askOperator hne
    · exact leaves_saveLast (stepMove_advance (submission_operationId hsub) (by simp) rfl)

include hne in
theorem leaves_sendDeposit {began} :
    Leaves both (Idle rest) (sendDeposit parse item began) (Here rest item g funded) := by
  refine Leaves.bind (R := fun submission x => Here rest item g funded x ∧
    (item.step.spDepositStatus = some .submitting ∧ item.step.submission = some submission)) ?_ fun submission => ?_
  · unfold requireSubmission
    split
    · exact Obeys.throw here_idle
    · exact Obeys.throw here_idle
    · rename_i hsub
      exact Obeys.pure fun _ h => ⟨h, submission_of_submitting hsub⟩
  · refine Obeys.given fun h => ?_
    split
    · exact leaves_askOperator hne
    · exact leaves_submitDeposit hne h.1 h.2

theorem leaves_observeDepositProgress {operationId status n}
    (hid : item.step.spDepositOperationId = some operationId) (hs : status ≠ .submitting)
    (hn : status.rank = some n) :
    Leaves both (Idle rest) (observeDepositProgress item operationId status) (Here rest item g funded) := by
  unfold observeDepositProgress
  dsimp only
  split
  · exact leaves_saveLast (stepMove_advance hid hs hn)
  · exact Leaves.pure here_idle

theorem obeys_observeStabilityPool :
    Obeys both (Here rest item g funded) (observeStabilityPool item)
      (Yields (Idle rest) fun r x => Here rest r.1 g funded x ∧
        r.1 = { item with step := { item.step with observedProvidedAmount := some r.2 } }) := by
  refine yields_after here_idle (stays_orUnavailable stays_query_here) fun provided => ?_
  refine Obeys.bind (obeys_saveStep (.of_deposit rfl rfl rfl rfl (fun _ => rfl) fun _ _ h => h)) fun _ => ?_
  exact Obeys.pure fun _ h => ⟨h, rfl⟩

theorem leaves_completeStabilityPoolItem {fulfilled} (h : item.step.Discharged fulfilled) :
    Leaves both (Idle rest) (completeStabilityPoolItem item fulfilled) (Here rest item (some grant) true) := by
  refine Leaves.after here_idle stays_query_here fun now => ?_
  refine Obeys.prod ((obeys_completeItem (s := item.snap)).mono granted_held fun _ _ h => h)
    (Obeys.tryAsk (Obeys.ask (fun d hd => ?_) fun d r hd _ => ?_))
  · obtain ⟨t, ht, rfl, hf⟩ := hd.turn
    exact ⟨rfl, t, ⟨ht, rfl⟩, hf rfl, h⟩
  · cases r <;> exact steady_waiting.unfenced hd.toWaiting

theorem obeys_requireDepositAmount :
    Obeys both (Here rest item g funded) (requireDepositAmount item)
      (Yields (Idle rest) fun fulfilled x => Here rest item g funded x ∧ item.step.spDepositAmount = some fulfilled) := by
  unfold requireDepositAmount
  split
  · rename_i hful
    exact Obeys.pure fun _ h => ⟨h, hful⟩
  · exact Obeys.throw here_idle

theorem leaves_settleDeposit {operationId} (hid : item.step.spDepositOperationId = some operationId)
    (hclaim : item.step.claimedAmount.isSome = true) :
    Leaves both (Idle rest) (settleDeposit item operationId) (Here rest item (some grant) true) := by
  refine Leaves.bind (obeys_saveStep (stepMove_advance hid (by simp) rfl)) fun _ => ?_
  rw [advance_success]
  refine Leaves.bind obeys_requireDepositAmount fun fulfilled => Obeys.given fun hful => ?_
  refine Leaves.bind obeys_observeStabilityPool fun r => Obeys.given fun hr => ?_
  obtain ⟨item', provided⟩ := r
  dsimp only at hr
  subst hr
  dsimp only
  split
  · exact leaves_saveLast (.of_deposit rfl rfl rfl rfl (fun _ => rfl) fun _ _ h => h)
  · rename_i hlt
    exact leaves_completeStabilityPoolItem ⟨hclaim, rfl, rfl, hful, provided, rfl, Nat.le_of_not_lt hlt⟩

include hne in
theorem leaves_observeStabilityDeposit {operationId} (hid : item.step.spDepositOperationId = some operationId)
    (hclaim : item.step.claimedAmount.isSome = true) :
    Leaves both (Idle rest) (observeStabilityDeposit item operationId) (Here rest item (some grant) true) := by
  refine Leaves.after here_idle (stays_orUnavailable stays_query_here) fun status => ?_
  cases status with
  | initiated | txAccepted => exact leaves_observeDepositProgress hid (by simp) rfl
  | success => exact leaves_settleDeposit hid hclaim
  | failed reason => exact leaves_askOperator hne

theorem committed_le_claimed {committed claimed balance}
    (h : committedDepositAmount committed claimed balance ≠ 0) :
    committedDepositAmount committed claimed balance = committed ∧ committed ≤ claimed := by
  unfold committedDepositAmount at h ⊢
  split at h
  · exact absurd rfl h
  · rename_i hc
    rw [if_neg hc]
    simp only [Bool.or_eq_true, decide_eq_true_eq, not_or, Nat.not_lt] at hc
    exact ⟨rfl, hc.1⟩

include hne in
theorem inPhase_beginDeposit {claimed} (hid : item.step.spDepositOperationId = none)
    (haddr : item.step.pegInAddress.isSome = true) (hclaim : item.step.claimedAmount = some claimed) :
    Obeys both (Here rest item g funded) (beginDeposit setup item claimed)
      (Yields (Idle rest) (InPhase (Idle rest) fun r x => Here rest r.1 g funded x ∧ r.1.itemId = item.itemId)) := by
  refine yields_after here_idle (stays_orUnavailable stays_query_here) fun balance => ?_
  dsimp only
  split
  · exact inPhase_stopForAction (leaves_requireItemAction hne)
  rename_i hamount
  refine yields_after here_idle stays_query_here fun operationId => ?_
  have hle := committed_le_claimed hamount
  refine Obeys.bind (obeys_compareAndSet rfl (.inr ⟨_, ⟨hid, hle.1, ⟨claimed, hclaim, hle.2⟩, haddr⟩, rfl⟩)
    fun _ hd => atTurn_setStep hd) fun won => ?_
  cases won with
  | true => exact Obeys.pure fun d hd => ⟨hd, rfl⟩
  | false => exact Obeys.pure fun _ h => h

include hne in
theorem leaves_advanceStabilityDeposit {claimed} (haddr : item.step.pegInAddress.isSome = true)
    (hclaim : item.step.claimedAmount = some claimed) :
    Leaves both (Idle rest) (advanceStabilityDeposit parse setup item claimed) (Here rest item (some grant) true) := by
  unfold advanceStabilityDeposit
  split
  · exact leaves_sendDeposit hne
  split
  · rename_i operationId hid
    split
    · exact leaves_observeStabilityDeposit hne hid (by rw [hclaim]; rfl)
    · exact Obeys.throw here_idle
  · rename_i hid
    refine leaves_andPhase (inPhase_beginDeposit hne hid haddr hclaim) fun r => Obeys.given fun hr => ?_
    exact leaves_sendDeposit (by rw [hr]; exact hne)

/-! ## The peg-in -/

theorem obeys_pegInStatusOf :
    Obeys both (Here rest item g funded) (pegInStatusOf item)
      (Yields (Idle rest) fun status x => Here rest item g funded x ∧
        ∀ a, item.step.claimedAmount = some a → ∃ operationId, status = .claimed a operationId) := by
  unfold pegInStatusOf
  split
  · rename_i amount operationId hst hamount hid
    refine Obeys.pure fun d hd => ⟨hd, fun a ha => ⟨operationId, ?_⟩⟩
    simp only [StabilityStep.claimedAmount, hst, hid, hamount, Option.some.injEq] at ha
    rw [ha]
  rename_i hno
  -- nothing is claimed yet
  have hnone : ∀ a, item.step.claimedAmount ≠ some a := fun a ha => by
    unfold StabilityStep.claimedAmount at ha
    split at ha
    · rename_i hst hid
      exact hno a _ hst ha hid
    · cases ha
  split
  · exact Obeys.throw here_idle
  · refine ((stays_orUnavailable stays_query_here).yields here_idle).mono (fun _ h => h) fun r d hd => ?_
    cases r with
    | error e => exact hd
    | ok status => exact ⟨hd, fun a ha => absurd ha (hnone a)⟩

include hne in
theorem leaves_advanceAfterWithdrawalCompleted (haddr : item.step.pegInAddress.isSome = true) :
    Leaves both (Idle rest) (advanceAfterWithdrawalCompleted parse setup item) (Here rest item (some grant) true) := by
  refine Leaves.bind obeys_pegInStatusOf fun status => Obeys.given fun hst => ?_
  -- a recorded claim leaves only the third case
  have hother : ∀ s', (∀ a o, status ≠ .claimed a o) → item.step.pegInAddress.isSome = true →
      ∀ a, item.step.claimedAmount = some a → StabilityStep.claimedAmount s' = some a := by
    intro s' hno _ a ha
    obtain ⟨o, ho⟩ := hst a ha
    exact absurd ho (hno a o)
  cases status with
  | waitingForTransaction | confirmed =>
    exact leaves_saveLast (.of_deposit rfl rfl rfl rfl (fun _ => rfl) (hother _ (by simp)))
  | claimed amount operationId =>
    refine Leaves.bind (obeys_saveStep (.of_deposit rfl rfl rfl rfl (fun _ => rfl) fun _ a ha => ?_)) fun _ => ?_
    · obtain ⟨o, ho⟩ := hst a ha
      cases ho
      rfl
    · refine leaves_advanceStabilityDeposit ?_ haddr rfl
      exact hne
  | failed reason => exact leaves_askOperator hne

end turn

/-! ## The phases before the funding -/

section turn

variable (hne : ∀ other ∈ rest, other.itemId ≠ item.itemId) {parse : String → Bool} {setup : SetupConfig}
  {validAddress : BitcoinNetwork → String → Except String Unit}

theorem inPhase_atPhaseBoundary {advanced} :
    Obeys both (Here rest item g funded) (atPhaseBoundary advanced)
      (Yields (Idle rest) (InPhase (Idle rest) fun _ => Here rest item g funded)) := by
  refine yields_after here_idle stays_query_here fun spent => ?_
  split
  · exact Obeys.pure here_idle
  · exact Obeys.pure fun _ h => h

include hne in
theorem inPhase_checkTarget :
    Obeys both (Here rest item g funded) (checkTarget item)
      (Yields (Idle rest) (InPhase (Idle rest) fun _ => Here rest item g funded)) := by
  refine yields_after here_idle (stays_orUnavailable stays_query_here) fun answer => ?_
  cases answer with
  | usable => exact Obeys.pure fun _ h => h
  | unusable reason => exact inPhase_refuseTarget hne

theorem obeys_openTargetClient :
    Obeys both (Here rest item g funded) (openTargetClient item)
      (Yields (Idle rest) fun r x => Here rest r.1 g funded x ∧ r.1.itemId = item.itemId) := by
  unfold openTargetClient
  split
  · exact Obeys.pure fun _ h => ⟨h, rfl⟩
  · refine yields_after here_idle (stays_orUnavailable stays_query_here) fun _ => ?_
    refine yields_after here_idle stays_query_here fun now => ?_
    refine Obeys.bind (obeys_saveStep (.of_deposit rfl rfl rfl rfl (fun _ => rfl) fun _ _ h => h)) fun _ => ?_
    exact Obeys.pure fun _ h => ⟨h, rfl⟩

include hne in
theorem inPhase_ensurePegInAddress {advanced} :
    Obeys both (Here rest item g funded) (ensurePegInAddress validAddress setup item advanced)
      (Yields (Idle rest) (InPhase (Idle rest) fun r x => Here rest r.1 g funded x ∧
        (r.1.itemId = item.itemId ∧ r.1.step.pegInAddress.isSome = true))) := by
  unfold ensurePegInAddress
  split
  · rename_i haddr
    exact Obeys.pure fun _ h => ⟨h, rfl, haddr⟩
  rename_i hnone
  refine Obeys.bind inPhase_atPhaseBoundary fun phase => ?_
  cases phase with
  | stop advanced => exact Obeys.pure fun _ h => h
  | go _ =>
    refine yields_after here_idle (stays_orUnavailable stays_query_here) fun answer => ?_
    cases answer with
    | unusable reason => exact inPhase_refuseTarget hne
    | allocated address =>
      refine yields_after here_idle stays_ofExcept fun _ => ?_
      refine Obeys.bind (obeys_saveStep (.of_deposit rfl rfl rfl rfl (fun h => absurd h hnone)
        fun h => absurd h hnone)) fun _ => ?_
      exact Obeys.pure fun _ h => ⟨h, rfl, rfl⟩

/-! ## Funding -/

theorem obeys_giveOperation {setup} :
    Obeys deposits (AtTurn rest item false) (ensureWalletOperation setup (stabilityFundingStep item))
      (Yields (Waiting rest) fun r d =>
        r.elim (Waiting rest d) fun r => AtTurn rest item (decide (r.status = .completed)) d) := by
  unfold ensureWalletOperation FundingStep.requireAddress
  cases ha : (stabilityFundingStep item).address with
  | none => exact Obeys.throw atTurn_waiting
  | some a =>
    refine Obeys.bind (R := fun _ => AtTurn rest item false) (Obeys.pure fun _ h => h) fun a => ?_
    refine Obeys.bind (R := fun e d => ensuredOr (Waiting rest d)
      (fun r => AtTurn rest item (decide (r.status = .completed)) d)
      (Waiting rest d ∧ ∃ t, d.turn = some t ∧ t.item = item ∧
        t.operation = some (stabilityFundingStep item).operationId) e)
      (Obeys.tryAsk (Obeys.ask (fun d hd => ?_) fun d r hd _ => ?_)) fun e => ?_
    · obtain ⟨t, ht, rfl, -⟩ := hd.turn
      exact ⟨⟨t, ht, rfl⟩, rfl, rfl⟩
    · obtain ⟨t, ht, hitem, -⟩ := hd.turn
      have hw : ∀ turn, Waiting rest { d with turn := turn } := fun _ => ⟨hd.sub, hd.keyed⟩
      have hmap : ∀ f : DepositTurn → DepositTurn, d.turn.map f = some (f t) := fun f => by rw [ht, Option.map_some]
      rcases r with e | (_ | r | _)
      · exact hw _
      · exact hw _
      · exact ⟨hw _, _, hmap _, hitem, fun h => h⟩
      · exact ⟨hw _, _, hmap _, hitem, rfl⟩
    cases e with
    | inactive => exact Obeys.pure fun _ h => h
    | existing r => exact Obeys.pure fun _ h => h
    | created =>
      refine Obeys.map (Obeys.tryAsk (Obeys.ask (fun _ _ => trivial) fun d r hd _ => ?_))
      obtain ⟨hw, t, ht, hitem, hop⟩ := hd
      have hw' : ∀ turn, Waiting rest { d with turn := turn } := fun _ => ⟨hw.sub, hw.keyed⟩
      cases r with
      | error e => exact hw' _
      | ok r =>
        refine ⟨hw' _, DepositStage.see (stabilityFundingStep item).operationId t (.ok r), ?_, hitem, fun h => ?_⟩
        · show d.turn.map _ = _
          rw [ht]
          rfl
        · simp only [DepositStage.see, hop, beq_self_eq_true, Bool.true_and]
          simp [Except.toOption, h]

theorem obeys_ensureOperation :
    Obeys both (Here rest item g false) (ensureWalletOperation setup (stabilityFundingStep item))
      (Yields (Idle rest) fun r x => r.elim (Idle rest x) fun r =>
        ∃ grant : Grant, grant.Of r ∧ Here rest item (some grant) (decide (r.status = .completed)) x) := by
  refine (Obeys.yields_prod (obeys_ensureWalletOperation (stepOf_stability item)) obeys_giveOperation).mono (fun _ h => ⟨h.1.1, h.2⟩) fun r x h => ?_
  rcases r with e | (_ | r)
  · exact h
  · exact h
  · obtain ⟨⟨grant, hgrant, hl⟩, hd⟩ := h
    exact ⟨grant, hgrant, ⟨hl.toTurn, hl.grant⟩, hd⟩

theorem obeys_saveOperation {r} :
    Obeys both (Here rest item g funded) (saveStabilityOperation item r)
      (Yields (Idle rest) fun item' x => Here rest item' g funded x ∧
        (item'.itemId = item.itemId ∧ item'.step.pegInAddress = item.step.pegInAddress)) := by
  unfold saveStabilityOperation
  split
  · exact Obeys.pure fun _ h => ⟨h, rfl, rfl⟩
  · refine Obeys.bind (obeys_saveStep (.of_deposit rfl rfl rfl rfl (fun _ => rfl) fun _ _ h => h)) fun _ => ?_
    exact Obeys.pure fun _ h => ⟨h, rfl, rfl⟩

include hne in
theorem leaves_failFunding {id detail} :
    Leaves deposits (Waiting rest) (failFunding (stabilityFundingStep item) id detail) (AtTurn rest item funded) :=
  Leaves.after atTurn_waiting (stays_markAndGetPlain steady_atTurn rfl) fun _ => leaves_failure hne (.inl rfl)

include hne in
theorem leaves_submitFundingWithdrawal {id} :
    Leaves deposits (Waiting rest) (submitFundingWithdrawal setup (stabilityFundingStep item) id)
      (AtTurn rest item funded) := by
  unfold submitFundingWithdrawal FundingStep.requireAddress
  refine Leaves.after atTurn_waiting ?_ fun address => ?_
  · split
    · exact stays_pure
    · exact stays_throw
  refine Leaves.after atTurn_waiting (stays_plain steady_atTurn rfl) fun prepared => ?_
  cases prepared with
  | error e => exact leaves_failFunding hne
  | ok u =>
    refine Leaves.after atTurn_waiting (stays_tryAsk (stays_plain steady_atTurn rfl)) fun fenced => ?_
    unfold submitIfFenced
    split
    · refine Leaves.after atTurn_waiting ?_ fun response => ?_
      · exact stays_bind (stays_plain steady_atTurn rfl) fun _ => stays_plain steady_atTurn rfl
      have hmark : ∀ mark unit, Ask.plain mark = true →
          Leaves deposits (Waiting rest) (markAndGet id mark unit >>= fun _ => pure ()) (AtTurn rest item funded) :=
        fun _ _ hm => Leaves.after atTurn_waiting (stays_markAndGetPlain steady_atTurn hm) fun _ =>
          Leaves.pure atTurn_waiting
      cases response with
      | submitted txid => exact hmark _ _ rfl
      | failed detail => exact leaves_failFunding hne
      | inDoubt detail => exact hmark _ _ rfl
    · exact Leaves.pure atTurn_waiting

include hne in
theorem leaves_advanceStabilityOperation {advanced r} (hg : grant.Of r) (haddr : item.step.pegInAddress.isSome = true) :
    Leaves both (Idle rest) (advanceStabilityOperation parse setup item advanced r)
      (Here rest item (some grant) (decide (r.status = .completed))) := by
  unfold advanceStabilityOperation
  split
  · rename_i hp
    rw [hg.eq_of_pending hp]
    refine Leaves.then (Obeys.prod ?_ (leaves_submitFundingWithdrawal hne)) fun _ => stays_pure
    exact (over_submitFundingWithdrawal (stepOf_stability item)).mono granted_held fun _ _ h => h
  · exact Leaves.pure here_idle
  · exact Leaves.pure here_idle
  · exact Leaves.pure here_idle
  · exact Leaves.pure here_idle
  · exact leaves_askOperator hne
  · exact (leaves_failItem hne).then fun _ => stays_pure
  · rename_i hc
    rw [hc]
    exact leaves_advanceAfterWithdrawalCompleted hne haddr

include hne in
theorem leaves_fundStabilityItem {advanced} (haddr : item.step.pegInAddress.isSome = true) :
    Leaves both (Idle rest) (fundStabilityItem parse setup item advanced) (Here rest item g false) := by
  refine Leaves.bind obeys_ensureOperation fun r => ?_
  cases r with
  | none => exact Leaves.pure fun _ h => h
  | some r =>
    rintro x ⟨grant, hgrant, hx⟩
    refine Leaves.bind obeys_saveOperation (fun item' => Obeys.given fun h => ?_) x hx
    exact leaves_advanceStabilityOperation (by rw [h.1]; exact hne) hgrant (by rw [h.2]; exact haddr)

include hne in
theorem leaves_advanceStabilityItem :
    Leaves both (Idle rest) (advanceStabilityItem parse validAddress setup item) (Here rest item g false) := by
  refine Leaves.bind obeys_openTargetClient fun r => Obeys.given fun hr => ?_
  have hne' : ∀ other ∈ rest, other.itemId ≠ r.1.itemId := by rw [hr]; exact hne
  refine leaves_andPhase inPhase_atPhaseBoundary fun _ => ?_
  refine leaves_andPhase (inPhase_checkTarget hne') fun _ => ?_
  refine leaves_andPhase (inPhase_ensurePegInAddress hne') fun r' => Obeys.given fun h => ?_
  refine leaves_andPhase inPhase_atPhaseBoundary fun _ => ?_
  exact leaves_fundStabilityItem (by rw [h.1]; exact hne') h.2

end turn

/-! ## A pass -/

variable {parse : String → Bool} {validAddress : BitcoinNetwork → String → Except String Unit} {setup : SetupConfig}

theorem inPhase_checkPersistedStep (hne : ∀ other ∈ rest, other.itemId ≠ item.itemId) :
    Obeys both (Idle (item :: rest)) (checkPersistedStep parse item)
      (Yields (Idle rest) (InPhase (Idle rest) fun _ => Idle (item :: rest))) := by
  have hfail : ∀ code reason, Leaves both (Idle rest) (requireItemAction item.itemId code reason)
      (Idle (item :: rest)) := fun code reason =>
    Obeys.prod
      (over_setItemFailure (.inl rfl) (fun l hl => hl.tail) fun l hl => .inl ⟨item.snap, hl.sub _ List.mem_cons_self, rfl⟩)
      (leaves_setItemFailure (.inl rfl) hne (fun d hd => hd.tail) fun d hd => .inl ⟨item, hd.sub _ List.mem_cons_self, rfl⟩)
  unfold checkPersistedStep
  split
  · exact inPhase_stopForAction (hfail _ _)
  split
  · exact inPhase_stopForAction (hfail _ _)
  · split
    · exact inPhase_stopForAction (hfail _ _)
    · exact Obeys.pure fun _ h => h

theorem obeys_markStabilityRunning (hk : Table.Keyed (·.itemId) (item :: rest)) :
    Obeys both (Idle (item :: rest)) (Job.tryAsk (Job.ask (.markItemRunning item.itemId)))
      (Yields (Idle rest) fun b x => if b then Here rest item none false x else Idle rest x) := by
  have hne : ∀ other ∈ rest, other.itemId ≠ item.itemId := fun other ho he =>
    (List.nodup_cons.mp hk).1 (List.mem_map.mpr ⟨other, ho, he⟩)
  have hsnaps : Table.Keyed (·.itemId) (item.snap :: rest.map StabilityItem.snap) := by
    rw [← List.map_cons, Table.Keyed, List.map_map]
    exact hk
  have hdeposit : Obeys deposits (Waiting (item :: rest)) (Job.tryAsk (Job.ask (.markItemRunning item.itemId)))
      (Yields (Waiting rest) fun b d => if b then AtTurn rest item false d else Waiting rest d) := by
    refine Obeys.tryAsk (Obeys.ask (fun d hd => ?_) fun d r hd _ => ?_)
    · exact ⟨item, hd.sub _ List.mem_cons_self, rfl⟩
    rcases r with e | (_ | _)
    · exact steady_waiting.unfenced hd.tail
    · exact steady_waiting.unfenced hd.tail
    refine ⟨⟨fun i hi => ?_, hd.keyed.filter⟩, { item := item }, ?_, rfl, fun h => h⟩
    · exact List.mem_filter.mpr ⟨hd.tail.sub i hi, by simpa using hne i hi⟩
    · show (Table.lookup _ _ d.waiting).map _ = _
      rw [hd.keyed.lookup (hd.sub item List.mem_cons_self), Option.map_some]
  refine (Obeys.yields_prod (obeys_markItemRunning hsnaps) hdeposit).mono (fun _ h => h) fun r x h => ?_
  rcases r with e | (_ | _) <;> exact h

theorem leaves_processStabilityItems {items} (hk : Table.Keyed (·.itemId) items) :
    Leaves both (Idle []) (processStabilityItems parse validAddress setup items) (Idle items) := by
  induction items with
  | nil => exact Leaves.pure fun _ h => h
  | cons item items ih =>
    have hne : ∀ other ∈ items, other.itemId ≠ item.itemId := fun other ho he =>
      (List.nodup_cons.mp hk).1 (List.mem_map.mpr ⟨other, ho, he⟩)
    refine Obeys.bind (R := fun _ => Idle items) (Obeys.attempt ?_) fun _ => ih (List.nodup_cons.mp hk).2
    exact Obeys.mono (leaves_andPhase (inPhase_checkPersistedStep hne) fun _ =>
      leaves_markRunningThen (obeys_markStabilityRunning hk) (leaves_advanceStabilityItem hne)) (fun _ h => h)
      fun _ _ h => h

theorem obeys_activeStabilityItems :
    Obeys both (Both (Begins .stabilityPool) (Waiting [])) (Job.tryAsk (Job.ask (.activeItems .stabilityPool)))
      (Yields (Idle []) fun (rows : List (AllocationItem × FundingTarget)) x =>
        Idle (rows.map stabilityItemOfRow) x ∧ Table.Keyed StabilityItem.itemId (rows.map stabilityItemOfRow)) := by
  have hdeposit : Obeys deposits (Waiting []) (Job.tryAsk (Job.ask (.activeItems .stabilityPool)))
      (Yields (Waiting []) fun (rows : List (AllocationItem × FundingTarget)) d =>
        Waiting (rows.map stabilityItemOfRow) d ∧ Table.Keyed StabilityItem.itemId (rows.map stabilityItemOfRow)) := by
    refine Obeys.tryAsk (Obeys.ask (fun _ _ => rfl) fun d r hd hr => ?_)
    cases r with
    | error e => exact ⟨by simp, List.nodup_nil⟩
    | ok rows =>
      have hk : Table.Keyed StabilityItem.itemId (rows.map stabilityItemOfRow) := by
        unfold Table.Keyed
        rw [List.map_map]
        exact hr rows rfl
      exact ⟨⟨fun i hi => hi, hk⟩, hk⟩
  refine (Obeys.yields_prod obeys_activeItems hdeposit).mono (fun _ h => h) fun r x h => ?_
  cases r with
  | error e => exact h
  | ok rows =>
    refine ⟨⟨?_, h.2.1⟩, h.2.2⟩
    rw [List.map_map]
    exact h.1.2

theorem leaves_processStabilityPoolAllocations :
    Leaves both (Idle []) (processStabilityPoolAllocations parse validAddress)
      (Both (fun l => l = { worker := some .stabilityPool }) (Waiting [])) := by
  have hbegin : ∀ x, Both (fun l : Stage => l = { worker := some .stabilityPool }) (Waiting []) x → Idle [] x := by
    rintro ⟨l, d⟩ ⟨rfl, hd⟩
    exact ⟨⟨rfl, rfl, by simp, List.nodup_nil⟩, hd⟩
  refine Leaves.after hbegin (Obeys.prod (stays_readyConfig fun l hl => by rw [hl]; rfl) ?_) fun setup => ?_
  · refine stays_bind (stays_tryAsk (stays_plain steady_waiting rfl)) fun stored => ?_
    split
    · exact stays_throw
    · split
      · exact stays_pure
      · exact stays_throw
  refine Leaves.bind (R := fun (items : List StabilityItem) x => Idle items x ∧ Table.Keyed StabilityItem.itemId items)
    ?_ fun items => Obeys.given fun hk => leaves_processStabilityItems hk
  refine Obeys.bind (obeys_activeStabilityItems.mono (fun x hx => ⟨by rw [hx.1]; exact ⟨rfl, rfl⟩, hx.2⟩)
    fun _ _ h => h) fun rows => Obeys.pure fun _ h => h

theorem follows_stabilityPass :
    (processStabilityPoolAllocations parse validAddress ()).Follows protocol { worker := some .stabilityPool }
        (fun l _ => protocol.ends l) ∧
      (processStabilityPoolAllocations parse validAddress ()).Follows deposits {} fun _ _ => True := by
  have h := @leaves_processStabilityPoolAllocations parse validAddress
    ({ worker := some .stabilityPool }, {}) ⟨rfl, by simp, List.nodup_nil⟩ ()
  obtain ⟨hsend, hdeposit⟩ := h.split rfl
  exact ⟨hsend.mono fun _ _ ⟨_, hl⟩ => hl.1.quiet, hdeposit.mono fun _ _ _ => trivial⟩

end Manifold.Liquidity
