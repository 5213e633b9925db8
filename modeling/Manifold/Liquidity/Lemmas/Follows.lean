import Manifold.Liquidity.Protocol

/-!
# The tasks follow the protocol
-/

namespace Manifold.Liquidity

open Lib Lib.Routine

variable {α : Type} {Φ : Stage → Prop}

def Ask.neutral : Ask → Bool
  | .query _ | .loadSetup | .itemOf .. | .getWalletOperation _ | .markWithdrawalBroadcast ..
  | .markOperationInDoubt .. | .gatewayObservation _ | .upsertGatewayObservation _ | .operationForIntent _
  | .activeWalletOperations | .claimChainEvidence .. | .escalateInDoubt .. | .allocation _
  | .nextWalletOperationId _ => true
  | _ => false

theorem Stage.allows_of_quiet {l : Stage} {e} (hl : l.attempt.quiet = true) (h : l.mayAsk e) : l.allows e := by
  unfold allows
  split
  · rename_i p hp; rw [hp] at hl; cases hl
  · rename_i p hp; rw [hp] at hl; cases hl
  · exact h

def Quiet (Φ : Stage → Prop) : Prop := ∀ l, Φ l → l.attempt.quiet = true

theorem stays_neutral (hq : Quiet Φ) {e} (he : e.neutral = true) : Stays protocol Φ (Job.ask e) := by
  refine stays_ask (fun l hl => Stage.allows_of_quiet (hq l hl) ?_) fun l r hl _ => ?_
  · cases e <;> first | exact trivial | cases he
  · cases e <;> first | exact hl | cases he

theorem stays_query (hq : Quiet Φ) (q : Query) : Stays protocol Φ (Job.query q) := stays_neutral hq rfl

section combinators

variable {Λ : Type} {P : Protocol Ans Λ} {Φ : Λ → Prop}

theorem stays_tryAsk {r : Job (ServiceResult α)} (h : Stays P Φ r) : Stays P Φ (Job.tryAsk r) :=
  stays_bind h fun _ => stays_ofExcept

theorem stays_orUnavailable {r : Job (Except String α)} (h : Stays P Φ r) : Stays P Φ (Job.orUnavailable r) :=
  stays_bind h fun _ => stays_ofExcept

theorem stays_tolerate {p : Job α} (h : Stays P Φ p) : Stays P Φ (Job.tolerate p) := stays_attempt h

theorem Obeys.tryAsk {r : Job (ServiceResult α)} {Ψ : Except ServiceError α → Λ → Prop}
    (h : Obeys P Φ r (Outcome Ψ fun e => Ψ (.error e))) : Obeys P Φ (Job.tryAsk r) Ψ :=
  Obeys.bind (R := Ψ) h fun _ => Obeys.ofExcept fun _ hl => hl

variable {W : Λ → Prop} {R : α → Λ → Prop}

def InPhase (W : Λ → Prop) (R : α → Λ → Prop) : Phase α → Λ → Prop
  | .stop _, l => W l
  | .go a, l => R a l

theorem leaves_andPhase {p f} (hp : Obeys P Φ p (Yields W (InPhase W R)))
    (hf : ∀ a, Leaves P W (f a) (R a)) : Leaves P W (Job.andPhase p f) Φ := by
  refine Leaves.bind hp fun phase => ?_
  cases phase with
  | stop advanced => exact Leaves.pure fun _ h => h
  | go a => exact hf a

theorem inPhase_stopForAction {id code reason}
    (h : Leaves P W (requireItemAction id code reason) Φ) :
    Obeys P Φ (stopForAction id code reason) (Yields W (InPhase W R)) :=
  Obeys.bind h.yields fun _ => Obeys.pure fun _ h => h

theorem leaves_markRunningThen {id p R}
    (hrun : Obeys P Φ (Job.tryAsk (Job.ask (.markItemRunning id))) (Yields W fun b l => if b then R l else W l))
    (hp : Leaves P W p R) : Leaves P W (markRunningThen id p) Φ := by
  refine Leaves.bind hrun fun b => ?_
  cases b with
  | true => exact hp
  | false => exact Leaves.pure fun _ h => h

end combinators

theorem stays_readyConfig (hq : Quiet Φ) : Stays protocol Φ readyConfig := by
  refine stays_bind (stays_tryAsk (stays_neutral hq rfl)) fun stored => ?_
  split
  · exact stays_throw
  · split
    · exact stays_pure
    · exact stays_throw

theorem stays_markAndGet (hq : Quiet Φ) {id mark unit} (hm : Stays protocol Φ (Job.ask mark)) :
    Stays protocol Φ (markAndGet id mark unit) :=
  stays_bind (stays_tryAsk (stays_map hm)) fun _ => stays_tryAsk (stays_neutral hq rfl)

theorem stays_markWithdrawalBroadcast (hq : Quiet Φ) {id txid} : Stays protocol Φ (markWithdrawalBroadcast id txid) :=
  stays_markAndGet hq (stays_neutral hq rfl)

theorem stays_markOperationInDoubt (hq : Quiet Φ) {id detail} : Stays protocol Φ (markOperationInDoubt id detail) :=
  stays_markAndGet hq (stays_neutral hq rfl)

theorem stays_markOperationFailed {id detail} (hΦ : ∀ l, Φ l → l.attempt = .unsent id) :
    Stays protocol Φ (markOperationFailed id detail) := by
  have hq : Quiet Φ := fun l hl => by rw [hΦ l hl]; rfl
  exact stays_markAndGet hq
    (stays_ask (fun l hl => Stage.allows_of_quiet (hq l hl) (hΦ l hl)) fun _ _ hl _ => hl)

/-! ## A worker between two turns and in a turn -/

structure Waits (kind : FundingKind) (rest : List Snap) (l : Stage) : Prop where
  worker : l.worker = some kind
  quiet : l.attempt.quiet = true
  sub : ∀ s ∈ rest, s ∈ l.waiting
  keyed : Table.Keyed (·.itemId) l.waiting

theorem Waits.tail {kind s rest l} (h : Waits kind (s :: rest) l) : Waits kind rest l :=
  ⟨h.worker, h.quiet, fun s' hs' => h.sub s' (List.mem_cons_of_mem _ hs'), h.keyed⟩

structure Turn (kind : FundingKind) (rest : List Snap) (s : Snap) (l : Stage) : Prop
    extends Waits kind rest l where
  turn : l.turn = some s

structure Granted (kind : FundingKind) (rest : List Snap) (s : Snap) (g : Grant) (l : Stage) : Prop
    extends Turn kind rest s l where
  grant : l.grant = some g

structure Grant.Of (r : WalletOperation) (g : Grant) : Prop where
  operationId : g.operationId = r.operationId
  pending : r.status = .pending → g.pending = true

theorem Grant.Of.eq_of_pending {r : WalletOperation} {g : Grant} (h : g.Of r) (hp : r.status = .pending) :
    g = ⟨r.operationId, true⟩ := by
  rw [← h.operationId, ← h.pending hp]

def GrantedRow (kind : FundingKind) (rest : List Snap) (s : Snap) (r : WalletOperation) (l : Stage) : Prop :=
  ∃ g : Grant, g.Of r ∧ Granted kind rest s g l

def ensuredOr (inactive : Prop) (existing : WalletOperation → Prop) (created : Prop) : Db.Ensured → Prop
  | .inactive => inactive
  | .existing r => existing r
  | .created => created

theorem Obeys.granted {kind : FundingKind} {rest : List Snap} {s : Snap} {r : WalletOperation} {p : Job α}
    {Ψ : Except ServiceError α → Stage → Prop}
    (h : ∀ g : Grant, g.Of r → Obeys protocol (Granted kind rest s g) p Ψ) :
    Obeys protocol (GrantedRow kind rest s r) p Ψ := fun l ⟨g, hg, hl⟩ => h g hg l hl

section turn

variable {kind : FundingKind} {rest : List Snap} {s : Snap} {id : OperationId} {g : Grant}

theorem quiet_turn : Quiet (Turn kind rest s) := fun _ h => h.quiet

theorem quiet_granted : Quiet (Granted kind rest s g) := fun _ h => h.quiet

/-- A result of a turn; an error leaves the rest of the pass waiting. -/
abbrev Ends (kind : FundingKind) (rest : List Snap) (R : α → Stage → Prop) : Except ServiceError α → Stage → Prop :=
  Yields (Waits kind rest) R

abbrev Over (kind : FundingKind) (rest : List Snap) (p : Job α) (Φ : Stage → Prop) : Prop :=
  Leaves protocol (Waits kind rest) p Φ

theorem waits_endTurn {l itemId} (h : Waits kind rest l) : Waits kind rest (l.endTurn itemId) := by
  unfold Stage.endTurn
  split
  · exact ⟨h.worker, h.quiet, h.sub, h.keyed⟩
  · exact h

theorem over_setItemFailure {itemId status failure} (hs : status = .actionRequired ∨ status = .failed)
    (hw : ∀ l, Φ l → Waits kind rest l)
    (hi : ∀ l, Φ l → (∃ s ∈ l.waiting, s.itemId = itemId) ∨ ∃ s, l.turn = some s ∧ s.itemId = itemId) :
    Over kind rest (Job.tryAsk (Job.ask (.setItemFailure itemId status failure))) Φ := by
  refine Obeys.tryAsk (Obeys.ask (fun l hl => ?_) fun l r hl _ => ?_)
  · exact Stage.allows_of_quiet (hw l hl).quiet ⟨by rw [(hw l hl).worker]; rfl, hs, hi l hl⟩
  · cases r <;> exact waits_endTurn (hw l hl)

theorem over_requireItemAction {code reason} (ht : ∀ l, Φ l → Turn kind rest s l) :
    Over kind rest (requireItemAction s.itemId code reason) Φ :=
  over_setItemFailure (.inl rfl) (fun l hl => (ht l hl).toWaits) fun l hl => .inr ⟨s, (ht l hl).turn, rfl⟩

theorem over_failItem {code reason} (ht : ∀ l, Φ l → Turn kind rest s l) :
    Over kind rest (failItem s.itemId code reason) Φ :=
  over_setItemFailure (.inr rfl) (fun l hl => (ht l hl).toWaits) fun l hl => .inr ⟨s, (ht l hl).turn, rfl⟩

/-! ## Funding -/

structure StepOf (kind : FundingKind) (s : Snap) (step : FundingStep) : Prop where
  kind_eq : step.kind = kind
  federationId : step.federationId = s.federationId
  itemId : step.itemId = s.itemId
  address : step.address = s.address
  amount : step.amount = s.amount

theorem fundingRow_newOperation {step} (h : StepOf kind s step) {a} (ha : step.address = some a)
    (network : BitcoinNetwork) :
    FundingRow kind s (step.newOperation network a) where
  operationType := by rw [← h.kind_eq]; rfl
  status := rfl
  amount := h.amount
  address := ⟨rfl, by rw [← h.address, ha]; rfl⟩
  federationId := by rw [← h.federationId]; rfl
  itemId := by rw [← h.itemId]; rfl
  intent := rfl
  settled := rfl
  released := rfl

theorem obeys_ensureWalletOperation {setup step} (h : StepOf kind s step) :
    Obeys protocol (Turn kind rest s) (ensureWalletOperation setup step)
      (Ends kind rest fun r l => r.elim (Waits kind rest l) (GrantedRow kind rest s · l)) := by
  unfold ensureWalletOperation FundingStep.requireAddress
  cases ha : step.address with
  | none => exact Obeys.throw fun _ hl => hl.toWaits
  | some a =>
    refine Obeys.bind (R := fun b l => b = a ∧ Turn kind rest s l) (Obeys.pure fun _ hl => ⟨rfl, hl⟩)
      fun b => ?_
    refine Obeys.bind (R := fun e l => ensuredOr (Waits kind rest l) (GrantedRow kind rest s · l)
      (Granted kind rest s ⟨step.operationId, true⟩ l) e) (Obeys.tryAsk (Obeys.ask ?_ ?_)) fun e => ?_
    · rintro l ⟨rfl, hl⟩
      exact Stage.allows_of_quiet hl.quiet
        ⟨kind, s, ⟨hl.worker, hl.turn⟩, h.itemId.symm, fundingRow_newOperation h ha _⟩
    · rintro l r ⟨rfl, hl⟩ -
      have hw : ∀ g, Waits kind rest { l with grant := g } := fun _ => ⟨hl.worker, hl.quiet, hl.sub, hl.keyed⟩
      rcases r with e | (_ | r | _)
      · exact hw _
      · exact hw _
      · exact ⟨_, ⟨rfl, fun hp => by simpa using hp⟩, ⟨hw _, hl.turn⟩, rfl⟩
      · exact ⟨⟨hw _, hl.turn⟩, rfl⟩
    cases e with
    | inactive => exact Obeys.pure fun _ hl => hl
    | existing r => exact Obeys.pure fun _ hl => hl
    | created =>
      refine Obeys.map (Obeys.tryAsk (Obeys.ask
        (fun l hl => Stage.allows_of_quiet hl.quiet trivial) fun l r hl hr => ?_))
      cases r with
      | error e => exact hl.toWaits
      | ok r =>
        exact ⟨_, ⟨(hr r rfl).symm, fun _ => rfl⟩, hl⟩

structure Sending (kind : FundingKind) (rest : List Snap) (s : Snap) (attempt : Attempt) (l : Stage) : Prop where
  worker : l.worker = some kind
  sub : ∀ s ∈ rest, s ∈ l.waiting
  keyed : Table.Keyed (·.itemId) l.waiting
  turn : l.turn = some s
  attempt_eq : l.attempt = attempt

theorem Sending.toTurn {a l} (h : Sending kind rest s a l) (ha : a.quiet = true) : Turn kind rest s l where
  worker := h.worker
  quiet := by rw [h.attempt_eq]; exact ha
  sub := h.sub
  keyed := h.keyed
  turn := h.turn

theorem over_failFunding {step} (h : StepOf kind s step) {detail} :
    Over kind rest (failFunding step id detail) (Sending kind rest s (.unsent id)) := by
  have ht : ∀ l, Sending kind rest s (.unsent id) l → Turn kind rest s l := fun l hl => hl.toTurn rfl
  refine Leaves.after (fun l hl => (ht l hl).toWaits)
    (stays_markOperationFailed fun l hl => hl.attempt_eq) fun _ => ?_
  rw [h.itemId]
  exact over_requireItemAction ht

theorem over_settleFunding {step} (h : StepOf kind s step) (response : SubmitResult) :
    Over kind rest (settleFunding step id response) (fun l =>
      match response with
      | .failed _ => Sending kind rest s (.unsent id) l
      | _ => Sending kind rest s .none l) := by
  have hq : Quiet (Sending kind rest s .none) := fun l hl => (hl.toTurn rfl).quiet
  have hw : ∀ l, Sending kind rest s .none l → Waits kind rest l := fun l hl => (hl.toTurn rfl).toWaits
  cases response with
  | submitted txid => exact Leaves.after hw (stays_markWithdrawalBroadcast hq) fun _ => Obeys.pure hw
  | failed detail => exact over_failFunding h
  | inDoubt detail => exact Leaves.after hw (stays_markOperationInDoubt hq) fun _ => Obeys.pure hw

theorem obeys_submitPreparedWithdrawal {p} :
    Obeys protocol (Sending kind rest s (.fenced p)) (submitPreparedWithdrawal p)
      (Ends kind rest fun response l =>
        match response with
        | .failed _ => Sending kind rest s (.unsent p.operationId) l
        | _ => Sending kind rest s .none l) := by
  refine Obeys.bind (R := fun _ => Sending kind rest s (.left p)) (Obeys.ask ?_ ?_) fun _ => Obeys.ask ?_ ?_
  · intro l hl
    simp only [protocol, Stage.allows, hl.attempt_eq]
  · intro l r hl _
    exact ⟨hl.worker, hl.sub, hl.keyed, hl.turn, rfl⟩
  · intro l hl
    simp only [protocol, Stage.allows, hl.attempt_eq]
  · intro l r hl _
    cases r <;> exact ⟨hl.worker, hl.sub, hl.keyed, hl.turn, rfl⟩

theorem over_submitIfFenced {step} (h : StepOf kind s step) {p} (fenced : Bool) :
    Over kind rest (submitIfFenced step p fenced)
      (Sending kind rest s (if fenced then .fenced p else .none)) := by
  cases fenced with
  | false => exact Obeys.pure fun l hl => (hl.toTurn rfl).toWaits
  | true => exact Leaves.bind obeys_submitPreparedWithdrawal fun response => over_settleFunding h response

theorem obeys_claimFundingSubmission {p failure} (hp : p.amount = s.amount ∧ s.address = some p.address) :
    Obeys protocol (fun l => Sending kind rest s (.prepared p) l ∧ l.grant = some ⟨p.operationId, true⟩)
      (Job.tryAsk (Job.ask (.claimFundingSubmission p.operationId s.itemId failure)))
      (Ends kind rest fun fenced => Sending kind rest s (if fenced then .fenced p else .none)) := by
  refine Obeys.tryAsk (Obeys.ask (fun l hl => ?_) fun l r hl _ => ?_)
  · exact Stage.allows_of_quiet (hl.1.toTurn rfl).quiet
      ⟨p, s, hl.1.attempt_eq, rfl, hl.1.turn, rfl, kind, s, ⟨hl.1.worker, hl.1.turn⟩, hl.2, hp⟩
  have ha : protocol.after l (.claimFundingSubmission p.operationId s.itemId failure) r =
      { l with attempt := if applied r then .fenced p else .none, grant := if applied r then none else l.grant } := by
    simp only [protocol, Stage.after, Attempt.fence, hl.1.attempt_eq]
  rw [ha]
  cases r with
  | error e => exact ⟨hl.1.worker, rfl, hl.1.sub, hl.1.keyed⟩
  | ok b => exact ⟨hl.1.worker, hl.1.sub, hl.1.keyed, hl.1.turn, rfl⟩

theorem over_submitFundingWithdrawal {setup step} (h : StepOf kind s step) :
    Over kind rest (submitFundingWithdrawal setup step id) (Granted kind rest s ⟨id, true⟩) := by
  unfold submitFundingWithdrawal FundingStep.requireAddress
  cases ha : step.address with
  | none => exact Obeys.throw fun _ hl => hl.toWaits
  | some a =>
    refine Leaves.bind (R := fun b l => b = a ∧ Granted kind rest s ⟨id, true⟩ l) (Obeys.pure fun _ hl => ⟨rfl, hl⟩)
      fun b => ?_
    let p : PreparedWithdrawal := ⟨id, b, step.amount, defaultFeeRateSatPerVbyte setup.network⟩
    refine Leaves.bind (R := fun r l => b = a ∧
      match r with
      | .ok _ => Sending kind rest s (.prepared p) l ∧ l.grant = some ⟨id, true⟩
      | .error _ => Sending kind rest s (.unsent id) l) (Obeys.ask ?_ ?_) fun r => ?_
    · rintro l ⟨rfl, hl⟩
      exact Stage.allows_of_quiet hl.quiet
        (.inr ⟨kind, s, ⟨hl.worker, hl.turn⟩, hl.grant, h.amount, by rw [← h.address, ha]⟩)
    · rintro l r ⟨rfl, hl⟩ -
      cases r with
      | ok u => exact ⟨rfl, ⟨hl.worker, hl.sub, hl.keyed, hl.turn, rfl⟩, hl.grant⟩
      | error e =>
        refine ⟨rfl, hl.worker, hl.sub, hl.keyed, hl.turn, ?_⟩
        simp only [protocol, Stage.after, preparedAttempt, hl.worker, Option.isSome_some, if_true]
    cases r with
    | error e => exact (over_failFunding h).mono (fun _ hl => hl.2) fun _ _ hl => hl
    | ok u =>
      by_cases hb : b = a
      · refine Leaves.bind (R := fun fenced => Sending kind rest s (if fenced then .fenced p else .none))
          ?_ fun fenced => over_submitIfFenced h fenced
        rw [h.itemId]
        exact (obeys_claimFundingSubmission (p := p)
          ⟨h.amount, by rw [← h.address, ha, ← hb]⟩).mono (fun _ hl => hl.2) fun _ _ hl => hl
      · exact fun l hl => absurd hl.1 hb

end turn

end Manifold.Liquidity
