import Manifold.Liquidity.Lemmas.DepositRun
import Manifold.Liquidity.Theorems

/-!
# Guarantees of the stability-pool deposits
-/

namespace Manifold.Liquidity

open Lib

/-- An item is deposited for at most once per allocation: a submission follows its caller's compare-and-set on a
staged step, all submissions between two insertions of the allocation are the same, the recorded deposit stays, and
an item is completed only with its deposit accepted. Only for a deposit that the worker staged is the claim known to
cover the commitment. -/
theorem deposits_once {env : Env} {es : List Note} {s : Daemon} (h : (machine env depositGuard).Reaches es s) :
    (∀ pre caller i submission post, es = pre ++ (caller, .depositSubmitted i submission) :: post →
      ∃ f step, i = itemIdOf f .stabilityPool ∧
        LastNote pre caller (.stepSet i (.stability step) (.stability step)) ∧
        step.spDepositStatus = some .submitting ∧ step.submission = some submission ∧
        StagedSince f pre submission) ∧
    (∀ a t out caller i expected next, step env depositGuard s a = some (t, out) →
      (caller, .stepSet i expected next) ∈ out → StepWritten s.world.db t.world.db i expected next) ∧
    (∀ pre c₁ f first mid c₂ second post,
      es = pre ++ (c₁, .depositSubmitted (itemIdOf f .stabilityPool) first) ::
        (mid ++ (c₂, .depositSubmitted (itemIdOf f .stabilityPool) second) :: post) →
      (∀ n ∈ mid, n.2 ≠ .allocationInserted f) → second = first) ∧
    (∀ t fs, (machine env depositGuard).Run s fs t → ∀ row ∈ s.world.db.items, ∀ row' ∈ t.world.db.items,
      row'.itemId = row.itemId → row.sourceType = .stabilityPool →
      (∀ n ∈ fs, n.2 ≠ .allocationInserted row.federationId) →
      Forward (StepJson.readStability row.step).1 (StepJson.readStability row'.step).1) ∧
    (∀ a t out, step env depositGuard s a = some (t, out) → ∀ row ∈ s.world.db.items, ∀ row' ∈ t.world.db.items,
      row'.itemId = row.itemId → row.sourceType = .stabilityPool → row.status ≠ .completed →
      row'.status = .completed → DepositDone es s.world.db row (StepJson.readStability row.step).1) := by
  have hinv := reaches_depositInv h
  refine ⟨fun pre caller i submission post he => ?_, fun a t out caller i expected next hs hn => ?_,
    fun pre c₁ f first mid c₂ second post he hmid => ?_, fun t fs hrun row hrow row' hrow' hid hsrc hu => ?_,
    fun a t out hs row hrow row' hrow' hid hsrc hst hst' => ?_⟩
  · obtain ⟨f, step, hf, hlast, hst, hsub, hstaged, -⟩ := hinv.trace pre _ post he i submission rfl
    exact ⟨f, step, hf, hlast, hst, hsub, hstaged⟩
  · obtain ⟨_, _, _, hd⟩ := reaches_dbNamed h
    obtain ⟨e, x, r, w, evs, -, hh, -, hev, hdb⟩ := step_note hs hn
    rw [hdb]
    exact stepWritten hd hh hev
  · obtain ⟨f', step, hf, -, -, -, -, hone⟩ := hinv.trace
      (pre ++ (c₁, .depositSubmitted (itemIdOf f .stabilityPool) first) :: mid)
      (c₂, .depositSubmitted (itemIdOf f .stabilityPool) second) post (by rw [he]; simp) _ second rfl
    obtain rfl := (itemIdOf_inj hf).1
    -- the first submission is still the one on record
    refine (hone first ⟨c₁, Trace.mem_since_of_append (fun n hn => ?_) List.mem_cons_self⟩).symm
    rcases List.mem_cons.mp hn with rfl | hn
    · rfl
    · simpa using hmid n hn
  · exact run_forward h hrun hrow hsrc hu hrow' hid
  · exact (row_step h hinv hs hrow hrow' hid hsrc).2 hst hst'

/-! ## Runs -/

def stabilityRequest (amount : Sats) : LiquidityRequest where
  requesterPubkey := "fa"
  detailsPayloadHash := "details"
  target := ⟨"fed", "fed", "invite", "hash"⟩
  gatewayMinAmount := 0
  stabilityMinAmount := amount
  expiresAt := 1000000

def settled (claimed : Sats) : Outside where
  now := 10
  addressEvidence := .ok [⟨"txid", 0, some "address", 100, 6⟩]
  txEvidence := .ok (some [⟨"txid", 0, some "address", 100, 6⟩])
  pegInStatus := .ok (.claimed claimed "pegin")
  targetBalance := .ok claimed
  depositOperation := .ok (some 100)
  depositStatus := .ok .success
  report := .ok 100

def claimedRun (claimed : Sats) : List Act :=
  [.setSetup { config := some {}, ready := true, revision := 1 }, .deposit 1000, .begin .getFunds] ++
    List.replicate 4 (.resume 0 {}) ++ .begin (.requestLiquidity (stabilityRequest 100)) ::
    List.replicate 5 (.resume 1 {}) ++ .begin .stabilityPass :: List.replicate 21 (.resume 2 (settled claimed)) ++
    .begin .sync :: List.replicate 7 (.resume 3 (settled claimed)) ++ [.begin .stabilityPass]

/-- The claim is short of the commitment, so the pass stops for an operator, who binds a deposit. -/
def boundRun : List Act :=
  claimedRun 50 ++ List.replicate 11 (.resume 4 (settled 50)) ++ .begin (.bindTargetDeposit "fed" "bound") ::
    List.replicate 3 (.resume 5 (settled 50)) ++ .begin .stabilityPass :: List.replicate 14 (.resume 6 (settled 50))

/-- The item of a bound deposit is completed although its peg-in was claimed for less than it committed. -/
theorem bound_item_completed_below_commitment :
    ∃ es s row a, (machine plainEnv depositGuard).Reaches es s ∧ row ∈ s.world.db.items ∧
      row.sourceType = .stabilityPool ∧ row.status = .completed ∧
      (StepJson.readStability row.step).1.claimedAmount = some a ∧ a < row.committedAmount := by
  have hrun : ((machine plainEnv depositGuard).exec freshDaemon boundRun).any (fun r =>
      r.1.world.db.items.any (fun i => i.sourceType = .stabilityPool && i.status = .completed &&
        (StepJson.readStability i.step).1.claimedAmount.any (· < i.committedAmount))) = true := by decide +kernel
  obtain ⟨⟨s, es⟩, hexec, hany⟩ := (Option.any_eq_true _ _).mp hrun
  obtain ⟨row, hrow, hbad⟩ := List.any_eq_true.mp hany
  simp only [Bool.and_eq_true, decide_eq_true_eq, Option.any_eq_true] at hbad
  obtain ⟨⟨hsrc, hst⟩, a, ha, hlt⟩ := hbad
  have hreach := Machine.reaches_of_exec (M := machine plainEnv depositGuard) ⟨rfl, rfl, rfl⟩ hexec
  exact ⟨es, s, row, a, hreach, hrow, hsrc, hst, ha, hlt⟩

/-- The claim covers the commitment: the deposit is staged and submitted, and the next pass completes the
item. -/
def depositedRun : List Act :=
  claimedRun 100 ++ List.replicate 16 (.resume 4 (settled 100)) ++ .begin .stabilityPass ::
    List.replicate 14 (.resume 5 (settled 100))

theorem deposits_once_for_claimed_item :
    ((machine plainEnv depositGuard).exec freshDaemon depositedRun).any (fun r =>
      r.2.any (fun n => n.2 = .depositSubmitted "fed:stability_pool" ⟨"deposit", 100, 0⟩)) = true ∧
    ∀ r ∈ (machine plainEnv depositGuard).exec freshDaemon depositedRun,
      ∀ pre caller i submission post, r.2 = pre ++ (caller, .depositSubmitted i submission) :: post →
        ∃ f step, i = itemIdOf f .stabilityPool ∧
          LastNote pre caller (.stepSet i (.stability step) (.stability step)) ∧
          step.spDepositStatus = some .submitting ∧ step.submission = some submission ∧
          StagedSince f pre submission :=
  ⟨by decide +kernel, fun _ hr => (deposits_once (Machine.reaches_of_exec ⟨rfl, rfl, rfl⟩ hr)).1⟩

end Manifold.Liquidity
