import Manifold.Liquidity.Lemmas.Answers

/-!
# Guarantees of the liquidity manager
-/

namespace Manifold.Liquidity

open Lib

/-! ## Sends -/

/-- Provider money is sent at most once per authorised attempt: right after the caller's own fence, which moves the
row to `in_doubt`; a second fence of an operation was authorised; and the submissions for one withdrawal intent are
of one operation. -/
theorem sends_as_authorised {env : Env} {es : List Note} {s : Daemon}
    (h : (machine env anyStep).Reaches es s) :
    (∀ pre caller p post, es = pre ++ (caller, .submitted p) :: post →
      ∃ it, LastNote pre caller (.fenced p.operationId it)) ∧
    (∀ a t out caller o it, step env anyStep s a = some (t, out) → (caller, .fenced o it) ∈ out →
      FenceWritten s.world.db t.world.db o it) ∧
    (∀ pre c₁ o i₁ mid c₂ i₂ post, es = pre ++ (c₁, .fenced o i₁) :: (mid ++ (c₂, .fenced o i₂) :: post) →
      Reauthorised o mid) ∧
    (∀ c₁ p, (c₁, .submitted p) ∈ es → (s.world.db.operation p.operationId).isSome = true ∧
      ∀ c₂ q k, (c₂, .submitted q) ∈ es → s.world.db.intentOf p = some k → s.world.db.intentOf q = some k →
        p.operationId = q.operationId) := by
  obtain ⟨c, hr, hsim⟩ := reaches_crowd (G := fun _ _ _ => True) (fun _ _ _ _ _ _ => trivial) answering h
  have hrows := hr.sendInv.rows
  rw [hsim.world] at hrows
  refine ⟨fun pre caller p post he => hr.sent pre _ post he p rfl, ?_, ?_, fun c₁ p hp => ⟨?_, ?_⟩⟩
  · intro a t out caller o it hs hn
    obtain ⟨e, x, r, w, evs, -, hh, -, hev, hdb⟩ := step_note hs hn
    rw [hdb]
    obtain ⟨hafter, hbefore⟩ := handler_emits hrows.keyed hh _ hev
    rcases hbefore with ⟨i, -, row, rfl, -, hop, hi, hst, ha⟩ | ⟨-, -, -, -, rfl, -, hop, row, hrow, htype⟩
    · exact ⟨⟨row, hop, hi, hst⟩, ha, hafter⟩
    · obtain ⟨row', hrow', hst⟩ := hafter
      cases hrow.symm.trans hrow'
      exact ⟨hop, row, hrow, hst, htype⟩
  · intro pre c₁ o i₁ mid c₂ i₂ post he
    have hfree := hr.fenced (pre ++ (c₁, .fenced o i₁) :: mid) (c₂, .fenced o i₂) post (by rw [he]; simp) o i₂ rfl
    have hfence : (auth o pre).next o (.fenced o i₁) = .fenced := by simp [Auth.next]
    rw [auth_append, Auth.through, List.foldl_cons, hfence] at hfree
    exact reauthorised_of_free hfree
  · obtain ⟨row, hrow⟩ := hr.submitted_row hp
    rw [hsim.world] at hrow
    rw [hrow]
    rfl
  intro c₂ q k hq hk₁ hk₂
  obtain ⟨r₁, hr₁, hi₁⟩ := Option.bind_eq_some_iff.mp hk₁
  obtain ⟨r₂, hr₂, hi₂⟩ := Option.bind_eq_some_iff.mp hk₂
  obtain ⟨hm₁, hid₁⟩ := Db.mem_of_operation hr₁
  obtain ⟨hm₂, hid₂⟩ := Db.mem_of_operation hr₂
  rw [← hid₁, ← hid₂]
  exact hrows.intents r₁ hm₁ r₂ hm₂ k hi₁ hi₂

def plainEnv : Env where
  validAddress _ _ := .ok ()
  parseOperationId _ := true
  prevalidate _ _ := none

def freshDaemon : Daemon := { world := {} }

def gatewayRequest (amount : Sats) : LiquidityRequest where
  requesterPubkey := "fa"
  detailsPayloadHash := "details"
  target := ⟨"fed", "fed", "invite", "hash"⟩
  gatewayMinAmount := amount
  stabilityMinAmount := 0
  expiresAt := 1000000

def fundedRun (balance amount : Sats) : List Act :=
  [.setSetup { config := some {}, ready := true, revision := 1 }, .deposit balance, .begin .getFunds] ++
    List.replicate 4 (.resume 0 {}) ++ [.begin (.requestLiquidity (gatewayRequest amount))] ++
    List.replicate 5 (.resume 1 {})

def connected : Outside := { connect := .ok ⟨"fed", 0⟩, now := 10 }

/-- A pass has fenced the operation and is held up before its call; the operator allows a retry. The call leaves, the
daemon crashes, and the next pass submits again. -/
def delayedSubmission : List Act :=
  fundedRun 1000 100 ++ .begin .gatewayPass :: List.replicate 17 (.resume 2 connected) ++
    .begin .sync :: List.replicate 8 (.resume 3 { now := 30000 }) ++
    [.begin (.resolveManualReview ⟨"wallet-gateway-funding-fed-gateway", .safeToRetry, none, none⟩),
      .resume 4 {}, .resume 2 {}, .crash, .begin .gatewayPass] ++
    List.replicate 11 (.resume 5 connected)

theorem submissions_without_resolution_between :
    ∃ es s pre c₁ p mid c₂ q post, (machine plainEnv anyStep).Reaches es s ∧
      es = pre ++ (c₁, .submitted p) :: (mid ++ (c₂, .submitted q) :: post) ∧
      p.operationId = q.operationId ∧
      (∀ n ∈ mid, (∃ i o, n.2 = .ensured i o) ∨ ∃ o it, n.2 = .fenced o it) := by
  let worker (number : Nat) : Caller := ⟨number, some .gateway⟩
  let o : OperationId := "wallet-gateway-funding-fed-gateway"
  let p : PreparedWithdrawal := ⟨o, "address", 100, 5⟩
  have hrun : ((machine plainEnv anyStep).exec freshDaemon delayedSubmission).map (fun r => r.2.drop 5) =
      some [(worker 2, .submitted p), (worker 5, .ensured "fed:gateway" o),
        (worker 5, .fenced o (some "fed:gateway")), (worker 5, .submitted p)] := by decide +kernel
  obtain ⟨⟨s, es⟩, hexec, hdrop⟩ := Option.map_eq_some_iff.mp hrun
  have hreach := Machine.reaches_of_exec (M := machine plainEnv anyStep) ⟨rfl, rfl, rfl⟩ hexec
  refine ⟨es, s, es.take 5, worker 2, p,
    [(worker 5, .ensured "fed:gateway" o), (worker 5, .fenced o (some "fed:gateway"))], worker 5, p, [],
    hreach, ?_, rfl, by simp⟩
  exact (List.take_append_drop 5 es).symm.trans (congrArg (es.take 5 ++ ·) hdrop)

theorem sends_as_authorised_funding :
    ((machine plainEnv anyStep).exec freshDaemon delayedSubmission).isSome = true ∧
    ∀ r ∈ (machine plainEnv anyStep).exec freshDaemon delayedSubmission,
      ∀ pre caller p post, r.2 = pre ++ (caller, .submitted p) :: post →
        ∃ it, LastNote pre caller (.fenced p.operationId it) :=
  ⟨by decide +kernel, fun _ hr => (sends_as_authorised (Machine.reaches_of_exec ⟨rfl, rfl, rfl⟩ hr)).1⟩

end Manifold.Liquidity
