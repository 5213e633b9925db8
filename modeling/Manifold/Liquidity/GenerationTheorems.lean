import Manifold.Liquidity.Lemmas.Generations
import Manifold.Liquidity.Theorems

/-!
# Guarantees across live restores
-/

namespace Manifold.Liquidity

open Lib

theorem ProcessInv.operation_eq {es s} (hi : ProcessInv es s) {p q} (h : SamePayment es p q) :
    p.operationId = q.operationId := by
  rcases h with h | ⟨intent, ⟨n₁, hn₁, row₁, he₁, hid₁, hint₁⟩, ⟨n₂, hn₂, row₂, he₂, hid₂, hint₂⟩⟩
  · exact h
  obtain ⟨r₁, hr₁, hr₁id, hr₁int, -⟩ := hi.created n₁ hn₁ row₁ intent he₁ hint₁
  obtain ⟨r₂, hr₂, hr₂id, hr₂int, -⟩ := hi.created n₂ hn₂ row₂ intent he₂ hint₂
  rw [← hid₁, ← hid₂, ← hr₁id, ← hr₂id]
  exact hi.sound.intents r₁ hr₁ r₂ hr₂ intent hr₁int hr₂int

theorem ProcessInv.fence_before {es s} (hi : ProcessInv es s) {n₁ n₂ before after}
    (hes : es = before ++ n₂ :: after) (hn₁ : n₁ ∈ es) {o it₁ it₂} (he₁ : n₁.event = .fenced o it₁)
    (he₂ : n₂.event = .fenced o it₂) (hlt : n₁.generation < n₂.generation) : n₁ ∈ before := by
  rw [hes] at hn₁
  rcases List.mem_append.mp hn₁ with hn₁ | hn₁
  · exact hn₁
  rcases List.mem_cons.mp hn₁ with rfl | hn₁
  · exact absurd hlt (lt_irrefl _)
  -- a fence after that of the later generation is not of an earlier one
  obtain ⟨mid, post, rfl⟩ := List.append_of_mem hn₁
  have hpos : es = (before ++ n₂ :: mid) ++ n₁ :: post := by rw [hes]; simp
  have hle := (hi.allowed _ n₁ post hpos o it₁ he₁).1 n₂ (by simp) o it₂ he₂
  exact absurd hlt (not_lt_of_ge hle)

/-- A restore never makes a generation pay again: where an earlier one submitted for the same operation or intent, an
operator allowed another attempt in the generation that submits. -/
theorem restores_send_once {env : Env} {es : List GenNote} {s : Process}
    (h : (generations env keepsSends).Reaches es s) {pre post : List GenNote} {g₁ g₂ : Nat} {c₁ c₂ : Caller}
    {p q : PreparedWithdrawal} (hp : ⟨g₁, c₁, .submitted p⟩ ∈ es)
    (hq : es = pre ++ ⟨g₂, c₂, .submitted q⟩ :: post) (hlt : g₁ < g₂) (hsame : SamePayment es p q) :
    ∃ n ∈ pre, n.generation = g₂ ∧ n.event.allowsRetry q.operationId = true := by
  have hi := reaches_processInv h
  have hop := hi.operation_eq hsame
  -- both submissions come after a fence of their own generation
  obtain ⟨pre₁, post₁, hsplit⟩ := List.append_of_mem hp
  obtain ⟨it₁, hf₁⟩ := hi.own pre₁ _ post₁ hsplit p rfl
  obtain ⟨it₂, hf₂⟩ := hi.own pre _ post hq q rfl
  have hmem₁ : (⟨g₁, c₁, .fenced q.operationId it₁⟩ : GenNote) ∈ es := by
    rw [hsplit, ← hop]
    exact List.mem_append_left _ hf₁
  obtain ⟨before, mid, rfl⟩ := List.append_of_mem hf₂
  have hes : es = before ++ ⟨g₂, c₂, .fenced q.operationId it₂⟩ :: (mid ++ ⟨g₂, c₂, .submitted q⟩ :: post) := by
    rw [hq]; simp
  have hbefore := hi.fence_before hes hmem₁ rfl rfl hlt
  obtain ⟨a, ha, hallow⟩ := (hi.allowed before _ _ hes q.operationId it₂ rfl).2 _ hbefore it₁ rfl hlt
  exact ⟨a, List.mem_append_left _ ha, hallow⟩

def freshProcess : Process := { daemon := freshDaemon }

/-- A backup is taken after the acceptance, a pass submits, the backup is restored, and the next generation submits
once more. -/
def restoredBeforeSend : List ProcessAct :=
  (fundedRun 1000 100).map .act ++ [.createBackup, .act (.begin .gatewayPass)] ++
    List.replicate 21 (.act (.resume 2 connected)) ++
    [.restoreBackup 0, .commitRestore, .act (.begin .gatewayPass)] ++
    List.replicate 18 (.act (.resume 3 connected))

/-- No operator allowed the second submission. -/
def Event.settled : Event → Bool
  | .resolved .. | .retried _ => false
  | _ => true

theorem restore_submits_again :
    ∃ es s c₁ c₂ p, (generations plainEnv anyRestore).Reaches es s ∧ ⟨0, c₁, .submitted p⟩ ∈ es ∧
      ⟨1, c₂, .submitted p⟩ ∈ es ∧ ∀ n ∈ es, ∀ o, n.event.allowsRetry o = false := by
  let worker (number : Nat) : Caller := ⟨number, some .gateway⟩
  let o : OperationId := "wallet-gateway-funding-fed-gateway"
  let p : PreparedWithdrawal := ⟨o, "address", 100, 5⟩
  have hrun : ((generations plainEnv anyRestore).exec freshProcess restoredBeforeSend).any (fun r =>
      decide (⟨0, worker 2, .submitted p⟩ ∈ r.2) && decide (⟨1, worker 3, .submitted p⟩ ∈ r.2) &&
        r.2.all (fun n => n.event.settled)) = true := by
    decide +kernel
  obtain ⟨⟨s, es⟩, hexec, h⟩ := (Option.any_eq_true _ _).mp hrun
  simp only [Bool.and_eq_true, decide_eq_true_eq, List.all_eq_true] at h
  have hreach := Machine.reaches_of_exec (M := generations plainEnv anyRestore)
    ⟨rfl, rfl, rfl, rfl, rfl, rfl, rfl⟩ hexec
  refine ⟨es, s, worker 2, worker 3, p, hreach, h.1.1, h.1.2, fun n hn o => ?_⟩
  have hn := h.2 n hn
  cases he : n.event <;> rw [he] at hn <;> first | rfl | cases hn

/-- The answer to a submission is lost, a backup is restored, and the operator resolves the send as safe to retry. -/
def retriedAfterRestore : List ProcessAct :=
  (fundedRun 1000 100).map .act ++ .act (.begin .gatewayPass) ::
    List.replicate 21 (.act (.resume 2 { connected with submit := .inDoubt "timeout" })) ++
    [.createBackup, .restoreBackup 0, .commitRestore, .act (.begin .sync)] ++
    List.replicate 8 (.act (.resume 3 { now := 30000 })) ++
    [.act (.begin (.resolveManualReview ⟨"wallet-gateway-funding-fed-gateway", .safeToRetry, none, none⟩)),
      .act (.resume 4 {}), .act (.begin .gatewayPass)] ++
    List.replicate 11 (.act (.resume 5 connected))

theorem restores_send_once_retried :
    ∃ es s pre, ∃ p q : PreparedWithdrawal, (generations plainEnv keepsSends).Reaches es s ∧
      ⟨0, ⟨2, some .gateway⟩, .submitted p⟩ ∈ es ∧ es = pre ++ [⟨1, ⟨5, some .gateway⟩, .submitted q⟩] ∧
      p.operationId = q.operationId ∧ ∃ n ∈ pre, n.generation = 1 ∧ n.event.allowsRetry q.operationId = true := by
  let p : PreparedWithdrawal := ⟨"wallet-gateway-funding-fed-gateway", "address", 100, 5⟩
  have hrun : ((generations plainEnv keepsSends).exec freshProcess retriedAfterRestore).any (fun r =>
      decide (⟨0, ⟨2, some .gateway⟩, .submitted p⟩ ∈ r.2) &&
        decide (r.2.drop 8 = [⟨1, ⟨5, some .gateway⟩, .submitted p⟩])) = true := by decide +kernel
  obtain ⟨⟨s, es⟩, hexec, h⟩ := (Option.any_eq_true _ _).mp hrun
  simp only [Bool.and_eq_true, decide_eq_true_eq] at h
  have hreach := Machine.reaches_of_exec (M := generations plainEnv keepsSends)
    ⟨rfl, rfl, rfl, rfl, rfl, rfl, rfl⟩ hexec
  have hes : es = es.take 8 ++ [⟨1, ⟨5, some .gateway⟩, .submitted p⟩] := by
    rw [← h.2, List.take_append_drop]
  exact ⟨es, s, es.take 8, p, p, hreach, h.1, hes, rfl, restores_send_once hreach h.1 hes (by decide) (.inl rfl)⟩

end Manifold.Liquidity
