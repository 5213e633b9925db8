import Manifold.Liquidity.Lemmas.Items

/-!
# What a step writes to the allocations and to the setup
-/

namespace Manifold.Liquidity

open Lib

structure KeepsFrame (db db' : Db) : Prop where
  allocations : db'.allocations = db.allocations
  setup : db'.setup = db.setup

theorem Touches.frame {db db'} (h : Touches db db') : KeepsFrame db db' := by
  obtain ⟨_, _, _, rfl⟩ := h
  exact ⟨rfl, rfl⟩

section handler

variable {w w' : World} {x : Outside} {out : List Event} {e : Ask} {r : Ans e}

theorem handler_observesBalance (hs : handler e w x = some (r, w', out)) (hb : e.observesBalance = true) :
    w'.db = w.db ∨ w'.db = { w.db with tick := w.db.tick + 1 } ∨
      ∃ network spendable readAt, e = .upsertWalletBalanceObservation network spendable readAt ∧
        w'.db = { w.db with observation := some ⟨network, spendable, x.now, readAt⟩ } := by
  cases e <;> try cases hb
  all_goals simp only [handler] at hs
  case beginBalanceRead =>
    rcases World.write_cases hs with ⟨rfl, -, -⟩ | ⟨rfl, -, -⟩
    · exact .inl rfl
    · exact .inr (.inl rfl)
  case upsertWalletBalanceObservation network spendable readAt =>
    rcases World.run_cases hs with ⟨rfl, -, -⟩ | ⟨rfl, -, -⟩
    · exact .inl rfl
    · rcases Db.runUpsertBalance_cases w.db ⟨network, spendable, x.now, readAt⟩ with h | h <;> rw [h]
      · exact .inl rfl
      · exact .inr (.inr ⟨_, _, _, rfl, rfl⟩)

theorem handler_frame (hs : handler e w x = some (r, w', out)) (ha : e.accepts = false)
    (hr : ∀ f, e ≠ .releaseAllocation f) : KeepsFrame w.db w'.db := by
  cases hb : e.observesBalance with
  | false => exact ((handler_framed hs).touches ha hr hb).frame
  | true =>
    rcases handler_observesBalance hs hb with h | h | ⟨_, _, _, -, h⟩ <;> rw [h] <;> exact ⟨rfl, rfl⟩

theorem handler_release {f r} (hs : handler (.releaseAllocation f) w x = some (r, w', out)) :
    w'.db = w.db ∨ (w.db.allocationHolding f).isIdle = true ∧ w'.db = w.db.deleteAllocation f := by
  simp only [handler] at hs
  rcases World.run_cases hs with ⟨rfl, -, -⟩ | ⟨rfl, -, -⟩
  · exact .inl rfl
  rcases Db.releaseAllocation_cases w.db f with ⟨a, h, hidle⟩ | ⟨hne, h⟩
  · refine .inr ⟨hidle, ?_⟩
    simp only [Db.runRelease, h]
  left
  unfold Db.runRelease
  split
  · rename_i hr
    exact absurd (by rw [hr]) (hne _)
  · rename_i hr
    rw [hr] at h
    exact h

theorem handler_clock (hs : handler e w x = some (r, w', out)) (hb : e.observesBalance = false) :
    w'.db.tick = w.db.tick ∧ w'.db.observation = w.db.observation := by
  cases ha : e.accepts with
  | true =>
    cases e <;> try cases ha
    rename_i config revision request
    simp only [handler] at hs
    rcases World.run_cases hs with ⟨rfl, -, -⟩ | ⟨rfl, -, -⟩
    · exact ⟨rfl, rfl⟩
    have hkeep : ∀ acceptance db' released,
        w.db.acceptRequest config revision request x.now x.stamp = .ok (acceptance, db', released) →
          db'.tick = w.db.tick ∧ db'.observation = w.db.observation := by
      intro acceptance db' released h
      rcases Db.acceptRequest_cases h with ⟨-, rfl⟩ | ⟨plan, freed, -, -, rfl, -, hins⟩
      · exact ⟨rfl, rfl⟩
      · rw [(Db.insertAllocation_eq hins).1]
        cases released <;> exact ⟨rfl, rfl⟩
    unfold Db.runAccept
    split
    · exact ⟨rfl, rfl⟩
    · exact hkeep _ _ _ (by assumption)
    · exact hkeep _ _ _ (by assumption)
  | false =>
    by_cases hr : ∃ f, e = .releaseAllocation f
    · obtain ⟨f, rfl⟩ := hr
      rcases handler_release hs with h | ⟨-, h⟩ <;> rw [h] <;> exact ⟨rfl, rfl⟩
    · obtain ⟨_, _, _, h⟩ := (handler_framed hs).touches ha (fun f he => hr ⟨f, he⟩) hb
      rw [h]
      exact ⟨rfl, rfl⟩

theorem handler_tick (hs : handler e w x = some (r, w', out)) : w.db.tick ≤ w'.db.tick := by
  cases hb : e.observesBalance with
  | false => exact (handler_clock hs hb).1.ge
  | true =>
    rcases handler_observesBalance hs hb with h | h | ⟨_, _, _, -, h⟩ <;> rw [h]
    exact Nat.le_succ _

end handler

end Manifold.Liquidity
