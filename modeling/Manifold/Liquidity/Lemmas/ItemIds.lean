import Manifold.Liquidity.Lemmas.Allocations
import Manifold.Liquidity.Lemmas.Answers

/-!
# The ids of the items
-/

namespace Manifold.Liquidity

open Lib

/-! ## Derived ids -/

theorem itemIdOf_inj {f f' a b} (h : itemIdOf f a = itemIdOf f' b) : f = f' ∧ a = b := by
  have hl := congrArg String.toList h
  simp only [itemIdOf, String.toList_append] at hl
  have hlast := congrArg List.getLast? hl
  cases a <;> cases b
  · exact ⟨(String.append_left_inj _).mp ((String.append_left_inj _).mp h), rfl⟩
  · exact absurd hlast (by simp [SourceType.display])
  · exact absurd hlast (by simp [SourceType.display])
  · exact ⟨(String.append_left_inj _).mp ((String.append_left_inj _).mp h), rfl⟩

theorem mem_activeItemRows {db : Db} {source} {row : AllocationItem × FundingTarget}
    (h : row ∈ db.activeItemRows source) :
    row.1 ∈ db.items ∧ row.1.sourceType = source ∧ row.1.status.active = true := by
  obtain ⟨i, hi, hrow⟩ := List.mem_filterMap.mp h
  obtain ⟨a, -, rfl⟩ := Option.map_eq_some_iff.mp hrow
  have hmem := List.mem_filter.mp ((List.mem_insertionSort _).mp hi)
  simp only [Bool.and_eq_true, decide_eq_true_eq] at hmem
  exact ⟨hmem.1, hmem.2⟩

/-! ## The items of a stage -/

def Stage.Has (l : Stage) (s : Snap) : Prop := s ∈ l.waiting ∨ l.turn = some s

theorem Stage.has_setAddress {l : Stage} {step} {s : Snap} (h : (l.setAddress step).Has s) :
    ∃ s₀, l.Has s₀ ∧ s₀.itemId = s.itemId ∧ s₀.federationId = s.federationId := by
  rcases h with h | h
  · exact ⟨s, .inl h, rfl, rfl⟩
  cases hw : l.worker with
  | none =>
    simp only [setAddress, hw] at h
    exact ⟨s, .inr h, rfl, rfl⟩
  | some kind =>
    simp only [setAddress, hw] at h
    obtain ⟨s₀, hs₀, rfl⟩ := Option.map_eq_some_iff.mp h
    exact ⟨s₀, .inr hs₀, rfl, rfl⟩

theorem Stage.has_after {l : Stage} {e r} (he : ∀ kind, e ≠ .activeItems kind) {s : Snap}
    (h : (l.after e r).Has s) : ∃ s₀, l.Has s₀ ∧ s₀.itemId = s.itemId ∧ s₀.federationId = s.federationId := by
  have same : l.Has s → ∃ s₀, l.Has s₀ ∧ s₀.itemId = s.itemId ∧ s₀.federationId = s.federationId := fun h =>
    ⟨s, h, rfl, rfl⟩
  cases e with
  | activeItems kind => exact absurd rfl (he kind)
  | markItemRunning id =>
    simp only [after] at h
    split at h
    · rcases h with h | h
      · exact same (.inl (List.mem_of_mem_filter h))
      · exact same (.inl (Table.lookup_mem h).1)
    · exact same h
  | updateItemStep | compareAndSetItemStep =>
    simp only [after] at h
    split at h
    · exact has_setAddress h
    · exact same h
  | setItemFailure id status failure =>
    simp only [after, endTurn] at h
    split at h
    · rcases h with h | h
      · exact same (.inl h)
      · cases h
    · exact same h
  | _ => exact same h

/-! ## Over every run -/

structure Named (c : Crowd) : Prop where
  rows : ∀ i ∈ c.world.db.items, i.itemId = itemIdOf i.federationId i.sourceType
  allocated : ∀ i ∈ c.world.db.items, ∃ a ∈ c.world.db.allocations, a.federationId = i.federationId
  stages : ∀ m ∈ c.members, ∀ kind, m.2.worker = some kind → ∀ s, m.2.Has s →
    s.itemId = itemIdOf s.federationId kind.source

section step

variable {G : CrowdGuard} {es out' : List Note} {c c' : Crowd} {w w' : World} {x : Outside} {out : List Event}
  {e : Ask} {r : Ans e}

theorem handler_inserted {f} (hs : handler e w x = some (r, w', out))
    (hk : Table.Keyed (·.operationId) w.db.operations) (hf : .allocationInserted f ∈ out) :
    .allocationReleased f ∈ out ∨ ∀ a ∈ w.db.allocations, a.federationId ≠ f := by
  obtain ⟨config, revision, request, rfl, rfl⟩ := handler_emits hk hs _ hf
  simp only [handler] at hs
  rcases World.run_cases hs with ⟨-, rfl, -⟩ | ⟨-, rfl, -⟩
  · cases hf
  unfold Db.runAccept at hf ⊢
  split at hf
  · cases hf
  · rename_i plan db' released h
    rcases Db.acceptRequest_cases h with ⟨hne, -⟩ | ⟨plan', freed, -, -, hfreed, -, hins⟩
    · exact absurd rfl (hne plan)
    cases released with
    | true => exact .inl (by simp)
    | false =>
      right
      have hno := (Db.insertAllocation_eq hins).2.1
      rw [hfreed] at hno
      exact hno
  · cases hf

theorem deleteAllocation_allocated {db : Db} {f}
    (hi : ∀ i ∈ db.items, ∃ a ∈ db.allocations, a.federationId = i.federationId) {i : AllocationItem}
    (h : i ∈ (db.deleteAllocation f).items) :
    ∃ a ∈ (db.deleteAllocation f).allocations, a.federationId = i.federationId := by
  have hmem := List.mem_filter.mp h
  obtain ⟨a, ha, hf⟩ := hi i hmem.1
  exact ⟨a, List.mem_filter.mpr ⟨ha, by rw [hf]; exact hmem.2⟩, hf⟩

theorem allocated_step (hk : Table.Keyed (·.operationId) w.db.operations)
    (hi : ∀ i ∈ w.db.items, ∃ a ∈ w.db.allocations, a.federationId = i.federationId)
    (hs : handler e w x = some (r, w', out)) :
    ∀ i ∈ w'.db.items, ∃ a ∈ w'.db.allocations, a.federationId = i.federationId := by
  by_cases hacc : e.accepts = true
  · obtain ⟨config, revision, request, rfl⟩ : ∃ config revision request, e = .acceptRequest config revision request := by
      cases e <;> first | exact ⟨_, _, _, rfl⟩ | cases hacc
    simp only [handler] at hs
    rcases World.run_cases hs with ⟨rfl, -, -⟩ | ⟨rfl, -, -⟩
    · exact hi
    unfold Db.runAccept
    split
    · exact hi
    · rename_i plan db' released h
      rcases Db.acceptRequest_cases h with ⟨-, rfl⟩ | ⟨plan', freed, -, -, hfreed, -, hins⟩
      · exact hi
      obtain ⟨hdb, -, -⟩ := Db.insertAllocation_eq hins
      have hfree : ∀ i ∈ freed.items, ∃ a ∈ freed.allocations, a.federationId = i.federationId := by
        rw [hfreed]
        cases released
        · exact hi
        · exact fun i hi' => deleteAllocation_allocated hi hi'
      rw [hdb]
      intro i hi'
      rcases List.mem_append.mp hi' with hi' | hi'
      · obtain ⟨a, ha, hf⟩ := hfree i hi'
        exact ⟨a, List.mem_append_left _ ha, hf⟩
      · obtain ⟨p, -, rfl⟩ := List.mem_map.mp hi'
        exact ⟨_, List.mem_append_right _ List.mem_cons_self, rfl⟩
    rename_i acceptance db' released hne h
    rcases Db.acceptRequest_cases h with ⟨-, rfl⟩ | ⟨plan, freed, hplan, -⟩
    · exact hi
    · exact absurd hplan (hne plan)
  by_cases hrel : ∃ f, e = .releaseAllocation f
  · obtain ⟨f, rfl⟩ := hrel
    rcases handler_release hs with hdb | ⟨-, hdb⟩
    · rw [hdb]; exact hi
    · rw [hdb]
      exact fun i hi' => deleteAllocation_allocated hi hi'
  have hframe := handler_frame hs (by simpa using hacc) fun f he => hrel ⟨f, he⟩
  intro i' hi'
  rw [hframe.allocations]
  rcases (handler_items hk hs).back hi' with ⟨i, hmem, hc, -⟩ | ⟨_, _, _, _, _, _, _, hacc', -⟩
  · rw [hc.kept.federationId]
    exact hi i hmem
  · rw [hacc'.ask] at hacc
    exact absurd rfl hacc

theorem named_rows_step (hk : Table.Keyed (·.operationId) w.db.operations)
    (hi : ∀ i ∈ w.db.items, i.itemId = itemIdOf i.federationId i.sourceType)
    (hs : handler e w x = some (r, w', out)) :
    ∀ i ∈ w'.db.items, i.itemId = itemIdOf i.federationId i.sourceType := by
  intro i' hi'
  rcases (handler_items hk hs).back hi' with ⟨i, hmem, hc, -⟩ | ⟨_, _, _, _, _, _, _, hacc, p, hp, rfl⟩
  · rw [hc.kept.itemId, hc.kept.federationId, hc.kept.sourceType]
    exact hi i hmem
  · exact ((Db.planItems_planned hacc.plan).1 p hp).itemId

theorem named_step (hr : CrowdReaches G es c) (hi : Named c) (hs : CrowdStep G c out' c') : Named c' := by
  have hk := hr.sendInv.rows.keyed
  cases hs with
  | ask caller l e x r w out hm ha hans hg hh =>
    refine ⟨named_rows_step hk hi.rows hh, allocated_step hk hi.allocated hh, ?_⟩
    intro m hmm kind hw s hs
    rcases Crowd.mem_move hmm with ⟨rfl, -⟩ | ⟨hmm, -⟩
    · rw [Stage.after_worker] at hw
      by_cases he : ∃ k, e = .activeItems k
      · obtain ⟨k, rfl⟩ := he
        simp only [handler] at hh
        rcases hs with hs | hs
        · split at hh
          · cases hh
            cases hs
          cases hh
          obtain ⟨row, hrow, rfl⟩ := List.mem_map.mp hs
          obtain ⟨hmem, hsrc, -⟩ := mem_activeItemRows hrow
          -- a pass lists the items of its own kind only
          have hkind : l.worker = some k := by
            unfold Stage.allows at ha
            split at ha
            · cases ha
            · cases ha
            · exact ha
          cases hkind.symm.trans hw
          rw [← hsrc]
          exact hi.rows row.1 hmem
        · cases hs
      · obtain ⟨s₀, hs₀, hid, hf⟩ := Stage.has_after (fun k hk => he ⟨k, hk⟩) hs
        rw [← hid, ← hf]
        exact hi.stages _ hm kind hw s₀ hs₀
    · exact hi.stages m hmm kind hw s hs
  | join worker h =>
    refine ⟨hi.rows, hi.allocated, fun m hm kind hw s hs => ?_⟩
    rcases Lib.mem_snoc.mp hm with hm | rfl
    · exact hi.stages m hm kind hw s hs
    · rcases hs with hs | hs <;> cases hs
  | leave caller l hm =>
    have hdb : (Daemon.unload c.world caller.worker).db = c.world.db := by
      rcases caller with ⟨_, _ | (_ | _)⟩ <;> rfl
    exact ⟨by rw [hdb]; exact hi.rows, by rw [hdb]; exact hi.allocated,
      fun m hm => hi.stages m (List.mem_of_mem_filter hm)⟩
  | crash => exact ⟨hi.rows, hi.allocated, by simp⟩
  | tide w h => cases h <;> exact ⟨hi.rows, hi.allocated, hi.stages⟩

theorem CrowdReaches.named (h : CrowdReaches G es c) : Named c :=
  h.induct (I := fun _ c => Named c) ⟨by simp, by simp, by simp⟩ fun _ _ _ _ hr hi hs => named_step hr hi hs

end step

end Manifold.Liquidity
