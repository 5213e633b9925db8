import Manifold.Liquidity.Lemmas.Items
import Manifold.Liquidity.Lemmas.SendInv

/-!
# The answers of the database
-/

namespace Manifold.Liquidity

open Lib

variable {G : CrowdGuard} {es : List Note} {c c' : Crowd} {out : List Note}

theorem itemsKeyed_step (hk : Table.Keyed (·.operationId) c.world.db.operations)
    (hi : Table.Keyed (·.itemId) c.world.db.items) (hs : CrowdStep G c out c') :
    Table.Keyed (·.itemId) c'.world.db.items := by
  cases hs with
  | ask caller l e x r w out hm ha hr hg hh => exact (handler_items hk hh).keyed hi
  | join => exact hi
  | leave caller => rcases caller with ⟨_, _ | (_ | _)⟩ <;> exact hi
  | crash => exact hi
  | tide w h => cases h <;> exact hi

theorem CrowdReaches.itemsKeyed (h : CrowdReaches G es c) : Table.Keyed (·.itemId) c.world.db.items :=
  h.induct (I := fun _ c => Table.Keyed (·.itemId) c.world.db.items) List.nodup_nil
    fun _ _ _ _ hr hi hs => itemsKeyed_step hr.sendInv.rows.keyed hi hs

theorem filterMap_ids_sublist (db : Db) (items : List AllocationItem) :
    ((items.filterMap (fun i => (db.allocation i.federationId).map (fun a => (i, a.target)))).map
      (·.1.itemId)).Sublist (items.map (·.itemId)) := by
  induction items with
  | nil => exact .refl _
  | cons i items ih =>
    rw [List.filterMap_cons, List.map_cons]
    cases db.allocation i.federationId with
    | none => exact ih.cons _
    | some a => exact ih.cons_cons _

theorem activeItemRows_nodup {db : Db} (hk : Table.Keyed (·.itemId) db.items) (source : SourceType) :
    ((db.activeItemRows source).map (·.1.itemId)).Nodup := by
  refine List.Nodup.sublist (filterMap_ids_sublist db _) ?_
  have hperm := List.perm_insertionSort (fun i j : AllocationItem =>
    i.updatedAt < j.updatedAt ∨ i.updatedAt = j.updatedAt ∧ i.itemId ≤ j.itemId)
    (db.items.filter (fun i => i.sourceType = source && i.status.active))
  exact (hperm.map AllocationItem.itemId).nodup_iff.mpr hk.filter

theorem handler_answers {w w' x out e r} (hk : Table.Keyed (·.itemId) w.db.items)
    (hs : handler e w x = some (r, w', out)) : answers e r := by
  cases e with
  | activeItems kind =>
    simp only [handler] at hs
    intro rows hrows
    split at hs
    · cases hs; cases hrows
    · cases hs
      cases hrows
      exact activeItemRows_nodup hk kind.source
  | getWalletOperation id =>
    simp only [handler] at hs
    intro row hrow
    rcases World.run_cases hs with ⟨-, -, rfl⟩ | ⟨-, -, hres⟩
    · cases hrow
    rw [hrow] at hres
    split at hres
    · rename_i row' hop
      cases hres
      exact (Db.mem_of_operation hop).2
    · cases hres
  | _ => trivial

theorem answering : Answering G := fun _ _ _ _ _ _ _ hr hs => handler_answers hr.itemsKeyed hs

/-! ## Steps of the daemon -/

theorem advance_db (s : Daemon) (caller : Caller) (task : Task Ans Unit (Except ServiceError Unit)) :
    (s.advance caller task).world.db = s.world.db := by
  cases task with
  | done => rcases caller with ⟨_, _ | (_ | _)⟩ <;> rfl
  | await => rfl

theorem mem_advance {s : Daemon} {caller task} {t : Thread} (h : t ∈ (s.advance caller task).threads) :
    t = ⟨caller, task⟩ ∧ (s.advance caller task).world = s.world ∨ t ∈ s.threads ∧ t.caller ≠ caller := by
  cases task with
  | done m a =>
    have hmem := List.mem_filter.mp h
    exact .inr ⟨hmem.1, by simpa using hmem.2⟩
  | await m e k =>
    obtain ⟨t₀, ht₀, rfl⟩ := List.mem_map.mp h
    by_cases he : t₀.caller = caller
    · simp only [he, if_true]
      exact .inl ⟨trivial, rfl⟩
    · simp only [he, if_false]
      exact .inr ⟨ht₀, he⟩

/-- A step is the question of one thread, or it leaves the operations and the items alone and brings in at most a new
call. -/
inductive DaemonStep (env : Env) (guard : Guard) (s : Daemon) : List Note → Daemon → Prop where
  | ask (t : Thread) (m : Unit) (e : Ask) (k : Ans e → Task Ans Unit (Except ServiceError Unit)) (x : Outside)
      (r : Ans e) (w : World) (evs : List Event) (ht : t ∈ s.threads) (htask : t.task = .await m e k)
      (hg : guard s e x = true) (hs : handler e s.world x = some (r, w, evs)) :
      DaemonStep env guard s (notes t.caller evs) (({ s with world := w } : Daemon).advance t.caller (k r))
  | quiet (s' : Daemon) (hops : s'.world.db.operations = s.world.db.operations)
      (hitems : s'.world.db.items = s.world.db.items)
      (hthreads : ∀ t ∈ s'.threads, t ∈ s.threads ∨ ∃ call : Call, t = ⟨⟨s.next, call.worker⟩, call.job env ()⟩) :
      DaemonStep env guard s [] s'

theorem step_cases {env guard s s' a out} (hs : step env guard s a = some (s', out)) :
    DaemonStep env guard s out s' := by
  cases a with
  | begin call =>
    simp only [step] at hs
    split at hs <;> cases hs
    refine .quiet _ (by rw [Daemon.start, advance_db]) (by rw [Daemon.start, advance_db]) fun t ht => ?_
    rcases mem_advance ht with ⟨rfl, -⟩ | ⟨ht, hne⟩
    · exact .inr ⟨call, rfl⟩
    rcases Lib.mem_snoc.mp ht with ht | rfl
    · exact .inl ht
    · exact absurd rfl hne
  | resume number x =>
    obtain ⟨⟨caller, task⟩, hth, hs⟩ := Option.bind_eq_some_iff.mp hs
    cases task with
    | done m a => cases hs
    | await m e k =>
      simp only [resumeThread] at hs
      split at hs
      · rename_i hg
        split at hs
        · cases hs
        · rename_i r w evs hh
          cases hs
          exact .ask ⟨caller, _⟩ m e k x r w evs (List.mem_of_find?_eq_some hth) rfl hg hh
      · cases hs
  | drop number =>
    obtain ⟨⟨caller, task⟩, -, hs⟩ := Option.bind_eq_some_iff.mp hs
    split at hs <;> cases hs
    rcases caller with ⟨_, _ | (_ | _)⟩ <;>
      exact .quiet _ rfl rfl fun t ht => .inl (List.mem_of_mem_filter ht)
  | crash => cases hs; exact .quiet _ rfl rfl (by simp)
  | debit | forget =>
    simp only [step] at hs
    split at hs <;> cases hs
    exact .quiet _ rfl rfl fun t ht => .inl ht
  | deposit | setSetup => cases hs; exact .quiet _ rfl rfl fun t ht => .inl ht

theorem step_note {env guard s t a out} (hs : step env guard s a = some (t, out)) {n} (hn : n ∈ out) :
    ∃ (e : Ask) (x : Outside) (r : Ans e) (w : World) (evs : List Event), guard s e x = true ∧
      handler e s.world x = some (r, w, evs) ∧ out = notes n.1 evs ∧ n.2 ∈ evs ∧ t.world.db = w.db := by
  cases step_cases hs with
  | ask th m e k x r w evs _ _ hg hh =>
    obtain ⟨ev, hev, rfl⟩ := List.mem_map.mp hn
    exact ⟨e, x, r, w, evs, hg, hh, rfl, hev, advance_db _ _ _⟩
  | quiet => cases hn

end Manifold.Liquidity
