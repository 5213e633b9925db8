import Manifold.Liquidity.Generations
import Manifold.Liquidity.Lemmas.Answers

/-!
# Fences across generations
-/

namespace Manifold.Liquidity

open Lib

/-! ## Questions -/

structure DbSound (db : Db) : Prop where
  operations : Table.Keyed (·.operationId) db.operations
  items : Table.Keyed (·.itemId) db.items
  intents : ∀ r₁ ∈ db.operations, ∀ r₂ ∈ db.operations, ∀ k, r₁.withdrawalIntentId = some k →
    r₂.withdrawalIntentId = some k → r₁.operationId = r₂.operationId

theorem DbSound.same {db db'} (h : DbSound db) (hops : db'.operations = db.operations)
    (hitems : db'.items = db.items) : DbSound db' :=
  ⟨hops ▸ h.operations, hitems ▸ h.items, hops ▸ h.intents⟩

theorem sentType_outgoing (worker : Option FundingKind) : (sentType worker).outgoing = true := by
  rcases worker with _ | (_ | _) <;> rfl

section ask

variable {w w' : World} {x : Outside} {out : List Event} {e : Ask} {r : Ans e} {l : Stage} {o : OperationId}

theorem DbSound.handler (h : DbSound w.db) (ha : l.allows e) (hs : handler e w x = some (r, w', out)) :
    DbSound w'.db where
  operations := handler_keyed h.operations hs
  items := (handler_items h.operations hs).keyed h.items
  intents := intents_step h.operations h.intents hs fun _ => ha.plain

theorem handler_closed (hs : handler e w { x with dbFails := true } = some (r, w', out)) : w'.db = w.db := by
  cases e with
  | submitResponse p =>
    simp only [handler] at hs
    split at hs
    · split at hs
      · cases hs; rfl
      · split at hs <;> cases hs
        rfl
    · cases hs; rfl
  | prepareWithdrawal p =>
    simp only [handler] at hs
    split at hs <;> cases hs <;> rfl
  | _ => cases hs; rfl

theorem closed_not_fenced (hd : DbSound w.db) (hs : handler e w { x with dbFails := true } = some (r, w', out))
    {it} : .fenced o it ∉ out := by
  intro hev
  obtain ⟨⟨row', hrow', hst'⟩, hbefore⟩ := handler_emits hd.operations hs _ hev
  rw [handler_closed hs] at hrow'
  rcases hbefore with ⟨_, _, row, -, -, hrow, -, hst, -⟩ | ⟨_, _, _, _, -, -, hnone, -⟩
  · rw [hrow] at hrow'
    cases hrow'
    rw [hst] at hst'
    cases hst'
  · rw [hnone] at hrow'
    cases hrow'

theorem closed_not_created (hd : DbSound w.db) (hs : handler e w { x with dbFails := true } = some (r, w', out))
    {row} : .operationCreated row ∉ out := by
  intro hev
  obtain ⟨hnone, hmem⟩ := handler_emits hd.operations hs _ hev
  rw [handler_closed hs] at hmem
  rw [Db.operation_of_mem hd.operations hmem] at hnone
  cases hnone

theorem Stage.allows.fence_taken (ha : l.allows e) (hmv : Moves w w' out e l (l.after e r)) {p}
    (hp : (l.after e r).attempt = .fenced p) : ∃ it, .fenced p.operationId it ∈ out := by
  rcases hmv.fence hp with hsame | ⟨pre, it, hout⟩
  · cases (ha.left_of_fenced (hsame ▸ hp)).symm.trans hp
  · exact ⟨it, by simp [hout]⟩

theorem fenced_outgoing (hd : DbSound w.db) (hb : Bound w.db l) (ha : l.allows e)
    (hs : handler e w x = some (r, w', out)) {it} (hev : .fenced o it ∈ out) :
    ∃ row, w'.db.operation o = some row ∧ row.operationType.outgoing = true := by
  rcases (moves hd.operations ha hs).fences hev with ⟨-, hg⟩ | ⟨_, -, -, -, row, hrow, htype⟩
  · obtain ⟨-, row, hrow, htype⟩ := hb.grant _ hg
    obtain ⟨row', hrow', hc⟩ := operation_forth hd.operations hs hrow
    exact ⟨row', hrow', by rw [hc.kept.operationType, htype]; exact sentType_outgoing _⟩
  · exact ⟨row, hrow, by rw [htype]; rfl⟩

theorem created_outgoing (hd : DbSound w.db) (ha : l.allows e) (hs : handler e w x = some (r, w', out))
    {row intent} (hev : .operationCreated row ∈ out) (hi : row.withdrawalIntentId = some intent) :
    row ∈ w'.db.operations ∧ row.operationType.outgoing = true := by
  obtain ⟨hnone, hmem⟩ := handler_emits hd.operations hs _ hev
  refine ⟨hmem, ?_⟩
  rcases (handler_ops hd.operations hs).back hmem with ⟨row₀, hrow₀, hc⟩ | hnew
  · rw [hc.kept.operationId, Db.operation_of_mem hd.operations hrow₀] at hnone
    cases hnone
  cases hnew with
  | funding i row₀ now he hrow =>
    rw [hrow, show row₀.withdrawalIntentId = none from ha.plain (.inl ⟨i, he⟩)] at hi
    cases hi
  | deposit row₀ now he hrow =>
    rw [hrow, show row₀.withdrawalIntentId = none from ha.plain (.inr he)] at hi
    cases hi
  | withdrawal _ request feeRate _ now _ hrow => rw [hrow]; rfl

end ask

/-! ## Tasks and rows -/

structure Standing (es : List GenNote) (g : Nat) (caller : Caller) (l : Stage)
    (task : Task Ans Unit (Except ServiceError Unit)) : Prop where
  follows : task.Follows protocol l fun l _ => protocol.ends l
  fence : ∀ p, l.attempt = .fenced p → ∃ it, ⟨g, caller, .fenced p.operationId it⟩ ∈ es

/-- Fenced before the generation `cur`, the row is past `pending`, or an operator allowed another attempt in that
generation. -/
def Remembered (es : List GenNote) (cur g : Nat) (db : Db) (o : OperationId) : Prop :=
  ∃ row, db.operation o = some row ∧ row.operationType.outgoing = true ∧
    (g < cur → row.status = .pending → ∃ n ∈ es, n.generation = cur ∧ n.event.allowsRetry o = true)

/-- Where an earlier generation fenced the same operation, an operator allowed another attempt in the generation of
the fence. -/
def FenceAllowed (pre : List GenNote) (n : GenNote) : Prop :=
  ∀ o it, n.event = .fenced o it →
    (∀ m ∈ pre, ∀ o' it', m.event = .fenced o' it' → m.generation ≤ n.generation) ∧
    ∀ m ∈ pre, ∀ it', m.event = .fenced o it' → m.generation < n.generation →
      ∃ a ∈ pre, a.generation = n.generation ∧ a.event.allowsRetry o = true

def SubmitsOwn (pre : List GenNote) (n : GenNote) : Prop :=
  ∀ p, n.event = .submitted p → ∃ it, ⟨n.generation, n.caller, .fenced p.operationId it⟩ ∈ pre

section step

variable {es fs : List GenNote} {g cur : Nat} {caller : Caller} {l : Stage} {o : OperationId}
  {task : Task Ans Unit (Except ServiceError Unit)}

theorem Standing.mono (h : Standing es g caller l task) : Standing (es ++ fs) g caller l task := by
  refine ⟨h.follows, fun p hp => ?_⟩
  obtain ⟨it, hit⟩ := h.fence p hp
  exact ⟨it, List.mem_append_left _ hit⟩

theorem Remembered.same {db db'} (h : Remembered es cur g db o) (hops : db'.operations = db.operations) :
    Remembered (es ++ fs) cur g db' o := by
  obtain ⟨row, hrow, hout, hpend⟩ := h
  refine ⟨row, by rw [Db.operation, hops]; exact hrow, hout, fun hg hst => ?_⟩
  obtain ⟨n, hn, hallow⟩ := hpend hg hst
  exact ⟨n, List.mem_append_left _ hn, hallow⟩

theorem mem_noted {n out} (h : n ∈ noted g caller out) : n.generation = g ∧ n.caller = caller ∧ n.event ∈ out := by
  obtain ⟨ev, hev, rfl⟩ := List.mem_map.mp h
  exact ⟨rfl, rfl, hev⟩

variable {w w' : World} {x : Outside} {out : List Event} {e : Ask} {r : Ans e} {m : Unit}
  {k : Ans e → Task Ans Unit (Except ServiceError Unit)}

theorem Standing.ask (h : Standing es g caller l (.await m e k)) (hd : DbSound w.db)
    (hs : handler e w x = some (r, w', out)) :
    Standing (es ++ noted g caller out) g caller (l.after e r) (k r) := by
  refine ⟨h.follows.2 r (handler_answers hd.items hs), fun p hp => ?_⟩
  obtain ⟨it, hit⟩ := h.follows.1.fence_taken (moves hd.operations h.follows.1 hs) hp
  exact ⟨it, List.mem_append_right _ (List.mem_map_of_mem hit)⟩

theorem Remembered.ask (h : Remembered es cur g w.db o) (hd : DbSound w.db)
    (hs : handler e w x = some (r, w', out)) : Remembered (es ++ noted cur caller out) cur g w'.db o := by
  obtain ⟨row, hrow, hout, hpend⟩ := h
  obtain ⟨row', hrow', hc⟩ := operation_forth hd.operations hs hrow
  have hid := (Db.mem_of_operation hrow).2
  have hnew : ∀ ev ∈ out, ev.allowsRetry o = true →
      ∃ n ∈ es ++ noted cur caller out, n.generation = cur ∧ n.event.allowsRetry o = true := fun ev hev ha =>
    ⟨⟨cur, caller, ev⟩, List.mem_append_right _ (List.mem_map_of_mem hev), rfl, ha⟩
  refine ⟨row', hrow', by rw [hc.kept.operationType]; exact hout, fun hg hst => ?_⟩
  rcases hc.to_pending hst with hst | hres | ⟨hret, -, -⟩
  · obtain ⟨n, hn, hallow⟩ := hpend hg hst
    exact ⟨n, List.mem_append_left _ hn, hallow⟩
  · exact hnew _ (by rw [hres]; exact List.mem_cons_self) (by simp [Event.allowsRetry, hid])
  · exact hnew _ hret (by simp [Event.allowsRetry, hid])

theorem submitsOwn_append (h : Trace.Each SubmitsOwn es) (hst : Standing es g caller l (.await m e k))
    (hd : DbSound w.db) (hs : handler e w x = some (r, w', out)) :
    Trace.Each SubmitsOwn (es ++ noted g caller out) := by
  refine h.append fun pre n post he p hp => ?_
  obtain ⟨hg, hc, hev⟩ := mem_noted (by rw [he]; simp : n ∈ noted g caller out)
  rw [hp] at hev
  have hask : e = .submitPrepared p := handler_emits hd.operations hs _ hev
  subst hask
  obtain ⟨it, hit⟩ := hst.fence p hst.follows.1.submitPrepared
  exact ⟨it, by rw [hg, hc]; exact List.mem_append_left _ hit⟩

end step

/-! ## Steps of the process -/

/-- A step is the question of a call or a pass, or of a call that outlived its generation, a restore, or it leaves
the operations and the items alone. -/
inductive ProcessMove (env : Env) (guard : RestoreGuard) (s : Process) : List GenNote → Process → Prop where
  | ask (t : Thread) (m : Unit) (e : Ask) (k : Ans e → Task Ans Unit (Except ServiceError Unit)) (x : Outside)
      (r : Ans e) (w : World) (evs : List Event) (ht : t ∈ s.daemon.threads) (htask : t.task = .await m e k)
      (hs : handler e s.daemon.world x = some (r, w, evs)) :
      ProcessMove env guard s (noted s.generation t.caller evs)
        { s with daemon := ({ s.daemon with world := w } : Daemon).advance t.caller (k r) }
  | orphan (o : Orphan) (m : Unit) (e : Ask) (k : Ans e → Task Ans Unit (Except ServiceError Unit)) (x : Outside)
      (r : Ans e) (w : World) (evs : List Event) (orphans : List Orphan) (ho : o ∈ s.orphans)
      (htask : o.thread.task = .await m e k)
      (hs : handler e s.daemon.world { x with dbFails := true } = some (r, w, evs))
      (horphans : ∀ o' ∈ orphans, o' ∈ s.orphans ∨ o' = ⟨o.generation, o.thread.caller, k r⟩) :
      ProcessMove env guard s (noted o.generation o.thread.caller evs)
        { s with daemon := { s.daemon with world := w }, orphans := orphans }
  | commit (db : Db) (hp : s.pendingRestore = some db) (hg : guard s.daemon.world.db db = true) :
      ProcessMove env guard s [] (s.replaced (s.generation + 1) db)
  | quiet (s' : Process) (hgen : s'.generation = s.generation)
      (hops : s'.daemon.world.db.operations = s.daemon.world.db.operations)
      (hitems : s'.daemon.world.db.items = s.daemon.world.db.items)
      (hthreads : ∀ t ∈ s'.daemon.threads,
        t ∈ s.daemon.threads ∨ ∃ call : Call, t = ⟨⟨s.daemon.next, call.worker⟩, call.job env ()⟩)
      (horphans : ∀ o ∈ s'.orphans, o ∈ s.orphans ∨ o.generation = s.generation ∧ o.thread ∈ s.daemon.threads)
      (harchives : ∀ db ∈ s'.archives, db ∈ s.archives ∨ db = s.daemon.world.db)
      (hpending : ∀ db, s'.pendingRestore = some db → s.pendingRestore = some db ∨ db ∈ s.archives) :
      ProcessMove env guard s [] s'

section moves

variable {env : Env} {guard : RestoreGuard} {s s' : Process} {out : List GenNote}

theorem mem_replaced_orphans {generation db o} (h : o ∈ (s.replaced generation db).orphans) :
    o ∈ s.orphans ∨ o.generation = s.generation ∧ o.thread ∈ s.daemon.threads := by
  rcases List.mem_append.mp h with h | h
  · exact .inl h
  · obtain ⟨t, ht, rfl⟩ := List.mem_map.mp h
    exact .inr ⟨rfl, ht⟩

theorem move_of_step {guard' a d notes'} (hs : step env guard' s.daemon a = some (d, notes')) :
    ProcessMove env guard s (genNotes s.generation notes') { s with daemon := d } := by
  cases step_cases hs with
  | ask t m e k x r w evs ht htask hg hh =>
    have hnotes : genNotes s.generation (notes t.caller evs) = noted s.generation t.caller evs := by
      simp only [genNotes, notes, noted, List.map_map]
      rfl
    rw [hnotes]
    exact .ask t m e k x r w evs ht htask hh
  | quiet _ hops hitems hthreads =>
    exact .quiet _ rfl hops hitems hthreads (fun o ho => .inl ho) (fun db hdb => .inl hdb) fun db hdb => .inl hdb

theorem restoreBackup_eq {db} (h : s.restoreBackup db = .ok s') :
    s' = { s with admission := .closingForRestore, pendingRestore := some db } := by
  obtain ⟨_, -, h⟩ := bind_eq_ok.mp h
  unfold Process.requestRestore at h
  split at h
  · cases h
  obtain ⟨admission, hadm, h⟩ := bind_eq_ok.mp h
  obtain ⟨_, -, hclose⟩ := bind_eq_ok.mp hadm
  cases hclose
  cases h
  rfl

theorem processStep_move {a} (hs : processStep env guard s a = some (s', out)) : ProcessMove env guard s out s' := by
  cases a with
  | act a =>
    cases a with
    | crash =>
      cases hs
      exact .quiet _ rfl rfl rfl (by simp) (by simp) (fun db hdb => .inl hdb) (by simp)
    | _ =>
      simp only [processStep] at hs
      obtain ⟨⟨d, notes'⟩, hstep, h⟩ := Option.map_eq_some_iff.mp hs
      cases h
      exact move_of_step hstep
  | orphan number x =>
    obtain ⟨⟨generation, caller, task⟩, ho, hs⟩ := Option.bind_eq_some_iff.mp hs
    have hmem := List.mem_of_find?_eq_some ho
    cases task with
    | done m a => cases hs
    | await m e k =>
      simp only [Process.resumeOrphan] at hs
      split at hs
      · cases hs
      rename_i r w evs hh
      cases hs
      refine .orphan ⟨generation, caller, _⟩ m e k x r w evs _ hmem rfl hh fun o' ho' => ?_
      obtain ⟨o₀, ho₀, rfl⟩ := List.mem_map.mp ho'
      by_cases he : o₀.thread.caller = caller
      · simp only [he, if_true]
        exact .inr trivial
      · simp only [he, if_false]
        exact .inl ho₀
  | createBackup =>
    simp only [processStep] at hs
    split at hs <;> cases hs
    refine .quiet _ rfl rfl rfl (fun t ht => .inl ht) (fun o ho => .inl ho) (fun db hdb => ?_) fun db hdb => .inl hdb
    rcases List.mem_append.mp hdb with hdb | hdb
    · exact .inl hdb
    · exact .inr (List.mem_singleton.mp hdb)
  | restoreBackup n =>
    simp only [processStep] at hs
    split at hs
    · cases hs
    split at hs
    · cases hs
    rename_i staged hstaged
    split at hs
    · rename_i s'' hrestore
      cases hs
      rw [restoreBackup_eq hrestore]
      refine .quiet _ rfl rfl rfl (fun t ht => .inl ht) (fun o ho => .inl ho) (fun db hdb => .inl hdb) ?_
      intro db hdb
      cases hdb
      exact .inr (List.mem_of_getElem? hstaged)
    · cases hs
      exact .quiet _ rfl rfl rfl (fun t ht => .inl ht) (fun o ho => .inl ho) (fun db hdb => .inl hdb)
        fun db hdb => .inl hdb
  | commitRestore =>
    simp only [processStep] at hs
    split at hs
    · cases hs
    rename_i db hp
    split at hs
    · cases hs
    · rename_i hg
      cases hs
      exact .commit db hp (by simpa using (not_or.mp (mt Bool.or_eq_true_iff.mpr hg)).2)
  | rollbackRestore =>
    simp only [processStep] at hs
    split at hs <;> cases hs
    exact .quiet _ rfl rfl rfl (by simp [Process.replaced]) (fun o ho => mem_replaced_orphans ho)
      (fun db hdb => .inl hdb) (by simp [Process.replaced])

end moves

/-! ## The invariant -/

structure ProcessInv (es : List GenNote) (s : Process) : Prop where
  sound : DbSound s.daemon.world.db
  archives : ∀ db ∈ s.archives, DbSound db
  pending : ∀ db, s.pendingRestore = some db → DbSound db
  threads : ∀ t ∈ s.daemon.threads, ∃ l, Standing es s.generation t.caller l t.task ∧ Bound s.daemon.world.db l
  orphans : ∀ o ∈ s.orphans, ∃ l, Standing es o.generation o.thread.caller l o.thread.task
  fenced : ∀ n ∈ es, ∀ o it, n.event = .fenced o it →
    n.generation ≤ s.generation ∧ Remembered es s.generation n.generation s.daemon.world.db o
  created : ∀ n ∈ es, ∀ row intent, n.event = .operationCreated row → row.withdrawalIntentId = some intent →
    ∃ r ∈ s.daemon.world.db.operations, r.operationId = row.operationId ∧ r.withdrawalIntentId = some intent ∧
      r.operationType.outgoing = true
  allowed : Trace.Each FenceAllowed es
  own : Trace.Each SubmitsOwn es

section inv

variable {env : Env} {es : List GenNote} {s : Process}

theorem ProcessInv.ask (hi : ProcessInv es s) {t m e k x r w evs} (ht : t ∈ s.daemon.threads)
    (htask : t.task = .await m e k) (hs : handler e s.daemon.world x = some (r, w, evs)) :
    ProcessInv (es ++ noted s.generation t.caller evs)
      { s with daemon := ({ s.daemon with world := w } : Daemon).advance t.caller (k r) } := by
  obtain ⟨l, hstand, hbound⟩ := hi.threads t ht
  rw [htask] at hstand
  have ha := hstand.follows.1
  have hdb := advance_db ({ s.daemon with world := w } : Daemon) t.caller (k r)
  have hrows : ∀ o row, s.daemon.world.db.operation o = some row →
      ∃ row', w.db.operation o = some row' ∧ row'.operationType = row.operationType := fun o row hop => by
    obtain ⟨row', hrow', hc⟩ := operation_forth hi.sound.operations hs hop
    exact ⟨row', hrow', hc.kept.operationType⟩
  refine ⟨?_, hi.archives, hi.pending, fun t' ht' => ?_, fun o ho => ?_, fun n hn o it he => ?_,
    fun n hn row intent he hint => ?_, ?_, submitsOwn_append hi.own hstand hi.sound hs⟩
  · rw [hdb]
    exact hi.sound.handler ha hs
  · rw [hdb]
    rcases mem_advance ht' with ⟨rfl, -⟩ | ⟨ht', -⟩
    · exact ⟨l.after e r, hstand.ask hi.sound hs,
        (hbound.mono hrows).after (c := ⟨s.daemon.world, [], 0⟩) (l.after_worker e r) (moves hi.sound.operations ha hs)⟩
    · obtain ⟨l', hst', hb'⟩ := hi.threads t' ht'
      exact ⟨l', hst'.mono, hb'.mono hrows⟩
  · obtain ⟨l', hst'⟩ := hi.orphans o ho
    exact ⟨l', hst'.mono⟩
  · rw [hdb]
    rcases List.mem_append.mp hn with hn | hn
    · obtain ⟨hle, hrem⟩ := hi.fenced n hn o it he
      exact ⟨hle, hrem.ask hi.sound hs⟩
    obtain ⟨hg, -, hev⟩ := mem_noted hn
    rw [he] at hev
    obtain ⟨row, hrow, hout⟩ := fenced_outgoing hi.sound hbound ha hs hev
    rw [hg]
    exact ⟨le_refl _, row, hrow, hout, fun hlt => absurd hlt (lt_irrefl _)⟩
  · rw [hdb]
    rcases List.mem_append.mp hn with hn | hn
    · obtain ⟨row₀, hrow₀, hid, hint₀, hout⟩ := hi.created n hn row intent he hint
      obtain ⟨row', hrow', hc⟩ :=
        operation_forth hi.sound.operations hs (Db.operation_of_mem hi.sound.operations hrow₀)
      exact ⟨row', (Db.mem_of_operation hrow').1, hc.kept.operationId.trans hid, hc.kept.intent.trans hint₀,
        by rw [hc.kept.operationType]; exact hout⟩
    obtain ⟨-, -, hev⟩ := mem_noted hn
    rw [he] at hev
    obtain ⟨hmem, hout⟩ := created_outgoing hi.sound ha hs hev hint
    exact ⟨row, hmem, rfl, hint, hout⟩
  refine hi.allowed.append fun pre n post he o it hn => ?_
  have hpre : ∀ n' ∈ pre, n' ∈ noted s.generation t.caller evs := fun n' hn' => by
    rw [he]; exact List.mem_append_left _ hn'
  obtain ⟨hg, -, hev⟩ := mem_noted (by rw [he]; simp : n ∈ noted s.generation t.caller evs)
  rw [hn] at hev
  rw [hg]
  refine ⟨fun n' hn' o' it' he' => ?_, fun n' hn' it' he' hlt => ?_⟩
  · rcases List.mem_append.mp hn' with hn' | hn'
    · exact (hi.fenced n' hn' o' it' he').1
    · exact le_of_eq (mem_noted (hpre n' hn')).1
  rcases List.mem_append.mp hn' with hn' | hn'
  · -- the fence was taken of a pending row, and the row is there
    obtain ⟨-, row, hrow, -, hpend⟩ := hi.fenced n' hn' o it' he'
    rcases (handler_emits hi.sound.operations hs _ hev).2 with
      ⟨_, _, row', -, -, hrow', -, hst, -⟩ | ⟨_, _, _, _, -, -, hnone, -⟩
    · rw [hrow] at hrow'
      cases hrow'
      obtain ⟨a, ha, hallow⟩ := hpend hlt hst
      exact ⟨a, List.mem_append_left _ ha, hallow⟩
    · rw [hrow] at hnone
      cases hnone
  · rw [(mem_noted (hpre n' hn')).1] at hlt
    exact absurd hlt (lt_irrefl _)

theorem ProcessInv.orphan (hi : ProcessInv es s) {o : Orphan} {m : Unit} {e : Ask}
    {k : Ans e → Task Ans Unit (Except ServiceError Unit)} {x : Outside} {r : Ans e} {w : World} {evs : List Event}
    {orphans : List Orphan} (ho : o ∈ s.orphans) (htask : o.thread.task = .await m e k)
    (hs : handler e s.daemon.world { x with dbFails := true } = some (r, w, evs))
    (horphans : ∀ o' ∈ orphans, o' ∈ s.orphans ∨ o' = ⟨o.generation, o.thread.caller, k r⟩) :
    ProcessInv (es ++ noted o.generation o.thread.caller evs)
      { s with daemon := { s.daemon with world := w }, orphans := orphans } := by
  obtain ⟨l, hstand⟩ := hi.orphans o ho
  rw [htask] at hstand
  have hdb : w.db = s.daemon.world.db := handler_closed hs
  have hold : ∀ n ∈ es ++ noted o.generation o.thread.caller evs, n ∈ es ∨ n.event ∈ evs := fun n hn =>
    (List.mem_append.mp hn).imp id fun hn => (mem_noted hn).2.2
  refine ⟨?_, hi.archives, hi.pending, fun t ht => ?_, fun o' ho' => ?_, fun n hn o' it he => ?_,
    fun n hn row intent he hint => ?_, ?_, submitsOwn_append hi.own hstand hi.sound hs⟩
  · rw [hdb]; exact hi.sound
  · obtain ⟨l', hst', hb'⟩ := hi.threads t ht
    rw [hdb]
    exact ⟨l', hst'.mono, hb'⟩
  · rcases horphans o' ho' with ho' | rfl
    · obtain ⟨l', hst'⟩ := hi.orphans o' ho'
      exact ⟨l', hst'.mono⟩
    · exact ⟨l.after e r, hstand.ask hi.sound hs⟩
  · rw [hdb]
    rcases hold n hn with hn | hev
    · obtain ⟨hle, hrem⟩ := hi.fenced n hn o' it he
      exact ⟨hle, hrem.same rfl⟩
    · rw [he] at hev
      exact absurd hev (closed_not_fenced hi.sound hs)
  · rw [hdb]
    rcases hold n hn with hn | hev
    · exact hi.created n hn row intent he hint
    · rw [he] at hev
      exact absurd hev (closed_not_created hi.sound hs)
  refine hi.allowed.append fun pre n post he o' it hn => ?_
  obtain ⟨-, -, hev⟩ := mem_noted (by rw [he]; simp : n ∈ noted o.generation o.thread.caller evs)
  rw [hn] at hev
  exact absurd hev (closed_not_fenced hi.sound hs)

theorem keepsSends_row {running archive} (hg : keepsSends running archive = true) {row}
    (hrow : row ∈ running.operations) (hout : row.operationType.outgoing = true) :
    ∃ row' ∈ archive.operations, row'.operationId = row.operationId ∧ row'.operationType = row.operationType ∧
      row'.withdrawalIntentId = row.withdrawalIntentId ∧ row'.status ≠ .pending := by
  have hall := List.all_eq_true.mp hg row hrow
  rw [hout] at hall
  simp only [Bool.not_true, Bool.false_or, List.any_eq_true, Bool.and_eq_true, decide_eq_true_eq] at hall
  obtain ⟨row', hrow', ⟨⟨hid, htype⟩, hintent⟩, hst⟩ := hall
  exact ⟨row', hrow', hid, htype, hintent, hst⟩

theorem ProcessInv.commit (hi : ProcessInv es s) {db} (hp : s.pendingRestore = some db)
    (hg : keepsSends s.daemon.world.db db = true) : ProcessInv es (s.replaced (s.generation + 1) db) := by
  have hdb := hi.pending db hp
  refine ⟨hdb, hi.archives, by simp [Process.replaced], by simp [Process.replaced], fun o ho => ?_,
    fun n hn o it he => ?_, fun n hn row intent he hint => ?_, hi.allowed, hi.own⟩
  · rcases mem_replaced_orphans ho with ho | ⟨hgen, hthread⟩
    · exact hi.orphans o ho
    · obtain ⟨l, hstand, -⟩ := hi.threads _ hthread
      rw [hgen]
      exact ⟨l, hstand⟩
  · obtain ⟨hle, row, hrow, hout, -⟩ := hi.fenced n hn o it he
    obtain ⟨hmem, hid⟩ := Db.mem_of_operation hrow
    obtain ⟨row', hrow', hid', htype, -, hst⟩ := keepsSends_row hg hmem hout
    refine ⟨Nat.le_succ_of_le hle, row', ?_, by rw [htype]; exact hout, fun _ hpend => absurd hpend hst⟩
    rw [← hid, ← hid']
    exact Db.operation_of_mem hdb.operations hrow'
  · obtain ⟨row₀, hrow₀, hid, hint₀, hout⟩ := hi.created n hn row intent he hint
    obtain ⟨row', hrow', hid', htype, hint', -⟩ := keepsSends_row hg hrow₀ hout
    exact ⟨row', hrow', hid'.trans hid, hint'.trans hint₀, by rw [htype]; exact hout⟩

theorem ProcessInv.quiet (hi : ProcessInv es s) {s'} (hgen : s'.generation = s.generation)
    (hops : s'.daemon.world.db.operations = s.daemon.world.db.operations)
    (hitems : s'.daemon.world.db.items = s.daemon.world.db.items) (hthreads : ∀ t ∈ s'.daemon.threads,
      t ∈ s.daemon.threads ∨ ∃ call : Call, t = ⟨⟨s.daemon.next, call.worker⟩, call.job env ()⟩)
    (horphans : ∀ o ∈ s'.orphans, o ∈ s.orphans ∨ o.generation = s.generation ∧ o.thread ∈ s.daemon.threads)
    (harchives : ∀ db ∈ s'.archives, db ∈ s.archives ∨ db = s.daemon.world.db)
    (hpending : ∀ db, s'.pendingRestore = some db → s.pendingRestore = some db ∨ db ∈ s.archives) :
    ProcessInv es s' := by
  have hop : ∀ o, s'.daemon.world.db.operation o = s.daemon.world.db.operation o := fun o => by
    simp only [Db.operation, hops]
  refine ⟨hi.sound.same hops hitems, fun db hdb => ?_, fun db hdb => ?_, fun t ht => ?_, fun o ho => ?_,
    fun n hn o it he => ?_, hops ▸ hi.created, hi.allowed, hi.own⟩
  · rcases harchives db hdb with hdb | rfl
    · exact hi.archives db hdb
    · exact hi.sound
  · exact (hpending db hdb).elim (hi.pending db) (hi.archives db)
  · rcases hthreads t ht with ht | ⟨call, rfl⟩
    · obtain ⟨l, hst, hb⟩ := hi.threads t ht
      exact ⟨l, by rw [hgen]; exact hst, hb.mono fun o row h => ⟨row, by rw [hop]; exact h, rfl⟩⟩
    · exact ⟨_, ⟨follows_job env call, by simp⟩, by simp, by simp [Attempt.operation]⟩
  · rcases horphans o ho with ho | ⟨hog, ht⟩
    · exact hi.orphans o ho
    · obtain ⟨l, hst, -⟩ := hi.threads _ ht
      rw [hog]
      exact ⟨l, hst⟩
  · obtain ⟨hle, row, hrow, hrem⟩ := hi.fenced n hn o it he
    rw [hgen]
    exact ⟨hle, row, by rw [hop]; exact hrow, hrem⟩

theorem reaches_processInv (h : (generations env keepsSends).Reaches es s) : ProcessInv es s := by
  refine h.induct ?_ ?_
  · rintro s ⟨hw, ht, -, -, ha, ho, hp⟩
    refine ⟨?_, by simp [ha], by simp [hp], by simp [ht], by simp [ho], by simp, by simp, Trace.Each.nil, Trace.Each.nil⟩
    rw [hw]
    exact ⟨List.nodup_nil, List.nodup_nil, by simp⟩
  intro es s a s' out _ hi hs
  cases processStep_move hs with
  | ask t m e k x r w evs ht htask hh => exact hi.ask ht htask hh
  | orphan o m e k x r w evs orphans ho htask hh horphans => exact hi.orphan ho htask hh horphans
  | commit db hp hg =>
    rw [List.append_nil]
    exact hi.commit hp hg
  | quiet _ hgen hops hitems hthreads horphans harchives hpending =>
    rw [List.append_nil]
    exact hi.quiet hgen hops hitems hthreads horphans harchives hpending

end inv

end Manifold.Liquidity
