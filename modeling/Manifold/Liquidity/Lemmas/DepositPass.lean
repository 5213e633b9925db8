import Manifold.Liquidity.Lemmas.DepositSteps

/-!
# What the stability pass holds
-/

namespace Manifold.Liquidity

open Lib

variable {w w' : World} {x : Outside} {out : List Event} {e : Ask} {r : Ans e} {es : List Note}
  {caller other : Caller} {item : StabilityItem} {d : DepositStage} {t : DepositTurn}

structure HeldItem (w : World) (item : StabilityItem) : Prop where
  named : item.itemId = itemIdOf item.federationId .stabilityPool
  loaded : item.itemId ∈ w.loadedStability
  row : ∀ row ∈ w.db.items, row.itemId = item.itemId →
    row.committedAmount = item.committedAmount ∧ row.status ≠ .actionRequired ∧
      (row.status.active = true → (StepJson.readStability row.step).1 = item.step)

def OperationOf (db : Db) (id : ItemId) (o : OperationId) : Prop :=
  ∃ op, db.operation o = some op ∧ op.operationType = .stabilityPoolFunding ∧ op.itemId = some id

structure FenceHolds (es : List Note) (w : World) (caller : Caller) (item : StabilityItem) : Prop where
  last : LastNote es caller (.stepSet item.itemId (.stability item.step) (.stability item.step))
  recorded : Recorded es item.federationId item.committedAmount item.step
  row : ∀ row ∈ w.db.items, row.itemId = item.itemId → (StepJson.readStability row.step).1 = item.step

structure TurnHolds (es : List Note) (w : World) (caller : Caller) (t : DepositTurn) : Prop where
  loaded : HeldItem w t.item
  operation : ∀ o, t.operation = some o → OperationOf w.db t.item.itemId o
  funded : t.funded = true → FundedItem w.db t.item.itemId
  fenced : t.fenced = true → FenceHolds es w caller t.item

structure Holds (es : List Note) (w : World) (caller : Caller) (d : DepositStage) : Prop where
  waiting : ∀ item ∈ d.waiting, HeldItem w item
  turn : ∀ t, d.turn = some t → TurnHolds es w caller t
  apart : ∀ t, d.turn = some t → ∀ item ∈ d.waiting, item.itemId ≠ t.item.itemId

theorem holds_empty : Holds es w caller {} := ⟨by simp, by simp, by simp⟩

/-! ## Questions that leave an item alone -/

structure Untouched (e : Ask) (id : ItemId) : Prop where
  update : ∀ step, e ≠ .updateItemStep id step
  compareAndSet : ∀ expected next, e ≠ .compareAndSetItemStep id expected next
  failure : ∀ status failure, e ≠ .setItemFailure id status failure

def Unreplaced (w : World) (e : Ask) : Prop :=
  ∀ config revision request, e = .acceptRequest config revision request →
    itemIdOf request.target.federationId .stabilityPool ∉ w.loadedStability

theorem HeldItem.back (h : HeldItem w item) (hd : DbNamed w.db) (hs : handler e w x = some (r, w', out))
    (hacc : Unreplaced w e) {row'} (hrow' : row' ∈ w'.db.items) (hid : row'.itemId = item.itemId) :
    ∃ row ∈ w.db.items, row.itemId = item.itemId ∧ ItemChange e row row' := by
  rcases (handler_items hd.operations hs).back hrow' with
    ⟨row, hrow, hc, -⟩ | ⟨kept, new, config, revision, request, items, now, ha, p, hp, rfl⟩
  · exact ⟨row, hrow, hc.kept.itemId ▸ hid, hc⟩
  have hp' : p.itemId = itemIdOf request.target.federationId p.sourceType :=
    ((Db.planItems_planned ha.plan).1 p hp).itemId
  have hname : itemIdOf request.target.federationId p.sourceType = itemIdOf item.federationId .stabilityPool := by
    rw [← hp', ← h.named]
    exact hid
  refine absurd h.loaded ?_
  rw [h.named, ← (itemIdOf_inj hname).1]
  exact hacc _ _ _ ha.ask

theorem ItemChange.untouched {row row'} (hc : ItemChange e row row') (hu : Untouched e row.itemId)
    (hst : row.status ≠ .actionRequired) :
    row'.step = row.step ∧ row'.status ≠ .actionRequired ∧ (row'.status.active = true → row.status.active = true) := by
  cases hc with
  | same h => exact ⟨by rw [h], by rw [h]; exact hst, by rw [h]; exact id⟩
  | running _ _ hact h' he => exact ⟨he, by simp [h'], fun _ => hact⟩
  | step step he =>
    rcases he with he | ⟨expected, he, -⟩
    · exact absurd he (hu.update step)
    · exact absurd he (hu.compareAndSet expected step)
  | completed _ _ _ _ _ _ h' he => exact ⟨he, by simp [h'], fun h => by rw [h'] at h; cases h⟩
  | failed status failure he => exact absurd he (hu.failure status failure)
  | reset _ hs' | bound _ _ _ hs' => exact absurd hs' hst
  | stopped _ h' he =>
    rcases h' with h' | h' <;> exact ⟨he, by simp [h'], fun h => by rw [h'] at h; cases h⟩

theorem HeldItem.untouched (h : HeldItem w item) (hd : DbNamed w.db) (hs : handler e w x = some (r, w', out))
    (hacc : Unreplaced w e) (hlist : e ≠ .activeItems .stabilityPool) (hu : Untouched e item.itemId) :
    HeldItem w' item := by
  refine ⟨h.named, by rw [(handler_framed hs).loaded hlist]; exact h.loaded, fun row' hrow' hid => ?_⟩
  obtain ⟨row, hrow, hid₀, hc⟩ := h.back hd hs hacc hrow' hid
  obtain ⟨hcom, hst, hstep⟩ := h.row row hrow hid₀
  obtain ⟨hsame, hst', hact⟩ := hc.untouched (hid₀ ▸ hu) hst
  exact ⟨hc.kept.committedAmount.trans hcom, hst', fun ha => by rw [hsame]; exact hstep (hact ha)⟩

theorem FenceHolds.untouched (h : FenceHolds es w caller item) (hl : HeldItem w item) (hd : DbNamed w.db)
    (hs : handler e w x = some (r, w', out)) (hacc : Unreplaced w e) (hu : Untouched e item.itemId)
    (hne : other ≠ caller) (hsub : ∀ i submission, e ≠ .submitDepositToProvide i submission) :
    FenceHolds (es ++ notes other out) w' caller item := by
  refine ⟨h.last.append fun n hn => by rw [(mem_notes hn).1]; exact hne, ?_, fun row' hrow' hid => ?_⟩
  · refine h.recorded.append (fun n hn he => ?_) fun n hn submission he => ?_
    · have hev := (mem_notes hn).2
      rw [he] at hev
      obtain ⟨config, revision, request, rfl, hf⟩ := handler_emits hd.operations hs _ hev
      refine absurd hl.loaded ?_
      rw [hl.named, ← hf]
      exact hacc _ _ _ rfl
    · have hev := (mem_notes hn).2
      rw [he] at hev
      exact absurd (handler_emits hd.operations hs _ hev) (hsub _ _)
  obtain ⟨row, hrow, hid₀, hc⟩ := hl.back hd hs hacc hrow' hid
  obtain ⟨-, hst, -⟩ := hl.row row hrow hid₀
  rw [(hc.untouched (hid₀ ▸ hu) hst).1]
  exact h.row row hrow hid₀

/-! ## The wallet operations of an item -/

theorem RowChange.completed {db row row'} (h : RowChange db e out row row') (hst : row.status = .completed) :
    row'.status = .completed := by
  cases h with
  | same h => rw [h]; exact hst
  | stamped _ _ h => rw [h]; exact hst
  | broadcast _ hs => rw [hst] at hs; cases hs
  | inDoubt _ hs => rw [hst] at hs; cases hs
  | failed _ _ _ _ hs => rw [hst] at hs; cases hs
  | fenced _ _ _ _ _ hs => rw [hst] at hs; cases hs
  | escalated _ hs => rw [hst] at hs; cases hs
  | resolved _ _ _ _ hs => rw [hst] at hs; cases hs
  | retried _ _ _ hs => rw [hst] at hs; cases hs
  | cancelled _ hs => rw [hst] at hs; rcases hs with hs | hs <;> cases hs
  | evidence _ _ _ _ hs => rw [hst] at hs; cases hs

theorem FundedItem.step {id} (h : FundedItem w.db id) (hd : DbNamed w.db)
    (hs : handler e w x = some (r, w', out)) : FundedItem w'.db id := by
  obtain ⟨op, hop, htype, hitem, hst⟩ := h
  obtain ⟨op', hop', hc⟩ := (handler_ops hd.operations hs).forth hop
  exact ⟨op', hop', hc.kept.operationType.trans htype, hc.kept.itemId.trans hitem, hc.completed hst⟩

theorem OperationOf.step {id o} (h : OperationOf w.db id o) (hd : DbNamed w.db)
    (hs : handler e w x = some (r, w', out)) : OperationOf w'.db id o := by
  obtain ⟨op, hop, htype, hitem⟩ := h
  obtain ⟨op', hop', hc⟩ := (handler_ops hd.operations hs).lookup_forth (handler_keyed hd.operations hs)
    (fun _ _ hc => hc.kept.operationId) hop
  exact ⟨op', hop', hc.kept.operationType.trans htype, hc.kept.itemId.trans hitem⟩

/-! ## A question of another thread -/

structure Bystander (e : Ask) : Prop where
  list : e ≠ .activeItems .stabilityPool
  submit : ∀ i submission, e ≠ .submitDepositToProvide i submission
  untouched : ∀ f, Untouched e (itemIdOf f .stabilityPool)
  complete : ∀ f kind fulfilled evidence, e ≠ .completeItem (itemIdOf f .stabilityPool) kind fulfilled evidence

theorem bystander_of_allows {c l} (hn : Named c) (hm : (caller, l) ∈ c.members) (ha : l.allows e)
    (hw : l.worker ≠ some .stabilityPool) : Bystander e := by
  have hmay : (∀ p, e ≠ .submitPrepared p) → (∀ p, e ≠ .submitResponse p) → l.mayAsk e := fun h₁ h₂ => by
    unfold Stage.allows at ha
    split at ha
    · exact absurd ha (h₁ _)
    · exact absurd ha (h₂ _)
    · exact ha
  -- an item that the thread holds is of the other kind
  have hno : ∀ {kind : FundingKind} {s : Snap} {f : FederationId}, l.worker = some kind → l.Has s →
      s.itemId ≠ itemIdOf f .stabilityPool := by
    intro kind s f hk hs he
    rw [hn.stages _ hm kind hk s hs] at he
    have := (itemIdOf_inj he).2
    cases kind with
    | gateway => cases this
    | stabilityPool => exact hw hk
  refine ⟨?_, ?_, fun f => ⟨?_, ?_, ?_⟩, ?_⟩
  · rintro rfl
    exact hw (hmay (by simp) (by simp))
  · rintro i submission rfl
    exact hw (hmay (by simp) (by simp))
  · rintro step rfl
    obtain ⟨kind, s, ht, hid, -⟩ := hmay (by simp) (by simp)
    exact hno ht.1 (.inr ht.2) hid
  · rintro expected next rfl
    obtain ⟨kind, s, ht, hid, -⟩ := hmay (by simp) (by simp)
    exact hno ht.1 (.inr ht.2) hid
  · rintro status failure rfl
    obtain ⟨hsome, -, hs⟩ := hmay (by simp) (by simp)
    obtain ⟨kind, hk⟩ := Option.isSome_iff_exists.mp hsome
    rcases hs with ⟨s, hs, hid⟩ | ⟨s, hs, hid⟩
    · exact hno hk (.inl hs) hid
    · exact hno hk (.inr hs) hid
  · rintro f kind fulfilled evidence rfl
    obtain ⟨s, ht, hid, -⟩ := hmay (by simp) (by simp)
    exact hno ht.1 (.inr ht.2) hid

theorem Holds.byOther (h : Holds es w caller d) (hd : DbNamed w.db) (hs : handler e w x = some (r, w', out))
    (hacc : Unreplaced w e) (hb : Bystander e) (hne : other ≠ caller) :
    Holds (es ++ notes other out) w' caller d := by
  have hu : ∀ item, HeldItem w item → Untouched e item.itemId := fun item hl => by
    rw [hl.named]
    exact hb.untouched item.federationId
  have hload : ∀ item, HeldItem w item → HeldItem w' item := fun item hl =>
    hl.untouched hd hs hacc hb.list (hu item hl)
  refine ⟨fun item hi => hload item (h.waiting item hi), fun t ht => ?_, h.apart⟩
  have hturn := h.turn t ht
  exact ⟨hload _ hturn.loaded, fun o ho => (hturn.operation o ho).step hd hs, fun hf => (hturn.funded hf).step hd hs,
    fun hf => (hturn.fenced hf).untouched hturn.loaded hd hs hacc (hu _ hturn.loaded) hne hb.submit⟩

/-! ## A question of the pass -/

theorem unreplaced_of_allows (ha : d.allows e) : Unreplaced w e := by
  rintro config revision request rfl
  exact ha.elim

theorem TurnHolds.lift (h : TurnHolds es w caller t) (hd : DbNamed w.db) (hs : handler e w x = some (r, w', out))
    (hload : HeldItem w' t.item) : TurnHolds (es ++ notes caller out) w' caller { t with fenced := false } :=
  ⟨hload, fun o ho => (h.operation o ho).step hd hs, fun hf => (h.funded hf).step hd hs, fun hf => by cases hf⟩

theorem Holds.mapTurn (h : Holds es w caller d) (hload : ∀ item, HeldItem w item → HeldItem w' item) {f}
    (hitem : ∀ t, (f t).item = t.item) (hfence : ∀ t, (f t).fenced = false)
    (hop : ∀ t, d.turn = some t → ∀ o, (f t).operation = some o → OperationOf w'.db t.item.itemId o)
    (hfund : ∀ t, d.turn = some t → (f t).funded = true → FundedItem w'.db t.item.itemId) :
    Holds (es ++ notes caller out) w' caller { d with turn := d.turn.map f } := by
  refine ⟨fun item hi => hload item (h.waiting item hi), fun t' ht' => ?_, fun t' ht' item hi => ?_⟩
  · obtain ⟨t, ht, rfl⟩ := Option.map_eq_some_iff.mp ht'
    refine ⟨?_, ?_, ?_, ?_⟩
    · rw [hitem]
      exact hload _ (h.turn t ht).loaded
    · rw [hitem]
      exact hop t ht
    · rw [hitem]
      exact hfund t ht
    · rw [hfence]
      intro hf
      cases hf
  · obtain ⟨t, ht, rfl⟩ := Option.map_eq_some_iff.mp ht'
    rw [hitem]
    exact h.apart t ht item hi

theorem Holds.unfenced (h : Holds es w caller d) (hd : DbNamed w.db) (hs : handler e w x = some (r, w', out))
    (hload : ∀ item, HeldItem w item → HeldItem w' item) :
    Holds (es ++ notes caller out) w' caller d.unfenced :=
  h.mapTurn hload (fun _ => rfl) (fun _ => rfl) (fun t ht o ho => ((h.turn t ht).operation o ho).step hd hs)
    fun t ht hf => ((h.turn t ht).funded hf).step hd hs

theorem holds_list (hd : DbNamed w.db) {r} (hs : handler (.activeItems .stabilityPool) w x = some (r, w', out)) :
    Holds (es ++ notes caller out) w' caller (d.after (.activeItems .stabilityPool) r) := by
  simp only [handler] at hs
  split at hs
  · cases hs
    exact holds_empty
  cases hs
  refine ⟨fun item hi => ?_, fun t ht => (by cases ht), fun t ht => (by cases ht)⟩
  obtain ⟨row, hrow, rfl⟩ := List.mem_map.mp hi
  obtain ⟨hmem, hsrc, hact⟩ := mem_activeItemRows hrow
  refine ⟨?_, List.mem_map.mpr ⟨row, hrow, rfl⟩, fun row' hrow' hid => ?_⟩
  · show row.1.itemId = _
    rw [hd.rows _ hmem, hsrc]
    rfl
  cases hd.items.eq hrow' hmem hid
  refine ⟨rfl, fun hst => ?_, fun _ => rfl⟩
  rw [hst] at hact
  cases hact

theorem Holds.take (h : Holds es w caller d) (hload : ∀ item, HeldItem w item → HeldItem w' item) {id} :
    Holds (es ++ notes caller out) w' caller (d.take id) := by
  refine ⟨fun item hi => hload item (h.waiting item (List.mem_of_mem_filter hi)), fun t ht => ?_,
    fun t ht item hi => ?_⟩
  · obtain ⟨item, hl, rfl⟩ := Option.map_eq_some_iff.mp ht
    exact ⟨hload item (h.waiting item (Table.lookup_mem hl).1), fun o ho => (by cases ho), fun hf => (by cases hf),
      fun hf => (by cases hf)⟩
  obtain ⟨item', hl, rfl⟩ := Option.map_eq_some_iff.mp ht
  have hne := (List.mem_filter.mp hi).2
  rw [(Table.lookup_mem hl).2]
  simpa using hne

theorem Holds.drop (h : Holds es w caller d) (hd : DbNamed w.db) {id status failure r}
    (hs : handler (.setItemFailure id status failure) w x = some (r, w', out)) :
    Holds (es ++ notes caller out) w' caller (d.drop id) := by
  have hload : ∀ item, HeldItem w item → item.itemId ≠ id → HeldItem w' item := fun item hl hne =>
    hl.untouched hd hs (by simp [Unreplaced]) (by simp)
      ⟨by simp, by simp, fun st fl he => hne (by cases he; rfl)⟩
  have hturn : ∀ t', (d.drop id).turn = some t' →
      ∃ t, d.turn = some t ∧ t' = { t with fenced := false } ∧ t.item.itemId ≠ id := by
    intro t' ht'
    simp only [DepositStage.drop] at ht'
    split at ht'
    · cases ht'
    rename_i hany
    obtain ⟨t, ht, rfl⟩ := Option.map_eq_some_iff.mp ht'
    refine ⟨t, ht, rfl, fun he => hany ?_⟩
    rw [ht]
    simpa using he
  refine ⟨fun item hi => ?_, fun t' ht' => ?_, fun t' ht' item hi => ?_⟩
  · have hmem := List.mem_filter.mp hi
    exact hload item (h.waiting item hmem.1) (by simpa using hmem.2)
  · obtain ⟨t, ht, rfl, hne⟩ := hturn t' ht'
    exact (h.turn t ht).lift hd hs (hload _ (h.turn t ht).loaded hne)
  · obtain ⟨t, ht, rfl, -⟩ := hturn t' ht'
    exact h.apart t ht item (List.mem_of_mem_filter hi)

theorem ensure_answer (hd : DbNamed w.db) {row id r}
    (hs : handler (.ensureWalletOperation row id) w x = some (r, w', out))
    (htype : row.operationType = .stabilityPoolFunding) (hitem : row.itemId = some id) :
    (∀ r₀, r = .ok (.existing r₀) →
      OperationOf w'.db id r₀.operationId ∧ (r₀.status = .completed → FundedItem w'.db id)) ∧
    (r = .ok .created → OperationOf w'.db id row.operationId) := by
  simp only [handler] at hs
  rcases World.run_cases hs with ⟨-, -, rfl⟩ | ⟨rfl, -, rfl⟩
  · exact ⟨fun _ h => (by cases h), fun h => by cases h⟩
  rcases Db.ensureWalletOperation_cases w.db { row with updatedAt := x.now } id with
    h | ⟨e, h⟩ | ⟨r₀, h, -, hr₀⟩ | ⟨db', h, -, hins⟩ <;> simp only [Db.runEnsure, h]
  · exact ⟨fun _ h => (by cases h), fun h => by cases h⟩
  · exact ⟨fun _ h => (by cases h), fun h => by cases h⟩
  · refine ⟨fun r₁ h => ?_, fun h => by cases h⟩
    cases h
    have hmem := List.mem_of_find?_eq_some hr₀
    have hp := List.find?_some hr₀
    simp only [Bool.and_eq_true, decide_eq_true_eq] at hp
    exact ⟨⟨r₀, Db.operation_of_mem hd.operations hmem, hp.1.trans htype, hp.2⟩,
      fun hst => ⟨r₀, hmem, hp.1.trans htype, hp.2, hst⟩⟩
  · have hrow := Db.operation_of_insert hins
    exact ⟨fun _ h => (by cases h), fun _ => ⟨_, hrow, htype, hitem⟩⟩

theorem Holds.ensure (h : Holds es w caller d) (hd : DbNamed w.db) {row id r}
    (ha : d.allows (.ensureWalletOperation row id))
    (hs : handler (.ensureWalletOperation row id) w x = some (r, w', out)) :
    Holds (es ++ notes caller out) w' caller (d.after (.ensureWalletOperation row id) r) := by
  have hload : ∀ item, HeldItem w item → HeldItem w' item := fun item hl =>
    hl.untouched hd hs (by simp [Unreplaced]) (by simp) ⟨by simp, by simp, by simp⟩
  obtain ⟨⟨t₀, ht₀, hid⟩, htype, hitem⟩ := ha
  have ht_eq : ∀ t, d.turn = some t → t.item.itemId = id := fun t ht => by
    cases ht₀.symm.trans ht
    exact hid
  obtain ⟨hold, hnew⟩ := ensure_answer hd hs htype hitem
  refine h.mapTurn hload (fun t => ?_) (fun t => ?_) (fun t ht o ho => ?_) fun t ht hf => ?_
  · rcases r with e | (_ | r₀ | _) <;> rfl
  · rcases r with e | (_ | r₀ | _) <;> rfl
  · rw [ht_eq t ht]
    rcases r with e | (_ | r₀ | _) <;> cases ho
    · exact (hold r₀ rfl).1
    · exact hnew rfl
  rw [ht_eq t ht]
  rcases r with e | (_ | r₀ | _)
  · cases hf
  · cases hf
  · exact (hold r₀ rfl).2 (by simpa [DepositStage.give] using hf)
  · cases hf

theorem Holds.see (h : Holds es w caller d) (hd : DbNamed w.db) {id r}
    (hs : handler (.getWalletOperation id) w x = some (r, w', out)) :
    Holds (es ++ notes caller out) w' caller (d.after (.getWalletOperation id) r) := by
  have hload : ∀ item, HeldItem w item → HeldItem w' item := fun item hl =>
    hl.untouched hd hs (by simp [Unreplaced]) (by simp) ⟨by simp, by simp, by simp⟩
  refine h.mapTurn hload (fun _ => rfl) (fun _ => rfl)
    (fun t ht o ho => ((h.turn t ht).operation o ho).step hd hs) fun t ht hf => ?_
  simp only [DepositStage.see, Bool.or_eq_true, Bool.and_eq_true, beq_iff_eq] at hf
  rcases hf with hf | ⟨ho, hst⟩
  · exact ((h.turn t ht).funded hf).step hd hs
  obtain ⟨op, hop, htype, hitem⟩ := (h.turn t ht).operation id ho
  have hkeep := hs
  simp only [handler] at hs
  rcases World.run_cases hs with ⟨rfl, -, hr⟩ | ⟨rfl, -, hr⟩
  · rw [hr] at hst
    cases hst
  · simp only [hop] at hr ⊢
    rw [hr] at hst
    exact ⟨op, (Db.mem_of_operation hop).1, htype, hitem, by simpa [Except.toOption] using hst⟩

/-! ## Writing the step -/

def setStep (step : StabilityStep) (now : Timestamp) (i : AllocationItem) : AllocationItem :=
  { i with step := some (.stability step), updatedAt := now }

theorem HeldItem.write (h : HeldItem w item) {guard step now}
    (hg : ∀ row ∈ w.db.items, row.itemId = item.itemId → row.status.active = true → guard row = true) :
    HeldItem { w with db := w.db.updateItem item.itemId guard (setStep step now) } { item with step := step } := by
  refine ⟨h.named, h.loaded, fun row' hrow' hid => ?_⟩
  obtain ⟨row, hrow, rfl⟩ := Table.mem_update.mp hrow'
  split_ifs at hid ⊢ with hp
  · obtain ⟨hcom, hst, -⟩ := h.row row hrow hid
    exact ⟨hcom, hst, fun _ => rfl⟩
  obtain ⟨hcom, hst, -⟩ := h.row row hrow hid
  refine ⟨hcom, hst, fun hact => absurd ?_ hp⟩
  simp only [Bool.and_eq_true, beq_iff_eq]
  exact ⟨hid, hg row hrow hid hact⟩

theorem TurnHolds.write (h : TurnHolds es w caller t) (hd : DbNamed w.db)
    (hs : handler e w x = some (r, w', out)) {step} (hload : HeldItem w' { t.item with step := step }) {b}
    (hf : b = true → FenceHolds (es ++ notes caller out) w' caller { t.item with step := step }) :
    TurnHolds (es ++ notes caller out) w' caller { t with item := { t.item with step := step }, fenced := b } :=
  ⟨hload, fun o ho => (h.operation o ho).step hd hs, fun hf => (h.funded hf).step hd hs, hf⟩

theorem Holds.setStep (h : Holds es w caller d) (ht : d.turn = some t) {step b}
    (hload : ∀ item, HeldItem w item → item.itemId ≠ t.item.itemId → HeldItem w' item)
    (hturn : TurnHolds (es ++ notes caller out) w' caller
      { t with item := { t.item with step := step }, fenced := b }) :
    Holds (es ++ notes caller out) w' caller (d.setStep (.stability step) b) := by
  have hmap : (d.setStep (.stability step) b).turn =
      some { t with item := { t.item with step := step }, fenced := b } := by
    simp only [DepositStage.setStep, ht, Option.map_some]
    rfl
  refine ⟨fun item hi => hload item (h.waiting item hi) (h.apart t ht item hi), fun t' ht' => ?_,
    fun t' ht' item hi => ?_⟩
  · cases hmap.symm.trans ht'
    exact hturn
  · cases hmap.symm.trans ht'
    exact h.apart t ht item hi

theorem Holds.update (h : Holds es w caller d) (hd : DbNamed w.db) {id step r}
    (ha : d.allows (.updateItemStep id step)) (hs : handler (.updateItemStep id step) w x = some (r, w', out)) :
    Holds (es ++ notes caller out) w' caller (d.after (.updateItemStep id step) r) := by
  obtain ⟨t, new, ⟨ht, rfl⟩, rfl, -⟩ := ha
  have hs' := hs
  rcases World.write_cases hs' with ⟨rfl, -, rfl⟩ | ⟨hw', -, rfl⟩
  · exact h.unfenced hd hs fun _ hl => hl
  refine h.setStep ht (fun item hl hne => ?_) ((h.turn t ht).write hd hs ?_ fun hb => by cases hb)
  · exact hl.untouched hd hs (by simp [Unreplaced]) (by simp)
      ⟨fun _ he => hne (Ask.updateItemStep.inj he).1.symm, by simp, by simp⟩
  · rw [hw']
    exact (h.turn t ht).loaded.write fun _ _ _ hact => hact

theorem affectsItem_iff {db : Db} {id guard} :
    db.affectsItem id guard = true ↔ ∃ row, db.item id = some row ∧ guard row = true := by
  unfold Db.affectsItem
  cases db.item id <;> simp

theorem updateItem_unaffected {db : Db} (hk : Table.Keyed (·.itemId) db.items) {id guard g}
    (h : db.affectsItem id guard = false) :
    db.updateItem id guard g = db := by
  have hsame : Table.update (fun i => i.itemId == id && guard i) g db.items = db.items :=
    Table.update_eq_self fun i hi => by
      by_contra hp
      simp only [Bool.not_eq_false, Bool.and_eq_true, beq_iff_eq] at hp
      have haff : db.affectsItem id guard = true := affectsItem_iff.mpr ⟨i, by rw [← hp.1]; exact hk.lookup hi, hp.2⟩
      rw [h] at haff
      cases haff
  unfold Db.updateItem
  rw [hsame]

theorem HeldItem.found (h : HeldItem w item) (hd : DbNamed w.db) (hi : RowsRecorded es w.db) {row}
    (hrow : row ∈ w.db.items) (hid : row.itemId = item.itemId) (hact : row.status.active = true) :
    Recorded es item.federationId item.committedAmount item.step := by
  have hname := hd.rows row hrow
  rw [hid, h.named] at hname
  obtain ⟨hf, hsrc⟩ := itemIdOf_inj hname
  obtain ⟨hcom, -, hstep⟩ := h.row row hrow hid
  rw [hf, ← hcom, ← hstep hact]
  exact hi row hrow hsrc.symm

theorem Holds.compareAndSet (h : Holds es w caller d) (hd : DbNamed w.db) (hi : RowsRecorded es w.db)
    {id expected next r} (ha : d.allows (.compareAndSetItemStep id expected next))
    (hs : handler (.compareAndSetItemStep id expected next) w x = some (r, w', out)) :
    Holds (es ++ notes caller out) w' caller (d.after (.compareAndSetItemStep id expected next) r) := by
  obtain ⟨t, ⟨ht, rfl⟩, rfl, hnext⟩ := ha
  have hturn := h.turn t ht
  have hs' := hs
  simp only [handler] at hs'
  rcases World.run_cases hs' with ⟨rfl, -, rfl⟩ | ⟨hw', hout, rfl⟩
  · exact h.unfenced hd hs fun _ hl => hl
  obtain ⟨new, rfl⟩ : ∃ new, next = .stability new := by
    rcases hnext with rfl | ⟨submission, -, rfl⟩ <;> exact ⟨_, rfl⟩
  simp only [Db.runCompareAndSet, Db.compareAndSetItemStep] at hw' hout
  cases haff : w.db.affectsItem t.item.itemId
      (fun i => i.status.active && decide (i.step = some (.stability t.item.step))) with
  | false =>
    have hafter : d.after (.compareAndSetItemStep t.item.itemId (.stability t.item.step) (.stability new))
        (w.db.runCompareAndSet t.item.itemId (.stability t.item.step) (.stability new) x.now).1 = d.unfenced := by
      simp only [DepositStage.after, Db.runCompareAndSet, Db.compareAndSetItemStep, haff, applied]
      rfl
    rw [hafter]
    rw [updateItem_unaffected hd.items haff] at hw'
    subst hw'
    exact h.unfenced hd hs fun _ hl => hl
  | true =>
    have hafter : d.after (.compareAndSetItemStep t.item.itemId (.stability t.item.step) (.stability new))
        (w.db.runCompareAndSet t.item.itemId (.stability t.item.step) (.stability new) x.now).1 =
        d.setStep (.stability new) (decide ((StepJson.stability t.item.step) = .stability new)) := by
      simp only [DepositStage.after, Db.runCompareAndSet, Db.compareAndSetItemStep, haff, applied]
      rfl
    obtain ⟨row₀, hrow₀, hg⟩ := affectsItem_iff.mp haff
    obtain ⟨hmem, hid⟩ := Table.lookup_mem hrow₀
    have hg' := hg
    simp only [Bool.and_eq_true, decide_eq_true_eq] at hg'
    have hload : HeldItem w' { t.item with step := new } := by
      rw [hw']
      refine hturn.loaded.write fun row hrow hrid _ => ?_
      cases hd.items.eq hrow hmem (hrid.trans hid.symm)
      exact hg
    rw [hafter]
    refine h.setStep ht (fun item hl hne => ?_) (hturn.write hd hs hload fun hb => ?_)
    · exact hl.untouched hd hs (by simp [Unreplaced]) (by simp)
        ⟨by simp, fun _ _ he => hne (Ask.compareAndSetItemStep.inj he).1.symm, by simp⟩
    -- the step is as before: this is the fence
    obtain rfl : t.item.step = new := by simpa using hb
    simp only [haff, if_true] at hout
    refine ⟨?_, ?_, fun row' hrow' hrid => ?_⟩
    · rw [hout]
      exact ⟨es, [], rfl, by simp⟩
    · rw [hout]
      refine (hturn.loaded.found hd hi hmem hid hg'.1).append (fun n hn he => ?_) fun n hn submission he => ?_
      · rw [List.mem_singleton.mp hn] at he
        cases he
      · rw [List.mem_singleton.mp hn] at he
        cases he
    rw [hw'] at hrow'
    obtain ⟨row, hrow, rfl⟩ := Table.mem_update.mp hrow'
    split_ifs at hrid ⊢ with hp
    · rfl
    · cases hd.items.eq hrow hmem (hrid.trans hid.symm)
      rw [hg'.2]
      rfl

/-! ## Any question of the pass -/

theorem Holds.byOwn (h : Holds es w caller d) (hd : DbNamed w.db) (hi : RowsRecorded es w.db) (ha : d.allows e)
    (hs : handler e w x = some (r, w', out)) : Holds (es ++ notes caller out) w' caller (d.after e r) := by
  have hrest : e ≠ .activeItems .stabilityPool → (∀ id, Untouched e id) →
      ∀ item, HeldItem w item → HeldItem w' item := fun hlist hu item hl =>
    hl.untouched hd hs (unreplaced_of_allows ha) hlist (hu item.itemId)
  cases e with
  | activeItems kind =>
    obtain rfl : kind = .stabilityPool := ha
    exact holds_list hd hs
  | markItemRunning id =>
    have hload := hrest (by simp) fun _ => ⟨by simp, by simp, by simp⟩
    simp only [DepositStage.after]
    split
    · exact h.take hload
    · exact h.unfenced hd hs hload
  | setItemFailure id status failure => exact h.drop hd hs
  | ensureWalletOperation row id => exact h.ensure hd ha hs
  | getWalletOperation id => exact h.see hd hs
  | updateItemStep id step => exact h.update hd ha hs
  | compareAndSetItemStep id expected next => exact h.compareAndSet hd hi ha hs
  | _ => exact h.unfenced hd hs (hrest (by simp) fun _ => ⟨by simp, by simp, by simp⟩)

end Manifold.Liquidity
