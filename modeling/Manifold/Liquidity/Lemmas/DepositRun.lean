import Manifold.Liquidity.Lemmas.DepositPass
import Manifold.Liquidity.Lemmas.DepositsFollow

/-!
# Deposits over a run
-/

namespace Manifold.Liquidity

open Lib

/-- A deposit leaves right after its caller found the item active in the step that holds it, was staged before, and
is the only one since the insertion. -/
def SubmissionSound (pre : List Note) (n : Note) : Prop :=
  ∀ i submission, n.2 = .depositSubmitted i submission →
    ∃ f step, i = itemIdOf f .stabilityPool ∧
      LastNote pre n.1 (.stepSet i (.stability step) (.stability step)) ∧
      step.spDepositStatus = some .submitting ∧ step.submission = some submission ∧
      StagedSince f pre submission ∧ ∀ submission', SentSince f pre submission' → submission' = submission

section handler

variable {w w' : World} {x : Outside} {out : List Event} {e : Ask} {r : Ans e} {es : List Note}
  {caller : Caller} {d : DepositStage}

/-! ## A question of the pass -/

theorem HeldItem.recorded {item} (h : HeldItem w item) (hi : RowsRecorded es w.db) {row}
    (hrow : row ∈ w.db.items) (hsrc : row.sourceType = .stabilityPool) (hid : row.itemId = item.itemId)
    (hact : row.status.active = true) :
    Recorded es row.federationId row.committedAmount item.step := by
  rw [← (h.row row hrow hid).2.2 hact]
  exact hi row hrow hsrc

theorem no_submission (hd : DbNamed w.db) (hs : handler e w x = some (r, w', out))
    (he : ∀ i submission, e ≠ .submitDepositToProvide i submission) :
    ∀ n ∈ notes caller out, ∀ i submission, n.2 ≠ .depositSubmitted i submission := by
  intro n hn i submission hns
  have hev := (mem_notes hn).2
  rw [hns] at hev
  exact he _ _ (handler_emits hd.operations hs _ hev)

theorem stepSet_noted (hd : DbNamed w.db) {id expected next r}
    (hs : handler (.compareAndSetItemStep id expected next) w x = some (r, w', out)) {row}
    (hrow : row ∈ w.db.items) (hid : row.itemId = id) (hact : row.status.active = true)
    (hstep : row.step = some expected)
    (hafter : ∃ row' ∈ w'.db.items, row'.itemId = row.itemId ∧ row'.step = some next) :
    next = expected ∨ .stepSet id expected next ∈ out := by
  simp only [handler] at hs
  rcases World.run_cases hs with ⟨rfl, -, -⟩ | ⟨rfl, rfl, -⟩
  · obtain ⟨row', hrow', hid', hnext⟩ := hafter
    cases hd.items.eq hrow' hrow hid'
    rw [hstep] at hnext
    exact .inl (Option.some.inj hnext).symm
  right
  have haff : (w.db.compareAndSetItemStep id expected next x.now).1 = true :=
    affectsItem_iff.mpr ⟨row, by rw [← hid]; exact hd.items.lookup hrow, by simp [hact, hstep]⟩
  simp only [Db.runCompareAndSet, haff, if_true, List.mem_singleton]

theorem rowsRecorded_own
    (h : Holds es w caller d) (hd : DbNamed w.db) (hi : RowsRecorded es w.db) (ha : d.allows e)
    (hs : handler e w x = some (r, w', out)) : RowsRecorded (es ++ notes caller out) w'.db := by
  refine rowsRecorded_step hd hi hs ?_ ?_ ?_
  · intro row hrow hsrc hact step hu hafter he
    rcases he with rfl | ⟨expected, rfl, hstep⟩
    · obtain ⟨t, new, ⟨ht, hid⟩, rfl, hm⟩ := ha
      have hrec := (h.turn t ht).loaded.recorded hi hrow hsrc hid.symm hact
      exact (hrec.move hm).append hu fun n hn submission hns =>
        absurd hns (no_submission hd hs (by simp) n hn _ submission)
    obtain ⟨t, ⟨ht, hid⟩, rfl, hnext⟩ := ha
    have hrec := (h.turn t ht).loaded.recorded hi hrow hsrc hid.symm hact
    have hno : ∀ n ∈ notes caller out, ∀ i submission, n.2 ≠ .depositSubmitted i submission :=
      no_submission hd hs (by simp)
    have hsame : Recorded (es ++ notes caller out) row.federationId row.committedAmount t.item.step :=
      hrec.append hu fun n hn submission hns => absurd hns (hno n hn _ submission)
    rcases hnext with rfl | ⟨submission, hb, rfl⟩
    · exact hsame
    rcases stepSet_noted hd hs hrow rfl hact hstep hafter with heq | hnote
    · rw [heq]
      exact hsame
    -- the deposit is staged here
    have hname := hd.rows row hrow
    rw [hsrc] at hname
    have hcom : t.item.committedAmount = row.committedAmount :=
      ((h.turn t ht).loaded.row row hrow hid.symm).1.symm
    refine hrec.restart hb.unrecorded hu (fun n hn => hno n hn _) ?_ (.inr ⟨⟨submission, rfl, ?_⟩, ?_, hb.address⟩)
    · rw [← hcom, ← hb.amount]
      rfl
    · refine ⟨caller, t.item.step, hb.unrecorded, ?_⟩
      rw [sinceInserted_append hu, ← hname]
      exact List.mem_append_right _ (List.mem_map_of_mem hnote)
    · rw [← hcom]
      exact hb.claimed
  · rintro row hrow hsrc hst step hu hafter rfl
    exact ha.elim
  rintro row hrow hsrc submission rfl
  obtain ⟨t, ⟨ht, hid⟩, hf, -, hsub⟩ := ha
  rw [((h.turn t ht).fenced hf).row row hrow hid.symm]
  exact hsub

theorem submissionSound_own (h : Holds es w caller d) {i submission}
    (ha : d.allows (.submitDepositToProvide i submission)) :
    SubmissionSound es (caller, .depositSubmitted i submission) := by
  intro i' submission' he
  cases he
  obtain ⟨t, ⟨ht, rfl⟩, hf, hst, hsub⟩ := ha
  have hturn := h.turn t ht
  have hfence := hturn.fenced hf
  refine ⟨t.item.federationId, t.item.step, hturn.loaded.named, hfence.last, hst, hsub, ?_, fun submission' hs => ?_⟩
  · have hid : t.item.step.spDepositOperationId.isSome = true := by rw [submission_operationId hsub]; rfl
    rcases hfence.recorded.origin hid with ⟨-, hne⟩ | ⟨⟨submission', hs', hstaged⟩, -⟩
    · exact absurd hst hne
    · rw [hsub] at hs'
      cases hs'
      exact hstaged
  · have hs' := hfence.recorded.sent submission' hs
    rw [hsub] at hs'
    exact (Option.some.inj hs').symm

theorem trace_own
    (hT : Trace.Each SubmissionSound es) (h : Holds es w caller d) (hd : DbNamed w.db) (ha : d.allows e)
    (hs : handler e w x = some (r, w', out)) : Trace.Each SubmissionSound (es ++ notes caller out) := by
  refine hT.append fun pre n post he i submission hn => ?_
  have hmem : n ∈ notes caller out := by rw [he]; simp
  have hask : e = .submitDepositToProvide i submission := by
    have hev := (mem_notes hmem).2
    rw [hn] at hev
    exact handler_emits hd.operations hs _ hev
  subst hask
  have hout : out = [.depositSubmitted i submission] := by
    cases hs
    rfl
  -- the submission is the only note of its step
  rw [hout] at he
  have hpre : pre = [] := by
    cases pre with
    | nil => rfl
    | cons n' pre => simp [notes] at he
  rw [hpre, List.append_nil]
  obtain ⟨c, ev⟩ := n
  obtain rfl : c = caller := (mem_notes hmem).1
  exact submissionSound_own h ha i submission rfl

/-! ## A question of another thread -/

theorem depositBound_noted (hd : DbNamed w.db) {id step r}
    (hs : handler (.bindAndResume id step) w x = some (r, w', out)) {row} (hrow : row ∈ w.db.items)
    (hid : row.itemId = id) (hst : row.status = .actionRequired)
    (hafter : ∃ row' ∈ w'.db.items, row'.itemId = row.itemId ∧ row'.status = .running) :
    .depositBound id step ∈ out := by
  simp only [handler] at hs
  rcases World.run_cases hs with ⟨rfl, -, -⟩ | ⟨rfl, rfl, -⟩
  · obtain ⟨row', hrow', hid', hrun⟩ := hafter
    cases hd.items.eq hrow' hrow hid'
    rw [hst] at hrun
    cases hrun
  · have haff : w.db.affectsItem id (fun i => decide (i.status = .actionRequired)) = true :=
      affectsItem_iff.mpr ⟨row, by rw [← hid]; exact hd.items.lookup hrow, by simpa using hst⟩
    simp only [Db.runBind, Db.bindAndResume, haff, if_true, List.mem_singleton]

theorem rowsRecorded_other (hd : DbNamed w.db) (hi : RowsRecorded es w.db) (hb : Bystander e)
    (hg : ∀ id next, e = .bindAndResume id next → ∀ row ∈ w.db.items, row.itemId = id →
      row.status = .actionRequired → row.mayBind next = true)
    (hs : handler e w x = some (r, w', out)) : RowsRecorded (es ++ notes caller out) w'.db := by
  have hname : ∀ row ∈ w.db.items, row.sourceType = .stabilityPool →
      row.itemId = itemIdOf row.federationId .stabilityPool := fun row hrow hsrc => by
    rw [← hsrc]
    exact hd.rows row hrow
  refine rowsRecorded_step hd hi hs ?_ ?_ ?_
  · intro row hrow hsrc hact step hu hafter he
    rw [hname row hrow hsrc] at he
    rcases he with he | ⟨expected, he, -⟩
    · exact absurd he ((hb.untouched _).update step)
    · exact absurd he ((hb.untouched _).compareAndSet expected step)
  · rintro row hrow hsrc hst step hu hafter rfl
    have hmay := hg _ _ rfl row hrow rfl hst
    simp only [AllocationItem.mayBind, Bool.and_eq_true, Option.any_eq_true, decide_eq_true_eq] at hmay
    obtain ⟨⟨-, hnone⟩, operationId, -, hstep⟩ := hmay
    have hid := Option.isNone_iff_eq_none.mp hnone
    have hno : ∀ n ∈ notes caller out, ∀ i submission, n.2 ≠ .depositSubmitted i submission :=
      no_submission hd hs (by simp)
    have hbind : step = { (StepJson.readStability row.step).1 with
        spDepositAmount := some row.committedAmount
        spDepositMinFeeRatePpb := (StepJson.readStability row.step).1.spDepositMinFeeRatePpb.or (some 0)
        spDepositOperationId := some operationId
        spDepositStatus := some .initiated } := by
      rw [hstep, StabilityStep.bind]
      unfold StabilityStep.advanceSpDepositStatus
      simp [hid]
    refine (hi row hrow hsrc).restart hid hu (fun n hn => hno n hn _) (by rw [hbind]) (.inl ⟨⟨caller, step, ?_⟩, ?_⟩)
    · rw [sinceInserted_append hu, ← hname row hrow hsrc]
      exact List.mem_append_right _ (List.mem_map_of_mem (depositBound_noted hd hs hrow rfl hst hafter))
    · rw [hbind]
      simp
  · rintro row hrow hsrc submission rfl
    exact absurd rfl (hb.submit _ _)

theorem trace_other (hT : Trace.Each SubmissionSound es) (hd : DbNamed w.db) (hb : Bystander e)
    (hs : handler e w x = some (r, w', out)) : Trace.Each SubmissionSound (es ++ notes caller out) :=
  hT.append fun pre n post he i submission hn =>
    absurd hn (no_submission hd hs hb.submit n (by rw [he]; simp) i submission)

/-! ## One row -/

theorem Forward.refl (s : StabilityStep) : Forward s s :=
  ⟨fun _ => rfl, fun _ => rfl, fun _ r hr => ⟨r, hr, Nat.le_refl r⟩⟩

theorem forward_of_none {s s'} (h : s.spDepositOperationId = none) : Forward s s' := by
  have hno : ¬ s.spDepositOperationId.isSome = true := by simp [h]
  exact ⟨fun h => absurd h hno, fun h => absurd h hno, fun h => absurd h hno⟩

theorem StepMove.forward {s s'} (h : StepMove s s') : Forward s s' :=
  ⟨fun _ => h.operationId, fun _ => submission_congr h.operationId h.amount h.minFeeRatePpb, fun _ => h.rank⟩

theorem Forward.trans {a b c} (h₁ : Forward a b) (h₂ : Forward b c) : Forward a c := by
  have hb : a.spDepositOperationId.isSome = true → b.spDepositOperationId.isSome = true := fun h => by
    rw [h₁.operationId h]
    exact h
  refine ⟨fun h => (h₂.operationId (hb h)).trans (h₁.operationId h),
    fun h => (h₂.submission (hb h)).trans (h₁.submission h), fun h r hr => ?_⟩
  obtain ⟨r', hr', hle⟩ := h₁.rank h r hr
  obtain ⟨r'', hr'', hle'⟩ := h₂.rank (hb h) r' hr'
  exact ⟨r'', hr'', hle.trans hle'⟩

theorem ItemChange.forward {row row'} (hc : ItemChange e row row') (hstep : ∀ step, row.status.active = true →
      (e = .updateItemStep row.itemId step ∨
        ∃ expected, e = .compareAndSetItemStep row.itemId expected step ∧ row.step = some expected) →
      Forward (StepJson.readStability row.step).1 (StepJson.readStability (some step)).1)
    (hbind : ∀ step, row.status = .actionRequired → e = .bindAndResume row.itemId step →
      (StepJson.readStability row.step).1.spDepositOperationId = none) :
    Forward (StepJson.readStability row.step).1 (StepJson.readStability row'.step).1 := by
  rcases hc.step_cases with h | ⟨step, he, hact, h⟩ | ⟨step, he, hst, -, h⟩ <;> rw [h]
  · exact .refl _
  · exact hstep step hact he
  · exact forward_of_none (hbind step hst he)

variable {row row' : AllocationItem}

theorem forward_own (h : Holds es w caller d) (ha : d.allows e) (hrow : row ∈ w.db.items)
    (hc : ItemChange e row row') :
    Forward (StepJson.readStability row.step).1 (StepJson.readStability row'.step).1 := by
  refine hc.forward (fun step hact he => ?_) fun step _ he => ?_
  · rcases he with rfl | ⟨expected, rfl, -⟩
    · obtain ⟨t, new, ⟨ht, hid⟩, rfl, hm⟩ := ha
      rw [((h.turn t ht).loaded.row row hrow hid.symm).2.2 hact]
      exact hm.forward
    obtain ⟨t, ⟨ht, hid⟩, rfl, hnext⟩ := ha
    rw [((h.turn t ht).loaded.row row hrow hid.symm).2.2 hact]
    rcases hnext with rfl | ⟨submission, hb, rfl⟩
    · exact .refl _
    · exact forward_of_none hb.unrecorded
  · subst he
    exact ha.elim

theorem forward_other (hd : DbNamed w.db) (hb : Bystander e)
    (hg : ∀ id next, e = .bindAndResume id next → ∀ row ∈ w.db.items, row.itemId = id →
      row.status = .actionRequired → row.mayBind next = true)
    (hrow : row ∈ w.db.items) (hsrc : row.sourceType = .stabilityPool) (hc : ItemChange e row row') :
    Forward (StepJson.readStability row.step).1 (StepJson.readStability row'.step).1 := by
  refine hc.forward (fun step _ he => ?_) fun step hst he => ?_
  · rw [hd.rows row hrow, hsrc] at he
    rcases he with he | ⟨expected, he, -⟩
    · exact absurd he ((hb.untouched _).update step)
    · exact absurd he ((hb.untouched _).compareAndSet expected step)
  · have hmay := hg _ _ he row hrow rfl hst
    simp only [AllocationItem.mayBind, Bool.and_eq_true] at hmay
    exact Option.isNone_iff_eq_none.mp hmay.1.2

theorem ItemChange.completes (hc : ItemChange e row row')
    (hfail : ∀ status failure, e = .setItemFailure row.itemId status failure → status ≠ .completed)
    (hst : row.status ≠ .completed) (hst' : row'.status = .completed) :
    row.status.active = true ∧ ∃ kind fulfilled evidence, e = .completeItem row.itemId kind fulfilled evidence := by
  cases hc with
  | same h => rw [h] at hst'; exact absurd hst' hst
  | running _ _ _ h => rw [h] at hst'; cases hst'
  | step _ _ _ _ h => rw [h] at hst'; exact absurd hst' hst
  | completed kind fulfilled evidence he _ hact => exact ⟨hact, kind, fulfilled, evidence, he⟩
  | failed status failure he _ _ h => rw [h] at hst'; exact absurd hst' (hfail status failure he)
  | reset _ _ h => rw [h] at hst'; cases hst'
  | stopped _ h => rcases h with h | h <;> rw [h] at hst' <;> cases hst'
  | bound _ _ _ _ h => rw [h] at hst'; cases hst'

theorem done_own (h : Holds es w caller d) (hi : RowsRecorded es w.db) (ha : d.allows e) (hrow : row ∈ w.db.items)
    (hsrc : row.sourceType = .stabilityPool) (hc : ItemChange e row row') (hst : row.status ≠ .completed)
    (hst' : row'.status = .completed) : DepositDone es w.db row (StepJson.readStability row.step).1 := by
  obtain ⟨hact, kind, fulfilled, evidence, rfl⟩ := hc.completes (fun status failure he => by
    subst he
    rcases ha.1 with rfl | rfl <;> simp) hst hst'
  obtain ⟨-, t, ⟨ht, hid⟩, hfund, hdone⟩ := ha
  have hturn := h.turn t ht
  have hrec := hturn.loaded.recorded hi hrow hsrc hid.symm hact
  have hamount : fulfilled = row.committedAmount := by
    have := hrec.amount hdone.recorded
    rw [hdone.amount] at this
    exact Option.some.inj this
  rw [(hturn.loaded.row row hrow hid.symm).2.2 hact]
  refine ⟨hid ▸ hturn.funded hfund, ?_, ⟨hdone.recorded, hrec.amount hdone.recorded, hdone.status⟩, ?_⟩
  · rcases hrec.origin hdone.recorded with ⟨hb, -⟩ | ⟨-, ⟨a, ha, hle⟩, -⟩
    · obtain ⟨a, ha⟩ := Option.isSome_iff_exists.mp hdone.claimed
      exact ⟨a, ha, .inr hb⟩
    · exact ⟨a, ha, .inl hle⟩
  · obtain ⟨provided, hp, hle⟩ := hdone.reported
    exact ⟨provided, hp, hamount ▸ hle⟩

theorem not_completed_other (hd : DbNamed w.db) (hb : Bystander e) (hrow : row ∈ w.db.items)
    (hsrc : row.sourceType = .stabilityPool) (hc : ItemChange e row row') (hst : row.status ≠ .completed) :
    row'.status ≠ .completed := fun hst' => by
  have hname : row.itemId = itemIdOf row.federationId .stabilityPool := by rw [← hsrc]; exact hd.rows row hrow
  obtain ⟨-, kind, fulfilled, evidence, he⟩ := hc.completes (fun status failure he => by
    rw [hname] at he
    exact absurd he ((hb.untouched _).failure status failure)) hst hst'
  rw [hname] at he
  exact hb.complete _ _ _ _ he

theorem stepWritten (hd : DbNamed w.db) (hs : handler e w x = some (r, w', out)) {id expected next}
    (hev : .stepSet id expected next ∈ out) :
    StepWritten w.db w'.db id expected next := by
  obtain ⟨rfl, haff⟩ := handler_emits hd.operations hs _ hev
  obtain ⟨row, hrow, hg⟩ := affectsItem_iff.mp haff
  have hg' := hg
  simp only [Bool.and_eq_true, decide_eq_true_eq] at hg'
  refine ⟨⟨row, hrow, hg'⟩, ?_⟩
  simp only [handler] at hs
  rcases World.run_cases hs with ⟨-, rfl, -⟩ | ⟨rfl, -, -⟩
  · cases hev
  have hid := (Table.lookup_mem hrow).2
  refine ⟨{ row with step := some next, updatedAt := x.now }, ?_, hg'.1, rfl⟩
  have hlook : (w.db.updateItem id (fun i => i.status.active && decide (i.step = some expected))
      (fun i => { i with step := some next, updatedAt := x.now })).item id = (w.db.item id).map _ :=
    Table.lookup_update fun _ _ => rfl
  show (w.db.updateItem _ _ _).item id = _
  rw [hlook, hrow, Option.map_some]
  simp [hid, hg'.1, hg'.2]

end handler

/-! ## Steps of the daemon -/

structure DepositInv (es : List Note) (s : Daemon) : Prop where
  rows : RowsRecorded es s.world.db
  pass : ∀ t ∈ s.threads, t.caller.worker = some .stabilityPool →
    ∃ d, t.task.Follows deposits d (fun _ _ => True) ∧ Holds es s.world t.caller d
  trace : Trace.Each SubmissionSound es

section daemon

variable {env : Env} {es out : List Note} {s t : Daemon}

structure SamePass (w w' : World) : Prop where
  items : w'.db.items = w.db.items
  operations : w'.db.operations = w.db.operations
  loaded : w'.loadedStability = w.loadedStability

theorem Holds.same {w w' caller d} (h : Holds es w caller d) (hw : SamePass w w') : Holds es w' caller d := by
  have hload : ∀ item, HeldItem w item → HeldItem w' item := fun item hl =>
    ⟨hl.named, by rw [hw.loaded]; exact hl.loaded, by rw [hw.items]; exact hl.row⟩
  refine ⟨fun item hi => hload item (h.waiting item hi), fun t ht => ?_, h.apart⟩
  have hturn := h.turn t ht
  refine ⟨hload _ hturn.loaded, fun o ho => ?_, fun hf => ?_, fun hf => ?_⟩
  · unfold OperationOf Db.operation
    rw [hw.operations]
    exact hturn.operation o ho
  · unfold FundedItem
    rw [hw.operations]
    exact hturn.funded hf
  · exact ⟨(hturn.fenced hf).last, (hturn.fenced hf).recorded, by rw [hw.items]; exact (hturn.fenced hf).row⟩

theorem samePass_unload (w : World) {worker} (h : worker ≠ some .stabilityPool) :
    SamePass w (Daemon.unload w worker) := by
  rcases worker with _ | (_ | _)
  · exact ⟨rfl, rfl, rfl⟩
  · exact ⟨rfl, rfl, rfl⟩
  · exact absurd rfl h

theorem samePass_advance {caller task} (h : caller.worker ≠ some .stabilityPool) :
    SamePass s.world (s.advance caller task).world := by
  cases task with
  | done m a => exact samePass_unload _ h
  | await m e k => exact ⟨rfl, rfl, rfl⟩

theorem reaches_dbNamed {guard} (h : (machine env guard).Reaches es s) :
    ∃ c, CrowdReaches (fun _ _ _ => True) es c ∧ Sim s c ∧ DbNamed s.world.db := by
  obtain ⟨c, hr, hsim⟩ := reaches_crowd (G := fun _ _ _ => True) (fun _ _ _ _ _ _ => trivial) answering h
  have hn := hr.named
  have hk := hr.sendInv.rows.keyed
  have hi := hr.itemsKeyed
  refine ⟨c, hr, hsim, ?_⟩
  rw [← hsim.world]
  exact ⟨hk, hi, hn.rows, hn.allocated⟩

theorem Sim.one_pass {G c} (hr : CrowdReaches G es c) (hsim : Sim s c) {t₁ t₂} (h₁ : t₁ ∈ s.threads)
    (h₂ : t₂ ∈ s.threads) {kind} (hk₁ : t₁.caller.worker = some kind) (hk₂ : t₂.caller.worker = some kind) :
    t₁.caller = t₂.caller := by
  obtain ⟨l₁, hm₁, -⟩ := hsim.member h₁
  obtain ⟨l₂, hm₂, -⟩ := hsim.member h₂
  exact congrArg Prod.fst (hr.wellFormed.serial _ hm₁ _ hm₂ kind hk₁ hk₂)

theorem unreplaced_of_guard {e x} (hg : depositGuard s e x = true) : Unreplaced s.world e := by
  rintro config revision request rfl
  simpa [depositGuard] using hg

theorem mayBind_of_guard {e x} (hd : DbNamed s.world.db) (hg : depositGuard s e x = true) :
    ∀ id next, e = .bindAndResume id next → ∀ row ∈ s.world.db.items, row.itemId = id →
      row.status = .actionRequired → row.mayBind next = true := by
  rintro id next rfl row hrow rfl hst
  have hlook : s.world.db.item row.itemId = some row := hd.items.lookup hrow
  simp only [depositGuard, hlook, Option.all_some, hst, Bool.or_eq_true, decide_eq_true_eq] at hg
  simpa using hg

theorem depositInv_resume (hr : (machine env depositGuard).Reaches es s) (hi : DepositInv es s) {th}
    (hth : th ∈ s.threads) {x} (hs : resumeThread s depositGuard th x = some (t, out)) :
    DepositInv (es ++ out) t := by
  obtain ⟨c, hcr, hsim, hd⟩ := reaches_dbNamed hr
  obtain ⟨l, hl, hf⟩ := hsim.member hth
  obtain ⟨caller, task⟩ := th
  cases task with
  | done m a => cases hs
  | await m e k =>
    simp only [resumeThread] at hs
    split at hs
    · rename_i hg
      split at hs
      · cases hs
      rename_i r w out' hh
      cases hs
      by_cases hw : caller.worker = some .stabilityPool
      · obtain ⟨d, hfol, hold⟩ := hi.pass _ hth hw
        have hans : answers e r := by
          have hh' : handler e c.world x = some (r, w, out') := by rw [hsim.world]; exact hh
          exact answering es c e x r w out' hcr hh'
        refine ⟨?_, fun t' ht' hw' => ?_, trace_own hi.trace hold hd hfol.1 hh⟩
        · rw [advance_db]
          exact rowsRecorded_own hold hd hi.rows hfol.1 hh
        rcases mem_advance ht' with ⟨rfl, hworld⟩ | ⟨ht', hne⟩
        · refine ⟨d.after e r, hfol.2 r hans, ?_⟩
          rw [hworld]
          exact hold.byOwn hd hi.rows hfol.1 hh
        · exact absurd (hsim.one_pass hcr ht' hth hw' hw) hne
      have hb : Bystander e := by
        refine bystander_of_allows hcr.named hl hf.1 fun hlw => hw ?_
        rw [← hcr.wellFormed.worker _ hl]
        exact hlw
      refine ⟨?_, fun t' ht' hw' => ?_, trace_other hi.trace hd hb hh⟩
      · rw [advance_db]
        exact rowsRecorded_other hd hi.rows hb (mayBind_of_guard hd hg) hh
      rcases mem_advance ht' with ⟨rfl, -⟩ | ⟨ht', hne⟩
      · exact absurd hw' hw
      · obtain ⟨d, hfol, hold⟩ := hi.pass t' ht' hw'
        exact ⟨d, hfol, Holds.same (hold.byOther hd hh (unreplaced_of_guard hg) hb hne.symm)
          (samePass_advance (s := { s with world := w }) hw)⟩
    · cases hs

theorem depositInv_start (hi : DepositInv es s) {call} (hrun : call.worker.any s.running = false) :
    DepositInv es (s.start env call) := by
  set s₁ : Daemon := { s with
    threads := s.threads ++ [⟨⟨s.next, call.worker⟩, call.job env ()⟩], next := s.next + 1 } with hs₁
  have hstart : s.start env call = s₁.advance ⟨s.next, call.worker⟩ (call.job env ()) := rfl
  rw [hstart]
  refine ⟨?_, fun t' ht' hw' => ?_, hi.trace⟩
  · rw [advance_db]
    exact hi.rows
  rcases mem_advance ht' with ⟨rfl, hworld⟩ | ⟨ht', hne⟩
  · -- only the stability pass has this worker
    have hcall : call = .stabilityPass := by
      cases call <;> first | rfl | cases hw'
    subst hcall
    exact ⟨{}, follows_stabilityPass.2, holds_empty⟩
  rcases Lib.mem_snoc.mp ht' with ht' | rfl
  · obtain ⟨d, hfol, hold⟩ := hi.pass t' ht' hw'
    have hother : call.worker ≠ some .stabilityPool := fun he => by
      rw [he] at hrun
      exact absurd hw' (by simpa using List.any_eq_false.mp hrun t' ht')
    exact ⟨d, hfol, Holds.same hold (samePass_advance (s := s₁) hother)⟩
  · exact absurd rfl hne

theorem DepositInv.same (hi : DepositInv es s) (hthreads : ∀ t' ∈ t.threads, t' ∈ s.threads)
    (hw : SamePass s.world t.world) : DepositInv es t := by
  refine ⟨?_, fun t' ht' hw' => ?_, hi.trace⟩
  · unfold RowsRecorded
    rw [hw.items]
    exact hi.rows
  · obtain ⟨d, hfol, hold⟩ := hi.pass t' (hthreads t' ht') hw'
    exact ⟨d, hfol, hold.same hw⟩

theorem depositInv_step (hr : (machine env depositGuard).Reaches es s) (hi : DepositInv es s) {a}
    (hs : step env depositGuard s a = some (t, out)) : DepositInv (es ++ out) t := by
  have hquiet : ∀ t : Daemon, t.threads = s.threads → SamePass s.world t.world → DepositInv (es ++ []) t :=
    fun t ht hw => by
      rw [List.append_nil]
      exact hi.same (by rw [ht]; exact fun _ h => h) hw
  cases a with
  | begin call =>
    simp only [step] at hs
    split at hs
    · cases hs
    rename_i hrun
    cases hs
    rw [List.append_nil]
    exact depositInv_start hi (by simpa using hrun)
  | resume number x =>
    obtain ⟨th, hth, hs⟩ := Option.bind_eq_some_iff.mp hs
    exact depositInv_resume hr hi (List.mem_of_find?_eq_some hth) hs
  | drop number =>
    obtain ⟨th, hth, hs⟩ := Option.bind_eq_some_iff.mp hs
    split at hs
    · cases hs
    rename_i hnone
    cases hs
    rw [List.append_nil]
    refine hi.same (fun t' ht' => List.mem_of_mem_filter ht') (samePass_unload _ fun he => ?_)
    rw [he] at hnone
    exact hnone rfl
  | crash =>
    cases hs
    rw [List.append_nil]
    exact ⟨hi.rows, by simp, hi.trace⟩
  | debit | forget =>
    simp only [step] at hs
    split at hs <;> cases hs
    exact hquiet _ rfl ⟨rfl, rfl, rfl⟩
  | deposit | setSetup =>
    cases hs
    exact hquiet _ rfl ⟨rfl, rfl, rfl⟩

theorem inserted_noted {e evs kept new config revision request items now}
    (hacc : Accepted e evs kept new config revision request items now) {p} (hp : p ∈ items) {f source}
    (hname : p.itemId = itemIdOf f source) {caller : Caller} : ¬ Uninserted f (notes caller evs) := by
  have hf := (itemIdOf_inj (((Db.planItems_planned hacc.plan).1 p hp).itemId.symm.trans hname)).1
  obtain ⟨before, hev, -⟩ := hacc.inserted
  refine fun hu => hu (caller, .allocationInserted f) ?_ rfl
  rw [hev, hf]
  exact List.mem_map_of_mem (List.mem_append_right _ List.mem_cons_self)

theorem row_step (hr : (machine env depositGuard).Reaches es s) (hi : DepositInv es s) {a}
    (hs : step env depositGuard s a = some (t, out)) {row row'} (hrow : row ∈ s.world.db.items)
    (hrow' : row' ∈ t.world.db.items) (hid : row'.itemId = row.itemId) (hsrc : row.sourceType = .stabilityPool) :
    (Uninserted row.federationId out →
      Forward (StepJson.readStability row.step).1 (StepJson.readStability row'.step).1) ∧
    (row.status ≠ .completed → row'.status = .completed →
      DepositDone es s.world.db row (StepJson.readStability row.step).1) := by
  obtain ⟨c, hcr, hsim, hd⟩ := reaches_dbNamed hr
  cases step_cases hs with
  | quiet _ _ hitems =>
    rw [hitems] at hrow'
    cases hd.items.eq hrow' hrow hid
    exact ⟨fun _ => .refl _, fun hne he => absurd he hne⟩
  | ask th m e k x r w evs hth htask hg hh => ?_
  rw [advance_db] at hrow'
  rcases (handler_items hd.operations hh).back hrow' with
    ⟨row₀, hrow₀, hc, -⟩ | ⟨kept, new, config, revision, request, items, now, hacc, p, hp, rfl⟩
  · cases hd.items.eq hrow₀ hrow (hc.kept.itemId.symm.trans hid)
    obtain ⟨l, hl, hf⟩ := hsim.member hth
    rw [htask] at hf
    by_cases hw : th.caller.worker = some .stabilityPool
    · obtain ⟨d, hfol, hold⟩ := hi.pass th hth hw
      rw [htask] at hfol
      exact ⟨fun _ => forward_own hold hfol.1 hrow hc, fun hne he => done_own hold hi.rows hfol.1 hrow hsrc hc hne he⟩
    have hb : Bystander e := by
      refine bystander_of_allows hcr.named hl hf.1 fun hlw => hw ?_
      rw [← hcr.wellFormed.worker _ hl]
      exact hlw
    exact ⟨fun _ => forward_other hd hb (mayBind_of_guard hd hg) hrow hsrc hc,
      fun hne he => absurd he (not_completed_other hd hb hrow hsrc hc hne)⟩
  -- a row of the same name was inserted
  have hname := hd.rows row hrow
  rw [← hid] at hname
  exact ⟨fun hu => absurd hu (inserted_noted hacc hp hname), fun _ he => by cases he⟩

theorem reaches_depositInv (h : (machine env depositGuard).Reaches es s) : DepositInv es s := by
  refine Machine.Reaches.induct (I := DepositInv) ?_ (fun es s a t out hr hi hs => depositInv_step hr hi hs) h
  rintro s ⟨hw, ht, -⟩
  refine ⟨?_, ?_, Trace.Each.nil⟩
  · rw [hw]
    intro row hrow
    cases hrow
  · rw [ht]
    simp

theorem row_before (hr : (machine env depositGuard).Reaches es s) {a}
    (hs : step env depositGuard s a = some (t, out)) {row'} (hrow' : row' ∈ t.world.db.items) {f source}
    (hname : row'.itemId = itemIdOf f source) (hu : Uninserted f out) :
    ∃ row ∈ s.world.db.items, KeptItem row row' := by
  obtain ⟨c, hcr, hsim, hd⟩ := reaches_dbNamed hr
  cases step_cases hs with
  | quiet _ _ hitems => exact ⟨row', hitems ▸ hrow', .refl row'⟩
  | ask th m e k x r w evs hth htask hg hh => ?_
  rw [advance_db] at hrow'
  rcases (handler_items hd.operations hh).back hrow' with
    ⟨row, hrow, hc, -⟩ | ⟨kept, new, config, revision, request, items, now, hacc, p, hp, rfl⟩
  · exact ⟨row, hrow, hc.kept⟩
  · exact absurd hu (inserted_noted hacc hp hname)

theorem run_forward (hr : (machine env depositGuard).Reaches es s) {fs}
    (h : (machine env depositGuard).Run s fs t) {row} (hrow : row ∈ s.world.db.items)
    (hsrc : row.sourceType = .stabilityPool) (hu : Uninserted row.federationId fs) {row'}
    (hrow' : row' ∈ t.world.db.items) (hid : row'.itemId = row.itemId) :
    Forward (StepJson.readStability row.step).1 (StepJson.readStability row'.step).1 := by
  obtain ⟨_, _, _, hd⟩ := reaches_dbNamed hr
  have hname := hd.rows row hrow
  rw [hsrc] at hname
  induction h generalizing row' with
  | nil =>
    cases hd.items.eq hrow' hrow hid
    exact .refl _
  | @snoc mid t fs out a hrun hs ih =>
    have hmid := hr.run hrun
    have hu₁ : Uninserted row.federationId fs := fun n hn => hu n (List.mem_append_left _ hn)
    have hu₂ : Uninserted row.federationId out := fun n hn => hu n (List.mem_append_right _ hn)
    obtain ⟨row₁, hrow₁, hk⟩ := row_before hmid hs hrow' (hid.trans hname) hu₂
    have hid₁ := hk.itemId.symm.trans hid
    have hfor := ih hu₁ hrow₁ hid₁
    obtain ⟨_, _, _, hd₁⟩ := reaches_dbNamed hmid
    have hname₁ := hd₁.rows row₁ hrow₁
    rw [hid₁, hname] at hname₁
    obtain ⟨hf, hsrc₁⟩ := itemIdOf_inj hname₁
    refine hfor.trans ((row_step hmid (reaches_depositInv hmid) hs hrow₁ hrow' hk.itemId hsrc₁.symm).1 ?_)
    rw [← hf]
    exact hu₂

end daemon

end Manifold.Liquidity
