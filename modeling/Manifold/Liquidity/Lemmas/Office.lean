import Manifold.Liquidity.Lemmas.Allocations
import Manifold.Liquidity.Lemmas.SetupWrites

/-!
# The requests and the setup writers of one server
-/

namespace Manifold.Liquidity

open Lib

/-! ## The database -/

structure DbInv (db : Db) : Prop where
  operations : Table.Keyed (·.operationId) db.operations
  allocations : Table.Keyed (·.federationId) db.allocations
  owned : ∀ i ∈ db.items, ∃ a ∈ db.allocations, a.federationId = i.federationId

inductive DbMove (db db' : Db) : Prop where
  | frame (h : KeepsFrame db db') (hitems : Table.Derives (·.itemId) KeptItem db.items db'.items)
      (hops : Table.Keyed (·.operationId) db'.operations)
  | released (f : FederationId) (hidle : (db.allocationHolding f).isIdle = true) (h : db' = db.deleteAllocation f)
  | accepted (config : SetupConfig) (revision : Nat) (request : LiquidityRequest) (now : Timestamp)
      (stamp : SourceType → Timestamp) (plan : AcceptedPlan) (released : Bool)
      (h : db.acceptRequest config revision request now stamp = .ok (.accepted plan, db', released))
  | written (row : StoredSetup) (hrev : db.setup.revision < row.revision) (h : db' = { db with setup := row })

section

variable {db db' : Db}

theorem Db.mem_deleteAllocation {f a} :
    a ∈ (db.deleteAllocation f).allocations ↔ a ∈ db.allocations ∧ a.federationId ≠ f := by
  simp [Db.deleteAllocation]

theorem DbInv.delete (h : DbInv db) (f : FederationId) : DbInv (db.deleteAllocation f) where
  operations := h.operations
  allocations := h.allocations.filter
  owned i hi := by
    obtain ⟨hi, hne⟩ : i ∈ db.items ∧ i.federationId ≠ f := by simpa [Db.deleteAllocation] using hi
    obtain ⟨a, ha, he⟩ := h.owned i hi
    exact ⟨a, Db.mem_deleteAllocation.mpr ⟨ha, he ▸ hne⟩, he⟩

theorem DbInv.stamp (h : DbInv db) : DbInv db.stampReleasedItemOperations :=
  ⟨h.operations.update fun _ _ => rfl, h.allocations, h.owned⟩

theorem DbInv.insert (h : DbInv db) {request plan stamp}
    (hins : db.insertAllocation request plan stamp = .ok (some db')) : DbInv db' := by
  obtain ⟨rfl, hfree, -⟩ := Db.insertAllocation_eq hins
  refine ⟨h.operations, h.allocations.append hfree, ?_⟩
  intro i hi
  rcases List.mem_append.mp hi with hi | hi
  · obtain ⟨a, ha, he⟩ := h.owned i hi
    exact ⟨a, List.mem_append_left _ ha, he⟩
  · obtain ⟨p, -, rfl⟩ := List.mem_map.mp hi
    exact ⟨_, List.mem_append_right _ List.mem_cons_self, rfl⟩

theorem DbInv.accept (h : DbInv db) {config revision request now stamp acceptance released}
    (ha : db.acceptRequest config revision request now stamp = .ok (acceptance, db', released)) : DbInv db' := by
  rcases Db.acceptRequest_cases ha with ⟨-, rfl⟩ | ⟨plan, freed, -, -, rfl, -, hins⟩
  · exact h
  refine DbInv.insert ?_ hins
  cases released
  · exact h.stamp
  · exact h.stamp.delete _

theorem Db.acceptRequest_setup {config revision request now stamp acceptance released}
    (h : db.acceptRequest config revision request now stamp = .ok (acceptance, db', released)) :
    db'.setup = db.setup := by
  rcases Db.acceptRequest_cases h with ⟨-, rfl⟩ | ⟨plan, freed, -, -, rfl, -, hins⟩
  · rfl
  · rw [(Db.insertAllocation_eq hins).1]
    cases released <;> rfl

theorem DbMove.inv (hm : DbMove db db') (h : DbInv db) : DbInv db' := by
  cases hm with
  | frame hf hitems hops =>
    refine ⟨hops, hf.allocations ▸ h.allocations, fun i hi => ?_⟩
    obtain ⟨i₀, hi₀, hk⟩ := hitems.back i hi
    obtain ⟨a, ha, he⟩ := h.owned i₀ hi₀
    exact ⟨a, hf.allocations ▸ ha, he.trans hk.federationId.symm⟩
  | released f _ he => rw [he]; exact h.delete f
  | accepted config revision request now stamp plan released ha => exact h.accept ha
  | written row _ he => rw [he]; exact ⟨h.operations, h.allocations, h.owned⟩

theorem DbMove.setupMoves (h : DbMove db db') : SetupMoves db db' := by
  cases h with
  | frame h _ _ => exact .inl h.setup
  | released f _ h => rw [h]; exact .inl rfl
  | accepted config revision request now stamp plan released h => exact .inl (Db.acceptRequest_setup h)
  | written row hrev h => rw [h]; exact .inr hrev

theorem DbMove.allocation_kept (h : DbMove db db') {a} (ha : a ∈ db.allocations) :
    a ∈ db'.allocations ∨ (db.allocationHolding a.federationId).isIdle = true := by
  cases h with
  | frame h _ _ => exact .inl (h.allocations ▸ ha)
  | released f hidle h =>
    by_cases hf : a.federationId = f
    · exact .inr (hf ▸ hidle)
    · rw [h]
      exact .inl (Db.mem_deleteAllocation.mpr ⟨ha, hf⟩)
  | accepted config revision request now stamp plan released h =>
    rcases Db.acceptRequest_cases h with ⟨-, rfl⟩ | ⟨plan, freed, -, -, rfl, hidle, hins⟩
    · exact .inl ha
    rw [(Db.insertAllocation_eq hins).1]
    cases released with
    | false => exact .inl (List.mem_append_left _ ha)
    | true =>
      by_cases hf : a.federationId = request.target.federationId
      · have htakes := hidle rfl
        simp only [Db.takesOver, Bool.and_eq_true] at htakes
        exact .inr (hf ▸ htakes.2)
      · exact .inl (List.mem_append_left _ (Db.mem_deleteAllocation.mpr ⟨ha, hf⟩))
  | written row _ h => rw [h]; exact .inl ha

end

/-! ## What a call has established -/

def PreValidated (detailsHash : LiquidityRequest → ServiceResult String) (setup : StoredSetup)
    (request : LiquidityRequest) : Prop :=
  ∃ publicReady now, preValidationFailure detailsHash setup publicReady request now = .ok none

structure Checked (detailsHash : LiquidityRequest → ServiceResult String) (s : Office) (request : LiquidityRequest)
    (setup : StoredSetup) (config : SetupConfig) : Prop where
  snapshot : Snapshot s.world.db setup
  config : setup.config = some config
  prevalidated : PreValidated detailsHash setup request

def RequestPhase.Holds (detailsHash : LiquidityRequest → ServiceResult String)
    (es : List (Service.Note OfficeEvent)) (s : Office) (number : Nat) (request : LiquidityRequest) :
    RequestPhase → Prop
  | .readiness setup | .owner setup _ => Snapshot s.world.db setup
  | .verifying setup config => Checked detailsHash s request setup config
  | .verified setup config =>
    Checked detailsHash s request setup config ∧ (some number, .verified request setup.revision) ∈ es
  | .admitted setup config =>
    Checked detailsHash s request setup config ∧ (some number, .verified request setup.revision) ∈ es ∧
      s.admission = .open
  | _ => True

structure Owns (request : LiquidityRequest) (a : Allocation) : Prop where
  federationId : a.federationId = request.target.federationId
  requester : a.requesterPubkey = request.requesterPubkey
  details : a.detailsPayloadHash = request.detailsPayloadHash

def RequestPhase.Served (db : Db) (request : LiquidityRequest) : RequestPhase → Prop
  | .statusRow _ => ∃ a ∈ db.allocations, Owns request a
  | .statusItems _ row => row ∈ db.allocations ∧ Owns request row
  | _ => True

def OfficeCall.Holds (detailsHash : LiquidityRequest → ServiceResult String)
    (es : List (Service.Note OfficeEvent)) (s : Office) (number : Nat) : OfficeCall → Prop
  | .liquidity request phase => phase.Holds detailsHash es s number request
  | .setup verb phase => phase.Holds s.world.db verb

def OfficeCall.Served (db : Db) : OfficeCall → Prop
  | .liquidity request phase => phase.Served db request
  | .setup .. => True

section

variable {es es' : List (Service.Note OfficeEvent)} {s s' : Office} {number : Nat} {request : LiquidityRequest}
  {detailsHash : LiquidityRequest → ServiceResult String} {phase next : RequestPhase} {call : OfficeCall} {db : Db}

theorem OfficeCall.Holds.stable (h : call.Holds detailsHash es s number) (hes : ∀ n ∈ es, n ∈ es')
    (hm : SetupMoves s.world.db s'.world.db)
    (had : s'.admission = s.admission ∨ call.holdsAdmission = false) : call.Holds detailsHash es' s' number := by
  have hchecked : ∀ {request setup config}, Checked detailsHash s request setup config →
      Checked detailsHash s' request setup config := fun hc => ⟨hc.snapshot.moves hm, hc.config, hc.prevalidated⟩
  cases call with
  | setup verb phase => exact SetupPhase.Holds.moves h hm
  | liquidity request phase =>
    cases phase with
    | loadSetup | conflicted | statusRow _ | statusItems _ _ => trivial
    | readiness _ | owner _ _ => exact Snapshot.moves h hm
    | verifying _ _ => exact hchecked h
    | verified _ _ => exact ⟨hchecked h.1, hes _ h.2⟩
    | admitted _ _ =>
      rcases had with he | hno
      · exact ⟨hchecked h.1, hes _ h.2.1, he ▸ h.2.2⟩
      · cases hno

theorem OfficeCall.Served.stable (h : call.Served s.world.db)
    (hkeep : ∀ a ∈ s.world.db.allocations, call.reading a.federationId = true → a ∈ s'.world.db.allocations) :
    call.Served s'.world.db := by
  cases call with
  | setup verb phase => trivial
  | liquidity request phase =>
    have hreads : ∀ a, Owns request a → phase.betweenReads = true →
        (OfficeCall.liquidity request phase).reading a.federationId = true := fun a ho hb => by
      simp [OfficeCall.reading, hb, ho.federationId]
    cases phase with
    | statusRow held =>
      obtain ⟨a, ha, ho⟩ := h
      exact ⟨a, hkeep a ha (hreads a ho rfl), ho⟩
    | statusItems held row => exact ⟨hkeep row h.1 (hreads row h.2 rfl), h.2⟩
    | _ => trivial

/-! ## One await of a request -/

inductive RequestStep (detailsHash : LiquidityRequest → ServiceResult String) (admission : AllocationAdmission)
    (db : Db) (request : LiquidityRequest) : RequestPhase → RequestPhase → Prop where
  | loaded : RequestStep detailsHash admission db request .loadSetup (.readiness db.setup)
  | judged (setup : StoredSetup) (publicReady : Bool) :
      RequestStep detailsHash admission db request (.readiness setup) (.owner setup publicReady)
  | matched (setup : StoredSetup) (publicReady : Bool) (a : Allocation) (ha : a ∈ db.allocations)
      (ho : Owns request a) :
      RequestStep detailsHash admission db request (.owner setup publicReady) (.statusRow false)
  | prevalidated (setup : StoredSetup) (publicReady : Bool) (config : SetupConfig)
      (hc : setup.config = some config) (hv : PreValidated detailsHash setup request) :
      RequestStep detailsHash admission db request (.owner setup publicReady) (.verifying setup config)
  | verified (setup : StoredSetup) (config : SetupConfig) :
      RequestStep detailsHash admission db request (.verifying setup config) (.verified setup config)
  | admitted (setup : StoredSetup) (config : SetupConfig) (ho : admission = .open) :
      RequestStep detailsHash admission db request (.verified setup config) (.admitted setup config)
  | conflicted (setup : StoredSetup) (config : SetupConfig) :
      RequestStep detailsHash admission db request (.admitted setup config) .conflicted
  | incumbent (a : Allocation) (ha : a ∈ db.allocations) (ho : Owns request a) :
      RequestStep detailsHash admission db request .conflicted (.statusRow true)
  | row (held : Bool) (a : Allocation) (ha : db.allocation request.target.federationId = some a) :
      RequestStep detailsHash admission db request (.statusRow held) (.statusItems held a)

inductive RequestEnds (detailsHash : LiquidityRequest → ServiceResult String) (admission : AllocationAdmission)
    (request : LiquidityRequest) (db : Db) (x : RequestChoice) (phase : RequestPhase) : Db × RequestNext → Prop where
  | goes (next : RequestPhase) (h : RequestStep detailsHash admission db request phase next) :
      RequestEnds detailsHash admission request db x phase (db, .inl next)
  | status (held : Bool) (row : Allocation) (hp : phase = .statusItems held row) :
      RequestEnds detailsHash admission request db x phase (db, .inr (.ok (.accepted (db.allocationStatus row))))
  | accepted (setup : StoredSetup) (config : SetupConfig) (plan : AcceptedPlan) (db' : Db) (released : Bool)
      (hp : phase = .admitted setup config)
      (h : db.acceptRequest config setup.revision request x.now x.stamp = .ok (.accepted plan, db', released)) :
      RequestEnds detailsHash admission request db x phase
        (db', .inr (.ok (.accepted (initialStatus request plan x.planned))))
  | refused (r : ServiceResult RequestOutcome) (hr : ∀ status, r ≠ .ok (.accepted status)) :
      RequestEnds detailsHash admission request db x phase (db, .inr r)

theorem answeredByExisting_some {disclosure held r}
    (h : answeredByExisting request disclosure held (db.allocation request.target.federationId) = some r) :
    (r = .inl (.statusRow held) ∧ ∃ a ∈ db.allocations, Owns request a) ∨
      ∃ e, r = .inr e ∧ ∀ status, e ≠ .ok (.accepted status) := by
  unfold answeredByExisting at h
  split at h
  · cases h
  · cases h
    exact .inr ⟨_, rfl, by simp⟩
  rename_i answer hne hbind
  cases h
  obtain ⟨a, ha, hans⟩ := Option.bind_eq_some_iff.mp hbind
  obtain ⟨hmem, hf⟩ := Table.lookup_mem ha
  suffices hkeys : a.requesterPubkey = request.requesterPubkey ∧
      a.detailsPayloadHash = request.detailsPayloadHash from .inl ⟨rfl, a, hmem, hf, hkeys.1, hkeys.2⟩
  unfold answerExisting at hans
  split at hans
  · rename_i hr
    split at hans
    · rename_i hd
      exact ⟨hr, hd⟩
    · cases hans
      exact absurd rfl (hne _)
  split at hans
  · cases hans
  · cases hans
    exact absurd rfl (hne _)

theorem resumeRequest_ends {admission x r} (h : resumeRequest detailsHash admission request db x phase = r) :
    RequestEnds detailsHash admission request db x phase r := by
  subst h
  unfold resumeRequest
  split
  · exact .refused _ (by simp)
  cases phase with
  | loadSetup => exact .goes _ .loaded
  | readiness setup => exact .goes _ (.judged setup x.publicReady)
  | owner setup publicReady =>
    dsimp only
    cases hans : answeredByExisting request .requesterOnly false (db.allocation request.target.federationId) with
    | none =>
      rw [Option.getD_none]
      unfold preValidated
      split
      · exact .refused _ (by simp)
      · exact .refused _ (by simp)
      · exact .refused _ (by simp)
      · rename_i config hpre hc
        exact .goes _ (.prevalidated setup publicReady config hc ⟨publicReady, x.now, hpre⟩)
    | some answer =>
      rcases answeredByExisting_some hans with ⟨rfl, a, ha, ho⟩ | ⟨e, rfl, he⟩
      · exact .goes _ (.matched setup publicReady a ha ho)
      · exact .refused e he
  | verifying setup config =>
    dsimp only
    split
    · exact .refused _ (by simp)
    · exact .goes _ (.verified setup config)
  | verified setup config =>
    dsimp only
    split
    · exact .goes _ (.admitted setup config rfl)
    · exact .refused _ (by simp)
  | admitted setup config =>
    dsimp only
    split
    · exact .refused _ (by simp)
    rename_i acceptance db' released h
    rcases Db.acceptRequest_cases h with ⟨hne, rfl⟩ | ⟨plan, -, rfl, -⟩
    · cases acceptance with
      | conflict => exact .goes _ (.conflicted setup config)
      | accepted plan => exact absurd rfl (hne plan)
      | _ => exact .refused _ (by simp)
    · exact .accepted setup config plan db' released rfl h
  | conflicted =>
    cases hans : answeredByExisting request .verified true (db.allocation request.target.federationId) with
    | none => exact .refused _ (by simp)
    | some answer =>
      rcases answeredByExisting_some hans with ⟨rfl, a, ha, ho⟩ | ⟨e, rfl, he⟩
      · exact .goes _ (.incumbent a ha ho)
      · exact .refused e he
  | statusRow held =>
    dsimp only
    split
    · exact .refused _ (by simp)
    · rename_i row hrow
      exact .goes _ (.row held row hrow)
  | statusItems held row => exact .status held row rfl

theorem RequestStep.holds (hstep : RequestStep detailsHash s.admission s.world.db request phase next)
    (h : phase.Holds detailsHash es s number request) :
    next.Holds detailsHash (es ++ (requestEvents request (.inl next)).map (fun e => (some number, e))) s number
      request := by
  cases hstep with
  | loaded => exact Snapshot.now _
  | judged => exact h
  | prevalidated setup publicReady config hc hv => exact ⟨h, hc, hv⟩
  | verified setup config => exact ⟨h, List.mem_append_right _ (by simp [requestEvents])⟩
  | admitted setup config ho => exact ⟨h.1, List.mem_append_left _ h.2, ho⟩
  | matched | conflicted | incumbent | row => trivial

theorem RequestStep.served (hk : DbInv db)
    (hstep : RequestStep detailsHash admission db request phase next) (h : phase.Served db request) :
    next.Served db request := by
  cases hstep with
  | matched setup publicReady a ha ho => exact ⟨a, ha, ho⟩
  | incumbent a ha ho => exact ⟨a, ha, ho⟩
  | row held row hrow =>
    obtain ⟨a, ha, ho⟩ := h
    have hlook : db.allocation request.target.federationId = some a :=
      ho.federationId ▸ hk.allocations.lookup ha
    rw [hlook] at hrow
    cases hrow
    exact ⟨ha, ho⟩
  | loaded | judged | prevalidated | verified | admitted | conflicted => trivial

theorem requestEvents_accepted {request' r status}
    (h : OfficeEvent.answered request (.ok (.accepted status)) ∈ requestEvents request' r) :
    request = request' ∧ r = .inr (.ok (.accepted status)) := by
  unfold requestEvents at h
  split at h
  · simp only [List.mem_singleton, OfficeEvent.answered.injEq] at h
    exact ⟨h.1, by rw [h.2]⟩
  · simp at h
  · cases h

end

/-! ## The first answer -/

section

variable {db db' : Db}

theorem itemIdOf_gateway_le (f : FederationId) : itemIdOf f .gateway ≤ itemIdOf f .stabilityPool := by
  refine String.not_lt.mp fun h => ?_
  rw [String.lt_iff] at h
  simp only [itemIdOf, String.toList_append, List.append_assoc] at h
  -- the tails decide the order
  refine List.append_left_le ?_ h
  decide

theorem planItems_sorted {config request items} (h : planItems config request = .ok items) :
    items.Pairwise (fun p q => p.itemId ≤ q.itemId) := by
  obtain ⟨gateway, hg, h⟩ := bind_eq_ok.mp h
  obtain ⟨stability, hs, h⟩ := bind_eq_ok.mp h
  cases h
  have hg := Db.planItem_eq hg
  have hs := Db.planItem_eq hs
  have hone : ∀ {l : List PlannedItem} {source : SourceType},
      (∀ p ∈ l, Db.Planned config request.target.federationId p ∧ p.sourceType = source ∧ l = [p]) →
      l.Pairwise (fun p q => p.itemId ≤ q.itemId) := by
    intro l source hl
    cases l with
    | nil => exact .nil
    | cons p l => rw [(hl p List.mem_cons_self).2.2]; exact List.pairwise_singleton _ _
  refine List.pairwise_append.mpr ⟨hone hg, hone hs, fun p hp q hq => ?_⟩
  rw [(hg p hp).1.itemId, (hs q hq).1.itemId, (hg p hp).2.1, (hs q hq).2.1]
  exact itemIdOf_gateway_le _

theorem accepted_status (hk : DbInv db) {config revision request now stamp plan released}
    (h : db.acceptRequest config revision request now stamp = .ok (.accepted plan, db', released)) :
    ∃ a ∈ db'.allocations, Owns request a ∧
      (∀ planned, initialStatus request plan planned = (db'.allocationStatus a).stampedAt planned) ∧
      (∀ i ∈ db'.itemsOf a.federationId, i.updatedAt = stamp i.sourceType) ∧
      ∀ b ∈ db'.allocations, b = a ∨ b ∈ db.allocations := by
  rcases Db.acceptRequest_cases h with ⟨hne, -⟩ | ⟨plan', freed, hplan, hitems, hfreed, -, hins⟩
  · exact absurd rfl (hne plan)
  cases hplan
  have hfk : DbInv freed := by
    rw [hfreed]
    cases released
    · exact hk.stamp
    · exact hk.stamp.delete _
  have hsub : ∀ b ∈ freed.allocations, b ∈ db.allocations := by
    rw [hfreed]
    cases released
    · exact fun b hb => hb
    · exact fun b hb => (Db.mem_deleteAllocation.mp hb).1
  obtain ⟨rfl, hfree, -⟩ := Db.insertAllocation_eq hins
  -- no item of the federation was there before
  have hitemsOf : (freed.items ++ plan.items.map (Db.newItem stamp request.target.federationId)).filter
      (fun i => i.federationId = request.target.federationId) =
      plan.items.map (Db.newItem stamp request.target.federationId) := by
    have hnone : freed.items.filter (fun i => i.federationId = request.target.federationId) = [] := by
      refine List.filter_eq_nil_iff.mpr fun i hi hf => ?_
      obtain ⟨a, ha, he⟩ := hfk.owned i hi
      exact hfree a ha (he.trans (by simpa using hf))
    rw [List.filter_append, hnone, List.nil_append]
    refine List.filter_eq_self.mpr fun i hi => ?_
    obtain ⟨p, -, rfl⟩ := List.mem_map.mp hi
    simp [Db.newItem]
  refine ⟨_, List.mem_append_right _ List.mem_cons_self, ⟨rfl, rfl, rfl⟩, fun planned => ?_, fun i hi => ?_, ?_⟩
  · have hsorted : (plan.items.map (Db.newItem stamp request.target.federationId)).insertionSort
        (fun i j => i.itemId ≤ j.itemId) = plan.items.map (Db.newItem stamp request.target.federationId) :=
      List.Pairwise.insertionSort_eq (List.pairwise_map.mpr (planItems_sorted hitems))
    simp only [Db.allocationStatus, Db.itemStatuses, Db.itemsOf, hitemsOf, hsorted, initialStatus,
      AllocationStatus.stampedAt, List.map_map]
    rfl
  · rw [Db.itemsOf, hitemsOf] at hi
    obtain ⟨p, -, rfl⟩ := List.mem_map.mp hi
    rfl
  intro b hb
  rcases List.mem_append.mp hb with hb | hb
  · exact .inr (hsub b hb)
  · exact .inl (List.mem_singleton.mp hb)

end

/-! ## The server -/

section

variable {es : List (Service.Note OfficeEvent)} {s : Office} {number : Nat}
  {detailsHash : LiquidityRequest → ServiceResult String} {call : OfficeCall}

theorem DbMove.refl {db} (h : DbInv db) : DbMove db db :=
  .frame ⟨rfl, rfl⟩ (.refl KeptItem.refl) h.operations

theorem handler_kept {w w' e r x out} (hk : Table.Keyed (·.operationId) w.db.operations)
    (hs : handler e w x = some (r, w', out)) (ha : e.accepts = false) :
    Table.Derives (·.itemId) KeptItem w.db.items w'.db.items := by
  obtain ⟨kept, new, hitems, hd, -, hnew⟩ := handler_items hk hs
  rcases hnew with rfl | ⟨config, revision, request, items, now, hacc⟩
  · rw [hitems, List.append_nil]
    exact hd.mono fun _ _ hc => hc.kept
  · rw [hacc.ask] at ha
    cases ha

/-- Questions other than an acceptance leave the frame alone, or release an idle allocation. -/
theorem handler_frees {w w' e r x out} (hs : handler e w x = some (r, w', out)) (ha : e.accepts = false) :
    KeepsFrame w.db w'.db ∨ ∃ f, e = .releaseAllocation f ∧ (w.db.allocationHolding f).isIdle = true ∧
      w'.db = w.db.deleteAllocation f := by
  by_cases hrel : ∃ f, e = .releaseAllocation f
  · obtain ⟨f, rfl⟩ := hrel
    rcases handler_release hs with h | ⟨hidle, h⟩
    · rw [h]
      exact .inl ⟨rfl, rfl⟩
    · exact .inr ⟨f, rfl, hidle, h⟩
  · exact .inl (handler_frame hs ha fun f he => hrel ⟨f, he⟩)

theorem handler_move {w w' e r x out} (hk : DbInv w.db) (hs : handler e w x = some (r, w', out))
    (ha : e.accepts = false) :
    DbMove w.db w'.db ∧ ∀ a ∈ w.db.allocations, a ∈ w'.db.allocations ∨
      e = .releaseAllocation a.federationId ∧ (w.db.allocationHolding a.federationId).isIdle = true := by
  rcases handler_frees hs ha with hframe | ⟨f, rfl, hidle, h⟩
  · exact ⟨.frame hframe (handler_kept hk.operations hs ha) (handler_keyed hk.operations hs),
      fun a ha => .inl (hframe.allocations ▸ ha)⟩
  refine ⟨.released f hidle h, fun a ha => ?_⟩
  by_cases hf : a.federationId = f
  · exact .inr ⟨by rw [hf], hf ▸ hidle⟩
  · rw [h]
    exact .inl (Db.mem_deleteAllocation.mpr ⟨ha, hf⟩)

theorem handler_allocations {w w' e r x out} (hs : handler e w x = some (r, w', out)) (ha : e.accepts = false) :
    ∀ a ∈ w'.db.allocations, a ∈ w.db.allocations := by
  rcases handler_frees hs ha with hframe | ⟨f, -, -, h⟩
  · exact fun a hmem => hframe.allocations ▸ hmem
  · exact fun a hmem => (Db.mem_deleteAllocation.mp (h ▸ hmem)).1

theorem resumeOffice_admission (x : OfficeChoice) : (resumeOffice detailsHash s x call).1.admission = s.admission := by
  cases call <;> rfl

theorem resumeOffice_move (hk : DbInv s.world.db) (h : call.Holds detailsHash es s number) (x : OfficeChoice) :
    DbMove s.world.db (resumeOffice detailsHash s x call).1.world.db := by
  cases call with
  | liquidity request phase =>
    show DbMove s.world.db (resumeRequest detailsHash s.admission request s.world.db x.request phase).1
    generalize hr : resumeRequest detailsHash s.admission request s.world.db x.request phase = r
    cases resumeRequest_ends hr with
    | accepted setup config plan db' released _ hacc =>
      exact .accepted config setup.revision request x.request.now x.request.stamp plan released hacc
    | _ => exact .refl hk
  | setup verb phase =>
    show DbMove s.world.db (verb.resume s.world.db x.setup phase).1
    rcases verb.resume_db h x.setup with he | ⟨row, he, ⟨_, _, hc⟩, -⟩
    · rw [he]; exact .refl hk
    rw [he]
    refine .written row ?_ rfl
    rw [SetupVerb.computed_revision hc]
    exact Nat.lt_succ_self _

theorem resumeOffice_kept (h : call.Holds detailsHash es s number) {x a} (ha : a ∈ s.world.db.allocations) :
    a ∈ (resumeOffice detailsHash s x call).1.world.db.allocations ∨
      ∃ request setup config, call = .liquidity request (.admitted setup config) ∧
        request.target.federationId = a.federationId ∧ s.world.db.takesOver request = true := by
  cases call with
  | liquidity request phase =>
    show a ∈ (resumeRequest detailsHash s.admission request s.world.db x.request phase).1.allocations ∨ _
    generalize hr : resumeRequest detailsHash s.admission request s.world.db x.request phase = r
    cases resumeRequest_ends hr with
    | accepted setup config plan db' released hp hacc =>
      rcases Db.acceptRequest_cases hacc with ⟨hne, -⟩ | ⟨plan', freed, -, -, rfl, htakes, hins⟩
      · exact absurd rfl (hne plan)
      rw [(Db.insertAllocation_eq hins).1]
      cases released with
      | false => exact .inl (List.mem_append_left _ ha)
      | true =>
        by_cases hf : a.federationId = request.target.federationId
        · exact .inr ⟨request, setup, config, by rw [hp], hf.symm, htakes rfl⟩
        · exact .inl (List.mem_append_left _ (Db.mem_deleteAllocation.mpr ⟨ha, hf⟩))
    | _ => exact .inl ha
  | setup verb phase =>
    left
    show a ∈ (verb.resume s.world.db x.setup phase).1.allocations
    rcases verb.resume_db h x.setup with he | ⟨row, he, -⟩ <;> rw [he] <;> exact ha

theorem resumeOffice_keeps (hk : DbInv s.world.db) {x s' next out}
    (hr : resumeOffice detailsHash s x call = (s', some next, out)) :
    (call.Holds detailsHash es s number →
      next.Holds detailsHash (es ++ out.map (fun e => (some number, e))) s' number) ∧
    (call.Served s.world.db → next.Served s'.world.db) := by
  cases call with
  | liquidity request phase =>
    simp only [resumeOffice, Prod.mk.injEq, Option.map_eq_some_iff, Sum.getLeft?_eq_some_iff] at hr
    obtain ⟨rfl, ⟨next, hn, rfl⟩, rfl⟩ := hr
    generalize hr : resumeRequest detailsHash s.admission request s.world.db x.request phase = r at hn ⊢
    cases resumeRequest_ends hr with
    | goes next hstep => cases hn; exact ⟨hstep.holds, hstep.served hk⟩
    | _ => cases hn
  | setup verb phase =>
    simp only [resumeOffice, Prod.mk.injEq, Option.map_eq_some_iff, Sum.getLeft?_eq_some_iff] at hr
    obtain ⟨rfl, ⟨next, hn, rfl⟩, rfl⟩ := hr
    exact ⟨fun h => SetupVerb.resume_holds h hn, fun _ => trivial⟩

/-- What is known of a call: what it established, and, where reads are kept apart, the allocation that it
matched. -/
def CallInv (detailsHash : LiquidityRequest → ServiceResult String) (isApart : Prop)
    (es : List (Service.Note OfficeEvent)) (s : Office) (number : Nat) (call : OfficeCall) : Prop :=
  call.Holds detailsHash es s number ∧ (isApart → call.Served s.world.db)

variable {guard : Server Office OfficeCall → OfficeTurn → Bool}
  {t : Server Office OfficeCall}

def IsApart (guard : Server Office OfficeCall → OfficeTurn → Bool) : Prop :=
  ∀ s a, guard s a = true → apart s a = true

theorem not_reading_of_takesOver (hg : apart t (.resume number x) = true) {request setup config}
    (hk : Table.Keyed (·.1) t.calls) (hc : (number, .liquidity request (.admitted setup config)) ∈ t.calls)
    (htakes : t.shared.world.db.takesOver request = true) :
    ∀ c ∈ t.calls, c.2.reading request.target.federationId = false := by
  simp only [apart, Server.phase_of_mem hk hc, htakes, Bool.not_true, Bool.false_or, List.all_eq_true,
    Bool.not_eq_true'] at hg
  exact hg

theorem office_inv (h : ((office detailsHash).machine guard).Reaches es t) :
    Service.Inv (fun _ s => DbInv s.world.db) (CallInv detailsHash (IsApart guard)) es t := by
  refine Service.Reaches.calls ?_ ?_ ?_ ?_ h
  · rintro s rfl
    exact ⟨List.nodup_nil, List.nodup_nil, by simp⟩
  · intro es t call p _ hi hg hp
    cases call with
    | requestLiquidity request => cases hp; exact ⟨trivial, fun _ => trivial⟩
    | setup verb =>
      obtain ⟨phase, hphase, rfl⟩ := Option.map_eq_some_iff.mp hp
      exact ⟨SetupVerb.start_holds hphase, fun _ => trivial⟩
  · intro es t number x call s' next out _ hi hg hc hr
    have hr : resumeOffice detailsHash t.shared x call = (s', next, out) := Option.some.inj hr
    obtain ⟨hholds, hserved⟩ := hi.calls _ hc
    have hs' : s' = (resumeOffice detailsHash t.shared x call).1 := by rw [hr]
    have hmove : DbMove t.shared.world.db s'.world.db := hs' ▸ resumeOffice_move hi.shared hholds x
    refine ⟨hmove.inv hi.shared, ?_, ?_⟩
    · rintro next rfl
      obtain ⟨hnext, hmatched⟩ := resumeOffice_keeps hi.shared hr
      exact ⟨hnext hholds, fun ha => hmatched (hserved ha)⟩
    intro c hmem hne
    obtain ⟨hch, hcs⟩ := hi.calls c hmem
    refine ⟨hch.stable (fun n hn => List.mem_append_left _ hn) hmove.setupMoves
      (.inl (hs' ▸ resumeOffice_admission x)), fun ha => (hcs ha).stable fun a hamem hread => ?_⟩
    rcases resumeOffice_kept hholds hamem with hkept | ⟨request, setup, config, rfl, hf, htakes⟩
    · exact hs' ▸ hkept
    -- the takeover would remove what this call is reading
    have := not_reading_of_takesOver (ha t _ hg) hi.keyed hc htakes c hmem
    rw [hf, hread] at this
    cases this
  intro es t b s' out _ hi hg hr
  obtain ⟨s'', hact, hr⟩ := Option.map_eq_some_iff.mp hr
  cases hr
  rw [List.map_nil, List.append_nil]
  cases b with
  | ask e x =>
    simp only [officeAct] at hact
    split at hact
    · cases hact
    rename_i hacc
    obtain ⟨⟨r, w', evs⟩, hh, rfl⟩ := Option.map_eq_some_iff.mp hact
    obtain ⟨hmove, hkept⟩ := handler_move hi.shared hh (by simpa using hacc)
    refine ⟨hmove.inv hi.shared, fun _ c hmem => ?_⟩
    obtain ⟨hch, hcs⟩ := hi.calls c hmem
    refine ⟨hch.stable (fun n hn => hn) hmove.setupMoves (.inl rfl), fun ha =>
      (hcs ha).stable fun a hamem hread => ?_⟩
    rcases hkept a hamem with hk | ⟨rfl, hidle⟩
    · exact hk
    have hap := ha t _ hg
    simp only [apart, hidle, Bool.not_true, Bool.false_or, List.all_eq_true, Bool.not_eq_true'] at hap
    rw [hap c hmem] at hread
    cases hread
  | closeAdmission =>
    simp only [officeAct] at hact
    split at hact
    · rename_i hfree
      cases hact
      simp only [Bool.and_eq_true, List.all_eq_true, Bool.not_eq_true'] at hfree
      refine ⟨hi.shared, fun _ c hmem => ?_⟩
      obtain ⟨hch, hcs⟩ := hi.calls c hmem
      exact ⟨hch.stable (fun n hn => hn) (.inl rfl) (.inr (hfree.2 c hmem)), hcs⟩
    · cases hact
  | restart =>
    cases hact
    exact ⟨hi.shared, fun hclear => nomatch hclear⟩

inductive OfficeMove (detailsHash : LiquidityRequest → ServiceResult String) (s : Server Office OfficeCall) :
    OfficeTurn → Db → Prop where
  | same (a : OfficeTurn) : OfficeMove detailsHash s a s.shared.world.db
  | accepted (number : Nat) (x : OfficeChoice) (request : LiquidityRequest) (setup : StoredSetup)
      (config : SetupConfig) (plan : AcceptedPlan) (released : Bool) (db' : Db)
      (hc : (number, .liquidity request (.admitted setup config)) ∈ s.calls)
      (h : s.shared.world.db.acceptRequest config setup.revision request x.request.now x.request.stamp =
        .ok (.accepted plan, db', released)) : OfficeMove detailsHash s (.resume number x) db'
  | written (number : Nat) (x : OfficeChoice) (verb : SetupVerb) (phase : SetupPhase) (row : StoredSetup)
      (hasPassword : Bool) (validation : SetupValidationSummary) (hc : (number, .setup verb phase) ∈ s.calls)
      (h : verb.computed s.shared.world.db.setup hasPassword validation = some row)
      (hsettled : verb.policySettled s.shared.world.db s.shared.world.db.setup = .ok ()) :
      OfficeMove detailsHash s (.resume number x) { s.shared.world.db with setup := row }
  | asked (e : Ask) (x : Outside) (r : Ans e) (w' : World) (out : List Event) (ha : e.accepts = false)
      (h : handler e s.shared.world x = some (r, w', out)) :
      OfficeMove detailsHash s (.outside (.ask e x)) w'.db

theorem OfficeMove.dbMove {a db'} (h : OfficeMove detailsHash t a db') (hk : DbInv t.shared.world.db) :
    DbMove t.shared.world.db db' := by
  cases h with
  | same => exact .refl hk
  | accepted number x request setup config plan released _ hc hacc =>
    exact .accepted config setup.revision request x.request.now x.request.stamp plan released hacc
  | written number x verb phase row hasPassword validation hc hcomp hsettled =>
    exact .written row (by rw [SetupVerb.computed_revision hcomp]; exact Nat.lt_succ_self _) rfl
  | asked e x r w' out ha hh => exact (handler_move hk hh ha).1

theorem office_move {a t' out} (h : ((office detailsHash).machine guard).Reaches es t)
    (hs : (office detailsHash).step guard t a = some (t', out)) :
    OfficeMove detailsHash t a t'.shared.world.db := by
  have hi := office_inv h
  cases Service.steps_of_step hs with
  | begin | drop => exact .same _
  | resume number x call s' next out hg hc hr =>
    have hr : resumeOffice detailsHash t.shared x call = (s', next, out) := Option.some.inj hr
    have hs' : s' = (resumeOffice detailsHash t.shared x call).1 := by rw [hr]
    rw [hs']
    cases call with
    | liquidity request phase =>
      show OfficeMove detailsHash t _
        (resumeRequest detailsHash t.shared.admission request t.shared.world.db x.request phase).1
      generalize hr' : resumeRequest detailsHash t.shared.admission request t.shared.world.db x.request phase = r
      cases resumeRequest_ends hr' with
      | accepted setup config plan db' released hp hacc =>
        exact .accepted number x request setup config plan released db' (hp ▸ hc) hacc
      | _ => exact .same _
    | setup verb phase =>
      show OfficeMove detailsHash t _ (verb.resume t.shared.world.db x.setup phase).1
      rcases verb.resume_db (hi.calls _ hc).1 x.setup with he | ⟨row, he, ⟨hasPassword, v, hcomp⟩, hsettled⟩
      · rw [he]; exact .same _
      · rw [he]; exact .written number x verb phase row hasPassword v hc hcomp hsettled
  | outside b s' out hg hr =>
    obtain ⟨s'', hact, hr⟩ := Option.map_eq_some_iff.mp hr
    cases hr
    cases b with
    | ask e x =>
      simp only [officeAct] at hact
      split at hact
      · cases hact
      · rename_i hacc
        obtain ⟨⟨r, w', evs⟩, hh, rfl⟩ := Option.map_eq_some_iff.mp hact
        exact .asked e x r w' evs (by simpa using hacc) hh
    | closeAdmission =>
      simp only [officeAct] at hact
      split at hact <;> cases hact
      exact .same _
    | restart => cases hact; exact .same _

end

end Manifold.Liquidity
