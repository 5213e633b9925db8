import Manifold.Liquidity.Lemmas.Office

/-!
# Acceptance and setup
-/

namespace Manifold.Liquidity

open Lib

variable {detailsHash : LiquidityRequest → ServiceResult String} {es : List (Service.Note OfficeEvent)}
  {s s' t : Server Office OfficeCall} {a : OfficeTurn} {out : List (Service.Note OfficeEvent)}
  {guard : Server Office OfficeCall → OfficeTurn → Bool}

/-! ## Allocations -/

structure HoldsNothing (db : Db) (f : FederationId) : Prop where
  items : ∀ i ∈ db.items, i.federationId = f → i.status.reserving = false ∧ i.fulfilledAmount.getD 0 = 0
  operations : ∀ r ∈ db.operations, db.tiedTo f r = true → r.status.pendingSettlement = false

theorem holdsNothing_of_idle {db f} (h : (db.allocationHolding f).isIdle = true) : HoldsNothing db f := by
  simp only [Db.Holding.isIdle, Bool.and_eq_true, decide_eq_true_eq] at h
  simp only [Db.allocationHolding, Db.itemsOf, List.countP_eq_zero, List.sum_eq_zero_iff, List.mem_map,
    List.mem_filter, decide_eq_true_eq, forall_exists_index, and_imp] at h
  obtain ⟨⟨hitems, hops⟩, hsum⟩ := h
  refine ⟨fun i hi hf => ⟨?_, hsum _ i hi hf rfl⟩, fun r hr ht => ?_⟩
  · simpa using hitems i hi hf
  · simpa [ht] using hops r hr

structure InsertedFor (detailsHash : LiquidityRequest → ServiceResult String) (es : List (Service.Note OfficeEvent))
    (s : Office) (number : Nat) (x : OfficeChoice) (request : LiquidityRequest) (row : Allocation) : Prop where
  owns : Owns request row
  prevalidated : PreValidated detailsHash s.world.db.setup request
  verified : (some number, .verified request s.world.db.setup.revision) ∈ es
  unexpired : x.request.now < request.expiresAt
  admission : s.admission = .open

theorem insertedFor (h : ((office detailsHash).machine guard).Reaches es s)
    (hs : (office detailsHash).step guard s a = some (s', out)) {row}
    (hrow : row ∈ s'.shared.world.db.allocations) (hnew : row ∉ s.shared.world.db.allocations) :
    ∃ number x request, a = .resume number x ∧ InsertedFor detailsHash es s.shared number x request row := by
  have hi := office_inv h
  have hmove := office_move h hs
  generalize s'.shared.world.db = db' at hrow hmove
  cases hmove with
  | same | written => exact absurd hrow hnew
  | accepted number x request setup config plan released _ hc hacc =>
    obtain ⟨hrev, hexp, -⟩ := Db.acceptRequest_accepted hacc
    obtain ⟨⟨hsnap, -, hpre⟩, hver, hopen⟩ := (hi.calls _ hc).1
    have hsetup : setup = s.shared.world.db.setup := hsnap.same hrev.symm
    obtain ⟨b, -, howns, -, -, honly⟩ := accepted_status hi.shared hacc
    rcases honly row hrow with rfl | hold
    · exact ⟨number, x, request, rfl, howns, hsetup ▸ hpre, hsetup ▸ hver, hexp, hopen⟩
    · exact absurd hold hnew
  | asked e x r w' evs ha hh => exact absurd (handler_allocations hh ha row hrow) hnew

theorem holdsNothing_of_deleted (h : ((office detailsHash).machine guard).Reaches es s)
    (hs : (office detailsHash).step guard s a = some (s', out)) {row}
    (hrow : row ∈ s.shared.world.db.allocations) (hgone : row ∉ s'.shared.world.db.allocations) :
    HoldsNothing s.shared.world.db row.federationId := by
  have hi := office_inv h
  have hmove := office_move h hs
  generalize s'.shared.world.db = db' at hgone hmove
  suffices hm : DbMove s.shared.world.db db' from holdsNothing_of_idle ((hm.allocation_kept hrow).resolve_left hgone)
  exact hmove.dbMove hi.shared

/-- The call that inserted the row is answered with the status it planned. That is the row's, but for the clock: the
answer has that of the planning, and each item that of its own `INSERT`. -/
structure AnsweredAtOnce (calls : List (Nat × OfficeCall)) (number : Nat) (request : LiquidityRequest) (db : Db)
    (x : RequestChoice) (row : Allocation) (status : AllocationStatus) : Prop where
  call : ∃ setup config, (number, .liquidity request (.admitted setup config)) ∈ calls
  status : status = (db.allocationStatus row).stampedAt x.planned
  stamps : ∀ i ∈ db.itemsOf row.federationId, i.updatedAt = x.stamp i.sourceType

theorem answered_status (h : ((office detailsHash).machine apart).Reaches es s)
    (hs : (office detailsHash).step apart s a = some (s', out)) {number request status}
    (hout : (some number, .answered request (.ok (.accepted status))) ∈ out) :
    ∃ row ∈ s'.shared.world.db.allocations, Owns request row ∧
      (status = s'.shared.world.db.allocationStatus row ∨
        ∃ x, a = .resume number x ∧ AnsweredAtOnce s.calls number request s'.shared.world.db x.request row status) := by
  have hi := office_inv h
  cases Service.steps_of_step hs with
  | begin | drop => cases hout
  | outside b t' out hg hr =>
    obtain ⟨t'', -, hr⟩ := Option.map_eq_some_iff.mp hr
    cases hr
    cases hout
  | resume n x call t' next out hg hc hr =>
    have hr : resumeOffice detailsHash s.shared x call = (t', next, out) := Option.some.inj hr
    obtain ⟨hholds, hserved⟩ := hi.calls _ hc
    have hserved := hserved fun _ _ hg => hg
    simp only [List.mem_map, Prod.mk.injEq, Option.some.injEq] at hout
    obtain ⟨e, hmem, rfl, rfl⟩ := hout
    cases call with
    | setup verb phase =>
      obtain ⟨-, -, rfl⟩ := hr
      cases hans : (verb.resume s.shared.world.db x.setup phase).2.getRight? <;> rw [hans] at hmem <;>
        simp at hmem
    | liquidity request' phase =>
      obtain ⟨rfl, -, rfl⟩ := hr
      obtain ⟨rfl, hans⟩ := requestEvents_accepted hmem
      generalize hends : resumeRequest detailsHash s.shared.admission request s.shared.world.db x.request phase = r at hans ⊢
      cases resumeRequest_ends hends with
      | goes => cases hans
      | refused r hr => exact absurd (Sum.inr.inj hans) (hr status)
      | status held row hp =>
        cases hans
        subst hp
        exact ⟨row, hserved.1, hserved.2, .inl rfl⟩
      | accepted setup config plan db' released hp hacc =>
        cases hans
        obtain ⟨row, hrow, howns, hstatus, hstamps, -⟩ := accepted_status hi.shared hacc
        exact ⟨row, hrow, howns, .inr ⟨x, rfl, ⟨setup, config, hp ▸ hc⟩, hstatus _, hstamps⟩⟩

structure AcceptanceStep (detailsHash : LiquidityRequest → ServiceResult String) (es : List (Service.Note OfficeEvent))
    (s : Server Office OfficeCall) (a : OfficeTurn) (s' : Server Office OfficeCall)
    (out : List (Service.Note OfficeEvent)) : Prop where
  inserted : ∀ row ∈ s'.shared.world.db.allocations, row ∉ s.shared.world.db.allocations →
    ∃ number x request, a = .resume number x ∧ InsertedFor detailsHash es s.shared number x request row
  deleted : ∀ row ∈ s.shared.world.db.allocations, row ∉ s'.shared.world.db.allocations →
    HoldsNothing s.shared.world.db row.federationId
  answered : ∀ number request status, (some number, .answered request (.ok (.accepted status))) ∈ out →
    ∃ row ∈ s'.shared.world.db.allocations, Owns request row ∧
      (status = s'.shared.world.db.allocationStatus row ∨
        ∃ x, a = .resume number x ∧ AnsweredAtOnce s.calls number request s'.shared.world.db x.request row status)

/-- Acceptance answers for the caller's own allocation, where no allocation is removed while a call stands
between its reads of it. -/
theorem acceptance_answers_own_allocation (h : ((office detailsHash).machine apart).Reaches es s) :
    Table.Keyed (·.federationId) s.shared.world.db.allocations ∧
    ∀ a s' out, (office detailsHash).step apart s a = some (s', out) → AcceptanceStep detailsHash es s a s' out :=
  ⟨(office_inv h).shared.allocations, fun _ _ _ hs =>
    ⟨fun _ hrow hnew => insertedFor h hs hrow hnew, fun _ hrow hgone => holdsNothing_of_deleted h hs hrow hgone,
      fun _ _ _ hout => answered_status h hs hout⟩⟩

/-! ### A takeover between two reads -/

def freshServer : Server Office OfficeCall := ⟨{}, [], 0⟩

theorem freshServer_init (detailsHash : LiquidityRequest → ServiceResult String)
    (guard : Server Office OfficeCall → OfficeTurn → Bool) :
    ((office detailsHash).machine guard).init freshServer := ⟨rfl, rfl, rfl⟩

def plainHash (r : LiquidityRequest) : ServiceResult String := .ok r.detailsPayloadHash

def plainTarget : FundingTarget := ⟨"fed", "name", "invite", "config"⟩

def plainRequest (requester : Pubkey) (hash : String) : LiquidityRequest where
  requesterPubkey := requester
  detailsPayloadHash := hash
  target := plainTarget
  gatewayMinAmount := 100
  stabilityMinAmount := 0
  expiresAt := 10

def firstSetup : SetupVerb :=
  .applySetupConfig false none ⟨some "gateway",
    { supportedSources := [.gateway], policy := { supportedNetworks := [.bitcoin] } }⟩

def configured : List OfficeTurn :=
  .begin (.setup firstSetup) :: List.replicate 7 (.resume 0 {}) ++
    [.outside (.ask (.upsertWalletBalanceObservation .bitcoin 1000 1) {})]

def requested (number : Nat) (request : LiquidityRequest) : List OfficeTurn :=
  .begin (.requestLiquidity request) :: List.replicate 6 (.resume number {})

/-- The operator cancels the allocation. The first requester asks again and matches it; a second one takes it over
before the status is read. -/
def takenOver : List OfficeTurn :=
  configured ++ requested 1 (plainRequest "first" "a") ++
    .outside (.ask (.cancelAllocation "fed" none) {}) ::
    .begin (.requestLiquidity (plainRequest "first" "a")) :: List.replicate 3 (.resume 2 {}) ++
    requested 3 (plainRequest "second" "b") ++ List.replicate 2 (.resume 2 {})

theorem accepted_with_foreign_status :
    ∃ es s number request status, ((office plainHash).machine (fun _ _ => true)).Reaches es s ∧
      (some number, .answered request (.ok (.accepted status))) ∈ es ∧
      ∀ (db : Db) row, Owns request row → status ≠ db.allocationStatus row := by
  have hrun : (((office plainHash).machine (fun _ _ => true)).exec freshServer takenOver).map
      (fun r => r.2.getLast?) = some (some (some 2, .answered (plainRequest "first" "a")
        (.ok (.accepted ⟨"b", "provider", [⟨.gateway "fed:gateway" "gateway" "" 100, .pending, none, none, none, 0⟩]⟩)))) := by
    decide +kernel
  obtain ⟨⟨s, es⟩, hexec, hlast⟩ := Option.map_eq_some_iff.mp hrun
  refine ⟨es, s, 2, _, _, Machine.reaches_of_exec (freshServer_init _ _) hexec, List.mem_of_getLast? hlast, ?_⟩
  intro db row howns hstatus
  have hhash : "b" = row.detailsPayloadHash := congrArg AllocationStatus.detailsPayloadHash hstatus
  rw [howns.details] at hhash
  exact absurd hhash (by decide)

/-- The first requester is accepted, asks again and is read its status; the operator cancels, and a second requester is
about to take the allocation over. -/
def beforeTakeover : List OfficeTurn :=
  configured ++ .begin (.requestLiquidity (plainRequest "first" "a")) :: List.replicate 5 (.resume 1 {}) ++
    .resume 1 { request := { now := 1, planned := 2, stamp := fun _ => 3 } } ::
    .begin (.requestLiquidity (plainRequest "first" "a")) :: List.replicate 5 (.resume 2 {}) ++
    .outside (.ask (.cancelAllocation "fed" none) { now := 4 }) ::
    .begin (.requestLiquidity (plainRequest "second" "b")) :: List.replicate 5 (.resume 3 {})

def takeover : OfficeTurn := .resume 3 { request := { now := 5, planned := 6, stamp := fun _ => 7 } }

/-- Who was accepted, with which details and with what clock. -/
def acceptances (es : List (Service.Note OfficeEvent)) : List (Pubkey × String × List Timestamp) :=
  es.filterMap fun e =>
    match e.2 with
    | .answered request (.ok (.accepted status)) =>
      some (request.requesterPubkey, status.detailsPayloadHash, status.itemStatuses.map (·.updatedAt))
    | _ => none

theorem acceptance_answers_repeat_and_takeover :
    (((office plainHash).machine apart).exec freshServer (beforeTakeover ++ [takeover])).map
        (fun r => (r.1.shared.world.db.allocations.map (·.requesterPubkey), acceptances r.2)) =
      some (["second"], [("first", "a", [2]), ("first", "a", [3]), ("second", "b", [6])]) ∧
    ∀ r ∈ ((office plainHash).machine apart).exec freshServer beforeTakeover,
      r.1.shared.world.db.allocations.map (·.requesterPubkey) = ["first"] ∧
      ∀ s' out, (office plainHash).step apart r.1 takeover = some (s', out) →
        AcceptanceStep plainHash r.2 r.1 takeover s' out := by
  have hfirst : ∀ r ∈ ((office plainHash).machine apart).exec freshServer beforeTakeover,
      r.1.shared.world.db.allocations.map (·.requesterPubkey) = ["first"] := by decide +kernel
  exact ⟨by decide +kernel, fun r hr => ⟨hfirst r hr,
    (acceptance_answers_own_allocation (Machine.reaches_of_exec (freshServer_init _ _) hr)).2 takeover⟩⟩

/-! ## Setup -/

/-- With an item accepted, two writers have read one setup and a third has tried to change the funding policy. -/
def contested : List OfficeTurn :=
  configured ++ requested 1 (plainRequest "first" "a") ++
    [.begin (.setup (.updateProviderConfig none { relays := some ["relay"] })),
     .begin (.setup (.updateProviderConfig none { replenishment := some "later" })),
     .begin (.setup (.updateProviderConfig none { fundingPolicy := some ⟨1, 1, 1, 1, 1⟩ }))] ++
    List.replicate 4 (.resume 2 {}) ++ List.replicate 4 (.resume 3 {}) ++ List.replicate 2 (.resume 4 {})

/-- Along a run a revision names one setup, and every item is one of a stored allocation. -/
theorem revision_names_setup (h : ((office detailsHash).machine guard).Reaches es s)
    (hr : ((office detailsHash).machine guard).Run s out t) :
    s.shared.world.db.setup.revision ≤ t.shared.world.db.setup.revision ∧
    (s.shared.world.db.setup.revision = t.shared.world.db.setup.revision →
      s.shared.world.db.setup = t.shared.world.db.setup) ∧
    ∀ i ∈ t.shared.world.db.items, ∃ a ∈ t.shared.world.db.allocations, a.federationId = i.federationId := by
  have hsnap : Snapshot t.shared.world.db s.shared.world.db.setup := by
    induction hr with
    | nil => exact .now _
    | snoc a hr hs ih => exact ih.moves ((office_move (h.run hr) hs).dbMove (office_inv (h.run hr)).shared).setupMoves
  exact ⟨hsnap.old, hsnap.same, (office_inv (h.run hr)).shared.owned⟩

/-- The refused writer leaves the revision, and so the setup; the accepted item has its allocation. -/
theorem revision_names_setup_contested :
    (((office plainHash).machine apart).exec freshServer (contested ++ [.resume 2 {}, .resume 3 {}])).isSome = true ∧
    ∀ r ∈ ((office plainHash).machine apart).exec freshServer (contested ++ [.resume 2 {}]),
      ∀ r' ∈ ((office plainHash).machine apart).exec r.1 [.resume 3 {}],
        r.1.shared.world.db.setup.revision = 2 ∧ r.1.shared.world.db.setup = r'.1.shared.world.db.setup ∧
        r'.1.shared.world.db.items.length = 1 ∧
        ∀ i ∈ r'.1.shared.world.db.items, ∃ a ∈ r'.1.shared.world.db.allocations, a.federationId = i.federationId := by
  refine ⟨by decide +kernel, fun r hr r' hr' => ?_⟩
  have hnumbers : ∀ r ∈ ((office plainHash).machine apart).exec freshServer (contested ++ [.resume 2 {}]),
      ∀ r' ∈ ((office plainHash).machine apart).exec r.1 [.resume 3 {}], r.1.shared.world.db.setup.revision = 2 ∧
        r'.1.shared.world.db.setup.revision = 2 ∧ r'.1.shared.world.db.items.length = 1 := by decide +kernel
  obtain ⟨hold, hnew, hone⟩ := hnumbers r hr r' hr'
  obtain ⟨-, hsame, howned⟩ := revision_names_setup (Machine.reaches_of_exec (freshServer_init _ _) hr)
    (Machine.run_of_exec hr')
  exact ⟨hold, hsame (hold.trans hnew.symm), hone, howned⟩

end Manifold.Liquidity
