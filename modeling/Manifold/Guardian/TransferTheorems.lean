import Manifold.Guardian.Lemmas.Transfers

/-!
# Transfers and federations of a host
-/

namespace Manifold.Guardian

variable {codec : Codec} {s t : Store}

theorem StoreOk.step (h : StoreOk codec s) (hs : StoreStep codec s t) : StoreOk codec t ∧ Continues s t := by
  rcases hs with hs | ⟨source, fleet, hsource, hfleet, rfl⟩
  · exact h.write hs
  · exact h.restore (.of_reachable hsource) hfleet

theorem persists_of_run (h : StoreOk codec s) (hrun : Relation.ReflTransGen (StoreStep codec) s t) :
    StoreOk codec t ∧ ∀ r ∈ s.seats.rows, ∃ r' ∈ t.seats.rows, Persists r r' := by
  induction hrun with
  | refl => exact ⟨h, fun r hr => ⟨r, hr, .refl r⟩⟩
  | tail _ hs ih =>
    obtain ⟨hok, hrows⟩ := ih
    obtain ⟨hok', hcont⟩ := hok.step hs
    refine ⟨hok', fun r hr => ?_⟩
    obtain ⟨r₁, hr₁, hp₁⟩ := hrows r hr
    obtain ⟨r₂, hr₂, hstep⟩ := hcont r₁ hr₁
    exact ⟨r₂, hr₂, hp₁.trans hstep.persists⟩

theorem imported_with_formed (h : StoreOk codec s) (hs : StoreStep codec s t) {r'} (hr' : r' ∈ t.seats.rows) {i}
    (hi : r'.transferIn = some i) (ha : i.accepted.isSome = true) :
    (∃ r ∈ s.seats.rows, r.facts.seatId = r'.facts.seatId ∧ ∃ i, r.transferIn = some i ∧ i.accepted.isSome = true) ∨
      ((∀ r ∈ s.seats.rows, r.facts.seatId = r'.facts.seatId → r.formed = none) ∧ r'.formed.isSome = true) := by
  obtain ⟨hok, hcont⟩ := h.step hs
  cases hfind : s.seats.find? r'.facts.seatId with
  | none =>
    refine .inr ⟨fun r hr hid => ?_, (hok.rows r' hr').imported i hi ha⟩
    exact absurd hid (SeatTable.find?_eq_none.mp hfind r hr)
  | some r =>
    obtain ⟨hr, hid⟩ := SeatTable.mem_of_find? hfind
    rcases (hcont.rowStep hr hr' hid).together i hi ha with hold | ⟨hnone, hformed⟩
    · exact .inl ⟨r, hr, hid, hold⟩
    · refine .inr ⟨fun x hx hxid => ?_, hformed⟩
      rw [seat_unique hx hr (hxid.trans hid.symm)]
      exact hnone

/-- In every store a host comes to hold: an imported guardian has its formed row, and both appear in one step; a seat
with an incoming transfer has no inputs of a ceremony; at most one live seat is formed for or bound to a federation;
and whatever happens later, bindings and commitments stay, fences only move from stopped to removed, and no transfer
comes into a retired seat. -/
theorem transfer_store_invariants (h : Reachable codec s) :
    (∀ r ∈ s.seats.rows, (∀ i, r.transferIn = some i → i.accepted.isSome = true → r.formed.isSome = true) ∧
      (r.transferIn.isSome = true → r.dkgInputs = none)) ∧
    OnePerFederation codec s.seats ∧
    (∀ t, StoreStep codec s t → ∀ r' ∈ t.seats.rows, ∀ i, r'.transferIn = some i → i.accepted.isSome = true →
      (∃ r ∈ s.seats.rows, r.facts.seatId = r'.facts.seatId ∧ ∃ i, r.transferIn = some i ∧ i.accepted.isSome = true) ∨
      ((∀ r ∈ s.seats.rows, r.facts.seatId = r'.facts.seatId → r.formed = none) ∧ r'.formed.isSome = true)) ∧
    ∀ t, Relation.ReflTransGen (StoreStep codec) s t → ∀ r ∈ s.seats.rows, ∃ r' ∈ t.seats.rows, Persists r r' := by
  have hok := StoreOk.of_reachable h
  refine ⟨fun r hr => ⟨(hok.rows r hr).imported, (hok.rows r hr).undkg⟩, hok.apart, ?_, ?_⟩
  · intro t hs r' hr' i hi ha
    exact imported_with_formed hok hs hr' hi ha
  · intro t hrun
    exact (persists_of_run hok hrun).2

/-! ## A host with a moved guardian -/

def plainCodec : Codec where
  archiveDigest := fun a => a.privateJson ++ a.localJson ++ a.consensusJson
  docSha256 := fun _ => "document"
  federationId := some

def freshHost : Store where
  seats := .empty
  offer :=
    { maxSeats := some 4, memoryMaxSeats := 4, policyMaxSeats := 12, readyForNewSeats := true
      priceMsats := some 1000, offerEpoch := 1, updatedAtMs := none }
  stage := .identity
  members := []
  setupPaymentEvent := none

def servedHost : Store := { freshHost with stage := .complete }

def sold (s : Store) (id : QuoteId) : Store :=
  (s.admitSeatAtWriterBoundary ⟨id, 7, .infiniteBestEffort 1000, 4, none⟩ 1 ⟨50000, by decide⟩ 5 2).store

/-- One seat is to form, and one to take over a guardian. -/
def sellingHost : Store := sold (sold servedHost 10) 11

def movedGrant : SeatTransferGrant := ⟨3, 7, "moved", ⟨"endpoint", 1⟩, 20, 2, 11⟩

def movedHost : Store :=
  let formed := (sellingHost.recordFormed 10 "native" 6).store
  let bound := (formed.admitTransfer plainCodec ⟨movedGrant, []⟩ (some movedGrant) none).store
  (bound.acceptTransfer 11 (TransferMove.ofGrant movedGrant) ⟨1, 2⟩ "moved" 8).store

theorem movedHost_reachable : Reachable plainCodec movedHost := by
  have hserved : Reachable plainCodec servedHost :=
    .write (.fresh freshHost rfl rfl) (.elsewhere _ _ rfl fun h => by cases h)
  have hfirst : Reachable plainCodec (sold servedHost 10) := .write hserved (.admitSeat _ _ _ _ _ _ rfl)
  have hselling : Reachable plainCodec sellingHost := .write hfirst (.admitSeat _ _ _ _ _ _ (by decide +kernel))
  refine .write (.write (.write hselling (.recordFormed _ 10 "native" 6 ?_)) (.admitTransfer _ _ _ _))
    (.acceptTransfer _ 11 _ ⟨1, 2⟩ "moved" 8 rfl)
  -- no seat is formed or bound yet
  intro r hr hid hformed federation hfed r' hr' hid' hc
  have hnone : ∀ r ∈ sellingHost.seats.rows, r.formed = none ∧ r.transferIn = none := by decide +kernel
  rcases hc with ⟨f, hf, -⟩ | ⟨i, hi, -⟩
  · rw [(hnone r' hr').1] at hf
    cases hf
  · rw [(hnone r' hr').2] at hi
    cases hi

theorem transfer_store_invariants_moved :
    movedHost.seats.rows.map (fun r => (r.facts.seatId, r.transferIn.map (·.phase), r.formed.map (·.federationInvite))) =
      [(11, some .imported, some "moved"), (10, none, some "native")] ∧
    OnePerFederation plainCodec movedHost.seats :=
  ⟨by decide +kernel, (transfer_store_invariants movedHost_reachable).2.1⟩

end Manifold.Guardian
