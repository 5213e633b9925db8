import Manifold.Lib.Task
import Manifold.Guardian.Lemmas.Store
import Manifold.Guardian.Transfers

/-!
# Transfers keep the seats apart
-/

namespace Manifold.Guardian

variable {codec : Codec}

/-! ## The rows of one seat -/

structure RowsOk (r : SeatRows) : Prop where
  imported : ∀ t, r.transferIn = some t → t.accepted.isSome = true → r.formed.isSome = true
  undkg : r.transferIn.isSome = true → r.dkgInputs = none
  removed : r.transferOut = some .removed → r.transferIn = none

theorem Persists.refl (r : SeatRows) : Persists r r where
  facts := rfl
  formed := fun _ h => h
  bound := fun t h => Or.inl ⟨t, h, rfl, rfl⟩
  fence := fun _ h => Or.inl h
  retired := fun h => ⟨h, Or.inl rfl⟩

theorem Persists.trans {r₁ r₂ r₃} (a : Persists r₁ r₂) (b : Persists r₂ r₃) : Persists r₁ r₃ where
  facts := b.facts.trans a.facts
  formed := fun f h => b.formed f (a.formed f h)
  bound := by
    intro t ht
    rcases a.bound t ht with ⟨t', ht', hb, hc⟩ | ⟨hnone, hact⟩
    · rcases b.bound t' ht' with ⟨t'', ht'', hb', hc'⟩ | hgone
      · exact .inl ⟨t'', ht'', hb'.trans hb, hc'.trans hc⟩
      · exact .inr hgone
    · -- once gone with a retired seat, it does not come back
      obtain ⟨hact', hin⟩ := b.retired hact
      exact .inr ⟨by rcases hin with hin | hin <;> simp [hin, hnone], hact'⟩
  fence := by
    intro p hp
    rcases a.fence p hp with h | ⟨rfl, h⟩
    · exact b.fence p h
    · rcases b.fence _ h with h' | ⟨he, -⟩
      · exact .inr ⟨rfl, h'⟩
      · cases he
  retired := by
    intro h
    obtain ⟨h₂, hin⟩ := a.retired h
    obtain ⟨h₃, hin'⟩ := b.retired h₂
    refine ⟨h₃, ?_⟩
    rcases hin with hin | hin <;> rcases hin' with hin' | hin' <;> simp [hin, hin']

def ImportsTogether (r r' : SeatRows) : Prop :=
  ∀ t', r'.transferIn = some t' → t'.accepted.isSome = true →
    (∃ t, r.transferIn = some t ∧ t.accepted.isSome = true) ∨ (r.formed = none ∧ r'.formed.isSome = true)

structure RowStep (r r' : SeatRows) : Prop where
  ok : RowsOk r → RowsOk r'
  persists : Persists r r'
  together : ImportsTogether r r'

theorem RowStep.refl (r : SeatRows) : RowStep r r :=
  ⟨id, .refl r, fun t ht ha => Or.inl ⟨t, ht, ha⟩⟩

theorem SeatRows.active_eq_false {r : SeatRows} :
    r.active = false ↔ r.decommissionedAtMs.isSome = true ∨ r.transferOut.isSome = true := by
  unfold SeatRows.active
  cases r.decommissionedAtMs <;> cases r.transferOut <;> simp

theorem RowStep.of_same {r r'} (hfacts : r'.facts = r.facts) (hformed : r'.formed = r.formed)
    (hin : r'.transferIn = r.transferIn) (hout : r'.transferOut = r.transferOut)
    (hdec : r.decommissionedAtMs.isSome = true → r'.decommissionedAtMs.isSome = true)
    (hdkg : r.transferIn.isSome = true → r'.dkgInputs = r.dkgInputs) : RowStep r r' where
  ok := fun h => by
    refine ⟨?_, fun hi => ?_, ?_⟩
    · rw [hin, hformed]
      exact h.imported
    · rw [hin] at hi
      rw [hdkg hi]
      exact h.undkg hi
    · rw [hout, hin]
      exact h.removed
  persists :=
    { facts := hfacts
      formed := fun f hf => by rw [hformed]; exact hf
      bound := fun t ht => Or.inl ⟨t, by rw [hin]; exact ht, rfl, rfl⟩
      fence := fun p hp => Or.inl (by rw [hout]; exact hp)
      retired := fun h => by
        rw [SeatRows.active_eq_false] at h ⊢
        rw [hout]
        exact ⟨h.imp_left hdec, Or.inl hin⟩ }
  together := fun t ht ha => Or.inl ⟨t, by rw [← hin]; exact ht, ha⟩

theorem concerns_of_fields {r r' : SeatRows} {federation} (hformed : r'.formed = r.formed)
    (hin : r'.transferIn = r.transferIn ∨ r'.transferIn = none) (h : r'.Concerns codec federation) :
    r.Concerns codec federation := by
  rcases h with ⟨f, hf, hc⟩ | ⟨t, ht, hc⟩
  · exact .inl ⟨f, by rw [← hformed]; exact hf, hc⟩
  rcases hin with hin | hin
  · exact .inr ⟨t, by rw [← hin]; exact ht, hc⟩
  · rw [hin] at ht
    cases ht

structure Narrows (codec : Codec) (r r' : SeatRows) : Prop extends RowStep r r' where
  concerns : ∀ federation, r'.Concerns codec federation → r.Concerns codec federation

theorem Narrows.refl (r : SeatRows) : Narrows codec r r := ⟨.refl r, fun _ h => h⟩

theorem RowStep.narrows {r r'} (h : RowStep r r') (hformed : r'.formed = r.formed)
    (hin : r'.transferIn = r.transferIn ∨ r'.transferIn = none) : Narrows codec r r' :=
  ⟨h, fun _ => concerns_of_fields hformed hin⟩

theorem narrows_decommission (r : SeatRows) (now : Int) : Narrows codec r (r.decommission now).1 := by
  unfold SeatRows.decommission
  split
  · exact .refl r
  · exact RowStep.narrows (.of_same rfl rfl rfl rfl (fun _ => rfl) fun _ => rfl) rfl (.inl rfl)

theorem narrows_recordClaimOutcome (r : SeatRows) (outcome : ClaimOutcome) (now : Int) :
    Narrows codec r (r.recordClaimOutcome outcome now).1 := by
  unfold SeatRows.recordClaimOutcome
  split
  · exact RowStep.narrows (.of_same rfl rfl rfl rfl id fun _ => rfl) rfl (.inl rfl)
  · exact .refl r

theorem narrows_recordDkgInputs (r : SeatRows) (codes : List GuardianCode) :
    Narrows codec r (r.recordDkgInputs codes).1 := by
  unfold SeatRows.recordDkgInputs
  split
  · split
    · exact .refl r
    · rename_i hno
      refine RowStep.narrows (.of_same rfl rfl rfl rfl id fun hi => ?_) rfl (.inl rfl)
      simp [hi] at hno
  · exact .refl r

theorem rowStep_recordFormed (r : SeatRows) (invite : InviteCode) (now : Int) :
    RowStep r (r.recordFormed invite now).1 := by
  unfold SeatRows.recordFormed
  split
  · exact .refl r
  rename_i hnone
  refine ⟨fun h => ⟨fun _ _ _ => rfl, h.undkg, h.removed⟩, ?_, fun t ht ha => Or.inl ⟨t, ht, ha⟩⟩
  refine ⟨rfl, fun f hf => ?_, fun t ht => Or.inl ⟨t, ht, rfl, rfl⟩, fun p hp => Or.inl hp, fun h => ⟨h, Or.inl rfl⟩⟩
  rw [hnone] at hf
  cases hf

theorem SeatRows.active_of_not_isRetired {r : SeatRows} (h : ¬ r.isRetired = true) : r.active = true := by
  unfold SeatRows.isRetired at h
  simpa using h

theorem SeatRows.transferOut_of_active {r : SeatRows} (h : r.active = true) : r.transferOut = none := by
  simp only [SeatRows.active, Bool.and_eq_true, Option.isNone_iff_eq_none] at h
  exact h.2

theorem rowStep_admitTransfer (r : SeatRows) (signed : SignedGrant) (verified : Option SeatTransferGrant)
    (callback : Option (BitVec 256)) (available : Except DbError Bool) :
    RowStep r (r.admitTransfer signed verified callback available).1 := by
  unfold SeatRows.admitTransfer
  split
  · exact .refl r
  split
  · exact .refl r
  rename_i grant hchecks
  have hact : r.active = true := SeatRows.active_of_not_isRetired fun h => hchecks (Or.inr (Or.inr h))
  dsimp only
  split
  · split <;> exact .refl r
  rename_i hin
  split
  · exact .refl r
  rename_i hclear
  simp only [Bool.or_eq_true, not_or, Bool.not_eq_true, Option.isSome_eq_false_iff, Option.isNone_iff_eq_none] at hclear
  split
  · exact .refl r
  · exact .refl r
  -- a new waiting row
  refine ⟨fun h => ⟨fun t ht ha => ?_, fun _ => hclear.2, fun hrem => ?_⟩, ?_, fun t ht ha => ?_⟩
  · cases ht
    cases ha
  · rw [SeatRows.transferOut_of_active hact] at hrem
    cases hrem
  · refine ⟨rfl, fun f hf => hf, fun t ht => ?_, fun p hp => Or.inl hp, fun h => ?_⟩
    · rw [hin] at ht
      cases ht
    · rw [hact] at h
      cases h
  · cases ht
    cases ha

theorem narrows_acceptTransfer (r : SeatRows) {binding} (keys : ImportedKeys) {invite} (now : Int)
    (hinvite : codec.federationId invite = some binding.federationId) :
    Narrows codec r (r.acceptTransfer binding keys invite now).1 := by
  unfold SeatRows.acceptTransfer
  split
  · exact .refl r
  rename_i record hin
  split
  · exact .refl r
  split
  · exact .refl r
  rename_i hchecks
  have hbinding : record.binding = binding := by
    by_contra hne
    exact hchecks (Or.inl hne)
  have hact : r.active = true := SeatRows.active_of_not_isRetired fun h => hchecks (Or.inr h)
  split
  · exact .refl r
  rename_i hformed
  have hnone : r.formed = none := by simpa using hformed
  -- keys and formed row are written together
  refine ⟨⟨fun h => ⟨fun _ _ _ => rfl, fun _ => h.undkg (by simp [hin]), fun hrem => ?_⟩,
    ⟨rfl, fun f hf => ?_, fun t ht => ?_, fun p hp => Or.inl hp, fun h => ?_⟩, fun t ht ha => Or.inr ⟨hnone, rfl⟩⟩, ?_⟩
  · rw [SeatRows.transferOut_of_active hact] at hrem
    cases hrem
  · rw [hnone] at hf
    cases hf
  · rw [hin] at ht
    cases ht
    exact .inl ⟨_, rfl, rfl, rfl⟩
  · rw [hact] at h
    cases h
  rintro federation (⟨f, hf, hc⟩ | ⟨t, ht, hc⟩)
  · cases hf
    refine .inr ⟨record, hin, ?_⟩
    rw [hbinding]
    exact Option.some.inj (hinvite.symm.trans hc)
  · cases ht
    exact .inr ⟨record, hin, hc⟩

theorem narrows_retireForTransfer (r : SeatRows) : Narrows codec r r.retireForTransfer.1 := by
  unfold SeatRows.retireForTransfer
  split
  · rename_i hcan
    simp only [SeatRows.canRetire, Bool.and_eq_true] at hcan
    have hnone : r.transferOut = none := by simpa using hcan.2
    refine RowStep.narrows ⟨fun h => ⟨h.imported, h.undkg, fun hrem => by cases hrem⟩, ?_,
      fun t ht ha => Or.inl ⟨t, ht, ha⟩⟩ rfl (.inl rfl)
    refine ⟨rfl, fun f hf => hf, fun t ht => Or.inl ⟨t, ht, rfl, rfl⟩, fun p hp => ?_, fun _ => ?_⟩
    · rw [hnone] at hp
      cases hp
    · exact ⟨SeatRows.active_eq_false.mpr (Or.inr rfl), Or.inl rfl⟩
  · exact .refl r

theorem narrows_recordTransferRemoval (r : SeatRows) : Narrows codec r r.recordTransferRemoval.1 := by
  unfold SeatRows.recordTransferRemoval
  split
  · rename_i hout
    have hgone : ({ r with transferOut := some .removed, transferIn := none } : SeatRows).active = false :=
      SeatRows.active_eq_false.mpr (Or.inr rfl)
    refine RowStep.narrows ⟨fun _ => ⟨fun t ht => (by cases ht), fun hi => (by cases hi), fun _ => rfl⟩, ?_,
      fun t ht => (by cases ht)⟩ rfl (.inr rfl)
    refine ⟨rfl, fun f hf => hf, fun t _ => Or.inr ⟨rfl, hgone⟩, fun p hp => ?_, fun _ => ⟨hgone, Or.inr rfl⟩⟩
    rw [hout] at hp
    cases hp
    exact .inr ⟨rfl, rfl⟩
  · exact .refl r

/-! ## The seats of a store -/

structure StoreOk (codec : Codec) (s : Store) : Prop where
  rows : ∀ r ∈ s.seats.rows, RowsOk r
  apart : OnePerFederation codec s.seats
  fresh : s.stage = .identity → s.seats.rows = []

def Continues (s t : Store) : Prop := ∀ r ∈ s.seats.rows, ∃ r' ∈ t.seats.rows, RowStep r r'

theorem seat_unique {table : SeatTable} {r r' : SeatRows} (hr : r ∈ table.rows) (hr' : r' ∈ table.rows)
    (h : r.facts.seatId = r'.facts.seatId) : r = r' :=
  Option.some.inj ((SeatTable.find?_of_mem hr rfl).symm.trans (SeatTable.find?_of_mem hr' h.symm))

theorem Continues.of_seats {s t} (h : t.seats = s.seats) : Continues s t := fun r hr =>
  ⟨r, by rw [h]; exact hr, .refl r⟩

theorem Continues.rowStep {s t} (h : Continues s t) {r r'} (hr : r ∈ s.seats.rows) (hr' : r' ∈ t.seats.rows)
    (hid : r.facts.seatId = r'.facts.seatId) : RowStep r r' := by
  obtain ⟨r₁, hr₁, hstep⟩ := h r hr
  have hsame : r₁ = r' := seat_unique hr₁ hr' (by rw [hstep.persists.facts, hid])
  rw [← hsame]
  exact hstep

namespace SeatTable

theorem mem_modify {t : SeatTable} {id f r'} (h : r' ∈ (t.modify id f).rows) : ∃ r ∈ t.rows, r' = modifyRow id f r := by
  obtain ⟨r, hr, he⟩ := List.mem_map.mp h
  exact ⟨r, hr, he.symm⟩

theorem modifyRow_eq {id f r} (hf : (f r).facts = r.facts) :
    modifyRow id f r = if r.facts.seatId = id then f r else r := by
  unfold modifyRow
  rw [← hf]

end SeatTable

theorem OnePerFederation.modify {t id f} (h : OnePerFederation codec t) (hf : ∀ r, (f r).facts = r.facts)
    (hnew : ∀ r ∈ t.rows, r.facts.seatId = id → (f r).active = true → r.active = true ∧
      ∀ federation, (f r).Concerns codec federation → r.Concerns codec federation ∨
        ∀ r' ∈ t.rows, r'.facts.seatId ≠ id → r'.active = true → ¬ r'.Concerns codec federation) :
    OnePerFederation codec (t.modify id f) := by
  -- the seat that changed, against one that did not
  have hother : ∀ r ∈ t.rows, ∀ r' ∈ t.rows, r.facts.seatId = id → r'.facts.seatId ≠ id →
      (f r).active = true → r'.active = true → ∀ federation, (f r).Concerns codec federation →
      ¬ r'.Concerns codec federation := by
    intro r hr r' hr' hid hid' ha ha' federation hc hc'
    obtain ⟨hact, hcon⟩ := hnew r hr hid ha
    rcases hcon federation hc with hold | hfree
    · exact hid' ((h r hr r' hr' hact ha' federation hold hc') ▸ hid)
    · exact hfree r' hr' hid' ha' hc'
  intro r₁ h₁ r₂ h₂ ha₁ ha₂ federation hc₁ hc₂
  obtain ⟨x, hx, rfl⟩ := SeatTable.mem_modify h₁
  obtain ⟨y, hy, rfl⟩ := SeatTable.mem_modify h₂
  rw [SeatTable.modifyRow_facts, SeatTable.modifyRow_facts]
  rw [SeatTable.modifyRow_eq (hf x)] at ha₁ hc₁
  rw [SeatTable.modifyRow_eq (hf y)] at ha₂ hc₂
  split at ha₁
  · rename_i hxid
    rw [if_pos hxid] at hc₁
    split at ha₂
    · rename_i hyid
      rw [hxid, hyid]
    · rename_i hyid
      rw [if_neg hyid] at hc₂
      exact absurd hc₂ (hother x hx y hy hxid hyid ha₁ ha₂ federation hc₁)
  rename_i hxid
  rw [if_neg hxid] at hc₁
  split at ha₂
  · rename_i hyid
    rw [if_pos hyid] at hc₂
    exact absurd hc₁ (hother y hy x hx hyid hxid ha₂ ha₁ federation hc₂)
  · rename_i hyid
    rw [if_neg hyid] at hc₂
    exact h x hx y hy ha₁ ha₂ federation hc₁ hc₂

theorem StoreOk.onSeat {α : Type} {s : Store} {id : QuoteId} {missing : α} {f : SeatRows → SeatRows × α}
    (h : StoreOk codec s) (hf : ∀ r, RowStep r (f r).1)
    (hnew : ∀ r ∈ s.seats.rows, r.facts.seatId = id → (f r).1.active = true → r.active = true ∧
      ∀ federation, (f r).1.Concerns codec federation → r.Concerns codec federation ∨
        ∀ r' ∈ s.seats.rows, r'.facts.seatId ≠ id → r'.active = true → ¬ r'.Concerns codec federation) :
    StoreOk codec (s.onSeat id missing f).store ∧ Continues s (s.onSeat id missing f).store := by
  unfold Store.onSeat
  split
  · exact ⟨h, .of_seats rfl⟩
  have hfacts : ∀ r, (f r).1.facts = r.facts := fun r => (hf r).persists.facts
  refine ⟨⟨fun r' hr' => ?_, h.apart.modify hfacts hnew, fun hst => ?_⟩, fun r hr => ?_⟩
  · obtain ⟨r, hr, rfl⟩ := SeatTable.mem_modify hr'
    rw [SeatTable.modifyRow_eq (hfacts r)]
    split
    · exact (hf r).ok (h.rows r hr)
    · exact h.rows r hr
  · dsimp only [SeatTable.modify]
    rw [h.fresh hst, List.map_nil]
  refine ⟨SeatTable.modifyRow id (fun r => (f r).1) r, List.mem_map.mpr ⟨r, hr, rfl⟩, ?_⟩
  rw [SeatTable.modifyRow_eq (hfacts r)]
  split
  · exact hf r
  · exact .refl r

theorem StoreOk.onSeat_narrow {α : Type} {s : Store} {id : QuoteId} {missing : α}
    {f : SeatRows → SeatRows × α} (h : StoreOk codec s) (hf : ∀ r, Narrows codec r (f r).1) :
    StoreOk codec (s.onSeat id missing f).store ∧ Continues s (s.onSeat id missing f).store := by
  refine h.onSeat (fun r => (hf r).toRowStep) fun r _ _ hact => ⟨?_, fun federation hc => .inl ((hf r).concerns _ hc)⟩
  cases hr : r.active with
  | true => rfl
  | false =>
    rw [((hf r).persists.retired hr).1] at hact
    cases hact

/-! ## Writes of a host -/

theorem formedFor_eq_false {federation invites} (h : formedFor codec federation invites = .ok false) :
    ∀ invite ∈ invites, codec.federationId invite ≠ some federation := by
  induction invites with
  | nil => simp
  | cons invite rest ih =>
    simp only [formedFor] at h
    split at h
    · cases h
    rename_i f hf
    split at h
    · cases h
    rename_i hne
    intro i hi
    rcases List.mem_cons.mp hi with rfl | hi
    · rw [hf]
      simpa using hne
    · exact ih h i hi

theorem federationAvailable_spec {s : Store} {id} {binding : TransferMove}
    (h : s.federationAvailable codec id binding = .ok true) :
    ∀ r ∈ s.seats.rows, r.facts.seatId ≠ id → r.active = true → ¬ r.Concerns codec binding.federationId := by
  unfold Store.federationAvailable at h
  dsimp only at h
  split at h
  · cases h
  · cases h
  rename_i hformed
  have hin : ((s.seats.rows.filter (fun r => r.facts.seatId != id && r.active)).filterMap (·.transferIn)).any
      (fun t => t.binding.federationId == binding.federationId) = false := by simpa using h
  intro r hr hid hact hc
  have hother : r ∈ s.seats.rows.filter (fun r => r.facts.seatId != id && r.active) :=
    List.mem_filter.mpr ⟨hr, by simp [hid, hact]⟩
  rcases hc with ⟨f, hf, hfed⟩ | ⟨t, ht, hfed⟩
  · exact formedFor_eq_false hformed f.federationInvite
      (List.mem_filterMap.mpr ⟨r, hother, by rw [hf]; rfl⟩) hfed
  · rw [List.any_eq_false] at hin
    exact hin t (List.mem_filterMap.mpr ⟨r, hother, ht⟩) (by simp [hfed])

theorem StoreOk.admitTransfer {s} (h : StoreOk codec s) (signed : SignedGrant)
    (verified : Option SeatTransferGrant) (callback : Option (BitVec 256)) :
    StoreOk codec (s.admitTransfer codec signed verified callback).store ∧
      Continues s (s.admitTransfer codec signed verified callback).store := by
  unfold Store.admitTransfer
  split
  · exact ⟨h, .of_seats rfl⟩
  refine h.onSeat (fun r => rowStep_admitTransfer r _ _ _ _) fun r hr hid hact => ?_
  have hactive : r.active = true := by
    cases ha : r.active with
    | true => rfl
    | false =>
      rw [((rowStep_admitTransfer r _ _ _ _).persists.retired ha).1] at hact
      cases hact
  refine ⟨hactive, fun federation hc => ?_⟩
  unfold SeatRows.admitTransfer at hc
  dsimp only at hc
  split at hc
  · exact .inl hc
  split at hc
  · split at hc <;> exact .inl hc
  split at hc
  · exact .inl hc
  split at hc
  · exact .inl hc
  · exact .inl hc
  rename_i havail
  rcases hc with ⟨f, hf, hfed⟩ | ⟨t, ht, hfed⟩
  · exact .inl (Or.inl ⟨f, hf, hfed⟩)
  · cases ht
    subst hfed
    exact .inr (federationAvailable_spec havail)

theorem StoreOk.recordFormed {s} (h : StoreOk codec s) (id : QuoteId) (invite : InviteCode) (now : Int)
    (hnative : s.NativeFederation codec id invite) :
    StoreOk codec (s.recordFormed id invite now).store ∧ Continues s (s.recordFormed id invite now).store := by
  refine h.onSeat (fun r => rowStep_recordFormed r invite now) fun r hr hid hact => ?_
  unfold SeatRows.recordFormed at hact ⊢
  split at hact
  · exact ⟨hact, fun federation hc => Or.inl hc⟩
  rename_i hnone
  refine ⟨hact, fun federation hc => ?_⟩
  rcases hc with ⟨f, hf, hfed⟩ | hin
  · cases hf
    exact .inr fun r' hr' hid' _ => hnative r hr hid hnone federation hfed r' hr' hid'
  · exact .inl (Or.inr hin)

theorem OnePerFederation.insert {t t' r} (h : OnePerFederation codec t) (hi : t.insert r = some t')
    (hfree : ∀ federation, r.Concerns codec federation →
      ∀ r' ∈ t.rows, r'.active = true → ¬ r'.Concerns codec federation) : OnePerFederation codec t' := by
  intro r₁ h₁ r₂ h₂ ha₁ ha₂ federation hc₁ hc₂
  rw [SeatTable.insert_rows hi] at h₁ h₂
  rcases List.mem_cons.mp h₁ with rfl | hm₁
  · rcases List.mem_cons.mp h₂ with rfl | hm₂
    · rfl
    · exact absurd hc₂ (hfree federation hc₁ r₂ hm₂ ha₂)
  · rcases List.mem_cons.mp h₂ with rfl | hm₂
    · exact absurd hc₁ (hfree federation hc₂ r₁ hm₁ ha₁)
    · exact h r₁ hm₁ r₂ hm₂ ha₁ ha₂ federation hc₁ hc₂

theorem newSeat_not_concerns (n : NewSeat) (no : Nat) (now : Int) (federation : FederationId) :
    ¬ (n.rows no now).Concerns codec federation := by
  rintro (⟨f, hf, -⟩ | ⟨t, ht, -⟩)
  · cases hf
  · cases ht

theorem newSeat_ok (n : NewSeat) (no : Nat) (now : Int) : RowsOk (n.rows no now) :=
  ⟨fun t ht => (by cases ht), fun h => (by cases h), fun h => (by cases h)⟩

theorem StoreOk.admitSeat {s} (h : StoreOk codec s) (new : NewSeat) (epoch : OfferEpoch) (first : PortBase)
    (now : Int) (fresh : OfferEpoch) (hstage : s.stage = .complete) :
    StoreOk codec (s.admitSeatAtWriterBoundary new epoch first now fresh).store ∧
      Continues s (s.admitSeatAtWriterBoundary new epoch first now fresh).store := by
  unfold Store.admitSeatAtWriterBoundary
  split
  · exact ⟨h, .of_seats rfl⟩
  split
  · exact ⟨h, .of_seats rfl⟩
  dsimp only
  split
  · exact ⟨h, .of_seats rfl⟩
  split
  · exact ⟨h, .of_seats rfl⟩
  rename_i seats hins
  refine ⟨⟨fun r hr => ?_, h.apart.insert hins fun federation hc => ?_, fun hst => ?_⟩, fun r hr => ?_⟩
  · rw [SeatTable.insert_rows hins] at hr
    rcases List.mem_cons.mp hr with rfl | hr
    · exact newSeat_ok _ _ _
    · exact h.rows r hr
  · exact absurd hc (newSeat_not_concerns _ _ _ _)
  · rw [hstage] at hst
    cases hst
  refine ⟨r, ?_, .refl r⟩
  rw [SeatTable.insert_rows hins]
  exact List.mem_cons_of_mem _ hr

theorem StoreOk.write {s t} (h : StoreOk codec s) (hs : HostStep codec s t) : StoreOk codec t ∧ Continues s t := by
  cases hs with
  | admitSeat new epoch first now fresh hstage => exact h.admitSeat new epoch first now fresh hstage
  | recordDkgInputs id codes => exact h.onSeat_narrow fun r => narrows_recordDkgInputs r codes
  | recordFormed id invite now hnative => exact h.recordFormed id invite now hnative
  | admitTransfer signed verified callback => exact h.admitTransfer signed verified callback
  | acceptTransfer id binding keys invite now hinvite =>
    exact h.onSeat_narrow fun r => narrows_acceptTransfer r keys now hinvite
  | retireForTransfer id => exact h.onSeat_narrow narrows_retireForTransfer
  | recordTransferRemoval id => exact h.onSeat_narrow narrows_recordTransferRemoval
  | decommissionSeat id now => exact h.onSeat_narrow fun r => narrows_decommission r now
  | recordClaimOutcome id outcome now => exact h.onSeat_narrow fun r => narrows_recordClaimOutcome r outcome now
  | recordBackupPublication =>
    exact h.onSeat_narrow fun r => RowStep.narrows (.of_same rfl rfl rfl rfl id fun _ => rfl) rfl (.inl rfl)
  | elsewhere _ hseats hstage =>
    refine ⟨⟨?_, ?_, fun hst => ?_⟩, .of_seats hseats⟩
    · rw [hseats]
      exact h.rows
    · rw [hseats]
      exact h.apart
    · rw [hseats]
      exact h.fresh (hstage hst)

/-! ## Restored fleets -/

theorem SeatRecoveryFacts.plan_parts {facts : SeatFacts} {f : SeatRecoveryFacts} {digest read}
    {p : SeatPublication} (h : f.plan codec facts digest read = .ok p) :
    ∃ sha, f.archivePart codec digest read = .ok (p.archive, sha) ∧
      f.transferBackup = .ok p.document.transfer ∧ p.document.validateTransfer codec = .ok () ∧
      p.document = ⟨facts.seatId, facts.faId, facts.plan, facts.federationSize, facts.createdAtMs, f.payment,
        sha.map (fun d => ⟨d, f.formedInvite⟩), f.decommissionedAtMs, p.document.transfer⟩ := by
  obtain ⟨⟨archive, sha⟩, ha, h⟩ := Lib.bind_eq_ok.mp h
  obtain ⟨transfer, ht, h⟩ := Lib.bind_eq_ok.mp h
  obtain ⟨u, hv, h⟩ := Lib.bind_eq_ok.mp h
  cases h
  exact ⟨sha, ha, ht, hv, rfl⟩

theorem SeatRecoveryFacts.archivePart_none {f : SeatRecoveryFacts} {digest read archive}
    (h : f.archivePart codec digest read = .ok (archive, none)) :
    f.outgoing = some .removed ∨ f.formedInvite = none := by
  unfold SeatRecoveryFacts.archivePart at h
  split at h
  · exact .inl ‹_›
  split at h
  · cases h
  split at h
  · rename_i hn
    exact .inr (by simpa using hn)
  · split at h <;> cases h

theorem SeatRows.acceptedBackup_eq {r} (hok : RowsOk r) :
    r.seatRecoveryFacts.acceptedBackup.map
      (fun i => (⟨i.binding, i.callbackCommitment, .imported i.keys⟩ : IncomingTransfer)) =
      r.transferIn.filter (·.accepted.isSome) := by
  have hf : r.seatRecoveryFacts.incoming = r.transferIn := rfl
  have ho : r.seatRecoveryFacts.outgoing = r.transferOut := rfl
  unfold SeatRecoveryFacts.acceptedBackup
  rw [hf, ho]
  cases ht : r.transferIn with
  | none => rfl
  | some t =>
    have hnot : r.transferOut ≠ some .removed := fun hrem => by
      rw [hok.removed hrem] at ht
      cases ht
    obtain ⟨binding, commitment, state⟩ := t
    cases state with
    | waiting g => simp [hnot, IncomingTransfer.accepted, Option.filter]
    | imported keys => simp [hnot, IncomingTransfer.accepted, Option.filter]

theorem restoredRows_of_plan {r r' digest read p seatNo now} (hok : RowsOk r)
    (hplan : r.seatRecoveryFacts.plan codec r.facts digest read = .ok p)
    (h : p.document.restoredRows seatNo now = .ok r') : r' = r.survives seatNo now := by
  obtain ⟨sha, harch, htransfer, -, hdoc⟩ := SeatRecoveryFacts.plan_parts hplan
  obtain ⟨hin, hout⟩ := SeatRecoveryFacts.transferBackup_eq htransfer
  have hclaim : r.seatRecoveryFacts.payment.map (fun e => ({ evidence := e } : EcashClaim)) =
      r.claim.map (fun c => { evidence := c.evidence }) := by
    cases hc : r.claim <;> simp [SeatRows.seatRecoveryFacts, hc]
  have hphase : (p.document.transfer.bind (·.outgoing)).map (·.phase) = r.transferOut := by
    rcases hout with ⟨h₁, h₂⟩ | ⟨phase, invite, h₁, h₂, -⟩
    · rw [h₁]
      exact h₂.symm
    · rw [h₁]
      exact h₂.symm
  rw [hdoc] at h
  unfold SeatBackupDocument.restoredRows SeatBackupDocument.toSeatFacts at h
  dsimp only at h
  rw [hin, SeatRows.acceptedBackup_eq hok, hclaim, hphase] at h
  split at h
  · split at h
    · rename_i invite hinvite
      cases h
      -- the stored invite is the seat's
      have hformed : r.seatRecoveryFacts.formedInvite = some invite := by
        rcases Option.or_eq_some_iff.mp hinvite with hg | ⟨-, ho⟩
        · obtain ⟨g, hg, hgi⟩ := Option.bind_eq_some_iff.mp hg
          obtain ⟨d, -, rfl⟩ := Option.map_eq_some_iff.mp hg
          exact hgi
        rcases hout with ⟨h₁, -⟩ | ⟨phase, i, h₁, -, h₃⟩
        · rw [h₁] at ho
          cases ho
        · rw [h₁] at ho
          cases ho
          exact h₃
      obtain ⟨f, hf, rfl⟩ := Option.map_eq_some_iff.mp hformed
      simp [SeatRows.survives, hf, SeatRows.seatRecoveryFacts]
    · cases h
  rename_i hnone
  cases h
  -- without a guardian and a fence the seat is not formed
  simp only [Bool.or_eq_true, not_or, Bool.not_eq_true, Option.isSome_eq_false_iff,
    Option.isNone_iff_eq_none, Option.map_eq_none_iff] at hnone
  have hformed : r.formed = none := by
    rw [hnone.1] at harch
    rcases SeatRecoveryFacts.archivePart_none harch with hrem | hnot
    · rw [hnone.2] at hphase
      have : r.transferOut = some .removed := hrem
      rw [← hphase] at this
      cases this
    · simpa [SeatRows.seatRecoveryFacts] using hnot
  simp [SeatRows.survives, hformed, SeatRows.seatRecoveryFacts]

theorem survives_ok {r} (h : RowsOk r) (seatNo : Nat) (now : Int) : RowsOk (r.survives seatNo now) where
  imported := fun t ht _ => by
    obtain ⟨ht, ha⟩ := Option.filter_eq_some_iff.mp ht
    simpa [SeatRows.survives] using h.imported t ht ha
  undkg := fun _ => rfl
  removed := fun hrem => by
    simp [SeatRows.survives, h.removed hrem]

theorem concerns_of_survives {r : SeatRows} {seatNo now federation}
    (h : (r.survives seatNo now).Concerns codec federation) : r.Concerns codec federation := by
  rcases h with ⟨f, hf, hc⟩ | ⟨t, ht, hc⟩
  · obtain ⟨f', hf', rfl⟩ := Option.map_eq_some_iff.mp hf
    exact .inl ⟨f', hf', hc⟩
  · exact .inr ⟨t, (Option.filter_eq_some_iff.mp ht).1, hc⟩

theorem insertRestored_rows {t t' : SeatTable} {seat : RestoredSeat} (h : t.insertRestored seat = .ok t') :
    ∃ r, seat.document.restoredRows seat.seatNo seat.now = .ok r ∧ t.insert r = some t' := by
  obtain ⟨r, hr, h⟩ := Lib.bind_eq_ok.mp h
  split at h
  · cases h
    exact ⟨r, hr, ‹_›⟩
  · cases h

theorem insertFleet_rows {t t' : SeatTable} {fleet} (h : t.insertFleet fleet = .ok t') :
    ∀ r ∈ t'.rows, r ∈ t.rows ∨ ∃ seat ∈ fleet, seat.document.restoredRows seat.seatNo seat.now = .ok r := by
  induction fleet generalizing t with
  | nil =>
    cases h
    exact fun r hr => Or.inl hr
  | cons seat rest ih =>
    obtain ⟨t₁, h₁, h₂⟩ := Lib.bind_eq_ok.mp h
    obtain ⟨r₁, hr₁, hins⟩ := insertRestored_rows h₁
    intro r hr
    rcases ih h₂ r hr with hr | ⟨seat', hs, hr⟩
    · rw [SeatTable.insert_rows hins] at hr
      rcases List.mem_cons.mp hr with rfl | hr
      · exact .inr ⟨seat, List.mem_cons_self, hr₁⟩
      · exact .inl hr
    · exact .inr ⟨seat', List.mem_cons_of_mem _ hs, hr⟩

theorem restored_of_published {source fleet t} (hsource : StoreOk codec source)
    (hfleet : ∀ seat ∈ fleet, Published codec source seat.document)
    (h : SeatTable.empty.insertFleet fleet = .ok t) {r'} (hr' : r' ∈ t.rows) :
    ∃ r ∈ source.seats.rows, ∃ seatNo now, r' = r.survives seatNo now := by
  rcases insertFleet_rows h r' hr' with hr | ⟨seat, hs, hrows⟩
  · cases hr
  · obtain ⟨r, hr, digest, read, p, hplan, hdoc⟩ := hfleet seat hs
    rw [← hdoc] at hrows
    exact ⟨r, hr, seat.seatNo, seat.now, restoredRows_of_plan (hsource.rows r hr) hplan hrows⟩

theorem seatTable_eq_empty {t : SeatTable} (h : t.rows = []) : t = .empty := by
  obtain ⟨rows, h₁, h₂⟩ := t
  subst h
  rfl

theorem StoreOk.restore {s source fleet} (h : StoreOk codec s) (hsource : StoreOk codec source)
    (hfleet : ∀ seat ∈ fleet, Published codec source seat.document) :
    StoreOk codec (s.installRestoredFleet fleet).store ∧ Continues s (s.installRestoredFleet fleet).store := by
  unfold Store.installRestoredFleet
  split
  · exact ⟨h, .of_seats rfl⟩
  rename_i hstage
  have hempty : s.seats.rows = [] := h.fresh (by simpa using hstage)
  rw [seatTable_eq_empty hempty]
  split
  · exact ⟨h, .of_seats rfl⟩
  rename_i seats hins
  refine ⟨⟨fun r' hr' => ?_, ?_, fun hst => (by cases hst)⟩, fun r hr => ?_⟩
  · obtain ⟨r, hr, seatNo, now, rfl⟩ := restored_of_published hsource hfleet hins hr'
    exact survives_ok (hsource.rows r hr) seatNo now
  · -- two restored seats of one federation survive one seat of the source
    intro r₁ h₁ r₂ h₂ ha₁ ha₂ federation hc₁ hc₂
    obtain ⟨x, hx, n₁, t₁, rfl⟩ := restored_of_published hsource hfleet hins h₁
    obtain ⟨y, hy, n₂, t₂, rfl⟩ := restored_of_published hsource hfleet hins h₂
    exact hsource.apart x hx y hy ha₁ ha₂ federation (concerns_of_survives hc₁) (concerns_of_survives hc₂)
  · rw [hempty] at hr
    cases hr

theorem StoreOk.of_reachable {s} (h : Reachable codec s) : StoreOk codec s := by
  induction h with
  | fresh s hseats hstage =>
    have hrows : s.seats.rows = [] := by
      rw [hseats]
      rfl
    refine ⟨fun r hr => ?_, fun r hr => ?_, fun _ => hrows⟩
    · rw [hrows] at hr
      cases hr
    · rw [hrows] at hr
      cases hr
  | write _ hs ih => exact (ih.write hs).1
  | restore fleet _ _ hfleet ih ihs => exact (ih.restore ihs hfleet).1

end Manifold.Guardian
