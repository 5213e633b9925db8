import Mathlib.Data.UInt
import Mathlib.Data.List.Dedup
import Mathlib.Data.Prod.Lex
import Mathlib.Data.String.Basic
import Mathlib.Order.WithBot
import Manifold.Lib.Machine
import Manifold.FaClient.Quotes

/-!
# Previewing a selection of guardians

`preview_mg_selection_with` and `approve` (`crates/fa-client/src/selection.rs`).
-/

namespace Manifold.FaClient

def FedimintdDkgVersion.key (v : FedimintdDkgVersion) : ℕ ×ₗ ℕ ×ₗ WithBot String :=
  toLex (v.major, toLex (v.minor, v.vendor))

theorem FedimintdDkgVersion.key_injective : Function.Injective FedimintdDkgVersion.key := by
  rintro ⟨major, minor, vendor⟩ ⟨major', minor', vendor'⟩ h
  obtain ⟨rfl, h⟩ := Prod.mk.inj (toLex.injective h)
  obtain ⟨rfl, rfl⟩ := Prod.mk.inj (toLex.injective h)
  rfl

instance : LinearOrder FedimintdDkgVersion :=
  LinearOrder.lift' FedimintdDkgVersion.key FedimintdDkgVersion.key_injective

structure EligibleMgCandidate where
  mgId : PublicKey
  advertisedPriceMsats : UInt64
  fedimintdDkgVersion : FedimintdDkgVersion
deriving DecidableEq

structure RejectedAdvertisement where
  author : PublicKey
  reason : String
deriving DecidableEq

structure MgDiscovery where
  candidates : List EligibleMgCandidate
  rejected : List RejectedAdvertisement := []

def MgDiscovery.seen (d : MgDiscovery) : Nat := d.candidates.length + d.rejected.length

structure SelectedMgSeat where
  candidate : EligibleMgCandidate
deriving DecidableEq

structure CohortOutcome (cohort : List EligibleMgCandidate) where
  seats : List SelectedMgSeat
  drawn : ∀ seat ∈ seats, seat.candidate ∈ cohort
  rejected : List RejectedAdvertisement := []

abbrev SeatSelection :=
  FedimintdDkgVersion → (cohort : List EligibleMgCandidate) → CohortOutcome cohort

inductive SelectionError where
  | selectionEstimateOverflow
  | insufficientMgSeats (requested selected seen eligible : Nat)
  | selection (reason : String)
  | advertisementEstimateExceedsLimit
deriving DecidableEq

structure MgSelectionPreview where
  federationSize : FederationSize
  fedimintdDkgVersion : FedimintdDkgVersion
  seats : List SelectedMgSeat
  totalAdvertisedMsats : UInt64
  seen : Nat
  eligible : Nat
  rejected : List RejectedAdvertisement
  validUntil : UInt64
deriving DecidableEq

structure MgSelectionApproval where
  federationSize : FederationSize
  fedimintdDkgVersion : FedimintdDkgVersion
  seats : List SelectedMgSeat
  advertisedTotalMsats : UInt64
  maxTotalMsats : UInt64
  validUntil : UInt64

def mgSelectionPreviewValidity : UInt64 := 5 * 60

structure BestCohort where
  total : UInt64
  version : FedimintdDkgVersion
  seats : List SelectedMgSeat
  rejected : List RejectedAdvertisement

structure CohortWalk where
  best : Option BestCohort := none
  largestPartial : Nat := 0
  completeOverflowed : Bool := false

def advertisedTotal (seats : List SelectedMgSeat) : Option UInt64 :=
  seats.foldlM (fun total seat => checkedAdd total seat.candidate.advertisedPriceMsats) 0

section

variable (select : SeatSelection) (size : FederationSize) (d : MgDiscovery)

def MgDiscovery.versions : List FedimintdDkgVersion :=
  ((d.candidates.map (·.fedimintdDkgVersion)).dedup.mergeSort (· ≤ ·)).reverse

def MgDiscovery.cohort (version : FedimintdDkgVersion) : List EligibleMgCandidate :=
  d.candidates.filter (·.fedimintdDkgVersion = version)

def MgDiscovery.outcome (version : FedimintdDkgVersion) : CohortOutcome (d.cohort version) :=
  select version (d.cohort version)

def CohortWalk.visit (w : CohortWalk) (version : FedimintdDkgVersion) : CohortWalk :=
  let outcome := d.outcome select version
  let w := { w with largestPartial := max w.largestPartial outcome.seats.length }
  if outcome.seats.length < size then w
  else
    match advertisedTotal outcome.seats with
    | none => { w with completeOverflowed := true }
    | some total =>
      if w.best.all (fun b => total < b.total || (total == b.total && b.version < version)) then
        { w with best := some ⟨total, version, outcome.seats, outcome.rejected⟩ }
      else w

def previewMgSelectionWith (completedAt : UInt64) : Except SelectionError MgSelectionPreview :=
  let w := d.versions.foldl (CohortWalk.visit select size d) {}
  match w.best with
  | none =>
    if w.completeOverflowed then .error .selectionEstimateOverflow
    else .error (.insufficientMgSeats size w.largestPartial d.seen d.candidates.length)
  | some best =>
    match checkedAdd completedAt mgSelectionPreviewValidity with
    | none => .error (.selection "selection preview expiry overflows")
    | some validUntil =>
      .ok ⟨size, best.version, best.seats, best.total, d.seen, d.candidates.length, d.rejected ++ best.rejected,
        validUntil⟩

end

def MgSelectionPreview.approve (p : MgSelectionPreview) (maxTotalMsats : UInt64) :
    Except SelectionError MgSelectionApproval :=
  if maxTotalMsats < p.totalAdvertisedMsats then .error .advertisementEstimateExceedsLimit
  else
    .ok ⟨p.federationSize, p.fedimintdDkgVersion, p.seats, p.totalAdvertisedMsats, maxTotalMsats, p.validUntil⟩

/-! ## Cohorts -/

section

variable (select : SeatSelection) (size : FederationSize) (d : MgDiscovery) (v : FedimintdDkgVersion)

def priceSum (seats : List SelectedMgSeat) : Nat := (seats.map (·.candidate.advertisedPriceMsats.toNat)).sum

def Fills : Prop := size ≤ (d.outcome select v).seats.length

def Costs (total : UInt64) : Prop := priceSum (d.outcome select v).seats = total.toNat

def BestCohort.Beats (b : BestCohort) (total : UInt64) (v : FedimintdDkgVersion) : Prop :=
  b.total < total ∨ b.total = total ∧ v ≤ b.version

def LargestPartial (vs : List FedimintdDkgVersion) (selected : Nat) : Prop :=
  (∀ v ∈ vs, (d.outcome select v).seats.length ≤ selected) ∧
    (selected = 0 ∨ ∃ v ∈ vs, (d.outcome select v).seats.length = selected)

def BestCohort.FoundIn (vs : List FedimintdDkgVersion) (b : BestCohort) : Prop :=
  b.version ∈ vs ∧ Fills select size d b.version ∧ b.seats = (d.outcome select b.version).seats ∧
    Costs select d b.version b.total

structure Walked (vs : List FedimintdDkgVersion) (w : CohortWalk) : Prop where
  largest : LargestPartial select d vs w.largestPartial
  overflowed : w.completeOverflowed = true ↔ ∃ v ∈ vs, Fills select size d v ∧ ∀ total, ¬ Costs select d v total
  best : ∀ v ∈ vs, Fills select size d v → ∀ total, Costs select d v total → ∃ b, w.best = some b ∧ b.Beats total v
  found : ∀ b, w.best = some b → b.FoundIn select size d vs

structure MgSelectionPreview.IsBest (p : MgSelectionPreview) : Prop where
  cohort : p.fedimintdDkgVersion ∈ d.versions
  fills : Fills select size d p.fedimintdDkgVersion
  seats : p.seats = (d.outcome select p.fedimintdDkgVersion).seats
  version : ∀ seat ∈ p.seats, seat.candidate.fedimintdDkgVersion = p.fedimintdDkgVersion
  total : priceSum p.seats = p.totalAdvertisedMsats.toNat
  cheapest : ∀ v ∈ d.versions, Fills select size d v → ∀ total, Costs select d v total →
    p.totalAdvertisedMsats ≤ total ∧ (total = p.totalAdvertisedMsats → v ≤ p.fedimintdDkgVersion)

end

section

variable {select : SeatSelection} {size : FederationSize} {d : MgDiscovery} {v : FedimintdDkgVersion} {w : CohortWalk}
  {vs : List FedimintdDkgVersion} {total : UInt64}

theorem foldlM_advertised (seats : List SelectedMgSeat) (total t : UInt64) :
    seats.foldlM (fun total seat => checkedAdd total seat.candidate.advertisedPriceMsats) total = some t ↔
      total.toNat + priceSum seats = t.toNat := by
  induction seats generalizing total with
  | nil => simp [priceSum, UInt64.toNat_inj]
  | cons seat seats ih =>
    rw [List.foldlM_cons, checkedAdd, priceSum, List.map_cons, List.sum_cons, ← Nat.add_assoc]
    split
    · rename_i hlt
      simp only [Option.bind_eq_bind, Option.bind_some]
      rw [ih, UInt64.toNat_add, Nat.mod_eq_of_lt hlt]
      rfl
    · have := t.toNat_lt
      simp only [Option.bind_eq_bind, Option.bind_none, reduceCtorEq, false_iff]
      omega

theorem advertisedTotal_eq_some : advertisedTotal (d.outcome select v).seats = some total ↔ Costs select d v total := by
  have h := foldlM_advertised (d.outcome select v).seats 0 total
  rwa [UInt64.toNat_zero, Nat.zero_add] at h

theorem BestCohort.Beats.of_better {b b' : BestCohort}
    (h : b.total < b'.total ∨ b.total = b'.total ∧ b'.version < b.version) (hb : b'.Beats total v) :
    b.Beats total v := by
  rcases h with h | ⟨he, hv⟩
  · exact .inl (hb.elim (UInt64.lt_trans h) fun h' => h'.1 ▸ h)
  · exact hb.imp (fun h' => he ▸ h') fun h' => ⟨he.trans h'.1, h'.2.trans hv.le⟩

theorem BestCohort.Beats.of_not_better {b : BestCohort}
    (h : ¬ (total < b.total ∨ total = b.total ∧ b.version < v)) : b.Beats total v := by
  simp only [not_or, not_and, UInt64.not_lt, not_lt] at h
  rcases UInt64.lt_or_eq_of_le h.1 with hlt | heq
  · exact .inl hlt
  · exact .inr ⟨heq, h.2 heq.symm⟩

theorem LargestPartial.visit {selected} (h : LargestPartial select d vs selected) :
    LargestPartial select d (vs ++ [v]) (max selected (d.outcome select v).seats.length) := by
  constructor
  · rw [List.forall_mem_append, List.forall_mem_singleton]
    exact ⟨fun v hv => (h.1 v hv).trans (le_max_left _ _), le_max_right _ _⟩
  simp only [List.mem_append, List.mem_singleton, or_and_right, exists_or, exists_eq_left]
  rcases max_choice selected (d.outcome select v).seats.length with hm | hm
  · rw [hm]
    exact h.2.imp_right .inl
  · exact .inr (.inr hm.symm)

theorem Walked.visit (h : Walked select size d vs w) : Walked select size d (vs ++ [v]) (w.visit select size d v) := by
  have hlargest := h.largest.visit (v := v)
  have hfound : ∀ b, w.best = some b → b.FoundIn select size d (vs ++ [v]) :=
    fun b hb => ⟨List.mem_append_left _ (h.found b hb).1, (h.found b hb).2⟩
  have hbest : (∀ total, Fills select size d v → ¬ Costs select d v total) →
      ∀ v' ∈ vs ++ [v], Fills select size d v' → ∀ total, Costs select d v' total →
        ∃ b, w.best = some b ∧ b.Beats total v' := by
    intro hno v' hv' hf total ht
    rcases Lib.mem_snoc.mp hv' with hv' | rfl
    · exact h.best v' hv' hf total ht
    · exact absurd ht (hno total hf)
  unfold CohortWalk.visit
  extract_lets outcome w'
  split
  · rename_i hlt
    have hshort : ¬ Fills select size d v := Nat.not_le.mpr hlt
    exact ⟨hlargest, by simp [h.overflowed, hshort, w', or_and_right, exists_or], hbest fun _ hf => absurd hf hshort, hfound⟩
  rename_i hge
  have hfill : Fills select size d v := Nat.le_of_not_lt hge
  split
  · rename_i hnone
    have hno : ∀ total, ¬ Costs select d v total := by
      intro total ht
      rw [advertisedTotal_eq_some.mpr ht] at hnone
      cases hnone
    exact ⟨hlargest, by simp [hfill, hno], hbest fun total _ => hno total, hfound⟩
  rename_i total htotal
  have hcosts : Costs select d v total := advertisedTotal_eq_some.mp htotal
  have hown : ∀ {t}, Costs select d v t → total = t := fun h => UInt64.toNat_inj.mp (hcosts.symm.trans h)
  have hover : w.completeOverflowed = true ↔
      ∃ v' ∈ vs ++ [v], Fills select size d v' ∧ ∀ total, ¬ Costs select d v' total := by
    simp [h.overflowed, show ∃ total, Costs select d v total from ⟨total, hcosts⟩, or_and_right, exists_or]
  split
  · rename_i hall
    refine ⟨hlargest, hover, fun v' hv' hf t ht => ⟨_, rfl, ?_⟩, ?_⟩
    · rcases List.mem_append.mp hv' with hv' | hv'
      · obtain ⟨b, hb, hbeats⟩ := h.best v' hv' hf t ht
        simp only [w', hb, Option.all_some, Bool.or_eq_true, Bool.and_eq_true, beq_iff_eq, decide_eq_true_eq] at hall
        exact .of_better hall hbeats
      · rw [List.mem_singleton.mp hv'] at ht ⊢
        exact .inr ⟨hown ht, le_refl v⟩
    · rintro _ ⟨⟩
      exact ⟨List.mem_append_right _ (List.mem_singleton_self v), hfill, rfl, hcosts⟩
  · rename_i hall
    refine ⟨hlargest, hover, fun v' hv' hf t ht => ?_, hfound⟩
    rcases Lib.mem_snoc.mp hv' with hv' | rfl
    · exact h.best v' hv' hf t ht
    cases hb : w.best with
    | none => simp [w', hb] at hall
    | some b => exact ⟨b, rfl, hown ht ▸ .of_not_better (by simpa [w', hb] using hall)⟩

theorem Walked.foldl {us} (h : Walked select size d vs w) :
    Walked select size d (vs ++ us) (us.foldl (CohortWalk.visit select size d) w) := by
  induction us generalizing vs w with
  | nil => simpa using h
  | cons u us ih => simpa using ih (h.visit (v := u))

theorem walked_versions : Walked select size d d.versions (d.versions.foldl (CohortWalk.visit select size d) {}) :=
  have h : Walked select size d [] {} := ⟨⟨by simp, .inl rfl⟩, by simp, by simp, by simp⟩
  h.foldl

theorem MgSelectionPreview.approve_ok {p : MgSelectionPreview} {limit : UInt64} :
    (∃ a, p.approve limit = .ok a) ↔ p.totalAdvertisedMsats ≤ limit := by
  unfold approve
  split
  · rename_i hlt
    simpa using hlt
  · rename_i hge
    simpa using hge

theorem preview_offers_best_cohort (select : SeatSelection) (size : FederationSize) (d : MgDiscovery)
    (completedAt : UInt64) :
    ((∃ p, previewMgSelectionWith select size d completedAt = .ok p) ↔
        (∃ v ∈ d.versions, Fills select size d v ∧ ∃ total, Costs select d v total) ∧
          completedAt.toNat + mgSelectionPreviewValidity.toNat < 2 ^ 64) ∧
      (∀ p, previewMgSelectionWith select size d completedAt = .ok p →
        p.IsBest select size d ∧ ∀ limit, (∃ a, p.approve limit = .ok a) ↔ p.totalAdvertisedMsats ≤ limit) ∧
      ((∀ v ∈ d.versions, Fills select size d v → ∀ total, ¬ Costs select d v total) →
        (previewMgSelectionWith select size d completedAt = .error .selectionEstimateOverflow ↔
            ∃ v ∈ d.versions, Fills select size d v) ∧
          ((∀ v ∈ d.versions, ¬ Fills select size d v) → ∃ selected, LargestPartial select d d.versions selected ∧
            previewMgSelectionWith select size d completedAt =
              .error (.insufficientMgSeats size selected d.seen d.candidates.length))) := by
  have h := @walked_versions select size d
  unfold previewMgSelectionWith
  extract_lets w
  cases hb : w.best with
  | none =>
    have hno : ∀ v ∈ d.versions, Fills select size d v → ∀ total, ¬ Costs select d v total := by
      intro v hv hf total ht
      obtain ⟨b, hb', -⟩ := h.best v hv hf total ht
      rw [hb] at hb'
      cases hb'
    have hfail : ∀ p, (if w.completeOverflowed then .error .selectionEstimateOverflow
        else .error (.insufficientMgSeats size w.largestPartial d.seen d.candidates.length)) ≠
        (.ok p : Except SelectionError MgSelectionPreview) := by
      intro p hp
      split at hp <;> cases hp
    refine ⟨⟨fun ⟨p, hp⟩ => absurd hp (hfail p), ?_⟩, fun p hp => absurd hp (hfail p),
      fun _ => ⟨?_, fun hnone => ⟨w.largestPartial, h.largest, ?_⟩⟩⟩
    · rintro ⟨⟨v, hv, hf, total, ht⟩, -⟩
      exact absurd ht (hno v hv hf total)
    · have : (∃ v ∈ d.versions, Fills select size d v) ↔ w.completeOverflowed = true := by
        rw [h.overflowed]
        exact exists_congr fun v => and_congr_right fun hv => (and_iff_left_of_imp (hno v hv)).symm
      rw [this]
      simp
    · have : w.completeOverflowed = false := by
        rw [← Bool.not_eq_true, h.overflowed]
        rintro ⟨v, hv, hf, -⟩
        exact hnone v hv hf
      simp [this]
  | some b =>
    obtain ⟨hv, hf, hseats, hcosts⟩ := h.found b hb
    have hex : ∃ v ∈ d.versions, Fills select size d v ∧ ∃ total, Costs select d v total :=
      ⟨b.version, hv, hf, b.total, hcosts⟩
    refine ⟨?_, fun p hp => ⟨?_, fun _ => MgSelectionPreview.approve_ok⟩, fun hno => ?_⟩
    · simp only [checkedAdd, hex, true_and]
      split <;> simp_all
    · dsimp only at hp
      split at hp <;> cases hp
      refine ⟨hv, hf, hseats, fun seat hs => ?_, by rw [hseats]; exact hcosts, fun v hv' hf' total ht => ?_⟩
      · rw [hseats] at hs
        exact of_decide_eq_true (List.mem_filter.mp ((d.outcome select b.version).drawn seat hs)).2
      · obtain ⟨b', hb', hbeats⟩ := h.best v hv' hf' total ht
        obtain rfl : b = b' := Option.some.inj (hb.symm.trans hb')
        rcases hbeats with hlt | ⟨heq, hle⟩
        · exact ⟨UInt64.le_of_lt hlt, fun he => absurd (he ▸ hlt) (UInt64.lt_irrefl _)⟩
        · exact ⟨heq ▸ UInt64.le_refl _, fun _ => hle⟩
    · exact absurd hcosts (hno _ hv hf _)

def soleCandidate : EligibleMgCandidate := ⟨"mg", 5, ⟨0, 7, none⟩⟩

def takeAll : SeatSelection := fun _ cohort => ⟨cohort.map (⟨·⟩), by simp, []⟩

theorem preview_fails_at_last_second :
    (⟨0, 7, none⟩ : FedimintdDkgVersion) ∈ MgDiscovery.versions ⟨[soleCandidate], []⟩ ∧
      Fills takeAll 1 ⟨[soleCandidate], []⟩ ⟨0, 7, none⟩ ∧ Costs takeAll ⟨[soleCandidate], []⟩ ⟨0, 7, none⟩ 5 ∧
      previewMgSelectionWith takeAll 1 ⟨[soleCandidate], []⟩ (2 ^ 64 - 1) =
        .error (.selection "selection preview expiry overflows") := by
  refine ⟨?_, ?_, ?_, ?_⟩
  · decide +kernel
  · unfold Fills; decide +kernel
  · unfold Costs; decide +kernel
  · decide +kernel

end

end Manifold.FaClient
