import Manifold.Guardian.Lemmas.Restore
import Manifold.Guardian.TransferTheorems

/-!
# A restore can be retried
-/

namespace Manifold.Guardian.Restore

variable {codec : Codec}

/-- Whatever installs of a fleet were cut on a host without identity: the next install ends, and uncut it leaves the
files and rows that an install of the untouched host leaves. No install changes a data directory that was there
before it, one that appears holds the fleet's archive, and the identity is stored only where every seat has its rows
and every guardian its directory. -/
theorem install_retryable (fleet : RecoveredFleet codec) (identity : RootMnemonic) {h₀ h : Host}
    (hnone : h₀.identity = none) (hcuts : Relation.ReflTransGen (CutIn fleet identity) h₀ h) :
    (∃ r t, Uncut fleet identity h r t) ∧
    (∀ r t, Uncut fleet identity h r t → CutIn fleet identity h t) ∧
    (∀ r t r₀ t₀, Uncut fleet identity h r t → Uncut fleet identity h₀ r₀ t₀ →
      (∀ no, t.disk.data no = t₀.disk.data no) ∧ SameRows t.store t₀.store ∧ t.identity = t₀.identity ∧
        (r = r₀ ∨ (h.identity.isSome = true ∧ r = .error .alreadyOnboarded ∧ r₀ = .ok ()))) ∧
    (∀ t, CutIn fleet identity h t → ∀ no, t.disk.data no = h.disk.data no ∨
      (h.disk.data no = none ∧ t.disk.data no = fleet.files no)) ∧
    (h.identity.isSome = true → ∀ no seat, (no, seat) ∈ fleet.numbered →
      (∃ r ∈ h.store.seats.rows, ∃ now, seat.restoredRows no now = .ok r) ∧
      ∀ guardian, seat.guardian = some guardian →
        ∃ dir, h.disk.data no = some dir ∧ Adoptable codec dir guardian.archiveSha256 = true) := by
  have hcases : Underway fleet identity h₀ h ∨ (h.identity = some identity.phrase ∧
      ∃ clock, Ran fleet identity h₀ clock h) := by
    rcases leaves_of_cuts hnone hcuts with hu | ⟨clock, hr⟩
    · exact .inl hu
    · rcases hr.cases hnone with hu | ⟨hid, -⟩
      · exact .inl hu
      · exact .inr ⟨hid, clock, hr⟩
  refine ⟨Lib.Task.exists_ends (fun e s => ?_) _ h, fun r t hu => hu.cut, fun r t r₀ t₀ hu hu₀ => ?_,
    fun t hc no => ?_, fun hsome no seat hm => ?_⟩
  · cases e <;> exact ⟨fun _ => 0, _, _, _, rfl⟩
  · have hf₀ := uncut_finished hnone hu₀
    rcases hcases with hunder | ⟨hid, clock, hr⟩
    · have hf := hunder.finished (uncut_finished (hunder.identity_eq.trans hnone) hu)
      obtain ⟨hdata, hrows, hident, hans⟩ := hf.agree hf₀
      exact ⟨hdata, hrows, hident, Or.inl hans⟩
    have hsome : h.identity.isSome = true := by
      rw [hid]
      rfl
    obtain ⟨rfl, rfl⟩ := uncut_onboarded hsome hu
    obtain ⟨hdata, hrows, hident, hans⟩ := (Finished.ran hr).agree hf₀
    refine ⟨hdata, hrows, hident, Or.inr ⟨hsome, rfl, ?_⟩⟩
    rcases hr.cases hnone with hu' | ⟨-, hok, -⟩
    · simp [hu'.identity_eq, hnone] at hsome
    · rw [← hans, hok]
      rfl
  · by_cases hsome : h.identity.isSome = true
    · obtain ⟨-, -, hseats⟩ := cutIn_onboarded hsome hc
      unfold Disk.data
      rw [hseats]
      exact .inl rfl
    have hno : h.identity = none := by simpa using hsome
    have hdata : t.disk.data no = h.disk.data no ∨ t.disk.data no = (h.disk.data no).or (fleet.files no) := by
      rcases cutIn_leaves hno hc with hu | ⟨clock, hr⟩
      · exact (hu.data no).imp_right And.right
      · exact .inr (hr.data no)
    cases hd : h.disk.data no with
    | none => simpa [hd] using hdata
    | some dir => exact .inl (by simpa [hd] using hdata)
  rcases hcases with hu | ⟨-, clock, hr⟩
  · simp [hu.identity_eq, hnone] at hsome
  rcases hr.cases hnone with hu | ⟨-, -, seats, hins, hseats⟩
  · simp [hu.identity_eq, hnone] at hsome
  · obtain ⟨r, hrow, hrestored⟩ := (insertFleet_has hins).2 _ (List.mem_map_of_mem hm)
    refine ⟨⟨r, by rw [hseats]; exact hrow, _, hrestored⟩, fun guardian hg => hr.guardian_dir hm hg⟩

/-! ## An install that is cut after its rename -/

def retriedArchive : GuardianArchive := ⟨"p", "l", "c"⟩

def retriedSeat : SeatBackupDocument where
  seatId := 10
  faId := 7
  plan := .infiniteBestEffort 1000
  federationSize := 4
  createdAtMs := 5
  payment := none
  guardian := some ⟨"plc", some "native"⟩
  decommissionedAtMs := none

def retriedFleet : RecoveredFleet plainCodec where
  seats := [retriedSeat]
  archives := fun _ => some retriedArchive
  verified := by
    intro seat hs guardian hg archive ha
    obtain rfl : seat = retriedSeat := by simpa using hs
    cases hg
    cases ha
    decide

def retriedIdentity : RootMnemonic := ⟨"abandon", 2⟩

def unsetHost : Host := ⟨freshHost, none, {}⟩

theorem install_retryable_renamed :
    ∃ h, Relation.ReflTransGen (CutIn retriedFleet retriedIdentity) unsetHost h ∧ h.identity = none ∧
      h.disk.data 0 = some retriedArchive.files ∧
      ∀ r t r₀ t₀, Uncut retriedFleet retriedIdentity h r t → Uncut retriedFleet retriedIdentity unsetHost r₀ t₀ →
        ∀ no, t.disk.data no = t₀.disk.data no := by
  have hcut : ∃ h, CutIn retriedFleet retriedIdentity unsetHost h ∧ h.identity = none ∧
      h.disk.data 0 = some retriedArchive.files := by
    refine ⟨?_, ?cut, ?id, ?data⟩
    -- identity, staging, seat root, data directory, four writes, the seat root and the rename
    case cut =>
      iterate 10 refine Lib.Task.Cut.await (x := fun _ => 0) rfl ?_
      exact .here _ _
    case id => rfl
    case data => rfl
  obtain ⟨h, hc, hid, hdata⟩ := hcut
  have hcuts := Relation.ReflTransGen.single hc
  exact ⟨h, hcuts, hid, hdata, fun r t r₀ t₀ hu hu₀ =>
    ((install_retryable retriedFleet retriedIdentity rfl hcuts).2.2.1 r t r₀ t₀ hu hu₀).1⟩

end Manifold.Guardian.Restore
