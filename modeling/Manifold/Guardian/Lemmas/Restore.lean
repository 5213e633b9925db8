import Manifold.Guardian.Lemmas.Transfers
import Manifold.Guardian.Restore

/-!
# What an install leaves
-/

namespace Manifold.Guardian.Restore

open Lib.Routine (Leads Spec leads_pure leads_throw leads_ask leads_ofExcept)

variable {codec : Codec} {I : Host → Prop} {h s t : Host}

/-! ## The disk -/

namespace Disk

def others (d : Disk) (no : Nat) : List String := ((d.seats no).map (·.others)).getD []

def place (d : Disk) (no : Nat) (dir : Dir) : Disk where
  staging := some []
  seats := fun n => if n = no then some ⟨d.others no, some dir⟩ else d.seats n

theorem data_place (d : Disk) (no n : Nat) (dir : Dir) :
    (d.place no dir).data n = if n = no then some dir else d.data n := by
  unfold Disk.data place
  dsimp only
  split <;> rfl

theorem others_place (d : Disk) (no n : Nat) (dir : Dir) : (d.place no dir).others n = d.others n := by
  unfold others place
  dsimp only
  split
  · next hn => subst hn; rfl
  · rfl

theorem data_createSeatRoot (d : Disk) (no n : Nat) : (d.createSeatRoot no).data n = d.data n := by
  unfold Disk.data createSeatRoot setSeat
  dsimp only
  split
  · next hn => subst hn; cases d.seats n <;> rfl
  · rfl

theorem others_createSeatRoot (d : Disk) (no n : Nat) : (d.createSeatRoot no).others n = d.others n := by
  unfold others createSeatRoot setSeat
  dsimp only
  split
  · next hn => subst hn; cases d.seats n <;> rfl
  · rfl

def Unstaged (d : Disk) : Prop := d.staging.getD [] = []

theorem Unstaged.createStaged {d : Disk} (hd : d.Unstaged) (no : Nat) :
    d.createStaged no = { d with staging := some [(no, [])] } := by
  unfold Unstaged at hd
  have hnone : d.staged no = none := by
    unfold staged
    cases hst : d.staging with
    | none => rfl
    | some l =>
      rw [hst] at hd
      have hl : l = [] := hd
      subst hl
      rfl
  unfold Disk.createStaged setStaged
  rw [hnone, hd]
  rfl

theorem renameStaged_single (d : Disk) (no : Nat) (dir : Dir) (hdata : d.data no = none) :
    (({ d with staging := some [(no, dir)] } : Disk).createSeatRoot no).renameStaged no = some (d.place no dir) := by
  unfold Disk.data at hdata
  cases hroot : d.seats no with
  | none =>
    simp [renameStaged, staged, createSeatRoot, setSeat, place, others, hroot]
    funext n
    split <;> rfl
  | some root =>
    have hd : root.data = none := by simpa [hroot] using hdata
    simp [renameStaged, staged, createSeatRoot, setSeat, place, others, hroot, hd]
    funext n
    split <;> rfl

end Disk

/-! ## The checks -/

theorem leads_read {e a} (he : ∀ x, handler e s x = some (a, s, [])) (hs : I s) :
    Leads handler I s (ask e) (.ok a) s := leads_ask he hs hs

theorem adoptable_files (a : GuardianArchive) : Adoptable codec a.files (codec.archiveDigest a) = true := by
  have hread : archiveOf (a.files.read privateConfigFile) (a.files.read localConfigFile)
      (a.files.read consensusConfigFile) = some a := rfl
  have hshape : archiveShape (a.files.map (fun e => (e.1, Entry.isFile e.2))) = true := rfl
  unfold Adoptable
  rw [hread, hshape]
  simp

theorem leads_isAdoptable {no dir digest} (hdir : s.disk.data no = some dir) (hs : I s) :
    Leads handler I s (isAdoptableRestoredSeatDir codec no digest) (.ok (Adoptable codec dir digest)) s := by
  refine Leads.bind (leads_read (e := .readData no) (fun _ => rfl) hs) ?_
  rw [hdir]
  change Leads handler I s (if archiveShape (dir.map (fun e => (e.1, Entry.isFile e.2))) then _ else _) _ s
  unfold Adoptable
  split
  · next hshape =>
      rw [hshape, Bool.true_and]
      have hread : ∀ name, (s.disk.data no).bind (·.read name) = dir.read name := fun name => by rw [hdir]; rfl
      refine Leads.bind (b := archiveOf (dir.read privateConfigFile) (dir.read localConfigFile)
        (dir.read consensusConfigFile)) ?_ leads_pure
      refine Leads.bind (leads_read (e := .readFile no _) (fun _ => rfl) hs) ?_
      refine Leads.bind (leads_read (e := .readFile no _) (fun _ => rfl) hs) ?_
      refine Leads.bind (leads_read (e := .readFile no _) (fun _ => rfl) hs) ?_
      rw [hread, hread, hread]
      exact leads_pure
  next hshape =>
    rw [Bool.not_eq_true] at hshape
    rw [hshape, Bool.false_and]
    exact leads_pure

def RecoveredFleet.destination (fleet : RecoveredFleet codec) (d : Disk) (no : Nat)
    (seat : SeatBackupDocument) : Except RestoreError Bool :=
  if (d.others no).any (· != "data") then .error (.seatDirectoryExists seat.seatId)
  else
    match seat.guardian, d.data no with
    | none, some _ => .error (.seatDirectoryExists seat.seatId)
    | none, none => .ok false
    | some guardian, some dir =>
      if Adoptable codec dir guardian.archiveSha256 then .ok false
      else .error (.seatDirectoryExists seat.seatId)
    | some _, none =>
      if (fleet.archives seat.seatId).isNone then .error (.missingArchive seat.seatId) else .ok true

inductive Fits (fleet : RecoveredFleet codec) (d : Disk) (no : Nat) (seat : SeatBackupDocument) : Bool → Prop where
  | empty (hg : seat.guardian = none) (hd : d.data no = none) : Fits fleet d no seat false
  | adopted {guardian dir} (hg : seat.guardian = some guardian) (hd : d.data no = some dir)
      (ha : Adoptable codec dir guardian.archiveSha256 = true) : Fits fleet d no seat false
  | missing {guardian archive} (hg : seat.guardian = some guardian) (hd : d.data no = none)
      (ha : fleet.archives seat.seatId = some archive) : Fits fleet d no seat true

theorem destination_ok {fleet : RecoveredFleet codec} {d no seat write} :
    fleet.destination d no seat = .ok write ↔
      (d.others no).any (· != "data") = false ∧ Fits fleet d no seat write := by
  unfold RecoveredFleet.destination
  constructor
  · intro h
    split at h
    · cases h
    next hno =>
      refine ⟨by simpa using hno, ?_⟩
      split at h
      · cases h
      · cases h
        exact .empty ‹_› ‹_›
      · split at h
        · cases h
          exact .adopted ‹_› ‹_› ‹_›
        · cases h
      · cases ha : fleet.archives seat.seatId <;> rw [ha] at h <;> cases h
        exact .missing ‹_› ‹_› ha
  · rintro ⟨hno, hfits⟩
    rw [if_neg (by simp [hno])]
    cases hfits <;> simp [*]

theorem leads_unexpected (no : Nat) (hs : I s) :
    Leads handler I s (seatRootHasUnexpectedEntries no) (.ok ((s.disk.others no).any (· != "data"))) s := by
  refine Leads.bind (leads_read (e := .readSeatRoot no) (fun _ => rfl) hs) ?_
  unfold Disk.others
  cases s.disk.seats no with
  | none => exact leads_pure
  | some root =>
    have hentries : root.entries.any (· != "data") = root.others.any (· != "data") := by
      unfold SeatRoot.entries
      cases root.data <;> simp
    rw [show ((some root).map (·.others)).getD [] = root.others from rfl, ← hentries]
    exact leads_pure

theorem leads_checkDestination (fleet : RecoveredFleet codec) (no : Nat) (seat : SeatBackupDocument)
    (hs : I s) :
    Leads handler I s (fleet.checkDestination no seat) (fleet.destination s.disk no seat) s := by
  refine Leads.bind (leads_unexpected no hs) ?_
  unfold RecoveredFleet.destination
  split
  · exact leads_throw
  refine Leads.bind (leads_read (e := .dataExists no) (fun _ => rfl) hs) ?_
  cases hg : seat.guardian with
  | none =>
    cases hd : s.disk.data no with
    | none => exact leads_pure
    | some dir => exact leads_throw
  | some guardian =>
    cases hd : s.disk.data no with
    | none =>
      change Leads handler I s (if (fleet.archives seat.seatId).isNone then _ else _) _ s
      split
      · exact leads_throw
      · exact leads_pure
    | some dir =>
      refine Leads.bind (leads_isAdoptable hd hs) ?_
      dsimp only
      split
      · exact leads_pure
      · exact leads_throw

def RecoveredFleet.destinations (fleet : RecoveredFleet codec) (d : Disk) :
    List (Nat × SeatBackupDocument) → Except RestoreError (List (Nat × SeatBackupDocument))
  | [] => .ok []
  | seat :: rest => do
      let write ← fleet.destination d seat.1 seat.2
      let more ← fleet.destinations d rest
      return if write then seat :: more else more

theorem leads_checkDestinations (fleet : RecoveredFleet codec) (seats : List (Nat × SeatBackupDocument))
    (hs : I s) :
    Leads handler I s (fleet.checkDestinations seats) (fleet.destinations s.disk seats) s := by
  induction seats with
  | nil => exact leads_pure
  | cons seat rest ih =>
    exact (leads_checkDestination fleet seat.1 seat.2 hs).bindExcept fun write => ih.bindExcept fun more => leads_pure

/-! ## Numbers -/

theorem numberFrom_eq (k : Nat) (seats : List SeatBackupDocument) :
    numberFrom k seats = (seats.zipIdx k).map Prod.swap := by
  induction seats generalizing k with
  | nil => rfl
  | cons first rest ih => simp [numberFrom, ih]

theorem mem_numberFrom {no k seat seats} : (no, seat) ∈ numberFrom k seats ↔ k ≤ no ∧ seats[no - k]? = some seat := by
  simp [numberFrom_eq, List.mk_mem_zipIdx_iff_le_and_getElem?_sub]

theorem numberFrom_mem {no k seat seats} (hm : (no, seat) ∈ numberFrom k seats) : seat ∈ seats :=
  List.mem_of_getElem? (mem_numberFrom.mp hm).2

theorem numberFrom_nodup (k : Nat) (seats : List SeatBackupDocument) : ((numberFrom k seats).map (·.1)).Nodup := by
  have hnos : (numberFrom k seats).map (·.1) = List.range' k seats.length := by
    rw [numberFrom_eq, List.map_map, ← List.zipIdx_map_snd]
    rfl
  rw [hnos]
  exact List.nodup_range'

theorem lookup_numberFrom {no k seat seats} :
    (numberFrom k seats).lookup no = some seat ↔ (no, seat) ∈ numberFrom k seats := by
  induction seats generalizing k with
  | nil => simp [numberFrom]
  | cons first rest ih =>
    unfold numberFrom
    by_cases hk : no = k
    · subst hk
      have hlater : (no, seat) ∉ numberFrom (no + 1) rest := by simp [mem_numberFrom]
      simp [hlater, eq_comm]
    · have hne : (no == k) = false := by simpa using hk
      rw [List.lookup_cons, hne, ih]
      simp [hk]

variable {fleet : RecoveredFleet codec} {identity : RootMnemonic} {no : Nat} {seat : SeatBackupDocument}

theorem RecoveredFleet.numbered_mem {p} (hm : p ∈ fleet.numbered) : p.2 ∈ fleet.seats :=
  (List.mem_insertionSort earlier).mp (numberFrom_mem hm)

theorem RecoveredFleet.files_of_mem {p} (hm : p ∈ fleet.numbered) :
    fleet.files p.1 = p.2.guardian.bind (fun _ => (fleet.archives p.2.seatId).map (·.files)) := by
  unfold RecoveredFleet.files
  rw [show fleet.numbered.lookup p.1 = some p.2 from lookup_numberFrom.mpr hm]
  rfl

theorem RecoveredFleet.files_some {dir} (hf : fleet.files no = some dir) :
    ∃ seat guardian archive, (no, seat) ∈ fleet.numbered ∧ seat.guardian = some guardian ∧
      fleet.archives seat.seatId = some archive ∧ dir = archive.files := by
  unfold RecoveredFleet.files at hf
  cases hl : fleet.numbered.lookup no with
  | none => simp [hl] at hf
  | some seat =>
    cases hg : seat.guardian with
    | none => simp [hl, hg] at hf
    | some guardian =>
      cases ha : fleet.archives seat.seatId with
      | none => simp [hl, hg, ha] at hf
      | some archive =>
        have hdir : archive.files = dir := by simpa [hl, hg, ha] using hf
        exact ⟨seat, guardian, archive, lookup_numberFrom.mp hl, hg, ha, hdir.symm⟩

/-! ## Between the start and the end -/

def Passes (fleet : RecoveredFleet codec) (identity : RootMnemonic) (h : Host) : Prop :=
  fleet.checkSeats identity fleet.seats = .ok () ∧ ∃ toWrite, fleet.destinations h.disk fleet.numbered = .ok toWrite

structure Between (fleet : RecoveredFleet codec) (identity : RootMnemonic) (h s : Host) : Prop where
  others : ∀ no, s.disk.others no = h.disk.others no
  data : ∀ no, s.disk.data no = h.disk.data no ∨
    (Passes fleet identity h ∧ s.disk.data no = (h.disk.data no).or (fleet.files no))

theorem Between.refl (h : Host) : Between fleet identity h h := ⟨fun _ => rfl, fun _ => Or.inl rfl⟩

theorem destination_congr {d d'} (hothers : ∀ no, d.others no = d'.others no)
    (hdata : ∀ no, d.data no = d'.data no) (no : Nat) (seat : SeatBackupDocument) :
    fleet.destination d no seat = fleet.destination d' no seat := by
  unfold RecoveredFleet.destination
  rw [hothers, hdata]

theorem destinations_congr (d d' : Disk) (hothers : ∀ no, d.others no = d'.others no)
    (hdata : ∀ no, d.data no = d'.data no) (seats : List (Nat × SeatBackupDocument)) :
    fleet.destinations d seats = fleet.destinations d' seats := by
  induction seats with
  | nil => rfl
  | cons seat rest ih =>
    unfold RecoveredFleet.destinations
    rw [destination_congr hothers hdata, ih]

section

variable (hb : Between fleet identity h s)

include hb

theorem Between.or_files (no : Nat) :
    (s.disk.data no).or (fleet.files no) = (h.disk.data no).or (fleet.files no) := by
  rcases hb.data no with heq | ⟨-, heq⟩
  · rw [heq]
  · rw [heq]
    cases h.disk.data no <;> cases fleet.files no <;> rfl

theorem Between.destination (hm : (no, seat) ∈ fleet.numbered) {write}
    (hd : fleet.destination h.disk no seat = .ok write) : ∃ w, fleet.destination s.disk no seat = .ok w := by
  obtain ⟨hno, hfits⟩ := destination_ok.mp hd
  have hfiles := fleet.files_of_mem hm
  have hdata := hb.data no
  simp only [destination_ok, hb.others no, hno, true_and]
  cases hfits with
  | empty hg hh =>
    -- no files for this seat, so there is still nothing
    exact ⟨false, .empty hg (by rcases hdata with heq | ⟨-, heq⟩ <;> simp [heq, hh, hfiles, hg])⟩
  | adopted hg hh ha => exact ⟨false, .adopted hg (by rcases hdata with heq | ⟨-, heq⟩ <;> simp [heq, hh]) ha⟩
  | missing hg hh ha =>
    rcases hdata with heq | ⟨-, heq⟩
    · exact ⟨true, .missing hg (heq.trans hh) ha⟩
    · -- put there by an earlier run: the archive itself
      have hdigest := fleet.verified seat (fleet.numbered_mem hm) _ hg _ ha
      exact ⟨false, .adopted hg (by simpa [hh, hfiles, hg, ha] using heq) (hdigest ▸ adoptable_files _)⟩

theorem Between.destinations {seats toWrite} (hsub : ∀ p ∈ seats, p ∈ fleet.numbered) (hd : fleet.destinations h.disk seats = .ok toWrite) :
    ∃ tw, fleet.destinations s.disk seats = .ok tw := by
  induction seats generalizing toWrite with
  | nil => exact ⟨[], rfl⟩
  | cons seat rest ih =>
    obtain ⟨write, hw, hd⟩ := Lib.bind_eq_ok.mp hd
    obtain ⟨more, hm, -⟩ := Lib.bind_eq_ok.mp hd
    obtain ⟨w, hw'⟩ := hb.destination (hsub seat List.mem_cons_self) hw
    obtain ⟨tw, ht⟩ := ih (fun p hp => hsub p (List.mem_cons_of_mem _ hp)) hm
    exact ⟨_, by simp only [RecoveredFleet.destinations, hw', ht]; rfl⟩

theorem Between.data_eq (hp : ¬ Passes fleet identity h) (no : Nat) :
    s.disk.data no = h.disk.data no := by
  rcases hb.data no with heq | ⟨hyes, -⟩
  · exact heq
  · exact absurd hyes hp

theorem Between.passes_iff : Passes fleet identity s ↔ Passes fleet identity h := by
  refine ⟨fun ⟨hc, hs⟩ => ?_, fun ⟨hc, _, hd⟩ => ⟨hc, hb.destinations (fun _ hp => hp) hd⟩⟩
  by_contra hno
  obtain ⟨tw, hd⟩ := hs
  rw [destinations_congr _ _ hb.others (hb.data_eq hno)] at hd
  exact hno ⟨hc, tw, hd⟩

theorem Between.trans (hb' : Between fleet identity s t) :
    Between fleet identity h t := by
  refine ⟨fun no => (hb'.others no).trans (hb.others no), fun no => ?_⟩
  rcases hb'.data no with heq | ⟨hp, heq⟩
  · rw [heq]
    exact hb.data no
  · rw [heq, hb.or_files no]
    exact .inr ⟨hb.passes_iff.mp hp, rfl⟩

theorem Between.congr (hothers : ∀ no, t.disk.others no = s.disk.others no)
    (hdata : ∀ no, t.disk.data no = s.disk.data no) : Between fleet identity h t :=
  ⟨fun no => (hothers no).trans (hb.others no), fun no => by rw [hdata no]; exact hb.data no⟩

theorem Between.place {dir} (hp : Passes fleet identity h)
    (hnone : s.disk.data no = none) (hfiles : fleet.files no = some dir) :
    Between fleet identity h { s with disk := s.disk.place no dir } := by
  refine ⟨fun n => (Disk.others_place _ _ _ _).trans (hb.others n), fun n => ?_⟩
  rw [Disk.data_place]
  split
  · next hn =>
      subst hn
      refine .inr ⟨hp, ?_⟩
      rw [← hb.or_files n, hnone, hfiles]
      rfl
  · exact hb.data n

end

/-! ## The writes -/

structure Underway (fleet : RecoveredFleet codec) (identity : RootMnemonic) (h s : Host) : Prop
    extends Between fleet identity h s where
  store : s.store = h.store
  identity_eq : s.identity = h.identity

variable (hu : Underway fleet identity h s)

include hu in
theorem Underway.congr {d} (hothers : ∀ no, d.others no = s.disk.others no)
    (hdata : ∀ no, d.data no = s.disk.data no) :
    Underway fleet identity h { s with disk := d } :=
  ⟨hu.toBetween.congr hothers hdata, hu.store, hu.identity_eq⟩

theorem Underway.staging (hu : Underway fleet identity h s) (staging : Option (List (Nat × Dir))) :
    Underway fleet identity h (s.restage staging) :=
  hu.congr (fun _ => rfl) (fun _ => rfl)

theorem leads_moveIntoPlace {archive digest} (hI : ∀ s, Underway fleet identity h s → I s)
    (hu : Underway fleet identity h s) (hp : Passes fleet identity h) (hst : s.disk.Unstaged)
    (hnone : s.disk.data no = none) (hfiles : fleet.files no = some archive.files)
    (hdigest : codec.archiveDigest archive = digest) :
    Leads handler I s (moveIntoPlace codec no archive digest) (.ok ())
      { s with disk := s.disk.place no archive.files } := by
  have hstage : ∀ staging, I (s.restage staging) := fun staging =>
    hI _ (hu.staging staging)
  refine Leads.bind (b := ()) (t := s.restage (some [(no, archive.files)])) ?_ ?_
  · unfold writeRestoredSeatDir
    rw [if_neg (by simpa using hdigest)]
    refine Leads.bind (b := ()) (t := s.restage (some [(no, [])]))
      (leads_ask (fun _ => ?_) (hI _ hu) (hstage _)) ?_
    · simp only [handler, hst.createStaged, Host.restage]
    have hwrite : ∀ (dir : Dir) name contents, dir.lookup name = none → Leads handler I (s.restage (some [(no, dir)]))
        (ask (.writeStaged no name contents)) (.ok true) (s.restage (some [(no, dir ++ [(name, .file contents)])])) :=
      fun dir name contents hname => leads_ask (fun _ => by
        simp [handler, Host.restage, Disk.writeStaged, Disk.staged, Disk.setStaged, hname, Host.changed])
        (hstage _) (hstage _)
    refine Leads.bind (hwrite [] privateConfigFile archive.privateJson rfl) (Leads.bind leads_pure ?_)
    refine Leads.bind (hwrite _ localConfigFile archive.localJson rfl) (Leads.bind leads_pure ?_)
    exact Leads.bind (hwrite _ consensusConfigFile archive.consensusJson rfl) leads_pure
  have hroot : I { s with disk := (s.restage (some [(no, archive.files)])).disk.createSeatRoot no } :=
    hI _ (hu.congr (Disk.others_createSeatRoot _ no) (Disk.data_createSeatRoot _ no))
  refine Leads.bind (leads_ask (fun _ => rfl) (hstage _) hroot) ?_
  refine Leads.bind (b := true) (leads_ask (fun _ => ?_) hroot ?_) leads_pure
  · simp only [handler, Host.restage, Disk.renameStaged_single _ _ _ hnone, Host.changed]
  · exact hI _ ⟨hu.toBetween.place hp hnone hfiles, hu.store, hu.identity_eq⟩

theorem destinations_spec {d seats toWrite} (hd : fleet.destinations d seats = .ok toWrite) :
    toWrite = seats.filter (fun p => (fleet.destination d p.1 p.2).toOption == some true) ∧
      ∀ p ∈ seats, ∃ write, fleet.destination d p.1 p.2 = .ok write := by
  induction seats generalizing toWrite with
  | nil =>
    cases hd
    exact ⟨rfl, by simp⟩
  | cons seat rest ih =>
    obtain ⟨write, hw, hd⟩ := Lib.bind_eq_ok.mp hd
    obtain ⟨more, hm, hd⟩ := Lib.bind_eq_ok.mp hd
    cases hd
    obtain ⟨rfl, hall⟩ := ih hm
    refine ⟨?_, List.forall_mem_cons.mpr ⟨⟨write, hw⟩, hall⟩⟩
    rw [List.filter_cons, hw]
    cases write <;> rfl

theorem mem_destinations {d seats toWrite p} (hd : fleet.destinations d seats = .ok toWrite) :
    p ∈ toWrite ↔ p ∈ seats ∧ fleet.destination d p.1 p.2 = .ok true := by
  rw [(destinations_spec hd).1, List.mem_filter]
  refine and_congr_right fun _ => ?_
  cases hq : fleet.destination d p.1 p.2 with
  | error | ok => simp [Except.toOption]

structure ToWrite (fleet : RecoveredFleet codec) (d : Disk) (p : Nat × SeatBackupDocument) : Prop where
  mem : p ∈ fleet.numbered
  data : d.data p.1 = none
  archive : ∃ guardian archive, p.2.guardian = some guardian ∧ fleet.archives p.2.seatId = some archive

theorem toWrite_of_destinations {d toWrite} (hd : fleet.destinations d fleet.numbered = .ok toWrite) :
    ∀ p ∈ toWrite, ToWrite fleet d p := by
  intro p hp
  obtain ⟨hmem, hw⟩ := (mem_destinations hd).mp hp
  cases (destination_ok.mp hw).2 with
  | missing hg hnone ha => exact ⟨hmem, hnone, _, _, hg, ha⟩

theorem nodup_of_destinations {d toWrite} (hd : fleet.destinations d fleet.numbered = .ok toWrite) :
    (toWrite.map (·.1)).Nodup := by
  rw [(destinations_spec hd).1]
  exact (numberFrom_nodup 0 _).sublist (List.filter_sublist.map _)

theorem leads_writeSeats {toWrite} (hI : ∀ s, Underway fleet identity h s → I s) (hp : Passes fleet identity h)
    (hu : Underway fleet identity h s) (hst : s.disk.Unstaged) (htw : ∀ p ∈ toWrite, ToWrite fleet s.disk p)
    (hnodup : (toWrite.map (·.1)).Nodup) :
    ∃ t, Leads handler I s (fleet.writeSeats toWrite) (.ok ()) t ∧ Underway fleet identity h t ∧
      ∀ no, t.disk.data no = if no ∈ toWrite.map (·.1) then fleet.files no else s.disk.data no := by
  induction toWrite generalizing s with
  | nil => exact ⟨s, leads_pure, hu, fun no => by simp⟩
  | cons p rest ih =>
    obtain ⟨hmem, hnone, guardian, archive, hg, ha⟩ := htw p List.mem_cons_self
    have hfiles : fleet.files p.1 = some archive.files := by
      rw [fleet.files_of_mem hmem, hg, ha]
      rfl
    have hdigest := fleet.verified p.2 (fleet.numbered_mem hmem) guardian hg archive ha
    have hmove := leads_moveIntoPlace hI hu hp hst hnone hfiles hdigest
    have hu' : Underway fleet identity h { s with disk := s.disk.place p.1 archive.files } :=
      ⟨hu.toBetween.place hp hnone hfiles, hu.store, hu.identity_eq⟩
    obtain ⟨hnot, hnodup⟩ := List.nodup_cons.mp hnodup
    obtain ⟨t, hlead, hut, hdata⟩ := ih hu' rfl (fun q hq => by
      obtain ⟨hm, hn, har⟩ := htw q (List.mem_cons_of_mem _ hq)
      refine ⟨hm, ?_, har⟩
      have hne : q.1 ≠ p.1 := fun he => hnot (List.mem_map.mpr ⟨q, hq, he⟩)
      rw [Disk.data_place, if_neg hne]
      exact hn) hnodup
    refine ⟨t, Leads.bind (b := ()) ?_ hlead, hut, fun no => ?_⟩
    · unfold RecoveredFleet.writeSeat
      rw [hg, ha]
      exact hmove
    rw [hdata no]
    rw [Disk.data_place]
    by_cases hno : no = p.1
    · subst hno
      simp [hfiles]
    · simp only [hno, if_false, List.map_cons, List.mem_cons, false_or]

theorem data_of_written {toWrite : List (Nat × SeatBackupDocument)} {data : Nat → Option Dir}
    (hd : fleet.destinations s.disk fleet.numbered = .ok toWrite)
    (hdata : ∀ no, data no = if no ∈ toWrite.map (·.1) then fleet.files no else s.disk.data no) (no : Nat) :
    data no = (s.disk.data no).or (fleet.files no) := by
  rw [hdata no]
  split
  · next hin =>
      obtain ⟨p, hp, rfl⟩ := List.mem_map.mp hin
      rw [(toWrite_of_destinations hd p hp).data]
      rfl
  next hout =>
    cases hs : s.disk.data no with
    | some dir => rfl
    | none =>
      cases hf : fleet.files no with
      | none => rfl
      | some dir =>
        -- a seat with files and no directory is one that is written
        obtain ⟨seat, guardian, archive, hmem, hg, ha, -⟩ := fleet.files_some hf
        obtain ⟨write, hw⟩ := (destinations_spec hd).2 (no, seat) hmem
        cases (destination_ok.mp hw).2 with
        | empty hnone => cases hnone.symm.trans hg
        | adopted _ hsome => cases hsome.symm.trans hs
        | missing => exact absurd (List.mem_map_of_mem ((mem_destinations hd).mpr ⟨hmem, hw⟩)) hout

/-! ## The whole install -/

theorem leads_wipeStaging (hI : ∀ s, Underway fleet identity h s → I s) (hu : Underway fleet identity h s) :
    Leads handler I s wipeStaging (.ok ()) (s.restage none) := by
  refine Leads.bind (leads_read (e := .stagingExists) (fun _ => rfl) (hI s hu)) ?_
  cases hst : s.disk.staging with
  | none =>
    have hsame : s.restage none = s := by
      rw [← hst]
      rfl
    rw [hsame]
    exact leads_pure
  | some staged => exact leads_ask (fun _ => rfl) (hI s hu) (hI _ (hu.staging none))

theorem checkSeats_mem {seats} (hc : fleet.checkSeats identity seats = .ok ()) (hm : seat ∈ seats) :
    seat.validateTransfer codec = .ok () ∧ fleet.checkAccepted identity seat = .ok () := by
  induction seats with
  | nil => cases hm
  | cons first rest ih =>
    obtain ⟨u, hv, hc⟩ := Lib.bind_eq_ok.mp hc
    obtain ⟨u', ha, hc⟩ := Lib.bind_eq_ok.mp hc
    rcases List.mem_cons.mp hm with rfl | hm
    · refine ⟨?_, ha⟩
      cases hval : seat.validateTransfer codec with
      | error e => simp [hval, Except.mapError] at hv
      | ok v => rfl
    · exact ih hc hm

theorem checkDestination_of_accepted (ha : fleet.checkAccepted identity seat = .ok ()) :
    seat.checkDestination identity.servicePubkey = .ok () := by
  unfold RecoveredFleet.checkAccepted at ha
  unfold SeatBackupDocument.checkDestination
  cases hin : seat.transfer.bind (·.incoming) with
  | none => rfl
  | some incoming =>
    simp only [hin] at ha
    split at ha
    · cases ha
    split at ha
    · cases ha
    split at ha
    · cases ha
    split at ha
    · cases ha
    · next hkey =>
        simp [SeatBackupDocument.ensure, hkey]

theorem checkDestinationKeys_ok (fleet : RecoveredFleet codec) {seats}
    (hall : ∀ p ∈ seats, fleet.checkAccepted identity p.2 = .ok ()) :
    checkDestinationKeys identity seats = .ok () := by
  induction seats with
  | nil => rfl
  | cons p rest ih =>
    unfold checkDestinationKeys
    rw [checkDestination_of_accepted (hall p List.mem_cons_self)]
    exact ih fun q hq => hall q (List.mem_cons_of_mem _ hq)

def Refused (fleet : RecoveredFleet codec) (identity : RootMnemonic) (h : Host) (e : RestoreError) : Prop :=
  fleet.checkSeats identity fleet.seats = .error e ∨
    (fleet.checkSeats identity fleet.seats = .ok () ∧ fleet.destinations h.disk fleet.numbered = .error e)

theorem Refused.not_passes {e} (hr : Refused fleet identity h e) : ¬ Passes fleet identity h := by
  rintro ⟨hc, tw, hd⟩
  rcases hr with hr | ⟨-, hr⟩
  · simp [hc] at hr
  · simp [hd] at hr

structure Ran (fleet : RecoveredFleet codec) (identity : RootMnemonic) (h : Host) (clock : Nat → Int)
    (t : Host) : Prop where
  passes : Passes fleet identity h
  others : ∀ no, t.disk.others no = h.disk.others no
  data : ∀ no, t.disk.data no = (h.disk.data no).or (fleet.files no)
  store : t.store = (h.installRestoredFleet identity.phrase fleet.numbered clock).1.store
  identity_eq : t.identity = (h.installRestoredFleet identity.phrase fleet.numbered clock).1.identity

inductive Finished (fleet : RecoveredFleet codec) (identity : RootMnemonic) (h : Host) :
    Except RestoreError Unit → Host → Prop where
  | refused {e : RestoreError} {t : Host} (hr : Refused fleet identity h e) (hu : Underway fleet identity h t) :
      Finished fleet identity h (.error e) t
  | ran {clock : Nat → Int} {t : Host} (hran : Ran fleet identity h clock t) :
      Finished fleet identity h
        ((h.installRestoredFleet identity.phrase fleet.numbered clock).2.mapError .db) t

def Leaves (fleet : RecoveredFleet codec) (identity : RootMnemonic) (h t : Host) : Prop :=
  Underway fleet identity h t ∨ ∃ clock, Ran fleet identity h clock t

theorem Finished.leaves {r} (hf : Finished fleet identity h r t) : Leaves fleet identity h t := by
  cases hf with
  | refused _ hu => exact .inl hu
  | ran hran => exact .inr ⟨_, hran⟩

theorem installRestoredFleet_congr (phrase : String) (seats : List (Nat × SeatBackupDocument))
    (clock : Nat → Int) (hstore : s.store = h.store) (hid : s.identity = h.identity) :
    (s.installRestoredFleet phrase seats clock).1.store = (h.installRestoredFleet phrase seats clock).1.store ∧
    (s.installRestoredFleet phrase seats clock).1.identity = (h.installRestoredFleet phrase seats clock).1.identity ∧
    (s.installRestoredFleet phrase seats clock).2 = (h.installRestoredFleet phrase seats clock).2 ∧
    (s.installRestoredFleet phrase seats clock).1.disk = s.disk := by
  unfold Host.installRestoredFleet
  rw [hstore, hid]
  dsimp only
  split
  · exact ⟨hstore, hid, rfl, rfl⟩
  · split
    · exact ⟨hstore, hid, rfl, rfl⟩
    · exact ⟨rfl, rfl, rfl, rfl⟩

theorem destinations_restage (staging : Option (List (Nat × Dir))) (seats : List (Nat × SeatBackupDocument)) :
    fleet.destinations (h.restage staging).disk seats = fleet.destinations h.disk seats :=
  destinations_congr (h.restage staging).disk h.disk (fun _ => rfl) (fun _ => rfl) seats

theorem spec_install (fleet : RecoveredFleet codec) (identity : RootMnemonic) (hnone : h.identity = none) :
    Spec handler (.alone Empty Host) (fun _ t => Leaves fleet identity h t.now) (fun _ t => t.now = h)
      (install fleet identity) (fun r _ t => Finished fleet identity h r t.now) := by
  have hI : ∀ s, Underway fleet identity h s → Leaves fleet identity h s := fun s hu => Or.inl hu
  have hstart : Underway fleet identity h h := ⟨.refl h, rfl, rfl⟩
  refine (leads_read (e := .loadIdentity) (fun _ => rfl) (hI h hstart)).bind_spec ?_
  rw [hnone]
  -- the fleet itself
  cases hc : fleet.checkSeats identity fleet.seats with
  | error e =>
    have hlead := leads_ofExcept (H := handler) (I := Leaves fleet identity h) (s := h) (μ := Unit)
      (r := fleet.checkSeats identity fleet.seats)
    rw [hc] at hlead
    refine (hlead.bind_error).mono (fun _ _ hm => hm) fun r m t ht => ?_
    obtain ⟨rfl, rfl⟩ := ht
    exact .refused (Or.inl hc) hstart
  | ok u =>
    refine (leads_ofExcept (r := .ok ())).bind_spec ?_
    refine (leads_wipeStaging hI hstart).bind_spec ?_
    have hwiped := hstart.staging none
    have hcheck := leads_checkDestinations fleet fleet.numbered (hI _ hwiped)
    -- the destinations
    cases hd : fleet.destinations h.disk fleet.numbered with
    | error e =>
      rw [destinations_restage, hd] at hcheck
      refine (hcheck.bind_error).mono (fun _ _ hm => hm) fun r m t ht => ?_
      obtain ⟨hnow, rfl⟩ := ht
      rw [hnow]
      exact .refused (Or.inr ⟨hc, hd⟩) hwiped
    | ok toWrite =>
      have hp : Passes fleet identity h := ⟨hc, toWrite, hd⟩
      have hd' : fleet.destinations (h.restage none).disk fleet.numbered = .ok toWrite := by
        rw [destinations_restage, hd]
      rw [hd'] at hcheck
      refine hcheck.bind_spec ?_
      obtain ⟨t, hwrite, hut, hdata⟩ := leads_writeSeats hI hp hwiped rfl
        (toWrite_of_destinations hd') (nodup_of_destinations hd')
      refine hwrite.bind_spec ?_
      have hut' := hut.staging none
      refine (leads_ask (e := Question.removeStaging) (fun _ => rfl) (hI _ hut) (hI _ hut')).bind_spec ?_
      rw [checkDestinationKeys_ok fleet fun p hp => (checkSeats_mem hc (fleet.numbered_mem hp)).2]
      refine (leads_ofExcept (r := .ok ())).bind_spec ?_
      have hfull : ∀ no, t.disk.data no = (h.disk.data no).or (fleet.files no) := data_of_written hd hdata
      have hend : ∀ clock, Ran fleet identity h clock
          ((t.restage none).installRestoredFleet identity.phrase fleet.numbered clock).1 := fun clock => by
        obtain ⟨hstore, hid, -, hdisk⟩ := installRestoredFleet_congr identity.phrase fleet.numbered clock
          hut'.store hut'.identity_eq
        refine ⟨hp, fun no => ?_, fun no => ?_, hstore, hid⟩
        · rw [hdisk]
          exact hut'.others no
        · rw [hdisk]
          exact hfull no
      refine Spec.bind (R := fun answer _ u => Finished fleet identity h (answer.mapError .db) u.now) ?_ ?_
      · refine Spec.ask_alone (fun _ _ hm => hI _ (hm ▸ hut')) fun m u clock r u' out hm ha => ?_
        rw [hm] at ha
        cases ha
        obtain ⟨-, -, hans, -⟩ := installRestoredFleet_congr identity.phrase fleet.numbered clock
          hut'.store hut'.identity_eq
        refine ⟨Or.inr ⟨clock, hend clock⟩, ?_⟩
        rw [hans]
        exact .ran (hend clock)
      · exact fun answer => Spec.ofExcept fun _ _ hm => hm

/-! ## The transaction -/

theorem insertFleet_has {t t' : SeatTable} {seats} (hi : t.insertFleet seats = .ok t') :
    (∀ r ∈ t.rows, r ∈ t'.rows) ∧
      ∀ seat ∈ seats, ∃ r ∈ t'.rows, seat.document.restoredRows seat.seatNo seat.now = .ok r := by
  induction seats generalizing t with
  | nil =>
    cases hi
    exact ⟨fun r hr => hr, by simp⟩
  | cons seat rest ih =>
    obtain ⟨t₁, h₁, h₂⟩ := Lib.bind_eq_ok.mp hi
    obtain ⟨r₁, hr₁, hins⟩ := insertRestored_rows h₁
    obtain ⟨hold, hrest⟩ := ih h₂
    have hrows := SeatTable.insert_rows hins
    refine ⟨fun r hr => hold r (by rw [hrows]; exact List.mem_cons_of_mem _ hr), ?_⟩
    refine List.forall_mem_cons.mpr ⟨⟨r₁, hold r₁ (by rw [hrows]; exact List.mem_cons_self), hr₁⟩, hrest⟩

inductive Agree {ε α : Type} (R : α → α → Prop) : Except ε α → Except ε α → Prop where
  | error (e : ε) : Agree R (.error e) (.error e)
  | ok {a b : α} (hab : R a b) : Agree R (.ok a) (.ok b)

theorem Agree.bind {ε α β : Type} {R : α → α → Prop} {S : β → β → Prop} {x y : Except ε α} {f g : α → Except ε β}
    (hxy : Agree R x y) (hfg : ∀ {a b}, R a b → Agree S (f a) (g b)) : Agree S (x >>= f) (y >>= g) := by
  cases hxy with
  | error e => exact .error e
  | ok hab => exact hfg hab

theorem restoredRows_untimed (d : SeatBackupDocument) (no : Nat) (now now' : Int) :
    Agree (fun r r' => untimed r = untimed r') (d.restoredRows no now) (d.restoredRows no now') := by
  unfold SeatBackupDocument.restoredRows
  dsimp only
  split
  · split
    · exact .ok rfl
    · exact .error _
  · exact .ok rfl

def SameSeats (t t' : SeatTable) : Prop := t.rows.map untimed = t'.rows.map untimed

theorem SameSeats.facts {α : Type} {t t'} (hs : SameSeats t t') (f : SeatFacts → α) :
    t.rows.map (fun r => f r.facts) = t'.rows.map (fun r => f r.facts) := by
  have hmap := congrArg (List.map (fun r : SeatRows => f r.facts)) hs
  rw [List.map_map, List.map_map] at hmap
  exact hmap

theorem insertRestored_untimed {t t'} (hs : SameSeats t t') (no : Nat) (d : SeatBackupDocument) (now now' : Int) :
    Agree SameSeats (t.insertRestored ⟨no, d, now⟩) (t'.insertRestored ⟨no, d, now'⟩) := by
  refine (restoredRows_untimed d no now now').bind fun {r r'} hr => ?_
  have hfacts : (untimed r).facts = (untimed r').facts := congrArg SeatRows.facts hr
  change r.facts = r'.facts at hfacts
  by_cases hfree : r.facts.seatId ∉ t.rows.map (·.facts.seatId) ∧ r.facts.seatNo ∉ t.rows.map (·.facts.seatNo)
  · have hfree' := hfree
    rw [hs.facts (·.seatId), hs.facts (·.seatNo), hfacts] at hfree'
    simp only [SeatTable.insert, dif_pos hfree, dif_pos hfree']
    exact .ok (by simp [SameSeats, hr]; exact hs)
  · have htaken := hfree
    rw [hs.facts (·.seatId), hs.facts (·.seatNo), hfacts] at htaken
    simp only [SeatTable.insert, dif_neg hfree, dif_neg htaken]
    exact .error _

theorem insertFleet_untimed {t t'} (hs : SameSeats t t') (seats : List (Nat × SeatBackupDocument))
    (clock clock' : Nat → Int) :
    Agree SameSeats (t.insertFleet (seats.map (fun p => ⟨p.1, p.2, clock p.1⟩)))
      (t'.insertFleet (seats.map (fun p => ⟨p.1, p.2, clock' p.1⟩))) := by
  induction seats generalizing t t' with
  | nil => exact .ok hs
  | cons p rest ih =>
    unfold SeatTable.insertFleet at ih ⊢
    exact (insertRestored_untimed hs p.1 p.2 (clock p.1) (clock' p.1)).bind ih

theorem installRestoredFleet_untimed (h : Host) (phrase : String) (seats : List (Nat × SeatBackupDocument))
    (clock clock' : Nat → Int) :
    (h.installRestoredFleet phrase seats clock).2 = (h.installRestoredFleet phrase seats clock').2 ∧
    SameRows (h.installRestoredFleet phrase seats clock).1.store
      (h.installRestoredFleet phrase seats clock').1.store ∧
    (h.installRestoredFleet phrase seats clock).1.identity =
      (h.installRestoredFleet phrase seats clock').1.identity := by
  have hfleet := insertFleet_untimed (rfl : SameSeats h.store.seats h.store.seats) seats clock clock'
  unfold Host.installRestoredFleet Store.installRestoredFleet
  generalize h.store.seats.insertFleet (seats.map (fun p => ⟨p.1, p.2, clock p.1⟩)) = x at hfleet ⊢
  generalize h.store.seats.insertFleet (seats.map (fun p => ⟨p.1, p.2, clock' p.1⟩)) = y at hfleet ⊢
  have hsame : SameRows h.store h.store := ⟨rfl, rfl, rfl, rfl, rfl⟩
  split
  · exact ⟨rfl, hsame, rfl⟩
  cases hfleet with
  | error e => exact ⟨rfl, hsame, rfl⟩
  | ok hseats =>
    dsimp only
    split
    · exact ⟨rfl, hsame, rfl⟩
    · exact ⟨rfl, ⟨hseats, rfl, rfl, rfl, rfl⟩, rfl⟩

/-! ## One install after another -/

theorem Ran.restage {clock} (hr : Ran fleet identity h clock t) (staging : Option (List (Nat × Dir))) :
    Ran fleet identity h clock (t.restage staging) :=
  ⟨hr.passes, hr.others, hr.data, hr.store, hr.identity_eq⟩

theorem torn_restage {e} (ht : torn e s t) : ∃ staging, t = s.restage staging := by
  cases e <;> first | exact ht | exact ht.elim

theorem Leaves.torn {e} (ht : torn e s t) (hl : Leaves fleet identity h s) : Leaves fleet identity h t := by
  obtain ⟨staging, rfl⟩ := torn_restage ht
  rcases hl with hu | ⟨clock, hr⟩
  · exact .inl (hu.staging staging)
  · exact .inr ⟨clock, hr.restage staging⟩

theorem uncut_finished {r} (hnone : h.identity = none) (hu : Uncut fleet identity h r t) :
    Finished fleet identity h r t := by
  obtain ⟨m, past, hq⟩ := (spec_install fleet identity hnone () ⟨[], h⟩ rfl).ends hu
  exact hq

theorem cutIn_leaves (hnone : h.identity = none) (hc : CutIn fleet identity h t) : Leaves fleet identity h t :=
  (spec_install fleet identity hnone () ⟨[], h⟩ rfl).cut (fun _ _ hb => hb) (fun _ _ _ hq => hq.leaves)
    (fun _ _ _ ht hl => hl.torn ht) hc

theorem leads_onboarded
    (fleet : RecoveredFleet codec) (identity : RootMnemonic) (hsome : h.identity.isSome = true) :
    Leads handler (fun t => t = h) h (install fleet identity) (.error .alreadyOnboarded) h := by
  refine Leads.bind (leads_read (e := .loadIdentity) (fun _ => rfl) rfl) ?_
  rw [if_pos hsome]
  exact leads_throw

theorem uncut_onboarded {r} (hsome : h.identity.isSome = true) (hu : Uncut fleet identity h r t) :
    t = h ∧ r = .error .alreadyOnboarded := by
  obtain ⟨m, past, hq⟩ := (leads_onboarded fleet identity hsome () ⟨[], h⟩ rfl).ends hu
  exact hq

theorem cutIn_onboarded (hsome : h.identity.isSome = true) (hc : CutIn fleet identity h t) :
    t.store = h.store ∧ t.identity = h.identity ∧ t.disk.seats = h.disk.seats := by
  refine Lib.Task.Safe.cut (I := fun t => t.store = h.store ∧ t.identity = h.identity ∧ t.disk.seats = h.disk.seats)
    (leads_onboarded fleet identity hsome () ⟨[], h⟩ rfl) (fun _ u hb => ?_) (fun _ _ u hq => ?_)
    (fun e u v ht hl => ?_) hc
  · rw [hb]
    exact ⟨rfl, rfl, rfl⟩
  · rw [hq.1]
    exact ⟨rfl, rfl, rfl⟩
  · obtain ⟨staging, rfl⟩ := torn_restage ht
    exact hl

theorem Underway.trans (hu : Underway fleet identity h s) (hu' : Underway fleet identity s t) :
    Underway fleet identity h t :=
  ⟨hu.toBetween.trans hu'.toBetween, hu'.store.trans hu.store, hu'.identity_eq.trans hu.identity_eq⟩

theorem Underway.ran {clock} (hu : Underway fleet identity h s) (hr : Ran fleet identity s clock t) :
    Ran fleet identity h clock t := by
  obtain ⟨hstore, hid, -, -⟩ := installRestoredFleet_congr identity.phrase fleet.numbered clock hu.store hu.identity_eq
  refine ⟨hu.passes_iff.mp hr.passes, fun no => (hr.others no).trans (hu.others no), fun no => ?_,
    hr.store.trans hstore, hr.identity_eq.trans hid⟩
  rw [hr.data no, hu.or_files no]

theorem Underway.refused {e} (hu : Underway fleet identity h s) (hr : Refused fleet identity s e) :
    Refused fleet identity h e := by
  rcases hr with hc | ⟨hc, hd⟩
  · exact .inl hc
  have hno : ¬ Passes fleet identity h := fun hp => by
    obtain ⟨-, tw, hok⟩ := hu.passes_iff.mpr hp
    simp [hok] at hd
  rw [destinations_congr _ _ hu.others (hu.data_eq hno)] at hd
  exact .inr ⟨hc, hd⟩

theorem Underway.finished {r} (hu : Underway fleet identity h s) (hf : Finished fleet identity s r t) :
    Finished fleet identity h r t := by
  cases hf with
  | refused hr hu' => exact .refused (hu.refused hr) (hu.trans hu')
  | @ran clock t hr =>
    obtain ⟨-, -, hans, -⟩ := installRestoredFleet_congr identity.phrase fleet.numbered clock hu.store hu.identity_eq
    rw [hans]
    exact .ran (hu.ran hr)

theorem Ran.cases {clock} (hnone : h.identity = none) (hr : Ran fleet identity h clock t) :
    Underway fleet identity h t ∨ (t.identity = some identity.phrase ∧
      (h.installRestoredFleet identity.phrase fleet.numbered clock).2 = .ok () ∧
      ∃ seats, h.store.seats.insertFleet (fleet.numbered.map (fun p => ⟨p.1, p.2, clock p.1⟩)) = .ok seats ∧
        t.store.seats = seats) := by
  have hdata : Between fleet identity h t := ⟨hr.others, fun no => Or.inr ⟨hr.passes, hr.data no⟩⟩
  have hstore := hr.store
  have hid := hr.identity_eq
  unfold Host.installRestoredFleet Store.installRestoredFleet at hstore hid ⊢
  rw [hnone] at hid hstore ⊢
  by_cases hstage : h.store.stage ≠ .identity
  · simp only [if_pos hstage] at hstore hid
    exact .inl ⟨hdata, hstore, hid⟩
  simp only [if_neg hstage] at hstore hid ⊢
  cases hins : h.store.seats.insertFleet (fleet.numbered.map (fun p => ⟨p.1, p.2, clock p.1⟩)) with
  | error e =>
    simp only [hins] at hstore hid
    exact .inl ⟨hdata, hstore, hid⟩
  | ok seats =>
    simp only [hins] at hstore hid
    exact .inr ⟨hid, rfl, seats, rfl, by rw [hstore]; rfl⟩

theorem leaves_of_cuts (hnone : h.identity = none) (hc : Relation.ReflTransGen (CutIn fleet identity) h t) :
    Leaves fleet identity h t := by
  induction hc with
  | refl => exact .inl ⟨.refl h, rfl, rfl⟩
  | @tail s u _ hcut ih =>
    have hcases : Underway fleet identity h s ∨ (s.identity.isSome = true ∧ ∃ clock, Ran fleet identity h clock s) := by
      rcases ih with hu | ⟨clock, hr⟩
      · exact .inl hu
      · rcases hr.cases hnone with hu | ⟨hid, -⟩
        · exact .inl hu
        · exact .inr ⟨by rw [hid]; rfl, clock, hr⟩
    rcases hcases with hu | ⟨hsome, clock, hr⟩
    · rcases cutIn_leaves (hu.identity_eq.trans hnone) hcut with hu' | ⟨clock, hr⟩
      · exact .inl (hu.trans hu')
      · exact .inr ⟨clock, hu.ran hr⟩
    -- the identity is there: the next install only looks at it
    obtain ⟨hstore, hid, hseats⟩ := cutIn_onboarded hsome hcut
    refine .inr ⟨clock, hr.passes, fun no => ?_, fun no => ?_, hstore.trans hr.store, hid.trans hr.identity_eq⟩
    · rw [← hr.others no]
      unfold Disk.others
      rw [hseats]
    · rw [← hr.data no]
      unfold Disk.data
      rw [hseats]

theorem Finished.agree {r r'} (hf : Finished fleet identity h r s) (hf' : Finished fleet identity h r' t) :
    (∀ no, s.disk.data no = t.disk.data no) ∧ SameRows s.store t.store ∧ s.identity = t.identity ∧ r = r' := by
  cases hf with
  | refused hr hu =>
    cases hf' with
    | refused hr' hu' =>
      refine ⟨fun no => ?_, ?_, hu.identity_eq.trans hu'.identity_eq.symm, ?_⟩
      · rw [hu.data_eq hr.not_passes, hu'.data_eq hr.not_passes]
      · rw [hu.store, hu'.store]
        exact ⟨rfl, rfl, rfl, rfl, rfl⟩
      · rcases hr with hc | ⟨hc, hd⟩ <;> rcases hr' with hc' | ⟨hc', hd'⟩ <;> simp_all
    | ran hran => exact absurd hran.passes hr.not_passes
  | @ran clock s hran =>
    cases hf' with
    | refused hr' hu' => exact absurd hran.passes hr'.not_passes
    | @ran clock' t hran' =>
      obtain ⟨hans, hrows, hid⟩ :=
        installRestoredFleet_untimed h identity.phrase fleet.numbered clock clock'
      refine ⟨fun no => (hran.data no).trans (hran'.data no).symm, ?_, ?_, by rw [hans]⟩
      · rw [hran.store, hran'.store]
        exact hrows
      · rw [hran.identity_eq, hran'.identity_eq, hid]

theorem Ran.guardian_dir {clock guardian} (hr : Ran fleet identity h clock t) (hm : (no, seat) ∈ fleet.numbered)
    (hg : seat.guardian = some guardian) :
    ∃ dir, t.disk.data no = some dir ∧ Adoptable codec dir guardian.archiveSha256 = true := by
  obtain ⟨-, tw, hd⟩ := hr.passes
  obtain ⟨write, hw⟩ := (destinations_spec hd).2 (no, seat) hm
  rw [hr.data no, fleet.files_of_mem hm]
  cases (destination_ok.mp hw).2 with
  | empty hnone => cases hnone.symm.trans hg
  | adopted hg' hh ha =>
    cases hg'.symm.trans hg
    exact ⟨_, by rw [hh]; rfl, ha⟩
  | missing hg' hh ha =>
    cases hg'.symm.trans hg
    refine ⟨_, by rw [hh, hg, ha]; rfl, ?_⟩
    rw [← fleet.verified seat (fleet.numbered_mem hm) guardian hg _ ha]
    exact adoptable_files _

end Manifold.Guardian.Restore
