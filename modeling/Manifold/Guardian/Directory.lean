import Mathlib
import Manifold.Lib.Table
import Manifold.Guardian.MetadataTheorems

/-!
# The seat-binding directory
-/

namespace Manifold.Guardian.Metadata

open Lib

variable {c : Codec}

/-! ## Canonical directories -/

section canonical

variable {bs : List MgPeerAttestation} {d : MgSeatBindings}

theorem adjacentDuplicate_eq_none {keyed} (h : (keyed.map (·.1)).Nodup) :
    adjacentDuplicate keyed = none := by
  induction keyed with
  | nil => rfl
  | cons a rest ih =>
    obtain ⟨hnot, hrest⟩ := List.nodup_cons.mp h
    cases rest with
    | nil => rfl
    | cons b rest =>
      have hne : a.1 ≠ b.1 := fun he => hnot (by simp [he])
      simp only [adjacentDuplicate, if_neg hne]
      exact ih hrest

theorem exists_keyedBindings (h : ∀ b ∈ bs, b.peer.isSome = true) : ∃ keyed, keyedBindings bs = some keyed := by
  suffices hmap : ∃ l, bs.mapM MgPeerAttestation.keyed = some l by
    obtain ⟨l, hl⟩ := hmap
    exact ⟨_, by rw [keyedBindings, hl, Option.map_some]⟩
  induction bs with
  | nil => exact ⟨[], rfl⟩
  | cons b bs ih =>
    obtain ⟨hb, hbs⟩ := List.forall_mem_cons.mp h
    obtain ⟨l, hl⟩ := ih hbs
    obtain ⟨n, hn⟩ := Option.isSome_iff_exists.mp hb
    exact ⟨(n, b) :: l, by simp [MgPeerAttestation.keyed, hn, hl]⟩

theorem MgSeatBindings.peers_nodup (d : MgSeatBindings) : (d.seatBindings.map (·.peer)).Nodup := by
  rw [List.Nodup, List.pairwise_map]
  refine d.ascending.imp fun {a b} h he => ?_
  obtain ⟨m, n, hm, hn, hlt⟩ := h
  rw [hm, hn] at he
  exact absurd (Option.some.inj he) (Nat.ne_of_lt hlt)

structure Buildable (c : Codec) (d : MgSeatBindings) (bs : List MgPeerAttestation) : Prop where
  perm : d.seatBindings.Perm bs
  nonempty : bs ≠ []
  count : bs.length ≤ mgSeatBindingsMaxCount
  peers : ∀ b ∈ bs, b.peer.isSome = true
  size : ∃ s, c.directoryString d.seatBindings = some s ∧ s.utf8ByteSize ≤ mgSeatBindingsMaxValueBytes

theorem MgSeatBindings.capped_iff : capped c d = .ok d ↔
    ∃ s, c.directoryString d.seatBindings = some s ∧ s.utf8ByteSize ≤ mgSeatBindingsMaxValueBytes := by
  unfold capped canonicalString
  cases hs : c.directoryString d.seatBindings with
  | none => simp [bind, Except.bind]
  | some s =>
    simp only [bind, Except.bind, Option.some.injEq, exists_eq_left']
    split
    · rename_i hcap
      simpa using hcap
    · rename_i hcap
      simpa using hcap

theorem MgSeatBindings.new_eq_ok : new c bs = .ok d ↔ Buildable c d bs := by
  constructor
  · intro h
    have hperm := new_perm h
    unfold new at h
    split at h
    · cases h
    rename_i hne
    split at h
    · cases h
    rename_i hcount
    split at h
    · cases h
    rename_i keyed hkeyed
    split at h
    · cases h
    refine ⟨hperm, by simpa using hne, Nat.not_lt.mp hcount, fun b hb => ?_, capped_iff.mp (capped_eq_ok h ▸ h)⟩
    obtain ⟨x, hx, rfl⟩ := List.mem_map.mp ((keyedBindings_perm hkeyed).mem_iff.mpr hb)
    rw [keyedBindings_peer hkeyed x hx]
    rfl
  · intro h
    have hempty : ¬ bs.isEmpty = true := by simpa using h.nonempty
    obtain ⟨keyed, hkeyed⟩ := exists_keyedBindings h.peers
    have hsome : keyed.map (fun x => some x.1) = keyed.map (·.2.peer) :=
      List.map_congr_left fun x hx => (keyedBindings_peer hkeyed x hx).symm
    -- the peers of the directory are distinct, and so are those of the sorted bindings
    have hnodup : (keyed.map (·.1)).Nodup := by
      refine List.Nodup.of_map some ?_
      rw [List.map_map, Function.comp_def, hsome]
      have hpeers := (((keyedBindings_perm hkeyed).trans h.perm.symm).map (·.peer)).nodup_iff.mpr d.peers_nodup
      rwa [List.map_map] at hpeers
    unfold new
    rw [if_neg hempty, if_neg (Nat.not_lt.mpr h.count)]
    split
    · rename_i hnone
      cases hkeyed.symm.trans hnone
    rename_i keyed' hkeyed'
    cases hkeyed.symm.trans hkeyed'
    split
    · rename_i hdup
      cases (adjacentDuplicate_eq_none hnodup).symm.trans hdup
    rename_i hdup
    have heq : (⟨keyed.map (·.2), keyedBindings_ascending hkeyed hdup⟩ : MgSeatBindings) = d :=
      eq_of_perm ((keyedBindings_perm hkeyed).trans h.perm.symm)
    rw [heq]
    exact capped_iff.mpr h.size

theorem Buildable.of_perm {bs'} (h : Buildable c d bs) (hperm : bs'.Perm bs) : Buildable c d bs' where
  perm := h.perm.trans hperm.symm
  nonempty := fun he => h.nonempty (List.nil_perm.mp (he ▸ hperm))
  count := hperm.length_eq.trans_le h.count
  peers := fun b hb => h.peers b (hperm.mem_iff.mp hb)
  size := h.size

def Codec.InvertsDirectories (c : Codec) : Prop := ∀ bs s, c.directoryString bs = some s → c.parseDirectory s = some bs

theorem MgSeatBindings.canonicalString_eq_ok {s} :
    d.canonicalString c = .ok s ↔ c.directoryString d.seatBindings = some s := by
  unfold canonicalString
  cases c.directoryString d.seatBindings <;> simp

theorem MgSeatBindings.parseCanonical_eq_ok (hc : c.InvertsDirectories) {s} :
    parseCanonical c s = .ok d ↔ (∃ bs, new c bs = .ok d) ∧ d.canonicalString c = .ok s := by
  unfold parseCanonical
  constructor
  · intro h
    split at h
    · cases h
    split at h
    · cases h
    rename_i bs hbs
    obtain ⟨d', hd', h⟩ := bind_eq_ok.mp h
    obtain ⟨s', hs', h⟩ := bind_eq_ok.mp h
    split at h
    · rename_i heq
      cases h
      exact ⟨⟨bs, hd'⟩, heq ▸ hs'⟩
    · cases h
  · rintro ⟨⟨bs, hbs⟩, hs⟩
    have hb := new_eq_ok.mp hbs
    obtain ⟨s', hs', hcap⟩ := hb.size
    have hprint := canonicalString_eq_ok.mp hs
    cases hs'.symm.trans hprint
    have hnew : new c d.seatBindings = .ok d := new_eq_ok.mpr (hb.of_perm hb.perm)
    rw [if_neg (Nat.not_lt.mpr hcap), hc _ _ hprint]
    simp [hnew, hs, bind, Except.bind]

end canonical

/-! ## The seats of a federation -/

section federation

variable {federation : FederationSeats} {b : MgPeerAttestation} {bs : List MgPeerAttestation}

def MgPeerAttestation.seat (b : MgPeerAttestation) : FederationSeat :=
  ⟨b.attestation.peerId, b.attestation.guardianIdentity⟩

def MgPeerAttestation.verified (b : MgPeerAttestation) : VerifiedSeatBinding :=
  ⟨b, b.attestation.peerId, b.attestation.guardianIdentity, b.attestation.mgPubkey, b.attestation.guardianFeeAccount⟩

/-- The binding is signed, and for this federation under this config. -/
structure Names (c : Codec) (federation : FederationSeats) (b : MgPeerAttestation) : Prop where
  attested : c.attested b = true
  federationId : b.attestation.federationId = federation.federationId
  configHash : b.attestation.federationConfigHash = federation.federationConfigHash

theorem find_seat (hk : Table.Keyed (·.peerId) federation.seats) :
    (∃ seat, federation.seats.find? (·.peerId == b.attestation.peerId) = some seat ∧
      b.attestation.guardianIdentity = seat.guardianIdentity) ↔ b.seat ∈ federation.seats := by
  constructor
  · rintro ⟨seat, hfind, hidentity⟩
    have hpeer : seat.peerId = b.attestation.peerId := by simpa using List.find?_some hfind
    have heq : b.seat = seat := by
      rw [MgPeerAttestation.seat, hidentity, ← hpeer]
    exact heq ▸ List.mem_of_find?_eq_some hfind
  · intro hmem
    cases hfind : federation.seats.find? (·.peerId == b.attestation.peerId) with
    | none => simpa [MgPeerAttestation.seat] using List.find?_eq_none.mp hfind _ hmem
    | some seat =>
      have hpeer : seat.peerId = b.attestation.peerId := by simpa using List.find?_some hfind
      rw [hk.eq (List.mem_of_find?_eq_some hfind) hmem hpeer]
      exact ⟨_, rfl, rfl⟩

theorem verifyBinding_iff (hk : Table.Keyed (·.peerId) federation.seats) {seen v} :
    verifyBinding c federation seen b = .ok v ↔ v = b.verified ∧ Names c federation b ∧ b.seat ∈ federation.seats ∧
      b.attestation.guardianFeeAccount.feeAccount = true ∧ c.accountId b.attestation.guardianFeeAccount ∉ seen := by
  rw [← find_seat hk]
  unfold verifyBinding
  constructor
  · intro h
    dsimp only at h
    repeat' split at h
    all_goals cases h
    rename_i hattested hid hhash _ seat hfind hidentity hfee hseen
    exact ⟨rfl, ⟨by simpa using hattested, not_not.mp hid, not_not.mp hhash⟩, ⟨seat, hfind, not_not.mp hidentity⟩,
      by simpa using hfee, hseen⟩
  · rintro ⟨rfl, ⟨hattested, hid, hhash⟩, ⟨seat, hfind, hidentity⟩, hfee, hseen⟩
    simp [hattested, hid, hhash, hfind, hidentity, hfee, hseen, MgPeerAttestation.verified]

theorem verifyBindings_iff (hk : Table.Keyed (·.peerId) federation.seats) {seen vs} :
    verifyBindings c federation seen bs = .ok vs ↔ vs = bs.map (·.verified) ∧
      (∀ b ∈ bs, Names c federation b ∧ b.seat ∈ federation.seats ∧
        b.attestation.guardianFeeAccount.feeAccount = true ∧ c.accountId b.attestation.guardianFeeAccount ∉ seen) ∧
      (bs.map (c.accountId ·.attestation.guardianFeeAccount)).Nodup := by
  induction bs generalizing seen vs with
  | nil =>
    constructor
    · intro h
      cases h
      simp
    · rintro ⟨rfl, -⟩
      rfl
  | cons b bs ih =>
    simp only [verifyBindings, bind_eq_ok, verifyBinding_iff hk, ih, List.forall_mem_cons, List.map_cons,
      List.nodup_cons]
    constructor
    · rintro ⟨v, ⟨rfl, hb⟩, vs', ⟨rfl, hbs, hnodup⟩, h⟩
      cases h
      refine ⟨rfl, ⟨hb, fun b' hb' => ?_⟩, fun hmem => ?_, hnodup⟩
      · obtain ⟨hnames, hseat, hfee, hseen⟩ := hbs b' hb'
        exact ⟨hnames, hseat, hfee, List.not_mem_of_not_mem_cons hseen⟩
      · obtain ⟨b', hb', he⟩ := List.mem_map.mp hmem
        exact List.ne_of_not_mem_cons (hbs b' hb').2.2.2 he
    · rintro ⟨rfl, ⟨hb, hbs⟩, hnot, hnodup⟩
      refine ⟨_, ⟨rfl, hb⟩, _, ⟨rfl, fun b' hb' => ?_, hnodup⟩, rfl⟩
      obtain ⟨hnames, hseat, hfee, hseen⟩ := hbs b' hb'
      exact ⟨hnames, hseat, hfee, List.not_mem_cons_of_ne_of_not_mem
        (fun he => hnot (List.mem_map.mpr ⟨b', hb', he⟩)) hseen⟩

theorem federationSeats_keyed {config} (hkeys : (config.apiEndpoints.map (·.1)).Nodup)
    (h : federationSeats c config = .ok federation) : Table.Keyed (·.peerId) federation.seats := by
  unfold federationSeats at h
  split at h
  · cases h
  split at h
  · cases h
  rename_i keys _
  obtain ⟨seats, hseats, hok⟩ := bind_eq_ok.mp h
  cases hok
  clear h
  suffices hids : seats.map (·.peerId) = config.apiEndpoints.map (fun endpoint => toString endpoint.1) by
    have hnodup := hkeys.map (f := fun n : Nat => toString n) fun m n he => Nat.repr_inj.mp he
    rw [List.map_map] at hnodup
    rw [Table.Keyed, hids]
    exact hnodup
  generalize config.apiEndpoints = endpoints at hseats ⊢
  induction endpoints generalizing seats with
  | nil =>
    cases hseats
    rfl
  | cons endpoint endpoints ih =>
    rw [List.mapM_cons] at hseats
    obtain ⟨seat, hseat, hseats⟩ := bind_eq_ok.mp hseats
    obtain ⟨seats', hseats', hseats⟩ := bind_eq_ok.mp hseats
    cases hseats
    split at hseat
    · cases hseat
      rw [List.map_cons, List.map_cons, ih seats' hseats']
    · cases hseat

end federation

def Codec.TellsApart (c : Codec) (d : MgSeatBindings) : Prop :=
  ∀ b ∈ d.seatBindings, ∀ b' ∈ d.seatBindings,
    c.accountId b.attestation.guardianFeeAccount = c.accountId b'.attestation.guardianFeeAccount →
      b.attestation.guardianFeeAccount = b'.attestation.guardianFeeAccount

/-- The directory does not depend on the order of its bindings, has one accepted spelling, and is verified exactly
when it covers the federation's seats with fee accounts of their own. -/
theorem directory_canonical_cover (c : Codec) (hc : c.InvertsDirectories) :
    (∀ bs bs' d, bs'.Perm bs → MgSeatBindings.new c bs = .ok d → MgSeatBindings.new c bs' = .ok d) ∧
    (∀ s d, MgSeatBindings.parseCanonical c s = .ok d ↔
      (∃ bs, MgSeatBindings.new c bs = .ok d) ∧ d.canonicalString c = .ok s) ∧
    ∀ config federation, (config.apiEndpoints.map (·.1)).Nodup → federationSeats c config = .ok federation →
      ∀ d, c.TellsApart d → ((∃ vs, d.verifyForFederation c federation = .ok vs) ↔
        (∀ b ∈ d.seatBindings, Names c federation b) ∧
        (d.seatBindings.map MgPeerAttestation.seat).Perm federation.seats ∧
        (∀ b ∈ d.seatBindings, b.attestation.guardianFeeAccount.feeAccount = true) ∧
        (d.seatBindings.map (·.attestation.guardianFeeAccount)).Nodup) := by
  refine ⟨fun bs bs' d hperm h => ?_, fun s d => MgSeatBindings.parseCanonical_eq_ok hc, ?_⟩
  · exact MgSeatBindings.new_eq_ok.mpr ((MgSeatBindings.new_eq_ok.mp h).of_perm hperm)
  intro config federation hkeys hfederation d hid
  have hk := federationSeats_keyed hkeys hfederation
  have hids : (d.seatBindings.map (c.accountId ·.attestation.guardianFeeAccount)).Nodup ↔
      (d.seatBindings.map (·.attestation.guardianFeeAccount)).Nodup := by
    have hmap : (d.seatBindings.map (·.attestation.guardianFeeAccount)).map c.accountId =
        d.seatBindings.map (c.accountId ·.attestation.guardianFeeAccount) := List.map_map
    rw [← hmap]
    refine ⟨List.Nodup.of_map _, fun h => h.map_on fun a ha a' ha' he => ?_⟩
    obtain ⟨b, hb, rfl⟩ := List.mem_map.mp ha
    obtain ⟨b', hb', rfl⟩ := List.mem_map.mp ha'
    exact hid b hb b' hb' he
  have hpeers : Table.Keyed (·.peerId) (d.seatBindings.map MgPeerAttestation.seat) := by
    rw [Table.Keyed, List.map_map]
    refine List.Nodup.of_map parseProtocolPeerId ?_
    rw [List.map_map]
    exact d.peers_nodup
  unfold MgSeatBindings.verifyForFederation
  simp only [bind_eq_ok, verifyBindings_iff hk, hids]
  constructor
  · rintro ⟨vs, verified, ⟨rfl, hall, hnodup⟩, h⟩
    refine ⟨fun b hb => (hall b hb).1, ?_, fun b hb => (hall b hb).2.2.1, hnodup⟩
    refine (List.perm_ext_iff_of_nodup (.of_map _ hpeers) (.of_map _ hk)).mpr fun seat => ⟨?_, fun hseat => ?_⟩
    · intro hseat
      obtain ⟨b, hb, rfl⟩ := List.mem_map.mp hseat
      exact (hall b hb).2.1
    -- a seat that no binding names would have been reported
    split at h
    · cases h
    rename_i hnone
    have hbound := List.find?_eq_none.mp hnone seat hseat
    simp only [Bool.not_eq_true', Bool.not_eq_false, List.any_eq_true, List.mem_map, beq_iff_eq] at hbound
    obtain ⟨_, ⟨b, hb, rfl⟩, hpeer⟩ := hbound
    rw [← hk.eq (hall b hb).2.1 hseat hpeer]
    exact List.mem_map_of_mem hb
  · rintro ⟨hnames, hperm, hfee, hnodup⟩
    have hmem : ∀ b ∈ d.seatBindings, b.seat ∈ federation.seats := fun b hb =>
      hperm.mem_iff.mp (List.mem_map_of_mem hb)
    refine ⟨d.seatBindings.map (·.verified), _,
      ⟨rfl, fun b hb => ⟨hnames b hb, hmem b hb, hfee b hb, List.not_mem_nil⟩, hnodup⟩, ?_⟩
    split
    · rename_i missing hfind
      obtain ⟨b, hb, hseat⟩ := List.mem_map.mp (hperm.mem_iff.mpr (List.mem_of_find?_eq_some hfind))
      have hbound := List.find?_some hfind
      simp only [Bool.not_eq_true', List.any_eq_false, List.mem_map, beq_iff_eq] at hbound
      exact absurd (congrArg FederationSeat.peerId hseat) (hbound _ ⟨b, hb, rfl⟩)
    · rfl

def bindingOf (peer key : String) (keys : List String) : MgPeerAttestation :=
  ⟨⟨"mg", "federation", [], peer, key, ⟨.btcDepositor, keys⟩, 0⟩, []⟩

def second : MgPeerAttestation := bindingOf "2" "key" ["a"]

def tenth : MgPeerAttestation := bindingOf "10" "other" ["bb"]

/-- Prints two directories, and reads the spelling of a third one. -/
def twoSeats : Codec :=
  { plainVotes with
    accountId := fun account => (account.keys.map String.length).sum
    directoryString := fun bs => if bs = [second, tenth] then some "2,10" else if bs = [second] then some "2" else none
    parseDirectory := fun s =>
      if s = "2,10" then some [second, tenth] else if s = "2" then some [second] else some [tenth, second] }

theorem twoSeats_inverts : twoSeats.InvertsDirectories := by
  intro bs s h
  simp only [twoSeats] at h
  split at h
  · next hbs => cases h; exact hbs ▸ rfl
  split at h
  · next hbs => cases h; exact hbs ▸ rfl
  · cases h

def twoBindings : MgSeatBindings :=
  ⟨[second, tenth], List.pairwise_pair.mpr ⟨2, 10, by decide +kernel, by decide +kernel, by decide⟩⟩

/-- Peers 2 and 10, given in the order of their texts, are put in that of their numbers; only that spelling is read
back, and the two seats are covered. -/
theorem directory_canonical_cover_two :
    MgSeatBindings.new twoSeats [tenth, second] = .ok twoBindings ∧
    (∀ s, MgSeatBindings.parseCanonical twoSeats s = .ok twoBindings ↔ s = "2,10") ∧
    ∃ vs, twoBindings.verifyForFederation twoSeats ⟨"federation", [], [⟨"2", "key"⟩, ⟨"10", "other"⟩]⟩ = .ok vs := by
  obtain ⟨order, spelling, cover⟩ := directory_canonical_cover twoSeats twoSeats_inverts
  have hnew : MgSeatBindings.new twoSeats [second, tenth] = .ok twoBindings :=
    MgSeatBindings.new_eq_ok.mpr ⟨.refl _, by decide, by decide, by decide +kernel, "2,10", rfl, by decide +kernel⟩
  refine ⟨order _ _ _ (.swap ..) hnew, fun s => ?_, ?_⟩
  · rw [spelling, MgSeatBindings.canonicalString_eq_ok, and_iff_right ⟨_, hnew⟩]
    exact Option.some_inj.trans eq_comm
  · have hseats : federationSeats twoSeats ⟨[], [(2, "url"), (10, "url")], some [(2, "key"), (10, "other")]⟩ =
        .ok ⟨"federation", [], [⟨"2", "key"⟩, ⟨"10", "other"⟩]⟩ := rfl
    refine (cover _ _ (by decide) hseats twoBindings ?_).mpr ⟨?_, .refl _, by decide, by decide⟩
    · unfold Codec.TellsApart
      decide +kernel
    · exact fun b hb => ⟨rfl, by revert b; decide, by revert b; decide⟩

end Manifold.Guardian.Metadata
