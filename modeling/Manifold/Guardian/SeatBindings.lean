import Mathlib.Algebra.GroupWithZero.Nat
import Mathlib.Data.List.Sort
import Manifold.Lib.Task

/-!
# Seat bindings and fee recipients

`crates/domain/src/mg_seat_bindings.rs`, and `canonical_guardian_fee_recipient_list` of
`crates/mg/core/src/guardian_fee.rs`.
-/

namespace Manifold.Guardian.Metadata

open Lib

abbrev Bytes := List UInt8

/-! ## Accounts and attestations -/

inductive AccountType where
  | seeker
  | provider
  | btcDepositor
deriving DecidableEq

structure Account where
  accType : AccountType
  keys : List String
deriving DecidableEq

def Account.asSingle (a : Account) : Option String :=
  match a.keys with
  | [key] => some key
  | _ => none

def Account.feeAccount (a : Account) : Bool := a.accType == .btcDepositor && a.asSingle.isSome

structure MgPeerAttestationStatement where
  mgPubkey : String
  federationId : String
  federationConfigHash : Bytes
  peerId : String
  guardianIdentity : String
  guardianFeeAccount : Account
  issuedAt : Nat
deriving DecidableEq

structure MgPeerAttestation where
  attestation : MgPeerAttestationStatement
  proof : Bytes
deriving DecidableEq

structure GuardianFeeRecipient where
  account : Account
  weight : Nat
deriving DecidableEq

structure FederationSeat where
  peerId : String
  guardianIdentity : String

structure FederationSeats where
  federationId : String
  federationConfigHash : Bytes
  seats : List FederationSeat

structure ClientConfig where
  modules : List (Nat × String)
  apiEndpoints : List (Nat × String)
  broadcastPublicKeys : Option (List (Nat × String))

/-- A value of the metadata object; only strings are looked into. -/
inductive Json where
  | string (s : String)
  | other (text : String)

def Json.asStr : Json → Option String
  | .string s => some s
  | .other _ => none

abbrev Fields := List (String × Json)

def Fields.get (fs : Fields) (key : String) : Option Json := (fs.find? (·.1 == key)).map (·.2)

def Fields.insert (key : String) (value : Json) : Fields → Fields
  | [] => [(key, value)]
  | (k, v) :: rest =>
    if key < k then (key, value) :: (k, v) :: rest
    else if key = k then (key, value) :: rest
    else (k, v) :: Fields.insert key value rest

structure MetaFieldValidator where
  rawValueMaxBytes : Nat
  validate : String → Bool

structure Codec where
  sha256 : Bytes → Bytes
  parseObject : Bytes → Option Fields
  canonicalObject : Fields → Option Bytes
  directoryString : List MgPeerAttestation → Option String
  parseDirectory : String → Option (List MgPeerAttestation)
  accountBytes : Account → Option Bytes
  recipientsString : List GuardianFeeRecipient → Option String
  parseRecipients : String → Option (Nat × List GuardianFeeRecipient)
  /-- The canonical id of an account, a digest compared as a number. -/
  accountId : Account → Nat
  /-- `MgPeerAttestation::verify`. -/
  attested : MgPeerAttestation → Bool
  federationId : ClientConfig → String
  federationConfigHash : ClientConfig → Bytes
  endpointKey : String → Option String
  endpointProofMessage : MgPeerAttestationStatement → Option Bytes
  endorses : String → Bytes → Bytes → Bool
  validatorFor : String → Option MetaFieldValidator

/-! ## Peer ids -/

def digitsToNat (cs : List Char) : Option Nat :=
  if cs.isEmpty then none
  else cs.foldl (fun acc c => acc.bind (fun n =>
    if '0' ≤ c ∧ c ≤ '9' then some (10 * n + (c.toNat - '0'.toNat)) else none)) (some 0)

/-- `parse::<u64>()` and the like, which accept a leading plus sign. -/
def parseUnsigned (bits : Nat) (s : String) : Option Nat :=
  let digits := match s.toList with
    | '+' :: cs => cs
    | cs => cs
  (digitsToNat digits).filter (· < 2 ^ bits)

def parseProtocolPeerId (peerId : String) : Option Nat :=
  (parseUnsigned 16 peerId).filter (fun n => toString n == peerId)

def MgPeerAttestation.peer (b : MgPeerAttestation) : Option Nat := parseProtocolPeerId b.attestation.peerId

def federationSeats (c : Codec) (config : ClientConfig) : Except String FederationSeats :=
  if config.apiEndpoints.isEmpty then .error "federation config declares no guardian seats"
  else match config.broadcastPublicKeys with
    | none => .error "federation config carries no broadcast public keys"
    | some keys => do
        let seats ← config.apiEndpoints.mapM (fun endpoint =>
          match keys.find? (·.1 == endpoint.1) with
          | some key => .ok (⟨toString endpoint.1, key.2⟩ : FederationSeat)
          | none => .error ("federation config peer " ++ toString endpoint.1 ++ " has no broadcast public key"))
        return ⟨c.federationId config, c.federationConfigHash config, seats⟩

/-! ## The directory -/

inductive MgSeatBindingsError where
  | empty
  | tooManySeatBindings
  | valueTooLarge
  | malformedJson
  | nonCanonical
  | canonicalizationFailed
  | nonCanonicalPeerId
  | duplicatePeerId (peerId : String)
  | invalidSeatBindingSignature
  | federationMismatch (peerId : String)
  | configHashMismatch (peerId : String)
  | unknownPeerId (peerId : String)
  | guardianIdentityMismatch (peerId : String)
  | invalidGuardianFeeAccount (peerId : String)
  | duplicateGuardianFeeAccount (peerId : String)
  | unboundPeerId (peerId : String)

def mgSeatBindingsMaxCount : Nat := 64

def mgSeatBindingsMaxValueBytes : Nat := 65536

def PeerBefore (a b : MgPeerAttestation) : Prop := ∃ m n, a.peer = some m ∧ b.peer = some n ∧ m < n

structure MgSeatBindings where
  seatBindings : List MgPeerAttestation
  ascending : seatBindings.Pairwise PeerBefore

def adjacentDuplicate : List (Nat × MgPeerAttestation) → Option String
  | a :: b :: rest => if a.1 = b.1 then some a.2.attestation.peerId else adjacentDuplicate (b :: rest)
  | _ => none

def MgPeerAttestation.keyed (b : MgPeerAttestation) : Option (Nat × MgPeerAttestation) := b.peer.map (·, b)

def keyedBindings (bs : List MgPeerAttestation) : Option (List (Nat × MgPeerAttestation)) :=
  (bs.mapM MgPeerAttestation.keyed).map (·.mergeSort (fun a b => decide (a.1 ≤ b.1)))

section keyed

variable {bs : List MgPeerAttestation} {keyed : List (Nat × MgPeerAttestation)}

theorem mapM_peer {l} (h : bs.mapM MgPeerAttestation.keyed = some l) :
    l.map (·.2) = bs ∧ ∀ x ∈ l, x.2.peer = some x.1 := by
  induction bs generalizing l with
  | nil =>
    cases h
    simp
  | cons b bs ih =>
    simp only [List.mapM_cons, Option.bind_eq_bind, Option.bind_eq_some_iff, MgPeerAttestation.keyed,
      Option.map_eq_some_iff] at h
    obtain ⟨x, ⟨n, hn, rfl⟩, l', hl', h⟩ := h
    cases h
    obtain ⟨hmap, hpeers⟩ := ih hl'
    refine ⟨by simp [hmap], fun x hx => ?_⟩
    rcases List.mem_cons.mp hx with rfl | hx
    · exact hn
    · exact hpeers x hx

theorem keyedBindings_perm (h : keyedBindings bs = some keyed) : (keyed.map (·.2)).Perm bs := by
  obtain ⟨l, hl, rfl⟩ := Option.map_eq_some_iff.mp h
  exact (mapM_peer hl).1 ▸ (List.mergeSort_perm l _).map _

theorem keyedBindings_peer (h : keyedBindings bs = some keyed) : ∀ x ∈ keyed, x.2.peer = some x.1 := by
  obtain ⟨l, hl, rfl⟩ := Option.map_eq_some_iff.mp h
  exact fun x hx => (mapM_peer hl).2 x (List.mem_mergeSort.mp hx)

theorem keyedBindings_sorted (h : keyedBindings bs = some keyed) : keyed.Pairwise (·.1 ≤ ·.1) := by
  obtain ⟨l, -, rfl⟩ := Option.map_eq_some_iff.mp h
  refine (List.pairwise_mergeSort (fun a b c hab hbc => ?_) (fun a b => ?_) l).imp of_decide_eq_true
  · exact decide_eq_true (Nat.le_trans (of_decide_eq_true hab) (of_decide_eq_true hbc))
  · simpa using Nat.le_total a.1 b.1

theorem ascending_of_sorted (hs : keyed.Pairwise (·.1 ≤ ·.1)) (hd : adjacentDuplicate keyed = none) :
    keyed.Pairwise (·.1 < ·.1) := by
  have hchain : keyed.IsChain (·.1 < ·.1) := by
    induction keyed with
    | nil => exact .nil
    | cons a rest ih =>
      cases rest with
      | nil => exact .singleton _
      | cons b rest =>
        simp only [adjacentDuplicate] at hd
        split at hd
        · cases hd
        · rename_i hne
          have hle : a.1 ≤ b.1 := (List.pairwise_cons.mp hs).1 b List.mem_cons_self
          exact .cons_cons (Nat.lt_of_le_of_ne hle hne) (ih (List.pairwise_cons.mp hs).2 hd)
  have : IsTrans (Nat × MgPeerAttestation) (·.1 < ·.1) := ⟨fun _ _ _ => Nat.lt_trans⟩
  exact List.isChain_iff_pairwise.mp hchain

theorem keyedBindings_ascending (h : keyedBindings bs = some keyed) (hd : adjacentDuplicate keyed = none) :
    (keyed.map (·.2)).Pairwise PeerBefore := by
  rw [List.pairwise_map]
  refine (ascending_of_sorted (keyedBindings_sorted h) hd).imp_of_mem fun {a b} ha hb hlt => ?_
  exact ⟨a.1, b.1, keyedBindings_peer h a ha, keyedBindings_peer h b hb, hlt⟩

end keyed

namespace MgSeatBindings

variable (c : Codec)

def canonicalString (d : MgSeatBindings) : Except MgSeatBindingsError String :=
  match c.directoryString d.seatBindings with
  | some s => .ok s
  | none => .error .canonicalizationFailed

def capped (d : MgSeatBindings) : Except MgSeatBindingsError MgSeatBindings := do
  let s ← d.canonicalString c
  if mgSeatBindingsMaxValueBytes < s.utf8ByteSize then .error .valueTooLarge else .ok d

def new (bs : List MgPeerAttestation) : Except MgSeatBindingsError MgSeatBindings :=
  if bs.isEmpty then .error .empty
  else if mgSeatBindingsMaxCount < bs.length then .error .tooManySeatBindings
  else match h : keyedBindings bs with
    | none => .error .nonCanonicalPeerId
    | some keyed =>
      match hd : adjacentDuplicate keyed with
      | some peerId => .error (.duplicatePeerId peerId)
      | none => capped c ⟨keyed.map (·.2), keyedBindings_ascending h hd⟩

def parseCanonical (value : String) : Except MgSeatBindingsError MgSeatBindings :=
  if mgSeatBindingsMaxValueBytes < value.utf8ByteSize then .error .valueTooLarge
  else match c.parseDirectory value with
    | none => .error .malformedJson
    | some bs => do
        let normalized ← new c bs
        let s ← normalized.canonicalString c
        if s = value then .ok normalized else .error .nonCanonical

end MgSeatBindings

structure VerifiedSeatBinding where
  attestation : MgPeerAttestation
  peerId : String
  guardianIdentity : String
  mgPubkey : String
  guardianFeeAccount : Account

def verifyBinding (c : Codec) (federation : FederationSeats) (seen : List Nat) (b : MgPeerAttestation) :
    Except MgSeatBindingsError VerifiedSeatBinding :=
  let st := b.attestation
  if !c.attested b then .error .invalidSeatBindingSignature
  else if st.federationId ≠ federation.federationId then .error (.federationMismatch st.peerId)
  else if st.federationConfigHash ≠ federation.federationConfigHash then .error (.configHashMismatch st.peerId)
  else match federation.seats.find? (·.peerId == st.peerId) with
    | none => .error (.unknownPeerId st.peerId)
    | some seat =>
      if st.guardianIdentity ≠ seat.guardianIdentity then .error (.guardianIdentityMismatch st.peerId)
      else if !st.guardianFeeAccount.feeAccount then .error (.invalidGuardianFeeAccount st.peerId)
      else if c.accountId st.guardianFeeAccount ∈ seen then .error (.duplicateGuardianFeeAccount st.peerId)
      else .ok ⟨b, st.peerId, st.guardianIdentity, st.mgPubkey, st.guardianFeeAccount⟩

def verifyBindings (c : Codec) (federation : FederationSeats) (seen : List Nat) :
    List MgPeerAttestation → Except MgSeatBindingsError (List VerifiedSeatBinding)
  | [] => .ok []
  | b :: rest => do
      let v ← verifyBinding c federation seen b
      let vs ← verifyBindings c federation (c.accountId v.guardianFeeAccount :: seen) rest
      return v :: vs

def MgSeatBindings.verifyForFederation (c : Codec) (federation : FederationSeats) (d : MgSeatBindings) :
    Except MgSeatBindingsError (List VerifiedSeatBinding) := do
  let verified ← verifyBindings c federation [] d.seatBindings
  match federation.seats.find? (fun seat => !verified.any (·.peerId == seat.peerId)) with
  | some missing => .error (.unboundPeerId missing.peerId)
  | none => return verified

def guardianFeeBindings (vs : List VerifiedSeatBinding) : List Account := vs.map (·.guardianFeeAccount)

/-! ## The fee recipients -/

inductive FeePolicyError where
  | incomplete
  | sendPpmTooHigh
  | sendPpmTooLow (minimum : Nat)
  | invalidRecipients
  | invalidSplit (expected got : Nat)

inductive GuardianFeeRecipientListError where
  | invalidCount
  | accountTooLarge
  | invalidWeight
  | notCanonical
  | encoding
  | listTooLarge

def maxSendPpm : Nat := 210000

def maxGuardianFeeRecipients : Nat := 32

def maxGuardianFeeAccountBytes : Nat := 256

def maxGuardianFeeRecipientListBytes : Nat := 8192

def faRecipientWeight : Nat := 4

def guardianRecipientWeight : Nat := 1

def guardianVerificationFeeWeight : Nat := 1

def prevalidateGuardianFeeRate (sendPpm minimum : Nat) : Except FeePolicyError Unit :=
  if maxSendPpm < sendPpm then .error .sendPpmTooHigh
  else if sendPpm < minimum then .error (.sendPpmTooLow minimum)
  else .ok ()

def checkRecipients (c : Codec) (previous : Option Nat) (total : Nat) :
    List GuardianFeeRecipient → Except GuardianFeeRecipientListError Nat
  | [] => .ok total
  | r :: rest =>
    match c.accountBytes r.account with
    | none => .error .encoding
    | some bytes =>
      if maxGuardianFeeAccountBytes < bytes.length then .error .accountTooLarge
      else if previous.any (c.accountId r.account ≤ ·) then .error .notCanonical
      else if r.weight = 0 ∨ 2 ^ 64 ≤ total + r.weight then .error .invalidWeight
      else checkRecipients c (some (c.accountId r.account)) (total + r.weight) rest

def canonicalGuardianFeeRecipientList (c : Codec) (rs : List GuardianFeeRecipient) :
    Except GuardianFeeRecipientListError String :=
  if rs.isEmpty ∨ maxGuardianFeeRecipients < rs.length then .error .invalidCount
  else do
    let total ← checkRecipients c none 0 rs
    if total = 0 then .error .invalidWeight
    else match c.recipientsString rs with
      | none => .error .encoding
      | some s => if maxGuardianFeeRecipientListBytes < s.utf8ByteSize then .error .listTooLarge else .ok s

/-- What `canonical_proposal` demands: the verification fee once, the ambassador once, and every guardian, each at
its weight. -/
def properSplit (rs : List GuardianFeeRecipient) (guardians : List Account) (verificationFee : Account) : Bool :=
  !guardians.isEmpty && !guardians.contains verificationFee &&
    (rs.filter (·.account == verificationFee)).map (·.weight) == [guardianVerificationFeeWeight] &&
    rs.countP (fun r => r.account != verificationFee && !guardians.contains r.account &&
      r.weight == faRecipientWeight) == 1 &&
    guardians.all (fun g => (rs.find? (·.account == g)).any (·.weight == guardianRecipientWeight)) &&
    rs.length == guardians.length + 2

def canonicalProposal (c : Codec) (sendPpm : Nat) (rs : List GuardianFeeRecipient) (guardians : List Account)
    (verificationFee : Account) : Except FeePolicyError String := do
  prevalidateGuardianFeeRate sendPpm 0
  let value ← (canonicalGuardianFeeRecipientList c rs).mapError (fun _ => .invalidRecipients)
  if properSplit rs guardians verificationFee then .ok value
  else .error (.invalidSplit (guardians.length + 2) rs.length)

def sortRecipients (c : Codec) (rs : List GuardianFeeRecipient) : List GuardianFeeRecipient :=
  rs.mergeSort (fun a b => decide (c.accountId a.account ≤ c.accountId b.account))

def canonicalFormationProposal (c : Codec) (sendPpm : Nat) (guardians : List Account) (fa verificationFee : Account) :
    Except FeePolicyError String :=
  let rs := guardians.map (⟨·, guardianRecipientWeight⟩) ++
    [⟨fa, faRecipientWeight⟩, ⟨verificationFee, guardianVerificationFeeWeight⟩]
  if rs.all (·.account.feeAccount) then canonicalProposal c sendPpm (sortRecipients c rs) guardians verificationFee
  else .error .invalidRecipients

/-! ## A moved seat -/

inductive RebindSeatError where
  | directory (e : MgSeatBindingsError)
  | unknownPeer
  | invalidFeeAccount
  | invalidRecipients
  | missingRecipient
  | recipientList (e : GuardianFeeRecipientListError)

structure ReboundSeat where
  seatBindings : String
  recipients : String

def moveShare (old new : Account) : List GuardianFeeRecipient → Option (List GuardianFeeRecipient)
  | [] => none
  | r :: rest => if r.account = old then some ({ r with account := new } :: rest) else (moveShare old new rest).map (r :: ·)

def rebindTransferredSeat (c : Codec) (seatBindings recipients : String) (att : MgPeerAttestation) :
    Except RebindSeatError ReboundSeat := do
  let directory ← (MgSeatBindings.parseCanonical c seatBindings).mapError .directory
  match directory.seatBindings.find? (·.attestation.peerId == att.attestation.peerId) with
  | none => .error .unknownPeer
  | some old =>
    if !att.attestation.guardianFeeAccount.feeAccount then .error .invalidFeeAccount
    else
      let moved := directory.seatBindings.map (fun b =>
        if b.attestation.peerId = att.attestation.peerId then att else b)
      let directory ← ((MgSeatBindings.new c moved).bind (·.canonicalString c)).mapError .directory
      match c.parseRecipients recipients with
      | none => .error .invalidRecipients
      | some (version, rs) =>
        if version ≠ 1 then .error .invalidRecipients
        else match moveShare old.attestation.guardianFeeAccount att.attestation.guardianFeeAccount rs with
          | none => .error .missingRecipient
          | some rs =>
            let value ← (canonicalGuardianFeeRecipientList c (sortRecipients c rs)).mapError .recipientList
            .ok ⟨directory, value⟩

end Manifold.Guardian.Metadata
