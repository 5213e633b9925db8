import Manifold.Lib.Bytes
import Manifold.Lib.Machine
import Manifold.Guardian.SeatBindings

/-!
# Metadata votes of a seat

The verbs of `crates/mg/core/src/seat.rs` and `seat/transfer_binding.rs` that vote for a whole metadata object.
-/

namespace Manifold.Guardian.Metadata

open Lib

/-! ## The consensus -/

structure Consensus where
  revision : Nat
  value : Bytes

inductive MetaConsensusBase where
  | absent
  | sha256 (digest : Bytes)
deriving DecidableEq

def metaConsensusBaseDomain : Bytes :=
  ("fedi-fman-meta-consensus-base/v1".toList.map (fun c => UInt8.ofNat c.toNat)) ++ [0]

def MetaConsensusBase.fromConsensus (c : Codec) : Option Consensus → MetaConsensusBase
  | none => .absent
  | some k => .sha256 (c.sha256 (metaConsensusBaseDomain ++ bigEndian 8 k.revision ++ k.value))

/-! ## Requests -/

/-- `SeatVerbError`, with the two refusals that the service adds. -/
inductive VerbError where
  | seatUnavailable
  | wrongState
  | metaKeyRefused
  | metaValueInvalid
  | metaConsensusChanged
  | formationMetaAlreadyPublished
  | metaTargetConflict
  | guardianVerificationFeeAccountUnavailable
  | guardianVerificationFeeAccountMismatch
  | internal (text : String)
deriving DecidableEq

structure FormationSeatBinding where
  attestation : MgPeerAttestation
  endpointProof : Bytes

inductive Request where
  | proposeFormationMeta (expectedBase : MetaConsensusBase) (seatBindings : List FormationSeatBinding)
      (faFeeAccount guardianVerificationFeeAccount : Account) (sendPpm : Nat)
  | submitMetaField (expectedBase : MetaConsensusBase) (key value : String)
  | submitMetaPatch (expectedBase : MetaConsensusBase) (updates : Fields)
  | replaceSeatBinding (expectedBase : MetaConsensusBase) (binding : FormationSeatBinding)

def Request.expectedBase : Request → MetaConsensusBase
  | .proposeFormationMeta b _ _ _ _ | .submitMetaField b _ _ | .submitMetaPatch b _ | .replaceSeatBinding b _ => b

structure Own where
  mgPubkey : String
  guardianVerificationFeeAccount : Option Account
  minGuardianFeePpm : Nat

structure Answers where
  config : Except VerbError ClientConfig
  consensus : Except VerbError Unit
  ownPeer : Except VerbError String
  reset : Except VerbError Unit
  submit : Except VerbError Unit

structure Target where
  encoded : Bytes
  resets : Option Nat

/-! ## The targets -/

def sendPpmMetaKey : String := "fedi:guardian_fee_send_ppm"

def remittanceAccountMetaKey : String := "fedi:guardian_fee_remittance_account"

def mgSeatBindingsMetaFieldKey : String := "fedi:fman_seat_bindings"

def federationMetadataObjectMaxBytes : Nat := 1048576

def metaFieldKeyMaxBytes : Nat := 128

def ensureMetaObjectSize (value : Bytes) : Except VerbError Unit :=
  if federationMetadataObjectMaxBytes < value.length then .error .metaValueInvalid else .ok ()

section targets

variable (c : Codec) (own : Own) (a : Answers) (current : Option Consensus)

def metaModuleConfig (missing : VerbError) : Except VerbError ClientConfig := do
  let config ← a.config
  if config.modules.any (·.2 == "meta") then return config else .error missing

def noMetaModule : VerbError := .internal "federation config carries no meta module"

def readConsensus : Except VerbError (Option Consensus) := do
  a.consensus
  match current with
  | some k => (ensureMetaObjectSize k.value).map (fun _ => current)
  | none => return none

def consensusFields : Option Consensus → Except VerbError Fields
  | none => .ok []
  | some k =>
    match c.parseObject k.value with
    | some fields => .ok fields
    | none => .error (.internal "federation's consensus metadata is not a JSON object")

def ensureBase (expected : MetaConsensusBase) (k : Option Consensus) : Except VerbError Unit :=
  if MetaConsensusBase.fromConsensus c k = expected then .ok () else .error .metaConsensusChanged

def ownFederationSeats (config : ClientConfig) : Except VerbError FederationSeats :=
  (federationSeats c config).mapError (fun e => .internal ("seat's own federation config is unusable: " ++ e))

def encodeObject (fields : Fields) : Except VerbError Bytes :=
  match c.canonicalObject fields with
  | none => .error (.internal "could not canonicalize consensus metadata")
  | some encoded => (ensureMetaObjectSize encoded).map (fun _ => encoded)

def verifyEndpointProof (config : ClientConfig) (b : FormationSeatBinding) : Except VerbError Unit :=
  match b.attestation.peer.bind (fun p => (config.apiEndpoints.find? (·.1 == p)).bind (fun e => c.endpointKey e.2)) with
  | none => .error .metaValueInvalid
  | some key =>
    if b.endpointProof.length ≠ 64 then .error .metaValueInvalid
    else match c.endpointProofMessage b.attestation.attestation with
      | none => .error (.internal "could not canonicalize the attestation statement")
      | some message => if c.endorses key message b.endpointProof then .ok () else .error .metaValueInvalid

def verifyEndpointProofs (config : ClientConfig) : List FormationSeatBinding → Except VerbError Unit
  | [] => .ok ()
  | b :: rest => do
      verifyEndpointProof c config b
      verifyEndpointProofs config rest

def ensureOwnBinding (ownPeer : String) (vs : List VerifiedSeatBinding) : Except VerbError Unit :=
  if vs.any (fun v => v.peerId == ownPeer && v.mgPubkey == own.mgPubkey) then .ok () else .error .metaValueInvalid

def ensureVerificationFeeAccount (account : Account) : Except VerbError Unit :=
  match own.guardianVerificationFeeAccount.filter (·.feeAccount) with
  | none => .error .guardianVerificationFeeAccountUnavailable
  | some ours => if account = ours then .ok () else .error .guardianVerificationFeeAccountMismatch

def invalidValue {ε α : Type} (x : Except ε α) : Except VerbError α := x.mapError (fun _ => .metaValueInvalid)

def formationFields (fields : Fields) (directory recipients : String) (sendPpm : Nat) : Fields :=
  Fields.insert remittanceAccountMetaKey (.string recipients)
    (Fields.insert sendPpmMetaKey (.string (toString sendPpm))
      (Fields.insert mgSeatBindingsMetaFieldKey (.string directory) fields))

def proposeFormationMeta (expectedBase : MetaConsensusBase) (seatBindings : List FormationSeatBinding)
    (faFeeAccount guardianVerificationFeeAccount : Account) (sendPpm : Nat) : Except VerbError Target := do
  ensureVerificationFeeAccount own guardianVerificationFeeAccount
  invalidValue (prevalidateGuardianFeeRate sendPpm own.minGuardianFeePpm)
  let config ← metaModuleConfig a noMetaModule
  let k ← readConsensus a current
  let fields ← consensusFields c k
  if (fields.get mgSeatBindingsMetaFieldKey).isSome then .error .formationMetaAlreadyPublished
  ensureBase c expectedBase k
  let federation ← ownFederationSeats c config
  let bindings ← invalidValue (MgSeatBindings.new c (seatBindings.map (·.attestation)))
  let directory ← invalidValue (bindings.canonicalString c)
  let verified ← invalidValue (bindings.verifyForFederation c federation)
  let ownPeer ← a.ownPeer
  ensureOwnBinding own ownPeer verified
  verifyEndpointProofs c config seatBindings
  let recipients ← invalidValue (canonicalFormationProposal c sendPpm (guardianFeeBindings verified) faFeeAccount
    guardianVerificationFeeAccount)
  let encoded ← encodeObject c (formationFields fields directory recipients sendPpm)
  return ⟨encoded, none⟩

def submitMetaPatch (expectedBase : MetaConsensusBase) (updates : Fields) : Except VerbError Target := do
  let _ ← metaModuleConfig a noMetaModule
  let k ← readConsensus a current
  ensureBase c expectedBase k
  let fields ← consensusFields c k
  let encoded ← encodeObject c (updates.foldl (fun fs u => Fields.insert u.1 u.2 fs) fields)
  return ⟨encoded, none⟩

def validateMetaField (key value : String) : Except VerbError Unit :=
  if metaFieldKeyMaxBytes < key.utf8ByteSize then .error .metaKeyRefused
  else match c.validatorFor key with
    | none => .error .metaKeyRefused
    | some v =>
      if v.rawValueMaxBytes < value.utf8ByteSize then .error .metaValueInvalid
      else if v.validate value then .ok () else .error .metaValueInvalid

def validateFeeRate (key value : String) : Except VerbError Unit :=
  if key = sendPpmMetaKey then
    match parseUnsigned 64 value with
    | none => .error .metaValueInvalid
    | some sendPpm => invalidValue (prevalidateGuardianFeeRate sendPpm own.minGuardianFeePpm)
  else .ok ()

def submitMetaField (expectedBase : MetaConsensusBase) (key value : String) : Except VerbError Target := do
  validateMetaField c key value
  validateFeeRate own key value
  submitMetaPatch c a current expectedBase [(key, .string value)]

def presentFields (k : Option Consensus) : Except VerbError Fields :=
  match k.bind (fun k => c.parseObject k.value) with
  | some fields => .ok fields
  | none => .error .metaValueInvalid

def stringField (fields : Fields) (key : String) : Except VerbError String :=
  match (fields.get key).bind Json.asStr with
  | some s => .ok s
  | none => .error .metaValueInvalid

def hostOf (peerId : String) (vs : List VerifiedSeatBinding) : Option String :=
  (vs.find? (·.peerId == peerId)).map (·.mgPubkey)

def resetPeer (peerId : String) (previous verified : List VerifiedSeatBinding) : Except VerbError (Option Nat) :=
  if hostOf peerId previous = hostOf peerId verified then .ok none
  else match parseProtocolPeerId peerId with
    | some p => .ok (some p)
    | none => .error .metaValueInvalid

def replaceSeatBinding (expectedBase : MetaConsensusBase) (binding : FormationSeatBinding) :
    Except VerbError Target := do
  let config ← metaModuleConfig a .metaValueInvalid
  let k ← readConsensus a current
  ensureBase c expectedBase k
  let fields ← presentFields c k
  let directory ← stringField fields mgSeatBindingsMetaFieldKey
  let recipients ← stringField fields remittanceAccountMetaKey
  let federation ← ownFederationSeats c config
  let previous ← invalidValue ((MgSeatBindings.parseCanonical c directory).bind (·.verifyForFederation c federation))
  let rebound ← invalidValue (rebindTransferredSeat c directory recipients binding.attestation)
  let verified ← invalidValue
    ((MgSeatBindings.parseCanonical c rebound.seatBindings).bind (·.verifyForFederation c federation))
  verifyEndpointProofs c config [binding]
  let ownPeer ← a.ownPeer
  ensureOwnBinding own ownPeer verified
  let encoded ← encodeObject c
    (Fields.insert remittanceAccountMetaKey (.string rebound.recipients)
      (Fields.insert mgSeatBindingsMetaFieldKey (.string rebound.seatBindings) fields))
  let resets ← resetPeer binding.attestation.attestation.peerId previous verified
  return ⟨encoded, resets⟩

def target : Request → Except VerbError Target
  | .proposeFormationMeta b bindings fa fee ppm => proposeFormationMeta c own a current b bindings fa fee ppm
  | .submitMetaField b key value => submitMetaField c own a current b key value
  | .submitMetaPatch b updates => submitMetaPatch c a current b updates
  | .replaceSeatBinding b binding => replaceSeatBinding c own a current b binding

end targets

/-! ## The command loop -/

structure World where
  metaAdmission : Option (MetaConsensusBase × Bytes) := none
  current : Option Consensus := none
  superseded : List MetaConsensusBase := []

inductive Event where
  | submitted (base : MetaConsensusBase) (value : Bytes)
  | resetPeerAvailability (peer : Nat)
  | answered (result : Option VerbError)
deriving DecidableEq

inductive Action where
  | request (own : Own) (r : Request) (a : Answers)
  | promote (next : Option Consensus)

def Event.ofResult : Except VerbError Unit → Event
  | .ok () => .answered none
  | .error e => .answered (some e)

def pinFor (pin : Option (MetaConsensusBase × Bytes)) (base : MetaConsensusBase) (digest : Bytes) :
    Option (MetaConsensusBase × Bytes) :=
  match pin with
  | some (pinned, admitted) =>
    if pinned = base then if admitted = digest then some (pinned, admitted) else none
    else some (base, digest)
  | none => some (base, digest)

/-- `submit_admitted_meta_target`: the pin is set before the vote is sent. -/
def submitAdmittedMetaTarget (c : Codec) (w : World) (base : MetaConsensusBase) (encoded : Bytes)
    (submit : Except VerbError Unit) : World × List Event :=
  match pinFor w.metaAdmission base (c.sha256 encoded) with
  | none => (w, [.answered (some .metaTargetConflict)])
  | some pin => ({ w with metaAdmission := some pin }, [.submitted base encoded, .ofResult submit])

def handle (c : Codec) (own : Own) (w : World) (r : Request) (a : Answers) : World × List Event :=
  match target c own a w.current r with
  | .error e => (w, [.answered (some e)])
  | .ok t =>
    match t.resets, a.reset with
    | none, _ => submitAdmittedMetaTarget c w r.expectedBase t.encoded a.submit
    | some peer, .error e => (w, [.resetPeerAvailability peer, .answered (some e)])
    | some peer, .ok () =>
      let (w, out) := submitAdmittedMetaTarget c w r.expectedBase t.encoded a.submit
      (w, .resetPeerAvailability peer :: out)

def step (c : Codec) (w : World) : Action → Option (World × List Event)
  | .request own r a => some (handle c own w r a)
  | .promote next =>
    let base := MetaConsensusBase.fromConsensus c w.current
    if MetaConsensusBase.fromConsensus c next ∈ base :: w.superseded then none
    else some ({ w with current := next, superseded := base :: w.superseded }, [])

def seatLoop (c : Codec) : Machine World Action Event where
  init w := w.metaAdmission = none ∧ w.superseded = []
  step := step c

end Manifold.Guardian.Metadata
