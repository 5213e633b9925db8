import Manifold.Lib.Bytes

/-!
# Seat facts and the port grid

The vocabulary that the durable store records (`crates/mg/core/src/facts.rs`). Machine integers are naturals.
-/

namespace Manifold.Guardian

open Lib (bigEndian ofBigEndian)

abbrev QuoteId := BitVec 256
abbrev OfferEpoch := BitVec 256
abbrev FaId := BitVec 256
abbrev FederationId := String
abbrev InviteCode := String

def u32Max : Nat := 4294967295
def u16Max : Nat := 65535

def u32OrMax (n : Nat) : Nat := if n ≤ u32Max then n else u32Max

def u32SaturatingAdd (a b : Nat) : Nat := min (a + b) u32Max

inductive Plan where
  | infiniteBestEffort (priceMsats : UInt64)
  | subscriptionBased (initialPriceMsats renewalPriceMsats : UInt64) (period : String)
deriving DecidableEq

def SeatPorts.block : Nat := 4

/-- The first port of a block. The whole block fits in `u16`. -/
structure PortBase where
  get : Nat
  fits : get + (SeatPorts.block - 1) ≤ u16Max

def PortBase.new (base : Nat) : Option PortBase :=
  if h : base + (SeatPorts.block - 1) ≤ u16Max then some ⟨base, h⟩ else none

/-- `SeatNo::port_base`: `none` when the ordinal is not a `u16`, the product or the sum overflows, or the block does
not fit. -/
def SeatNo.portBase (no : Nat) (first : PortBase) : Option PortBase :=
  if no ≤ u16Max then
    if no * SeatPorts.block ≤ u16Max then
      if first.get + no * SeatPorts.block ≤ u16Max then
        PortBase.new (first.get + no * SeatPorts.block)
      else none
    else none
  else none

structure SeatFacts where
  seatId : QuoteId
  seatNo : Nat
  faId : FaId
  plan : Plan
  federationSize : Nat
  createdAtMs : Int
deriving DecidableEq

/-! ## Text and bytes -/

def isControl (c : Char) : Bool := c.val < 0x20 || (0x7f ≤ c.val && c.val ≤ 0x9f)

def bounded (maxBytes : Nat) (text : String) : Bool :=
  !text.isEmpty && decide (text.utf8ByteSize ≤ maxBytes) && !text.toList.any isControl

def seatIdBytes (seatId : QuoteId) : List UInt8 := bigEndian 32 seatId.toNat

def seatIdOfBytes (bytes : List UInt8) : Option QuoteId :=
  if bytes.length = 32 then some (BitVec.ofNat 256 (ofBigEndian bytes)) else none

def hexEncode (bytes : List UInt8) : String :=
  String.ofList (bytes.flatMap (fun b => [Nat.digitChar (b.toNat / 16), Nat.digitChar (b.toNat % 16)]))

end Manifold.Guardian
