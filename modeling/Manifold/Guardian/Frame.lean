import Manifold.Lib.Bytes

/-!
# The frame of a backup payload

What `seal_padded` seals and `unframe` reads back (`crates/mg/nostr/src/format.rs`).
-/

namespace Manifold.Guardian.Backup

open Lib

def lenPrefix : Nat := 4

def paddedPlaintextLen : Nat := 32 * 1024

def sealOverhead : Nat := 24 + 16

def sealedLen : Nat := paddedPlaintextLen + sealOverhead

def littleEndian (n v : Nat) : List UInt8 := (bigEndian n v).reverse

def ofLittleEndian (bytes : List UInt8) : Nat := ofBigEndian bytes.reverse

def resize (n : Nat) (bytes : List UInt8) : List UInt8 := bytes.take n ++ List.replicate (n - bytes.length) 0

/-- The plaintext that `seal_padded` builds. A payload whose length is no `u32` panics. -/
def framed (payload : List UInt8) : Option (List UInt8) :=
  if payload.length < 2 ^ 32 then
    let plaintext := littleEndian lenPrefix payload.length ++ payload
    let events := (plaintext.length + sealOverhead + (sealedLen - 1)) / sealedLen
    some (resize (events * sealedLen - sealOverhead) plaintext)
  else none

/-- `none` is `BackupError::Frame`. -/
def unframe (plaintext : List UInt8) : Option (List UInt8) :=
  if plaintext.length < lenPrefix then none
  else
    let len := ofLittleEndian (plaintext.take lenPrefix)
    let rest := plaintext.drop lenPrefix
    if rest.length < len then none
    else
      let padding := rest.drop len
      if sealedLen ≤ padding.length ∨ padding.any (· != 0) then none else some (rest.take len)

def WholeEvents (plaintext : List UInt8) : Prop := sealedLen ∣ plaintext.length + sealOverhead

/-- A length, a payload of it and less than an event of zeros. -/
def OfFrame (plaintext : List UInt8) : Prop :=
  ∃ payload : List UInt8, payload.length < 2 ^ 32 ∧ ∃ padding < sealedLen,
    plaintext = littleEndian lenPrefix payload.length ++ payload ++ List.replicate padding 0

variable {plaintext payload : List UInt8}

theorem ofLittleEndian_littleEndian {n v} (h : v < 256 ^ n) : ofLittleEndian (littleEndian n v) = v := by
  rw [ofLittleEndian, littleEndian, List.reverse_reverse, ofBigEndian_bigEndian, Nat.mod_eq_of_lt h]

theorem littleEndian_ofLittleEndian (bytes : List UInt8) : littleEndian bytes.length (ofLittleEndian bytes) = bytes := by
  have h := bigEndian_ofBigEndian bytes.reverse
  rw [List.length_reverse] at h
  rw [littleEndian, ofLittleEndian, h, List.reverse_reverse]

/-- What is accepted is the length, the payload and less than an event of zeros. -/
theorem unframe_eq_some : unframe plaintext = some payload ↔ payload.length < 2 ^ 32 ∧ ∃ padding < sealedLen,
    plaintext = littleEndian lenPrefix payload.length ++ payload ++ List.replicate padding 0 := by
  unfold unframe
  constructor
  · intro h
    split at h
    · cases h
    rename_i hlen
    dsimp only at h
    split at h
    · cases h
    rename_i hrest
    split at h
    · cases h
    rename_i hpadding
    obtain ⟨hshort, hzero⟩ := not_or.mp hpadding
    cases h
    have htake : (plaintext.take lenPrefix).length = lenPrefix := List.length_take_of_le (Nat.not_lt.mp hlen)
    have hpayload := List.length_take_of_le (Nat.not_lt.mp hrest)
    have hlt := ofBigEndian_lt (plaintext.take lenPrefix).reverse
    rw [List.length_reverse, htake] at hlt
    have hlength := littleEndian_ofLittleEndian (plaintext.take lenPrefix)
    rw [htake] at hlength
    have hzeros := List.eq_replicate_of_mem (a := 0)
      (l := (plaintext.drop lenPrefix).drop (ofLittleEndian (plaintext.take lenPrefix))) (by simpa using hzero)
    refine ⟨hpayload.trans_lt hlt, _, Nat.not_le.mp hshort, ?_⟩
    rw [hpayload, hlength, List.append_assoc, ← hzeros, List.take_append_drop, List.take_append_drop]
  · rintro ⟨hlen, padding, hpadding, rfl⟩
    have hlength : (littleEndian lenPrefix payload.length).length = lenPrefix := by simp [littleEndian]
    have hread := ofLittleEndian_littleEndian (n := lenPrefix) hlen
    rw [List.append_assoc, List.take_left' hlength, List.drop_left' hlength, hread]
    simp [hlength, Nat.not_le.mpr hpadding]

/-- The fewest events leave room for less than one event of padding, and only one total length. -/
theorem framed_eq_some : framed payload = some plaintext ↔ payload.length < 2 ^ 32 ∧ WholeEvents plaintext ∧
    ∃ padding < sealedLen, plaintext = littleEndian lenPrefix payload.length ++ payload ++ List.replicate padding 0 := by
  have hlength : (littleEndian lenPrefix payload.length ++ payload).length = 4 + payload.length := by
    simp [littleEndian, lenPrefix]
  unfold framed
  by_cases hlen : payload.length < 2 ^ 32
  · simp only [hlen, if_true, Option.some.injEq, true_and]
    rw [hlength, resize, List.take_of_length_le (by rw [hlength, sealedLen, paddedPlaintextLen, sealOverhead]; omega),
      hlength]
    constructor
    · rintro rfl
      refine ⟨?_, _, ?_, rfl⟩
      · rw [WholeEvents, List.length_append, hlength, List.length_replicate, sealedLen, paddedPlaintextLen, sealOverhead]
        omega
      · rw [sealedLen, paddedPlaintextLen, sealOverhead]
        omega
    · rintro ⟨hwhole, padding, hpadding, rfl⟩
      rw [WholeEvents, List.length_append, hlength, List.length_replicate, sealedLen, paddedPlaintextLen,
        sealOverhead] at hwhole
      rw [sealedLen, paddedPlaintextLen, sealOverhead] at hpadding ⊢
      congr 2
      omega
  · simp only [hlen, if_false, false_and, reduceCtorEq]

/-- `unframe` reads back exactly what `seal_padded` builds on the plaintexts that are of whole events or of no frame,
and only on those; among them a payload is accepted once. -/
theorem frame_has_one_spelling (plaintext : List UInt8) :
    ((∀ payload, unframe plaintext = some payload ↔ framed payload = some plaintext) ↔
      WholeEvents plaintext ∨ ¬ OfFrame plaintext) ∧
    ∀ plaintext' payload, WholeEvents plaintext ∨ ¬ OfFrame plaintext → WholeEvents plaintext' ∨ ¬ OfFrame plaintext' →
      unframe plaintext = some payload → unframe plaintext' = some payload → plaintext' = plaintext := by
  have hiff : ∀ p, (∀ payload, unframe p = some payload ↔ framed payload = some p) ↔ WholeEvents p ∨ ¬ OfFrame p := by
    intro p
    simp only [unframe_eq_some, framed_eq_some]
    constructor
    · intro h
      refine or_not_of_imp ?_
      rintro ⟨payload, hlen, hframe⟩
      exact ((h payload).mp ⟨hlen, hframe⟩).2.1
    · intro hcond payload
      refine ⟨fun ⟨hlen, hframe⟩ => ⟨hlen, ?_, hframe⟩, fun ⟨hlen, _, hframe⟩ => ⟨hlen, hframe⟩⟩
      exact hcond.resolve_right (not_not.mpr ⟨payload, hlen, hframe⟩)
  refine ⟨hiff plaintext, fun plaintext' payload hp hp' h h' => ?_⟩
  have hbuilt := ((hiff plaintext).mpr hp payload).mp h
  have hbuilt' := ((hiff plaintext').mpr hp' payload).mp h'
  exact Option.some.inj (hbuilt'.symm.trans hbuilt)

/-- A frame without padding is accepted, and is not the one that is built. -/
theorem unpadded_frame_accepted : unframe [0, 0, 0, 0] = some [] ∧ framed [] ≠ some [0, 0, 0, 0] := by
  refine ⟨by decide, fun h => ?_⟩
  obtain ⟨-, hwhole, -⟩ := framed_eq_some.mp h
  revert hwhole
  unfold WholeEvents
  decide

/-- A payload that ends in a zero is read back from its frame; no bytes at all are no frame. -/
theorem frame_has_one_spelling_padded :
    (∃ plaintext, framed [7, 0] = some plaintext ∧ unframe plaintext = some [7, 0]) ∧
      ∀ payload, unframe [] = some payload ↔ framed payload = some [] := by
  refine ⟨?_, (frame_has_one_spelling []).1.mpr (.inr ?_)⟩
  · obtain ⟨plaintext, h⟩ : ∃ plaintext, framed [7, 0] = some plaintext := ⟨_, if_pos (by decide)⟩
    exact ⟨plaintext, h, ((frame_has_one_spelling plaintext).1.mpr (.inl (framed_eq_some.mp h).2.1) _).mpr h⟩
  · rintro ⟨payload, -, padding, -, h⟩
    have := congrArg List.length h
    simp [littleEndian, lenPrefix] at this
    omega

end Manifold.Guardian.Backup
