import Mathlib.Data.List.Basic
import Mathlib.Data.List.Induction
import Mathlib.Tactic.Ring

/-!
# Big-endian bytes
-/

namespace Manifold.Lib

def bigEndian : Nat → Nat → List UInt8
  | 0, _ => []
  | n + 1, v => bigEndian n (v / 256) ++ [UInt8.ofNat (v % 256)]

def ofBigEndian (bytes : List UInt8) : Nat := bytes.foldl (fun v b => v * 256 + b.toNat) 0

/-- The order of byte strings: the first byte that differs decides, and a string comes before what it
begins. -/
def bytesLt : List UInt8 → List UInt8 → Bool
  | [], [] => false
  | [], _ :: _ => true
  | _ :: _, [] => false
  | a :: as, b :: bs => decide (a.toNat < b.toNat) || (a == b && bytesLt as bs)

@[simp] theorem length_bigEndian (n v : Nat) : (bigEndian n v).length = n := by
  induction n generalizing v with
  | zero => rfl
  | succ n ih => simp [bigEndian, ih]

theorem ofBigEndian_bigEndian (n v : Nat) : ofBigEndian (bigEndian n v) = v % 256 ^ n := by
  induction n generalizing v with
  | zero => simp [bigEndian, ofBigEndian, Nat.mod_one]
  | succ n ih =>
    have hlast : (UInt8.ofNat (v % 256)).toNat = v % 256 := by simp
    have hfold : ofBigEndian (bigEndian (n + 1) v) = ofBigEndian (bigEndian n (v / 256)) * 256 + v % 256 := by
      simp only [bigEndian, ofBigEndian, List.foldl_append, List.foldl_cons, List.foldl_nil, hlast]
    rw [hfold, ih, Nat.pow_succ, Nat.mul_comm (256 ^ n) 256, Nat.mod_mul]
    omega

theorem foldl_bigEndian (v : Nat) (bytes : List UInt8) :
    bytes.foldl (fun v b => v * 256 + b.toNat) v = v * 256 ^ bytes.length + ofBigEndian bytes := by
  induction bytes generalizing v with
  | nil => simp [ofBigEndian]
  | cons b bytes ih =>
    simp only [ofBigEndian, List.foldl_cons, List.length_cons]
    rw [ih, ih (0 * 256 + b.toNat)]
    ring

theorem ofBigEndian_cons (b : UInt8) (bytes : List UInt8) :
    ofBigEndian (b :: bytes) = b.toNat * 256 ^ bytes.length + ofBigEndian bytes := by
  have h := foldl_bigEndian (0 * 256 + b.toNat) bytes
  simpa [ofBigEndian] using h

theorem ofBigEndian_lt (bytes : List UInt8) : ofBigEndian bytes < 256 ^ bytes.length := by
  induction bytes with
  | nil => simp [ofBigEndian]
  | cons b bytes ih =>
    have hb : b.toNat ≤ 255 := by
      have := b.toNat_lt
      omega
    rw [ofBigEndian_cons, List.length_cons, Nat.pow_succ]
    have := Nat.mul_le_mul_right (256 ^ bytes.length) hb
    omega

theorem bigEndian_ofBigEndian (bytes : List UInt8) : bigEndian bytes.length (ofBigEndian bytes) = bytes := by
  induction bytes using List.reverseRecOn with
  | nil => rfl
  | append_singleton bytes b ih =>
    have hb : b.toNat < 256 := b.toNat_lt
    have hfold : ofBigEndian (bytes ++ [b]) = ofBigEndian bytes * 256 + b.toNat := by
      simp [ofBigEndian]
    have hdiv : (ofBigEndian bytes * 256 + b.toNat) / 256 = ofBigEndian bytes := by omega
    have hmod : (ofBigEndian bytes * 256 + b.toNat) % 256 = b.toNat := by omega
    rw [List.length_append, List.length_singleton, bigEndian, hfold, hdiv, hmod, ih, UInt8.ofNat_toNat]

theorem bytesLt_iff {as bs} (h : as.length = bs.length) : bytesLt as bs = true ↔ ofBigEndian as < ofBigEndian bs := by
  induction as generalizing bs with
  | nil =>
    cases bs with
    | nil => simp [bytesLt]
    | cons b bs => simp at h
  | cons a as ih =>
    cases bs with
    | nil => simp at h
    | cons b bs =>
      have hlen : as.length = bs.length := by simpa using h
      have ha := ofBigEndian_lt as
      have hb := ofBigEndian_lt bs
      rw [hlen] at ha
      rw [ofBigEndian_cons, ofBigEndian_cons, hlen]
      simp only [bytesLt, Bool.or_eq_true, decide_eq_true_eq, Bool.and_eq_true, beq_iff_eq, ih hlen]
      rcases Nat.lt_trichotomy a.toNat b.toNat with hlt | heq | hgt
      · have hmul := Nat.mul_le_mul_right (256 ^ bs.length) (Nat.succ_le_of_lt hlt)
        rw [Nat.succ_mul] at hmul
        simp only [hlt, true_or, true_iff]
        omega
      · have hab : a = b := UInt8.toNat_inj.mp heq
        simp [hab]
      have hmul := Nat.mul_le_mul_right (256 ^ bs.length) (Nat.succ_le_of_lt hgt)
      rw [Nat.succ_mul] at hmul
      have hne : a ≠ b := by
        intro hab
        rw [hab] at hgt
        omega
      simp only [Nat.lt_asymm hgt, hne, false_and, or_self, false_iff]
      omega

end Manifold.Lib
