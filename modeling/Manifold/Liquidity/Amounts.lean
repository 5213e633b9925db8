import Mathlib
import Manifold.Lib.Task

/-! Bitcoin Core's decimal amounts, read as satoshis without rounding. -/

namespace Manifold.Liquidity.Amounts

inductive Fault where
  | rejected
  /-- A step left its machine type. -/
  | overflow
deriving DecidableEq

abbrev Text := List Char

def reject {α : Type} : Except Fault α := .error .rejected

def splitOnce (p : Char → Bool) : Text → Option (Text × Text)
  | [] => none
  | c :: cs => if p c then some ([], cs) else (splitOnce p cs).map (fun s => (c :: s.1, s.2))

def parseDigits (cs : Text) : Option Nat :=
  if cs ≠ [] ∧ cs.all Char.isDigit then some (Nat.ofDigitChars 10 cs 0) else none

def i32 (n : Int) : Bool := -2 ^ 31 ≤ n && n < 2 ^ 31

def parseI32 (cs : Text) : Option Int :=
  (if cs.head? = some '-' then (parseDigits cs.tail).map (fun n => -(n : Int))
    else if cs.head? = some '+' then (parseDigits cs.tail).map Int.ofNat
    else (parseDigits cs).map Int.ofNat).filter i32

def checkedI32 (n : Int) : Except Fault Int := if i32 n then .ok n else .error .overflow

def checkedU64 (n : Nat) : Except Fault Nat := if n < 2 ^ 64 then .ok n else reject

/-- The end of `btc_value_to_sats`, with the digits, the exponent and the length of the fraction read. -/
def scaleDigits (digits : Nat) (exponent : Int) (places : Nat) : Except Fault Nat := do
  let shifted ← checkedI32 (8 + exponent)
  if 2 ^ 31 ≤ places then reject
  else
    let scale ← checkedI32 (shifted - places)
    if 0 ≤ scale then
      checkedU64 (digits * (← checkedU64 (10 ^ scale.toNat)))
    else
      let divisor ← checkedU64 (10 ^ (← checkedI32 (-scale)).toNat)
      if digits % divisor ≠ 0 then reject else .ok (digits / divisor)

/-- The value as `as_number` gives it, by its text. -/
def btcValueToSats (value : Option Text) : Except Fault Nat := do
  let decimal ← value.elim reject .ok
  let (mantissa, exponent) ← (splitOnce (fun c => c == 'e' || c == 'E') decimal).elim (.ok (decimal, 0))
    (fun parts => (parseI32 parts.2).elim reject (fun exponent => .ok (parts.1, exponent)))
  let (whole, fraction) := (splitOnce (· == '.') mantissa).getD (mantissa, [])
  if whole.head? = some '-' ∨ ¬ whole.all Char.isDigit ∨ ¬ fraction.all Char.isDigit then reject
  else scaleDigits (← (parseDigits (whole ++ fraction)).elim reject checkedU64) exponent fraction.length

/-! ## The number a text denotes -/

structure Exponent where
  upper : Bool
  /-- A minus, a plus or nothing. -/
  sign : Option Bool
  digits : Text
  digits_ne : digits ≠ []
  isDigit : ∀ c ∈ digits, c.isDigit

/-- A JSON number; one without a point has no fraction. -/
structure Number where
  negative : Bool
  whole : Text
  fraction : Text
  exponent : Option Exponent
  whole_ne : whole ≠ []
  isDigit : ∀ c ∈ whole ++ fraction, c.isDigit

namespace Exponent

variable (e : Exponent)

def text : Text :=
  (if e.upper then 'E' else 'e') :: e.sign.elim [] (fun minus => [if minus then '-' else '+']) ++ e.digits

def value : Int := (if e.sign = some true then -1 else 1) * (Nat.ofDigitChars 10 e.digits 0 : Nat)

end Exponent

namespace Number

variable (x : Number)

def mantissa : Text :=
  (if x.negative then ['-'] else []) ++ x.whole ++ if x.fraction = [] then [] else '.' :: x.fraction

def text : Text := x.mantissa ++ x.exponent.elim [] Exponent.text

def toSats : Except Fault Nat := btcValueToSats (some x.text)

def digits : Nat := Nat.ofDigitChars 10 (x.whole ++ x.fraction) 0

def power : Int := x.exponent.elim 0 Exponent.value

/-- The number in satoshis. -/
def sats : ℚ := (if x.negative then -1 else 1) * x.digits * 10 ^ (x.power - x.fraction.length) * 100000000

/-- The digits, the power of ten they are scaled by and the way to it are machine words. -/
def Compact : Prop :=
  x.digits < 2 ^ 64 ∧ (8 + x.power - x.fraction.length).natAbs ≤ 19 ∧ x.fraction.length < 2 ^ 31 ∧ 8 + x.power < 2 ^ 31

/-- No exponent, and no more than eight digits after the point. -/
def Plain : Prop := x.exponent = none ∧ x.fraction.length ≤ 8

/-- If the text is not refused before, the scale is worked out within `i32`. -/
def Modest : Prop :=
  i32 x.power → x.negative = false → x.digits < 2 ^ 64 →
    8 + x.power < 2 ^ 31 ∧ (x.fraction.length < 2 ^ 31 → -2 ^ 31 < 8 + x.power - x.fraction.length)

end Number

/-! ## Reading the text back -/

theorem splitOnce_none {p : Char → Bool} {cs : Text} (h : ∀ c ∈ cs, p c = false) : splitOnce p cs = none := by
  induction cs with
  | nil => rfl
  | cons c cs ih => simp_all [splitOnce]

theorem splitOnce_append {p : Char → Bool} {cs rest : Text} {c : Char} (h : ∀ c ∈ cs, p c = false) (hc : p c) :
    splitOnce p (cs ++ c :: rest) = some (cs, rest) := by
  induction cs with
  | nil => simp [splitOnce, hc]
  | cons c cs ih => simp_all [splitOnce]

theorem parseDigits_eq {cs : Text} (hne : cs ≠ []) (h : ∀ c ∈ cs, c.isDigit) :
    parseDigits cs = some (Nat.ofDigitChars 10 cs 0) :=
  if_pos ⟨hne, List.all_eq_true.2 h⟩

theorem head_ne {cs : Text} {c : Char} (h : ∀ c ∈ cs, c.isDigit) (hc : c.isDigit = false) : cs.head? ≠ some c := by
  intro heq
  exact Bool.noConfusion (hc.symm.trans (h c (List.mem_of_mem_head? heq)))

theorem parseI32_exponent (e : Exponent) : parseI32 e.text.tail = (some e.value).filter i32 := by
  have hd := parseDigits_eq e.digits_ne e.isDigit
  have minus := head_ne e.isDigit (c := '-') rfl
  have plus := head_ne e.isDigit (c := '+') rfl
  obtain ⟨upper, sign, digits, hne, hdigit⟩ := e
  rcases sign with _ | _ | _ <;> simp_all [parseI32, Exponent.text, Exponent.value]

variable (x : Number)

theorem splitOnce_text :
    splitOnce (fun c => c == 'e' || c == 'E') x.text = x.exponent.map (fun e => (x.mantissa, e.text.tail)) := by
  have clear : ∀ c ∈ x.mantissa, (c == 'e' || c == 'E') = false := by
    intro c hc
    have digit : c.isDigit → (c == 'e' || c == 'E') = false := by
      intro h
      by_contra hne
      simp only [Bool.not_eq_false, Bool.or_eq_true, beq_iff_eq] at hne
      rcases hne with rfl | rfl <;> simp at h
    have := x.isDigit c
    unfold Number.mantissa at hc
    grind
  rcases hx : x.exponent with _ | e
  · simpa [Number.text, hx] using splitOnce_none clear
  · simp only [Number.text, hx, Option.elim_some, Exponent.text, List.cons_append]
    refine splitOnce_append clear ?_
    cases e.upper <;> rfl

theorem splitOnce_mantissa (h : x.negative = false) :
    (splitOnce (· == '.') x.mantissa).getD (x.mantissa, []) = (x.whole, x.fraction) := by
  have clear : ∀ c ∈ x.whole, (c == '.') = false := by
    intro c hc
    rw [beq_eq_false_iff_ne]
    rintro rfl
    simpa using x.isDigit '.' (by simp [hc])
  rcases hf : x.fraction with _ | ⟨c, cs⟩
  · simp [Number.mantissa, h, hf, splitOnce_none clear]
  · simp [Number.mantissa, h, hf, splitOnce_append clear]

theorem toSats_eq : x.toSats =
    if i32 x.power ∧ x.negative = false ∧ x.digits < 2 ^ 64 then scaleDigits x.digits x.power x.fraction.length
    else reject := by
  have exponent : ((splitOnce (fun c => c == 'e' || c == 'E') x.text).elim (.ok (x.text, 0))
      (fun parts => (parseI32 parts.2).elim reject (fun exponent => .ok (parts.1, exponent))) : Except Fault _) =
      if i32 x.power then .ok (x.mantissa, x.power) else reject := by
    rw [splitOnce_text]
    rcases hx : x.exponent with _ | e
    · simp [Number.power, Number.text, hx, i32]
    · cases hi : i32 e.value <;> simp [Number.power, hx, parseI32_exponent, Option.filter, hi]
  simp only [Number.toSats, btcValueToSats, Option.elim_some, bind, Except.bind, exponent]
  by_cases hi : i32 x.power
  · simp only [hi, if_true, true_and]
    cases hn : x.negative
    · have whole : x.whole.all Char.isDigit := List.all_eq_true.2 (fun c hc => x.isDigit c (by simp [hc]))
      have fraction : x.fraction.all Char.isDigit := List.all_eq_true.2 (fun c hc => x.isDigit c (by simp [hc]))
      have minus := head_ne (List.all_eq_true.1 whole) (c := '-') rfl
      have parsed : parseDigits (x.whole ++ x.fraction) = some x.digits :=
        parseDigits_eq (by simp [x.whole_ne]) x.isDigit
      rw [splitOnce_mantissa x hn]
      simp only [whole, fraction, minus, not_true_eq_false, or_self, if_false, parsed, Option.elim_some, checkedU64,
        true_and]
      by_cases hd : x.digits < 2 ^ 64
      · simp only [hd, if_true]
      · simp only [hd, if_false, reject]
    · have head : ((splitOnce (· == '.') x.mantissa).getD (x.mantissa, [])).1.head? = some '-' := by
        simp only [Number.mantissa, hn, if_true, List.cons_append, List.nil_append, splitOnce]
        cases splitOnce (· == '.') _ <;> rfl
      simp [head]
  · simp only [hi]
    rfl

/-! ## Scaling the digits -/

variable {digits places n : Nat} {exponent : Int}

theorem checkedI32_ok {m k : Int} (h : checkedI32 m = .ok k) : k = m := by
  unfold checkedI32 at h
  split at h <;> cases h
  rfl

theorem checkedU64_ok {m k : Nat} (h : checkedU64 m = .ok k) : k = m := by
  unfold checkedU64 at h
  split at h <;> cases h
  rfl

theorem zpow_scale (exponent : Int) (places : Nat) :
    (10 : ℚ) ^ (exponent - places) * 100000000 = 10 ^ (8 + exponent - places) := by
  rw [show 8 + exponent - (places : Int) = exponent - places + 8 by ring, zpow_add₀ (by norm_num)]
  norm_num

theorem scaleDigits_ok (h : scaleDigits digits exponent places = .ok n) :
    (n : ℚ) = digits * 10 ^ (exponent - places) * 100000000 := by
  obtain ⟨shifted, hs, h⟩ := Lib.bind_eq_ok.1 h
  obtain rfl := checkedI32_ok hs
  split at h
  · cases h
  obtain ⟨scale, hs, h⟩ := Lib.bind_eq_ok.1 h
  obtain rfl := checkedI32_ok hs
  rw [mul_assoc, zpow_scale]
  split at h
  · next hn =>
    obtain ⟨power, hp, h⟩ := Lib.bind_eq_ok.1 h
    rw [checkedU64_ok h, checkedU64_ok hp]
    push_cast
    rw [← zpow_natCast, Int.toNat_of_nonneg hn]
  next hn =>
  obtain ⟨down, hd, h⟩ := Lib.bind_eq_ok.1 h
  obtain ⟨divisor, hp, h⟩ := Lib.bind_eq_ok.1 h
  rw [checkedI32_ok hd] at hp
  obtain rfl := checkedU64_ok hp
  split at h
  · cases h
  next hdvd =>
  cases h
  rw [Nat.cast_div (Nat.dvd_of_mod_eq_zero (not_not.1 hdvd)) (by positivity), div_eq_mul_inv]
  push_cast
  rw [← zpow_natCast, Int.toNat_of_nonneg (by omega), ← zpow_neg, neg_neg]

/-- Within `i32` nothing but the powers and the product is checked. -/
theorem scaleDigits_eq (hi : i32 exponent) (high : 8 + exponent < 2 ^ 31) (low : -2 ^ 31 < 8 + exponent - places) :
    scaleDigits digits exponent places =
      if 2 ^ 31 ≤ places then reject
      else if 0 ≤ 8 + exponent - places then
        checkedU64 (10 ^ (8 + exponent - places).toNat) >>= fun power => checkedU64 (digits * power)
      else checkedU64 (10 ^ (-(8 + exponent - places)).toNat) >>= fun divisor =>
        if digits % divisor ≠ 0 then reject else .ok (digits / divisor) := by
  simp only [i32, Bool.and_eq_true, decide_eq_true_eq] at hi
  have shifted : i32 (8 + exponent) := by simp [i32]; omega
  have scale : i32 (8 + exponent - places) := by simp [i32]; omega
  have down : i32 (-(8 + exponent - places)) := by simp [i32]; omega
  simp only [scaleDigits, checkedI32, bind, Except.bind, shifted, scale, down, if_true]

theorem scaleDigits_eq_overflow (hi : i32 exponent) : scaleDigits digits exponent places = .error .overflow ↔
    ¬ (8 + exponent < 2 ^ 31 ∧ (places < 2 ^ 31 → -2 ^ 31 < 8 + exponent - places)) := by
  have range := hi
  simp only [i32, Bool.and_eq_true, decide_eq_true_eq] at range
  by_cases high : 8 + exponent < 2 ^ 31
  · have shifted : i32 (8 + exponent) := by simp [i32]; omega
    by_cases hp : 2 ^ 31 ≤ places
    · simp only [scaleDigits, checkedI32, bind, Except.bind, shifted, if_true, if_pos hp, reject, high, true_and]
      exact iff_of_false (by simp) (not_not.mpr fun h => absurd hp (Nat.not_le.mpr h))
    by_cases low : -2 ^ 31 < 8 + exponent - places
    · rw [scaleDigits_eq hi high low]
      simp only [checkedU64, bind, Except.bind, reject]
      grind
    · simp only [high, low, Nat.not_le.mp hp, forall_const, and_false, not_false_eq_true, iff_true]
      -- the least scale is in range, and its negation is not
      have down : ¬ i32 (-(8 + exponent - places)) := by simp [i32]; omega
      by_cases scale : i32 (8 + exponent - places)
      · simp only [scaleDigits, checkedI32, bind, Except.bind, shifted, scale, if_true, if_neg hp, if_neg down,
          if_neg (show ¬ 0 ≤ 8 + exponent - places by omega)]
      · simp only [scaleDigits, checkedI32, bind, Except.bind, shifted, if_true, if_neg scale, if_neg hp]
  · have shifted : ¬ i32 (8 + exponent) := by simp [i32]; omega
    simp only [scaleDigits, checkedI32, bind, Except.bind, if_neg shifted, high, false_and, not_false_eq_true]

/-- The number is a multiple of its digits once every place is a satoshi or more. -/
theorem eq_mul_of_scale (value : (n : ℚ) = digits * 10 ^ (exponent - places) * 100000000)
    (h : 0 ≤ 8 + exponent - places) : n = digits * 10 ^ (8 + exponent - places).toNat := by
  rw [mul_assoc, zpow_scale, ← Int.toNat_of_nonneg h, zpow_natCast] at value
  exact_mod_cast value

theorem checkedU64_pow (k : Nat) : checkedU64 (10 ^ k) = if k ≤ 19 then .ok (10 ^ k) else reject := by
  by_cases hk : k ≤ 19
  · rw [if_pos hk]
    exact if_pos ((Nat.pow_le_pow_right (by decide) hk).trans_lt (by decide))
  · rw [if_neg hk]
    refine if_neg (Nat.not_lt.mpr (le_trans ?_ (Nat.pow_le_pow_right (by decide) (Nat.not_le.mp hk))))
    decide

theorem scaleDigits_exact (hi : i32 exponent) (hn : n ≤ 2100000000000000)
    (value : (n : ℚ) = digits * 10 ^ (exponent - places) * 100000000) :
    scaleDigits digits exponent places = .ok n ↔
      (8 + exponent - places).natAbs ≤ 19 ∧ places < 2 ^ 31 ∧ 8 + exponent < 2 ^ 31 := by
  by_cases range : 8 + exponent < 2 ^ 31 ∧ (places < 2 ^ 31 → -2 ^ 31 < 8 + exponent - places)
  case neg =>
    rw [(scaleDigits_eq_overflow hi).mpr range]
    refine iff_of_false (by simp) fun h => range ⟨h.2.2, by omega⟩
  obtain ⟨high, low⟩ := range
  by_cases hp : places < 2 ^ 31
  case neg =>
    have shifted : i32 (8 + exponent) := by
      simp only [i32, Bool.and_eq_true, decide_eq_true_eq] at hi ⊢
      omega
    simp only [scaleDigits, checkedI32, bind, Except.bind, shifted, if_true, if_pos (Nat.not_lt.mp hp), reject, hp,
      false_and, and_false, reduceCtorEq]
  rw [scaleDigits_eq hi high (low hp), if_neg (Nat.not_le.mpr hp)]
  simp only [hp, high, and_self, and_true, checkedU64_pow]
  split
  · next hnn =>
    by_cases hs : (8 + exponent - places).toNat ≤ 19
    · rw [if_pos hs]
      change checkedU64 (digits * 10 ^ _) = _ ↔ _
      rw [← eq_mul_of_scale value hnn]
      exact iff_of_true (if_pos (by omega)) (by omega)
    · rw [if_neg hs]
      exact iff_of_false (by simp [reject, bind, Except.bind]) (by omega)
  · next hneg =>
    obtain ⟨k, hk⟩ := Int.eq_ofNat_of_zero_le (show 0 ≤ -(8 + exponent - (places : Int)) by omega)
    rw [mul_assoc, zpow_scale, ← neg_neg (8 + exponent - (places : Int)), hk, zpow_neg, zpow_natCast,
      ← div_eq_mul_inv, eq_div_iff (by positivity)] at value
    norm_cast at value
    rw [hk, ← value]
    by_cases hs : k ≤ 19
    · exact iff_of_true (by simp [hs, bind, Except.bind]) (by omega)
    · exact iff_of_false (by simp [hs, reject, bind, Except.bind]) (by omega)

/-! ## The amount -/

theorem toSats_eq_overflow : x.toSats = .error .overflow ↔ ¬ x.Modest := by
  rw [toSats_eq]
  unfold Number.Modest
  split
  · next hx =>
    obtain ⟨hi, hneg, hd⟩ := hx
    simp only [scaleDigits_eq_overflow hi, hi, hneg, hd, forall_const]
  · next hx =>
    refine iff_of_false (by simp [reject]) (not_not.mpr fun hi hneg hd => ?_)
    exact (hx ⟨hi, hneg, hd⟩).elim

theorem Number.Plain.compact {x : Number} {n : Nat} (h : x.Plain) (hneg : x.negative = false)
    (hn : n ≤ 2100000000000000) (value : (n : ℚ) = x.sats) : x.Compact := by
  obtain ⟨hnone, hp⟩ := h
  simp only [Number.sats, hneg, one_mul, Bool.false_eq_true, if_false] at value
  have hpower : x.power = 0 := by simp [Number.power, hnone]
  have hmul := eq_mul_of_scale value (by omega)
  have := Nat.le_mul_of_pos_right x.digits
    (Nat.pow_pos (n := (8 + x.power - x.fraction.length).toNat) (show 0 < 10 by decide))
  exact ⟨by omega, by omega, by omega, by omega⟩

/-- Satoshis are exact and negative amounts are rejected. A step overflows exactly when the exponent is not modest,
finer amounts are rejected exactly when it is, and a whole amount of bitcoin's supply is returned exactly when it is
written compactly, as every plain one is. -/
theorem amount_is_exact :
    (∀ n, x.toSats = .ok n → (n : ℚ) = x.sats) ∧
    (x.negative → x.toSats = .error .rejected) ∧
    (x.toSats ≠ .error .overflow ↔ x.Modest) ∧
    ((∀ n : Nat, (n : ℚ) ≠ x.sats) → (x.toSats = .error .rejected ↔ x.Modest)) ∧
    ∀ n : Nat, n ≤ 2100000000000000 → (n : ℚ) = x.sats →
      (x.toSats = .ok n ↔ x.negative = false ∧ x.Compact) ∧ (x.negative = false → x.Plain → x.toSats = .ok n) := by
  have exact : ∀ n, x.toSats = .ok n → (n : ℚ) = x.sats := by
    intro n h
    rw [toSats_eq] at h
    split at h
    · next hx => simpa [Number.sats, hx.2.1] using scaleDigits_ok h
    · cases h
  have negative : x.negative → x.toSats = .error .rejected := fun hneg => by simp [toSats_eq, hneg, reject]
  refine ⟨exact, negative, (not_congr (toSats_eq_overflow x)).trans not_not, ?_, ?_⟩
  · intro finer
    rw [← not_iff_not, ← toSats_eq_overflow]
    rcases h : x.toSats with fault | n
    · cases fault <;> simp
    · exact (finer n (exact n h)).elim
  · intro n hn value
    have returned : x.toSats = .ok n ↔ x.negative = false ∧ x.Compact := by
      cases hneg : x.negative with
      | true => simp [negative hneg]
      | false =>
        have hvalue := value
        simp only [Number.sats, hneg, one_mul, Bool.false_eq_true, if_false] at hvalue
        rw [toSats_eq]
        split
        · next hx =>
          rw [scaleDigits_exact hx.1 hn hvalue]
          simp only [Number.Compact, hx.2.2, true_and]
        · next hx =>
          refine iff_of_false (by simp [reject]) fun ⟨_, hd, hs, hp, high⟩ => hx ⟨?_, hneg, hd⟩
          simp only [i32, Bool.and_eq_true, decide_eq_true_eq]
          omega
    exact ⟨returned, fun hneg plain => returned.mpr ⟨hneg, plain.compact hneg hn value⟩⟩

/-- An exponent at the end of its type overflows, and a zero with a wide one is refused. -/
theorem wide_exponent_overflows :
    btcValueToSats (some "1e2147483647".toList) = .error .overflow ∧
    btcValueToSats (some "0e-30".toList) = .error .rejected := by
  decide +kernel

end Manifold.Liquidity.Amounts
