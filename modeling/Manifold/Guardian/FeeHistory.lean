import Mathlib.Algebra.GroupWithZero.Nat
import Mathlib.Algebra.BigOperators.Group.List.Basic

/-!
# The history of a fee account

`crates/mg/core/src/guardian_fee.rs`.
-/

namespace Manifold.Guardian.FeeHistory

inductive AccountHistoryItemKind where
  | depositToBtcBalance (metadata : List UInt8)
  | other (name : String)

structure AccountHistoryItem where
  amount : Nat
  txid : String
  kind : AccountHistoryItemKind

/-- `count` and `page` answer from a fixed sequence, whose length is a `u64`. -/
structure AccountHistory where
  items : List AccountHistoryItem
  count_lt : items.length < 2 ^ 64

def AccountHistory.page (h : AccountHistory) (start stop : Nat) : List AccountHistoryItem :=
  (h.items.take stop).drop start

@[irreducible] def historyPage : Nat := 128

theorem historyPage_pos : 0 < historyPage := by
  unfold historyPage
  decide

section walk

variable {σ ε : Type} (limit : Nat) (take : σ → AccountHistoryItem → List UInt8 → Except ε σ)

/-- The loop over one page: the number of deposits taken so far, and what `take` has made of them. -/
def takeDeposits : List AccountHistoryItem → Nat → σ → Except ε (Nat × σ)
  | [], taken, acc => .ok (taken, acc)
  | item :: rest, taken, acc =>
    match item.kind with
    | .other _ => takeDeposits rest taken acc
    | .depositToBtcBalance metadata =>
      match take acc item metadata with
      | .error e => .error e
      | .ok acc => if limit ≤ taken + 1 then .ok (taken + 1, acc) else takeDeposits rest (taken + 1) acc

def walkFrom (h : AccountHistory) (stop taken : Nat) (acc : σ) : Except ε σ :=
  if _hgo : 0 < stop ∧ taken < limit then
    (takeDeposits limit take (h.page (stop - historyPage) stop).reverse taken acc).bind fun r =>
      walkFrom h (stop - historyPage) r.1 r.2
  else .ok acc
termination_by stop
decreasing_by exact Nat.sub_lt _hgo.1 historyPage_pos

def walkDeposits (h : AccountHistory) (acc : σ) : Except ε σ := walkFrom limit take h h.items.length 0 acc

end walk

def checkedAdd (total amount : Nat) : Except String Nat :=
  if total + amount < 2 ^ 64 then .ok (total + amount) else .error "guardian-fee lifetime total exceeds u64 msats"

def totalRemitted (h : AccountHistory) : Except String Nat :=
  walkDeposits (2 ^ 64 - 1) (fun total item _ => checkedAdd total item.amount) h 0

structure Remittance (μ : Type) where
  amount : Nat
  txid : String
  metadata : Except String μ

def recentRemittances {μ : Type} (decrypt : List UInt8 → Except String μ) (h : AccountHistory) (limit : Nat) :
    Except String (List (Remittance μ)) :=
  walkDeposits limit (fun rs item metadata => .ok (rs ++ [⟨item.amount, item.txid, decrypt metadata⟩])) h []

/-! ## The walk takes the newest deposits -/

def AccountHistoryItem.deposit (item : AccountHistoryItem) : Option (AccountHistoryItem × List UInt8) :=
  match item.kind with
  | .depositToBtcBalance metadata => some (item, metadata)
  | .other _ => none

def deposits (items : List AccountHistoryItem) : List (AccountHistoryItem × List UInt8) :=
  items.filterMap AccountHistoryItem.deposit

section walk

variable {σ ε : Type} {limit : Nat} {take : σ → AccountHistoryItem → List UInt8 → Except ε σ}

theorem takeDeposits_eq (items : List AccountHistoryItem) {taken} (acc : σ) (hlt : taken < limit) :
    takeDeposits limit take items taken acc =
      (((deposits items).take (limit - taken)).foldlM (fun acc d => take acc d.1 d.2) acc).map
        (taken + min (limit - taken) (deposits items).length, ·) := by
  induction items generalizing taken acc with
  | nil => simp [takeDeposits, deposits, Except.map, pure, Except.pure]
  | cons item rest ih =>
    cases hk : item.kind with
    | other name =>
      have hd : deposits (item :: rest) = deposits rest := by
        simp [deposits, AccountHistoryItem.deposit, hk]
      rw [hd, ← ih acc hlt]
      simp [takeDeposits, hk]
    | depositToBtcBalance metadata =>
      have hd : deposits (item :: rest) = (item, metadata) :: deposits rest := by
        simp [deposits, AccountHistoryItem.deposit, hk]
      obtain ⟨n, hn⟩ : ∃ n, limit - taken = n + 1 := ⟨limit - taken - 1, by omega⟩
      rw [hd, hn, List.take_succ_cons, List.foldlM_cons]
      simp only [takeDeposits, hk]
      cases htake : take acc item metadata with
      | error e => rfl
      | ok acc' =>
        simp only [bind, Except.bind, List.length_cons]
        split
        · have hzero : n = 0 := by omega
          simp [hzero, Except.map, pure, Except.pure]
        · have hleft : limit - (taken + 1) = n := by omega
          rw [ih acc' (by omega), hleft, show taken + 1 + min n (deposits rest).length =
            taken + min (n + 1) ((deposits rest).length + 1) by omega]

theorem walkFrom_eq (h : AccountHistory) (stop taken : Nat) (acc : σ) :
    walkFrom limit take h stop taken acc =
      ((deposits (h.items.take stop)).reverse.take (limit - taken)).foldlM (fun acc d => take acc d.1 d.2) acc := by
  induction stop using Nat.strongRecOn generalizing taken acc with
  | ind stop ih =>
    rw [walkFrom]
    split
    · rename_i hgo
      have hlt : stop - historyPage < stop := Nat.sub_lt hgo.1 historyPage_pos
      -- the entries up to here are those before the page and the page
      have hsplit : deposits (h.items.take stop) =
          deposits (h.items.take (stop - historyPage)) ++ deposits (h.page (stop - historyPage) stop) := by
        have hpre : h.items.take (stop - historyPage) = (h.items.take stop).take (stop - historyPage) := by
          rw [List.take_take, Nat.min_eq_left (Nat.le_of_lt hlt)]
        rw [deposits, deposits, deposits, AccountHistory.page, hpre, ← List.filterMap_append, List.take_append_drop]
      have hrev : deposits (h.page (stop - historyPage) stop).reverse =
          (deposits (h.page (stop - historyPage) stop)).reverse := List.filterMap_reverse
      rw [takeDeposits_eq _ acc hgo.2, hrev, hsplit, List.reverse_append, List.take_append, List.foldlM_append]
      cases hpage : ((deposits (h.page (stop - historyPage) stop)).reverse.take (limit - taken)).foldlM
          (fun acc d => take acc d.1 d.2) acc with
      | error e => rfl
      | ok acc' =>
        simp only [Except.map, bind, Except.bind]
        rw [ih _ hlt]
        congr 2
        omega
    rename_i hstop
    rcases Nat.eq_zero_or_pos stop with rfl | hpos
    · simp [deposits, pure, Except.pure]
    · have hzero : limit - taken = 0 := by omega
      simp [hzero, pure, Except.pure]

theorem walkDeposits_eq (h : AccountHistory) (acc : σ) :
    walkDeposits limit take h acc =
      ((deposits h.items).reverse.take limit).foldlM (fun acc d => take acc d.1 d.2) acc := by
  rw [walkDeposits, walkFrom_eq, List.take_length, Nat.sub_zero]

end walk

theorem foldlM_checkedAdd (ds : List (AccountHistoryItem × List UInt8)) {total} (ht : total < 2 ^ 64) :
    ds.foldlM (fun total d => checkedAdd total d.1.amount) total =
      if total + (ds.map (·.1.amount)).sum < 2 ^ 64 then .ok (total + (ds.map (·.1.amount)).sum)
      else .error "guardian-fee lifetime total exceeds u64 msats" := by
  induction ds generalizing total with
  | nil =>
    rw [if_pos (by simpa using ht)]
    rfl
  | cons d ds ih =>
    rw [List.foldlM_cons, checkedAdd]
    simp only [List.map_cons, List.sum_cons, ← Nat.add_assoc]
    split
    · rename_i hfits
      exact ih hfits
    · rename_i hover
      rw [if_neg (by omega)]
      rfl

theorem foldlM_push {α β : Type} (f : α → β) (xs : List α) (acc : List β) :
    xs.foldlM (fun acc x => (.ok (acc ++ [f x]) : Except String _)) acc = .ok (acc ++ xs.map f) := by
  induction xs generalizing acc with
  | nil => simp [pure, Except.pure]
  | cons x xs ih => simp [List.foldlM_cons, bind, Except.bind, ih]

/-- The lifetime total is the sum over all deposits, and fails exactly when that exceeds `u64`; the recent
remittances are the newest deposits, newest first. -/
theorem fee_history_exact {μ : Type} (decrypt : List UInt8 → Except String μ) (h : AccountHistory) :
    (totalRemitted h =
      if ((deposits h.items).map (·.1.amount)).sum < 2 ^ 64 then .ok ((deposits h.items).map (·.1.amount)).sum
      else .error "guardian-fee lifetime total exceeds u64 msats") ∧
    ∀ limit, recentRemittances decrypt h limit =
      .ok (((deposits h.items).reverse.take limit).map fun d => ⟨d.1.amount, d.1.txid, decrypt d.2⟩) := by
  constructor
  · have hall : (deposits h.items).reverse.take (2 ^ 64 - 1) = (deposits h.items).reverse := by
      have hle : (deposits h.items).length ≤ h.items.length := List.length_filterMap_le ..
      have hlt := h.count_lt
      exact List.take_of_length_le (by rw [List.length_reverse]; omega)
    rw [totalRemitted, walkDeposits_eq, hall, foldlM_checkedAdd _ (by decide), List.map_reverse, List.sum_reverse,
      Nat.zero_add]
  · intro limit
    rw [recentRemittances, walkDeposits_eq]
    exact foldlM_push (fun d : AccountHistoryItem × List UInt8 => Remittance.mk d.1.amount d.1.txid (decrypt d.2)) _ []

end Manifold.Guardian.FeeHistory
