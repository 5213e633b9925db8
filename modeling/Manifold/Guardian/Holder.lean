import Manifold.Lib.Machine
import Manifold.Guardian.SeatRows

/-!
# The retained Holder authorization

The two calls of `crates/mg/core/src/db.rs`. Issue times are eight big-endian bytes, compared byte by byte.
-/

namespace Manifold.Guardian.Holder

open Lib (bigEndian ofBigEndian bytesLt)

def toBeBytes (v : UInt64) : List UInt8 := bigEndian 8 v.toNat

theorem toBeBytes_length (v : UInt64) : (toBeBytes v).length = 8 := Lib.length_bigEndian 8 v.toNat

structure Row where
  authorizationIssuedAt : List UInt8
  eventJson : String
  eight : authorizationIssuedAt.length = 8
deriving DecidableEq

def Row.issuedAt (r : Row) : Nat := ofBigEndian r.authorizationIssuedAt

def Row.of (issuedAt : UInt64) (eventJson : String) : Row := ⟨toBeBytes issuedAt, eventJson, toBeBytes_length issuedAt⟩

/-- `DELETE .. WHERE authorization_issued_at > ?`. -/
def discardAfter (maxIssuedAt : UInt64) (row : Option Row) : Option Row :=
  row.filter (fun r => !bytesLt (toBeBytes maxIssuedAt) r.authorizationIssuedAt)

/-- `INSERT .. ON CONFLICT (id) DO UPDATE .. WHERE` the new issue time is greater. -/
def upsert (new : Row) : Option Row → Row
  | none => new
  | some r => if bytesLt r.authorizationIssuedAt new.authorizationIssuedAt then new else r

structure Db where
  row : Option Row
  stage : OnboardingStage
deriving DecidableEq

inductive Call where
  | load (maxIssuedAt : UInt64)
  | replace (authorizationIssuedAt : UInt64) (eventJson : String) (maxIssuedAt : UInt64)
deriving DecidableEq

def Call.maxIssuedAt : Call → UInt64
  | .load max | .replace _ _ max => max

inductive Answer where
  | loaded (eventJson : Option String)
  | replaced
  | tooFarFuture
deriving DecidableEq

def holderAuthorizationEventJson (db : Db) (maxIssuedAt : UInt64) : Db × Answer :=
  let row := discardAfter maxIssuedAt db.row
  ({ db with row := row }, .loaded (row.map (·.eventJson)))

/-- The stage moves on from `holder_authorization` only. -/
def replaceHolderAuthorizationEvent (db : Db) (authorizationIssuedAt : UInt64) (eventJson : String)
    (maxIssuedAt : UInt64) : Db × Answer :=
  if maxIssuedAt < authorizationIssuedAt then (db, .tooFarFuture)
  else
    (⟨some (upsert (Row.of authorizationIssuedAt eventJson) (discardAfter maxIssuedAt db.row)),
      if db.stage = .holderAuthorization then .initialOffer else db.stage⟩, .replaced)

structure Done where
  call : Call
  answer : Answer
  discarded : Option Row
deriving DecidableEq

def Call.discards (call : Call) (answer : Answer) (row : Option Row) : Option Row :=
  if answer = .tooFarFuture then none
  else row.filter (fun r => bytesLt (toBeBytes call.maxIssuedAt) r.authorizationIssuedAt)

def Call.run (db : Db) : Call → Db × Answer
  | .load max => holderAuthorizationEventJson db max
  | .replace issuedAt eventJson max => replaceHolderAuthorizationEvent db issuedAt eventJson max

def machine : Lib.Machine Db Call Done where
  init _ := True
  step db call :=
    let r := call.run db
    some (r.1, [⟨call, r.2, call.discards r.2 db.row⟩])

/-! ## Issue times -/

@[simp] theorem issuedAt_of (issuedAt : UInt64) (eventJson : String) :
    (Row.of issuedAt eventJson).issuedAt = issuedAt.toNat := by
  have hlt : issuedAt.toNat < 256 ^ 8 := issuedAt.toNat_lt
  have hvalue : (Row.of issuedAt eventJson).issuedAt = issuedAt.toNat % 256 ^ 8 :=
    Lib.ofBigEndian_bigEndian 8 issuedAt.toNat
  rw [hvalue, Nat.mod_eq_of_lt hlt]

theorem bytesLt_row (r r' : Row) :
    bytesLt r.authorizationIssuedAt r'.authorizationIssuedAt = true ↔ r.issuedAt < r'.issuedAt :=
  Lib.bytesLt_iff (r.eight.trans r'.eight.symm)

theorem bytesLt_max (max : UInt64) (r : Row) :
    bytesLt (toBeBytes max) r.authorizationIssuedAt = true ↔ max.toNat < r.issuedAt := by
  have h := bytesLt_row (Row.of max "") r
  rwa [issuedAt_of] at h

theorem discardAfter_of_le {max r} (h : r.issuedAt ≤ max.toNat) : discardAfter max (some r) = some r := by
  have hb : ¬ bytesLt (toBeBytes max) r.authorizationIssuedAt = true := by
    rw [bytesLt_max]
    omega
  simp [discardAfter, Option.filter, hb]

theorem discardAfter_of_lt {max r} (h : max.toNat < r.issuedAt) : discardAfter max (some r) = none := by
  simp [discardAfter, Option.filter, (bytesLt_max max r).mpr h]

/-! ## Steps and runs -/

/-- What a call makes of a retained row: it stays, gives way to a later one, or lay beyond the bound of the call. -/
def Succeeds (call : Call) (r : Row) (row : Option Row) : Prop :=
  row = some r ∨ (∃ r', row = some r' ∧ r.issuedAt < r'.issuedAt) ∨
    (call.maxIssuedAt.toNat < r.issuedAt ∧ ∀ r', row = some r' → r'.issuedAt ≤ call.maxIssuedAt.toNat)

theorem succeeds_upsert {issuedAt max eventJson r} (hle : issuedAt ≤ max) :
    Succeeds (.replace issuedAt eventJson max) r
      (some (upsert (Row.of issuedAt eventJson) (discardAfter max (some r)))) := by
  by_cases hr : r.issuedAt ≤ max.toNat
  · rw [discardAfter_of_le hr]
    by_cases hlt : r.issuedAt < (Row.of issuedAt eventJson).issuedAt
    · right
      left
      exact ⟨_, by rw [upsert, if_pos ((bytesLt_row _ _).mpr hlt)], hlt⟩
    · left
      rw [upsert, if_neg (fun h => hlt ((bytesLt_row _ _).mp h))]
  right
  right
  refine ⟨Nat.lt_of_not_le hr, ?_⟩
  intro r' hr'
  rw [discardAfter_of_lt (Nat.lt_of_not_le hr)] at hr'
  cases hr'
  simpa [upsert, Call.maxIssuedAt, UInt64.le_iff_toNat_le] using hle

theorem run_succeeds (db : Db) (call : Call) {r} (h : db.row = some r) : Succeeds call r (call.run db).1.row := by
  cases call with
  | load max =>
    simp only [Call.run, holderAuthorizationEventJson, h]
    by_cases hr : r.issuedAt ≤ max.toNat
    · exact .inl (discardAfter_of_le hr)
    · rw [discardAfter_of_lt (Nat.lt_of_not_le hr)]
      exact .inr (Or.inr ⟨Nat.lt_of_not_le hr, by simp⟩)
  | replace issuedAt eventJson max =>
    simp only [Call.run, replaceHolderAuthorizationEvent]
    split
    · exact .inl h
    · rename_i hle
      rw [h]
      exact succeeds_upsert (by simpa [UInt64.not_lt] using hle)

theorem run_keeps (db : Db) (call : Call) {r} (h : db.row = some r)
    (hkept : call.discards (call.run db).2 db.row = none) :
    ∃ r', (call.run db).1.row = some r' ∧ (r' = r ∨ r.issuedAt < r'.issuedAt) := by
  rcases run_succeeds db call h with hs | ⟨r', hr', hlt⟩ | ⟨hmax, -⟩
  · exact ⟨r, hs, Or.inl rfl⟩
  · exact ⟨r', hr', Or.inr hlt⟩
  have hfuture : (call.run db).2 = .tooFarFuture := by
    by_contra hne
    simp [Call.discards, hne, h, Option.filter, (bytesLt_max _ r).mpr hmax] at hkept
  cases call with
  | load max => cases hfuture
  | replace issuedAt eventJson max =>
    simp only [Call.run, replaceHolderAuthorizationEvent] at hfuture ⊢
    split at hfuture
    · rename_i hlt
      exact ⟨r, by rw [if_pos hlt]; exact h, Or.inl rfl⟩
    · cases hfuture

/-- A retained authorization gives way only to a later one, unless it lies beyond the bound of the call: step by
step, and along every run. -/
theorem holder_authorization_never_rolls_back (db : Db) :
    (∀ call db' out r, machine.step db call = some (db', out) → db.row = some r → Succeeds call r db'.row) ∧
    (∀ es db' r, machine.Run db es db' → db.row = some r → (∀ d ∈ es, d.discarded = none) →
      ∃ r', db'.row = some r' ∧ (r' = r ∨ r.issuedAt < r'.issuedAt)) ∧
    ∀ es db', machine.Run db es db' → ∀ d ∈ es, ∀ r, d.discarded = some r → d.call.maxIssuedAt.toNat < r.issuedAt := by
  refine ⟨?_, ?_, ?_⟩
  · intro call db' out r hs hrow
    cases hs
    exact run_succeeds db call hrow
  · intro es db' r hrun hrow
    induction hrun with
    | nil => exact fun _ => ⟨r, hrow, Or.inl rfl⟩
    | @snoc t u es out call hr hs ih =>
      intro hnone
      cases hs
      obtain ⟨r₁, hr₁, h₁⟩ := ih fun d hd => hnone d (List.mem_append_left _ hd)
      obtain ⟨r₂, hr₂, h₂⟩ := run_keeps t call hr₁ (hnone _ (List.mem_append_right _ (List.mem_singleton.mpr rfl)))
      refine ⟨r₂, hr₂, ?_⟩
      rcases h₂ with rfl | h₂
      · exact h₁
      · rcases h₁ with rfl | h₁
        · exact .inr h₂
        · exact .inr (h₁.trans h₂)
  intro es db' hrun
  induction hrun with
  | nil => simp
  | @snoc t u es out call hr hs ih =>
    intro d hd r hdis
    cases hs
    rcases Lib.mem_snoc.mp hd with hd | rfl
    · exact ih d hd r hdis
    unfold Call.discards at hdis
    split at hdis
    · cases hdis
    · exact (bytesLt_max _ r).mp (Option.filter_eq_some_iff.mp hdis).2

theorem holder_authorization_never_rolls_back_example :
    let row (t : UInt64) : Option Row := some (Row.of t "event")
    let db : Db := ⟨row 300, .complete⟩
    (machine.exec db [.replace 200 "older" 1000, .replace 300 "equal" 1000]).map (·.1.row) = some (row 300) ∧
    (machine.exec db [.replace 200 "event" 250]).map (·.1.row) = some (row 200) ∧
    Succeeds (.replace 200 "event" 250) (Row.of 300 "event") (row 200) := by
  intro row db
  refine ⟨by decide +kernel, by decide +kernel, ?_⟩
  have hstep : machine.step db (.replace 200 "event" 250) =
      some (⟨row 200, .complete⟩, [⟨.replace 200 "event" 250, .replaced, row 300⟩]) := by decide +kernel
  exact (holder_authorization_never_rolls_back db).1 _ _ _ (Row.of 300 "event") hstep rfl

end Manifold.Guardian.Holder
