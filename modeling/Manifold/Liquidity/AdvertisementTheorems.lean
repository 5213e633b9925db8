import Manifold.Liquidity.Lemmas.AdvertServer

/-!
# A withdrawn provider stays off the relays
-/

namespace Manifold.Liquidity

open Lib

variable {es : List AdvertNote} {t t' : AdvertServer} {a : AdvertTurn} {out : List AdvertNote}
  {guard : AdvertServer → AdvertTurn → Bool}

theorem cleared_by_force (h : (advertising.machine guard).Reaches es t)
    (hs : advertising.step guard t a = some (t', out)) (hw : t.shared.row.withdrawnAt.isSome = true)
    (hnone : t'.shared.row.withdrawnAt = none) :
    ∃ number x, a = .resume number x ∧ (number, .republish true .clear) ∈ t.calls := by
  have hsame : t'.shared.row = t.shared.row → False := by
    intro hrow
    rw [hrow] at hnone
    rw [hnone] at hw
    cases hw
  cases Service.steps_of_step hs with
  | begin | drop => exact (hsame rfl).elim
  | resume number x call s' next out hg hc hr =>
    refine ⟨number, x, rfl, ?_⟩
    rcases (AdvertCall.resume_keeps hr).withdrawn hw with hstill | ⟨force, rfl⟩
    · rw [hnone] at hstill
      cases hstill
    · have hforce : force = true := explicit_calls h _ hc
      rw [hforce] at hc
      exact hc
  | outside b s' out hg hb =>
    obtain ⟨s'', hact, hb⟩ := Option.map_eq_some_iff.mp hb
    cases hb
    refine (hsame ?_).elim
    cases b with
    | tick | configure | storeKey | restart => cases hact; rfl
    | installKey | deliver =>
      simp only [advertAct] at hact
      split at hact <;> cases hact
      rfl

theorem markStep_isSome {n b} {e : AdvertNote} (he : e.2 ≠ .forced) (hb : b.isSome = true) :
    (markStep n b e).isSome = true := by
  unfold markStep
  split
  · exact absurd rfl he
  · split <;> simp [hb]
  · split <;> simp [hb]
  · exact hb

theorem markStep_true {n} {e : AdvertNote} (he : e.2 ≠ .forced) : markStep n (some true) e = some true := by
  unfold markStep
  split
  · exact absurd rfl he
  · split <;> rfl
  · split <;> rfl
  · rfl

theorem mark_of_split {n pre mid post record} (hno : ∀ e ∈ mid ++ post, e.2 ≠ .forced) :
    mark n (pre ++ (some n, .intent) :: mid ++ (some n, .withdrew (.ok record) true) :: post) = some true := by
  have hstands : (mark n (pre ++ (some n, .intent) :: mid)).isSome = true := by
    rw [mark_append, List.foldl_cons]
    exact List.foldlRecOn (motive := fun b : Option Bool => b.isSome = true) mid _ (by simp [markStep]) fun _ hb e he =>
      markStep_isSome (hno e (List.mem_append_left _ he)) hb
  obtain ⟨b, hb⟩ := Option.isSome_iff_exists.mp hstands
  rw [mark_append, List.foldl_cons, hb]
  simp only [markStep, if_true, Option.map_some]
  refine List.foldlRecOn (motive := (· = some true)) post _ rfl ?_
  rintro _ rfl e he
  exact markStep_true (hno e (List.mem_append_right _ he))

/-- Where sends are recorded, a withdrawal that completed keeps the provider off every relay. -/
theorem withdrawn_provider_off_relays (h : (advertising.machine recordedWriter).Reaches es t) :
    (t.shared.sent.Pairwise fun p q =>
      p.advertisement = q.advertisement ∨ p.advertisement.issuedAt < q.advertisement.issuedAt) ∧
    (∀ a t' out, advertising.step recordedWriter t a = some (t', out) →
      t.shared.row.withdrawnAt.isSome = true → t'.shared.row.withdrawnAt = none →
      ∃ number x, a = .resume number x ∧ (number, .republish true .clear) ∈ t.calls) ∧
    ∀ n record pre mid post,
      es = pre ++ (some n, .intent) :: mid ++ (some n, .withdrew (.ok record) true) :: post →
      (∀ e ∈ mid ++ post, e.2 ≠ .forced) →
      ∀ p ∈ t.shared.sent, p.withdrawal = false →
        ∃ e, t.shared.held p.relayUrl = some e ∧ e.expiresAt ≤ t.shared.clock := by
  have hi := (advertising_inv h).shared
  refine ⟨hi.order, fun a t' out hs hw hnone => cleared_by_force h hs hw hnone, ?_⟩
  rintro n record pre mid post rfl hno p hp hpw
  obtain ⟨e, hheld, hexp, -⟩ := hi.down ⟨n, mark_of_split hno⟩ p hp hpw
  obtain ⟨q, hq, -, rfl⟩ := hi.held _ _ hheld
  exact ⟨_, hheld, hexp.trans (hi.past q hq).2⟩

/-! ## A publication cut before its row -/

def freshAdvertiser : AdvertServer := ⟨{}, [], 0⟩

theorem freshAdvertiser_init (guard : AdvertServer → AdvertTurn → Bool) :
    (advertising.machine guard).init freshAdvertiser := ⟨⟨0, rfl⟩, rfl, rfl⟩

def oneRelay : PublicationConfig := ⟨["relay"], 60, [], {}, none, ""⟩

def publishedOnce : List AdvertTurn :=
  [.outside .storeKey, .outside .installKey, .outside (.configure oneRelay), .outside (.tick 5),
    .begin (.republish false)] ++ List.replicate 10 (.resume 0 {})

def withdrawal (number awaits : Nat) : List AdvertTurn :=
  .begin (.withdraw none) :: List.replicate awaits (.resume number {})

def cutPublication : List AdvertTurn :=
  publishedOnce ++ [.outside (.deliver ⟨"relay", buildAdvertisement oneRelay 5 [], false⟩), .outside .restart,
    .outside (.tick 5)] ++ withdrawal 1 8

theorem withdrawn_provider_on_relay :
    ∃ es t n record pre mid post, (advertising.machine oneWriter).Reaches es t ∧
      es = pre ++ (some n, .intent) :: mid ++ (some n, .withdrew (.ok record) true) :: post ∧
      (∀ e ∈ mid ++ post, e.2 ≠ .forced) ∧
      ∃ p ∈ t.shared.sent, p.withdrawal = false ∧
        ∃ e, t.shared.held p.relayUrl = some e ∧ t.shared.clock < e.expiresAt := by
  let ad := buildAdvertisement oneRelay 5 []
  let record : AdvertisementRecord := ⟨⟨.withdrawn, some ad, none, some 125, some 10, none⟩, []⟩
  have hrun : ((advertising.machine oneWriter).exec freshAdvertiser cutPublication).map
      (fun r => (r.2, r.1.shared.sent, r.1.shared.held "relay", r.1.shared.clock)) =
      some ([(some 1, .intent), (some 1, .withdrew (.ok record) true)], [⟨"relay", ad, false⟩], some ad, 10) := by
    decide +kernel
  obtain ⟨⟨t, es⟩, hexec, hr⟩ := Option.map_eq_some_iff.mp hrun
  simp only [Prod.mk.injEq] at hr
  obtain ⟨hes, hsent, hheld, hclock⟩ := hr
  refine ⟨es, t, 1, record, [], [], [], Machine.reaches_of_exec (freshAdvertiser_init _) hexec, hes, by simp,
    ⟨"relay", ad, false⟩, ?_, rfl, ad, hheld, ?_⟩
  · rw [hsent]
    exact List.mem_cons_self
  · rw [hclock]
    decide

def withdrawnRun : List AdvertTurn :=
  publishedOnce ++ List.replicate 5 (.resume 0 {}) ++ .outside (.tick 5) :: withdrawal 1 11

theorem withdrawn_provider_off_one_relay :
    ∃ t first record, (advertising.machine recordedWriter).exec freshAdvertiser withdrawnRun =
        some (t, [first, (some 1, .intent), (some 1, .withdrew (.ok record) true)]) ∧
      t.shared.sent.map (fun p => (p.relayUrl, p.withdrawal)) = [("relay", false), ("relay", true)] ∧
      ∀ p ∈ t.shared.sent, p.withdrawal = false →
        ∃ e, t.shared.held p.relayUrl = some e ∧ e.expiresAt ≤ t.shared.clock := by
  have hrun : ∃ t first record, (advertising.machine recordedWriter).exec freshAdvertiser withdrawnRun =
      some (t, [first, (some 1, .intent), (some 1, .withdrew (.ok record) true)]) ∧
        t.shared.sent.map (fun p => (p.relayUrl, p.withdrawal)) = [("relay", false), ("relay", true)] :=
    ⟨_, _, _, rfl, rfl⟩
  obtain ⟨t, first, record, hexec, hsent⟩ := hrun
  have hoff := (withdrawn_provider_off_relays (Machine.reaches_of_exec (freshAdvertiser_init _) hexec)).2.2
  exact ⟨t, first, record, hexec, hsent, hoff 1 record [first] [] [] rfl (by simp)⟩

end Manifold.Liquidity
