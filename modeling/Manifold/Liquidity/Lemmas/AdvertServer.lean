import Manifold.Liquidity.Lemmas.Advertisement

/-!
# The calls of the advertiser together
-/

namespace Manifold.Liquidity

open Lib

section

variable {es : List AdvertNote} {s s' : Advertiser} {call : AdvertCall} {x : AdvertChoice} {out : List AdvertEvent}
  {url : String}

/-! ## The others -/

theorem AdvertCall.resume_outside {next} (hh : call.holdsWriter = false)
    (hr : call.resume s x = some (s', next, out)) :
    (∃ row, s' = { s with row := row } ∧ row.advertisement = s.row.advertisement) ∧ ∀ e ∈ out, e.completes = false := by
  cases call with
  | reconcile | refreshRelays =>
    simp only [resume] at hr
    repeat' split at hr
    all_goals (cases hr; exact ⟨⟨_, rfl, rfl⟩, by simp⟩)
  | notReady reason =>
    simp only [resume] at hr
    split at hr <;> cases hr <;> exact ⟨⟨_, rfl, rfl⟩, by simp⟩
  | republish force phase =>
    cases phase with
    | readiness | clear | lock =>
      simp only [resume, RepublishPhase.resume, RepublishPhase.fail] at hr
      split at hr <;> cases hr <;> exact ⟨⟨_, rfl, rfl⟩, by simp [AdvertEvent.completes]⟩
    | _ => cases hh
  | withdraw reason lost phase =>
    cases phase with
    | was | intent | lock =>
      simp only [resume, WithdrawPhase.resume, WithdrawPhase.fail] at hr
      split at hr <;> cases hr <;> exact ⟨⟨_, rfl, rfl⟩, by simp [AdvertEvent.completes]⟩
    | _ => cases hh

def AdvertCall.sending (url : String) : AdvertCall → Bool
  | .republish _ (.publishing _ _ url' _) | .republish _ (.recording _ _ url' _ _) => url' = url
  | _ => false

theorem AdvertCall.holdsWriter_of_sending (h : call.sending url = true) : call.holdsWriter = true := by
  unfold sending at h
  split at h
  · rfl
  · rfl
  · cases h

theorem AdvertCall.holds_of_not_holdsWriter {n} (h : call.holdsWriter = false) : call.Holds es s n := by
  cases call with
  | reconcile | refreshRelays | notReady => trivial
  | republish force phase => cases phase <;> trivial
  | withdraw reason lost phase => cases phase <;> trivial

theorem Advertiser.mem_upsertRelayState {status error u} :
    u ∈ (s.upsertRelayState url status error).relayStates.map (·.relayUrl) ↔
      u = url ∨ u ∈ s.relayStates.map (·.relayUrl) := by
  simp only [upsertRelayState]
  split
  · rename_i hmem
    -- the row that is replaced keeps its url
    have hkeys : (Table.update (fun r => decide (r.relayUrl = url))
        (fun _ => ⟨url, status, error, some s.clock⟩) s.relayStates).map (·.relayUrl) =
        s.relayStates.map (·.relayUrl) := by
      simp only [Table.update, List.map_map]
      refine List.map_congr_left fun r _ => ?_
      by_cases hr : r.relayUrl = url <;> simp [hr]
    rw [hkeys]
    constructor
    · exact fun h => .inr h
    · rintro (rfl | h)
      · simpa using hmem
      · exact h
  · simp only [List.map_append, List.map_cons, List.map_nil, List.mem_append, List.mem_singleton]
    exact or_comm

theorem AdvertCall.unrecorded_of_sending {u} (h : call.sending u = true)
    (hrow : u ∉ s.relayStates.map (·.relayUrl)) : call.unrecorded s = true := by
  have hall : s.relayStates.all (·.relayUrl ≠ u) = true := by
    simp only [List.mem_map, not_exists, not_and] at hrow
    simpa using fun r hr => hrow r hr
  unfold sending at h
  split at h
  · rw [decide_eq_true_eq] at h
    subst h
    exact hall
  · rw [decide_eq_true_eq] at h
    subst h
    exact hall
  · cases h

def AdvertCall.Explicit : AdvertCall → Prop
  | .republish force .readiness | .republish force .clear => force = true
  | _ => True

/-- What an await keeps: relays that were sent to keep their row or their call, only an explicit republication clears
the intent, and the writer is held by a call that waited for it. -/
structure Resumed (s : Advertiser) (x : AdvertChoice) (call : AdvertCall) (s' : Advertiser)
    (next : Option AdvertCall) : Prop where
  rows : ∀ u ∈ s.relayStates.map (·.relayUrl), u ∈ s'.relayStates.map (·.relayUrl)
  sent : ∀ p ∈ s'.sent, p.withdrawal = false → p ∈ s.sent ∨ ∃ q, next = some q ∧ q.sending p.relayUrl = true
  sending : (x.dbFails && call.unrecorded s) = false → ∀ u, call.sending u = true →
    u ∈ s'.relayStates.map (·.relayUrl) ∨ ∃ q, next = some q ∧ q.sending u = true
  withdrawn : s.row.withdrawnAt.isSome = true →
    s'.row.withdrawnAt.isSome = true ∨ ∃ force, call = .republish force .clear
  explicit : call.Explicit → ∀ q, next = some q → q.Explicit
  writer : ∀ q, next = some q → q.holdsWriter = true → call.holdsWriter = true ∨ call.wantsWriter = true

/-- An await that neither sends nor records. -/
theorem Resumed.of_eq {next} (hrows : s'.relayStates = s.relayStates := by rfl) (hsent : s'.sent = s.sent := by rfl)
    (hcall : ∀ u, call.sending u = false := by exact fun _ => rfl)
    (w : s.row.withdrawnAt.isSome = true → s'.row.withdrawnAt.isSome = true ∨ ∃ force, call = .republish force .clear := by
      exact .inl)
    (e : call.Explicit → ∀ q, next = some q → q.Explicit := by rintro - _ ⟨⟩ <;> trivial)
    (h : ∀ q, next = some q → q.holdsWriter = true → call.holdsWriter = true ∨ call.wantsWriter = true := by
      rintro _ ⟨⟩ h <;> first | exact .inl rfl | exact .inr rfl | cases h) :
    Resumed s x call s' next where
  rows u hu := by rw [hrows]; exact hu
  sent p hp _ := .inl (hsent ▸ hp)
  sending _ u hu := by rw [hcall u] at hu; cases hu
  withdrawn := w
  explicit := e
  writer := h

theorem Resumed.of_upsert {status error q} (hcall : ∀ u, call.sending u = true → url = u) (he : q.Explicit)
    (hwriter : call.holdsWriter = true := by rfl) :
    Resumed s x call (s.upsertRelayState url status error) (some q) where
  rows u hu := Advertiser.mem_upsertRelayState.mpr (.inr hu)
  sent p hp _ := .inl hp
  sending _ u hu := .inl (Advertiser.mem_upsertRelayState.mpr (.inl (hcall u hu).symm))
  withdrawn := .inl
  explicit := by rintro - _ ⟨⟩; exact he
  writer _ _ _ := .inl hwriter

theorem RepublishPhase.resume_keeps {force phase next} (hr : phase.resume s force x = some (s', next, out)) :
    Resumed s x (.republish force phase) s' next := by
  cases phase with
  | readiness =>
    simp only [resume, fail] at hr
    repeat' split at hr
    all_goals cases hr
    · exact .of_eq
    · exact .of_eq (e := by rintro h _ ⟨⟩; exact h)
    · exact .of_eq
  | clear =>
    simp only [resume, fail] at hr
    split at hr <;> cases hr <;> exact .of_eq (w := fun _ => .inr ⟨force, rfl⟩)
  | ready ad failed url rest =>
    simp only [resume, fail] at hr
    repeat' split at hr
    all_goals cases hr
    · exact .of_eq
    · refine ⟨fun u hu => hu, fun p hp _ => ?_, fun _ _ hs => (nomatch hs), .inl, fun _ q hq => by cases hq; trivial,
        fun _ _ _ => .inl rfl⟩
      rcases Lib.mem_snoc.mp hp with hp | rfl
      · exact .inl hp
      · exact .inr ⟨_, rfl, by simp [AdvertCall.sending]⟩
    · exact .of_eq
  | publishing ad failed url rest =>
    simp only [resume, onDatabase, Bool.and_false, Bool.false_eq_true, if_false] at hr
    split at hr <;> cases hr <;>
      exact ⟨fun u hu => hu, fun p hp _ => .inl hp, fun _ u hs => .inr ⟨_, rfl, hs⟩, .inl,
        fun _ q hq => by cases hq; trivial,
        fun _ _ _ => .inl rfl⟩
  | recording ad failed url error rest =>
    simp only [resume, onDatabase, Bool.and_true, fail] at hr
    split at hr
    · -- the row is missing only if it was there before
      rename_i hdb
      cases hr
      refine ⟨fun u hu => hu, fun p hp _ => .inl hp, fun hrec u hs => .inl ?_, .inl, fun _ q hq => (nomatch hq),
        fun _ _ _ => .inl rfl⟩
      by_contra hno
      rw [hdb, Bool.true_and, AdvertCall.unrecorded_of_sending hs hno] at hrec
      cases hrec
    cases hr
    exact .of_upsert (fun u hs => by simpa [AdvertCall.sending] using hs) trivial
  | outcome status error =>
    simp only [resume, fail] at hr
    split at hr <;> cases hr
    · exact .of_eq
    · exact .of_eq (w := fun hw => .inl (by simp [Advertiser.persistPublicationStatus, hw]))
  | keyless rest =>
    cases rest <;> simp only [resume, fail] at hr <;> split at hr <;> cases hr
    · exact .of_eq
    · exact .of_eq
    · exact .of_eq
    · exact .of_upsert (fun _ hs => nomatch hs) trivial
  | pace config key =>
    simp only [resume, onDatabase, Bool.and_false, Bool.false_eq_true, if_false, fail] at hr
    split at hr
    · cases hr
      exact .of_eq
    obtain ⟨t, ht, hr⟩ := Option.bind_eq_some_iff.mp hr
    cases hr
    obtain ⟨-, rfl⟩ := Advertiser.nextTimestamp_eq ht
    exact .of_eq
  | relay ad failed rest =>
    cases rest <;> simp only [resume, fail] at hr <;> (repeat' split at hr) <;> cases hr <;> exact .of_eq
  | lock | judge | record | setup | identity | envelopes | commit | notReady | load =>
    simp only [resume, fail] at hr
    repeat' split at hr
    all_goals (cases hr; exact .of_eq)

theorem WithdrawPhase.resume_keeps {reason lost phase next}
    (hr : phase.resume s reason lost x = some (s', next, out)) :
    Resumed s x (.withdraw reason lost phase) s' next := by
  cases phase with
  | relay expired answered rest =>
    cases rest with
    | nil =>
      simp only [resume, fail] at hr
      split at hr <;> cases hr <;> exact .of_eq
    | cons url rest =>
      simp only [resume, fail] at hr
      repeat' split at hr
      all_goals cases hr
      · exact .of_eq
      · exact .of_eq
      · exact .of_eq
      refine ⟨fun u hu => hu, fun p hp hw => ?_, fun _ _ hs => (nomatch hs), .inl, fun _ q hq => by cases hq; trivial,
        fun _ _ _ => .inl rfl⟩
      rcases Lib.mem_snoc.mp hp with hp | rfl
      · exact .inl hp
      · cases hw
  | recording expired answered url error rest =>
    simp only [resume, fail] at hr
    split at hr <;> cases hr
    · exact .of_eq
    · exact .of_upsert (fun _ hs => nomatch hs) trivial
  | pace urls =>
    simp only [resume, onDatabase, Bool.and_false, Bool.false_eq_true, if_false, fail] at hr
    split at hr
    · cases hr
      exact .of_eq
    · obtain ⟨t, ht, hr⟩ := Option.bind_eq_some_iff.mp hr
      obtain ⟨-, rfl⟩ := Advertiser.nextTimestamp_eq ht
      split at hr <;> cases hr <;> exact .of_eq
  | intent | paceFailed =>
    simp only [resume, fail] at hr
    split at hr <;> cases hr
    · exact .of_eq
    · exact .of_eq (w := fun hw => .inl (by simp [Advertiser.persistPublicationStatus, hw]))
  | load answered =>
    simp only [resume, fail] at hr
    split at hr <;> cases hr
    · exact .of_eq
    · refine .of_eq (e := fun _ q hq => ?_) (h := fun _ _ _ => .inl rfl)
      obtain ⟨reason', -, rfl⟩ := Option.map_eq_some_iff.mp hq
      trivial
  | was | lock | relayStates | stored | withdrawing =>
    simp only [resume, fail] at hr
    repeat' split at hr
    all_goals (cases hr; exact .of_eq)

theorem AdvertCall.resume_keeps {next} (hr : call.resume s x = some (s', next, out)) : Resumed s x call s' next := by
  cases call with
  | reconcile | refreshRelays | notReady =>
    simp only [resume] at hr
    repeat' split at hr
    all_goals (cases hr; exact .of_eq)
  | republish force phase => exact RepublishPhase.resume_keeps hr
  | withdraw reason lost phase => exact WithdrawPhase.resume_keeps hr

end

/-! ## The server -/

def recordedWriter (s : AdvertServer) (a : AdvertTurn) : Bool := oneWriter s a && recordsSends s a

section

variable {es : List AdvertNote} {t : AdvertServer}

theorem oneWriter_of_recorded {a} (h : recordedWriter t a = true) : oneWriter t a = true :=
  (Bool.and_eq_true _ _ ▸ h).1

theorem recordsSends_of_recorded {a} (h : recordedWriter t a = true) : recordsSends t a = true :=
  (Bool.and_eq_true _ _ ▸ h).2

theorem one_writer (h : (advertising.machine recordedWriter).Reaches es t) :
    ∀ c ∈ t.calls, ∀ d ∈ t.calls, c.2.holdsWriter = true → d.2.holdsWriter = true → c.1 = d.1 := by
  refine Service.Reaches.exclusive AdvertCall.wantsWriter (fun s a => oneWriter_of_recorded) ?_ ?_ h
  · intro s call p hp
    cases call with
    | reconcile | refreshRelays | withdraw reason => cases hp; rfl
    | republish force => cases hp; cases force <;> rfl
  · intro s p x s' q out hr hq
    exact (AdvertCall.resume_keeps hr).writer q rfl hq

theorem advertAct_sends {s s' b} (h : advertAct s b = some s') : s'.sent = s.sent ∧ s'.relayStates = s.relayStates := by
  cases b <;> simp only [advertAct] at h
  case installKey => split at h <;> cases h; exact ⟨rfl, rfl⟩
  case deliver => split at h <;> cases h; exact ⟨rfl, rfl⟩
  all_goals (cases h; exact ⟨rfl, rfl⟩)

theorem sends_recorded (h : (advertising.machine recordedWriter).Reaches es t) :
    ∀ p ∈ t.shared.sent, p.withdrawal = false →
      p.relayUrl ∈ t.shared.relayStates.map (·.relayUrl) ∨ ∃ c ∈ t.calls, c.2.sending p.relayUrl = true := by
  refine Machine.Reaches.induct (I := fun _ t => ∀ p ∈ t.shared.sent, p.withdrawal = false →
    p.relayUrl ∈ t.shared.relayStates.map (·.relayUrl) ∨ ∃ c ∈ t.calls, c.2.sending p.relayUrl = true) ?_ ?_ h
  · rintro t ⟨⟨startup, hs⟩, -, -⟩
    simp [hs]
  intro es t a t' out hr hi hs
  cases Service.steps_of_step hs with
  | begin call q hg hq =>
    intro p hp hw
    rcases hi p hp hw with hrow | ⟨c, hc, hsend⟩
    · exact .inl hrow
    · exact .inr ⟨c, List.mem_append_left _ hc, hsend⟩
  | resume number x call s' next out hg hc hnext =>
    have hrec := recordsSends_of_recorded hg
    simp only [recordsSends, Server.phase_of_mem (Service.Reaches.keyed hr) hc, Option.any_some,
      Bool.not_eq_true'] at hrec
    have hkept := AdvertCall.resume_keeps hnext
    have hnow : ∀ {u}, (∃ q, next = some q ∧ q.sending u = true) →
        ∃ c ∈ t.settle number next, c.2.sending u = true := by
      rintro u ⟨q, rfl, hq⟩
      exact ⟨(number, q), Table.mem_update.mpr ⟨_, hc, by simp⟩, hq⟩
    intro p hp hw
    rcases hkept.sent p hp hw with hp | hsend
    · rcases hi p hp hw with hrow | ⟨c, hcmem, hsend⟩
      · exact .inl (hkept.rows _ hrow)
      by_cases hcn : c.1 = number
      · have hcall : c.2 = call := congrArg Prod.snd ((Service.Reaches.keyed hr).eq hcmem hc hcn)
        rw [hcall] at hsend
        exact (hkept.sending hrec _ hsend).imp_right hnow
      · exact .inr ⟨c, Service.mem_settle_other hcmem hcn, hsend⟩
    · exact .inr (hnow hsend)
  | drop number hg =>
    intro p hp hw
    rcases hi p hp hw with hrow | ⟨c, hc, hsend⟩
    · exact .inl hrow
    by_cases hcn : c.1 = number
    · left
      by_contra hno
      have hrec := recordsSends_of_recorded hg
      simp only [recordsSends, ← hcn, Server.phase_of_mem (Service.Reaches.keyed hr) hc, Option.any_some,
        AdvertCall.unrecorded_of_sending hsend hno, Bool.not_true] at hrec
      cases hrec
    · exact .inr ⟨c, List.mem_filter.mpr ⟨hc, by simpa using hcn⟩, hsend⟩
  | outside b s' out hg hb =>
    obtain ⟨s'', hact, hb⟩ := Option.map_eq_some_iff.mp hb
    cases hb
    intro p hp hw
    obtain ⟨hsent, hrows⟩ := advertAct_sends hact
    rw [hsent] at hp
    rw [hrows]
    rcases hi p hp hw with hrow | ⟨c, hc, hsend⟩
    · exact .inl hrow
    by_cases hb : b = .restart
    · left
      by_contra hno
      have hrec := recordsSends_of_recorded hg
      simp only [hb, recordsSends, List.all_eq_true, Bool.not_eq_true'] at hrec
      have hun := hrec c hc
      rw [AdvertCall.unrecorded_of_sending hsend hno] at hun
      cases hun
    have hclear : advertising.clears b = false := by
      cases b <;> first | rfl | exact absurd rfl hb
    rw [hclear]
    exact .inr ⟨c, hc, hsend⟩

theorem advertAct_undisturbed {s s' b n} (h : advertAct s b = some s') (hb : b ≠ .restart) :
    Undisturbed es s es s' n := by
  have hkeep : ∀ {s'}, s'.sent = s.sent → s'.lastAttempt = s.lastAttempt → s.clock ≤ s'.clock →
      (s.key = true → s'.key = true) → s'.row = s.row →
      (s'.held = s.held ∨ ∃ p ∈ s.sent, s'.held = (s.deliver p.relayUrl p.advertisement).held) →
      Undisturbed es s es s' n := by
    intro s' hsent hlast hclock hkey hrow hheld
    exact ⟨id, id, hsent, hlast, hclock, hkey, by rw [hrow]; exact id, hheld⟩
  cases b with
  | tick seconds => cases h; exact hkeep rfl rfl (Nat.le_add_right _ _) id rfl (.inl rfl)
  | configure | storeKey => cases h; exact hkeep rfl rfl (le_refl _) id rfl (.inl rfl)
  | installKey =>
    simp only [advertAct] at h
    split at h <;> cases h
    exact hkeep rfl rfl (le_refl _) (fun _ => rfl) rfl (.inl rfl)
  | deliver p =>
    simp only [advertAct] at h
    split at h <;> cases h
    rename_i hp
    exact hkeep rfl rfl (le_refl _) id rfl (.inr ⟨p, hp, rfl⟩)
  | restart => exact absurd rfl hb

theorem advertAct_inv {s s' b} (hi : AdvertInv es s) (h : advertAct s b = some s') : AdvertInv es s' := by
  cases b with
  | tick seconds =>
    cases h
    exact { hi with
      past p hp := ⟨(hi.past p hp).1, (hi.past p hp).2.trans (Nat.le_add_right _ _)⟩
      paced := hi.paced.trans (Nat.succ_le_succ (Nat.le_add_right _ _)) }
  | configure config =>
    cases h
    exact { hi with }
  | storeKey =>
    cases h
    exact { hi with keys _ := rfl }
  | installKey =>
    simp only [advertAct] at h
    split at h <;> cases h
    rename_i hkey
    exact { hi with published hne := ⟨(hi.published hne).1, rfl⟩, keys _ := hkey }
  | deliver p =>
    simp only [advertAct] at h
    split at h <;> cases h
    rename_i hp
    exact hi.deliver hp
  | restart =>
    cases h
    -- the new writer starts above every second that the old one can have used
    exact { hi with
      past p hp := ⟨(hi.past p hp).2.trans (Nat.le_succ _), (hi.past p hp).2⟩
      paced := le_refl _
      published hne := ⟨(hi.published hne).1, hi.keys (hi.published hne).2⟩
      keys := id }

theorem explicit_calls {guard} (h : (advertising.machine guard).Reaches es t) : ∀ c ∈ t.calls, c.2.Explicit := by
  refine (Service.Reaches.calls (I := fun _ _ => True) (J := fun _ _ _ call => call.Explicit) ?_ ?_ ?_ ?_ h).calls
  · exact fun _ _ => trivial
  · intro es t call p _ _ _ hp
    cases call with
    | reconcile | refreshRelays | withdraw reason => cases hp; trivial
    | republish force => cases hp; cases force <;> trivial
  · intro es t n x call s' next out _ hi _ hc hr
    refine ⟨trivial, ?_, fun c hcmem _ => hi.calls c hcmem⟩
    exact (AdvertCall.resume_keeps hr).explicit (hi.calls _ hc)
  · exact fun es t b s' out _ hi _ _ => ⟨trivial, fun _ c hc => hi.calls c hc⟩

theorem advertising_inv (h : (advertising.machine recordedWriter).Reaches es t) :
    Service.Inv AdvertInv (fun es s n call => AdvertCall.Holds es s n call) es t := by
  refine Service.Reaches.calls ?_ ?_ ?_ ?_ h
  · rintro s ⟨startup, rfl⟩
    refine ⟨.nil, by simp, le_refl _, by simp, by simp, by simp, by simp, by simp [mark], ?_⟩
    rintro ⟨n, hn⟩
    cases hn
  · intro es t call p _ hi hg hp
    cases call with
    | reconcile | refreshRelays | withdraw reason => cases hp; trivial
    | republish force => cases hp; cases force <;> trivial
  · intro es t n x call s' next out hr hi hg hc hnext
    have hholds := hi.calls _ hc
    have hone := one_writer hr
    have hown : Leads es n s' next out := by
      cases call with
      | reconcile | refreshRelays | notReady =>
        simp only [advertising, AdvertCall.resume] at hnext
        repeat' split at hnext
        all_goals cases hnext
        all_goals simp only [Leads, List.map_nil, List.append_nil]
        all_goals refine ⟨hi.shared.rowOnly id id, fun q hq => ?_⟩
        all_goals cases hq
        all_goals trivial
      | republish force phase => exact RepublishPhase.resume_inv hi.shared hholds hnext
      | withdraw reason lost phase =>
        refine WithdrawPhase.resume_inv hi.shared hholds ?_ hnext
        rintro rfl p hp hw
        refine (sends_recorded hr p hp hw).resolve_right ?_
        rintro ⟨d, hd, hsend⟩
        have hdn : d.1 = n := hone d hd _ hc (AdvertCall.holdsWriter_of_sending hsend) rfl
        have hcall : d = (n, .withdraw reason lost .relayStates) := hi.keyed.eq hd hc hdn
        rw [hcall] at hsend
        cases hsend
    refine ⟨hown.1, hown.2, fun c hcmem hne => ?_⟩
    cases hwriter : c.2.holdsWriter with
    | false => exact AdvertCall.holds_of_not_holdsWriter hwriter
    | true =>
      have hnot : call.holdsWriter = false := by
        by_contra hcon
        exact hne (hone c hcmem _ hc hwriter (by simpa using hcon))
      obtain ⟨⟨row, rfl, hrow⟩, hout⟩ := AdvertCall.resume_outside hnot hnext
      refine (hi.calls c hcmem).undisturbed hi.shared ⟨fun hc => hc.before hout, ?_, rfl, rfl, le_refl _, id, ?_, .inl rfl⟩
      · exact mark_other fun he => hne he.symm
      · intro had
        rw [← hrow] at had
        exact had
  intro es t b s' out hr hi hg hb
  obtain ⟨s'', hact, hb⟩ := Option.map_eq_some_iff.mp hb
  cases hb
  rw [List.map_nil, List.append_nil]
  refine ⟨advertAct_inv hi.shared hact, fun hclear c hc => ?_⟩
  refine (hi.calls c hc).undisturbed hi.shared (advertAct_undisturbed hact ?_)
  rintro rfl
  cases hclear

end

end Manifold.Liquidity
