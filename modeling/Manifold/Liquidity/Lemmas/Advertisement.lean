import Manifold.Liquidity.Advertisement

/-!
# Publication and withdrawal under one writer
-/

namespace Manifold.Liquidity

open Lib

abbrev AdvertNote := Service.Note AdvertEvent

/-! ## Standing withdrawals -/

/-- The withdrawal of call `n` stands once its intent is committed, until a forced republication; then whether it has
completed. -/
def markStep (n : Nat) (b : Option Bool) : AdvertNote → Option Bool
  | (_, .forced) => none
  | (m, .intent) => if m = some n then some (b.getD false) else b
  | (m, .withdrew (.ok _) true) => if m = some n then b.map (fun _ => true) else b
  | _ => b

def mark (n : Nat) (es : List AdvertNote) : Option Bool := es.foldl (markStep n) none

def Completed (es : List AdvertNote) : Prop := ∃ n, mark n es = some true

def AdvertEvent.completes : AdvertEvent → Bool
  | .withdrew (.ok _) true => true
  | _ => false

section

variable {n m : Nat} {es : List AdvertNote} {out : List AdvertEvent} {e : AdvertEvent}

theorem mark_append (es fs : List AdvertNote) : mark n (es ++ fs) = fs.foldl (markStep n) (mark n es) :=
  List.foldl_append

theorem markStep_other {b k} (hk : k ≠ some n) (h : (markStep n b (k, e)).isSome = true) : b.isSome = true := by
  unfold markStep at h
  split at h
  · cases h
  · simp_all
  · simp_all
  · exact h

theorem markStep_completes {b k} (he : e.completes = false) (h : markStep n b (k, e) = some true) : b = some true := by
  unfold markStep at h
  split at h
  · cases h
  · split at h
    · cases b with
      | none => cases h
      | some b => simpa using h
    · exact h
  · simp_all [AdvertEvent.completes]
  · exact h

theorem mark_other (hne : m ≠ n) (h : (mark n (es ++ out.map (fun e => (some m, e)))).isSome = true) :
    (mark n es).isSome = true := by
  rw [mark_append] at h
  generalize mark n es = b at h ⊢
  induction out generalizing b with
  | nil => exact h
  | cons e out ih => exact markStep_other (k := some m) (by simpa using hne) (ih _ h)

theorem Completed.before {k} (hout : ∀ e ∈ out, e.completes = false)
    (h : Completed (es ++ out.map (fun e => (k, e)))) : Completed es := by
  obtain ⟨n, h⟩ := h
  refine ⟨n, ?_⟩
  rw [mark_append] at h
  generalize mark n es = b at h ⊢
  induction out generalizing b with
  | nil => exact h
  | cons e out ih =>
    exact markStep_completes (hout e List.mem_cons_self) (ih (fun e he => hout e (List.mem_cons_of_mem _ he)) _ h)

end

/-! ## The relays -/

def Superseded (s : Advertiser) (p : RelaySending) : Prop :=
  ∃ e, s.held p.relayUrl = some e ∧ e.expiresAt ≤ e.issuedAt ∧ p.advertisement.issuedAt < e.issuedAt

def Down (s : Advertiser) : Prop := ∀ p ∈ s.sent, p.withdrawal = false → Superseded s p

structure AdvertInv (es : List AdvertNote) (s : Advertiser) : Prop where
  order : s.sent.Pairwise fun p q =>
    p.advertisement = q.advertisement ∨ p.advertisement.issuedAt < q.advertisement.issuedAt
  past : ∀ p ∈ s.sent, p.advertisement.issuedAt ≤ s.lastAttempt ∧ p.advertisement.issuedAt ≤ s.clock
  paced : s.lastAttempt ≤ s.clock + 1
  expired : ∀ p ∈ s.sent, p.withdrawal = true → p.advertisement.expiresAt ≤ p.advertisement.issuedAt
  published : s.sent ≠ [] → s.row.advertisement.isSome = true ∧ s.key = true
  keys : s.key = true → s.storedKey = true
  held : ∀ u e, s.held u = some e → ∃ p ∈ s.sent, p.relayUrl = u ∧ p.advertisement = e
  stands : ∀ n, (mark n es).isSome = true → s.row.withdrawnAt.isSome = true
  down : Completed es → Down s

section

variable {es es' : List AdvertNote} {s s' : Advertiser} {p : RelaySending} {ad : Advertisement} {url : String}

theorem Advertiser.deliver_held (s : Advertiser) (url : String) (ad : Advertisement) (u : String) :
    (s.deliver url ad).held u = s.held u ∨
      u = url ∧ (s.deliver url ad).held u = some ad ∧ ∀ e, s.held u = some e → e.issuedAt < ad.issuedAt := by
  simp only [deliver]
  split
  · rename_i h
    simp only [Bool.and_eq_true, decide_eq_true_eq, Option.all_eq_true] at h
    exact .inr ⟨h.1, rfl, fun e he => by simpa using h.2 e he⟩
  · exact .inl rfl

theorem Advertiser.deliver_keeps {u e} (h : s.held u = some e) (hle : ad.issuedAt ≤ e.issuedAt) :
    (s.deliver url ad).held u = some e := by
  rcases s.deliver_held url ad u with he | ⟨-, -, hlt⟩
  · rw [he, h]
  · exact absurd (hlt e h) (Nat.not_lt.mpr hle)

theorem Down.deliver (h : Down s) (hexp : ∀ p ∈ s.sent, p.withdrawal = true →
    p.advertisement.expiresAt ≤ p.advertisement.issuedAt) (hp : p ∈ s.sent) :
    Down (s.deliver p.relayUrl p.advertisement) := by
  intro q hq hw
  obtain ⟨e, he, hx, hlt⟩ := h q hq hw
  rcases s.deliver_held p.relayUrl p.advertisement q.relayUrl with hh | ⟨hu, hh, hnew⟩
  · exact ⟨e, hh.trans he, hx, hlt⟩
  have hpe := hnew e he
  refine ⟨p.advertisement, hh, ?_, hlt.trans hpe⟩
  cases hpw : p.withdrawal with
  | true => exact hexp p hp hpw
  | false =>
    -- a publication was superseded by what the relay holds
    obtain ⟨e', he', -, hlt'⟩ := h p hp hpw
    rw [← hu, he] at he'
    cases he'
    exact absurd hpe (Nat.not_lt.mpr hlt'.le)

theorem AdvertInv.deliver (h : AdvertInv es s) (hp : p ∈ s.sent) :
    AdvertInv es (s.deliver p.relayUrl p.advertisement) :=
  { h with
    held u e he := by
      rcases s.deliver_held p.relayUrl p.advertisement u with hh | ⟨rfl, hh, -⟩
      · exact h.held u e (hh ▸ he)
      · rw [hh] at he
        cases he
        exact ⟨p, hp, rfl, rfl⟩
    down hc := (h.down hc).deliver h.expired hp }

theorem AdvertInv.row {row} (h : AdvertInv es s)
    (had : s.row.advertisement.isSome = true → row.advertisement.isSome = true)
    (hstands : ∀ n, (mark n es').isSome = true → row.withdrawnAt.isSome = true) (hdown : Completed es' → Down s) :
    AdvertInv es' { s with row := row } :=
  { h with published hne := (h.published hne).imp_left had, stands := hstands, down := hdown }

structure Newest (s : Advertiser) (ad : Advertisement) : Prop where
  last : ad.issuedAt = s.lastAttempt
  past : ad.issuedAt ≤ s.clock
  sent : ∀ p ∈ s.sent, p.advertisement = ad ∨ p.advertisement.issuedAt < ad.issuedAt

theorem AdvertInv.send (h : AdvertInv es s) {w} (hn : Newest s ad) (hkey : s.key = true)
    (had : s.row.advertisement.isSome = true) (hexp : w = true → ad.expiresAt ≤ ad.issuedAt)
    (hw : w = true ∨ ¬ Completed es) : AdvertInv es (s.send ⟨url, ad, w⟩) where
  order := by
    refine List.pairwise_append.mpr ⟨h.order, List.pairwise_singleton _ _, fun p hp q hq => ?_⟩
    rw [List.mem_singleton.mp hq]
    exact hn.sent p hp
  past p hp := by
    rcases Lib.mem_snoc.mp hp with hp | rfl
    · exact h.past p hp
    · exact ⟨hn.last.le, hn.past⟩
  paced := h.paced
  expired p hp hpw := by
    rcases Lib.mem_snoc.mp hp with hp | rfl
    · exact h.expired p hp hpw
    · exact hexp hpw
  published _ := ⟨had, hkey⟩
  keys := h.keys
  held u e he := by
    obtain ⟨p, hp, hu, ha⟩ := h.held u e he
    exact ⟨p, List.mem_append_left _ hp, hu, ha⟩
  stands := h.stands
  down hc p hp hpw := by
    rcases Lib.mem_snoc.mp hp with hp | rfl
    · exact h.down hc p hp hpw
    rcases hw with rfl | hw
    · cases hpw
    · exact absurd hc hw

theorem Newest.send (hn : Newest s ad) {w} : Newest (s.send ⟨url, ad, w⟩) ad where
  last := hn.last
  past := hn.past
  sent p hp := by
    rcases Lib.mem_snoc.mp hp with hp | rfl
    · exact hn.sent p hp
    · exact .inl rfl

end

/-! ## What a call has established -/

structure Fresh (s : Advertiser) (issuedAt : Timestamp) : Prop where
  last : issuedAt = s.lastAttempt
  past : issuedAt ≤ s.clock
  sent : ∀ p ∈ s.sent, p.advertisement.issuedAt < issuedAt

structure Expiring (s : Advertiser) (e : Advertisement) : Prop where
  newest : Newest s e
  expired : e.expiresAt ≤ e.issuedAt
  own : ∀ p ∈ s.sent, p.withdrawal = false → p.advertisement.issuedAt < e.issuedAt
  key : s.key = true
  stored : s.row.advertisement.isSome = true

def Reached (s : Advertiser) (e : Advertisement) (answered : Bool) (rest : List String) : Prop :=
  answered = true → ∀ p ∈ s.sent, p.withdrawal = false → p.relayUrl ∈ rest ∨ s.held p.relayUrl = some e

structure Publishing (es : List AdvertNote) (s : Advertiser) (ad : Advertisement) : Prop where
  running : ¬ Completed es
  newest : Newest s ad
  key : s.key = true
  stored : s.row.advertisement.isSome = true

def RepublishPhase.Holds (es : List AdvertNote) (s : Advertiser) : RepublishPhase → Prop
  | .setup => ¬ Completed es
  | .identity _ key | .pace _ key => ¬ Completed es ∧ (key = true → s.key = true)
  | .envelopes _ key issuedAt => ¬ Completed es ∧ (key = true → s.key = true) ∧ Fresh s issuedAt
  | .commit _ key ad => ¬ Completed es ∧ (key = true → s.key = true) ∧ Fresh s ad.issuedAt
  | .relay ad _ _ | .ready ad _ _ _ | .recording ad _ _ _ _ => Publishing es s ad
  | .publishing ad _ url _ => Publishing es s ad ∧ ⟨url, ad, false⟩ ∈ s.sent
  | _ => True

def WithdrawPhase.Holds (es : List AdvertNote) (s : Advertiser) (n : Nat) : WithdrawPhase → Prop
  | .stored urls => ∀ p ∈ s.sent, p.withdrawal = false → p.relayUrl ∈ urls
  | .pace urls =>
    (∀ p ∈ s.sent, p.withdrawal = false → p.relayUrl ∈ urls) ∧ s.key = true ∧ s.row.advertisement.isSome = true
  | .relay none _ _ | .recording none _ _ _ _ => s.sent = []
  | .relay (some e) answered rest | .recording (some e) answered _ _ rest =>
    Expiring s e ∧ Reached s e answered rest
  | .withdrawing e answered url rest =>
    Expiring s e ∧ Reached s e answered (url :: rest) ∧ ⟨url, e, true⟩ ∈ s.sent
  | .load answered => answered = true → (mark n es).isSome = true → Down s
  | _ => True

def AdvertCall.Holds (es : List AdvertNote) (s : Advertiser) (n : Nat) : AdvertCall → Prop
  | .republish _ phase => phase.Holds es s
  | .withdraw _ _ phase => phase.Holds es s n
  | _ => True

section

variable {es es' : List AdvertNote} {s s' : Advertiser} {n m : Nat} {call next : AdvertCall} {x : AdvertChoice}
  {out : List AdvertEvent} {ad e : Advertisement} {url : String}

structure Undisturbed (es : List AdvertNote) (s : Advertiser) (es' : List AdvertNote) (s' : Advertiser) (n : Nat) :
    Prop where
  completed : Completed es' → Completed es
  stands : (mark n es').isSome = true → (mark n es).isSome = true
  sent : s'.sent = s.sent
  lastAttempt : s'.lastAttempt = s.lastAttempt
  clock : s.clock ≤ s'.clock
  key : s.key = true → s'.key = true
  stored : s.row.advertisement.isSome = true → s'.row.advertisement.isSome = true
  held : s'.held = s.held ∨ ∃ p ∈ s.sent, s'.held = (s.deliver p.relayUrl p.advertisement).held

theorem Newest.undisturbed (h : Newest s ad) (hu : Undisturbed es s es' s' n) : Newest s' ad :=
  ⟨h.last.trans hu.lastAttempt.symm, h.past.trans hu.clock, by rw [hu.sent]; exact h.sent⟩

theorem Fresh.undisturbed {t} (h : Fresh s t) (hu : Undisturbed es s es' s' n) : Fresh s' t :=
  ⟨h.last.trans hu.lastAttempt.symm, h.past.trans hu.clock, by rw [hu.sent]; exact h.sent⟩

theorem Expiring.undisturbed (h : Expiring s e) (hu : Undisturbed es s es' s' n) : Expiring s' e :=
  ⟨h.newest.undisturbed hu, h.expired, by rw [hu.sent]; exact h.own, hu.key h.key, hu.stored h.stored⟩

theorem Publishing.undisturbed (h : Publishing es s ad) (hu : Undisturbed es s es' s' n) : Publishing es' s' ad :=
  ⟨fun hc => h.running (hu.completed hc), h.newest.undisturbed hu, hu.key h.key, hu.stored h.stored⟩

theorem Reached.undisturbed {answered rest} (h : Reached s e answered rest) (hn : Newest s e)
    (hu : Undisturbed es s es' s' n) : Reached s' e answered rest := by
  intro ha p hp hw
  rw [hu.sent] at hp
  rcases h ha p hp hw with hrest | hheld
  · exact .inl hrest
  right
  rcases hu.held with he | ⟨q, hq, he⟩
  · rw [he, hheld]
  rw [he]
  refine Advertiser.deliver_keeps hheld ?_
  rcases hn.sent q hq with h | h
  · rw [h]
  · exact h.le

theorem Down.undisturbed (h : Down s) (hi : AdvertInv es s) (hu : Undisturbed es s es' s' n) : Down s' := by
  rcases hu.held with he | ⟨q, hq, he⟩
  · intro p hp hw
    rw [hu.sent] at hp
    obtain ⟨e, hheld, hx, hlt⟩ := h p hp hw
    exact ⟨e, by rw [he, hheld], hx, hlt⟩
  intro p hp hw
  rw [hu.sent] at hp
  obtain ⟨e, hheld, hx, hlt⟩ := h.deliver hi.expired hq p hp hw
  exact ⟨e, by rw [he, hheld], hx, hlt⟩

theorem AdvertCall.Holds.undisturbed (h : call.Holds es s n) (hi : AdvertInv es s)
    (hu : Undisturbed es s es' s' n) : call.Holds es' s' n := by
  cases call with
  | reconcile | refreshRelays | notReady => trivial
  | republish force phase =>
    cases phase with
    | setup => exact fun hc => h (hu.completed hc)
    | identity _ key | pace _ key => exact ⟨fun hc => h.1 (hu.completed hc), fun hk => hu.key (h.2 hk)⟩
    | envelopes _ key _ | commit _ key _ =>
      exact ⟨fun hc => h.1 (hu.completed hc), fun hk => hu.key (h.2.1 hk), h.2.2.undisturbed hu⟩
    | relay | ready | recording => exact Publishing.undisturbed h hu
    | publishing => exact ⟨Publishing.undisturbed h.1 hu, by rw [hu.sent]; exact h.2⟩
    | _ => trivial
  | withdraw reason lost phase =>
    cases phase with
    | stored urls =>
      intro p hp hw
      rw [hu.sent] at hp
      exact h p hp hw
    | pace urls =>
      refine ⟨?_, hu.key h.2.1, hu.stored h.2.2⟩
      intro p hp hw
      rw [hu.sent] at hp
      exact h.1 p hp hw
    | relay expired answered rest =>
      cases expired with
      | none => exact hu.sent.trans h
      | some e => exact ⟨h.1.undisturbed hu, h.2.undisturbed h.1.newest hu⟩
    | recording expired answered url error rest =>
      cases expired with
      | none => exact hu.sent.trans h
      | some e => exact ⟨h.1.undisturbed hu, h.2.undisturbed h.1.newest hu⟩
    | withdrawing e answered url rest =>
      exact ⟨h.1.undisturbed hu, h.2.1.undisturbed h.1.newest hu, by rw [hu.sent]; exact h.2.2⟩
    | load answered => exact fun ha hm => (h ha (hu.stands hm)).undisturbed hi hu
    | _ => trivial

/-! ## One await of a publication -/

theorem AdvertInv.marks (h : AdvertInv es s) (hm : ∀ n, mark n es' = mark n es) : AdvertInv es' s :=
  { h with stands n hn := h.stands n (hm n ▸ hn), down := fun ⟨n, hn⟩ => h.down ⟨n, hm n ▸ hn⟩ }

theorem AdvertInv.rowOnly {row} (h : AdvertInv es s)
    (had : s.row.advertisement.isSome = true → row.advertisement.isSome = true)
    (hw : s.row.withdrawnAt.isSome = true → row.withdrawnAt.isSome = true) : AdvertInv es { s with row := row } :=
  h.row had (fun n hn => hw (h.stands n hn)) h.down

theorem AdvertInv.persistPublicationStatus (h : AdvertInv es s) (status : AdvertisementPublicationStatus)
    (error : Option String) : AdvertInv es (s.persistPublicationStatus status error) := by
  refine h.rowOnly (fun ha => ha) fun hw => ?_
  simp [hw]

theorem AdvertInv.upsertRelayState (h : AdvertInv es s) (status : RelayStatus) (error : Option String) :
    AdvertInv es (s.upsertRelayState url status error) :=
  { h with }

theorem Advertiser.nextTimestamp_eq (hs : s.nextTimestamp = some s') :
    s.lastAttempt < s.clock ∧ s' = { s with lastAttempt := s.clock } := by
  unfold nextTimestamp at hs
  split at hs
  · rename_i hlt
    exact ⟨hlt, (Option.some.inj hs).symm⟩
  · cases hs

theorem AdvertInv.paced_next (h : AdvertInv es s) (hs : s.nextTimestamp = some s') :
    AdvertInv es s' ∧ Fresh s' s'.lastAttempt := by
  obtain ⟨hlt, rfl⟩ := Advertiser.nextTimestamp_eq hs
  exact ⟨{ h with past p hp := ⟨(h.past p hp).2, (h.past p hp).2⟩, paced := Nat.le_succ _ }, rfl, le_refl _,
    fun p hp => (h.past p hp).1.trans_lt hlt⟩

/-- The invariant holds after the call `n` came to `next`, and with it what `next` has established. -/
def Leads (es : List AdvertNote) (n : Nat) (s' : Advertiser) (next : Option AdvertCall) (out : List AdvertEvent) :
    Prop :=
  AdvertInv (es ++ out.map (fun e => (some n, e))) s' ∧
    ∀ call, next = some call → call.Holds (es ++ out.map (fun e => (some n, e))) s' n

theorem Leads.goto {next} (hr : some (s, some call, []) = some (s', next, out)) (hi : AdvertInv es s)
    (h : call.Holds es s n) : Leads es n s' next out := by
  cases hr
  simp only [Leads, List.map_nil, List.append_nil]
  refine ⟨hi, fun call hn => ?_⟩
  cases hn
  exact h

theorem Leads.ends {next a} (hr : some (s, none, [a]) = some (s', next, out)) (hi : AdvertInv es s)
    (ha : ∀ m b, markStep m b (some n, a) = b) : Leads es n s' next out := by
  cases hr
  exact ⟨hi.marks fun m => by simp [mark_append, ha], fun _ hn => nomatch hn⟩

theorem RepublishPhase.resume_inv {force} {phase : RepublishPhase} {next} (hi : AdvertInv es s)
    (h : phase.Holds es s) (hr : phase.resume s force x = some (s', next, out)) : Leads es n s' next out := by
  have hfail : ∀ {e}, fail s e = some (s', next, out) → Leads es n s' next out :=
    fun hf => .ends hf hi fun _ _ => rfl
  unfold resume at hr
  split at hr
  · exact hfail hr
  cases phase with
  | readiness | judge => exact .goto hr hi (by split <;> trivial)
  | clear =>
    cases hr
    refine ⟨hi.row (fun ha => ha) ?_ ?_, fun call hn => ?_⟩
    · intro m hm
      simp [mark_append, markStep] at hm
    · rintro ⟨m, hm⟩
      simp [mark_append, markStep] at hm
    · cases hn
      trivial
  | lock => exact .goto hr hi trivial
  | record =>
    refine .goto hr hi ?_
    split
    · trivial
    · rename_i hw
      rintro ⟨m, hm⟩
      exact hw (hi.stands m (by simp [hm]))
  | setup =>
    dsimp only at hr
    split at hr
    · exact hfail hr
    · exact .goto hr hi ⟨h, fun hk => hk⟩
  | identity config key =>
    dsimp only at hr
    split at hr
    · exact .goto hr hi h
    · exact hfail hr
  | pace config key =>
    dsimp only at hr
    split at hr
    · exact hfail hr
    obtain ⟨t, ht, hr⟩ := Option.bind_eq_some_iff.mp hr
    obtain ⟨hi', hfresh⟩ := hi.paced_next ht
    obtain ⟨-, rfl⟩ := Advertiser.nextTimestamp_eq ht
    exact .goto hr hi' ⟨h.1, h.2, hfresh⟩
  | envelopes config key issuedAt =>
    dsimp only at hr
    split at hr
    · exact hfail hr
    · exact .goto hr hi h
  | commit relays key ad =>
    obtain ⟨hrun, hkey, hfresh⟩ := h
    dsimp only at hr
    split at hr
    · exact .goto hr hi trivial
    split at hr
    · exact .goto hr hi trivial
    refine .goto hr (hi.rowOnly (fun _ => rfl) fun hw => hw) ?_
    split
    · rename_i hk
      exact ⟨hrun, ⟨hfresh.last, hfresh.past, fun p hp => .inr (hfresh.sent p hp)⟩, hkey hk, rfl⟩
    · trivial
  | relay ad failed rest =>
    cases rest with
    | nil => exact .goto hr hi trivial
    | cons url rest =>
      refine .goto hr hi ?_
      split
      · trivial
      · exact h
  | ready ad failed url rest =>
    dsimp only at hr
    split at hr
    · refine .goto hr (hi.send h.newest h.key h.stored (fun hw => nomatch hw) (.inr h.running)) ?_
      exact ⟨⟨h.running, h.newest.send, h.key, h.stored⟩, List.mem_append_right _ List.mem_cons_self⟩
    · exact .goto hr hi trivial
  | publishing ad failed url rest =>
    dsimp only at hr
    split at hr
    · exact .goto hr (hi.deliver h.2) ⟨h.1.running, ⟨h.1.newest.last, h.1.newest.past, h.1.newest.sent⟩, h.1.key, h.1.stored⟩
    · exact .goto hr hi h.1
  | recording ad failed url error rest =>
    exact .goto hr (hi.upsertRelayState _ _)
      ⟨h.running, ⟨h.newest.last, h.newest.past, h.newest.sent⟩, h.key, h.stored⟩
  | outcome status error => exact .goto hr (hi.persistPublicationStatus status error) trivial
  | keyless rest =>
    cases rest with
    | nil => exact .goto hr hi trivial
    | cons url rest => exact .goto hr (hi.upsertRelayState _ _) trivial
  | notReady reason => exact .goto hr (hi.rowOnly (fun ha => ha) fun hw => hw) trivial
  | load =>
    cases hr
    exact .ends rfl hi fun _ _ => rfl

/-! ## One await of a withdrawal -/

def Covered (s : Advertiser) : Prop :=
  ∀ p ∈ s.sent, p.withdrawal = false → p.relayUrl ∈ s.relayStates.map (·.relayUrl)

theorem Reached.down {answered} (h : Reached s e answered []) (he : Expiring s e) (ha : answered = true) : Down s := by
  intro p hp hw
  rcases h ha p hp hw with hnil | hheld
  · cases hnil
  · exact ⟨e, hheld, he.expired, he.own p hp hw⟩

theorem Reached.deliver {answered rest} (h : Reached s e answered (url :: rest)) (he : Expiring s e)
    (hi : AdvertInv es s) : Reached (s.deliver url e) e answered rest := by
  have hle : ∀ {u a}, s.held u = some a → a = e ∨ a.issuedAt < e.issuedAt := by
    intro u a hu
    obtain ⟨p, hp, -, rfl⟩ := hi.held u a hu
    exact he.newest.sent p hp
  intro ha p hp hw
  rcases h ha p hp hw with hmem | hheld
  · rcases List.mem_cons.mp hmem with hu | hrest
    · right
      rcases s.deliver_held url e p.relayUrl with hh | ⟨-, hh, -⟩
      · -- the relay held it already
        rw [hh]
        by_contra hne
        have hnew : (s.deliver url e).held p.relayUrl = some e := by
          simp only [Advertiser.deliver, hu, decide_true, Bool.true_and, Option.all_eq_true,
            decide_eq_true_eq, ite_eq_left_iff]
          intro hcon
          exfalso
          refine hcon fun a hea => ?_
          rcases hle hea with rfl | hlt
          · exact absurd (hu ▸ hea) hne
          · exact hlt
        exact hne (hh ▸ hnew)
      · exact hh
    · exact .inl hrest
  · exact .inr (Advertiser.deliver_keeps hheld (le_refl _))

theorem Expiring.send (h : Expiring s e) : Expiring (s.send ⟨url, e, true⟩) e where
  newest := h.newest.send
  expired := h.expired
  own p hp hw := by
    rcases Lib.mem_snoc.mp hp with hp | rfl
    · exact h.own p hp hw
    · cases hw
  key := h.key
  stored := h.stored

theorem Reached.send {answered rest} (h : Reached s e answered rest) :
    Reached (s.send ⟨url, e, true⟩) e answered rest := by
  intro ha p hp hw
  rcases Lib.mem_snoc.mp hp with hp | rfl
  · exact h ha p hp hw
  · cases hw

theorem AdvertInv.noted {answer answered} (h : AdvertInv es s)
    (hdown : Completed (es ++ [.withdrew answer answered].map (fun e => (some n, e))) → Down s) :
    AdvertInv (es ++ [.withdrew answer answered].map (fun e => (some n, e))) s := by
  refine { h with stands := fun m hm => h.stands m ?_, down := hdown }
  rw [mark_append] at hm
  simp only [List.map_cons, List.map_nil, List.foldl_cons, List.foldl_nil] at hm
  unfold markStep at hm
  split at hm <;> simp_all
  split at hm <;> simp_all

theorem WithdrawPhase.resume_inv {reason lost} {phase : WithdrawPhase} {next} (hi : AdvertInv es s)
    (h : phase.Holds es s n) (hcov : phase = .relayStates → Covered s)
    (hr : phase.resume s reason lost x = some (s', next, out)) : Leads es n s' next out := by
  have hfail : ∀ {t e}, fail t e = some (s', next, out) → AdvertInv es t → Leads es n s' next out :=
    fun hf ht => .ends hf ht fun _ _ => rfl
  have hsuperseded : ∀ {answered}, s.row.withdrawnAt.isNone = true → WithdrawPhase.Holds es s n (.load answered) := by
    intro answered hw _ hm
    have := hi.stands n hm
    simp_all
  unfold resume at hr
  split at hr
  · exact hfail hr hi
  cases phase with
  | was | lock => exact .goto hr hi trivial
  | intent =>
    cases hr
    refine ⟨hi.row (fun ha => ha) (fun m _ => by simp) fun hc => hi.down (hc.before (by simp [AdvertEvent.completes])),
      fun call hn => ?_⟩
    cases hn
    trivial
  | relayStates =>
    exact .goto hr hi fun p hp hw => ((List.perm_insertionSort _ _).map _).mem_iff.mpr (hcov rfl p hp hw)
  | stored urls =>
    dsimp only at hr
    split at hr
    · rename_i hw
      exact .goto hr hi (hsuperseded hw)
    split at hr
    · rename_i hkey
      simp only [Bool.and_eq_true] at hkey
      exact .goto hr hi ⟨h, hkey⟩
    rename_i hkey
    refine .goto hr hi ?_
    by_contra hne
    obtain ⟨had, hk⟩ := hi.published hne
    simp [had, hk] at hkey
  | pace urls =>
    dsimp only at hr
    split at hr
    · exact .goto hr hi trivial
    obtain ⟨t, ht, hr⟩ := Option.bind_eq_some_iff.mp hr
    obtain ⟨hi', hfresh⟩ := hi.paced_next ht
    split at hr
    · exact hfail hr hi'
    obtain ⟨-, rfl⟩ := Advertiser.nextTimestamp_eq ht
    refine .goto hr hi' ⟨⟨⟨rfl, le_refl _, ?_⟩, le_refl _, ?_, h.2.1, h.2.2⟩, ?_⟩
    · exact fun p hp => .inr (hfresh.sent p hp)
    · exact fun p hp _ => hfresh.sent p hp
    · exact fun _ p hp hw => .inl (h.1 p hp hw)
  | paceFailed error => exact hfail hr (hi.persistPublicationStatus _ _)
  | relay expired answered rest =>
    cases rest with
    | nil =>
      refine .goto hr hi ?_
      cases expired with
      | none =>
        intro _ _ p hp
        rw [show s.sent = [] from h] at hp
        cases hp
      | some e => exact fun ha _ => h.2.down h.1 ha
    | cons url rest =>
      dsimp only at hr
      split at hr
      · rename_i hw
        exact .goto hr hi (hsuperseded hw)
      cases expired with
      | none => exact .goto hr hi h
      | some e =>
        obtain ⟨he, hreach⟩ := h
        exact .goto hr (hi.send he.newest he.key he.stored (fun _ => he.expired) (.inl rfl))
          ⟨he.send, hreach.send, List.mem_append_right _ List.mem_cons_self⟩
  | withdrawing e answered url rest =>
    obtain ⟨he, hreach, hmem⟩ := h
    dsimp only at hr
    split at hr
    · refine .goto hr (hi.deliver hmem) ⟨?_, hreach.deliver he hi⟩
      exact ⟨⟨he.newest.last, he.newest.past, he.newest.sent⟩, he.expired, he.own, he.key, he.stored⟩
    · exact .goto hr hi ⟨he, fun ha => nomatch ha⟩
  | recording expired answered url error rest =>
    refine .goto hr (hi.upsertRelayState _ _) ?_
    cases expired with
    | none => exact h
    | some e =>
      exact ⟨⟨⟨h.1.newest.last, h.1.newest.past, h.1.newest.sent⟩, h.1.expired, h.1.own, h.1.key, h.1.stored⟩, h.2⟩
  | load answered =>
    cases hr
    refine ⟨hi.noted fun hc => ?_, fun call hn => ?_⟩
    · -- a withdrawal that completes here is this one
      obtain ⟨m, hm⟩ := hc
      by_cases hold : Completed es
      · exact hi.down hold
      have hnot : mark m es ≠ some true := fun hm' => hold ⟨m, hm'⟩
      cases answered with
      | false => exact absurd (by simpa [mark_append, markStep] using hm) hnot
      | true =>
        simp only [List.map_cons, List.map_nil, mark_append, List.foldl_cons, List.foldl_nil, markStep,
          Option.some.injEq] at hm
        split at hm
        · rename_i hmn
          refine h rfl ?_
          obtain ⟨b, hb, -⟩ := Option.map_eq_some_iff.mp hm
          rw [hmn, hb]
          rfl
        · exact absurd hm hnot
    · obtain ⟨reason', -, rfl⟩ := Option.map_eq_some_iff.mp hn
      trivial

end

end Manifold.Liquidity
