import Manifold.Guardian.Lemmas.SeatCalm
import Manifold.Guardian.Seat.Lifetime

/-!
# The tasks of a daemon
-/

namespace Manifold.Guardian.Seat

open Lib Lib.Routine

abbrev Scan := Task Ans Unit (Except String Unit)

variable {H : Handler Ans World Outside Event} {K : Pact Event World} {P : SeatLoop → History → Prop}
  {S : History → Scan → Prop} {es : List Event} {s : State} {h h' : History} {l l' : LoopTask}

theorem keeps_workTryAsk {χ α : Type} {P : Unit → History → Prop} {v : Work (Except χ α)} (hv : Keeps H K P v) :
    Keeps H K P (Work.tryAsk v) :=
  keeps_bind hv fun r => by
    cases r with
    | ok a => exact keeps_pure
    | error e => exact keeps_throw

/-! ## The loop -/

def LoopSafe (H : Handler Ans World Outside Event) (K : Pact Event World) (P : SeatLoop → History → Prop)
    (h : History) : LoopTask → Prop
  | .opening t => t.Safe H K (fun _ _ => True) (fun _ r h => ∀ m, r = .ok m → P m h) h
  | .running t => t.Safe H K (fun _ _ => True) (fun m _ h => P m h) h
  | .ended => True

theorem LoopSafe.stable (hP : Serves H K P) (hl : LoopSafe H K P h l) (hr : K.rely h h') : LoopSafe H K P h' l := by
  cases l with
  | opening t =>
    exact Task.Safe.stable hl hr (fun _ _ _ _ _ => trivial) fun _ _ _ _ hr hm m he => hP.stable _ _ _ hr (hm m he)
  | running t =>
    exact Task.Safe.stable hl hr (fun _ _ _ _ _ => trivial) fun _ _ _ _ hr hm => hP.stable _ _ _ hr hm
  | ended => trivial

theorem LoopSafe.next (hP : Serves H K P) {c t} (hl : LoopSafe H K P h l) (hs : l.next c t = some l') :
    LoopSafe H K P h l' := by
  unfold LoopTask.next at hs
  split at hs
  · rename_i u m
    split at hs <;> cases hs
    · trivial
    · exact hP.started c m h (hl m rfl)
  · rename_i m
    split at hs <;> cases hs
    exact hP.turn c t m h hl
  · cases hs
    trivial
  · cases hs

theorem resume_safe {μ α : Type} {B Q} {t u : Task Ans μ α} {w w' x out} (ht : t.Safe H K B Q ⟨es, w⟩)
    (hi : K.inv ⟨es, w⟩) (hH : ∀ m e k, t = .await m e k → H e w x = handler e w x)
    (hs : resume w x t = some (u, w', out)) :
    K.guar ⟨es, w⟩ ⟨es ++ out, w'⟩ ∧ K.inv ⟨es ++ out, w'⟩ ∧ u.Safe H K B Q ⟨es ++ out, w'⟩ := by
  cases t with
  | done m a => cases hs
  | await m e k =>
    simp only [resume, Option.map_eq_some_iff] at hs
    obtain ⟨⟨r, w₁, o⟩, hh, he⟩ := hs
    cases he
    exact ht.step hi ((hH m e k rfl).trans hh)

theorem LoopSafe.resume {d d' : Daemon} {w w' x out} (hl : LoopSafe H K P ⟨es, w⟩ d.loop) (hi : K.inv ⟨es, w⟩)
    (hH : ∀ e, d.loop.asking = some e → H e w x = handler e w x) (h : d.resumeLoop w x = some (d', w', out)) :
    ∃ l, d' = { d with loop := l } ∧ K.guar ⟨es, w⟩ ⟨es ++ out, w'⟩ ∧ K.inv ⟨es ++ out, w'⟩ ∧
      LoopSafe H K P ⟨es ++ out, w'⟩ l := by
  unfold Daemon.resumeLoop at h
  split at h
  · rename_i t ht
    rw [ht] at hl hH
    obtain ⟨⟨u, w₁, o⟩, hr, he⟩ := Option.map_eq_some_iff.mp h
    cases he
    exact ⟨.opening u, rfl, resume_safe hl hi (fun m e k he => hH e (by rw [he]; rfl)) hr⟩
  · rename_i t ht
    rw [ht] at hl hH
    obtain ⟨⟨u, w₁, o⟩, hr, he⟩ := Option.map_eq_some_iff.mp h
    cases he
    exact ⟨.running u, rfl, resume_safe hl hi (fun m e k he => hH e (by rw [he]; rfl)) hr⟩
  · cases h

/-! ## Daemons -/

structure Scans (K : Pact Event World) (S : History → Scan → Prop) : Prop where
  stable : ∀ {h h' t}, S h t → K.guar h h' → S h' t
  begins : ∀ h codec facts v, S h (Work.reconcileSeat codec facts v ())
  resumes : ∀ {es w w' x t u out}, K.inv ⟨es, w⟩ → S ⟨es, w⟩ t → resume w x t = some (u, w', out) →
    K.rely ⟨es, w⟩ ⟨es ++ out, w'⟩ ∧ K.inv ⟨es ++ out, w'⟩ ∧ S ⟨es ++ out, w'⟩ u

structure Tasks (H : Handler Ans World Outside Event) (K : Pact Event World) (P : SeatLoop → History → Prop)
    (S : History → Scan → Prop) (es : List Event) (s : State) : Prop where
  inv : K.inv ⟨es, s.world⟩
  loop : ∀ d, s.daemon = some d → LoopSafe H K P ⟨es, s.world⟩ d.loop
  scan : ∀ d t, s.daemon = some d → d.scan = some t → S ⟨es, s.world⟩ t

theorem Tasks.running {d w} (hi : K.inv ⟨es, w⟩) (hl : LoopSafe H K P ⟨es, w⟩ d.loop)
    (ht : ∀ t, d.scan = some t → S ⟨es, w⟩ t) : Tasks H K P S es { s with world := w, daemon := some d } :=
  ⟨hi, fun _ hd => by cases hd; exact hl, fun _ t hd => by cases hd; exact ht t⟩

theorem Tasks.step (hP : Serves H K P) (hS : Scans K S) {a s' out} (hs : Tasks H K P S es s)
    (hopen : ∀ config keys, a = .boot config keys → s.daemon = none →
      LoopSafe H K P ⟨es, s.world⟩ (.opening (openSeat s.world.rows.facts keys ())))
    (hH : ∀ x d e, a = .loop x → s.daemon = some d → d.loop.asking = some e → H e s.world x = handler e s.world x)
    (h : step s a = some (s', out)) : Tasks H K P S (es ++ out) s' := by
  cases a <;> simp only [Seat.step, State.onDaemon, Option.bind_eq_some_iff, Option.map_eq_some_iff] at h
  case boot config keys =>
    split at h <;> cases h
    rw [List.append_nil]
    exact .running hs.inv (hopen config keys rfl ‹_›) nofun
  case crash =>
    cases h
    rw [List.append_nil]
    exact ⟨hs.inv, fun d hd => (by cases hd), fun d t hd => (by cases hd)⟩
  case loop x =>
    obtain ⟨d, hd, ⟨d', w', o⟩, hr, he⟩ := h
    cases he
    obtain ⟨l, rfl, hg, hi, hl⟩ := (hs.loop d hd).resume hs.inv (fun e => hH x d e rfl hd) hr
    exact .running hi hl fun t ht => hS.stable (hs.scan d t hd ht) hg
  case next t =>
    obtain ⟨d, hd, _, ⟨l, hl, he'⟩, he⟩ := h
    cases he'
    cases he
    rw [List.append_nil]
    exact .running hs.inv ((hs.loop d hd).next hP hl) fun t' ht' => hs.scan d t' hd ht'
  case beginScan =>
    obtain ⟨d, hd, r, hr, he⟩ := h
    split at hr <;> cases hr
    cases he
    rw [List.append_nil]
    refine .running hs.inv (hs.loop d hd) fun t ht => ?_
    cases ht
    exact hS.begins _ _ _ _
  case scan x =>
    obtain ⟨d, hd, _, ⟨t, ht, ⟨u, w', o⟩, hr, he'⟩, he⟩ := h
    cases he'
    cases he
    obtain ⟨hg, hi, hu⟩ := hS.resumes hs.inv (hs.scan d t hd ht) hr
    refine .running hi ((hs.loop d hd).stable hP hg) fun t' ht' => ?_
    cases ht'
    exact hu
  case endScan =>
    obtain ⟨d, hd, r, hr, he⟩ := h
    split at hr <;> cases hr
    cases he
    rw [List.append_nil]
    exact .running hs.inv (hs.loop d hd) nofun

end Manifold.Guardian.Seat
