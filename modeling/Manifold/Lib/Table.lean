import Mathlib.Data.List.Nodup
import Mathlib.Data.List.Lemmas
import Mathlib.Algebra.BigOperators.Group.List.Basic
import Mathlib.Algebra.Order.BigOperators.Group.List
import Mathlib.Algebra.Order.Ring.Nat

/-!
# Tables

A table is the list of its rows. A key is a column in which no two rows agree.
-/

namespace Manifold.Lib.Table

variable {α κ : Type}

def update (p : α → Bool) (f : α → α) (t : List α) : List α := t.map (fun r => if p r then f r else r)

def lookup [DecidableEq κ] (key : α → κ) (k : κ) (t : List α) : Option α := t.find? (fun r => key r = k)

def Keyed (key : α → κ) (t : List α) : Prop := (t.map key).Nodup

def total (p : α → Bool) (amount : α → Nat) (t : List α) : Nat := ((t.filter p).map amount).sum

variable {p q : α → Bool} {f : α → α} {t : List α} {key : α → κ}

theorem mem_update {r} : r ∈ update p f t ↔ ∃ r₀ ∈ t, r = if p r₀ then f r₀ else r₀ := by
  unfold update
  rw [List.mem_map]
  exact ⟨fun ⟨r₀, hr₀, he⟩ => ⟨r₀, hr₀, he.symm⟩, fun ⟨r₀, hr₀, he⟩ => ⟨r₀, hr₀, he.symm⟩⟩

theorem update_eq_self (h : ∀ r ∈ t, p r = false) : update p f t = t := by
  induction t with
  | nil => rfl
  | cons r t ih =>
    simp only [List.forall_mem_cons] at h
    simp only [update, List.map_cons, h.1, Bool.false_eq_true, if_false, List.cons.injEq, true_and]
    exact ih h.2

theorem map_update {β : Type} {g : α → β} (h : ∀ r, p r = true → g (f r) = g r) : (update p f t).map g = t.map g := by
  simp only [update, List.map_map]
  refine List.map_congr_left fun r _ => ?_
  by_cases hp : p r = true
  · simp [hp, h r hp]
  · simp [hp]

theorem countP_update (h : ∀ r, p r = true → q (f r) = q r) : (update p f t).countP q = t.countP q := by
  rw [update, List.countP_map]
  refine List.countP_congr fun r _ => ?_
  by_cases hp : p r = true
  · simp [hp, h r hp]
  · simp [hp]

theorem Keyed.update (hk : Keyed key t) (h : ∀ r, p r = true → key (f r) = key r) : Keyed key (update p f t) := by
  unfold Keyed at hk ⊢
  rwa [map_update h]

theorem Keyed.filter (hk : Keyed key t) : Keyed key (t.filter q) :=
  hk.sublist (List.filter_sublist.map key)

theorem Keyed.append {r} (hk : Keyed key t) (h : ∀ r₀ ∈ t, key r₀ ≠ key r) : Keyed key (t ++ [r]) := by
  unfold Keyed at hk ⊢
  rw [List.map_append, List.nodup_append]
  refine ⟨hk, by simp, fun a ha b hb => ?_⟩
  obtain ⟨r₀, hr₀, rfl⟩ := List.mem_map.mp ha
  simp only [List.map_cons, List.map_nil, List.mem_singleton] at hb
  rw [hb]
  exact h r₀ hr₀

theorem Keyed.eq {r₁ r₂} (hk : Keyed key t) (h₁ : r₁ ∈ t) (h₂ : r₂ ∈ t) (he : key r₁ = key r₂) : r₁ = r₂ :=
  List.inj_on_of_nodup_map hk h₁ h₂ he

section lookup

variable [DecidableEq κ] {k : κ}

theorem lookup_mem {r} (h : lookup key k t = some r) : r ∈ t ∧ key r = k :=
  ⟨List.mem_of_find?_eq_some h, by simpa using List.find?_some h⟩

theorem lookup_eq_none : lookup key k t = none ↔ ∀ r ∈ t, key r ≠ k := by
  simp [lookup]

theorem lookup_append_none {s} (h : lookup key k t = none) : lookup key k (t ++ s) = lookup key k s := by
  unfold lookup at h ⊢
  rw [List.find?_append, h, Option.none_or]

theorem lookup_insert {r} (h : lookup key (key r) t = none) : lookup key (key r) (t ++ [r]) = some r := by
  rw [lookup_append_none h]
  simp [lookup]

theorem Keyed.lookup {r} (hk : Keyed key t) (h : r ∈ t) : lookup key (key r) t = some r := by
  cases hl : Table.lookup key (key r) t with
  | none => exact absurd rfl (lookup_eq_none.mp hl r h)
  | some r' =>
    obtain ⟨hm, he⟩ := lookup_mem hl
    rw [hk.eq hm h he]

theorem lookup_update (h : ∀ r, p r = true → key (f r) = key r) :
    lookup key k (update p f t) = (lookup key k t).map (fun r => if p r then f r else r) := by
  induction t with
  | nil => rfl
  | cons r t ih =>
    have hkey : key (if p r then f r else r) = key r := by
      by_cases hp : p r = true
      · simp [hp, h r hp]
      · simp [hp]
    simp only [lookup, update, List.map_cons, List.find?_cons, hkey] at ih ⊢
    split
    · rfl
    · exact ih

end lookup

/-! ## Counts -/

theorem countP_split : t.countP q = t.countP (fun r => p r && q r) + t.countP (fun r => !p r && q r) := by
  induction t with
  | nil => rfl
  | cons r t ih =>
    simp only [List.countP_cons, ih]
    cases p r <;> cases q r <;> simp <;> omega

theorem countP_update_split :
    (update p f t).countP q = t.countP (fun r => p r && q (f r)) + t.countP (fun r => !p r && q r) := by
  induction t with
  | nil => rfl
  | cons r t ih =>
    simp only [update, List.map_cons, List.countP_cons] at ih ⊢
    rw [ih]
    cases p r <;> simp <;> omega

theorem Keyed.countP_lookup [DecidableEq κ] (hk : Keyed key t) (k : κ) :
    t.countP (fun r => decide (key r = k) && q r) = ((Table.lookup key k t).any q).toNat := by
  induction t with
  | nil => rfl
  | cons r t ih =>
    obtain ⟨hr, ht⟩ := List.nodup_cons.mp hk
    rw [List.countP_cons, ih ht]
    by_cases hkey : key r = k
    · have hnone : Table.lookup key k t = none := lookup_eq_none.mpr fun r' hr' he =>
        hr (List.mem_map.mpr ⟨r', hr', he.trans hkey.symm⟩)
      simp only [Table.lookup] at hnone
      cases hq : q r <;> simp [Table.lookup, hkey, hnone, hq]
    · simp [Table.lookup, hkey]

/-! ## Evolution -/

def Evolves (C : α → α → Prop) (N : α → Prop) (t t' : List α) : Prop :=
  ∃ (g : α → α) (new : Option α), t' = t.map g ++ new.toList ∧ (∀ r ∈ t, C r (g r)) ∧ ∀ r ∈ new, N r

section evolves

variable {C : α → α → Prop} {N : α → Prop} {t' : List α}

theorem Evolves.refl (hC : ∀ r, C r r) : Evolves C N t t :=
  ⟨id, none, by simp, fun r _ => hC r, by simp⟩

theorem evolves_row (hC : ∀ r, C r r) (h : ∀ r ∈ t, p r = true → C r (f r)) :
    ∀ r ∈ t, C r (if p r then f r else r) := fun r hr => by
  by_cases hp : p r = true
  · simpa [hp] using h r hr hp
  · simpa [hp] using hC r

theorem Evolves.update (hC : ∀ r, C r r) (h : ∀ r ∈ t, p r = true → C r (f r)) : Evolves C N t (update p f t) :=
  ⟨_, none, by simp [Table.update], evolves_row hC h, by simp⟩

theorem Evolves.update_append {r} (hC : ∀ r, C r r) (h : ∀ r ∈ t, p r = true → C r (f r)) (hr : N r) :
    Evolves C N t (Table.update p f t ++ [r]) :=
  ⟨_, some r, rfl, evolves_row hC h, by simpa using hr⟩

theorem Evolves.append {r} (hC : ∀ r, C r r) (hr : N r) : Evolves C N t (t ++ [r]) :=
  ⟨id, some r, by simp, fun r _ => hC r, by simpa using hr⟩

theorem Evolves.back (h : Evolves C N t t') {r'} (hr : r' ∈ t') : (∃ r ∈ t, C r r') ∨ N r' := by
  obtain ⟨g, new, rfl, hC, hN⟩ := h
  rcases List.mem_append.mp hr with hr | hr
  · obtain ⟨r, hrt, rfl⟩ := List.mem_map.mp hr
    exact .inl ⟨r, hrt, hC r hrt⟩
  · exact .inr (hN r' (Option.mem_toList.mp hr))

theorem Evolves.forth (h : Evolves C N t t') {r} (hr : r ∈ t) : ∃ r' ∈ t', C r r' := by
  obtain ⟨g, new, rfl, hC, hN⟩ := h
  exact ⟨g r, List.mem_append_left _ (List.mem_map_of_mem hr), hC r hr⟩

theorem Evolves.keyed (h : Evolves C N t t') (hk : Keyed key t) (hC : ∀ r r', C r r' → key r' = key r)
    (hN : ∀ r, N r → ∀ r₀ ∈ t, key r₀ ≠ key r) : Keyed key t' := by
  obtain ⟨g, new, rfl, hg, hnew⟩ := h
  have hkeys : (t.map g).map key = t.map key := by
    rw [List.map_map]
    exact List.map_congr_left fun r hr => hC r (g r) (hg r hr)
  have hmap : Keyed key (t.map g) := by rw [Keyed, hkeys]; exact hk
  cases new with
  | none => simpa using hmap
  | some r =>
    refine hmap.append fun r' hr' => ?_
    obtain ⟨r₀, hr₀, rfl⟩ := List.mem_map.mp hr'
    rw [hC r₀ (g r₀) (hg r₀ hr₀)]
    exact hN r (hnew r rfl) r₀ hr₀

section lookup

variable [DecidableEq κ] {k : κ}

theorem Evolves.lookup_back (h : Evolves C N t t') (hk : Keyed key t) (hC : ∀ r r', C r r' → key r' = key r)
    {r'} (hl : lookup key k t' = some r') :
    (∃ r, lookup key k t = some r ∧ C r r') ∨ N r' ∧ key r' = k := by
  obtain ⟨hr', hkey⟩ := lookup_mem hl
  rcases h.back hr' with ⟨r, hr, hc⟩ | hn
  · refine .inl ⟨r, ?_, hc⟩
    rw [← hkey, hC r r' hc]
    exact hk.lookup hr
  · exact .inr ⟨hn, hkey⟩

theorem Evolves.lookup_forth (h : Evolves C N t t') (hk' : Keyed key t') (hC : ∀ r r', C r r' → key r' = key r)
    {r} (hl : lookup key k t = some r) : ∃ r', lookup key k t' = some r' ∧ C r r' := by
  obtain ⟨hr, hkey⟩ := lookup_mem hl
  obtain ⟨r', hr', hc⟩ := h.forth hr
  refine ⟨r', ?_, hc⟩
  rw [← hkey, ← hC r r' hc]
  exact hk'.lookup hr'

end lookup

end evolves

/-! ## Descent -/

/-- Every row stems from a row with the same key, in the same order; rows may be missing. -/
structure Derives (key : α → κ) (C : α → α → Prop) (t t' : List α) : Prop where
  back : ∀ r' ∈ t', ∃ r ∈ t, C r r'
  keys : (t'.map key).Sublist (t.map key)

section derives

variable {C : α → α → Prop} {t' t'' : List α}

theorem Derives.refl (hC : ∀ r, C r r) : Derives key C t t := ⟨fun r hr => ⟨r, hr, hC r⟩, .refl _⟩

theorem Derives.update (hC : ∀ r, C r r) (h : ∀ r ∈ t, p r = true → C r (f r))
    (hkey : ∀ r, p r = true → key (f r) = key r) : Derives key C t (update p f t) := by
  refine ⟨fun r' hr' => ?_, by rw [map_update hkey]⟩
  obtain ⟨r, hr, rfl⟩ := mem_update.mp hr'
  exact ⟨r, hr, evolves_row hC h r hr⟩

theorem Derives.filter (hC : ∀ r, C r r) : Derives key C t (t.filter q) :=
  ⟨fun r hr => ⟨r, List.mem_of_mem_filter hr, hC r⟩, List.filter_sublist.map key⟩

theorem Derives.trans (hC : ∀ a b c, C a b → C b c → C a c) (h₁ : Derives key C t t') (h₂ : Derives key C t' t'') :
    Derives key C t t'' := by
  refine ⟨fun r hr => ?_, h₂.keys.trans h₁.keys⟩
  obtain ⟨r', hr', hc'⟩ := h₂.back r hr
  obtain ⟨r₀, hr₀, hc⟩ := h₁.back r' hr'
  exact ⟨r₀, hr₀, hC r₀ r' r hc hc'⟩

theorem Derives.mono {D} (h : Derives key C t t') (hCD : ∀ r r', C r r' → D r r') : Derives key D t t' := by
  refine ⟨fun r' hr' => ?_, h.keys⟩
  obtain ⟨r, hr, hc⟩ := h.back r' hr'
  exact ⟨r, hr, hCD r r' hc⟩

theorem Derives.keyed (h : Derives key C t t') (hk : Keyed key t) : Keyed key t' := hk.sublist h.keys

end derives

theorem foldl_update [DecidableEq κ] {ks : List κ} (hkey : ∀ r, key (f r) = key r) (hidem : ∀ r, f (f r) = f r) :
    ks.foldl (fun t k => update (fun r => key r == k) f t) t = update (fun r => decide (key r ∈ ks)) f t := by
  induction ks generalizing t with
  | nil => exact (update_eq_self (by simp)).symm
  | cons k ks ih =>
    rw [List.foldl_cons, ih]
    unfold update
    rw [List.map_map]
    refine List.map_congr_left fun r _ => ?_
    by_cases hk : key r = k
    · by_cases hks : k ∈ ks <;> simp [hk, hkey, hidem, hks]
    · simp [hk]

end Manifold.Lib.Table
