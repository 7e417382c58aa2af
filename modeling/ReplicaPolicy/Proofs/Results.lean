import Mathlib.Data.List.Forall2
import ReplicaPolicy.Fault

set_option relaxedAutoImplicit false
set_option autoImplicit false

/-!
# Results and complaints

Much is computed up to the first complaint. These lemmas say when there is none, and which one it
is, without the monad.

## Main results

* `ReplicaPolicy.except_map_eq_ok_iff`, `except_bind_eq_ok_iff` — a step and its continuation.
* `ReplicaPolicy.mapM_eq_ok_iff`, `exists_mapM_eq_ok_iff` — a list is gone through member by member.
* `ReplicaPolicy.mapM_eq_map_mapM` — results that are changed in one way give one that is.
* `ReplicaPolicy.mapM_append_eq_ok_iff` — joined lists are gone through one after the other.
* `ReplicaPolicy.mapM_eq_error_iff` — the complaint is the first one about a member.
-/

namespace ReplicaPolicy

variable {α β : Type}

/-- A result that is changed on success comes from a success. -/
lemma except_map_eq_ok_iff {f : α → β} {x : Except Fault α} {b : β} :
    x.map f = .ok b ↔ ∃ a, x = .ok a ∧ f a = b := by
  cases x <;> simp [Except.map]

/-- A result that is continued comes from a success and from that of its continuation. -/
lemma except_bind_eq_ok_iff {f : α → Except Fault β} {x : Except Fault α} {b : β} :
    x >>= f = .ok b ↔ ∃ a, x = .ok a ∧ f a = .ok b := by
  cases x <;> simp [bind, Except.bind]

/-- A complaint is not changed with the result. -/
lemma except_map_eq_error_iff {f : α → β} {x : Except Fault α} {fault : Fault} :
    x.map f = .error fault ↔ x = .error fault := by
  cases x <;> simp [Except.map]

/-- What is no complaint is a result. -/
lemma exists_of_isOk {x : Except Fault α} (h : x.isOk = true) : ∃ a, x = .ok a := by
  cases x with
  | error fault => exact absurd h (by simp [Except.isOk, Except.toBool])
  | ok a => exact ⟨a, rfl⟩

/-- A success is what is left when complaints are dropped. -/
lemma except_toOption_eq_some_iff {x : Except Fault α} {a : α} :
    x.toOption = some a ↔ x = .ok a := by
  cases x <;> simp [Except.toOption]

/-- A list is gone through without complaint exactly when each of its members is.

**Proof sketch.** Induction on the list. The first complaint, at its head or in its tail, would
be the result. -/
lemma mapM_eq_ok_iff {f : α → Except Fault β} {l : List α} {bs : List β} :
    l.mapM f = .ok bs ↔ List.Forall₂ (fun a b => f a = .ok b) l bs := by
  induction l generalizing bs with
  | nil =>
    rw [List.mapM_nil, List.forall₂_nil_left_iff]
    exact ⟨fun h => (Except.ok.inj h).symm, fun h => by rw [h]; rfl⟩
  | cons a l ih =>
    rw [List.mapM_cons, List.forall₂_cons_left_iff]
    simp only [← ih]
    cases ha : f a with
    | error fault => simp [bind, Except.bind]
    | ok b =>
      cases hl : l.mapM f with
      | error fault => simp [bind, Except.bind]
      | ok bs' => simp [bind, Except.bind, pure, Except.pure, eq_comm]

/-- A list is gone through without complaint exactly when there is none about any member. -/
lemma exists_mapM_eq_ok_iff {f : α → Except Fault β} {l : List α} :
    (∃ bs, l.mapM f = .ok bs) ↔ ∀ a ∈ l, ∃ b, f a = .ok b := by
  simp only [mapM_eq_ok_iff]
  induction l with
  | nil => simp
  | cons a l ih =>
    simp only [List.forall₂_cons_left_iff, List.forall_mem_cons, ← ih]
    constructor
    · rintro ⟨_, b, bs, hb, hbs, -⟩
      exact ⟨⟨b, hb⟩, bs, hbs⟩
    · rintro ⟨⟨b, hb⟩, bs, hbs⟩
      exact ⟨b :: bs, b, bs, hb, hbs, rfl⟩

/-- Joined lists are gone through without complaint exactly when both are, one after the other. -/
lemma mapM_append_eq_ok_iff {f : α → Except Fault β} {l l' : List α} {bs : List β} :
    (l ++ l').mapM f = .ok bs ↔
      ∃ front back, l.mapM f = .ok front ∧ l'.mapM f = .ok back ∧ front ++ back = bs := by
  rw [List.mapM_append]
  cases l.mapM f with
  | error fault => simp [bind, Except.bind]
  | ok front => cases l'.mapM f <;> simp [bind, Except.bind, pure, Except.pure]

/-- A list is gone through alike where each of its members gives the same, changed in one way.

**Proof sketch.** Induction on the list. The change lets the first complaint stand. -/
lemma mapM_eq_map_mapM {γ : Type} {f : α → Except Fault β} {f' : α → Except Fault γ} {g : β → γ}
    (h : ∀ a, f' a = (f a).map g) (l : List α) : l.mapM f' = (l.mapM f).map (List.map g) := by
  induction l with
  | nil => rfl
  | cons a l ih =>
    rw [List.mapM_cons, List.mapM_cons, ih, h]
    cases f a with
    | error fault => rfl
    | ok b => cases l.mapM f <;> rfl

/-- A list is gone through alike by functions that agree on its members. -/
lemma mapM_congr {f f' : α → Except Fault β} {l : List α} (h : ∀ a ∈ l, f a = f' a) :
    l.mapM f = l.mapM f' := by
  induction l with
  | nil => rfl
  | cons a l ih =>
    rw [List.forall_mem_cons] at h
    rw [List.mapM_cons, List.mapM_cons, h.1, ih h.2]

/-- **The complaint about a list is the first one about a member.**

**Proof sketch.** Induction on the list. A member without complaint is passed over on both sides. -/
lemma mapM_eq_error_iff {f : α → Except Fault β} {l : List α} {fault : Fault} :
    l.mapM f = .error fault ↔
      ∃ before a after, l = before ++ a :: after ∧ (∀ other ∈ before, ∃ b, f other = .ok b) ∧
        f a = .error fault := by
  induction l with
  | nil => simp [pure, Except.pure]
  | cons a l ih =>
    rw [List.mapM_cons]
    cases ha : f a with
    | error reason =>
      constructor
      · intro h
        simp only [bind, Except.bind, Except.error.injEq] at h
        exact ⟨[], a, l, rfl, by simp, h ▸ ha⟩
      · rintro ⟨before, a', after, hl, hbefore, ha'⟩
        cases before with
        | nil =>
          obtain ⟨rfl, -⟩ := List.cons.inj hl
          obtain rfl := Except.error.inj (ha.symm.trans ha')
          rfl
        | cons other before =>
          obtain ⟨rfl, -⟩ := List.cons.inj hl
          obtain ⟨b, hb⟩ := hbefore a List.mem_cons_self
          exact absurd (ha.symm.trans hb) (by simp)
    | ok b =>
      have hrest : (do let bs ← l.mapM f; pure (b :: bs) : Except Fault (List β)) = .error fault ↔
          l.mapM f = .error fault := by
        cases l.mapM f <;> simp [bind, Except.bind, pure, Except.pure]
      refine hrest.trans (ih.trans ?_)
      constructor
      · rintro ⟨before, a', after, rfl, hbefore, ha'⟩
        exact ⟨a :: before, a', after, rfl, List.forall_mem_cons.2 ⟨⟨b, ha⟩, hbefore⟩, ha'⟩
      · rintro ⟨before, a', after, hl, hbefore, ha'⟩
        cases before with
        | nil =>
          obtain ⟨rfl, -⟩ := List.cons.inj hl
          exact absurd (ha.symm.trans ha') (by simp)
        | cons other before =>
          obtain ⟨rfl, rfl⟩ := List.cons.inj hl
          exact ⟨before, a', after, rfl, (List.forall_mem_cons.1 hbefore).2, ha'⟩

end ReplicaPolicy
