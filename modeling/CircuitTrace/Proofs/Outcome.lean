import Mathlib.Data.List.Basic
import Mathlib.Data.List.Forall2

namespace CircuitTrace

theorem findSome?_cons_or {α β : Type} (f : α → Option β) (a : α) (as : List α) :
    (a :: as).findSome? f = (f a).or (as.findSome? f) := by
  rw [List.findSome?_cons]
  cases f a <;> rfl

theorem ok_bind {ε α β : Type} (a : α) (f : α → Except ε β) : (Except.ok a >>= f) = f a := rfl

/-- The computation fails with the failure that is due, or none is due and it succeeds with a result
for which `q` holds. -/
def Reports {ε α : Type} (x : Except ε α) (due : Option ε) (q : α → Prop) : Prop :=
  match x with
  | .ok a => due = none ∧ q a
  | .error e => due = some e

namespace Reports

variable {ε α β : Type} {x : Except ε α} {due due' : Option ε} {q : α → Prop}

theorem ok {a : α} (hdue : due = none) (hq : q a) : Reports (.ok a : Except ε α) due q := ⟨hdue, hq⟩

theorem error {e : ε} (hdue : due = some e) : Reports (.error e : Except ε α) due q := hdue

theorem of_eq (h : Reports x due q) (hdue : due = due') : Reports x due' q := hdue ▸ h

theorem eq_error_iff (h : Reports x due q) (e : ε) : x = .error e ↔ due = some e := by
  cases x with
  | ok a => exact iff_of_false nofun (by rw [h.1]; exact nofun)
  | error e' => rw [show due = some e' from h, Except.error.injEq, Option.some_inj]

theorem exists_ok (h : Reports x due q) (hdue : due = none) : ∃ a, x = .ok a ∧ q a := by
  cases x with
  | ok a => exact ⟨a, rfl, h.2⟩
  | error e => exact absurd (hdue.symm.trans h) nofun

/-- The failures that are due to the steps come in the order of the steps. -/
theorem bind {f : α → Except ε β} {q' : β → Prop} (hx : Reports x due q)
    (hf : ∀ a, due = none → q a → Reports (f a) due' q') : Reports (x >>= f) (due.or due') q' := by
  cases x with
  | ok a =>
    obtain ⟨rfl, hq⟩ := hx
    exact hf a rfl hq
  | error e =>
    obtain rfl : due = some e := hx
    exact .error rfl

theorem bind_ok {f : α → Except ε β} {q' : β → Prop} (hx : Reports x due q)
    (hf : ∀ a, q a → ∃ b, f a = .ok b ∧ q' b) : Reports (x >>= f) due q' := by
  have hlast : ∀ a, due = none → q a → Reports (f a) none q' := by
    intro a _ hq
    obtain ⟨b, hb, hq'⟩ := hf a hq
    exact hb ▸ .ok rfl hq'
  exact (hx.bind hlast).of_eq Option.or_none

theorem mapM {f : α → Except ε β} {due : α → Option ε} {r : α → β → Prop} {as : List α}
    (h : ∀ a ∈ as, Reports (f a) (due a) (r a)) :
    Reports (as.mapM f) (as.findSome? due) (List.Forall₂ r as) := by
  induction as with
  | nil => exact .ok rfl .nil
  | cons a as ih =>
    obtain ⟨ha, has⟩ := List.forall_mem_cons.mp h
    rw [List.mapM_cons, findSome?_cons_or]
    refine ha.bind fun b _ hb => ?_
    exact (ih has).bind_ok fun bs hbs => ⟨_, rfl, .cons hb hbs⟩

end Reports

/-- Both computations succeed, with results in the given relation, or both fail, the second one with
the failure of the first one translated. -/
inductive Mirrors {ε α β : Type} (translate : ε → ε) (r : α → β → Prop) :
    Except ε α → Except ε β → Prop
  | ok {a : α} {b : β} : r a b → Mirrors translate r (.ok a) (.ok b)
  | error {e e' : ε} : translate e = e' → Mirrors translate r (.error e) (.error e')

namespace Mirrors

variable {ε α β γ δ : Type} {translate : ε → ε} {r : α → β → Prop} {q : γ → δ → Prop}

theorem bind {x : Except ε α} {y : Except ε β} (h : Mirrors translate r x y)
    {f : α → Except ε γ} {g : β → Except ε δ}
    (hf : ∀ a b, r a b → Mirrors translate q (f a) (g b)) :
    Mirrors translate q (x >>= f) (y >>= g) := by
  cases h with
  | ok hab => exact hf _ _ hab
  | error he => exact .error he

theorem bind_eq {x y : Except ε α} (h : Mirrors translate Eq x y) {f : α → Except ε γ}
    {g : α → Except ε δ} (hf : ∀ a, Mirrors translate q (f a) (g a)) :
    Mirrors translate q (x >>= f) (y >>= g) :=
  h.bind fun a _ hab => hab ▸ hf a

theorem foldlM {f : γ → α → Except ε γ} {g : δ → β → Except ε δ} (t : α → β) {as : List α}
    (hstep : ∀ a ∈ as, ∀ s s', q s s' → Mirrors translate q (f s a) (g s' (t a))) {s : γ} {s' : δ}
    (hs : q s s') : Mirrors translate q (as.foldlM f s) ((as.map t).foldlM g s') := by
  induction as generalizing s s' with
  | nil => exact .ok hs
  | cons a as ih =>
    obtain ⟨ha, has⟩ := List.forall_mem_cons.mp hstep
    rw [List.map_cons, List.foldlM_cons, List.foldlM_cons]
    exact (ha s s' hs).bind fun _ _ => ih has

theorem mapM {f : α → Except ε γ} {g : β → Except ε γ} (t : α → β) {as : List α}
    (h : ∀ a ∈ as, Mirrors translate Eq (f a) (g (t a))) :
    Mirrors translate Eq (as.mapM f) ((as.map t).mapM g) := by
  induction as with
  | nil => exact .ok rfl
  | cons a as ih =>
    obtain ⟨ha, has⟩ := List.forall_mem_cons.mp h
    rw [List.map_cons, List.mapM_cons, List.mapM_cons]
    exact ha.bind_eq fun _ => (ih has).bind_eq fun _ => .ok rfl

theorem eq_ok_or_eq_error {x y : Except ε α} (h : Mirrors translate Eq x y) :
    (∃ a, x = .ok a ∧ y = .ok a) ∨ ∃ e, x = .error e ∧ y = .error (translate e) := by
  cases h with
  | ok hab => exact .inl ⟨_, rfl, hab ▸ rfl⟩
  | error he => exact .inr ⟨_, rfl, he ▸ rfl⟩

theorem foldlM_self {f : γ → α → Except ε γ} {as : List α}
    (h : ∀ a ∈ as, ∀ s, Mirrors translate Eq (f s a) (f s a)) {s : γ} :
    Mirrors translate Eq (as.foldlM f s) (as.foldlM f s) := by
  have hstep : ∀ a ∈ as, ∀ s s', s = s' → Mirrors translate Eq (f s a) (f s' (id a)) := by
    rintro a ha s _ rfl
    exact h a ha s
  have hfold := foldlM id hstep (rfl : s = s)
  rwa [List.map_id] at hfold

end Mirrors

end CircuitTrace
