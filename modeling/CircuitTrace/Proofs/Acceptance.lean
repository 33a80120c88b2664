import Mathlib.Data.List.Basic

namespace CircuitTrace

theorem foldlM_apply {m : Type → Type} [Monad m] {σ α β : Type} (f : β → α → StateT σ m β)
    (as : List α) (b : β) (s : σ) :
    as.foldlM f b s = as.foldlM (fun (p : β × σ) a => f p.1 a p.2) (b, s) := by
  induction as generalizing b s with
  | nil => rfl
  | cons a as ih =>
    show (f b a s >>= fun p => as.foldlM f p.1 p.2) = _
    rw [List.foldlM_cons]
    exact bind_congr fun p => ih p.1 p.2

/-- The computation succeeds just if `p` holds, and then with a result for which `q` holds. -/
def Accepts {ε α : Type} (x : Except ε α) (p : Prop) (q : α → Prop) : Prop :=
  match x with
  | .ok a => p ∧ q a
  | .error _ => ¬ p

namespace Accepts

variable {ε α β : Type} {x : Except ε α} {p p' : Prop} {q : α → Prop}

theorem ok {a : α} (hp : p) (hq : q a) : Accepts (.ok a : Except ε α) p q := ⟨hp, hq⟩

theorem error {e : ε} (hp : ¬ p) : Accepts (.error e : Except ε α) p q := hp

theorem exists_ok_iff (h : Accepts x p q) : (∃ a, x = .ok a) ↔ p := by
  cases x with
  | ok a => exact iff_of_true ⟨a, rfl⟩ h.1
  | error e => exact iff_of_false (by rintro ⟨_, ⟨⟩⟩) h

theorem of_eq_ok (h : Accepts x p q) {a : α} (hx : x = .ok a) : p ∧ q a := by
  subst hx
  exact h

theorem exists_error_iff (h : Accepts x p q) : (∃ e, x = .error e) ↔ ¬ p := by
  cases x with
  | ok a => exact iff_of_false (by rintro ⟨_, ⟨⟩⟩) (not_not.mpr h.1)
  | error e => exact iff_of_true ⟨e, rfl⟩ h

theorem of_iff (hp : p ↔ p') (h : Accepts x p q) : Accepts x p' q := by
  cases x with
  | ok a => exact ⟨hp.mp h.1, h.2⟩
  | error e => exact mt hp.mpr h

theorem imp {q' : α → Prop} (h : Accepts x p q) (hq : ∀ a, p → q a → q' a) : Accepts x p q' := by
  cases x with
  | ok a => exact ⟨h.1, hq a h.1 h.2⟩
  | error e => exact h

theorem bind {f : α → Except ε β} {q' : β → Prop} (hx : Accepts x p q)
    (hf : ∀ a, p → q a → Accepts (f a) p' q') : Accepts (x >>= f) (p ∧ p') q' := by
  cases x with
  | ok a => exact of_iff (and_iff_right hx.1).symm (hf a hx.1 hx.2)
  | error e => exact fun h => hx h.1

theorem bind_ok {f : α → Except ε β} {q' : β → Prop} (hx : Accepts x p q)
    (hf : ∀ a, p → q a → ∃ b, f a = .ok b ∧ q' b) : Accepts (x >>= f) p q' := by
  have hlast : ∀ a, p → q a → Accepts (f a) True q' := by
    intro a hp hq
    obtain ⟨b, hb, hq'⟩ := hf a hp hq
    exact hb ▸ ok trivial hq'
  exact of_iff (and_iff_left trivial) (hx.bind hlast)

theorem mapM {f : α → Except ε β} {ok : α → Prop} {g : α → β} {as : List α}
    (h : ∀ a ∈ as, Accepts (f a) (ok a) (· = g a)) :
    Accepts (as.mapM f) (∀ a ∈ as, ok a) (· = as.map g) := by
  induction as with
  | nil => exact Accepts.ok (fun _ ha => absurd ha List.not_mem_nil) rfl
  | cons a as ih =>
    obtain ⟨ha, has⟩ := List.forall_mem_cons.mp h
    rw [List.mapM_cons]
    have hrest : ∀ b, b = g a → Accepts (do return b :: (← as.mapM f)) (∀ a ∈ as, ok a)
        (· = (a :: as).map g) := by
      rintro b rfl
      exact (ih has).bind_ok fun _ _ hbs => ⟨_, rfl, hbs ▸ rfl⟩
    exact of_iff List.forall_mem_cons.symm (ha.bind fun b _ hb => hrest b hb)

/-- The condition for a list concerns its elements one after the other: what makes a prefix fail
makes the list fail. The invariant relates the elements met to the state. -/
theorem foldlM {f : β → α → Except ε β} (ok : List α → Prop) (inv : List α → β → Prop)
    {as : List α} {b : β} (hinitial : ∀ l l', ok (l ++ l') → ok l) (hok : ok []) (hinv : inv [] b)
    (hstep : ∀ met a rest b, as = met ++ a :: rest → ok met → inv met b →
      Accepts (f b a) (ok (met ++ [a])) (inv (met ++ [a]))) :
    Accepts (as.foldlM f b) (ok as) (inv as) := by
  suffices h : ∀ rest met b, as = met ++ rest → ok met → inv met b →
      Accepts (rest.foldlM f b) (ok as) (inv as) from h as [] b rfl hok hinv
  intro rest
  induction rest with
  | nil =>
    rintro met b rfl hok hinv
    rw [List.append_nil]
    exact Accepts.ok hok hinv
  | cons a rest ih =>
    intro met b has hok hinv
    have has' : as = (met ++ [a]) ++ rest := by rw [has, List.append_assoc]; rfl
    rw [List.foldlM_cons]
    refine of_iff (and_iff_right_of_imp fun h => hinitial _ rest (has' ▸ h)) ?_
    exact (hstep met a rest b has hok hinv).bind fun b' hok' hinv' =>
      ih (met ++ [a]) b' has' hok' hinv'

/-- Each element must satisfy a condition of its own. -/
theorem foldlM_forall {f : β → α → Except ε β} (ok : α → Prop) (inv : List α → β → Prop)
    {as : List α} {b : β} (hinv : inv [] b)
    (hstep : ∀ met a rest b, as = met ++ a :: rest → inv met b →
      Accepts (f b a) (ok a) (inv (met ++ [a]))) :
    Accepts (as.foldlM f b) (∀ a ∈ as, ok a) (inv as) := by
  apply foldlM fun met => ∀ a ∈ met, ok a
  · exact fun met rest h a ha => h a (List.mem_append_left rest ha)
  · exact fun a ha => absurd ha List.not_mem_nil
  · exact hinv
  · intro met a rest b has hmet hb
    refine of_iff ?_ (hstep met a rest b has hb)
    rw [List.forall_mem_append, List.forall_mem_singleton, and_iff_right hmet]

theorem foldlM_zipIdx {f : β → α × Nat → Except ε β} (ok : List α → Prop)
    (inv : List α → β → Prop) {as : List α} {b : β} (hinitial : ∀ l l', ok (l ++ l') → ok l)
    (hok : ok []) (hinv : inv [] b)
    (hstep : ∀ met a rest b, as = met ++ a :: rest → ok met → inv met b →
      Accepts (f b (a, met.length)) (ok (met ++ [a])) (inv (met ++ [a]))) :
    Accepts (as.zipIdx.foldlM f b) (ok as) (inv as) := by
  have hfold : Accepts (as.zipIdx.foldlM f b) (ok (as.zipIdx.map Prod.fst))
      (inv (as.zipIdx.map Prod.fst)) := by
    refine foldlM (fun met => ok (met.map Prod.fst)) (fun met => inv (met.map Prod.fst))
      (fun l l' h => hinitial _ (l'.map Prod.fst) (List.map_append ▸ h)) hok hinv ?_
    rintro met ⟨a, i⟩ rest b has hok hinv
    have hi : i = met.length := by
      have h : as.zipIdx[met.length]? = some (a, i) := by simp [has]
      rw [List.getElem?_zipIdx, Option.map_eq_some_iff] at h
      obtain ⟨_, -, h⟩ := h
      exact (Prod.mk.inj h).2.symm.trans (Nat.zero_add _)
    have hmet := congrArg (List.map Prod.fst) has
    rw [List.zipIdx_map_fst, List.map_append, List.map_cons] at hmet
    have h := hstep _ _ _ b hmet hok hinv
    rw [List.length_map, ← hi] at h
    rwa [List.map_append, List.map_singleton]
  rwa [List.zipIdx_map_fst] at hfold

end Accepts

end CircuitTrace
