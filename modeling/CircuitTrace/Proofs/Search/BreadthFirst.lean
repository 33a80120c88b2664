import CircuitTrace.Search.BreadthFirst
import Mathlib.Data.Finset.Card
import Mathlib.Data.List.Pairwise

namespace CircuitTrace

namespace Trail

variable {σ : Type}

def length (t : Trail σ) : Nat := t.before.length

@[simp] theorem length_start (s : σ) : (start s).length = 0 := rfl

@[simp] theorem length_step (t : Trail σ) (s : σ) : (t.step s).length = t.length + 1 := rfl

@[simp] theorem state_start (s : σ) : (start s).state = s := rfl

@[simp] theorem state_step (t : Trail σ) (s : σ) : (t.step s).state = s := rfl

@[simp] theorem states_start (s : σ) : (start s).states = [s] := rfl

@[simp] theorem states_step (t : Trail σ) (s : σ) : (t.step s).states = t.states ++ [s] := by
  simp [states, step]

/-- The trails that follow `next` from a seed. -/
inductive Follows (next : σ → List σ) (seeds : List σ) : Trail σ → Prop
  | start {s : σ} : s ∈ seeds → Follows next seeds (start s)
  | step {t : Trail σ} {s : σ} : Follows next seeds t → s ∈ next t.state →
      Follows next seeds (t.step s)

/-- No trail to the same state has fewer steps. -/
def Shortest (next : σ → List σ) (seeds : List σ) (t : Trail σ) : Prop :=
  t.Follows next seeds ∧ ∀ u : Trail σ, u.Follows next seeds → u.state = t.state →
    t.length ≤ u.length

variable {next : σ → List σ} {seeds : List σ}

theorem Shortest.of_step {t : Trail σ} {s : σ} (ht : t.Follows next seeds)
    (hs : s ∈ next t.state) (h : (t.step s).Shortest next seeds) : t.Shortest next seeds := by
  refine ⟨ht, fun u hu he => ?_⟩
  have := h.2 (u.step s) (hu.step (he ▸ hs)) rfl
  simpa using this

theorem exists_shortest {t : Trail σ} (ht : t.Follows next seeds) :
    ∃ u : Trail σ, u.Shortest next seeds ∧ u.state = t.state := by
  induction hn : t.length using Nat.strong_induction_on generalizing t with
  | h n ih =>
    -- A trail that is not shortest gives way to a shorter one to the same state.
    by_cases hs : ∀ u : Trail σ, u.Follows next seeds → u.state = t.state → t.length ≤ u.length
    · exact ⟨t, ⟨ht, hs⟩, rfl⟩
    · push Not at hs
      obtain ⟨u, hu, he, hlt⟩ := hs
      obtain ⟨w, hw, hws⟩ := ih u.length (hn ▸ hlt) hu rfl
      exact ⟨w, hw, hws.trans he⟩

/-- A shortest trail has shortest trails of every smaller length before it. -/
theorem Shortest.exists_length_eq {t : Trail σ} (h : t.Shortest next seeds) {n : Nat}
    (hn : n ≤ t.length) : ∃ u : Trail σ, u.Shortest next seeds ∧ u.length = n := by
  obtain ⟨ht, hmin⟩ := h
  induction ht with
  | start hs => exact ⟨_, ⟨.start hs, hmin⟩, (Nat.le_zero.mp hn).symm⟩
  | @step t s ht hs ih =>
    rcases Nat.lt_or_eq_of_le hn with hlt | rfl
    · have hprev := Shortest.of_step ht hs ⟨ht.step hs, hmin⟩
      exact ih (Nat.lt_succ_iff.mp (by simpa using hlt)) hprev.2
    · exact ⟨_, ⟨ht.step hs, hmin⟩, rfl⟩

end Trail

namespace BreadthFirst

variable {σ : Type} {next : σ → List σ} {seeds : List σ}

theorem mem_extensions {layer : List (Trail σ)} {u : Trail σ} :
    u ∈ extensions next layer ↔ ∃ t ∈ layer, ∃ s ∈ next t.state, u = t.step s := by
  simp only [extensions, List.mem_flatMap, List.mem_map]
  grind

variable [Ord σ]

theorem add_of_mem {f : Front σ} {t : Trail σ} (h : t.state ∈ f.seen) : f.add t = f :=
  if_pos (Std.TreeSet.contains_iff_mem.mpr h)

theorem add_of_notMem {f : Front σ} {t : Trail σ} (h : t.state ∉ f.seen) :
    f.add t = ⟨f.seen.insert t.state, t :: f.trails⟩ :=
  if_neg fun hc => h (Std.TreeSet.contains_iff_mem.mp hc)

theorem layers_cons (fuel : Nat) (seen : Std.TreeSet σ) (t : Trail σ) (ts : List (Trail σ)) :
    layers next (fuel + 1) seen (t :: ts) =
      let front := Front.addAll ⟨seen, []⟩ (extensions next (t :: ts))
      (t :: ts) ++ layers next fuel front.seen front.trails.reverse := rfl

/-- What holds as the search comes to the layer `n`: it consists of shortest trails of `n` steps,
one for each state at that distance, and the states seen are those no farther off. -/
structure Frontier (next : σ → List σ) (seeds : List σ) (n : Nat) (seen : Std.TreeSet σ)
    (layer : List (Trail σ)) : Prop where
  mem_seen : ∀ s, s ∈ seen ↔ ∃ t : Trail σ, t.Follows next seeds ∧ t.state = s ∧ t.length ≤ n
  shortest : ∀ t ∈ layer, t.Shortest next seeds ∧ t.length = n
  covers : ∀ t : Trail σ, t.Shortest next seeds → t.length = n → t.state ∈ layer.map Trail.state
  nodup : (layer.map Trail.state).Nodup

theorem Frontier.mem_step {n : Nat} {seen : Std.TreeSet σ} {layer : List (Trail σ)}
    (h : Frontier next seeds n seen layer) (s : σ) :
    (s ∈ seen ∨ s ∈ (extensions next layer).map Trail.state) ↔
      ∃ t : Trail σ, t.Follows next seeds ∧ t.state = s ∧ t.length ≤ n + 1 := by
  constructor
  · rintro (hs | hs)
    · obtain ⟨t, ht, he, hl⟩ := (h.mem_seen s).mp hs
      exact ⟨t, ht, he, Nat.le_succ_of_le hl⟩
    · obtain ⟨u, hu, rfl⟩ := List.mem_map.mp hs
      obtain ⟨t, ht, s, hnext, rfl⟩ := mem_extensions.mp hu
      obtain ⟨htr, hl⟩ := h.shortest t ht
      exact ⟨_, htr.1.step hnext, rfl, by simp [hl]⟩
  · rintro ⟨t, ht, rfl, hl⟩
    rcases Nat.lt_or_eq_of_le hl with hlt | heq
    · exact .inl ((h.mem_seen _).mpr ⟨t, ht, rfl, Nat.lt_succ_iff.mp hlt⟩)
    cases ht with
    | start _ => simp at heq
    | @step t s ht hs =>
      have hn : t.length = n := by simpa using heq
      -- The trail before the last step is shortest, or its state and so this one come earlier.
      by_cases hmin : ∀ u : Trail σ, u.Follows next seeds → u.state = t.state → n ≤ u.length
      · obtain ⟨u, hu, hue⟩ := List.mem_map.mp (h.covers t ⟨ht, hn ▸ hmin⟩ hn)
        exact .inr (List.mem_map.mpr ⟨u.step s, mem_extensions.mpr ⟨u, hu, s, hue ▸ hs, rfl⟩, rfl⟩)
      · push Not at hmin
        obtain ⟨u, hu, hue, hlt⟩ := hmin
        exact .inl ((h.mem_seen _).mpr ⟨u.step s, hu.step (hue ▸ hs), rfl, hlt⟩)

theorem Frontier.ne_nil {n : Nat} {seen : Std.TreeSet σ} {layer : List (Trail σ)}
    (h : Frontier next seeds n seen layer) {t : Trail σ} (ht : t.Shortest next seeds)
    (hn : n ≤ t.length) : layer ≠ [] := by
  rintro rfl
  obtain ⟨u, hu, hl⟩ := ht.exists_length_eq hn
  simpa using h.covers u hu hl

variable [Std.TransOrd σ] [Std.LawfulEqOrd σ]

theorem mem_seen_addAll (f : Front σ) (ts : List (Trail σ)) (s : σ) :
    s ∈ (f.addAll ts).seen ↔ s ∈ f.seen ∨ s ∈ ts.map Trail.state := by
  induction ts generalizing f with
  | nil => simp [Front.addAll]
  | cons t ts ih =>
    have hc : f.addAll (t :: ts) = (f.add t).addAll ts := rfl
    rw [hc, ih]
    by_cases h : t.state ∈ f.seen
    · rw [add_of_mem h]
      grind
    · rw [add_of_notMem h]
      simp only [Std.TreeSet.mem_insert, Std.LawfulEqCmp.compare_eq_iff_eq, List.map_cons,
        List.mem_cons]
      grind

/-- What is added to a front: trails to states that were not seen, one for each such state. -/
theorem trails_addAll (f : Front σ) (ts : List (Trail σ)) :
    ∃ new : List (Trail σ), (f.addAll ts).trails = new ++ f.trails ∧ new ⊆ ts ∧
      (new.map Trail.state).Nodup ∧
      ∀ s, s ∈ new.map Trail.state ↔ s ∈ ts.map Trail.state ∧ s ∉ f.seen := by
  induction ts generalizing f with
  | nil => exact ⟨[], by simp [Front.addAll]⟩
  | cons t ts ih =>
    -- The first trail to a state puts it among the seen, and so shuts out later ones.
    have hc : f.addAll (t :: ts) = (f.add t).addAll ts := rfl
    obtain ⟨new, hnew, hsub, hnodup, hmem⟩ := ih (f.add t)
    rw [hc, hnew]
    by_cases h : t.state ∈ f.seen
    · rw [add_of_mem h] at hmem ⊢
      refine ⟨new, rfl, List.subset_cons_of_subset t hsub, hnodup, fun s => ?_⟩
      rw [hmem, List.map_cons, List.mem_cons]
      grind
    · rw [add_of_notMem h] at hmem ⊢
      simp only [Std.TreeSet.mem_insert, Std.LawfulEqCmp.compare_eq_iff_eq] at hmem
      refine ⟨new ++ [t], by simp, by grind, ?_, fun s => ?_⟩
      · rw [List.map_append, List.nodup_append]
        refine ⟨hnodup, List.nodup_singleton _, ?_⟩
        grind
      · rw [List.map_append, List.mem_append, hmem]
        grind

theorem frontier_start :
    let front := Front.addAll ⟨∅, []⟩ (seeds.map Trail.start)
    Frontier next seeds 0 front.seen front.trails.reverse := by
  obtain ⟨new, hnew, hsub, hnodup, hmem⟩ := trails_addAll ⟨∅, []⟩ (seeds.map Trail.start)
  have hzero : ∀ t : Trail σ, t.Follows next seeds → t.length = 0 →
      ∃ s ∈ seeds, t = Trail.start s := by
    intro t ht h0
    cases ht with
    | start hs => exact ⟨_, hs, rfl⟩
    | step _ _ => simp at h0
  have hstate : (seeds.map Trail.start).map Trail.state = seeds := by
    rw [List.map_map]; exact List.map_id seeds
  simp only [List.append_nil] at hnew
  constructor
  case mem_seen =>
    intro s
    rw [mem_seen_addAll, hstate]
    constructor
    · rintro (h | h)
      · exact absurd h Std.TreeSet.not_mem_emptyc
      · exact ⟨_, .start h, rfl, Nat.le_refl 0⟩
    · rintro ⟨t, ht, rfl, hl⟩
      obtain ⟨s, hs, rfl⟩ := hzero t ht (Nat.le_zero.mp hl)
      exact .inr hs
  case shortest =>
    intro t ht
    rw [List.mem_reverse, hnew] at ht
    obtain ⟨s, hs, rfl⟩ := List.mem_map.mp (hsub ht)
    exact ⟨⟨.start hs, fun _ _ _ => Nat.zero_le _⟩, rfl⟩
  case covers =>
    intro t ht h0
    obtain ⟨s, hs, rfl⟩ := hzero t ht.1 h0
    rw [hnew, List.map_reverse, List.mem_reverse, hmem, hstate]
    exact ⟨hs, Std.TreeSet.not_mem_emptyc⟩
  case nodup => rw [hnew, List.map_reverse, List.nodup_reverse]; exact hnodup

theorem Frontier.step {n : Nat} {seen : Std.TreeSet σ} {layer : List (Trail σ)}
    (h : Frontier next seeds n seen layer) :
    let front := Front.addAll ⟨seen, []⟩ (extensions next layer)
    Frontier next seeds (n + 1) front.seen front.trails.reverse := by
  obtain ⟨new, hnew, hsub, hnodup, hmem⟩ := trails_addAll ⟨seen, []⟩ (extensions next layer)
  simp only [List.append_nil] at hnew
  constructor
  case mem_seen => intro s; rw [mem_seen_addAll]; exact h.mem_step s
  case shortest =>
    intro t ht
    rw [List.mem_reverse, hnew] at ht
    have hfresh : t.state ∉ seen := ((hmem t.state).mp (List.mem_map_of_mem ht)).2
    obtain ⟨u, hu, s, hs, rfl⟩ := mem_extensions.mp (hsub ht)
    obtain ⟨hul, hn⟩ := h.shortest u hu
    refine ⟨⟨hul.1.step hs, fun w hw he => ?_⟩, by simp [hn]⟩
    -- A trail of no more than `n` steps would have been seen before.
    by_contra hlt
    rw [Trail.length_step, hn, not_le, Nat.lt_succ_iff] at hlt
    exact hfresh ((h.mem_seen _).mpr ⟨w, hw, he, hlt⟩)
  case covers =>
    intro t ht hn
    rw [hnew, List.map_reverse, List.mem_reverse, hmem]
    have hseen : t.state ∉ seen := by
      intro hs
      obtain ⟨u, hu, he, hl⟩ := (h.mem_seen _).mp hs
      have := ht.2 u hu he
      omega
    exact ⟨((h.mem_step _).mpr ⟨t, ht.1, rfl, hn.le⟩).resolve_left hseen, hseen⟩
  case nodup => rw [hnew, List.map_reverse, List.nodup_reverse]; exact hnodup

theorem Frontier.shortest_of_mem_layers {n : Nat} {seen : Std.TreeSet σ} {layer : List (Trail σ)}
    (h : Frontier next seeds n seen layer) (fuel : Nat) :
    ∀ t ∈ layers next fuel seen layer, t.Shortest next seeds ∧ n ≤ t.length := by
  induction fuel generalizing n seen layer with
  | zero => simp [layers]
  | succ fuel ih =>
    cases layer with
    | nil => simp [layers]
    | cons u us =>
      intro t ht
      rw [layers_cons, List.mem_append] at ht
      rcases ht with ht | ht
      · exact ⟨(h.shortest t ht).1, (h.shortest t ht).2.ge⟩
      · have := ih h.step t ht
        exact ⟨this.1, by omega⟩

/-- Each layer that is not empty makes the states not yet seen fewer. -/
theorem card_unseen_lt {U : Finset σ} (hU : ∀ s, ∀ s' ∈ next s, s' ∈ U) (seen : Std.TreeSet σ)
    (layer : List (Trail σ)) :
    let front := Front.addAll ⟨seen, []⟩ (extensions next layer)
    front.trails.reverse ≠ [] → (U.filter (· ∉ front.seen)).card < (U.filter (· ∉ seen)).card := by
  intro front hne
  obtain ⟨new, hnew, hsub, -, hmem⟩ := trails_addAll ⟨seen, []⟩ (extensions next layer)
  obtain ⟨w, hw⟩ := List.exists_mem_of_ne_nil _ hne
  rw [List.mem_reverse, hnew, List.append_nil] at hw
  have hfresh := (hmem w.state).mp (List.mem_map_of_mem hw)
  obtain ⟨t, -, s, hs, rfl⟩ := mem_extensions.mp (hsub hw)
  apply Finset.card_lt_card
  rw [Finset.ssubset_iff_of_subset]
  · refine ⟨s, Finset.mem_filter.mpr ⟨hU _ s hs, hfresh.2⟩, fun hc => ?_⟩
    exact (Finset.mem_filter.mp hc).2 ((mem_seen_addAll _ _ _).mpr (.inr hfresh.1))
  · intro x hx
    obtain ⟨hxU, hxs⟩ := Finset.mem_filter.mp hx
    exact Finset.mem_filter.mpr ⟨hxU, fun hc => hxs ((mem_seen_addAll _ _ _).mpr (.inl hc))⟩

/-- The search goes on until all states are found if those not yet seen lie in a set smaller than
the fuel. -/
theorem Frontier.mem_layers {U : Finset σ} (hU : ∀ s, ∀ s' ∈ next s, s' ∈ U) {n : Nat}
    {seen : Std.TreeSet σ} {layer : List (Trail σ)} (h : Frontier next seeds n seen layer)
    {fuel : Nat} (hfuel : layer ≠ [] → (U.filter (· ∉ seen)).card < fuel) {t : Trail σ}
    (ht : t.Shortest next seeds) (hn : n ≤ t.length) :
    t.state ∈ (layers next fuel seen layer).map Trail.state := by
  induction fuel generalizing n seen layer with
  | zero => exact absurd (hfuel (h.ne_nil ht hn)) (Nat.not_lt_zero _)
  | succ fuel ih =>
    cases layer with
    | nil => exact absurd rfl (h.ne_nil ht hn)
    | cons u us =>
      rw [layers_cons, List.map_append, List.mem_append]
      rcases Nat.eq_or_lt_of_le hn with heq | hlt
      · exact .inl (h.covers t ht heq.symm)
      · right
        apply ih h.step _ hlt
        -- The fuel lasts, since this layer has used up a state not seen before.
        intro hne
        have hcard := hfuel (List.cons_ne_nil u us)
        exact (card_unseen_lt hU seen (u :: us) hne).trans_le (Nat.lt_succ_iff.mp hcard)

theorem Frontier.sorted_layers {n : Nat} {seen : Std.TreeSet σ} {layer : List (Trail σ)}
    (h : Frontier next seeds n seen layer) (fuel : Nat) :
    (layers next fuel seen layer).Pairwise fun t u => t.length ≤ u.length := by
  induction fuel generalizing n seen layer with
  | zero => simp [layers]
  | succ fuel ih =>
    cases layer with
    | nil => simp [layers]
    | cons u us =>
      rw [layers_cons, List.pairwise_append]
      refine ⟨?_, ih h.step, ?_⟩
      · apply List.pairwise_of_forall_mem_list
        intro t ht w hw
        rw [(h.shortest t ht).2, (h.shortest w hw).2]
      · intro t ht w hw
        have hle := (h.step.shortest_of_mem_layers fuel w hw).2
        rw [(h.shortest t ht).2]
        omega

theorem Frontier.nodup_layers {n : Nat} {seen : Std.TreeSet σ} {layer : List (Trail σ)}
    (h : Frontier next seeds n seen layer) (fuel : Nat) :
    ((layers next fuel seen layer).map Trail.state).Nodup := by
  induction fuel generalizing n seen layer with
  | zero => simp [layers]
  | succ fuel ih =>
    cases layer with
    | nil => simp [layers]
    | cons u us =>
      rw [layers_cons, List.map_append, List.nodup_append]
      refine ⟨h.nodup, ih h.step, ?_⟩
      -- A state of this layer is nearer than those of later ones.
      rintro _ ha _ hb rfl
      obtain ⟨t, ht, rfl⟩ := List.mem_map.mp ha
      obtain ⟨w, hw, hwt⟩ := List.mem_map.mp hb
      obtain ⟨hws, hwl⟩ := h.step.shortest_of_mem_layers fuel w hw
      have := hws.2 t (h.shortest t ht).1.1 hwt.symm
      have := (h.shortest t ht).2
      omega

theorem shortest_of_mem_trails {bound : Nat} {t : Trail σ} (ht : t ∈ trails next bound seeds) :
    t.Shortest next seeds :=
  (frontier_start.shortest_of_mem_layers bound t ht).1

/-- Every state that can be reached is found if the bound exceeds the number of states that
follow another. -/
theorem exists_mem_trails {U : Finset σ} (hU : ∀ s, ∀ s' ∈ next s, s' ∈ U) {bound : Nat}
    (hbound : U.card < bound) {t : Trail σ} (ht : t.Follows next seeds) :
    ∃ u ∈ trails next bound seeds, u.state = t.state ∧ u.length ≤ t.length := by
  obtain ⟨w, hw, hws⟩ := Trail.exists_shortest ht
  have hfuel : (U.filter (· ∉ (Front.addAll ⟨∅, []⟩ (seeds.map Trail.start)).seen)).card < bound :=
    (Finset.card_filter_le _ _).trans_lt hbound
  obtain ⟨u, hu, hus⟩ := List.mem_map.mp
    (frontier_start.mem_layers hU (fun _ => hfuel) hw (Nat.zero_le _))
  have hshort := shortest_of_mem_trails hu
  exact ⟨u, hu, hus.trans hws, hshort.2 t ht (hws.symm.trans hus.symm)⟩

theorem sorted_trails (next : σ → List σ) (bound : Nat) (seeds : List σ) :
    (trails next bound seeds).Pairwise fun t u => t.length ≤ u.length :=
  frontier_start.sorted_layers bound

theorem nodup_trails (next : σ → List σ) (bound : Nat) (seeds : List σ) :
    ((trails next bound seeds).map Trail.state).Nodup :=
  frontier_start.nodup_layers bound

end BreadthFirst

end CircuitTrace
