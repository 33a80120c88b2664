import CircuitTrace.Proofs.Search.Enumeration
import CircuitTrace.Proofs.Search.StagedWalk

namespace CircuitTrace

/-- No vertex comes twice, except that a path may end where it starts. -/
def IsSimple (path : List VertexId) : Prop :=
  ∀ i j (_ : i < j) (_ : j < path.length), path[i] = path[j] → i = 0 ∧ j + 1 = path.length

theorem isSimple_iff {path : List VertexId} :
    IsSimple path ↔ path.dropLast.Nodup ∧ path.tail.Nodup := by
  unfold List.Nodup
  rw [List.pairwise_iff_getElem, List.pairwise_iff_getElem]
  simp only [List.length_dropLast, List.length_tail, List.getElem_dropLast, List.getElem_tail]
  constructor
  · intro h
    -- Two equal vertices would be the two ends, of which each of the lists lacks one.
    refine ⟨fun i j hi hj hij he => ?_, fun i j hi hj hij he => ?_⟩
    · have := h i j hij (by omega) he
      omega
    · have := h (i + 1) (j + 1) (by omega) (by omega) he
      omega
  · rintro ⟨hinit, htail⟩ i j hij hj he
    constructor
    · by_contra hi
      apply htail (i - 1) (j - 1) (by omega) (by omega) (by omega)
      have hi' : i - 1 + 1 = i := by omega
      have hj' : j - 1 + 1 = j := by omega
      simpa only [hi', hj'] using he
    · by_contra hend
      exact hinit i j (by omega) (by omega) hij he

theorem isSimple_append_singleton {path : List VertexId} (hne : path ≠ []) (hpath : path.Nodup)
    (w : VertexId) : IsSimple (path ++ [w]) ↔ w ∉ path.tail := by
  rw [isSimple_iff, List.dropLast_concat, List.tail_append_of_ne_nil hne, List.nodup_append]
  have htail := hpath.sublist (List.tail_sublist path)
  constructor
  · rintro ⟨-, -, -, h⟩ hw
    exact h w hw w (List.mem_singleton_self w) rfl
  · intro h
    refine ⟨hpath, htail, List.nodup_singleton w, ?_⟩
    rintro u hu v hv rfl
    exact h (List.mem_singleton.mp hv ▸ hu)

theorem IsSimple.nodup_tail {v : VertexId} {ws : List VertexId} (h : IsSimple (v :: ws)) :
    ws.Nodup :=
  (isSimple_iff.mp h).2

theorem IsSimple.nodup_of_append {path ws : List VertexId} (h : IsSimple (path ++ ws))
    (hne : ws ≠ []) : path.Nodup := by
  rw [isSimple_iff, List.dropLast_append_of_ne_nil hne] at h
  exact (List.nodup_append.mp h.1).1

theorem IsSimple.of_append {before path : List VertexId} (h : IsSimple (before ++ path)) :
    IsSimple path := by
  intro i j hij hj he
  obtain ⟨hi, hend⟩ := h (before.length + i) (before.length + j) (by omega) (by simpa)
    (by simpa using he)
  rw [List.length_append] at hend
  omega

theorem IsSimple.of_nodup {path : List VertexId} (h : path.Nodup) : IsSimple path :=
  isSimple_iff.mpr ⟨h.sublist (List.dropLast_sublist path), h.sublist (List.tail_sublist path)⟩

theorem staysSimple_iff {closing : Bool} {path ws : List VertexId} :
    staysSimple closing path ws = true ↔
      ∀ v ∈ if closing && ws.getLast? == path.head? then ws.dropLast else ws, v ∉ path := by
  simp only [staysSimple, List.all_eq_true, Bool.not_eq_true', List.contains_eq_mem,
    decide_eq_false_iff_not]

theorem staysSimple_closing_iff {path ws : List VertexId} (hpath : path.Nodup) (hne : path ≠ [])
    (hws : ws.Nodup) (hws' : ws ≠ []) :
    staysSimple true path ws = true ↔ IsSimple (path ++ ws) := by
  obtain ⟨a, before, rfl⟩ := List.exists_cons_of_ne_nil hne
  obtain ⟨inner, e, rfl⟩ := (List.eq_nil_or_concat ws).resolve_left hws'
  have htail : (a :: before ++ (inner ++ [e])).tail = before ++ (inner ++ [e]) := rfl
  rw [List.concat_eq_append] at hws ⊢
  rw [staysSimple_iff, isSimple_iff, htail, ← List.append_assoc, List.dropLast_concat,
    List.getLast?_concat, List.head?_cons, Bool.true_and, Option.some_beq_some]
  simp only [List.nodup_append, List.nodup_cons] at hpath hws ⊢
  -- Only an extension that comes back to the start has its last vertex exempted.
  by_cases he : e = a
  · rw [if_pos (beq_iff_eq.mpr he), List.dropLast_concat]
    grind
  · rw [if_neg (mt beq_iff_eq.mp he)]
    grind

theorem staysSimple_open_iff {path ws : List VertexId} (hpath : path.Nodup) (hws : ws.Nodup) :
    staysSimple false path ws = true ↔ (path ++ ws).Nodup := by
  rw [staysSimple_iff, List.nodup_append, Bool.false_and, if_neg Bool.false_ne_true]
  grind

namespace Terrain

variable {t : Terrain} {origin : VertexId} {targets : List VertexId} {stages : Stages}

theorem mem_tail_reverse_iff {path : List VertexId} (hpath : path.Nodup)
    (ho : path.getLast? = some origin) (w : VertexId) :
    w ∈ path.reverse.tail ↔ w ∈ path ∧ w ≠ origin := by
  rw [← List.head?_reverse] at ho
  have hrev : path.reverse = origin :: path.reverse.tail := List.eq_cons_of_mem_head? ho
  have hnot : origin ∉ path.reverse.tail := by
    have hnodup := List.nodup_reverse.mpr hpath
    rw [hrev] at hnodup
    exact (List.nodup_cons.mp hnodup).1
  have hmem : w ∈ path ↔ w ∈ path.reverse := List.mem_reverse.symm
  rw [hmem, hrev, List.tail_cons, List.mem_cons]
  constructor
  · exact fun h => ⟨.inr h, fun he => hnot (he ▸ h)⟩
  · exact fun h => h.1.resolve_left h.2

theorem mem_findsAt_iff {further : List VertexId → List (Option (List VertexId))}
    {path p : List VertexId} {w : VertexId} (hpath : path.Nodup)
    (ho : path.getLast? = some origin)
    (hfurther : w ∉ path → (some p ∈ further (w :: path) ↔
      ∃ ws, p = (w :: path).reverse ++ ws ∧ t.Course [targets] false w ws ∧ IsSimple p)) :
    some p ∈ findsAt origin targets none further path w ↔
      ∃ ws, p = path.reverse ++ w :: ws ∧ IsSimple p ∧
        (w ∈ targets ∧ ws = [] ∨ w ∉ targets ∧ t.Course [targets] false w ws) := by
  have hrev : path.reverse.Nodup := List.nodup_reverse.mpr hpath
  have hne : path.reverse ≠ [] := by
    rintro h
    rw [List.reverse_eq_nil_iff.mp h] at ho
    cases ho
  have hdepth : exceeds none path.length ≠ true := Bool.false_ne_true
  unfold findsAt
  rw [if_neg hdepth]
  by_cases ht : w ∈ targets
  · have hsimple := isSimple_append_singleton hne hrev w
    rw [mem_tail_reverse_iff hpath ho] at hsimple
    simp only [ht, true_and, not_true, false_and, or_false, if_true]
    split_ifs with hw
    · constructor
      · intro h
        cases h
      · rintro ⟨_, rfl, hp, rfl⟩
        exact absurd hw (hsimple.mp hp)
    · rw [List.mem_singleton, Option.some.injEq]
      constructor
      · rintro rfl
        exact ⟨[], rfl, hsimple.mpr hw, rfl⟩
      · rintro ⟨_, rfl, -, rfl⟩
        rfl
  · simp only [ht, false_and, not_false_eq_true, and_true, true_and, false_or, if_false]
    split_ifs with hw
    · constructor
      · intro h
        cases h
      · -- A walk that goes on from here repeats this vertex before its end.
        rintro ⟨ws, rfl, hp, hc⟩
        rw [List.append_cons] at hp
        have hnodup := hp.nodup_of_append (hc.ne_nil (List.cons_ne_nil _ _))
        have := (List.nodup_append.mp hnodup).2.2 w (List.mem_reverse.mpr hw) w (by simp)
        exact absurd rfl this
    · rw [hfurther hw]
      apply exists_congr
      intro ws
      rw [List.reverse_cons, List.append_assoc, List.singleton_append, and_comm (a := IsSimple p)]

/-- What holds of a path that an exploration takes up: it repeats no vertex, and there is fuel for
all vertices that may still come. -/
structure Fueled (t : Terrain) (fuel : Nat) (path : List VertexId) : Prop where
  nodup : path.Nodup
  lt_size : ∀ u ∈ path.dropLast, u < t.graph.size
  size_le : t.graph.size + 2 ≤ fuel + path.length

theorem fueled_singleton (t : Terrain) (v : VertexId) : t.Fueled (t.graph.size + 1) [v] where
  nodup := List.nodup_singleton v
  lt_size := by simp
  size_le := Nat.le_refl _

theorem Fueled.ne_zero {fuel : Nat} {path : List VertexId} (h : t.Fueled fuel path) : fuel ≠ 0 := by
  have hsub : path.dropLast ⊆ List.range t.graph.size :=
    fun u hu => List.mem_range.mpr (h.lt_size u hu)
  have hle := ((h.nodup.sublist (List.dropLast_sublist _)).subperm hsub).length_le
  rw [List.length_dropLast, List.length_range] at hle
  have hsize := h.size_le
  omega

theorem Fueled.cons (hg : t.graph.WellFormed) {fuel : Nat} {v w : VertexId}
    {before : List VertexId} (h : t.Fueled (fuel + 1) (v :: before)) (hw : w ∈ t.onward v)
    (hnew : w ∉ v :: before) : t.Fueled fuel (w :: v :: before) where
  nodup := List.nodup_cons.mpr ⟨hnew, h.nodup⟩
  lt_size := by
    rw [List.dropLast_cons_cons]
    exact List.forall_mem_cons.mpr ⟨hg.lt_size _ _ _ (mem_onward.mp hw).1, h.lt_size⟩
  size_le := by
    have hsize := h.size_le
    rw [List.length_cons]
    omega

/-- What is found from a path are the simple walks that go on from it and end at their first meeting
with the targets. -/
theorem mem_finds_iff (hg : t.graph.WellFormed) {fuel : Nat} {v : VertexId}
    {before p : List VertexId} (hpath : t.Fueled fuel (v :: before))
    (ho : (v :: before).getLast? = some origin) :
    some p ∈ t.finds origin targets none fuel (v :: before) ↔
      ∃ ws, p = (v :: before).reverse ++ ws ∧
        t.Course [targets] ((v :: before).length == 1) v ws ∧ IsSimple p := by
  induction fuel generalizing v before with
  | zero => exact absurd rfl hpath.ne_zero
  | succ fuel ih =>
    have hstep : ∀ w ∈ t.onward v, (some p ∈ findsAt origin targets none
        (t.finds origin targets none fuel) (v :: before) w ↔
          ∃ ws, p = (v :: before).reverse ++ w :: ws ∧ IsSimple p ∧
            (w ∈ targets ∧ ws = [] ∨ w ∉ targets ∧ t.Course [targets] false w ws)) := by
      intro w hw
      apply mem_findsAt_iff hpath.nodup ho
      intro hnew
      have hone : ((w :: v :: before).length == 1) = false := rfl
      rw [← hone]
      exact ih (hpath.cons hg hw hnew) ho
    rw [finds_cons]
    constructor
    · intro h
      split_ifs at h with hl
      · obtain ⟨w, hw, h⟩ := List.mem_flatMap.mp h
        obtain ⟨ws, rfl, hp, hc⟩ := (hstep w hw).mp h
        refine ⟨w :: ws, rfl, course_cons_iff.mpr ⟨hl, hw, ?_⟩, hp⟩
        rwa [course_nil_left]
      · cases h
    · rintro ⟨ws, rfl, hc, hp⟩
      obtain ⟨w, ws, rfl⟩ := List.exists_cons_of_ne_nil (hc.ne_nil (List.cons_ne_nil _ _))
      obtain ⟨hl, hw, hc⟩ := course_cons_iff.mp hc
      rw [course_nil_left] at hc
      rw [if_pos hl]
      exact List.mem_flatMap.mpr ⟨w, hw, (hstep w hw).mpr ⟨ws, rfl, hp, hc⟩⟩

theorem mem_allSegments_iff (hg : t.graph.WellFormed) {p : List VertexId} :
    p ∈ t.allSegments targets origin ↔
      ∃ ws, p = origin :: ws ∧ t.Course [targets] true origin ws ∧ IsSimple p := by
  rw [allSegments, List.reduceOption_mem_iff]
  exact mem_finds_iff hg (t.fueled_singleton origin) rfl

/-- A course meets the first stage, and another one goes on from there through the rest. -/
theorem course_cons_stages_iff {fresh : Bool} {v : VertexId} {ws : List VertexId} :
    t.Course (targets :: stages) fresh v ws ↔ ∃ us e vs, us.getLast? = some e ∧ ws = us ++ vs ∧
      t.Course [targets] fresh v us ∧ t.Course stages true e vs := by
  induction ws generalizing fresh v with
  | nil =>
    apply iff_of_false fun h => h.ne_nil (List.cons_ne_nil _ _) rfl
    rintro ⟨us, e, vs, he, hws, -⟩
    rw [(List.append_eq_nil_iff.mp hws.symm).1] at he
    cases he
  | cons w ws ih =>
    rw [course_cons_iff, ih]
    constructor
    · rintro ⟨hl, hw, ⟨hm, hc⟩ | ⟨hm, us, e, vs, he, rfl, hu, hc⟩⟩
      · exact ⟨[w], w, ws, rfl, rfl, .meet hl hw hm .done, hc⟩
      · refine ⟨w :: us, e, vs, ?_, rfl, .pass hl hw hm hu, hc⟩
        rw [List.getLast?_cons, he, Option.getD_some]
    · rintro ⟨us, e, vs, he, hws, hu, hc⟩
      obtain ⟨u, us, rfl⟩ := List.exists_cons_of_ne_nil (hu.ne_nil (List.cons_ne_nil _ _))
      obtain ⟨rfl, rfl⟩ := List.cons.inj hws
      obtain ⟨hl, hw, ⟨hm, hu⟩ | ⟨hm, hu⟩⟩ := course_cons_iff.mp hu
      · obtain rfl := course_nil_left.mp hu
        obtain rfl := Option.some.inj he
        exact ⟨hl, hw, .inl ⟨hm, hc⟩⟩
      · rw [List.getLast?_cons_of_ne_nil (hu.ne_nil (List.cons_ne_nil _ _))] at he
        exact ⟨hl, hw, .inr ⟨hm, us, e, vs, he, rfl, hu, hc⟩⟩

theorem mem_routes_iff (hg : t.graph.WellFormed) (hstages : stages ≠ []) {path q : List VertexId}
    {v : VertexId} (hpath : path.Nodup) (hv : path.getLast? = some v) :
    q ∈ routes t.allSegments stages path ↔
      ∃ ws, q = path ++ ws ∧ t.Course stages true v ws ∧ IsSimple q := by
  induction stages generalizing path v with
  | nil => exact absurd rfl hstages
  | cons targets stages ih =>
    have hne : path ≠ [] := by
      rintro rfl
      cases hv
    obtain ⟨c, hlast⟩ := List.getLast?_eq_some_iff.mp hv
    -- A leg that keeps the path simple is a simple walk itself.
    have hleg : ∀ us, IsSimple (path ++ us) → IsSimple (v :: us) := by
      intro us hs
      rw [hlast, List.append_assoc] at hs
      exact hs.of_append
    rw [routes_cons hv]
    -- The path may be closed on the last leg only, since a closed path cannot go on.
    cases stages with
    | nil =>
      constructor
      · intro h
        obtain ⟨walk, hwalk, h⟩ := List.mem_flatMap.mp h
        obtain ⟨us, rfl, hc, hs⟩ := (mem_allSegments_iff hg).mp hwalk
        split_ifs at h with hstay
        · have hus := hc.ne_nil (List.cons_ne_nil _ _)
          rw [routes, List.mem_singleton] at h
          have hq := (staysSimple_closing_iff hpath hne hs.nodup_tail hus).mp hstay
          exact ⟨us, h, hc, h ▸ hq⟩
        · cases h
      · rintro ⟨us, rfl, hc, hs⟩
        have hus := hc.ne_nil (List.cons_ne_nil _ _)
        have hwalk := (mem_allSegments_iff hg).mpr ⟨us, rfl, hc, hleg us hs⟩
        have hstay := (staysSimple_closing_iff hpath hne (hleg us hs).nodup_tail hus).mpr hs
        refine List.mem_flatMap.mpr ⟨v :: us, hwalk, ?_⟩
        rw [List.tail_cons, List.isEmpty_nil, if_pos hstay]
        exact List.mem_singleton_self _
    | cons next stages =>
      have hnext : next :: stages ≠ [] := List.cons_ne_nil next stages
      constructor
      · intro h
        obtain ⟨walk, hwalk, h⟩ := List.mem_flatMap.mp h
        obtain ⟨us, rfl, hc, hs⟩ := (mem_allSegments_iff hg).mp hwalk
        have hus := hc.ne_nil (List.cons_ne_nil _ _)
        have he := List.getLast?_eq_some_getLast hus
        have he' : (path ++ us).getLast? = some (us.getLast hus) := by
          rw [List.getLast?_append_of_ne_nil _ hus, he]
        split_ifs at h with hstay
        · have hnodup := (staysSimple_open_iff hpath hs.nodup_tail).mp hstay
          obtain ⟨vs, rfl, hcs, hq⟩ := (ih hnext hnodup he').mp h
          refine ⟨us ++ vs, List.append_assoc _ _ _, ?_, hq⟩
          exact course_cons_stages_iff.mpr ⟨us, _, vs, he, rfl, hc, hcs⟩
        · cases h
      · rintro ⟨ws, rfl, hc, hs⟩
        obtain ⟨us, e, vs, he, rfl, hu, hcs⟩ := course_cons_stages_iff.mp hc
        have hs' := hs
        rw [← List.append_assoc] at hs'
        have hnodup := hs'.nodup_of_append (hcs.ne_nil hnext)
        have hwalk := (mem_allSegments_iff hg).mpr ⟨us, rfl, hu, hleg us (.of_nodup hnodup)⟩
        have hstay := (staysSimple_open_iff hpath (List.nodup_append.mp hnodup).2.1).mpr hnodup
        have he' : (path ++ us).getLast? = some e := by
          rw [List.getLast?_append_of_ne_nil _ (hu.ne_nil (List.cons_ne_nil _ _)), he]
        refine List.mem_flatMap.mpr ⟨v :: us, hwalk, ?_⟩
        rw [List.tail_cons, List.isEmpty_cons, if_pos hstay]
        exact (ih hnext hnodup he').mpr ⟨vs, (List.append_assoc _ _ _).symm, hcs, hs⟩

theorem mem_enumerate_unbounded_iff (hg : t.graph.WellFormed) (hstages : stages ≠ [])
    {starts q : List VertexId} : q ∈ (t.enumerate .unbounded stages starts).paths ↔
      (∃ v ∈ starts, ∃ ws, q = v :: ws ∧ t.Course stages true v ws) ∧ IsSimple q := by
  rw [enumerate_unbounded, List.mem_flatMap]
  constructor
  · rintro ⟨v, hv, hq⟩
    obtain ⟨ws, rfl, hc, hs⟩ := (mem_routes_iff hg hstages (List.nodup_singleton v) rfl).mp hq
    exact ⟨⟨v, hv, ws, rfl, hc⟩, hs⟩
  · rintro ⟨⟨v, hv, ws, rfl, hc⟩, hs⟩
    exact ⟨v, hv, (mem_routes_iff hg hstages (List.nodup_singleton v) rfl).mpr ⟨ws, rfl, hc, hs⟩⟩

end Terrain

end CircuitTrace
