import CircuitTrace.Search.Query
import CircuitTrace.Proofs.Search.Limits
import Mathlib.Data.List.Flatten

namespace CircuitTrace

namespace Terrain

/-- What is found by entering `w` from a path, which is given latest vertex first: nothing if that
repeats a vertex, an omission beyond the depth, the walk that arrives, or what lies further on. -/
def findsAt (origin : VertexId) (targets : List VertexId) (depth : Option Nat)
    (further : List VertexId → List (Option (List VertexId))) (path : List VertexId)
    (w : VertexId) : List (Option (List VertexId)) :=
  if w ∈ path ∧ ¬ (w ∈ targets ∧ w = origin) then []
  else if exceeds depth path.length = true then [none]
  else if w ∈ targets then [some (path.reverse ++ [w])]
  else further (w :: path)

def finds (t : Terrain) (origin : VertexId) (targets : List VertexId) (depth : Option Nat) :
    Nat → List VertexId → List (Option (List VertexId))
  | 0, _ => []
  | _ + 1, [] => []
  | fuel + 1, v :: before =>
    if t.leaves v ((v :: before).length == 1) = true then
      (t.onward v).flatMap
        (findsAt origin targets depth (t.finds origin targets depth fuel) (v :: before))
    else []

def shallow (depth : Option Nat) (walk : List VertexId) : Bool := !exceeds depth (walk.length - 1)

variable {t : Terrain} {origin : VertexId} {targets : List VertexId}

theorem foldl_note_findsAt {limits : Limits} {fuel : Nat}
    (further : List VertexId → List (Option (List VertexId)))
    (hfurther : ∀ path tally, t.explore origin targets limits fuel path tally =
      (further path).foldl (Tally.note limits.paths) tally)
    (path : List VertexId) (w : VertexId) (tally : Tally) :
    (findsAt origin targets limits.depth further path w).foldl (Tally.note limits.paths) tally =
      let arrives := targets.contains w && (!path.contains w || w == origin)
      if tally.closed then tally
      else if !arrives && path.contains w then tally
      else if exceeds limits.depth path.length then tally.cut
      else if arrives then tally.add limits.paths (w :: path).reverse
      else t.explore origin targets limits fuel (w :: path) tally := by
  cases hc : tally.closed with
  | true => rw [Tally.foldl_note_of_closed hc, if_pos rfl]
  | false =>
    unfold findsAt
    by_cases hp : w ∈ path <;> by_cases ht : w ∈ targets <;> by_cases ho : w = origin <;>
      cases hd : exceeds limits.depth path.length <;>
      simp_all

/-- An exploration collects what it finds. -/
theorem explore_eq_foldl (limits : Limits) (fuel : Nat) (path : List VertexId) (tally : Tally) :
    t.explore origin targets limits fuel path tally =
      (t.finds origin targets limits.depth fuel path).foldl (Tally.note limits.paths) tally := by
  induction fuel generalizing path tally with
  | zero => rfl
  | succ fuel ih =>
    cases path with
    | nil => rfl
    | cons v before =>
      unfold explore finds
      simp only
      by_cases hl : t.leaves v ((v :: before).length == 1) = true
      · rw [if_pos hl, if_pos hl, List.foldl_flatMap]
        congr 1
        funext tally w
        exact (foldl_note_findsAt _ ih (v :: before) w tally).symm
      · rw [if_neg hl, if_neg hl]
        rfl

theorem finds_cons (depth : Option Nat) (fuel : Nat) (v : VertexId) (before : List VertexId) :
    t.finds origin targets depth (fuel + 1) (v :: before) =
      if t.leaves v ((v :: before).length == 1) = true then
        (t.onward v).flatMap
          (findsAt origin targets depth (t.finds origin targets depth fuel) (v :: before))
      else [] := rfl

theorem exists_append_of_mem_findsAt {depth : Option Nat}
    {further : List VertexId → List (Option (List VertexId))} {path p : List VertexId}
    {w : VertexId} (hfurther : ∀ q, some q ∈ further (w :: path) →
      ∃ ws, ws ≠ [] ∧ q = (w :: path).reverse ++ ws)
    (h : some p ∈ findsAt origin targets depth further path w) :
    ∃ ws, p = path.reverse ++ w :: ws := by
  unfold findsAt at h
  split_ifs at h
  · cases h
  · simp at h
  · rw [List.mem_singleton, Option.some.injEq] at h
    exact ⟨[], h⟩
  · obtain ⟨ws, -, rfl⟩ := hfurther p h
    exact ⟨ws, by simp⟩

theorem exists_append_of_mem_finds {depth : Option Nat} {fuel : Nat} {path p : List VertexId}
    (h : some p ∈ t.finds origin targets depth fuel path) :
    ∃ ws, ws ≠ [] ∧ p = path.reverse ++ ws := by
  induction fuel generalizing path p with
  | zero => cases h
  | succ fuel ih =>
    cases path with
    | nil => cases h
    | cons v before =>
      rw [finds_cons] at h
      split_ifs at h with hl
      · obtain ⟨w, -, h⟩ := List.mem_flatMap.mp h
        obtain ⟨ws, rfl⟩ := exists_append_of_mem_findsAt (fun q => ih) h
        exact ⟨w :: ws, List.cons_ne_nil w ws, rfl⟩
      · cases h

theorem none_notMem_finds (fuel : Nat) (path : List VertexId) :
    none ∉ t.finds origin targets none fuel path := by
  induction fuel generalizing path with
  | zero => exact List.not_mem_nil
  | succ fuel ih =>
    cases path with
    | nil => exact List.not_mem_nil
    | cons v before =>
      intro h
      rw [finds_cons] at h
      split_ifs at h with hl
      · obtain ⟨w, -, h⟩ := List.mem_flatMap.mp h
        unfold findsAt at h
        split_ifs at h with _ hd
        · cases h
        · cases hd
        · simp at h
        · exact ih _ h
      · cases h

/-- A bound on the depth keeps the walks of no more edges. -/
theorem reduceOption_finds (depth : Option Nat) (fuel : Nat) (path : List VertexId) :
    (t.finds origin targets depth fuel path).reduceOption =
      (t.finds origin targets none fuel path).reduceOption.filter (shallow depth) := by
  induction fuel generalizing path with
  | zero => rfl
  | succ fuel ih =>
    cases path with
    | nil => rfl
    | cons v before =>
      rw [finds_cons, finds_cons]
      split_ifs with hl
      · simp only [List.reduceOption, List.filterMap_flatMap, List.filter_flatMap]
        congr 1
        funext w
        show (findsAt origin targets depth _ _ w).reduceOption =
          (findsAt origin targets none _ _ w).reduceOption.filter _
        by_cases hd : exceeds depth (v :: before).length = true
        · -- Whatever is found here without a bound is too long.
          have hnone : (findsAt origin targets depth (t.finds origin targets depth fuel)
              (v :: before) w).reduceOption = [] := by
            unfold findsAt
            split_ifs <;> rfl
          rw [hnone, eq_comm, List.filter_eq_nil_iff]
          intro p hp
          obtain ⟨ws, rfl⟩ := exists_append_of_mem_findsAt
            (fun q => exists_append_of_mem_finds) (List.reduceOption_mem_iff.mp hp)
          rw [shallow, exceeds_mono (by simp) hd]
          exact Bool.false_ne_true
        · have hn : exceeds none (v :: before).length ≠ true := Bool.false_ne_true
          unfold findsAt
          split_ifs with hs ht
          · rfl
          · have hkeep : shallow depth ((v :: before).reverse ++ [w]) = true := by
              have hlen : ((v :: before).reverse ++ [w]).length - 1 = (v :: before).length := by
                simp
              rwa [shallow, hlen, Bool.not_eq_true', ← Bool.not_eq_true]
            rw [List.reduceOption_singleton, Option.toList_some, List.filter_cons_of_pos hkeep,
              List.filter_nil]
          · exact ih _
      · rfl

theorem finds_eq_of_none_notMem {depth : Option Nat} {fuel : Nat} {path : List VertexId}
    (h : none ∉ t.finds origin targets depth fuel path) :
    t.finds origin targets depth fuel path = t.finds origin targets none fuel path := by
  induction fuel generalizing path with
  | zero => rfl
  | succ fuel ih =>
    cases path with
    | nil => rfl
    | cons v before =>
      rw [finds_cons] at h ⊢
      rw [finds_cons]
      split_ifs at h ⊢ with hl
      · apply List.flatMap_congr
        intro w hw
        have hw : none ∉ findsAt origin targets depth (t.finds origin targets depth fuel)
            (v :: before) w := fun hc => h (List.mem_flatMap.mpr ⟨w, hw, hc⟩)
        have hn : exceeds none (v :: before).length ≠ true := Bool.false_ne_true
        unfold findsAt at hw ⊢
        split_ifs at hw ⊢ with hs hd ht
        · rfl
        · exact absurd (List.mem_singleton_self _) hw
        · exact absurd (List.mem_singleton_self _) hw
        · rfl
        · exact ih hw
      · rfl

def allSegments (t : Terrain) (targets : List VertexId) (origin : VertexId) :
    List (List VertexId) :=
  (t.finds origin targets none (t.graph.size + 1) [origin]).reduceOption

theorem paths_segments (targets : List VertexId) (limits : Limits) (origin : VertexId) :
    (t.segments targets limits origin).paths =
      within limits.paths 0 ((t.allSegments targets origin).filter (shallow limits.depth)) := by
  rw [segments, explore_eq_foldl, Tally.paths_foldl_note_empty, reduceOption_finds, allSegments]

/-- Segments are marked as truncated if the depth left out any or there are more than the limit. -/
theorem truncated_segments_eq_false_iff (targets : List VertexId) (limits : Limits)
    (origin : VertexId) : (t.segments targets limits origin).truncated = false ↔
      none ∉ t.finds origin targets limits.depth (t.graph.size + 1) [origin] ∧
        exceeds limits.paths
          ((t.allSegments targets origin).filter (shallow limits.depth)).length = false := by
  rw [segments, explore_eq_foldl, Tally.truncated_foldl_note_empty, reduceOption_finds, allSegments]

theorem filter_shallow_none (walks : List (List VertexId)) : walks.filter (shallow none) = walks :=
  List.filter_eq_self.mpr fun _ _ => rfl

theorem paths_segments_unbounded (targets : List VertexId) (origin : VertexId) :
    (t.segments targets .unbounded origin).paths = t.allSegments targets origin := by
  rw [paths_segments]
  exact filter_shallow_none _

theorem truncated_segments_unbounded (targets : List VertexId) (origin : VertexId) :
    (t.segments targets .unbounded origin).truncated = false :=
  (truncated_segments_eq_false_iff _ _ _).mpr ⟨none_notMem_finds _ _, rfl⟩

theorem segments_sublist (targets : List VertexId) (limits : Limits) (origin : VertexId) :
    (t.segments targets limits origin).paths.Sublist (t.allSegments targets origin) := by
  rw [paths_segments]
  exact (within_sublist _ _ _).trans List.filter_sublist

/-- Segments that are not marked as truncated are whole. -/
theorem segments_of_not_truncated {limits : Limits}
    (h : (t.segments targets limits origin).truncated = false) :
    (t.segments targets limits origin).paths = t.allSegments targets origin := by
  obtain ⟨hnone, hfits⟩ := (truncated_segments_eq_false_iff _ _ _).mp h
  rw [paths_segments, within_of_fits hfits, allSegments, ← reduceOption_finds,
    finds_eq_of_none_notMem hnone]

theorem exists_cons_of_mem_allSegments {p : List VertexId} (h : p ∈ t.allSegments targets origin) :
    ∃ ws, ws ≠ [] ∧ p = origin :: ws :=
  exists_append_of_mem_finds (List.reduceOption_mem_iff.mp h)

end Terrain

/-- The joins of the legs that go on from a path. -/
def joins : List Leg → List VertexId → List (List VertexId)
  | [], path => [path]
  | leg :: legs, path =>
    match path.getLast? with
    | none => []
    | some v => ((leg.lookup v).getD []).flatMap fun walk =>
        if staysSimple legs.isEmpty path walk.tail then joins legs (path ++ walk.tail) else []

theorem join_eq_foldl (limit : Option Nat) (legs : List Leg) (path : List VertexId)
    (tally : Tally) : join limit legs path tally =
      ((joins legs path).map some).foldl (Tally.note limit) tally := by
  induction legs generalizing path tally with
  | nil => rfl
  | cons leg legs ih =>
    unfold join joins
    cases path.getLast? with
    | none => rfl
    | some v =>
      simp only
      rw [List.map_flatMap, List.foldl_flatMap]
      congr 1
      funext tally walk
      cases hc : tally.closed with
      | true => rw [if_pos rfl, Tally.foldl_note_of_closed hc]
      | false =>
        rw [if_neg Bool.false_ne_true]
        split_ifs
        · exact ih _ tally
        · rfl

/-- The routes over segments that go on from a path through the stages. -/
def routes (segments : List VertexId → VertexId → List (List VertexId)) :
    Stages → List VertexId → List (List VertexId)
  | [], path => [path]
  | targets :: stages, path =>
    match path.getLast? with
    | none => []
    | some v => (segments targets v).flatMap fun walk =>
        if staysSimple stages.isEmpty path walk.tail then
          routes segments stages (path ++ walk.tail)
        else []

theorem routes_cons {segments : List VertexId → VertexId → List (List VertexId)}
    {targets : List VertexId} {stages : Stages} {path : List VertexId} {v : VertexId}
    (hv : path.getLast? = some v) : routes segments (targets :: stages) path =
      (segments targets v).flatMap fun walk =>
        if staysSimple stages.isEmpty path walk.tail then
          routes segments stages (path ++ walk.tail)
        else [] := by
  rw [routes, hv]

/-- Fewer segments give fewer routes in the same order. -/
theorem routes_sublist {segments segments' : List VertexId → VertexId → List (List VertexId)}
    (h : ∀ targets v, (segments targets v).Sublist (segments' targets v)) (stages : Stages)
    (path : List VertexId) :
    (routes segments stages path).Sublist (routes segments' stages path) := by
  induction stages generalizing path with
  | nil => exact List.Sublist.refl _
  | cons targets stages ih =>
    cases hv : path.getLast? with
    | none =>
      rw [routes, hv]
      exact List.nil_sublist _
    | some v =>
      rw [routes_cons hv, routes_cons hv]
      refine ((h targets v).flatMap _).trans (List.Sublist.flatMap_right _ fun walk _ => ?_)
      split_ifs
      · exact ih _
      · exact List.Sublist.refl _

theorem mem_eraseRepsBy_loop (v w : Nat) (ids acc : List Nat) :
    v ∈ List.eraseRepsBy.loop (· == ·) w ids acc ↔ v ∈ acc ∨ v = w ∨ v ∈ ids := by
  induction ids generalizing w acc with
  | nil => simp [List.eraseRepsBy.loop, or_comm]
  | cons u us ih =>
    unfold List.eraseRepsBy.loop
    cases h : w == u with
    | true =>
      rw [eq_of_beq h, ih, List.mem_cons]
      tauto
    | false =>
      rw [ih, List.mem_cons, List.mem_cons]
      tauto

theorem mem_ascending (v : Nat) (ids : List Nat) : v ∈ ascending ids ↔ v ∈ ids := by
  have hsort : v ∈ ids.mergeSort (· ≤ ·) ↔ v ∈ ids := List.mem_mergeSort
  rw [← hsort, ascending, List.eraseReps]
  cases ids.mergeSort (· ≤ ·) with
  | nil => exact Iff.rfl
  | cons u us =>
    rw [List.eraseRepsBy, mem_eraseRepsBy_loop, List.mem_cons]
    simp

namespace Terrain

variable {t : Terrain}

def leg (t : Terrain) (limits : Limits) (targets origins : List VertexId) : Leg :=
  origins.map fun origin => (origin, (t.segments targets limits origin).paths)

theorem legs_cons (limits : Limits) (targets : List VertexId) (stages : Stages)
    (origins : List VertexId) : t.legs limits (targets :: stages) origins =
      (t.leg limits targets origins ::
          (t.legs limits stages (t.leg limits targets origins).finishes).1,
        origins.any (fun origin => (t.segments targets limits origin).truncated) ||
          (t.legs limits stages (t.leg limits targets origins).finishes).2) := by
  simp [legs, leg, List.map_map, Function.comp_def]

theorem isEmpty_legs (limits : Limits) (stages : Stages) (origins : List VertexId) :
    (t.legs limits stages origins).1.isEmpty = stages.isEmpty := by
  cases stages with
  | nil => rfl
  | cons targets stages => rw [legs_cons]; rfl

theorem mem_finishes_leg_iff {limits : Limits} {targets origins : List VertexId} {v : VertexId} :
    v ∈ (t.leg limits targets origins).finishes ↔ ∃ origin ∈ origins,
      ∃ walk ∈ (t.segments targets limits origin).paths, walk.getLast? = some v := by
  simp [Leg.finishes, mem_ascending, leg]

/-- No walk is lost by seeking those of the next leg only from the ends of the leg before. -/
theorem joins_legs {limits : Limits} {stages : Stages} {origins path : List VertexId}
    {v : VertexId} (hv : path.getLast? = some v) (ho : v ∈ origins) :
    joins (t.legs limits stages origins).1 path =
      routes (fun targets origin => (t.segments targets limits origin).paths) stages path := by
  induction stages generalizing origins path v with
  | nil => rfl
  | cons targets stages ih =>
    rw [legs_cons, routes_cons hv, joins, hv]
    have hlookup : (t.leg limits targets origins).lookup v =
        some (t.segments targets limits v).paths := List.lookup_graph _ ho
    simp only [hlookup, Option.getD_some, isEmpty_legs]
    apply List.flatMap_congr
    intro walk hw
    split_ifs with hsimple
    · have hall := (segments_sublist targets limits v).subset hw
      obtain ⟨ws, hne, rfl⟩ := exists_cons_of_mem_allSegments hall
      have hlast : (path ++ ws).getLast? = some (ws.getLast hne) := by
        rw [List.getLast?_append_of_ne_nil _ hne, List.getLast?_eq_some_getLast hne]
      -- The walk ends at an origin of the next leg, so what goes on from there is looked up.
      apply ih hlast (mem_finishes_leg_iff.mpr ⟨v, ho, _, hw, _⟩)
      rw [List.getLast?_cons_of_ne_nil hne, List.getLast?_eq_some_getLast hne]
    · rfl

theorem truncated_legs_unbounded (stages : Stages) (origins : List VertexId) :
    (t.legs .unbounded stages origins).2 = false := by
  induction stages generalizing origins with
  | nil => rfl
  | cons targets stages ih =>
    rw [legs_cons]
    simp [truncated_segments_unbounded, ih]

theorem legs_of_not_truncated {limits : Limits} {stages : Stages} {origins : List VertexId}
    (h : (t.legs limits stages origins).2 = false) :
    (t.legs limits stages origins).1 = (t.legs .unbounded stages origins).1 := by
  induction stages generalizing origins with
  | nil => rfl
  | cons targets stages ih =>
    rw [legs_cons] at h
    obtain ⟨hsegments, hrest⟩ := Bool.or_eq_false_iff.mp h
    -- A whole leg has the ends that it has without limits, and the next leg is sought from these.
    have hleg : t.leg limits targets origins = t.leg .unbounded targets origins := by
      apply List.map_congr_left
      intro origin ho
      have hwhole : (t.segments targets limits origin).truncated = false := by
        simpa using List.any_eq_false.mp hsegments origin ho
      rw [segments_of_not_truncated hwhole, paths_segments_unbounded]
    rw [legs_cons, legs_cons, hleg, ih (hleg ▸ hrest)]

def found (t : Terrain) (limits : Limits) (stages : Stages) (starts : List VertexId) :
    List (List VertexId) :=
  starts.flatMap fun start => joins (t.legs limits stages starts).1 [start]

theorem found_eq_routes (limits : Limits) (stages : Stages) (starts : List VertexId) :
    t.found limits stages starts = starts.flatMap fun start =>
      routes (fun targets origin => (t.segments targets limits origin).paths) stages [start] :=
  List.flatMap_congr fun _ hs => joins_legs rfl hs

theorem enumerate_eq (limits : Limits) (stages : Stages) (starts : List VertexId) :
    t.enumerate limits stages starts =
      { paths := within limits.paths 0 (t.found limits stages starts)
        truncated := (t.legs limits stages starts).2 ||
          exceeds limits.paths (t.found limits stages starts).length } := by
  have hfold : starts.foldl (fun tally start =>
      join limits.paths (t.legs limits stages starts).1 [start] tally) {} =
      ((t.found limits stages starts).map some).foldl (Tally.note limits.paths) {} := by
    simp only [join_eq_foldl]
    rw [found, List.map_flatMap, List.foldl_flatMap]
  -- No path found is the note of an omission, so the limit alone can leave paths out.
  generalize t.found limits stages starts = paths at hfold ⊢
  have hsome : (paths.map some).reduceOption = paths := by
    rw [List.reduceOption, List.filterMap_map]
    exact List.filterMap_some
  have htruncated : ((paths.map some).foldl (Tally.note limits.paths) {}).truncated =
      exceeds limits.paths paths.length := by
    have h : ((paths.map some).foldl (Tally.note limits.paths) {}).truncated = false ↔
        none ∉ paths.map some ∧ exceeds limits.paths paths.length = false := by
      rw [Tally.truncated_foldl_note_empty, hsome]
    cases hx : exceeds limits.paths paths.length with
    | false => exact h.mpr ⟨by simp, hx⟩
    | true =>
      rw [← Bool.not_eq_false, h, hx]
      exact fun hc => Bool.noConfusion hc.2
  unfold enumerate
  simp only [hfold, htruncated, Tally.paths_foldl_note_empty, hsome]

theorem enumerate_unbounded (stages : Stages) (starts : List VertexId) :
    t.enumerate .unbounded stages starts =
      ⟨starts.flatMap fun start => routes t.allSegments stages [start], false⟩ := by
  rw [enumerate_eq, truncated_legs_unbounded, found_eq_routes]
  simp only [paths_segments_unbounded]
  rfl

theorem enumerate_sublist (limits : Limits) (stages : Stages) (starts : List VertexId) :
    (t.enumerate limits stages starts).paths.Sublist
      (t.enumerate .unbounded stages starts).paths := by
  rw [enumerate_eq, found_eq_routes, enumerate_unbounded]
  refine (within_sublist _ _ _).trans (List.Sublist.flatMap_right _ fun start _ => ?_)
  exact routes_sublist (fun targets origin => segments_sublist targets limits origin) stages [start]

theorem length_enumerate_le (limits : Limits) (stages : Stages) (starts : List VertexId) :
    ∀ most ∈ limits.paths, (t.enumerate limits stages starts).paths.length ≤ most := by
  rw [enumerate_eq]
  exact length_within_le _

theorem enumerate_of_not_truncated {limits : Limits} {stages : Stages} {starts : List VertexId}
    (h : (t.enumerate limits stages starts).truncated = false) :
    (t.enumerate limits stages starts).paths = (t.enumerate .unbounded stages starts).paths := by
  rw [enumerate_eq] at h
  obtain ⟨hlegs, hfits⟩ := Bool.or_eq_false_iff.mp h
  rw [enumerate_eq, enumerate_eq, within_of_fits hfits, found, legs_of_not_truncated hlegs]
  rfl

end Terrain

end CircuitTrace
