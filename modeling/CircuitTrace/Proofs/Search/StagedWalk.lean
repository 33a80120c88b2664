import CircuitTrace.Search.Query
import CircuitTrace.Proofs.Graph.Built
import CircuitTrace.Proofs.Search.BreadthFirst

namespace CircuitTrace

/-- The number of stages met once the vertices have been entered in turn, if `k` were met before.
Entering a vertex of the next stage meets that stage. -/
def Stages.met (stages : Stages) (k : Nat) (entered : List VertexId) : Nat :=
  entered.foldl (fun k v => if v ∈ stages.getD k [] then k + 1 else k) k

def Stages.metAt (stages : Stages) (path : List VertexId) (i : Nat) : Nat :=
  stages.met 0 (path.tail.take i)

/-- The walks that a plan asks for. A path starts at a start, runs along edges, enters no avoided
vertex, and meets the last stage at its end and not before. Unless registers are transparent, it
goes on from a register only where it starts or has just met a stage. -/
structure Plan.StagedWalk (p : Plan) (g : Graph) (o : Options) (path : List VertexId) : Prop where
  two_le_length : 2 ≤ path.length
  start : path[0] ∈ p.starts
  edge : ∀ i (h : i + 1 < path.length), g.hasEdge path[i] path[i + 1] = true
  avoid : ∀ i (h : i + 1 < path.length), path[i + 1] ∉ p.avoid
  before : ∀ i, i + 1 < path.length → p.stages.metAt path i < p.stages.length
  arrive : p.stages.metAt path (path.length - 1) = p.stages.length
  register : o.traverseRegisters = false → ∀ i (h : i + 1 < path.length),
    g.isRegister path[i] = true → i = 0 ∨ p.stages.metAt path (i - 1) < p.stages.metAt path i

namespace Terrain

/-- A course goes on from a vertex, enters the listed vertices in turn and meets the stages, the
last one at its end. -/
inductive Course (t : Terrain) : Stages → Bool → VertexId → List VertexId → Prop
  | done {origin : Bool} {v : VertexId} : Course t [] origin v []
  | meet {targets : List VertexId} {stages : Stages} {origin : Bool} {v w : VertexId}
      {ws : List VertexId} : t.leaves v origin = true → w ∈ t.onward v → w ∈ targets →
      Course t stages true w ws → Course t (targets :: stages) origin v (w :: ws)
  | pass {targets : List VertexId} {stages : Stages} {origin : Bool} {v w : VertexId}
      {ws : List VertexId} : t.leaves v origin = true → w ∈ t.onward v → w ∉ targets →
      Course t (targets :: stages) false w ws → Course t (targets :: stages) origin v (w :: ws)

variable {t : Terrain} {stages : Stages} {starts : List VertexId}

theorem mem_onward {v w : VertexId} :
    w ∈ t.onward v ↔ w ∈ t.graph.neighbors t.direction v ∧ w ∉ t.avoid := by
  simp [onward, enters]

theorem leaves_iff {v : VertexId} {origin : Bool} : t.leaves v origin = true ↔
    (t.transparent = false → t.graph.isRegister v = true → origin = true) := by
  cases origin <;> cases ht : t.transparent <;> cases hr : t.graph.isRegister v <;>
    simp [leaves, ht, hr]

theorem leaves_false_iff {v : VertexId} : t.leaves v false = true ↔
    (t.transparent = false → t.graph.isRegister v = false) := by
  rw [leaves_iff]
  simp

theorem leaves_of_leaves_false {v : VertexId} (h : t.leaves v false = true) (origin : Bool) :
    t.leaves v origin = true := by
  rw [leaves_iff] at h ⊢
  exact fun ht hr => absurd (h ht hr) Bool.false_ne_true

@[simp] theorem course_nil_left {origin : Bool} {v : VertexId} {ws : List VertexId} :
    t.Course [] origin v ws ↔ ws = [] :=
  ⟨fun h => by cases h; rfl, fun h => h ▸ .done⟩

theorem Course.ne_nil {origin : Bool} {v : VertexId} {ws : List VertexId}
    (h : t.Course stages origin v ws) (hne : stages ≠ []) : ws ≠ [] := by
  cases h with
  | done => exact absurd rfl hne
  | meet => exact List.cons_ne_nil _ _
  | pass => exact List.cons_ne_nil _ _

theorem Course.stage_ne_nil {origin : Bool} {v : VertexId} {ws : List VertexId}
    (h : t.Course stages origin v ws) : ∀ stage ∈ stages, stage ≠ [] := by
  induction h with
  | done => exact fun _ hs => absurd hs List.not_mem_nil
  | meet _ _ hm _ ih => exact List.forall_mem_cons.mpr ⟨List.ne_nil_of_mem hm, ih⟩
  | pass _ _ _ _ ih => exact ih

theorem course_cons_iff {targets : List VertexId} {origin : Bool} {v w : VertexId}
    {ws : List VertexId} : t.Course (targets :: stages) origin v (w :: ws) ↔
      t.leaves v origin = true ∧ w ∈ t.onward v ∧
        (w ∈ targets ∧ t.Course stages true w ws ∨
          w ∉ targets ∧ t.Course (targets :: stages) false w ws) := by
  constructor
  · intro h
    cases h with
    | meet hl hw hm hc => exact ⟨hl, hw, .inl ⟨hm, hc⟩⟩
    | pass hl hw hm hc => exact ⟨hl, hw, .inr ⟨hm, hc⟩⟩
  · rintro ⟨hl, hw, ⟨hm, hc⟩ | ⟨hm, hc⟩⟩
    · exact .meet hl hw hm hc
    · exact .pass hl hw hm hc

@[simp] theorem met_nil (stages : Stages) (k : Nat) : stages.met k [] = k := rfl

@[simp] theorem met_cons (stages : Stages) (k : Nat) (v : VertexId) (vs : List VertexId) :
    stages.met k (v :: vs) = stages.met (if v ∈ stages.getD k [] then k + 1 else k) vs := rfl

/-- Each step of a path, by position, if `k` of the stages were met before it. -/
def Steps (t : Terrain) (stages : Stages) (k : Nat) (origin : Bool) (path : List VertexId) : Prop :=
  ∀ i (h : i + 1 < path.length), stages.met k (path.tail.take i) < stages.length ∧
    path[i + 1] ∈ t.onward path[i] ∧
    t.leaves path[i] (if i = 0 then origin
      else decide (stages.met k (path.tail.take (i - 1)) < stages.met k (path.tail.take i))) = true

theorem steps_cons_iff {k : Nat} {origin : Bool} {v w : VertexId} {ws : List VertexId} :
    t.Steps stages k origin (v :: w :: ws) ↔
      k < stages.length ∧ w ∈ t.onward v ∧ t.leaves v origin = true ∧
        t.Steps stages (if w ∈ stages.getD k [] then k + 1 else k)
          (decide (w ∈ stages.getD k [])) (w :: ws) := by
  unfold Steps
  simp only [List.length_cons, Nat.add_lt_add_iff_right, List.tail_cons]
  rw [Nat.forall_lt_succ_left']
  simp only [List.take_zero, List.getElem_cons_zero, if_true, List.take_succ_cons,
    List.getElem_cons_succ, Nat.add_eq_zero_iff, one_ne_zero, and_false, if_false,
    Nat.add_sub_cancel, met_cons, and_assoc]
  apply and_congr Iff.rfl (and_congr Iff.rfl (and_congr Iff.rfl _))
  apply forall_congr'
  intro i
  apply forall_congr'
  intro hi
  cases i with
  | zero =>
    have hmet : (k < if w ∈ stages.getD k [] then k + 1 else k) ↔ w ∈ stages.getD k [] := by
      split_ifs with hw <;> simp only [hw, Nat.lt_succ_self, lt_self_iff_false]
    simp only [List.take_zero, met_nil, hmet, if_true]
  | succ i =>
    -- Behind the first vertex the counts before and after it are those of the shorter path.
    rw [Nat.add_sub_cancel, List.take_succ_cons, met_cons, if_neg (Nat.succ_ne_zero i)]
    exact Iff.rfl

theorem course_drop_iff {k : Nat} {origin : Bool} {v : VertexId} {ws : List VertexId}
    (hk : k ≤ stages.length) : t.Course (stages.drop k) origin v ws ↔
      t.Steps stages k origin (v :: ws) ∧ stages.met k ws = stages.length := by
  induction ws generalizing k origin v with
  | nil =>
    rcases Nat.eq_or_lt_of_le hk with rfl | hlt
    · simp [Steps, Stages.met]
    · have hne : stages.drop k ≠ [] := by simpa using hlt
      refine ⟨fun h => absurd rfl (h.ne_nil hne), fun h => ?_⟩
      exact absurd h.2 (Nat.ne_of_lt hlt)
  | cons w ws ih =>
    rw [steps_cons_iff, met_cons]
    rcases Nat.eq_or_lt_of_le hk with rfl | hlt
    · simp
    -- The course heads for the stage of index `k` until it enters one of its vertices.
    have hget : stages.getD k [] = stages[k] := by simp [hlt]
    rw [List.drop_eq_getElem_cons hlt, course_cons_iff, ← List.drop_eq_getElem_cons hlt, hget]
    by_cases hw : w ∈ stages[k]
    · simp only [hw, true_and, not_true, false_and, or_false, if_true, decide_true, ih hlt]
      tauto
    · simp only [hw, false_and, not_false_eq_true, true_and, false_or, if_false, decide_false,
        ih hk]
      tauto

theorem mem_next_iff {s s' : Spot} : s' ∈ t.next stages s ↔
    ∃ targets, stages[s.stage]? = some targets ∧ t.leaves s.vertex s.origin = true ∧
      s'.vertex ∈ t.onward s.vertex ∧
      s' = if s'.vertex ∈ targets then ⟨s'.vertex, s.stage + 1, true⟩
        else ⟨s'.vertex, s.stage, false⟩ := by
  unfold next
  cases hs : stages[s.stage]? with
  | none => simp
  | some targets =>
    by_cases hl : t.leaves s.vertex s.origin = true
    · simp only [hl, if_true, List.mem_map, List.contains_iff_mem, Option.some.injEq,
        exists_eq_left', true_and]
      constructor
      · rintro ⟨v, hv, rfl⟩
        split_ifs <;> simp_all
      · rintro ⟨hv, he⟩
        exact ⟨s'.vertex, hv, he.symm⟩
    · simp [hl]

theorem exists_course_of_follows {u : Trail Spot}
    (hu : u.Follows (t.next stages) (starts.map Spot.seed)) {ws : List VertexId}
    (hc : t.Course (stages.drop u.state.stage) u.state.origin u.state.vertex ws) :
    ∃ v ∈ starts, ∃ vs, u.path ++ ws = v :: vs ∧ t.Course stages true v vs := by
  induction hu generalizing ws with
  | start hs =>
    obtain ⟨v, hv, rfl⟩ := List.mem_map.mp hs
    exact ⟨v, hv, ws, rfl, by simpa [Spot.seed] using hc⟩
  | @step u s hu hs ih =>
    -- The course takes over the last step of the trail.
    have hpath : (u.step s).path ++ ws = u.path ++ s.vertex :: ws := by simp [Trail.path]
    rw [hpath]
    apply ih
    obtain ⟨targets, hget, hl, hv, hs⟩ := mem_next_iff.mp hs
    obtain ⟨hlt, rfl⟩ := List.getElem?_eq_some_iff.mp hget
    rw [List.drop_eq_getElem_cons hlt, course_cons_iff, ← List.drop_eq_getElem_cons hlt]
    refine ⟨hl, hv, ?_⟩
    rw [Trail.state_step, hs] at hc
    split_ifs at hc with hm
    · exact .inl ⟨hm, hc⟩
    · exact .inr ⟨hm, hc⟩

theorem getElem?_of_cons_eq_drop {targets : List VertexId} {rest : Stages} {k : Nat}
    (h : targets :: rest = stages.drop k) :
    k < stages.length ∧ stages[k]? = some targets ∧ rest = stages.drop (k + 1) := by
  have hlt : k < stages.length := by
    by_contra hge
    rw [List.drop_of_length_le (Nat.le_of_not_lt hge)] at h
    exact List.cons_ne_nil _ _ h
  rw [List.drop_eq_getElem_cons hlt, List.cons.injEq] at h
  exact ⟨hlt, by rw [h.1]; exact List.getElem?_eq_getElem hlt, h.2⟩

theorem Course.exists_follows {rest : Stages} {origin : Bool} {v : VertexId} {ws : List VertexId}
    (hc : t.Course rest origin v ws) {k : Nat} (hk : k ≤ stages.length)
    (hrest : rest = stages.drop k) {u : Trail Spot}
    (hu : u.Follows (t.next stages) (starts.map Spot.seed)) (hs : u.state = ⟨v, k, origin⟩) :
    ∃ w : Trail Spot, w.Follows (t.next stages) (starts.map Spot.seed) ∧
      w.state.stage = stages.length ∧ w.path = u.path ++ ws := by
  induction hc generalizing k u with
  | done =>
    have := List.drop_eq_nil_iff.mp hrest.symm
    exact ⟨u, hu, by rw [hs]; exact hk.antisymm this, by simp⟩
  | @meet targets rest origin v w ws hl hw hm _ ih =>
    have hstage := getElem?_of_cons_eq_drop hrest
    have hnext : (⟨w, k + 1, true⟩ : Spot) ∈ t.next stages u.state := by
      rw [mem_next_iff, hs]
      exact ⟨targets, hstage.2.1, hl, hw, by simp [hm]⟩
    obtain ⟨x, hx, hxs, hxp⟩ := ih hstage.1 hstage.2.2 (hu.step hnext) rfl
    exact ⟨x, hx, hxs, by simpa [Trail.path] using hxp⟩
  | @pass targets rest origin v w ws hl hw hm _ ih =>
    have hnext : (⟨w, k, false⟩ : Spot) ∈ t.next stages u.state := by
      rw [mem_next_iff, hs]
      exact ⟨targets, (getElem?_of_cons_eq_drop hrest).2.1, hl, hw, by simp [hm]⟩
    obtain ⟨x, hx, hxs, hxp⟩ := ih hk hrest (hu.step hnext) rfl
    exact ⟨x, hx, hxs, by simpa [Trail.path] using hxp⟩

/-- The paths of the trails that have met all stages are the courses from a start. -/
theorem exists_follows_iff_course {path : List VertexId} :
    (∃ u : Trail Spot, u.Follows (t.next stages) (starts.map Spot.seed) ∧
      u.state.stage = stages.length ∧ u.path = path) ↔
    ∃ v ∈ starts, ∃ ws, path = v :: ws ∧ t.Course stages true v ws := by
  constructor
  · rintro ⟨u, hu, hs, rfl⟩
    have hc : t.Course (stages.drop u.state.stage) u.state.origin u.state.vertex [] := by
      rw [hs, List.drop_length]
      exact .done
    simpa using exists_course_of_follows hu hc
  · rintro ⟨v, hv, ws, rfl, hc⟩
    have hu : (Trail.start (Spot.seed v)).Follows (t.next stages) (starts.map Spot.seed) :=
      .start (List.mem_map_of_mem hv)
    exact hc.exists_follows (Nat.zero_le _) rfl hu rfl

end Terrain

/-- The walks that a plan asks for are the courses from its starts through its stages. -/
theorem Plan.stagedWalk_iff_course {p : Plan} {g : Graph} {o : Options} {path : List VertexId} :
    p.StagedWalk g o path ↔ ∃ v ∈ p.starts, ∃ ws, path = v :: ws ∧ ws ≠ [] ∧
      (p.terrain g o).Course p.stages true v ws := by
  constructor
  · intro h
    match path, h with
    | v :: w :: ws, h =>
      refine ⟨v, h.start, w :: ws, rfl, List.cons_ne_nil w ws, ?_⟩
      rw [← List.drop_zero (l := p.stages), Terrain.course_drop_iff (Nat.zero_le _)]
      refine ⟨fun i hi => ⟨h.before i hi, ?_, ?_⟩, ?_⟩
      · exact Terrain.mem_onward.mpr ⟨(g.hasEdge_iff _ _).mp (h.edge i hi), h.avoid i hi⟩
      · rw [Terrain.leaves_iff]
        intro ho hr
        rcases h.register ho i hi hr with h0 | hlt
        · rw [if_pos h0]
        · split_ifs
          · rfl
          · exact decide_eq_true hlt
      · simpa [Stages.metAt] using h.arrive
    | [v], h => exact absurd h.two_le_length (by simp)
    | [], h => exact absurd h.two_le_length (by simp)
  · rintro ⟨v, hv, ws, rfl, hne, hc⟩
    rw [← List.drop_zero (l := p.stages), Terrain.course_drop_iff (Nat.zero_le _)] at hc
    obtain ⟨hsteps, hmet⟩ := hc
    constructor
    case two_le_length => exact Nat.succ_le_succ (List.length_pos_iff.mpr hne)
    case start => exact hv
    case edge =>
      intro i hi
      exact (g.hasEdge_iff _ _).mpr (Terrain.mem_onward.mp (hsteps i hi).2.1).1
    case avoid => exact fun i hi => (Terrain.mem_onward.mp (hsteps i hi).2.1).2
    case before => exact fun i hi => (hsteps i hi).1
    case arrive => simpa [Stages.metAt] using hmet
    case register =>
      intro ho i hi hr
      have := Terrain.leaves_iff.mp (hsteps i hi).2.2 ho hr
      split_ifs at this with h0
      · exact .inl h0
      · exact .inr (of_decide_eq_true this)

theorem Plan.stagedWalk_iff {p : Plan} {g : Graph} {o : Options} (hne : p.stages ≠ [])
    {path : List VertexId} : p.StagedWalk g o path ↔ ∃ v ∈ p.starts, ∃ ws, path = v :: ws ∧
      (p.terrain g o).Course p.stages true v ws := by
  rw [stagedWalk_iff_course]
  constructor
  · rintro ⟨v, hv, ws, hpath, -, hc⟩
    exact ⟨v, hv, ws, hpath, hc⟩
  · rintro ⟨v, hv, ws, hpath, hc⟩
    exact ⟨v, hv, ws, hpath, hc.ne_nil hne, hc⟩

end CircuitTrace
