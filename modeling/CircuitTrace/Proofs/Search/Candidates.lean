import CircuitTrace.Proofs.Graph.Construction
import CircuitTrace.Proofs.Search.Shortest
import Mathlib.Data.List.Forall2

namespace CircuitTrace

namespace Terrain

variable {t : Terrain} {v w : VertexId} {origin : Bool} {ws : List VertexId}

/-- The wider stage has the vertices of the narrower, and a register that bars the way belongs to
the narrower only if all vertices of the wider are such registers. -/
def Covers (t : Terrain) (narrow wide : List VertexId) : Prop :=
  narrow ⊆ wide ∧
    ((∃ x ∈ narrow, t.leaves x false = false) → ∀ y ∈ wide, t.leaves y false = false)

theorem Covers.leaves {narrow wide : List VertexId} (h : t.Covers narrow wide) (hw : w ∈ wide)
    (hl : t.leaves w false = true) : ∀ x ∈ narrow, t.leaves x false = true := by
  intro x hx
  by_contra hbar
  rw [h.2 ⟨x, hx, Bool.eq_false_iff.mpr hbar⟩ w hw] at hl
  exact Bool.false_ne_true hl

theorem Course.step {before : Stages} {targets : List VertexId} {rest : Stages}
    (h : t.Course (before ++ targets :: rest) origin v (w :: ws))
    (hopen : ∀ stage ∈ before, ∀ x ∈ stage, t.leaves x false = true) :
    t.leaves v origin = true ∧ w ∈ t.onward v ∧
      (w ∈ targets ∧ t.Course rest true w ws ∧ before = [] ∨
        t.leaves w false = true ∧ ∃ before' origin', before' ⊆ before ∧
          t.Course (before' ++ targets :: rest) origin' w ws) := by
  -- A course that has not met its next stage leaves the vertex as one on its way.
  have hpass : ∀ {stages : Stages}, stages ≠ [] → t.Course stages false w ws →
      t.leaves w false = true := by
    intro stages hne hc
    cases hc with
    | done => exact absurd rfl hne
    | meet hl _ _ _ => exact hl
    | pass hl _ _ _ => exact hl
  cases before with
  | nil =>
    obtain ⟨hl, hw, ⟨hm, hc⟩ | ⟨-, hc⟩⟩ := course_cons_iff.mp h
    · exact ⟨hl, hw, .inl ⟨hm, hc, rfl⟩⟩
    · exact ⟨hl, hw, .inr ⟨hpass (List.cons_ne_nil _ _) hc, [], false, List.Subset.refl _, hc⟩⟩
  | cons stage before =>
    obtain ⟨hl, hw, ⟨hm, hc⟩ | ⟨-, hc⟩⟩ := course_cons_iff.mp h
    · refine ⟨hl, hw, .inr ⟨hopen stage List.mem_cons_self w hm, before, true, ?_, hc⟩⟩
      exact List.subset_cons_self stage before
    · exact ⟨hl, hw, .inr ⟨hpass (List.cons_ne_nil _ _) hc, stage :: before, false,
        List.Subset.refl _, hc⟩⟩

theorem Course.exists_prefix {before narrow wide : Stages} {goal goal' : List VertexId}
    {fresh : Bool} (hc : t.Course (before ++ (narrow ++ [goal])) origin v ws)
    (hcovers : List.Forall₂ t.Covers narrow wide) (hgoal : goal ⊆ goal')
    (hopen : ∀ stage ∈ before, ∀ x ∈ stage, t.leaves x false = true)
    (hfresh : t.leaves v origin = true → t.leaves v fresh = true) :
    ∃ us, us <+: ws ∧ t.Course (wide ++ [goal']) fresh v us := by
  induction ws generalizing before narrow wide origin fresh v with
  | nil => exact absurd rfl (hc.ne_nil (by simp))
  | cons w ws ih =>
    cases hcovers with
    | nil =>
      obtain ⟨hl, hw, hstep⟩ := Course.step hc hopen
      by_cases hm : w ∈ goal'
      · exact ⟨[w], by simp, .meet (hfresh hl) hw hm .done⟩
      · obtain ⟨hlw, before', origin', hsub, hc'⟩ := hstep.resolve_left fun h => hm (hgoal h.1)
        have hleave : t.leaves w origin' = true → t.leaves w false = true := fun _ => hlw
        obtain ⟨us, hus, hu⟩ := ih hc' .nil (fun s hs => hopen s (hsub hs)) hleave
        exact ⟨w :: us, List.cons_prefix_cons.mpr ⟨rfl, hus⟩, .pass (hfresh hl) hw hm hu⟩
    | @cons targets targets' narrow wide hcover hcovers =>
      obtain ⟨hl, hw, hstep⟩ := Course.step hc hopen
      by_cases hm : w ∈ targets'
      · rcases hstep with ⟨-, hc', -⟩ | ⟨hlw, before', origin', hsub, hc'⟩
        · -- Both meet the stage here.
          have hrest : t.Course ([] ++ (narrow ++ [goal])) true w ws := hc'
          obtain ⟨us, hus, hu⟩ := ih hrest hcovers (by simp) id
          exact ⟨w :: us, List.cons_prefix_cons.mpr ⟨rfl, hus⟩, .meet (hfresh hl) hw hm hu⟩
        · -- The course through the narrower stages is yet to meet this one.
          rw [List.append_cons] at hc'
          have hopen' : ∀ stage ∈ before' ++ [targets], ∀ x ∈ stage, t.leaves x false = true := by
            intro stage hs
            rcases List.mem_append.mp hs with hs | hs
            · exact hopen stage (hsub hs)
            · obtain rfl := List.mem_singleton.mp hs
              exact hcover.leaves hm hlw
          have hleave : t.leaves w origin' = true → t.leaves w true = true :=
            fun _ => leaves_of_leaves_false hlw true
          obtain ⟨us, hus, hu⟩ := ih hc' hcovers hopen' hleave
          exact ⟨w :: us, List.cons_prefix_cons.mpr ⟨rfl, hus⟩, .meet (hfresh hl) hw hm hu⟩
      · obtain ⟨hlw, before', origin', hsub, hc'⟩ :=
          hstep.resolve_left fun h => hm (hcover.1 h.1)
        have hleave : t.leaves w origin' = true → t.leaves w false = true := fun _ => hlw
        obtain ⟨us, hus, hu⟩ := ih hc' (.cons hcover hcovers) (fun s hs => hopen s (hsub hs)) hleave
        exact ⟨w :: us, List.cons_prefix_cons.mpr ⟨rfl, hus⟩, .pass (hfresh hl) hw hm hu⟩

theorem forall₂_covers_singletons {picks : List VertexId} {stages : Stages}
    (hpicks : List.Forall₂ (· ∈ ·) picks stages)
    (hkinds : t.transparent = false → List.Forall₂ (fun x stage => t.graph.isRegister x = true →
      ∀ y ∈ stage, t.graph.isRegister y = true) picks stages) :
    List.Forall₂ t.Covers (picks.map ([·])) stages := by
  rw [List.forall₂_map_left_iff, List.forall₂_iff_zip]
  refine ⟨hpicks.length_eq, fun {x stage} hmem => ⟨?_, ?_⟩⟩
  · simpa using List.forall₂_zip hpicks hmem
  · simp only [List.mem_singleton, exists_eq_left, leaves, Bool.false_or, Bool.or_eq_false_iff,
      Bool.not_eq_false']
    rintro ⟨ht, hr⟩
    exact fun y hy => ⟨ht, List.forall₂_zip (hkinds ht) hmem hr y hy⟩

end Terrain

namespace Graph

variable {g : Graph} {o : Options} {w : Waypoints} {p : Plan}

/-- If a path is found through one candidate of each point, a path no longer is found through the
points. Where registers bar the way, a register may be picked for a point to pass only if all
candidates of the point are registers. -/
theorem anyPath_of_candidates (hg : g.Built) (hp : g.plan o w = .ok p) {throughs : Stages}
    {finishes : List VertexId} (hstages : p.stages = throughs ++ [finishes]) {start : VertexId}
    (hstart : start ∈ p.starts) {picks : List VertexId}
    (hpicks : List.Forall₂ (· ∈ ·) picks throughs) {finish : VertexId} (hfinish : finish ∈ finishes)
    (hkinds : o.traverseRegisters = false → List.Forall₂ (fun x through =>
      g.isRegister x = true → ∀ y ∈ through, g.isRegister y = true) picks throughs)
    {narrow : List VertexId} (hnarrow : (p.terrain g o).shortest?
      ((picks ++ [finish]).map ([·])) [start] = some narrow) :
    ∃ path, g.anyPath o w = .ok path ∧ path ≠ [] ∧ path.length ≤ narrow.length := by
  have hwf : (p.terrain g o).graph.WellFormed := hg.wellFormed
  obtain ⟨⟨v, hv, ws, rfl, hc⟩, -⟩ := Terrain.shortest?_eq_some hwf hnarrow
  obtain rfl := List.mem_singleton.mp hv
  rw [List.map_append] at hc
  -- At first neither course has met a stage, and both begin where they may go on.
  have hcourse : (p.terrain g o).Course ([] ++ (picks.map ([·]) ++ [[finish]])) true v ws := hc
  obtain ⟨us, hus, hu⟩ := hcourse.exists_prefix (Terrain.forall₂_covers_singletons hpicks hkinds)
    (by simpa using hfinish) (by simp) id
  rw [← hstages] at hu
  have hvoid : p.isVoid = false := by
    simpa [Plan.isVoid, List.ne_nil_of_mem hstart] using hu.stage_ne_nil
  refine ⟨_, anyPath_of_plan hp hvoid, ?_⟩
  cases hs : (p.terrain g o).shortest? p.stages p.starts with
  | none => exact absurd hu ((Terrain.shortest?_eq_none_iff hwf).mp hs v hstart us)
  | some path =>
    obtain ⟨⟨v', _, ws', rfl, _⟩, hmin⟩ := Terrain.shortest?_eq_some hwf hs
    refine ⟨List.cons_ne_nil v' ws', ?_⟩
    calc (v' :: ws').length ≤ us.length + 1 := hmin v hstart us hu
      _ ≤ ws.length + 1 := Nat.succ_le_succ hus.length_le

def relay : Graph :=
  ofChains [(.inputPort, "s"), (.net, "t"), (.register, "tq"), (.register, "tr"),
    (.outputPort, "f")] [[0, 1, 2, 4], [0, 3]]

theorem anyPath_of_candidates_relay : relay.Built ∧
    relay.plan .wildcard ⟨"s", ["t?"], "f", []⟩ = .ok ⟨[0], [[2, 3], [4]], []⟩ ∧
    List.Forall₂ (· ∈ ·) [2] [[2, 3]] ∧
    List.Forall₂ (fun x through => relay.isRegister x = true →
      ∀ y ∈ through, relay.isRegister y = true) [2] [[2, 3]] ∧
    (Plan.terrain ⟨[0], [[2, 3], [4]], []⟩ relay .wildcard).shortest? [[2], [4]] [0] =
      some [0, 1, 2, 4] ∧
    ∃ path, relay.anyPath .wildcard ⟨"s", ["t?"], "f", []⟩ = .ok path ∧ path ≠ [] ∧
      path.length ≤ [0, 1, 2, 4].length := by
  have hp : relay.plan .wildcard ⟨"s", ["t?"], "f", []⟩ = .ok ⟨[0], [[2, 3], [4]], []⟩ := by
    decide +kernel
  have hpicks : List.Forall₂ (· ∈ ·) [2] [[2, 3]] := by simp
  have hkinds : List.Forall₂ (fun x through => relay.isRegister x = true →
      ∀ y ∈ through, relay.isRegister y = true) [2] [[2, 3]] :=
    .cons (fun _ => by decide +kernel) .nil
  have hnarrow : (Plan.terrain ⟨[0], [[2, 3], [4]], []⟩ relay .wildcard).shortest?
      [[2], [4]] [0] = some [0, 1, 2, 4] := by decide +kernel
  refine ⟨built_ofChains _ _, hp, hpicks, hkinds, hnarrow, ?_⟩
  exact anyPath_of_candidates (built_ofChains _ _) hp rfl (List.mem_singleton_self 0) hpicks
    (List.mem_singleton_self 4) (fun _ => hkinds) hnarrow

/-- The net matches as well, and is met first: the register behind it bars the way then, though a
path through the register alone is found. -/
theorem anyPath_eq_nil_of_mixed_candidates : relay.Built ∧
    relay.plan .wildcard ⟨"s", ["t*"], "f", []⟩ = .ok ⟨[0], [[1, 2, 3], [4]], []⟩ ∧
    List.Forall₂ (· ∈ ·) [2] [[1, 2, 3]] ∧
    (Plan.terrain ⟨[0], [[1, 2, 3], [4]], []⟩ relay .wildcard).shortest? [[2], [4]] [0] =
      some [0, 1, 2, 4] ∧
    relay.anyPath .wildcard ⟨"s", ["t*"], "f", []⟩ = .ok [] := by
  refine ⟨built_ofChains _ _, ?_, ?_, ?_, ?_⟩
  · decide +kernel
  · simp
  · decide +kernel
  · decide +kernel

end Graph

end CircuitTrace
