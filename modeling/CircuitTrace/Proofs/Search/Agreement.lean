import CircuitTrace.Proofs.Search.AllPaths
import CircuitTrace.Proofs.Search.Fan

namespace CircuitTrace

namespace Terrain

variable {t : Terrain} {origin : Bool} {targets : List VertexId} {v w : VertexId}

/-- A course to one stage may be broken off at a vertex on its way, and whatever course goes on from
there takes the place of the rest. -/
theorem Course.reroute {before after : List VertexId}
    (h : t.Course [targets] origin v (before ++ w :: after)) (hne : after ≠ []) :
    w ∉ targets ∧ t.Course [targets] false w after ∧
      ∀ ws, t.Course [targets] false w ws → t.Course [targets] origin v (before ++ w :: ws) := by
  induction before generalizing origin v with
  | nil =>
    obtain ⟨hl, hw, ⟨-, hc⟩ | ⟨hm, hc⟩⟩ := course_cons_iff.mp h
    · exact absurd (course_nil_left.mp hc) hne
    · exact ⟨hm, hc, fun ws hws => .pass hl hw hm hws⟩
  | cons u before ih =>
    obtain ⟨hl, hu, ⟨-, hc⟩ | ⟨hm, hc⟩⟩ := course_cons_iff.mp h
    · exact absurd (course_nil_left.mp hc) (List.append_ne_nil_of_right_ne_nil _ (by simp))
    · obtain ⟨hwt, hrest, hjoin⟩ := ih hc
      exact ⟨hwt, hrest, fun ws hws => .pass hl hu hm (hjoin ws hws)⟩

theorem Course.of_origin_false {stages : Stages} {ws : List VertexId}
    (h : t.Course stages false v ws) (origin : Bool) : t.Course stages origin v ws := by
  cases h with
  | done => exact .done
  | meet hl hw hm hc => exact .meet (leaves_of_leaves_false hl origin) hw hm hc
  | pass hl hw hm hc => exact .pass (leaves_of_leaves_false hl origin) hw hm hc

theorem Course.exists_shorter {before loop after : List VertexId}
    (h : t.Course [targets] origin v (before ++ w :: (loop ++ w :: after))) :
    ∃ us, us.length < (before ++ w :: (loop ++ w :: after)).length ∧
      t.Course [targets] origin v us := by
  obtain ⟨hnot, hrest, hjoin⟩ := h.reroute (List.append_ne_nil_of_right_ne_nil _ (by simp))
  by_cases hafter : after = []
  · -- The course would have arrived on its first visit.
    obtain ⟨-, e, he, hlast⟩ := hrest.clear
    rw [hafter, List.getLast?_concat] at hlast
    exact absurd (Option.some.inj hlast ▸ he) hnot
  · refine ⟨before ++ w :: after, ?_, hjoin after (hrest.reroute hafter).2.1⟩
    simp only [List.length_append, List.length_cons]
    omega

theorem Course.isSimple_of_shortest {ws : List VertexId} (hc : t.Course [targets] true v ws)
    (hmin : ∀ us, t.Course [targets] true v us → ws.length ≤ us.length) : IsSimple (v :: ws) := by
  have htail : ws.Nodup := by
    rw [List.nodup_iff_sublist]
    intro w hsub
    obtain ⟨r, r', rfl, hw, hw'⟩ := List.cons_sublist_iff.mp hsub
    obtain ⟨before, loop, rfl⟩ := List.append_of_mem hw
    obtain ⟨loop', after, rfl⟩ := List.append_of_mem (List.singleton_sublist.mp hw')
    have hloop : before ++ w :: loop ++ (loop' ++ w :: after) =
        before ++ w :: ((loop ++ loop') ++ w :: after) := by simp
    rw [hloop] at hc hmin
    obtain ⟨us, hlt, hu⟩ := hc.exists_shorter
    exact absurd (hmin us hu) (Nat.not_le.mpr hlt)
  have hne := hc.ne_nil (List.cons_ne_nil targets [])
  -- From the start a course may go on just as well on its first visit as on a later one.
  have hstart : v ∉ ws.dropLast := by
    intro hv
    obtain ⟨before, after, hsplit⟩ := List.append_of_mem hv
    rw [← List.dropLast_concat_getLast hne, hsplit, List.append_assoc, List.cons_append] at hc hmin
    have hrest := (hc.reroute (by simp)).2.1
    have hle := hmin _ (hrest.of_origin_false true)
    simp only [List.length_append, List.length_cons] at hle
    omega
  rw [isSimple_iff, List.dropLast_cons_of_ne_nil hne, List.nodup_cons]
  exact ⟨⟨hstart, htail.sublist (List.dropLast_sublist ws)⟩, htail⟩

theorem mem_enumerate_of_shortest (hg : t.graph.WellFormed) {starts path : List VertexId}
    (h : t.shortest? [targets] starts = some path) :
    path ∈ (t.enumerate .unbounded [targets] starts).paths := by
  obtain ⟨⟨v, hv, ws, rfl, hc⟩, hmin⟩ := shortest?_eq_some hg h
  rw [mem_enumerate_unbounded_iff hg (List.cons_ne_nil _ _)]
  refine ⟨⟨v, hv, ws, rfl, hc⟩, hc.isSimple_of_shortest fun us hu => ?_⟩
  exact Nat.succ_le_succ_iff.mp (hmin v hv us hu)

end Terrain

namespace Graph

variable {g : Graph} {o : Options} {w : Waypoints} {p : Plan}

/-- The path found has no more vertices than any path listed within limits. Without points to pass
it is itself listed, and there is none to find only if none is listed. -/
theorem anyPath_allPaths (hg : g.Built) (hp : g.plan o w = .ok p) (limits : Limits) :
    ∃ path part all, g.anyPath o w = .ok path ∧ g.allPaths o w limits = .ok part ∧
      g.allPaths o w .unbounded = .ok all ∧
      (∀ q ∈ part.paths, path ≠ [] ∧ path.length ≤ q.length) ∧
      (w.through = [] → (path = [] ↔ all.paths = []) ∧
        (path ≠ [] → path ∈ all.paths ∧ IsSimple path)) := by
  cases hv : p.isVoid with
  | true =>
    refine ⟨_, _, _, anyPath_of_isVoid hp hv, allPaths_of_isVoid hp hv _,
      allPaths_of_isVoid hp hv _, ?_, fun _ => ⟨iff_of_true rfl rfl, fun h => absurd rfl h⟩⟩
    exact fun q hq => absurd hq List.not_mem_nil
  | false =>
    refine ⟨_, _, _, anyPath_of_plan hp hv, allPaths_of_plan hp hv _, allPaths_of_plan hp hv _, ?_⟩
    have hwf : (p.terrain g o).graph.WellFormed := hg.wellFormed
    have hpart := (p.terrain g o).enumerate_sublist limits p.stages p.starts
    have hmem : ∀ q, q ∈ ((p.terrain g o).enumerate .unbounded p.stages p.starts).paths ↔
        (∃ v ∈ p.starts, ∃ ws, q = v :: ws ∧ (p.terrain g o).Course p.stages true v ws) ∧
          IsSimple q :=
      fun q => Terrain.mem_enumerate_unbounded_iff hwf (stages_ne_nil_of_plan hp)
    cases hs : (p.terrain g o).shortest? p.stages p.starts with
    | none =>
      have hnone := (Terrain.shortest?_eq_none_iff hwf).mp hs
      have hempty : ∀ q, q ∉ ((p.terrain g o).enumerate .unbounded p.stages p.starts).paths := by
        intro q hq
        obtain ⟨⟨v, hv, ws, -, hc⟩, -⟩ := (hmem q).mp hq
        exact hnone v hv ws hc
      refine ⟨fun q hq => absurd (hpart.subset hq) (hempty q), fun _ => ⟨?_, fun h => absurd rfl h⟩⟩
      exact iff_of_true rfl (List.eq_nil_iff_forall_not_mem.mpr hempty)
    | some path =>
      obtain ⟨⟨v, _, ws, rfl, _⟩, hmin⟩ := Terrain.shortest?_eq_some hwf hs
      constructor
      · intro q hq
        obtain ⟨⟨u, hu, us, rfl, hd⟩, -⟩ := (hmem q).mp (hpart.subset hq)
        exact ⟨List.cons_ne_nil v ws, hmin u hu us hd⟩
      · intro hw
        obtain ⟨finishes, hstages⟩ := stages_of_through_eq_nil hp hw
        have hlisted :
            v :: ws ∈ ((p.terrain g o).enumerate .unbounded p.stages p.starts).paths := by
          rw [hstages] at hs ⊢
          exact Terrain.mem_enumerate_of_shortest hwf hs
        refine ⟨iff_of_false (List.cons_ne_nil v ws) (List.ne_nil_of_mem hlisted), fun _ => ?_⟩
        exact ⟨hlisted, ((hmem _).mp hlisted).2⟩

theorem anyPath_allPaths_loop : feedback.Built ∧
    feedback.plan {} (.between "q" "q") = .ok ⟨[1], [[1]], []⟩ ∧
    ∃ path part all, feedback.anyPath {} (.between "q" "q") = .ok path ∧
      feedback.allPaths {} (.between "q" "q") ⟨some 1, none⟩ = .ok part ∧
      feedback.allPaths {} (.between "q" "q") .unbounded = .ok all ∧
      (∀ q ∈ part.paths, path ≠ [] ∧ path.length ≤ q.length) ∧
      ((Waypoints.between "q" "q").through = [] → (path = [] ↔ all.paths = []) ∧
        (path ≠ [] → path ∈ all.paths ∧ IsSimple path)) := by
  have hp : feedback.plan {} (.between "q" "q") = .ok ⟨[1], [[1]], []⟩ := by decide +kernel
  exact ⟨built_feedback, hp, anyPath_allPaths built_feedback hp ⟨some 1, none⟩⟩

end Graph

end CircuitTrace
