import CircuitTrace.Proofs.Search.AllPaths
import CircuitTrace.Proofs.Search.Fan

namespace CircuitTrace

namespace Netlist

variable {n : Netlist} {o : Options} {specifier : String} {role : Role}

theorem exists?_eq_ok_true_iff : n.exists? o specifier role false = .ok true ↔
    ∃ ids, n.graph.resolve o specifier role = .ok ids ∧ ids ≠ [] := by
  simp only [Graph.resolve_eq_ok_iff]
  constructor
  · intro h
    obtain ⟨r, hr, h⟩ := bind_eq_ok_iff.mp h
    cases r with
    | none => cases h
    | unique id => exact ⟨[id], ⟨_, hr, rfl⟩, List.cons_ne_nil id []⟩
    | many ids =>
      obtain ⟨accepted, ha, h⟩ := bind_eq_ok_iff.mp h
      exact ⟨accepted, ⟨_, hr, ha⟩, by simpa using Except.ok.inj h⟩
  · rintro ⟨ids, ⟨r, hr, ha⟩, hne⟩
    refine bind_eq_ok_iff.mpr ⟨r, hr, ?_⟩
    cases r with
    | none => exact absurd (Resolution.ids_of_accept ha).symm hne
    | unique id => rfl
    | many ids' => exact bind_eq_ok_iff.mpr ⟨ids, ha, by simpa [pure, Except.pure] using hne⟩

end Netlist

namespace Graph

variable {g : Graph} {o : Options} {w : Waypoints}

theorem exists_answers_of_plan {p : Plan} (hp : g.plan o w = .ok p) :
    (∃ path, g.anyPath o w = .ok path) ∧ ∀ limits, ∃ all, g.allPaths o w limits = .ok all := by
  cases hv : p.isVoid with
  | true => exact ⟨⟨_, anyPath_of_isVoid hp hv⟩, fun limits => ⟨_, allPaths_of_isVoid hp hv limits⟩⟩
  | false => exact ⟨⟨_, anyPath_of_plan hp hv⟩, fun limits => ⟨_, allPaths_of_plan hp hv limits⟩⟩

theorem resolve_of_pathExists (h : g.pathExists o w = .ok true) :
    ∃ start finish starts finishes, w.start = some start ∧ w.finish = some finish ∧
      g.resolve o start .start = .ok starts ∧ starts ≠ [] ∧
      g.resolve o finish .finish = .ok finishes ∧ finishes ≠ [] := by
  obtain ⟨path, hpath, h⟩ := bind_eq_ok_iff.mp h
  obtain ⟨p, hp, hanswer⟩ := bind_eq_ok_iff.mp hpath
  -- Nothing is searched if some point stands for no vertex.
  have hv : p.isVoid = false := by
    by_contra hvoid
    rw [if_pos (Bool.eq_true_of_not_eq_false hvoid)] at hanswer
    obtain rfl : [] = path := Except.ok.inj hanswer
    exact absurd (Except.ok.inj h) (by decide)
  have hresolves := resolves_of_plan hp
  obtain ⟨start, hstart, hs⟩ := hresolves.start
  obtain ⟨throughs, finishes, -, ⟨finish, hfinish, hf⟩, hstages⟩ := hresolves.stages
  simp only [Plan.isVoid, hstages, Bool.or_eq_false_iff, List.any_append, List.any_cons,
    List.isEmpty_eq_false_iff] at hv
  exact ⟨start, finish, p.starts, finishes, hstart, hfinish, hs, hv.1, hf, hv.2.2.1⟩

end Graph

namespace Netlist

/-- If the checks of a start and of a finish pass, every query from the one to the other and every
fan of theirs is answered. Where a path runs from the one to the other, both checks pass. -/
theorem checks_predict_queries (n : Netlist) (o : Options) (start finish : String) :
    (n.exists? o start .start false = .ok true → n.exists? o finish .finish false = .ok true →
      (∃ answer, n.graph.pathExists o (.between start finish) = .ok answer) ∧
      (∃ path, n.graph.anyPath o (.between start finish) = .ok path) ∧
      (∀ limits, ∃ all, n.graph.allPaths o (.between start finish) limits = .ok all) ∧
      (∃ paths, n.graph.fanOut o start = .ok paths) ∧
      ∃ paths, n.graph.fanIn o finish = .ok paths) ∧
    (n.graph.pathExists o (.between start finish) = .ok true →
      n.exists? o start .start false = .ok true ∧ n.exists? o finish .finish false = .ok true) := by
  constructor
  · intro hstart hfinish
    obtain ⟨starts, hs, hne⟩ := exists?_eq_ok_true_iff.mp hstart
    obtain ⟨finishes, hf, -⟩ := exists?_eq_ok_true_iff.mp hfinish
    obtain ⟨⟨path, hpath⟩, hall⟩ := Graph.exists_answers_of_plan (Graph.plan_between hs hne hf)
    have hexists : n.graph.pathExists o (.between start finish) = .ok !path.isEmpty :=
      bind_eq_ok_iff.mpr ⟨path, hpath, rfl⟩
    exact ⟨⟨_, hexists⟩, ⟨path, hpath⟩, hall, ⟨_, Graph.fanOut_of_resolve hs⟩,
      ⟨_, Graph.fanIn_of_resolve hf⟩⟩
  · intro h
    obtain ⟨_, _, starts, finishes, ⟨⟩, ⟨⟩, hs, hsne, hf, hfne⟩ := Graph.resolve_of_pathExists h
    exact ⟨exists?_eq_ok_true_iff.mpr ⟨starts, hs, hsne⟩,
      exists?_eq_ok_true_iff.mpr ⟨finishes, hf, hfne⟩⟩

theorem checks_predict_queries_feedback :
    exists? ⟨Graph.feedback, default⟩ .wildcard "?" .start false = .ok true ∧
    exists? ⟨Graph.feedback, default⟩ .wildcard "?" .finish false = .ok true ∧
    (∃ answer, Graph.feedback.pathExists .wildcard (.between "?" "?") = .ok answer) ∧
    (∃ path, Graph.feedback.anyPath .wildcard (.between "?" "?") = .ok path) ∧
    (∀ limits, ∃ all, Graph.feedback.allPaths .wildcard (.between "?" "?") limits = .ok all) ∧
    (∃ paths, Graph.feedback.fanOut .wildcard "?" = .ok paths) ∧
    ∃ paths, Graph.feedback.fanIn .wildcard "?" = .ok paths := by
  have h := checks_predict_queries ⟨Graph.feedback, default⟩ .wildcard "?" "?"
  have hexists : Graph.feedback.pathExists .wildcard (.between "?" "?") = .ok true := by
    decide +kernel
  obtain ⟨hstart, hfinish⟩ := h.2 hexists
  exact ⟨hstart, hfinish, h.1 hstart hfinish⟩

end Netlist

end CircuitTrace
