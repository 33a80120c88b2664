import CircuitTrace.Proofs.Matching
import CircuitTrace.Proofs.Pattern.Wildcard

namespace CircuitTrace

namespace Pattern

theorem mapChars_eq_self_iff {f : Char → Char} {s : String} :
    mapChars f s = s ↔ ∀ c ∈ s.toList, f c = c := by
  rw [mapChars, ← String.toList_inj, String.toList_ofList]
  conv_lhs => rhs; rw [← List.map_id s.toList]
  exact List.map_inj_left

theorem dotSlash_eq_self_iff {c : Char} : dotSlash c = c ↔ c ≠ '/' := by
  unfold dotSlash
  split_ifs with h
  · exact iff_of_false (h ▸ by decide) (not_not.mpr h)
  · exact iff_of_true rfl h

theorem mapChars_dotSlash_eq_self_iff {s : String} :
    mapChars dotSlash s = s ↔ '/' ∉ s.toList := by
  rw [mapChars_eq_self_iff]
  simp only [dotSlash_eq_self_iff]
  exact ⟨fun h hmem => h '/' hmem rfl, fun h c hc he => h (he ▸ hc)⟩

theorem replaces_self {ignoreMarkers : Bool} {c : Char} (h : ignoreMarkers = true ∨ c ≠ '/') :
    Replaces ignoreMarkers c [c] := by
  unfold Replaces
  split_ifs with hstar hquestion hmarker hslash
  · simp [hstar]
  · exact ⟨c, hquestion ▸ by decide, rfl⟩
  · simpa using hmarker.2
  · exact absurd ⟨h.resolve_right (not_not.mpr hslash), .inr (.inl hslash)⟩ hmarker
  · rfl

theorem count_le_of_replaces {c : Char} {part : List Char} (h : Replaces false c part) :
    [c].count '.' + [c].count '/' ≤ part.count '.' := by
  unfold Replaces at h
  split_ifs at h with hstar hquestion hmarker hslash
  · simp [hstar]
  · simp [hquestion]
  · exact hmarker.1.elim
  · subst h hslash
    decide
  · subst h
    simp [hslash, List.count_singleton]

/-- What arises from a wildcard has a dot for each dot and for each slash of it. -/
theorem Globs.count_le {cs name : List Char} (h : Globs false cs name) :
    cs.count '.' + cs.count '/' ≤ name.count '.' := by
  obtain ⟨parts, hparts, rfl⟩ := h
  induction hparts with
  | nil => simp
  | @cons c part cs parts hpart _ ih =>
    have hc := count_le_of_replaces hpart
    rw [List.flatten_cons, List.count_append, ← List.singleton_append, List.count_append,
      List.count_append]
    omega

theorem globs_self_iff {ignoreMarkers : Bool} {name : List Char} :
    Globs ignoreMarkers name name ↔ ignoreMarkers = true ∨ '/' ∉ name := by
  constructor
  · intro h
    cases ignoreMarkers with
    | true => exact .inl rfl
    | false =>
      have hcount := h.count_le
      exact .inr (List.count_eq_zero.mp (by omega))
  · intro h
    refine ⟨name.map ([·]), ?_, ?_⟩
    · rw [List.forall₂_map_right_iff, List.forall₂_same]
      exact fun c hc => replaces_self (h.imp_right fun hslash he => hslash (he ▸ hc))
    · rw [← List.flatMap_def]
      exact List.flatMap_singleton' name

theorem isMatch_self_iff {o : Options} (ho : o.matchMode ≠ .regex) (name : String) :
    ∃ p, compile o name = .ok p ∧
      (p.isMatch name = true ↔ o.ignoreMarkers = true ∨ '/' ∉ name.toList) := by
  cases hmode : o.matchMode with
  | exact =>
    cases hignore : o.ignoreMarkers with
    | true =>
      refine ⟨folded (foldMarkers name), by simp [compile, hmode, hignore], ?_⟩
      simp [isMatch]
    | false =>
      refine ⟨literal (mapChars dotSlash name), by simp [compile, hmode, hignore], ?_⟩
      rw [isMatch, beq_iff_eq, eq_comm, mapChars_dotSlash_eq_self_iff]
      simp
  | wildcard =>
    exact ⟨_, compile_wildcard hmode name, isMatch_wildcard_iff.trans globs_self_iff⟩
  | regex => exact absurd hmode ho

end Pattern

namespace Graph

variable {g : Graph} {o : Options}

theorem compile_exact_self (hmode : o.matchMode = .exact) (hignore : o.ignoreMarkers = false)
    {name : String} (h : '/' ∉ name.toList) : Pattern.compile o name = .ok (.literal name) := by
  simp [Pattern.compile, hmode, hignore, Pattern.mapChars_dotSlash_eq_self_iff.mpr h]

theorem matching_literal_self (hg : g.Built) {v : Vertex} (hv : v ∈ g.vertices)
    (hnamed : v.isNamed = true) : g.matching o (.literal v.name.text) .any = [v.id] := by
  have hfind : g.find? v.name.text = some v :=
    hg.nameIndex.find?_eq_some_iff.mpr ⟨hv, hnamed, rfl⟩
  simp [matching, Pattern.name?, hfind, Vertex.isEligible, hnamed]

/-- A named vertex is found by its own name, unless the name has a slash in it and markers are not
ignored; if names are compared as they are, nothing else is found. -/
theorem candidates_of_own_name (hg : g.Built) (ho : o.matchMode ≠ .regex) {v : Vertex}
    (hv : v ∈ g.vertices) (hnamed : v.isNamed = true) :
    ∃ r, g.candidates o v.name.text .any = .ok r ∧
      (v.id ∈ r.ids ↔ o.ignoreMarkers = true ∨ '/' ∉ v.name.text.toList) ∧
      (o.matchMode = .exact → o.ignoreMarkers = false → '/' ∉ v.name.text.toList →
        r = .unique v.id) := by
  obtain ⟨p, hp, hself⟩ := Pattern.isMatch_self_iff ho v.name.text
  have hvertex : g.vertices[v.id]? = some v := by
    obtain ⟨i, hi⟩ := Array.mem_iff_getElem?.mp hv
    rwa [hg.wellFormed.id_eq i v hi]
  have heligible : v.isEligible o .any = true := by simp [Vertex.isEligible, hnamed]
  refine ⟨_, candidates_of_compile g hp .any, ?_, fun hmode hignore hslash => ?_⟩
  · rw [Resolution.ids_ofIds, mem_matching_iff hg, ← hself]
    constructor
    · rintro ⟨u, hu, -, -, hmatch⟩
      exact Option.some.inj (hvertex.symm.trans hu) ▸ hmatch
    · exact fun hmatch => ⟨v, hvertex, hnamed, heligible, hmatch⟩
  · obtain rfl := Except.ok.inj (hp.symm.trans (compile_exact_self hmode hignore hslash))
    rw [matching_literal_self hg hv hnamed]
    rfl

def lookalikes : Graph :=
  ofChains [(.net, "top.a"), (.net, "top/a"), (.register, "m[3].*q")] [[0, 2]]

theorem candidates_of_own_name_lookalikes : lookalikes.Built ∧
    Options.matchMode {} ≠ .regex ∧
    ⟨2, .register, ⟨["m[3]", "*q"]⟩, none, none, none⟩ ∈ lookalikes.vertices ∧
    Vertex.isNamed ⟨2, .register, ⟨["m[3]", "*q"]⟩, none, none, none⟩ = true ∧
    Name.text ⟨["m[3]", "*q"]⟩ = "m[3].*q" ∧
    lookalikes.candidates {} "m[3].*q" .any = .ok (.unique 2) := by
  have hbuilt : lookalikes.Built := built_ofChains _ _
  have hmode : Options.matchMode {} ≠ .regex := by decide
  have hv : ⟨2, .register, ⟨["m[3]", "*q"]⟩, none, none, none⟩ ∈ lookalikes.vertices := by
    decide +kernel
  have hnamed : Vertex.isNamed ⟨2, .register, ⟨["m[3]", "*q"]⟩, none, none, none⟩ = true := by
    decide
  have htext : Name.text ⟨["m[3]", "*q"]⟩ = "m[3].*q" := by decide +kernel
  obtain ⟨r, hr, -, hunique⟩ := candidates_of_own_name hbuilt hmode hv hnamed
  have hslash : '/' ∉ (Name.text ⟨["m[3]", "*q"]⟩).toList := by decide +kernel
  obtain rfl := hunique rfl rfl hslash
  exact ⟨hbuilt, hmode, hv, hnamed, htext, htext ▸ hr⟩

/-- The name with a slash stands for the other net, compared as it is or taken for a wildcard. -/
theorem candidates_of_slashed_name : lookalikes.Built ∧
    ⟨1, .net, ⟨["top/a"]⟩, none, none, none⟩ ∈ lookalikes.vertices ∧
    Vertex.isNamed ⟨1, .net, ⟨["top/a"]⟩, none, none, none⟩ = true ∧
    Name.text ⟨["top/a"]⟩ = "top/a" ∧
    lookalikes.candidates {} "top/a" .any = .ok (.unique 0) ∧
    lookalikes.candidates .wildcard "top/a" .any = .ok (.unique 0) :=
  ⟨built_ofChains _ _, by decide +kernel, by decide, by decide +kernel, by decide +kernel,
    by decide +kernel⟩

end Graph

end CircuitTrace
