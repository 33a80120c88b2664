import CircuitTrace.Proofs.Matching
import CircuitTrace.Proofs.Outcome
import CircuitTrace.Proofs.Pattern.Wildcard
import CircuitTrace.Proofs.Search.AllPaths
import CircuitTrace.Proofs.Search.Candidates

namespace CircuitTrace

namespace Options

def fits (o : Options) (role : Role) (specifier : String) (v : Vertex) : Bool :=
  v.isEligible o role && (Pattern.compile o specifier).toOption.any (·.isMatch v.name.text)

def matchCount (o : Options) (vs : List Vertex) (role : Role) (specifier : String) : Nat :=
  vs.countP (o.fits role specifier)

def malformed? (o : Options) (specifier : String) : Option Error :=
  let source := Pattern.regexSource o.ignoreMarkers specifier
  match o.matchMode, Regex.read source.toList with
  | .regex, .error complaint => some (.usage (.malformedPattern source complaint))
  | _, _ => none

def unmatched? (o : Options) (vs : List Vertex) (role : Role) (specifier : String) :
    Option Error :=
  if o.matchCount vs role specifier = 0 ∧ o.errorOnUnmatched = true then
    some (.unresolved role specifier .noMatch)
  else none

def ambiguous? (o : Options) (vs : List Vertex) (role : Role) (specifier : String) :
    Option Error :=
  if 2 ≤ o.matchCount vs role specifier ∧ o.multiplicity = .requireUnique then
    some (.unresolved role specifier (.ambiguous (o.matchCount vs role specifier)))
  else none

/-- Neither point stands for a vertex in its own part, but each does in the part of the other. -/
def Reversed (o : Options) (vs : List Vertex) (start finish : String) : Prop :=
  o.matchCount vs .start start = 0 ∧ o.matchCount vs .finish finish = 0 ∧
    o.matchCount vs .finish start ≠ 0 ∧ o.matchCount vs .start finish ≠ 0

instance (o : Options) (vs : List Vertex) (start finish : String) :
    Decidable (o.Reversed vs start finish) :=
  inferInstanceAs (Decidable (_ ∧ _))

def reversed? (o : Options) (vs : List Vertex) (start finish : String) : Option Error :=
  if o.Reversed vs start finish then some (.rolesReversed start finish) else none

def pointComplaint? (o : Options) (vs : List Vertex) (role : Role) (specifier : String) :
    Option Error :=
  (o.malformed? specifier).or ((o.unmatched? vs role specifier).or (o.ambiguous? vs role specifier))

end Options

namespace Waypoints

def stops (w : Waypoints) : List (Role × String) :=
  w.start.toList.map (.start, ·) ++ w.finish.toList.map (.finish, ·) ++ w.through.map (.through, ·)

/-- All points of a query, in the order in which they are resolved. -/
def points (w : Waypoints) : List (Role × String) := w.stops ++ w.avoid.map (.avoid, ·)

/-- What may be wrong with a query, in order of precedence. -/
def complaints (w : Waypoints) (o : Options) (vs : List Vertex) : List (Option Error) :=
  [if w.start = none then some (.usage (.pathWithout .start)) else none,
    if w.finish = none then some (.usage (.pathWithout .finish)) else none,
    w.start.bind o.malformed?,
    w.finish.bind o.malformed?,
    w.start.bind fun start => w.finish.bind (o.reversed? vs start)] ++
  w.points.map fun (role, point) => o.pointComplaint? vs role point

def complaint? (w : Waypoints) (o : Options) (vs : List Vertex) : Option Error :=
  (w.complaints o vs).findSome? id

end Waypoints

theorem Pattern.reports_compile (o : Options) (specifier : String) :
    Reports (compile o specifier) (o.malformed? specifier) (compile o specifier = .ok ·) := by
  unfold compile Options.malformed?
  cases o.matchMode with
  | exact => exact .ok rfl rfl
  | wildcard =>
    dsimp only
    rw [parse_wildcardSource]
    exact .ok rfl rfl
  | regex =>
    dsimp only
    cases Regex.read (regexSource o.ignoreMarkers specifier).toList with
    | error k => exact .error rfl
    | ok r => exact .ok rfl rfl

namespace Graph

variable {g : Graph} {o : Options} {specifier : String} {role : Role}

theorem length_matching (hg : g.Built) {p : Pattern} (hp : Pattern.compile o specifier = .ok p)
    (role : Role) : (g.matching o p role).length =
      o.matchCount g.vertices.toList role specifier := by
  have hfits (v : Vertex) : ((v.isEligible o role && p.isMatch v.name.text) && v.isNamed) =
      o.fits role specifier v := by
    cases hnamed : v.isNamed <;> simp [Options.fits, Vertex.isEligible, hp, hnamed, Except.toOption]
  rw [matching_eq_scan hg, scan, named, List.length_map, ← List.countP_eq_length_filter,
    List.countP_filter, Options.matchCount]
  exact List.countP_congr fun v _ => by rw [hfits]

theorem reports_candidates (hg : g.Built) (specifier : String) (role : Role) :
    Reports (g.candidates o specifier role) (o.malformed? specifier) fun r =>
      ∃ ids, r = .ofIds ids ∧ ids.length = o.matchCount g.vertices.toList role specifier :=
  (Pattern.reports_compile o specifier).bind_ok fun _ hp =>
    ⟨_, rfl, _, rfl, length_matching hg hp role⟩

/-- The policies on none and on several vertices. -/
theorem reports_accept {vs : List Vertex} {ids : List VertexId}
    (hids : ids.length = o.matchCount vs role specifier) :
    Reports ((Resolution.ofIds ids).accept o specifier role)
      ((o.unmatched? vs role specifier).or (o.ambiguous? vs role specifier))
      fun ids => ids.length = o.matchCount vs role specifier := by
  simp only [Resolution.accept_ofIds, Options.unmatched?, Options.ambiguous?, ← hids,
    List.length_eq_zero_iff]
  split_ifs
  · exact .error rfl
  · exact .error rfl
  · exact .error rfl
  · exact .ok rfl rfl

theorem reports_resolve (hg : g.Built) (specifier : String) (role : Role) :
    Reports (g.resolve o specifier role)
      (o.pointComplaint? g.vertices.toList role specifier)
      fun ids => ids.length = o.matchCount g.vertices.toList role specifier := by
  refine (reports_candidates hg specifier role).bind ?_
  rintro _ - ⟨ids, rfl, hids⟩
  exact reports_accept hids

theorem reports_resolveEndpoints (hg : g.Built) (start finish : String) :
    Reports (g.resolveEndpoints o start finish)
      ((o.malformed? start).or ((o.malformed? finish).or
        ((o.reversed? g.vertices.toList start finish).or
          ((o.pointComplaint? g.vertices.toList .start start).or
            (o.pointComplaint? g.vertices.toList .finish finish)))))
      fun ids => ids.1.length = o.matchCount g.vertices.toList .start start ∧
        ids.2.length = o.matchCount g.vertices.toList .finish finish := by
  refine (reports_candidates hg start .start).bind ?_
  rintro _ hstart ⟨starts, rfl, hstarts⟩
  refine (reports_candidates hg finish .finish).bind ?_
  rintro _ hfinish ⟨finishes, rfl, hfinishes⟩
  -- Both patterns have been read once, so that they are not malformed in the other part.
  obtain ⟨_, hsf, asFinish, rfl, hasFinish⟩ :=
    (reports_candidates hg start .finish).exists_ok hstart
  obtain ⟨_, hfs, asStart, rfl, hasStart⟩ :=
    (reports_candidates hg finish .start).exists_ok hfinish
  rw [hsf, hfs, Options.pointComplaint?, Options.pointComplaint?, hstart, hfinish,
    Option.none_or, Option.none_or]
  have hreversed : (Resolution.ofIds starts).isNone && (Resolution.ofIds finishes).isNone &&
      !(Resolution.ofIds asFinish).isNone && !(Resolution.ofIds asStart).isNone ↔
      o.Reversed g.vertices.toList start finish := by
    simp [Resolution.isNone, Options.Reversed, ← hstarts, ← hfinishes, ← hasFinish, ← hasStart,
      and_assoc]
  simp only [ok_bind, Options.reversed?]
  by_cases hrev : o.Reversed g.vertices.toList start finish
  · rw [if_pos (hreversed.mpr hrev), if_pos hrev]
    exact .error rfl
  · rw [if_neg (mt hreversed.mp hrev), if_neg hrev, Option.none_or]
    refine (reports_accept hstarts).bind fun ss _ hss => ?_
    exact (reports_accept hfinishes).bind_ok fun fs hfs => ⟨_, rfl, hss, hfs⟩

theorem reports_points (hg : g.Built) (role : Role) (points : List String) :
    Reports (points.mapM fun point => g.resolve o point role)
      (points.findSome? (o.pointComplaint? g.vertices.toList role))
      (List.Forall₂ (fun point ids =>
        List.length ids = o.matchCount g.vertices.toList role point) points) :=
  Reports.mapM fun point _ => reports_resolve hg point role

theorem any_isEmpty_iff {count : String → Nat} {points : List String}
    {idss : List (List VertexId)}
    (h : List.Forall₂ (fun point ids => List.length ids = count point) points idss) :
    idss.any List.isEmpty = true ↔ ∃ point ∈ points, count point = 0 := by
  induction h with
  | nil => simp
  | cons hids _ ih => simp [ih, ← hids]

end Graph

theorem Waypoints.complaint?_of_ends {w : Waypoints} {start finish : String}
    (hstart : w.start = some start) (hfinish : w.finish = some finish) (o : Options)
    (vs : List Vertex) : w.complaint? o vs =
      ((o.malformed? start).or ((o.malformed? finish).or ((o.reversed? vs start finish).or
        ((o.pointComplaint? vs .start start).or (o.pointComplaint? vs .finish finish))))).or
      ((w.through.findSome? (o.pointComplaint? vs .through)).or
        (w.avoid.findSome? (o.pointComplaint? vs .avoid))) := by
  simp [complaint?, complaints, points, stops, hstart, hfinish, findSome?_cons_or,
    List.findSome?_map, Function.comp_def, Option.or_assoc]

namespace Graph

variable {g : Graph} {o : Options} {w : Waypoints}

theorem isVoid_iff {vs : List Vertex} {start finish : String} (hstart : w.start = some start)
    (hfinish : w.finish = some finish) {starts finishes avoid : List VertexId} {throughs : Stages}
    (hstarts : starts.length = o.matchCount vs .start start)
    (hfinishes : finishes.length = o.matchCount vs .finish finish)
    (hthroughs : List.Forall₂ (fun point ids =>
      List.length ids = o.matchCount vs .through point) w.through throughs) :
    Plan.isVoid ⟨starts, throughs ++ [finishes], avoid⟩ = true ↔
      ∃ role point, (role, point) ∈ w.stops ∧ o.matchCount vs role point = 0 := by
  have hstops : (∃ role point, (role, point) ∈ w.stops ∧ o.matchCount vs role point = 0) ↔
      o.matchCount vs .start start = 0 ∨ o.matchCount vs .finish finish = 0 ∨
        ∃ point ∈ w.through, o.matchCount vs .through point = 0 := by
    simp [Waypoints.stops, hstart, hfinish, or_and_right, exists_or, and_assoc, and_comm]
  rw [hstops, ← any_isEmpty_iff hthroughs, ← hstarts, ← hfinishes, Plan.isVoid,
    Bool.or_eq_true, List.any_append, Bool.or_eq_true, List.isEmpty_iff,
    List.length_eq_zero_iff, List.length_eq_zero_iff, or_comm (a := finishes = [])]
  simp

theorem reports_plan (hg : g.Built) (o : Options) (w : Waypoints) :
    Reports (g.plan o w) (w.complaint? o g.vertices.toList) fun p => p.isVoid = true ↔
      ∃ role point, (role, point) ∈ w.stops ∧
        o.matchCount g.vertices.toList role point = 0 := by
  unfold plan
  cases hstart : w.start with
  | none =>
    simp only [Waypoints.endpoints, hstart]
    exact .error (by simp [Waypoints.complaint?, Waypoints.complaints, hstart])
  | some start =>
    cases hfinish : w.finish with
    | none =>
      simp only [Waypoints.endpoints, hstart, hfinish]
      exact .error (by simp [Waypoints.complaint?, Waypoints.complaints, hstart, hfinish])
    | some finish =>
      rw [Waypoints.complaint?_of_ends hstart hfinish]
      simp only [Waypoints.endpoints, hstart, hfinish, ok_bind]
      refine (reports_resolveEndpoints hg start finish).bind ?_
      rintro ⟨starts, finishes⟩ - ⟨hstarts, hfinishes⟩
      refine (reports_points hg .through w.through).bind fun throughs _ hthroughs => ?_
      exact (reports_points hg .avoid w.avoid).bind_ok fun avoids _ =>
        ⟨_, rfl, isVoid_iff hstart hfinish hstarts hfinishes hthroughs⟩

/-- Any named vertex may play a part that is not restricted, so that points are interchanged only
where both parts are. -/
theorem restricted_of_reversed {vs : List Vertex} {start finish : String}
    (h : o.Reversed vs start finish) : o.restrictStart = true ∧ o.restrictFinish = true := by
  obtain ⟨hstart, hfinish, hasFinish, hasStart⟩ := h
  have hle (role role' : Role) (specifier : String)
      (himp : ∀ v : Vertex, v.isEligible o role = true → v.isEligible o role' = true) :
      o.matchCount vs role specifier ≤ o.matchCount vs role' specifier := by
    refine List.countP_mono_left fun v _ hv => ?_
    rw [Options.fits, Bool.and_eq_true] at hv ⊢
    exact ⟨himp v hv.1, hv.2⟩
  constructor
  · by_contra hrestrict
    have := hle .finish .start start fun v hv => by simp_all [Vertex.isEligible]
    omega
  · by_contra hrestrict
    have := hle .start .finish finish fun v hv => by simp_all [Vertex.isEligible]
    omega

theorem reports_anyPath (hg : g.Built) (o : Options) (w : Waypoints) :
    Reports (g.anyPath o w) (w.complaint? o g.vertices.toList) fun _ => True := by
  refine (reports_plan hg o w).bind_ok fun p _ => ?_
  split_ifs
  · exact ⟨_, rfl, trivial⟩
  · exact ⟨_, rfl, trivial⟩

theorem reports_allPaths (hg : g.Built) (o : Options) (w : Waypoints) (limits : Limits) :
    Reports (g.allPaths o w limits) (w.complaint? o g.vertices.toList) fun _ => True := by
  refine (reports_plan hg o w).bind_ok fun p _ => ?_
  split_ifs
  · exact ⟨_, rfl, trivial⟩
  · exact ⟨_, rfl, trivial⟩

/-- A query for one path and one for all of them fail with the first complaint about the query,
whatever edges the graph has and whatever the limits are, and succeed if there is none. -/
theorem query_error_iff (hg : g.Built) (o : Options) (w : Waypoints) :
    (∀ e, g.anyPath o w = .error e ↔ w.complaint? o g.vertices.toList = some e) ∧
    (∀ limits e, g.allPaths o w limits = .error e ↔
      w.complaint? o g.vertices.toList = some e) ∧
    (∀ g' : Graph, g'.Built → g'.vertices = g.vertices →
      ∀ e, g'.anyPath o w = .error e ↔ g.anyPath o w = .error e) ∧
    (∀ start finish, o.Reversed g.vertices.toList start finish →
      o.restrictStart = true ∧ o.restrictFinish = true) ∧
    (w.complaint? o g.vertices.toList = none →
      (∃ role point, (role, point) ∈ w.stops ∧ o.matchCount g.vertices.toList role point = 0) →
      g.anyPath o w = .ok [] ∧ ∀ limits, g.allPaths o w limits = .ok ⟨[], false⟩) := by
  refine ⟨(reports_anyPath hg o w).eq_error_iff, fun limits =>
    (reports_allPaths hg o w limits).eq_error_iff, ?_, fun _ _ => restricted_of_reversed, ?_⟩
  · intro g' hg' hvertices e
    rw [(reports_anyPath hg' o w).eq_error_iff, (reports_anyPath hg o w).eq_error_iff, hvertices]
  · intro hnone hstop
    obtain ⟨p, hp, hvoid⟩ := (reports_plan hg o w).exists_ok hnone
    have hvoid := hvoid.mpr hstop
    exact ⟨anyPath_of_isVoid hp hvoid, fun limits => allPaths_of_isVoid hp hvoid limits⟩

/-- That nothing matches the start is tolerated, but not that three vertices match the point to
avoid. -/
theorem query_error_iff_relay : relay.Built ∧
    relay.anyPath { matchMode := .wildcard, errorOnUnmatched := false }
      ⟨"nowhere", [], "f", ["t*"]⟩ = .error (.unresolved .avoid "t*" (.ambiguous 3)) ∧
    ∀ limits, relay.allPaths { matchMode := .wildcard, errorOnUnmatched := false }
      ⟨"nowhere", [], "f", ["t*"]⟩ limits = .error (.unresolved .avoid "t*" (.ambiguous 3)) := by
  have hbuilt : relay.Built := built_ofChains _ _
  have hcomplaint : Waypoints.complaint? ⟨"nowhere", [], "f", ["t*"]⟩
      { matchMode := .wildcard, errorOnUnmatched := false } relay.vertices.toList =
      some (.unresolved .avoid "t*" (.ambiguous 3)) := by decide +kernel
  obtain ⟨hany, hall, -⟩ := query_error_iff hbuilt
    { matchMode := .wildcard, errorOnUnmatched := false } ⟨"nowhere", [], "f", ["t*"]⟩
  exact ⟨hbuilt, (hany _).mpr hcomplaint, fun limits => (hall limits _).mpr hcomplaint⟩

end Graph

end CircuitTrace
