import CircuitTrace.Listing
import CircuitTrace.Proofs.Acceptance
import CircuitTrace.Proofs.Graph.Construction
import CircuitTrace.Proofs.Graph.NameIndex
import CircuitTrace.Proofs.Resolution
import CircuitTrace.Proofs.Unicode.ByteOrder
import Mathlib.Data.List.Sort

namespace CircuitTrace

open Unicode (utf8)

/-- A vertex without the number that it got when it was added. -/
def Vertex.unnumbered (v : Vertex) : Vertex := { v with id := 0 }

namespace VertexListing

/-- By the sort key alone one vertex comes before the other. Texts are compared by their bytes. -/
def KeyBefore (types : Registry) : VertexSort → Vertex → Vertex → Prop
  | .name, _, _ => False
  | .kind, a, b => a.kind.rank < b.kind.rank
  | .type, a, b => utf8 (typeText types a) < utf8 (typeText types b)
  | .direction, a, b => a.direction.rank < b.direction.rank

def KeyEqual (types : Registry) : VertexSort → Vertex → Vertex → Prop
  | .name, _, _ => True
  | .kind, a, b => a.kind = b.kind
  | .type, a, b => typeText types a = typeText types b
  | .direction, a, b => a.direction = b.direction

def Precedes (types : Registry) (key : VertexSort) (a b : Vertex) : Prop :=
  KeyBefore types key a b ∨ KeyEqual types key a b ∧ utf8 a.name.text < utf8 b.name.text

variable {types : Registry} {key : VertexSort} {a b : Vertex}

theorem compare_text_eq_lt_iff {s t : String} : compare s t = .lt ↔ utf8 s < utf8 t :=
  compareOfLessAndEq_eq_lt.trans Unicode.lt_iff_utf8_lt

theorem keyOrder_eq_lt_iff : keyOrder types key a b = .lt ↔ KeyBefore types key a b := by
  cases key with
  | name => simp [keyOrder, KeyBefore]
  | kind => exact Nat.compare_eq_lt
  | type => exact compare_text_eq_lt_iff
  | direction => exact Nat.compare_eq_lt

theorem keyOrder_eq_eq_iff : keyOrder types key a b = .eq ↔ KeyEqual types key a b := by
  have hkind (k l : VertexKind) : k.rank = l.rank → k = l := by cases k <;> cases l <;> decide
  have hdirection (d e : PortDirection) : d.rank = e.rank → d = e := by
    cases d <;> cases e <;> decide
  cases key with
  | name => exact iff_of_true rfl trivial
  | kind => exact Nat.compare_eq_eq.trans ⟨hkind _ _, congrArg _⟩
  | type => exact Std.compare_eq_iff_eq
  | direction => exact Nat.compare_eq_eq.trans ⟨hdirection _ _, congrArg _⟩

theorem order_eq_lt_iff : order types key a b = .lt ↔ Precedes types key a b := by
  rw [order, Ordering.then_eq_lt, keyOrder_eq_lt_iff, keyOrder_eq_eq_iff, compare_text_eq_lt_iff]
  rfl

instance : Std.TransCmp (keyOrder types key) := by
  cases key with
  | name => exact inferInstanceAs (Std.TransCmp (compareOn fun _ : Vertex => ()))
  | kind => exact inferInstanceAs (Std.TransCmp (compareOn fun v : Vertex => v.kind.rank))
  | type => exact inferInstanceAs (Std.TransCmp (compareOn (typeText types)))
  | direction => exact inferInstanceAs (Std.TransCmp (compareOn fun v : Vertex => v.direction.rank))

instance : Std.TransCmp (order types key) :=
  inferInstanceAs (Std.TransCmp (compareLex (keyOrder types key) (compareOn fun v => v.name.text)))

instance : Std.Irrefl (Precedes types key) where
  irrefl a h := by
    have hself : order types key a a = .eq := Std.ReflCmp.compare_self
    rw [order_eq_lt_iff.mpr h] at hself
    cases hself

instance : Std.Antisymm (Precedes types key) where
  antisymm a b h h' := by
    have hgt := Std.OrientedCmp.gt_iff_lt.mpr (order_eq_lt_iff.mpr h')
    rw [order_eq_lt_iff.mpr h] at hgt
    cases hgt

inductive Call where
  | kinds (ks : List VertexKind)
  | ports
  | registers
  | typed
  | pattern (specifier : String)
  | custom (p : Vertex → Bool)
  | sortBy (key : VertexSort)
  | limitTo (most : Nat)

namespace Call

def apply (o : Options) (q : VertexListing) : Call → Except Error VertexListing
  | kinds ks => .ok (q.kinds ks)
  | ports => .ok q.ports
  | registers => .ok q.registers
  | typed => .ok q.typed
  | pattern specifier => q.pattern o specifier
  | custom p => .ok (q.addFilter p)
  | sortBy key => .ok (q.sortBy key)
  | limitTo most => .ok (q.limitTo most)

/-- What the call demands of the vertices listed. -/
def Demands (o : Options) (v : Vertex) : Call → Prop
  | kinds ks => v.kind ∈ ks
  | ports => v.kind = .inputPort ∨ v.kind = .outputPort ∨ v.kind = .inoutPort
  | registers => v.kind = .register
  | typed => v.type ≠ none
  | pattern specifier => ∃ p, Pattern.compile o specifier = .ok p ∧ p.isMatch v.name.text = true
  | custom p => p v = true
  | sortBy _ | limitTo _ => True

def sort? : Call → Option VertexSort
  | sortBy key => some key
  | _ => none

def limit? : Call → Option Nat
  | limitTo most => some most
  | _ => none

end Call

def ofCalls (o : Options) (calls : List Call) : Except Error VertexListing :=
  calls.foldlM (Call.apply o) {}

def lastSort (calls : List Call) : Option VertexSort := calls.reverse.findSome? Call.sort?

def lastLimit (calls : List Call) : Option Nat := calls.reverse.findSome? Call.limit?

theorem lastSort_snoc (calls : List Call) (c : Call) :
    lastSort (calls ++ [c]) = c.sort?.or (lastSort calls) := by
  rw [lastSort, List.reverse_concat, List.findSome?_cons]
  cases c.sort? <;> rfl

theorem lastLimit_snoc (calls : List Call) (c : Call) :
    lastLimit (calls ++ [c]) = c.limit?.or (lastLimit calls) := by
  rw [lastLimit, List.reverse_concat, List.findSome?_cons]
  cases c.limit? <;> rfl

/-- The listing asks for what the calls demand. -/
structure MadeBy (o : Options) (calls : List Call) (q : VertexListing) : Prop where
  accepts_iff : ∀ v, q.accepts v = true ↔ ∀ c ∈ calls, c.Demands o v
  sort_eq : q.sort = lastSort calls
  limit_eq : q.limit = lastLimit calls

variable {o : Options} {calls calls' : List Call} {q q' : VertexListing}

theorem accepts_addFilter_iff {p : Vertex → Bool} {v : Vertex} :
    (q.addFilter p).accepts v = true ↔ q.accepts v = true ∧ p v = true := by
  simp [addFilter, accepts]

theorem MadeBy.snoc (h : MadeBy o calls q) {c : Call} {p : Vertex → Bool} (hsort : c.sort? = none)
    (hlimit : c.limit? = none) (hp : ∀ v, p v = true ↔ c.Demands o v) :
    MadeBy o (calls ++ [c]) (q.addFilter p) where
  accepts_iff v := by
    rw [accepts_addFilter_iff, h.accepts_iff, hp, List.forall_mem_append,
      List.forall_mem_singleton]
  sort_eq := by rw [lastSort_snoc, hsort, Option.none_or, ← h.sort_eq]; rfl
  limit_eq := by rw [lastLimit_snoc, hlimit, Option.none_or, ← h.limit_eq]; rfl

theorem MadeBy.snoc_unfiltered (h : MadeBy o calls q) {c : Call} (hc : ∀ v, c.Demands o v)
    (hfilters : q'.filters = q.filters) (hsort : q'.sort = c.sort?.or q.sort)
    (hlimit : q'.limit = c.limit?.or q.limit) : MadeBy o (calls ++ [c]) q' where
  accepts_iff v := by
    rw [List.forall_mem_append, List.forall_mem_singleton, and_iff_left (hc v), ← h.accepts_iff,
      accepts, accepts, hfilters]
  sort_eq := by rw [hsort, h.sort_eq, lastSort_snoc]
  limit_eq := by rw [hlimit, h.limit_eq, lastLimit_snoc]

theorem Call.accepts_apply (h : MadeBy o calls q) (c : Call) : Accepts (c.apply o q)
    (∀ specifier, c = .pattern specifier → ∃ p, Pattern.compile o specifier = .ok p)
    (MadeBy o (calls ++ [c])) := by
  cases c with
  | kinds ks => exact .ok nofun (h.snoc rfl rfl fun v => List.contains_iff_mem)
  | ports =>
    refine .ok nofun (h.snoc rfl rfl fun v => ?_)
    simp only [Demands]
    cases v.kind <;> decide
  | registers => exact .ok nofun (h.snoc rfl rfl fun v => beq_iff_eq)
  | typed => exact .ok nofun (h.snoc rfl rfl fun v => Option.isSome_iff_ne_none)
  | pattern specifier =>
    show Accepts (q.pattern o specifier) _ _
    unfold VertexListing.pattern
    cases hp : Pattern.compile o specifier with
    | error e =>
      refine .error fun hok => ?_
      obtain ⟨p, hp'⟩ := hok specifier rfl
      exact absurd (hp.symm.trans hp') nofun
    | ok p =>
      refine .ok ?_ (h.snoc (c := .pattern specifier) rfl rfl fun v => ?_)
      · rintro _ ⟨⟩
        exact ⟨p, hp⟩
      · simp [Demands, hp]
  | custom p => exact .ok nofun (h.snoc rfl rfl fun v => Iff.rfl)
  | sortBy key => exact .ok nofun (h.snoc_unfiltered (fun _ => trivial) rfl rfl rfl)
  | limitTo most => exact .ok nofun (h.snoc_unfiltered (fun _ => trivial) rfl rfl rfl)

theorem accepts_ofCalls (o : Options) (calls : List Call) : Accepts (ofCalls o calls)
    (∀ c ∈ calls, ∀ specifier, c = .pattern specifier →
      ∃ p, Pattern.compile o specifier = .ok p) (MadeBy o calls) := by
  apply Accepts.foldlM_forall _ (MadeBy o) ⟨by simp [accepts], rfl, rfl⟩
  exact fun met c rest q _ hmet => c.accepts_apply hmet

theorem madeBy_of_ofCalls (h : ofCalls o calls = .ok q) : MadeBy o calls q :=
  ((accepts_ofCalls o calls).of_eq_ok h).2

variable {g : Graph} {n n' : Netlist}

theorem mem_selected {v : Vertex} : v ∈ q.selected g ↔
    v ∈ g.vertices ∧ v.isNamed = true ∧ q.accepts v = true := by
  simp only [selected, Graph.named, List.mem_filter, Array.mem_toList_iff, and_assoc]

theorem perm_sorted (q : VertexListing) (n : Netlist) : (q.sorted n).Perm (q.selected n.graph) := by
  unfold sorted
  split
  · exact .refl _
  · exact List.mergeSort_perm _ _

theorem sorted_selected (hg : g.WellFormed) (q : VertexListing) :
    (q.selected g).Pairwise fun a b => a.id < b.id := by
  have hsorted := List.pairwise_map.mp (Graph.sorted_ids hg)
  exact hsorted.sublist (List.filter_sublist.trans List.filter_sublist)

/-- No two vertices listed bear the same name. -/
theorem distinct_selected (hg : g.Built) (q : VertexListing) :
    (q.selected g).Pairwise fun a b => a.name.text ≠ b.name.text := by
  have hindex := hg.nameIndex
  apply (sorted_selected hg.wellFormed q).imp_of_mem
  intro a b ha hb hlt hname
  obtain ⟨ha, hanamed, -⟩ := mem_selected.mp ha
  obtain ⟨hb, hbnamed, -⟩ := mem_selected.mp hb
  rw [hindex.name_injective ha hb ((hindex.isNamed_iff ha).mp hanamed)
    ((hindex.isNamed_iff hb).mp hbnamed) hname] at hlt
  exact Nat.lt_irrefl _ hlt

theorem pairwise_sorted (hg : n.graph.Built) (hkey : q.sort = some key) :
    (q.sorted n).Pairwise (Precedes n.types key) := by
  have hdistinct : (q.sorted n).Pairwise fun a b => a.name.text ≠ b.name.text :=
    (perm_sorted q n).symm.pairwise (distinct_selected hg q) fun h => h.symm
  have hordered : (q.sorted n).Pairwise fun a b => (order n.types key a b).isLE = true := by
    simp only [sorted, hkey]
    apply List.pairwise_mergeSort
    · exact fun a b c => Std.TransCmp.isLE_trans
    · intro a b
      have hswap : order n.types key b a = (order n.types key a b).swap := Std.OrientedCmp.eq_swap
      rw [hswap]
      cases order n.types key a b <;> rfl
  apply (hordered.and hdistinct).imp
  rintro a b ⟨hle, hne⟩
  apply order_eq_lt_iff.mp
  cases h : order n.types key a b with
  | lt => rfl
  | eq =>
    rw [order, Ordering.then_eq_eq] at h
    exact absurd (Std.LawfulEqCmp.eq_of_compare h.2) hne
  | gt =>
    rw [h] at hle
    cases hle

/-- The list from which the listing that the calls build is cut. -/
structure Lists (o : Options) (calls : List Call) (n : Netlist) (listed : List Vertex) : Prop where
  mem_iff : ∀ v, v ∈ listed ↔
    v ∈ n.graph.vertices ∧ v.isNamed = true ∧ ∀ c ∈ calls, c.Demands o v
  nodup : listed.Nodup
  byKey : ∀ key, lastSort calls = some key → listed.Pairwise (Precedes n.types key)
  byId : lastSort calls = none → listed.Pairwise fun a b => a.id < b.id

theorem MadeBy.lists_sorted (h : MadeBy o calls q) (hg : n.graph.Built) :
    Lists o calls n (q.sorted n) where
  mem_iff v := by rw [(perm_sorted q n).mem_iff, mem_selected, h.accepts_iff]
  nodup := by
    apply (perm_sorted q n).nodup_iff.mpr
    apply (sorted_selected hg.wellFormed q).imp
    rintro a b hlt rfl
    exact Nat.lt_irrefl _ hlt
  byKey key hkey := pairwise_sorted hg (h.sort_eq.trans hkey)
  byId hnone := by
    simp only [sorted, h.sort_eq, hnone]
    exact sorted_selected hg.wellFormed q

theorem MadeBy.run_eq (h : MadeBy o calls q) (n : Netlist) :
    q.run n = match lastLimit calls with
      | none => q.sorted n
      | some most => (q.sorted n).take most := by
  cases hlimit : lastLimit calls <;> rw [run, h.limit_eq, hlimit]

theorem MadeBy.run_eq_of_perm (h : MadeBy o calls q) (h' : MadeBy o calls' q')
    (hperm : calls'.Perm calls) (hsort : lastSort calls' = lastSort calls)
    (hlimit : lastLimit calls' = lastLimit calls) (n : Netlist) : q'.run n = q.run n := by
  have haccepts : q'.accepts = q.accepts := by
    funext v
    rw [Bool.eq_iff_iff, h.accepts_iff, h'.accepts_iff]
    exact forall_congr' fun c => by rw [hperm.mem_iff]
  simp only [run, sorted, selected, haccepts, h.sort_eq, h'.sort_eq, h.limit_eq, h'.limit_eq, hsort,
    hlimit]

/-- The same vertices, which may have been added in another order, and calls that make the same
demands on them. -/
structure Reordered (o : Options) (calls calls' : List Call) (n n' : Netlist) : Prop where
  types_eq : n'.types = n.types
  vertices : (n'.graph.vertices.toList.map Vertex.unnumbered).Perm
    (n.graph.vertices.toList.map Vertex.unnumbered)
  sort_eq : lastSort calls' = lastSort calls
  limit_eq : lastLimit calls' = lastLimit calls
  demands_iff : ∀ u ∈ n.graph.vertices, ∀ v ∈ n'.graph.vertices, u.unnumbered = v.unnumbered →
    ((∀ c ∈ calls', c.Demands o v) ↔ ∀ c ∈ calls, c.Demands o u)

/-- Whatever kinds, types and names a call asks for, the numbers do not matter to it. -/
theorem Call.demands_unnumbered_iff {c : Call} {v : Vertex}
    (hcustom : ∀ p, c = .custom p → p v.unnumbered = p v) :
    c.Demands o v.unnumbered ↔ c.Demands o v := by
  cases c with
  | custom p => exact Bool.eq_iff_iff.mp (hcustom p rfl)
  | _ => exact Iff.rfl

theorem precedes_unnumbered_iff :
    Precedes types key a.unnumbered b.unnumbered ↔ Precedes types key a b := by
  cases key <;> exact Iff.rfl

theorem pairwise_unnumbered {listed : List Vertex}
    (h : listed.Pairwise (Precedes types key)) :
    (listed.map Vertex.unnumbered).Pairwise (Precedes types key) :=
  List.pairwise_map.mpr (h.imp precedes_unnumbered_iff.mpr)

namespace Reordered

theorem of_ignoresNumbers (hcustom : ∀ p, Call.custom p ∈ calls → ∀ v, p v.unnumbered = p v)
    (htypes : n'.types = n.types)
    (hvertices : (n'.graph.vertices.toList.map Vertex.unnumbered).Perm
      (n.graph.vertices.toList.map Vertex.unnumbered)) : Reordered o calls calls n n' where
  types_eq := htypes
  vertices := hvertices
  sort_eq := rfl
  limit_eq := rfl
  demands_iff u _ v _ huv := by
    refine forall₂_congr fun c hc => ?_
    have hnumbers (w : Vertex) : c.Demands o w.unnumbered ↔ c.Demands o w :=
      Call.demands_unnumbered_iff fun p hp => hcustom p (hp ▸ hc) w
    rw [← hnumbers v, ← huv, hnumbers u]

theorem symm (h : Reordered o calls calls' n n') : Reordered o calls' calls n' n where
  types_eq := h.types_eq.symm
  vertices := h.vertices.symm
  sort_eq := h.sort_eq.symm
  limit_eq := h.limit_eq.symm
  demands_iff u hu v hv huv := (h.demands_iff v hv u hu huv.symm).symm

variable {listed listed' : List Vertex}

theorem subset_listed (h : Reordered o calls calls' n n') (hlists : Lists o calls n listed)
    (hlists' : Lists o calls' n' listed') :
    listed.map Vertex.unnumbered ⊆ listed'.map Vertex.unnumbered := by
  intro w hw
  obtain ⟨u, hu, rfl⟩ := List.mem_map.mp hw
  obtain ⟨hmem, hnamed, hdemands⟩ := (hlists.mem_iff u).mp hu
  obtain ⟨v, hv, huv⟩ := List.mem_map.mp
    (h.vertices.mem_iff.mpr (List.mem_map_of_mem (Array.mem_toList_iff.mpr hmem)))
  have hv := Array.mem_toList_iff.mp hv
  have hvnamed : v.isNamed = true := by
    show v.unnumbered.isNamed = true
    rw [huv]
    exact hnamed
  have hvlisted := (hlists'.mem_iff v).mpr
    ⟨hv, hvnamed, (h.demands_iff u hmem v hv huv.symm).mpr hdemands⟩
  exact List.mem_map.mpr ⟨v, hvlisted, huv⟩

/-- Strict orders of the same vertices are the same order, and the numbers have no say in it. -/
theorem names_eq (h : Reordered o calls calls' n n') (hlists : Lists o calls n listed)
    (hlists' : Lists o calls' n' listed') (hsort : lastSort calls ≠ none) :
    listed'.map (·.name.text) = listed.map (·.name.text) := by
  obtain ⟨key, hkey⟩ := Option.ne_none_iff_exists'.mp hsort
  have hordered := pairwise_unnumbered (hlists.byKey key hkey)
  have hordered' := pairwise_unnumbered (hlists'.byKey key (h.sort_eq.trans hkey))
  rw [h.types_eq] at hordered'
  have hsame : listed'.map Vertex.unnumbered = listed.map Vertex.unnumbered :=
    hordered'.eq_of_mem_iff hordered fun w =>
      ⟨fun hw => h.symm.subset_listed hlists' hlists hw,
        fun hw => h.subset_listed hlists hlists' hw⟩
  simpa [Function.comp_def, Vertex.unnumbered] using congrArg (List.map (·.name.text)) hsame

theorem run_names_eq (h : Reordered o calls calls' n n') (hg : n.graph.Built)
    (hg' : n'.graph.Built) (hq : MadeBy o calls q) (hq' : MadeBy o calls' q')
    (hsort : lastSort calls ≠ none) :
    (q'.run n').map (·.name.text) = (q.run n).map (·.name.text) := by
  have hnames := h.names_eq (hq.lists_sorted hg) (hq'.lists_sorted hg') hsort
  rw [hq.run_eq, hq'.run_eq, h.limit_eq]
  split
  · exact hnames
  · rw [List.map_take, List.map_take, hnames]

end Reordered

def inputsAndNets : List Call :=
  [.kinds [.inputPort, .net], .sortBy .kind, .limitTo 2]

end VertexListing

end CircuitTrace
