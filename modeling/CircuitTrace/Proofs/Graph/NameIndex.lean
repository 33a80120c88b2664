import CircuitTrace.Proofs.Graph.Built

namespace CircuitTrace.Graph

structure NameIndex (g : Graph) : Prop where
  names_iff : ∀ (name : String) (i : VertexId), g.names[name]? = some i ↔
    ∃ v, g.vertices[i]? = some v ∧ v.isLogic = false ∧ v.name.text = name
  named : ∀ v ∈ g.vertices, v.isLogic = false → v.name.isEmpty = false
  anonymous : ∀ v ∈ g.vertices, v.isLogic = true → v.name = .anonymous

theorem nameIndex_empty : NameIndex .empty where
  names_iff := by simp [empty]
  named := by simp [empty]
  anonymous := by simp [empty]

theorem mem_push {g : Graph} {v u : Vertex} : u ∈ (g.push v).vertices ↔ u ∈ g.vertices ∨ u = v :=
  Array.mem_push

theorem lt_size_of_getElem? {g : Graph} {i : VertexId} {v : Vertex}
    (h : g.vertices[i]? = some v) : i < g.size :=
  (Array.getElem?_eq_some_iff.mp h).1

theorem exists_getElem?_push_iff {g : Graph} {v : Vertex} {p : Vertex → Prop} {i : VertexId} :
    (∃ u, (g.push v).vertices[i]? = some u ∧ p u) ↔
      (∃ u, g.vertices[i]? = some u ∧ p u) ∨ i = g.size ∧ p v := by
  have hpush : (g.push v).vertices[i]? = if i = g.size then some v else g.vertices[i]? :=
    Array.getElem?_push
  have hlt : ∀ u, g.vertices[i]? = some u → i ≠ g.size := fun u hu =>
    Nat.ne_of_lt (lt_size_of_getElem? hu)
  rw [hpush]
  grind

theorem NameIndex.vertex {g : Graph} (hg : g.NameIndex) {v : Vertex} (hlogic : v.isLogic = false)
    (hname : v.name.isEmpty = false) (hnew : g.names.contains v.name.text = false) :
    NameIndex { g.push v with names := g.names.insert v.name.text g.size } where
  names_iff := by
    intro name i
    have hnone : g.names[v.name.text]? = none := by
      rw [Std.TreeMap.contains_eq_isSome_getElem?] at hnew
      exact Option.isNone_iff_eq_none.mp (Option.isSome_eq_false_iff.mp hnew)
    have hinsert : (g.names.insert v.name.text g.size)[name]? =
        if v.name.text = name then some g.size else g.names[name]? := by
      simp only [Std.TreeMap.getElem?_insert, Std.LawfulEqCmp.compare_eq_iff_eq]
    have hold := hg.names_iff name i
    show (g.names.insert v.name.text g.size)[name]? = some i ↔
      ∃ u, (g.push v).vertices[i]? = some u ∧ _
    rw [exists_getElem?_push_iff, ← hold, hinsert]
    grind
  named := by
    intro u hu
    rcases mem_push.mp hu with hu | rfl
    · exact hg.named u hu
    · exact fun _ => hname
  anonymous := by
    intro u hu
    rcases mem_push.mp hu with hu | rfl
    · exact hg.anonymous u hu
    · exact fun h => absurd (hlogic ▸ h) Bool.false_ne_true

theorem NameIndex.logic {g : Graph} (hg : g.NameIndex) {v : Vertex} (hlogic : v.isLogic = true)
    (hname : v.name = .anonymous) : NameIndex (g.push v) where
  names_iff := by
    intro name i
    show g.names[name]? = some i ↔ _
    rw [exists_getElem?_push_iff, hlogic, hg.names_iff]
    simp
  named := by
    intro u hu
    rcases mem_push.mp hu with hu | rfl
    · exact hg.named u hu
    · exact fun h => absurd (hlogic ▸ h).symm Bool.false_ne_true
  anonymous := by
    intro u hu
    rcases mem_push.mp hu with hu | rfl
    · exact hg.anonymous u hu
    · exact fun _ => hname

theorem NameIndex.edge {g g' : Graph} (hg : g.NameIndex) {source target : VertexId}
    (h : g.addEdge source target = .ok g') : g'.NameIndex := by
  obtain ⟨-, -, ⟨-, rfl⟩ | ⟨-, rfl⟩⟩ := addEdge_eq_ok h
  · exact hg
  · exact ⟨hg.names_iff, hg.named, hg.anonymous⟩

theorem Built.nameIndex {g : Graph} (hg : g.Built) : g.NameIndex := by
  induction hg with
  | empty => exact nameIndex_empty
  | vertex _ h ih =>
    obtain ⟨-, hkind, hname, hnew, rfl⟩ := addVertex_eq_ok h
    exact ih.vertex hkind hname hnew
  | logic statement location _ ih => exact ih.logic rfl rfl
  | edge _ h ih => exact ih.edge h

variable {g : Graph}

/-- The named vertices are those that are no logic statements. -/
theorem NameIndex.isNamed_iff (hg : g.NameIndex) {v : Vertex} (hv : v ∈ g.vertices) :
    v.isNamed = true ↔ v.isLogic = false := by
  cases hl : v.isLogic with
  | true => simp [Vertex.isNamed, hl]
  | false => simp [Vertex.isNamed, hl, hg.named v hv hl]

theorem NameIndex.contains_iff (hg : g.NameIndex) {name : String} :
    g.names.contains name = true ↔ ∃ v ∈ g.vertices, v.isLogic = false ∧ v.name.text = name := by
  rw [Std.TreeMap.contains_eq_isSome_getElem?, Option.isSome_iff_exists]
  simp only [hg.names_iff, Array.mem_iff_getElem?]
  constructor
  · rintro ⟨i, v, hv, h⟩
    exact ⟨v, ⟨i, hv⟩, h⟩
  · rintro ⟨v, ⟨i, hv⟩, h⟩
    exact ⟨i, v, hv, h⟩

theorem NameIndex.find?_eq_some_iff (hg : g.NameIndex) {name : String} {v : Vertex} :
    g.find? name = some v ↔ v ∈ g.vertices ∧ v.isNamed = true ∧ v.name.text = name := by
  rw [find?, Option.bind_eq_some_iff]
  constructor
  · rintro ⟨i, hi, hv⟩
    obtain ⟨u, hu, hlogic, hname⟩ := (hg.names_iff name i).mp hi
    obtain rfl := Option.some.inj (hu ▸ hv)
    have hmem := Array.mem_of_getElem? hv
    exact ⟨hmem, (hg.isNamed_iff hmem).mpr hlogic, hname⟩
  · rintro ⟨hmem, hnamed, hname⟩
    obtain ⟨i, hi⟩ := Array.mem_iff_getElem?.mp hmem
    exact ⟨i, (hg.names_iff name i).mpr ⟨v, hi, (hg.isNamed_iff hmem).mp hnamed, hname⟩, hi⟩

theorem NameIndex.name_injective (hg : g.NameIndex) {u v : Vertex} (hu : u ∈ g.vertices)
    (hv : v ∈ g.vertices) (hul : u.isLogic = false) (hvl : v.isLogic = false)
    (h : u.name.text = v.name.text) : u = v := by
  have hfind : g.find? u.name.text = some u :=
    hg.find?_eq_some_iff.mpr ⟨hu, (hg.isNamed_iff hu).mpr hul, rfl⟩
  have hfind' : g.find? v.name.text = some v :=
    hg.find?_eq_some_iff.mpr ⟨hv, (hg.isNamed_iff hv).mpr hvl, rfl⟩
  rw [← h, hfind] at hfind'
  exact Option.some.inj hfind'

end CircuitTrace.Graph
