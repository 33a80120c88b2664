import CircuitTrace.Proofs.DataType.Widths

namespace CircuitTrace

variable {ε α β : Type}

/-- Unless the first computation stops, the second one ends in the same way. -/
def Follows (x : ExceptT ε Option α) (y : Except ε α) : Prop :=
  ∀ outcome, x = some outcome → y = outcome

namespace Follows

theorem pure (a : α) : Follows (pure a : ExceptT ε Option α) (.ok a) := by
  rintro _ ⟨⟩
  rfl

theorem throw (e : ε) : Follows (throw e : ExceptT ε Option α) (.error e) := by
  rintro _ ⟨⟩
  rfl

theorem fit (n : Nat) : Follows (fit? n) (wrap n) := by
  intro outcome h
  unfold fit? at h
  split_ifs at h
  · cases h
    rfl
  · cases h

theorem bind {x : ExceptT ε Option α} {y : Except ε α} {f : α → ExceptT ε Option β}
    {g : α → Except ε β} (h : Follows x y) (hfg : ∀ a, Follows (f a) (g a)) :
    Follows (x >>= f) (y >>= g) := by
  intro outcome hout
  cases x with
  | none => cases hout
  | some result =>
    rw [h result rfl]
    cases result with
    | error e => exact Option.some.inj hout
    | ok a => exact hfg a outcome hout

theorem foldlM {f : β → α → ExceptT ε Option β} {g : β → α → Except ε β}
    (h : ∀ b a, Follows (f b a) (g b a)) (as : List α) (b : β) :
    Follows (as.foldlM f b) (as.foldlM g b) := by
  induction as generalizing b with
  | nil => exact .pure b
  | cons a as ih =>
    rw [List.foldlM_cons, List.foldlM_cons]
    exact (h b a).bind ih

end Follows

/-- The computation stops only for the given cause, and succeeds only with a result for which `q`
holds. -/
def Stops (cause : Prop) (x : ExceptT ε Option α) (q : α → Prop) : Prop :=
  (x = none → cause) ∧ ∀ a, x = some (.ok a) → q a

namespace Stops

variable {cause : Prop} {q : α → Prop} {q' : β → Prop}

theorem pure {a : α} (h : q a) : Stops cause (pure a : ExceptT ε Option α) q :=
  ⟨nofun, by rintro _ ⟨⟩; exact h⟩

theorem throw (e : ε) : Stops cause (throw e : ExceptT ε Option α) q := ⟨nofun, nofun⟩

theorem fit {n : Nat} {q : UInt64 → Prop} (hover : UInt64.size ≤ n → cause)
    (hq : ∀ word : UInt64, word.toNat = n → q word) :
    Stops cause (fit? n) q := by
  unfold fit?
  split_ifs with h
  · exact .pure (hq _ (UInt64.toNat_ofNat_of_lt' h))
  · exact ⟨fun _ => hover (Nat.le_of_not_lt h), nofun⟩

theorem bind {x : ExceptT ε Option α} {f : α → ExceptT ε Option β} (h : Stops cause x q)
    (hf : ∀ a, q a → Stops cause (f a) q') : Stops cause (x >>= f) q' := by
  cases x with
  | none => exact ⟨fun _ => h.1 rfl, nofun⟩
  | some result =>
    cases result with
    | error e => exact ⟨nofun, nofun⟩
    | ok a => exact hf a (h.2 a rfl)

theorem imp {q₁ : α → Prop} {x : ExceptT ε Option α} (h : Stops cause x q) (hq : ∀ a, q a → q₁ a) :
    Stops cause x q₁ := ⟨h.1, fun a ha => hq a (h.2 a ha)⟩

theorem foldlM {f : β → α → ExceptT ε Option β} (inv : List α → β → Prop) {as : List α} {b : β}
    (hinv : inv [] b) (hstep : ∀ met a rest b, as = met ++ a :: rest → inv met b →
      Stops cause (f b a) (inv (met ++ [a]))) : Stops cause (as.foldlM f b) (inv as) := by
  suffices h : ∀ rest met b, as = met ++ rest → inv met b →
      Stops cause (rest.foldlM f b) (inv as) from h as [] b rfl hinv
  intro rest
  induction rest with
  | nil =>
    rintro met b rfl hmet
    rw [List.append_nil]
    exact .pure hmet
  | cons a rest ih =>
    intro met b has hmet
    rw [List.foldlM_cons]
    exact (hstep met a rest b has hmet).bind fun b hb =>
      ih (met ++ [a]) b (by rw [has, List.append_assoc]; rfl) hb

end Stops

namespace DataType

abbrev Checked := StateT Widths (ExceptT Defect Option)

abbrev Wrapping := StateT Widths (Except Defect)

theorem follows_kindMeasure {find : TypeId → Checked UInt64} {find' : TypeId → Wrapping UInt64}
    (h : ∀ b known, Follows (find b known) (find' b known)) (kind : TypeKind TypeId)
    (known : Widths) : Follows
      (kind.measure fit? find known) (kind.measure wrap find' known) := by
  have hfit (n : Nat) (known : Widths) :
      Follows ((fit? n : Checked UInt64) known) ((wrap n : Wrapping UInt64) known) :=
    (Follows.fit n).bind fun word => .pure (word, known)
  cases kind with
  | basic range =>
    cases range with
    | none => exact .pure (1, known)
    | some range => exact hfit _ known
  | ref target => exact h target known
  | enum base items => exact h base known
  | array element range packed =>
    refine (h element known).bind fun width => ?_
    cases packed with
    | false => exact .pure (0, width.2)
    | true => exact (hfit _ _).bind fun size => hfit _ size.2
  | struct members =>
    rw [TypeKind.measure, TypeKind.measure, foldlM_apply, foldlM_apply]
    exact .foldlM (fun total m => (h m.type total.2).bind fun width => hfit _ width.2) members _
  | union members =>
    rw [TypeKind.measure, TypeKind.measure, foldlM_apply, foldlM_apply]
    exact .foldlM (fun widest m => (h m.type widest.2).bind fun width =>
      .pure (max widest.1 width.1, width.2)) members _

theorem follows_measure (types : Array DataType) (fuel : Nat) (underWay : List TypeId)
    (id : TypeId) (known : Widths) : Follows (measure fit? types fuel underWay id known)
      (measure wrap types fuel underWay id known) := by
  induction fuel generalizing underWay id known with
  | zero => exact .throw _
  | succ fuel ih =>
    rw [measure, measure]
    dsimp only
    cases known[id]?.join with
    | some width => exact .pure (width, known)
    | none =>
      cases types[id]? with
      | none => exact .pure (0, known)
      | some type =>
        dsimp only
        split_ifs
        · exact .throw _
        · exact (follows_kindMeasure (ih (id :: underWay)) type.kind known).bind fun found =>
            .pure (found.1, found.2.setIfInBounds id (some found.1))

theorem follows_measureAll (types : Array DataType) :
    Follows (measureAll fit? types) (measureAll wrap types) :=
  .foldlM (fun known id => (follows_measure types _ [] id known).bind fun found => .pure found.2)
    _ _

end DataType

namespace Registry

/-- Unless it stops, the search without wrapping makes the same registry or finds the same
defect. -/
theorem ofList_of_ofListChecked {types : List DataType} {outcome : Except Defect Registry}
    (h : ofListChecked types = some outcome) : ofList types = outcome := by
  revert h outcome
  show Follows (make fit? types) (make wrap types)
  unfold make
  split
  · exact .throw _
  · exact (DataType.follows_measureAll types.toArray).bind fun widths => .pure _

end Registry

end CircuitTrace
