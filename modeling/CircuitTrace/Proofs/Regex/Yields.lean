import CircuitTrace.Proofs.Regex.Reading

namespace CircuitTrace.Regex.Scan

variable {α β : Type}

/-- From a text whose characters satisfy `p` the reader gets what satisfies `q`, and leaves such a
text. -/
def Yields (p : Char → Prop) (m : Scan α) (q : α → Prop) : Prop :=
  ∀ c a c', (∀ x ∈ c.rest, p x) → m c = .ok (a, c') → q a ∧ ∀ x ∈ c'.rest, p x

/-- From a text whose characters satisfy `p` the reader leaves such a text. -/
abbrev Keeps (p : Char → Prop) (m : Scan α) : Prop := Yields p m fun _ => True

namespace Yields

variable {p : Char → Prop} {m : Scan α} {q : α → Prop} {q' : β → Prop}

theorem pure {a : α} (h : q a) : Yields p (pure a) q := by
  rintro c _ _ hc ⟨⟩
  exact ⟨h, hc⟩

theorem refuse {k : Complaint} : Yields p (refuse k : Scan α) q := by
  rintro c _ _ hc ⟨⟩

theorem bind {f : α → Scan β} (hm : Yields p m q) (hf : ∀ a, q a → Yields p (f a) q') :
    Yields p (m >>= f) q' := by
  intro c b c'' hc h
  cases ha : m c with
  | error k =>
    rw [bind_apply, ha] at h
    cases h
  | ok found =>
    obtain ⟨hq, hc'⟩ := hm c found.1 found.2 hc ha
    rw [bind_apply, ha] at h
    exact hf found.1 hq found.2 b c'' hc' h

theorem seq {f : α → Scan β} (hm : Keeps p m) (hf : ∀ a, Yields p (f a) q') :
    Yields p (m >>= f) q' := hm.bind fun a _ => hf a

theorem keeps (hm : Yields p m q) : Keeps p m := fun c a c' hc h => ⟨trivial, (hm c a c' hc h).2⟩

end Yields

variable {p : Char → Prop}

/-- A step that changes the text by a function that keeps only some of it. -/
theorem keeps_modify {f : Cursor → Cursor} (hf : ∀ c, (f c).rest ⊆ c.rest) :
    Keeps p (modify f : Scan Unit) := by
  rintro c _ _ hc ⟨⟩
  exact ⟨trivial, fun x hx => hc x (hf c hx)⟩

theorem keeps_get : Keeps p (get : Scan Cursor) := by
  rintro c _ _ hc ⟨⟩
  exact ⟨trivial, hc⟩

theorem keeps_require (b : Bool) (k : Complaint) : Keeps p (require b k) := by
  unfold require
  split_ifs
  · exact .pure trivial
  · exact .refuse

theorem keeps_objectIf (b : Bool) (k : Complaint) : Keeps p (objectIf b k) := by
  unfold objectIf
  split_ifs
  · exact keeps_modify fun _ _ hx => hx
  · exact .pure trivial

theorem keeps_flags : Keeps p flags := .seq keeps_get fun _ => .pure trivial

theorem keeps_setFlags (f : Flags) : Keeps p (setFlags f) := keeps_modify fun _ _ hx => hx

theorem yields_peek? : Yields p peek? fun next => ∀ x ∈ next, p x := by
  rintro c _ _ hc ⟨⟩
  exact ⟨fun x hx => hc x (List.mem_of_mem_head? hx), hc⟩

theorem yields_take (k : Complaint) : Yields p (take k) p := by
  rintro ⟨_ | ⟨x, rest⟩, f, groups, objection⟩ a c' hc h
  · cases h
  · obtain ⟨rfl, rfl⟩ := Prod.mk.inj (Except.ok.inj h)
    exact List.forall_mem_cons.mp hc

theorem keeps_accept (word : List Char) : Keeps p (accept word) := by
  intro c a c' hc h
  unfold accept at h
  split_ifs at h
  · obtain ⟨rfl, rfl⟩ := Prod.mk.inj (Except.ok.inj h)
    exact ⟨trivial, fun x hx => hc x (List.mem_of_mem_drop hx)⟩
  · obtain ⟨rfl, rfl⟩ := Prod.mk.inj (Except.ok.inj h)
    exact ⟨trivial, hc⟩

theorem keeps_expect (word : List Char) (k : Complaint) : Keeps p (expect word k) :=
  .seq (keeps_accept word) fun _ => keeps_require _ k

theorem keeps_notEnded (k : Complaint) : Keeps p (notEnded k) :=
  .seq yields_peek?.keeps fun _ => keeps_require _ k

theorem keeps_ofExcept (x : Except Complaint α) : Keeps p (ofExcept x : Scan α) := by
  cases x with
  | ok a => exact .pure trivial
  | error k => exact .refuse

theorem dropBlank_subset (inComment : Bool) (cs : List Char) : dropBlank inComment cs ⊆ cs := by
  induction cs generalizing inComment with
  | nil => exact fun _ hx => hx
  | cons c cs ih =>
    unfold dropBlank
    split_ifs
    · exact List.subset_cons_of_subset c (ih _)
    · exact List.subset_cons_of_subset c (ih _)
    · exact List.subset_cons_of_subset c (ih _)
    · exact fun _ hx => hx

theorem keeps_skipBlank : Keeps p skipBlank := by
  refine keeps_modify fun c => ?_
  show visible _ _ ⊆ _
  unfold visible
  split_ifs
  · exact dropBlank_subset false c.rest
  · exact fun _ hx => hx

theorem keeps_skipSpace : Keeps p skipSpace :=
  keeps_modify fun _ => (List.dropWhile_sublist _).subset

theorem keeps_takeRun (q : Char → Bool) : Keeps p (takeRun q) := by
  have hwhile (fuel : Nat) (cs : List Char) : Keeps p (takeWhile q fuel cs) := by
    induction fuel generalizing cs with
    | zero => exact .pure trivial
    | succ fuel ih =>
      refine .seq yields_peek?.keeps fun next => ?_
      split
      · exact .seq (keeps_accept _) fun _ => .seq keeps_skipBlank fun _ => ih _
      · exact .pure trivial
  exact .seq keeps_get fun _ => .seq (hwhile _ _) fun _ => .pure trivial

theorem keeps_groupName : Keeps p groupName := by
  intro c a c' hc h
  unfold groupName at h
  dsimp only at h
  split at h
  · cases h
  split at h
  · cases h
  · next rest hrest =>
    split_ifs at h
    obtain ⟨rfl, rfl⟩ := Prod.mk.inj (Except.ok.inj h)
    refine ⟨trivial, fun x hx => hc x ?_⟩
    exact List.mem_of_mem_drop (hrest ▸ List.mem_cons_of_mem _ hx)

theorem keeps_flagItems (fuel : Nat) (seen : List Char) (f : Flags) :
    Keeps p (flagItems fuel seen f) := by
  induction fuel generalizing seen f with
  | zero => exact .refuse
  | succ fuel ih =>
    refine .seq (yields_take _).keeps fun c => ?_
    split_ifs
    · exact .seq (keeps_require _ _) fun _ => .pure trivial
    · exact .seq (keeps_require _ _) fun _ => ih _ _
    · split
      · exact .seq (keeps_require _ _) fun _ => ih _ _
      · exact .refuse

theorem keeps_openGroup : Keeps p openGroup := by
  refine .seq keeps_skipBlank fun _ => .seq keeps_get fun _ => .seq (keeps_require _ _) fun _ => ?_
  refine .seq (keeps_accept _) fun named => ?_
  split_ifs
  · exact .seq keeps_groupName fun _ => .pure trivial
  refine .seq (keeps_accept _) fun named => ?_
  split_ifs
  · exact .seq keeps_groupName fun _ => .pure trivial
  refine .seq (keeps_accept _) fun flagged => ?_
  split_ifs
  · refine .seq (keeps_notEnded _) fun _ => .seq keeps_get fun c => .seq keeps_flags fun f => ?_
    refine .seq (keeps_flagItems _ _ _) fun _ => .seq (keeps_setFlags _) fun _ => ?_
    split_ifs
    · exact .pure trivial
    · exact .seq (keeps_require _ _) fun _ => .pure trivial
  · exact .pure trivial

theorem keeps_decimal : Keeps p decimal := by
  refine .seq keeps_skipSpace fun _ => .seq (keeps_takeRun _) fun _ => ?_
  refine .seq keeps_skipSpace fun _ => .seq keeps_skipBlank fun _ => ?_
  exact .seq keeps_skipSpace fun _ => .pure trivial

theorem keeps_upTo (least : Nat) : Keeps p (upTo least) := by
  refine .seq (keeps_accept _) fun close => ?_
  split_ifs
  · exact .pure trivial
  refine .seq keeps_decimal fun most => .seq (keeps_ofExcept _) fun most => ?_
  exact .seq (keeps_expect _ _) fun _ => .seq (keeps_require _ _) fun _ => .pure trivial

theorem keeps_bounds : Keeps p bounds := by
  refine .seq keeps_skipBlank fun _ => .seq (keeps_notEnded _) fun _ => ?_
  refine .seq keeps_decimal fun least => .seq (keeps_notEnded _) fun _ => ?_
  refine .seq (keeps_accept _) fun comma => ?_
  split_ifs
  · refine .seq keeps_skipBlank fun _ => .seq (keeps_notEnded _) fun _ => ?_
    exact .seq (keeps_ofExcept _) fun least => keeps_upTo least
  · refine .seq (keeps_ofExcept _) fun least => ?_
    exact .seq (keeps_expect _ _) fun _ => .pure trivial

theorem keeps_repetition (c : Char) : Keeps p (repetition c) := by
  unfold repetition
  split_ifs
  · refine .seq keeps_bounds fun _ => .seq keeps_skipBlank fun _ => ?_
    exact .seq (keeps_accept _) fun _ => .pure trivial
  all_goals exact .seq (keeps_accept _) fun _ => .pure trivial

end CircuitTrace.Regex.Scan
