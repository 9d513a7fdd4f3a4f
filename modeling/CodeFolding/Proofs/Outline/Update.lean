import CodeFolding.Outline.Scan

set_option autoImplicit false

namespace CodeFolding

namespace Outline

/-- `outer` lists `inner` among the regions directly inside it. -/
def Lists (outline : Outline) (outer inner : Nat) : Prop :=
  inner ∈ (outline.region outer).children

instance (outline : Outline) (outer inner : Nat) : Decidable (outline.Lists outer inner) :=
  inferInstanceAs (Decidable (inner ∈ (outline.region outer).children))

theorem region_modify_self (outline : Outline) {id : Nat} (change : Region → Region)
    (known : id < outline.size) :
    (outline.modify id change).region id = change (outline.region id) := by
  unfold size at known
  simp only [region, modify, Array.getD_eq_getD_getElem?, Array.getElem?_modify, ↓reduceIte,
    Array.getElem?_eq_getElem known, Option.map_some, Option.getD_some]

theorem region_modify_other (outline : Outline) {id other : Nat} (change : Region → Region)
    (apart : other ≠ id) : (outline.modify id change).region other = outline.region other := by
  simp only [region, modify, Array.getD_eq_getD_getElem?, Array.getElem?_modify, Ne.symm apart,
    ↓reduceIte]

/-- Every region stays as it is or is changed, whatever numbers are in use. -/
theorem region_modify_or (outline : Outline) (id other : Nat) (change : Region → Region) :
    (outline.modify id change).region other = outline.region other ∨
      (outline.modify id change).region other = change (outline.region other) := by
  by_cases same : other = id
  · subst same
    by_cases known : other < outline.size
    · exact Or.inr (outline.region_modify_self change known)
    · have unknown : outline.size ≤ other := Nat.le_of_not_lt known
      unfold size at unknown
      left
      simp only [region, modify, Array.getD_eq_getD_getElem?, Array.getElem?_modify, ↓reduceIte,
        Array.getElem?_eq_none unknown, Option.map_none]
  · exact Or.inl (outline.region_modify_other change same)

/-- What a change of one region leaves alone stays the same in all of them. -/
theorem field_modify {α : Type} (outline : Outline) (id other : Nat) {change : Region → Region}
    (field : Region → α) (kept : ∀ region, field (change region) = field region) :
    field ((outline.modify id change).region other) = field (outline.region other) := by
  rcases outline.region_modify_or id other change with same | changed
  · rw [same]
  · rw [changed, kept]

theorem region_add_self (outline : Outline) (draft : Draft) (parent : Nat) :
    (outline.add draft parent).region outline.size =
      { draft with parent? := some parent } := by
  simp only [region, add, size, Array.getD_eq_getD_getElem?, Array.getElem?_push_size,
    Option.getD_some]

theorem region_add_other (outline : Outline) (draft : Draft) (parent : Nat) {other : Nat}
    (apart : other ≠ outline.size) :
    (outline.add draft parent).region other = outline.region other := by
  unfold size at apart
  simp only [region, add, Array.getD_eq_getD_getElem?, Array.getElem?_push, apart, ↓reduceIte]

theorem children_of_size_le (outline : Outline) {id : Nat} (unknown : outline.size ≤ id) :
    (outline.region id).children = #[] := by
  unfold size at unknown
  simp only [region, Array.getD_eq_getD_getElem?, Array.getElem?_eq_none unknown, Option.getD_none,
    Region.root]

theorem children_add (outline : Outline) (draft : Draft) (parent other : Nat) :
    ((outline.add draft parent).region other).children = (outline.region other).children := by
  by_cases new : other = outline.size
  · rw [new, outline.region_add_self draft parent, outline.children_of_size_le (Nat.le_refl _)]
  · rw [outline.region_add_other draft parent new]

theorem lt_size_of_mem_children (outline : Outline) {parent id : Nat}
    (listed : id ∈ (outline.region parent).children) : parent < outline.size := by
  apply Decidable.byContradiction
  intro unknown
  rw [outline.children_of_size_le (Nat.le_of_not_lt unknown)] at listed
  exact absurd listed (Array.not_mem_empty id)

@[simp] theorem size_close (outline : Outline) (id stop : Nat) :
    (outline.close id stop).size = outline.size := size_modify ..

theorem region_close_self (outline : Outline) {id : Nat} (stop : Nat)
    (known : id < outline.size) :
    (outline.close id stop).region id =
      { outline.region id with stop? := some (max stop (outline.region id).start) } :=
  outline.region_modify_self _ known

theorem region_close_other (outline : Outline) {id other : Nat} (stop : Nat)
    (apart : other ≠ id) : (outline.close id stop).region other = outline.region other :=
  outline.region_modify_other _ apart

theorem kind_close (outline : Outline) (id stop other : Nat) :
    ((outline.close id stop).region other).kind = (outline.region other).kind :=
  outline.field_modify id other (fun region => region.kind) fun _ => rfl

theorem role_close (outline : Outline) (id stop other : Nat) :
    ((outline.close id stop).region other).role = (outline.region other).role :=
  outline.field_modify id other (fun region => region.role) (fun _ => rfl)

theorem children_close (outline : Outline) (id stop other : Nat) :
    ((outline.close id stop).region other).children = (outline.region other).children :=
  outline.field_modify id other Region.children fun _ => rfl

@[simp] theorem size_enlist (outline : Outline) (parent child : Nat) :
    (outline.enlist parent child).size = outline.size := size_modify ..

theorem region_enlist_self (outline : Outline) {parent : Nat} (child : Nat)
    (known : parent < outline.size) :
    (outline.enlist parent child).region parent = { outline.region parent with
      children := (outline.region parent).children.push child } :=
  outline.region_modify_self _ known

theorem region_enlist_other (outline : Outline) {parent other : Nat} (child : Nat)
    (apart : other ≠ parent) :
    (outline.enlist parent child).region other = outline.region other :=
  outline.region_modify_other _ apart

section Settle

variable (outline : Outline) (id parent : Nat) (previous? : Option Nat)

@[simp] theorem size_settle : (outline.settle id parent previous?).size = outline.size := by
  unfold settle
  dsimp only
  split
  · exact (size_modify ..).trans (size_enlist ..)
  · exact size_enlist ..

@[simp] theorem document_settle :
    (outline.settle id parent previous?).document = outline.document := by
  unfold settle
  dsimp only
  split <;> rfl

/-- The start of a region once it is settled. -/
def settledStart : Nat :=
  (outline.raisedStart? id parent previous?).getD (outline.region id).start

theorem field_settle {α : Type} (field : Region → α) (other : Nat)
    (listFree : ∀ region children, field { region with children := children } = field region)
    (startFree : other = id → ∀ region start, field { region with start := start } = field region) :
    field ((outline.settle id parent previous?).region other) = field (outline.region other) := by
  have enlisted : field ((outline.enlist parent id).region other) = field (outline.region other) :=
    outline.field_modify parent other field (fun region => listFree region _)
  unfold settle
  dsimp only
  split
  · rename_i start raised
    by_cases same : other = id
    · exact (field_modify _ id other field (fun region => startFree same region _)).trans enlisted
    · rw [setStart, region_modify_other _ _ same]
      exact enlisted
  · exact enlisted

theorem draft_settle_other {other : Nat} (different : other ≠ id) :
    ((outline.settle id parent previous?).region other).toDraft =
      (outline.region other).toDraft :=
  outline.field_settle id parent previous? Region.toDraft other (fun _ _ => rfl)
    (fun same => absurd same different)

theorem stop?_settle (other : Nat) :
    ((outline.settle id parent previous?).region other).stop? = (outline.region other).stop? :=
  outline.field_settle id parent previous? (fun region => region.stop?) other (fun _ _ => rfl)
    (fun _ _ _ => rfl)

theorem parent?_settle (other : Nat) :
    ((outline.settle id parent previous?).region other).parent? =
      (outline.region other).parent? :=
  outline.field_settle id parent previous? Region.parent? other (fun _ _ => rfl) (fun _ _ _ => rfl)

theorem children_settle_other {other : Nat} (outside : other ≠ parent) :
    ((outline.settle id parent previous?).region other).children =
      (outline.region other).children := by
  have enlisted := congrArg Region.children (outline.region_enlist_other id outside)
  unfold settle
  dsimp only
  split
  · refine Eq.trans (field_modify _ id other Region.children ?_) enlisted
    exact fun _ => rfl
  · exact enlisted

variable {id parent}

theorem region_settle_self (known : id < outline.size) (apart : id ≠ parent) :
    (outline.settle id parent previous?).region id =
      { outline.region id with start := outline.settledStart id parent previous? } := by
  unfold settle settledStart
  dsimp only
  split
  · rename_i start raised
    rw [setStart, region_modify_self _ _ (by simpa using known), region_enlist_other _ _ apart,
      raised, Option.getD_some]
  · rename_i stays
    rw [region_enlist_other _ _ apart, stays, Option.getD_none]

theorem region_settle_parent (known : parent < outline.size) (apart : id ≠ parent) :
    (outline.settle id parent previous?).region parent =
      { outline.region parent with children := (outline.region parent).children.push id } := by
  unfold settle
  dsimp only
  split
  · rw [setStart, region_modify_other _ _ (Ne.symm apart), region_enlist_self _ _ known]
  · rw [region_enlist_self _ _ known]

end Settle

section Absorb

variable (outline : Outline) {target merged : Nat}

theorem field_setParents {α : Type} (children : List Nat) (other : Nat) (field : Region → α)
    (kept : ∀ region parent?, field { region with parent? := parent? } = field region) :
    field ((children.foldl (fun outline child => outline.setParent target child) outline).region
      other) = field (outline.region other) := by
  induction children generalizing outline with
  | nil => rfl
  | cons child rest ih =>
    exact (ih (outline.setParent target child)).trans
      (outline.field_modify child other field (fun region => kept region _))

@[simp] theorem size_setParents (children : List Nat) (target : Nat) :
    (children.foldl (fun outline child => outline.setParent target child) outline).size =
      outline.size := by
  induction children generalizing outline with
  | nil => rfl
  | cons child rest ih => exact (ih (outline.setParent target child)).trans (size_modify ..)

theorem parent?_setParents (children : List Nat) (other : Nat)
    (known : ∀ child ∈ children, child < outline.size) :
    ((children.foldl (fun outline child => outline.setParent target child) outline).region
      other).parent? = if other ∈ children then some target
        else (outline.region other).parent? := by
  induction children generalizing outline with
  | nil => rw [List.foldl_nil, if_neg List.not_mem_nil]
  | cons child rest ih =>
    have size : (outline.setParent target child).size = outline.size := size_modify ..
    rw [List.foldl_cons, ih (outline.setParent target child) (fun later member => by
      rw [size]
      exact known later (List.mem_cons_of_mem child member))]
    by_cases moved : other ∈ rest
    · rw [if_pos moved, if_pos (List.mem_cons_of_mem child moved)]
    · rw [if_neg moved]
      by_cases same : other = child
      · subst same
        rw [if_pos List.mem_cons_self, setParent,
          region_modify_self _ _ (known other List.mem_cons_self)]
      · rw [if_neg (by simp only [List.mem_cons, same, moved, or_self, not_false_eq_true]),
          setParent, region_modify_other _ _ same]

@[simp] theorem size_absorb (target merged : Nat) :
    (outline.absorb target merged).size = outline.size := by
  unfold absorb
  dsimp only
  rw [← Array.foldl_toList, size_modify, size_setParents, size_modify]

/-- The regions inside a region that is merged go to the end of the list of the other one. -/
theorem children_absorb (known : target < outline.size) (apart : target ≠ merged) (other : Nat) :
    ((outline.absorb target merged).region other).children =
      if other = target then (outline.region target).children ++ (outline.region merged).children
      else if other = merged then #[] else (outline.region other).children := by
  have inner : ∀ id, ((((outline.region merged).children.toList.foldl
      (fun outline child => outline.setParent target child)
      (outline.modify merged fun region => { region with children := #[] })).region id).children) =
        if id = merged then #[] else (outline.region id).children := by
    intro id
    refine (field_setParents _ _ id Region.children ?_).trans ?_
    · exact fun _ _ => rfl
    by_cases gone : id = merged
    · subst gone
      rw [if_pos rfl]
      by_cases used : id < outline.size
      · rw [region_modify_self _ _ used]
      · refine children_of_size_le _ ?_
        rw [size_modify]
        exact Nat.le_of_not_lt used
    · rw [if_neg gone, region_modify_other _ _ gone]
  unfold absorb
  dsimp only
  rw [← Array.foldl_toList]
  by_cases same : other = target
  · subst same
    rw [if_pos rfl, region_modify_self _ _ (by rw [size_setParents, size_modify]; exact known)]
    dsimp only
    rw [inner, if_neg apart]
  · rw [if_neg same, region_modify_other _ _ same]
    exact inner other

theorem parent?_absorb (target other : Nat)
    (known : ∀ child ∈ (outline.region merged).children, child < outline.size) :
    ((outline.absorb target merged).region other).parent? =
      if other ∈ (outline.region merged).children then some target
      else (outline.region other).parent? := by
  unfold absorb
  dsimp only
  rw [← Array.foldl_toList]
  refine (field_modify _ target other Region.parent? ?_).trans ?_
  · exact fun _ => rfl
  rw [parent?_setParents _ _ _ (fun child member => by
    rw [size_modify]
    exact known child (Array.mem_toList_iff.1 member))]
  simp only [Array.mem_toList_iff]
  congr 1
  refine field_modify _ merged other Region.parent? ?_
  exact fun _ => rfl

theorem start_absorb (target merged other : Nat) :
    ((outline.absorb target merged).region other).start = (outline.region other).start := by
  unfold absorb
  dsimp only
  rw [← Array.foldl_toList]
  refine (field_modify _ target other (fun region => region.start) ?_).trans ?_
  · exact fun _ => rfl
  refine (field_setParents _ _ other (fun region => region.start) ?_).trans ?_
  · exact fun _ _ => rfl
  refine field_modify _ merged other (fun region => region.start) ?_
  exact fun _ => rfl

theorem stop?_absorb (target merged other : Nat) :
    ((outline.absorb target merged).region other).stop? = (outline.region other).stop? ∨
      ((outline.absorb target merged).region other).stop? = (outline.region merged).stop? := by
  have inner : ((((outline.region merged).children.toList.foldl
      (fun outline child => outline.setParent target child)
      (outline.modify merged fun region => { region with children := #[] })).region
        other).stop?) = (outline.region other).stop? := by
    refine (field_setParents _ _ other (fun region => region.stop?) ?_).trans ?_
    · exact fun _ _ => rfl
    refine field_modify _ merged other (fun region => region.stop?) ?_
    exact fun _ => rfl
  unfold absorb
  dsimp only
  rw [← Array.foldl_toList]
  generalize (outline.region merged).children.toList.foldl _ _ = moved at inner ⊢
  rcases moved.region_modify_or target other _ with same | changed
  · rw [same]
    exact Or.inl inner
  · rw [changed]
    exact Or.inr rfl

@[simp] theorem document_absorb (target merged : Nat) :
    (outline.absorb target merged).document = outline.document := by
  have unchanged : ∀ (children : List Nat) (outline : Outline),
      (children.foldl (fun outline child => outline.setParent target child) outline).document =
        outline.document := by
    intro children
    induction children with
    | nil => exact fun _ => rfl
    | cons child rest ih => exact fun outline => (ih (outline.setParent target child)).trans rfl
  simp only [absorb, document_modify, ← Array.foldl_toList, unchanged]

/-- A region without regions inside it gives nothing but its end to the region it is merged
into. -/
theorem absorb_of_childless (childless : (outline.region merged).children = #[]) :
    outline.absorb target merged =
      (outline.modify merged fun region => { region with children := #[] }).modify target
        fun region => { region with stop? := (outline.region merged).stop? } := by
  simp only [absorb, childless, Array.foldl_empty, Array.append_empty]

theorem region_absorb_target (childless : (outline.region merged).children = #[])
    (known : target < outline.size) (apart : target ≠ merged) :
    (outline.absorb target merged).region target =
      { outline.region target with stop? := (outline.region merged).stop? } := by
  rw [outline.absorb_of_childless childless,
    region_modify_self _ _ (by simpa using known), region_modify_other _ _ apart]

theorem region_absorb_other (childless : (outline.region merged).children = #[]) {other : Nat}
    (apart : other ≠ target) : (outline.absorb target merged).region other =
      outline.region other := by
  rw [outline.absorb_of_childless childless, region_modify_other _ _ apart]
  by_cases gone : other = merged
  · subst gone
    rcases outline.region_modify_or other other fun region => { region with children := #[] }
      with same | changed
    · exact same
    · rw [changed, ← childless]
  · rw [region_modify_other _ _ gone]

theorem region_absorb (childless : (outline.region merged).children = #[])
    (known : target < outline.size) (apart : target ≠ merged) (other : Nat) :
    (outline.absorb target merged).region other = { outline.region other with
      stop? := if other = target then (outline.region merged).stop?
        else (outline.region other).stop? } := by
  by_cases same : other = target
  · rw [same, outline.region_absorb_target childless known apart, if_pos rfl]
  · rw [outline.region_absorb_other childless same, if_neg same]

end Absorb

end Outline

end CodeFolding
