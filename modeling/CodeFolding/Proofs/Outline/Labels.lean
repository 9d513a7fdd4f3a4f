import CodeFolding.Proofs.Outline.Drained

set_option autoImplicit false

namespace CodeFolding

def Region.label (region : Region) : Region.Kind × Option String :=
  (region.kind, region.name?)

namespace Outline

def AllLabels (outline : Outline) (holds : Region.Kind × Option String → Prop) : Prop :=
  ∀ id, holds (outline.region id).label

theorem label_absorb (outline : Outline) (target merged other : Nat) :
    ((outline.absorb target merged).region other).label = (outline.region other).label := by
  unfold absorb
  dsimp only
  rw [← Array.foldl_toList]
  refine (field_modify _ target other Region.label ?_).trans ?_
  · exact fun _ => rfl
  refine (field_setParents _ _ other Region.label ?_).trans ?_
  · exact fun _ _ => rfl
  refine field_modify _ merged other Region.label ?_
  exact fun _ => rfl

theorem label_finish (outline : Outline) (id other : Nat) :
    ((outline.finish id).region other).label = (outline.region other).label := by
  cases linked : (outline.region id).parent? with
  | none => simp only [Outline.finish, linked]
  | some parent =>
    rcases finish_cases linked with settled | ⟨last, -, -, absorbed⟩
    · rw [settled]
      exact outline.field_settle id parent _ Region.label other (fun _ _ => rfl) fun _ _ _ => rfl
    · rw [absorbed, label_absorb]

namespace AllLabels

variable {outline : Outline} {holds : Region.Kind × Option String → Prop}

theorem blank (document : Document) (root : holds (.document, none)) :
    (Outline.blank document).AllLabels holds := by
  intro id
  cases id with
  | zero => exact root
  | succ id => exact root

theorem add (all : outline.AllLabels holds) (draft : Draft) (parent : Nat)
    (new : holds (draft.kind, draft.name?)) : (outline.add draft parent).AllLabels holds := by
  intro id
  by_cases added : id = outline.size
  · rw [added, outline.region_add_self draft parent]
    exact new
  · rw [outline.region_add_other draft parent added]
    exact all id

theorem finish (all : outline.AllLabels holds) (id : Nat) :
    (outline.finish id).AllLabels holds := by
  intro other
  rw [label_finish]
  exact all other

theorem close (all : outline.AllLabels holds) (id stop : Nat) :
    (outline.close id stop).AllLabels holds := by
  intro other
  have kept : ((outline.close id stop).region other).label = (outline.region other).label :=
    outline.field_modify id other Region.label fun _ => rfl
  rw [kept]
  exact all other

theorem finishAll (all : outline.AllLabels holds) (opened : List Nat) :
    (outline.finishAll opened).AllLabels holds := by
  unfold Outline.finishAll
  induction opened generalizing outline with
  | nil => exact all
  | cons id outer ih => exact ih (all.finish id)

end AllLabels

end Outline

theorem Scan.Act.allLabels {rules : BraceRules} {scan after : Scan Bool} {next : Cursor}
    {holds : Region.Kind × Option String → Prop} (act : Scan.Act rules scan next after)
    (starts : ∀ draft, rules.start? scan.cursor = some draft → holds (draft.kind, draft.name?))
    (all : scan.outline.AllLabels holds) : after.outline.AllLabels holds := by
  cases act with
  | pass => exact all
  | start draft role begins =>
    exact all.add { draft with role := role } scan.parent (starts draft begins)
  | comment draft role begins =>
    exact (all.add { draft with role := role } scan.parent (starts draft begins)).finish
      scan.outline.size
  | close id outer stop => exact (all.close id stop).finish id

/-- What holds of the labels that the rules give holds of all labels in an outline. -/
theorem Dialect.outline_allLabels (rules : BraceRules) (announced : Bool) (document : Document)
    (tokens : List Token) (holds : Region.Kind × Option String → Prop)
    (root : holds (.document, none))
    (starts : ∀ cursor draft, rules.start? cursor = some draft → holds (draft.kind, draft.name?)) :
    ((brace rules).outline announced document tokens).2.AllLabels holds := by
  rw [outline_brace]
  refine Outline.AllLabels.finishAll ?_ _
  refine (Scan.braceRun_acts rules announced document tokens
    (fun scan => scan.outline.AllLabels holds) (Outline.AllLabels.blank document root) ?_).2
  intro scan next tracks moved all
  exact (Scan.step_act rules scan next).allLabels (starts scan.cursor) all

end CodeFolding
