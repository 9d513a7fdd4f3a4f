import CodeFolding.Proofs.Outline.Finished
import CodeFolding.Proofs.Outline.Numbering

set_option autoImplicit false

namespace CodeFolding

namespace Outline

variable {outline : Outline} {position : Nat} {opened : List Nat}

def finishAll (outline : Outline) (opened : List Nat) : Outline :=
  opened.foldl finish outline

@[simp] theorem document_finishAll (outline : Outline) (opened : List Nat) :
    (outline.finishAll opened).document = outline.document := by
  unfold finishAll
  induction opened generalizing outline with
  | nil => rfl
  | cons id outer ih => rw [List.foldl_cons, ih, document_finish]

/-- The open regions that lie directly inside `outer`. -/
def openInside (outline : Outline) (opened : List Nat) (outer : Nat) : List Nat :=
  opened.filter fun id => (outline.region id).parent? == some outer

theorem mem_openInside {outer id : Nat} :
    id ∈ outline.openInside opened outer ↔
      id ∈ opened ∧ (outline.region id).parent? = some outer := by
  simp only [openInside, List.mem_filter, beq_iff_eq]

theorem finish_of_unended {parent id : Nat}
    (linked : (outline.region id).parent? = some parent)
    (unended : (outline.region id).stop? = none) :
    outline.finish id = outline.enlist parent id := by
  have settled : ∀ previous?, outline.settle id parent previous? = outline.enlist parent id := by
    intro previous?
    have stays : outline.raisedStart? id parent previous? = none := by
      simp only [raisedStart?, isMultiLine, stopLine?, unended, Option.map_none,
        Option.any_none, Bool.false_and, Bool.false_eq_true, ↓reduceIte, ite_self]
    simp only [settle, stays]
  rcases finish_cases linked with listed | ⟨last, -, adjoin, -⟩
  · rw [listed, settled]
  · simp only [commentsAdjoin, Bool.and_eq_true, Draft.isComplete, unended,
      Option.isSome_none, Bool.false_eq_true, and_false, false_and] at adjoin

theorem Stacked.enlist (stacked : Stacked outline opened) (parent id : Nat) :
    Stacked (outline.enlist parent id) opened := by
  refine stacked.transfer (Nat.le_of_eq (size_enlist ..).symm) ?_
  intro other _
  refine outline.field_modify parent other Region.parent? ?_
  exact fun _ => rfl

theorem openInside_enlist (outline : Outline) (parent id : Nat) (opened : List Nat)
    (outer : Nat) :
    (outline.enlist parent id).openInside opened outer = outline.openInside opened outer := by
  unfold openInside
  congr 1
  funext other
  have linked : ((outline.enlist parent id).region other).parent? =
      (outline.region other).parent? := by
    refine outline.field_modify parent other Region.parent? ?_
    exact fun _ => rfl
  rw [linked]

/-- Finishing all open regions from the inside out lists each of them, last in the region around
it. -/
theorem Stacked.region_finishAll (stacked : Stacked outline opened)
    (unended : ∀ id ∈ opened, (outline.region id).stop? = none) (other : Nat) :
    (outline.finishAll opened).region other = { outline.region other with
      children := (outline.region other).children ++
        (outline.openInside opened other).toArray } := by
  unfold finishAll
  induction opened generalizing outline with
  | nil => simp only [List.foldl_nil, openInside, List.filter_nil, Array.append_empty]
  | cons id outer ih =>
    rcases stacked with _ | ⟨around, known, later, linked⟩
    have parentKnown : outer.headD rootId < outline.size := Nat.lt_trans later known
    have still : ∀ other ∈ outer,
        ((outline.enlist (outer.headD rootId) id).region other).stop? = none := by
      intro other member
      refine Eq.trans (outline.field_modify _ other (fun region => region.stop?) ?_)
        (unended other (List.mem_cons_of_mem id member))
      exact fun _ => rfl
    rw [List.foldl_cons, finish_of_unended linked (unended id List.mem_cons_self),
      ih (around.enlist _ id) still, openInside_enlist]
    by_cases same : other = outer.headD rootId
    · subst same
      have first : outline.openInside (id :: outer) (outer.headD rootId) =
          id :: outline.openInside outer (outer.headD rootId) := by
        simp only [openInside, List.filter_cons, linked, beq_self_eq_true, ↓reduceIte]
      rw [region_enlist_self _ _ parentKnown, first]
      simp only [Region.mk.injEq, true_and]
      exact Array.ext' (by simp only [Array.toList_append, Array.toList_push, List.append_assoc,
        List.cons_append, List.nil_append])
    · have skipped : outline.openInside (id :: outer) other = outline.openInside outer other := by
        have outside : ¬ (some (outer.headD rootId) == some other) = true := by
          simpa only [beq_iff_eq, Option.some.injEq] using Ne.symm same
        simp only [openInside, List.filter_cons, linked, outside, Bool.false_eq_true,
          ↓reduceIte]
      rw [region_enlist_other _ _ same, skipped]

theorem Opened.stacked (valid : Opened outline position opened) : Stacked outline opened := by
  induction valid with
  | nil => exact .nil
  | cons around waiting ih => exact .cons ih waiting.known waiting.later waiting.linked

theorem Opened.region_finishAll (valid : Opened outline position opened) (other : Nat) :
    (outline.finishAll opened).region other = { outline.region other with
      children := (outline.region other).children ++
        (outline.openInside opened other).toArray } := by
  refine valid.stacked.region_finishAll ?_ other
  intro id member
  obtain ⟨_, waiting⟩ := valid.waiting_of_mem id member
  exact waiting.unended

theorem Opened.draft_finishAll (valid : Opened outline position opened) (id : Nat) :
    ((outline.finishAll opened).region id).toDraft = (outline.region id).toDraft := by
  rw [valid.region_finishAll]

theorem Opened.parent?_finishAll (valid : Opened outline position opened) (id : Nat) :
    ((outline.finishAll opened).region id).parent? = (outline.region id).parent? := by
  rw [valid.region_finishAll]

theorem Stacked.parent_open (stacked : Stacked outline opened) {outer inner : Nat}
    (member : inner ∈ opened) (linked : (outline.region inner).parent? = some outer) :
    outer = rootId ∨ outer ∈ opened := by
  induction stacked with
  | nil => exact absurd member List.not_mem_nil
  | @cons id rest around known later link ih =>
    rcases List.mem_cons.1 member with rfl | inRest
    · cases Option.some.inj (linked.symm.trans link)
      exact (Opened.headD_mem rest).imp_right (List.mem_cons_of_mem inner)
    · exact (ih inRest).imp_right (List.mem_cons_of_mem id)

theorem Stacked.openInside_eq (stacked : Stacked outline opened) {outer id : Nat}
    (member : id ∈ opened) (linked : (outline.region id).parent? = some outer) :
    outline.openInside opened outer = [id] := by
  induction stacked with
  | nil => exact absurd member List.not_mem_nil
  | @cons innermost rest around known later link ih =>
    -- The regions further out lie in regions further out than the one around the innermost.
    have further : ∀ other ∈ rest, (outline.region other).parent? ≠ some (rest.headD rootId) := by
      intro other inRest same
      obtain ⟨parent, before, -, facts⟩ := around.facts_of_mem other inRest
      have known := Option.some.inj (facts.symm.trans same)
      have below := around.le_head other inRest
      omega
    rcases List.mem_cons.1 member with rfl | inRest
    · cases Option.some.inj (linked.symm.trans link)
      have others : outline.openInside rest (rest.headD rootId) = [] := by
        apply List.eq_nil_iff_forall_not_mem.2
        intro other inside
        exact further other (mem_openInside.1 inside).1 (mem_openInside.1 inside).2
      unfold openInside at others ⊢
      rw [List.filter_cons, if_pos (by rw [linked]; exact beq_self_eq_true _), others]
    · have skipped : ¬ ((outline.region innermost).parent? == some outer) = true := by
        rw [link, beq_iff_eq]
        intro same
        exact further id inRest (linked.trans same.symm)
      unfold openInside at ih ⊢
      rw [List.filter_cons, if_neg skipped]
      exact ih inRest

end Outline

namespace Scan

open Outline (Opened)

theorem brace_drain (rules : BraceRules) (scan : Scan Bool) :
    scan.drain (Dialect.brace rules) =
      (scan.state, scan.outline.finishAll scan.opened) := by
  unfold drain Outline.finishAll
  generalize scan.opened = opened
  generalize scan.outline = outline
  induction opened generalizing outline with
  | nil => rfl
  | cons id outer ih =>
    rw [List.foldl_cons, List.foldl_cons, Outline.brace_finish]
    exact ih (outline.finish id)

theorem braceRun_document (rules : BraceRules) (announced : Bool) (document : Document)
    (tokens : List Token) :
    (braceRun rules announced document tokens).outline.document = document :=
  (braceRun_induction rules announced document tokens (fun _ => True) trivial
    fun _ _ _ _ _ _ _ => trivial).1.same

end Scan

/-- An outline is made by a scan to the end of the text that then finishes the open regions. -/
theorem Dialect.outline_brace (rules : BraceRules) (announced : Bool) (document : Document)
    (tokens : List Token) :
    ((brace rules).outline announced document tokens).2 =
      (Scan.braceRun rules announced document tokens).outline.finishAll
        (Scan.braceRun rules announced document tokens).opened := by
  unfold Dialect.outline
  rw [Scan.brace_drain]
  rfl

@[simp] theorem Dialect.document_outline_brace (rules : BraceRules) (announced : Bool)
    (document : Document) (tokens : List Token) :
    ((brace rules).outline announced document tokens).2.document = document := by
  rw [outline_brace, Outline.document_finishAll, Scan.braceRun_document]

end CodeFolding
