import CodeFolding.Proofs.Outline.Bounds
import CodeFolding.Proofs.Span
import CodeFolding.Publisher

set_option autoImplicit false

namespace CodeFolding

namespace Outline

theorem ended_of_foldable {outline : Outline} {id : Nat} (member : id ∈ outline.foldable) :
    ∃ stop, (outline.region id).stop? = some stop := by
  have multiLine := (List.mem_filter.1 member).2
  simp only [isMultiLine, stopLine?, Option.any_map] at multiLine
  obtain ⟨stop, ended, -⟩ := (Option.any_eq_true ..).1 multiLine
  exact ⟨stop, ended⟩

end Outline

namespace Publication

def Complete (publication : Publication) : Prop :=
  ∀ id ∈ publication.listed, ∃ stop, (publication.outline.region id).stop? = some stop

theorem mem_spans {publication : Publication} {id stop : Nat} (listed : id ∈ publication.listed)
    (ended : (publication.outline.region id).stop? = some stop) :
    Span.ordered (publication.outline.region id).start stop ∈ publication.spans := by
  refine List.mem_filterMap.2 ⟨id, listed, ?_⟩
  rw [Region.span?, ended, Option.map_some]

theorem within_of_mem_spans {publication : Publication} (bounded : publication.outline.Bounded)
    {span : Span} (member : span ∈ publication.spans) :
    span.Within publication.outline.document.length := by
  obtain ⟨id, -, found⟩ := List.mem_filterMap.1 member
  rw [Region.span?, Option.map_eq_some_iff] at found
  obtain ⟨stop, ended, rfl⟩ := found
  exact Span.ordered_within (bounded.start_le id) (bounded.stop_le id stop ended)

/-- A span that encloses all spans shares a line with all listed regions. -/
theorem overlapping_of_encloses {publication : Publication} (complete : publication.Complete)
    {outer : Span} (all : ∀ span ∈ publication.spans, outer.encloses span = true) :
    publication.overlapping outer = publication.listed := by
  refine List.filter_eq_self.2 ?_
  intro id listed
  obtain ⟨stop, ended⟩ := complete id listed
  have enclosed := all _ (mem_spans listed ended)
  rw [Span.encloses_iff, Span.ordered_start, Span.ordered_stop] at enclosed
  have starts : publication.outline.startLine id ≤
      publication.outline.document.lineOf outer.stop :=
    publication.outline.document.lineOf_mono (by omega)
  have stops : publication.outline.document.lineOf outer.start ≤
      publication.outline.document.lineOf stop :=
    publication.outline.document.lineOf_mono (by omega)
  simp only [Outline.stopLine?, ended, Option.map_some, Option.any_some, Bool.and_eq_true,
    decide_eq_true_eq]
  exact ⟨starts, stops⟩

end Publication

namespace Publisher

section Requests

variable {σ : Type} (publisher : Publisher σ) (revision : Revision) (occasion : Occasion)

def outlineOf : Outline :=
  (publisher.dialect.outline publisher.state revision.document (publisher.tokens revision)).2

def publicationOf : Publication :=
  let outline := publisher.outlineOf revision
  let listed := outline.foldable.filter fun id => publisher.settings.lists (outline.region id).kind
  let spans := listed.filterMap fun id => (outline.region id).span?
  { edition := publisher.published.edition + 1
    revision := revision
    outline := outline
    listed := listed
    changed := (publisher.compare revision spans).2
    isInitial := publisher.lastVersion?.isNone || occasion == .load }

theorem publish_of_skips (skipped : publisher.skips revision.version occasion = true) :
    publisher.publish revision occasion =
      (publisher, ⟨.skipped, none, publisher.published⟩) := by
  rw [publish, if_pos skipped]

theorem publish_of_not_skips (answered : publisher.skips revision.version occasion = false) :
    publisher.publish revision occasion =
      ({ publisher with
          state := (publisher.dialect.outline publisher.state revision.document
            (publisher.tokens revision)).1
          published := publisher.publicationOf revision occasion
          lastVersion? := some revision.version
          settingsChanged := false },
        ⟨(publisher.compare revision (publisher.publicationOf revision occasion).spans).1,
          (publisher.compare revision (publisher.publicationOf revision occasion).spans).2,
          publisher.publicationOf revision occasion⟩) := by
  rw [publish, if_neg (by rw [answered]; exact Bool.false_ne_true)]
  rfl

theorem compare_ne_skipped (spans : List Span) :
    (publisher.compare revision spans).1 ≠ .skipped := by
  unfold compare
  split
  · exact nofun
  · split <;> exact nofun

theorem mode_eq_skipped_iff : (publisher.publish revision occasion).2.mode = .skipped ↔
    publisher.skips revision.version occasion = true := by
  cases skipped : publisher.skips revision.version occasion with
  | true =>
    rw [publish_of_skips _ _ _ skipped]
    exact ⟨fun _ => rfl, fun _ => rfl⟩
  | false =>
    rw [publish_of_not_skips _ _ _ skipped]
    have answered := publisher.compare_ne_skipped revision
      (publisher.publicationOf revision occasion).spans
    exact ⟨fun mode => absurd mode answered, fun mode => nomatch mode⟩

theorem not_skips_of_mode (answered : (publisher.publish revision occasion).2.mode ≠ .skipped) :
    publisher.skips revision.version occasion = false := by
  rw [Ne, mode_eq_skipped_iff, Bool.not_eq_true] at answered
  exact answered

@[simp] theorem dialect_publish :
    (publisher.publish revision occasion).1.dialect = publisher.dialect := by
  unfold publish
  split <;> rfl

theorem publicationOf_complete : (publisher.publicationOf revision occasion).Complete :=
  fun _ listed => Outline.ended_of_foldable (List.mem_filter.1 listed).1

theorem compare_of_carried {last : Nat} {old : List Span} (spans : List Span)
    (known : publisher.lastVersion? = some last)
    (carried : (publisher.published.spans.mapM fun span => revision.carry span last) = .ok old) :
    publisher.compare revision spans = (.incremental, Span.changed old spans) := by
  simp only [compare, known, carried]

theorem compare_of_gap {last : Nat} {gap : Gap} (spans : List Span)
    (known : publisher.lastVersion? = some last)
    (lost : (publisher.published.spans.mapM fun span => revision.carry span last) = .error gap) :
    publisher.compare revision spans = (.refresh, some revision.document.fullSpan) := by
  simp only [compare, known, lost]

end Requests

section Brace

variable {publisher : Publisher Bool} {rules : BraceRules}

/-- In a language with braces the state that an earlier outline leaves makes no difference. -/
theorem outlineOf_eq (brace : publisher.dialect = .brace rules) (announced : Bool)
    (revision : Revision) : publisher.outlineOf revision =
      ((Dialect.brace rules).outline announced revision.document
        (publisher.tokens revision)).2 := by
  rw [outlineOf, brace]
  rfl

theorem outlineOf_document (brace : publisher.dialect = .brace rules) (revision : Revision) :
    (publisher.outlineOf revision).document = revision.document := by
  rw [outlineOf_eq brace false, Dialect.document_outline_brace]

theorem outlineOf_bounded (brace : publisher.dialect = .brace rules) (revision : Revision) :
    (publisher.outlineOf revision).Bounded := by
  rw [outlineOf_eq brace false]
  exact Dialect.outline_bounded ..

theorem within_of_mem_publicationOf (brace : publisher.dialect = .brace rules)
    (revision : Revision) (occasion : Occasion) {span : Span}
    (member : span ∈ (publisher.publicationOf revision occasion).spans) :
    span.Within revision.document.length := by
  have within := Publication.within_of_mem_spans (outlineOf_bounded brace revision) member
  change span.Within (publisher.outlineOf revision).document.length at within
  rw [outlineOf_document brace] at within
  exact within

end Brace

end Publisher

end CodeFolding
