import CodeFolding.Proofs.Lexicon
import CodeFolding.Proofs.Outline.Laminar
import CodeFolding.Proofs.Publisher.History

set_option autoImplicit false

namespace CodeFolding

/-- The reading of tokens with a lexicon. -/
def Lexicon.classifier (lexicon : Lexicon) (keywords : List String) : Classifier :=
  fun revision => .ok (lexicon.classify keywords revision.document.chars)

namespace Publication

/-- All listed regions have spans, in increasing order, within the text and on several lines. Of
two spans, the later one is behind the earlier one or strictly inside it. -/
structure Laminar (publication : Publication) : Prop where
  complete : publication.Complete
  increasing : publication.spans.Pairwise fun first second => first.start < second.start
  within : ∀ span ∈ publication.spans, span.start ≤ span.stop ∧
    span.stop ≤ publication.revision.document.length
  multiLine : ∀ span ∈ publication.spans, publication.revision.document.lineOf span.start ≠
    publication.revision.document.lineOf span.stop
  nested : publication.spans.Pairwise fun first second =>
    first.stop ≤ second.start ∨ first.start < second.start ∧ second.stop < first.stop

theorem Laminar.blank : Laminar blank :=
  ⟨fun _ member => absurd member List.not_mem_nil, List.Pairwise.nil,
    fun _ member => absurd member List.not_mem_nil,
    fun _ member => absurd member List.not_mem_nil, List.Pairwise.nil⟩

section Regions

variable {publication : Publication}
  (filled : ∀ id ∈ publication.listed, ∀ stop,
    (publication.outline.region id).stop? = some stop →
      (publication.outline.region id).start < stop)
include filled

theorem exists_region_of_mem_spans {span : Span} (member : span ∈ publication.spans) :
    ∃ id ∈ publication.listed, (publication.outline.region id).start = span.start ∧
      (publication.outline.region id).stop? = some span.stop ∧ span.start < span.stop := by
  obtain ⟨id, listed, found⟩ := List.mem_filterMap.1 member
  obtain ⟨stop, ended, rfl⟩ := Option.map_eq_some_iff.1 found
  have inside := filled id listed stop ended
  rw [Span.ordered_of_le _ _ (Nat.le_of_lt inside)]
  exact ⟨id, listed, rfl, ended, inside⟩

theorem pairwise_spans {holds : Span → Span → Prop}
    (regions : publication.listed.Pairwise fun first second => ∀ stop last,
      (publication.outline.region first).stop? = some stop →
      (publication.outline.region second).stop? = some last →
      holds ⟨(publication.outline.region first).start, stop⟩
        ⟨(publication.outline.region second).start, last⟩) :
    publication.spans.Pairwise holds := by
  apply List.pairwise_filterMap.2
  apply List.Pairwise.imp_of_mem _ regions
  intro first second one two related span firstSpan other secondSpan
  obtain ⟨stop, ended, rfl⟩ := Option.map_eq_some_iff.1 firstSpan
  obtain ⟨last, ends, rfl⟩ := Option.map_eq_some_iff.1 secondSpan
  rw [Span.ordered_of_le _ _ (Nat.le_of_lt (filled first one stop ended)),
    Span.ordered_of_le _ _ (Nat.le_of_lt (filled second two last ends))]
  exact related stop last ended ends

theorem laminar_of_regions
    (text : publication.outline.document = publication.revision.document)
    (bounded : publication.outline.Bounded)
    (multiLine : ∀ id ∈ publication.listed, publication.outline.isMultiLine id = true)
    (regions : publication.listed.Pairwise fun first second => ∀ stop last,
      (publication.outline.region first).stop? = some stop →
      (publication.outline.region second).stop? = some last →
      stop ≤ (publication.outline.region second).start ∨
        (publication.outline.region first).start < (publication.outline.region second).start ∧
          last < stop) : publication.Laminar := by
  refine ⟨?_, ?_, ?_, ?_, pairwise_spans filled regions⟩
  · intro id listed
    have several := multiLine id listed
    rw [Outline.isMultiLine, Outline.stopLine?, Option.any_map] at several
    obtain ⟨stop, ended, -⟩ := (Option.any_eq_true ..).1 several
    exact ⟨stop, ended⟩
  · apply pairwise_spans filled
    apply List.Pairwise.imp_of_mem _ regions
    intro first second one _ related stop last ended ends
    have inside := filled first one stop ended
    rcases related stop last ended ends with apart | within
    · show (publication.outline.region first).start < (publication.outline.region second).start
      omega
    · exact within.1
  · intro span member
    obtain ⟨id, -, -, ended, inside⟩ := exists_region_of_mem_spans filled member
    have limit := bounded.stop_le id span.stop ended
    rw [text] at limit
    exact ⟨Nat.le_of_lt inside, limit⟩
  · intro span member
    obtain ⟨id, listed, starts, ended, -⟩ := exists_region_of_mem_spans filled member
    have several := multiLine id listed
    rw [Outline.isMultiLine, Outline.stopLine?, ended, Outline.startLine, starts, text,
      Option.map_some, Option.any_some, bne_iff_ne] at several
    exact several.symm

end Regions

end Publication

namespace Publisher

variable {publisher : Publisher Bool} {rules : BraceRules}

theorem publicationOf_laminar (brace : publisher.dialect = .brace rules) (revision : Revision)
    (occasion : Occasion) (ordered : Token.Ordered (publisher.tokens revision))
    (whole : ∀ token ∈ publisher.tokens revision,
      token.kind = .comment ∨ token.kind = .directive →
        ¬ revision.document.SplitsBreak token.stop) :
    (publisher.publicationOf revision occasion).Laminar := by
  have made := (outlineOf_eq brace false revision).symm
  have nested := Scan.run_nested rules false revision.document ordered
  have tree := ((Dialect.brace rules).outline_numbered false revision.document
    (publisher.tokens revision)).treeShaped
  rw [made] at tree
  have strict : (publisher.outlineOf revision).StrictlyNested := by
    rw [← made, Dialect.outline_brace]
    exact nested.strictlyNested
  have foldable : ∀ id ∈ (publisher.publicationOf revision occasion).listed,
      (∃ outer, (publisher.outlineOf revision).Lists outer id) ∧
        (publisher.outlineOf revision).isMultiLine id = true := by
    intro id listed
    obtain ⟨found, several⟩ := List.mem_filter.1 (List.mem_filter.1 listed).1
    exact ⟨(tree.mem_descendants id).1 found, several⟩
  apply Publication.laminar_of_regions
  · intro id listed stop ended
    obtain ⟨outer, lists⟩ := (foldable id listed).1
    exact (strict.filled outer id stop lists ended).1
  · exact outlineOf_document brace revision
  · exact outlineOf_bounded brace revision
  · exact fun id listed => (foldable id listed).2
  · have increasing : (publisher.publicationOf revision occasion).listed.Pairwise (· < ·) :=
      (tree.increasing.filter _).filter _
    apply List.Pairwise.imp_of_mem _ increasing
    intro first second one two before stop last ended ends
    exact Dialect.apart_or_inside rules false revision.document ordered whole made
      (foldable first one).1 (foldable second two).1 before ended ends

/-- Whatever has been asked before, the last publication is laminar. -/
theorem after_laminar (rules : BraceRules) (announced : Bool) {classifier : Classifier}
    (settings : Settings)
    (ordered : ∀ revision tokens, classifier revision = .ok tokens → Token.Ordered tokens)
    (whole : ∀ revision tokens, classifier revision = .ok tokens → ∀ token ∈ tokens,
      token.kind = .comment ∨ token.kind = .directive →
        ¬ revision.document.SplitsBreak token.stop) (log : List Request) :
    ((fresh (.brace rules) announced classifier settings).after log).published.Laminar := by
  induction log with
  | nil => exact .blank
  | cons request earlier ih =>
    cases request with
    | configure settings => exact ih
    | outline revision occasion =>
      have remembers := after_remembers rules announced classifier settings earlier
      unfold after
      generalize (fresh (.brace rules) announced classifier settings).after earlier = publisher
        at ih remembers
      cases skipped : publisher.skips revision.version occasion with
      | true =>
        rw [publish_of_skips _ _ _ skipped]
        exact ih
      | false =>
        rw [publish_of_not_skips _ _ _ skipped]
        have classified := remembers.classifier_eq
        apply publicationOf_laminar remembers.brace
        · unfold tokens
          split
          · rename_i found
            rw [classified] at found
            exact ordered revision _ found
          · exact fun token member => absurd member List.not_mem_nil
        · unfold tokens
          split
          · rename_i found
            rw [classified] at found
            exact whole revision _ found
          · exact fun token member => absurd member List.not_mem_nil

/-- The lexicon of languages with braces can be made. With the tokens that it finds, under the
rules of any language and with all keywords, settings and requests, what is published is laminar:
no comment and no directive ends inside a break, in no text. -/
theorem published_laminar (rules : BraceRules) (keywords : List String) (announced : Bool)
    (settings : Settings) (log : List Request) :
    ∃ lexicon, Lexicon.brace? = some lexicon ∧
      ((fresh (.brace rules) announced (lexicon.classifier keywords) settings).after
        log).published.Laminar ∧
      ∀ document : Document, ∀ token ∈ lexicon.classify keywords document.chars,
        token.kind = .comment ∨ token.kind = .directive →
          ¬ document.SplitsBreak token.stop := by
  obtain ⟨lexicon, found, checked⟩ := (Option.any_eq_true ..).1 Lexicon.brace?_leavesBreaks
  refine ⟨lexicon, found, ?_, ?_⟩
  · apply after_laminar
    · intro revision tokens same
      cases same
      exact lexicon.classify_ordered keywords _
    · intro revision tokens same token member kind
      cases same
      exact Lexicon.classify_leavesBreaks checked member kind
  · intro document token member kind
    exact Lexicon.classify_leavesBreaks checked member kind

end Publisher

end CodeFolding
