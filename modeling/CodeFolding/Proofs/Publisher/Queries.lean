import CodeFolding.Proofs.Edit.Nesting
import CodeFolding.Proofs.Outline.Nesting
import CodeFolding.Proofs.Outline.Preorder
import CodeFolding.Proofs.Publisher.Prepend
import CodeFolding.Proofs.Publisher.Session

set_option autoImplicit false

namespace CodeFolding

namespace Outline

/-- Complete regions with the images of their spans. -/
def images (outline : Outline) (image : Span → Span) (ids : List Nat) : List (Nat × Span) :=
  ids.filterMap fun id => (outline.region id).span?.map fun span => (id, image span)

theorem map_fst_images {outline : Outline} {ids : List Nat}
    (complete : ∀ id ∈ ids, ∃ stop, (outline.region id).stop? = some stop)
    (image : Span → Span) : (outline.images image ids).map Prod.fst = ids := by
  rw [images, List.map_filterMap]
  refine Eq.trans (List.filterMap_congr ?_) List.filterMap_some
  intro id member
  obtain ⟨stop, ended⟩ := complete id member
  rw [Region.span?, ended]
  rfl

theorem mem_images {outline : Outline} {image : Span → Span} {ids : List Nat} {id : Nat}
    {moved : Span} : (id, moved) ∈ outline.images image ids ↔ id ∈ ids ∧
      ∃ span, (outline.region id).span? = some span ∧ image span = moved := by
  rw [images, List.mem_filterMap]
  constructor
  · rintro ⟨other, member, found⟩
    obtain ⟨span, own, same⟩ := Option.map_eq_some_iff.1 found
    cases same
    exact ⟨member, span, own, rfl⟩
  · rintro ⟨member, span, own, rfl⟩
    exact ⟨id, member, by rw [own]; rfl⟩

end Outline

namespace Publication

/-- How questions about `revision`, a later one, are answered: not at all if a region is listed and
more than `limit` changes lie in between, and otherwise by some of the listed regions in their
order, with all that touch the text in question among them. -/
structure AnswersIn (publication : Publication) (limit : Nat) (revision : Revision) : Prop where
  error_iff : ∀ query gap, publication.overlappingIn revision query = .error gap ↔
    gap = ⟨publication.version, revision.version⟩ ∧ publication.listed ≠ [] ∧
      publication.version + limit < revision.version
  hits : ∀ query hits, publication.overlappingIn revision query = .ok hits →
    (hits.map Prod.fst).Sublist publication.listed ∧ (hits.map Prod.fst).Nodup ∧
      ∀ id moved, (id, moved) ∈ hits → ∃ span, (publication.outline.region id).span? = some span ∧
        revision.carry span publication.version = .ok moved
  touching : ∀ query hits, publication.overlappingIn revision query = .ok hits →
    ∀ id ∈ publication.listed, ∀ span moved, (publication.outline.region id).span? = some span →
      revision.carry span publication.version = .ok moved →
      moved.start ≤ query.stop → query.start ≤ moved.stop → (id, moved) ∈ hits
  growing : ∀ query larger hits, larger.encloses query = true →
    publication.overlappingIn revision query = .ok hits →
    ∃ more, publication.overlappingIn revision larger = .ok more ∧ hits.Sublist more

/-- Questions about its own revision are answered alike in both ways. -/
structure AnswersAlike (publication : Publication) : Prop where
  overlapping_eq : ∀ query, ∃ hits,
    publication.overlappingIn publication.revision query = .ok hits ∧
      hits.map Prod.fst = publication.overlapping query ∧
      ∀ id span, (id, span) ∈ hits → (publication.outline.region id).span? = some span
  folds_eq : ∀ query settings, publication.foldsIn publication.revision query settings =
    .ok (publication.folds query settings)

/-- Whether a hit shares a line with the span in question. -/
def sharesLine (document : Document) (query : Span) (hit : Nat × Span) : Bool :=
  document.lineOf hit.2.start ≤ document.lineOf query.stop &&
    document.lineOf query.start ≤ document.lineOf hit.2.stop

theorem sharesLine_of_touching {document : Document} {query : Span} {hit : Nat × Span}
    (before : hit.2.start ≤ query.stop) (behind : query.start ≤ hit.2.stop) :
    sharesLine document query hit = true := by
  rw [sharesLine, Bool.and_eq_true, decide_eq_true_eq, decide_eq_true_eq]
  exact ⟨document.lineOf_mono before, document.lineOf_mono behind⟩

theorem sharesLine_of_encloses {document : Document} {query larger : Span} {hit : Nat × Span}
    (encloses : larger.encloses query = true) (shares : sharesLine document query hit = true) :
    sharesLine document larger hit = true := by
  rw [Span.encloses_iff] at encloses
  have first := document.lineOf_mono encloses.1
  have last := document.lineOf_mono encloses.2
  simp only [sharesLine, Bool.and_eq_true, decide_eq_true_eq] at shares ⊢
  omega

section Answers

variable {publication : Publication} {revision : Revision}

theorem overlappingIn_of_carried {image : Span → Span}
    (carries : ∀ id ∈ publication.listed, ∀ span,
      (publication.outline.region id).span? = some span →
        revision.carry span publication.version = .ok (image span)) (query : Span) :
    publication.overlappingIn revision query =
      .ok ((publication.outline.images image publication.listed).filter
        (sharesLine revision.document query)) := by
  rw [overlappingIn, carried_of_forall image carries]
  rfl

theorem overlappingIn_of_gap {gap : Gap} (complete : publication.Complete)
    (lost : ∀ span, revision.carry span publication.version = .error gap)
    (some : publication.listed ≠ []) (query : Span) :
    publication.overlappingIn revision query = .error gap := by
  obtain ⟨first, rest, split⟩ := List.exists_cons_of_ne_nil some
  obtain ⟨stop, ended⟩ := complete first (split ▸ List.mem_cons_self)
  rw [overlappingIn, carried, split, List.filterMap_cons_some (by rw [Region.span?, ended]; rfl),
    List.mapM_cons]
  dsimp only
  rw [lost]
  rfl

/-- A revision that carries all spans over, or none because too many changes lie in between,
answers questions from the spans that it has carried over. -/
theorem answersIn_of_carry {limit : Nat} (complete : publication.Complete)
    (distinct : publication.listed.Nodup) {image : Span → Span}
    (carry : ∀ span, revision.carry span publication.version =
      if revision.version ≤ publication.version + limit then .ok (image span)
      else .error ⟨publication.version, revision.version⟩) :
    publication.AnswersIn limit revision := by
  by_cases lost : publication.listed ≠ [] ∧ publication.version + limit < revision.version
  · have far : ¬ revision.version ≤ publication.version + limit := Nat.not_le.2 lost.2
    simp only [far, ↓reduceIte] at carry
    have answer := overlappingIn_of_gap complete carry lost.1
    refine ⟨?_, ?_, ?_, ?_⟩
    · intro query gap
      rw [answer, Except.error.injEq, eq_comm]
      exact ⟨fun same => ⟨same, lost⟩, And.left⟩
    · intro query hits found
      exact nomatch (answer query).symm.trans found
    · intro query hits found
      exact nomatch (answer query).symm.trans found
    · intro query larger hits _ found
      exact nomatch (answer query).symm.trans found
  · -- Either the changes are at hand, or there is nothing to carry over.
    have carries : ∀ id ∈ publication.listed, ∀ span,
        (publication.outline.region id).span? = some span →
          revision.carry span publication.version = .ok (image span) := by
      intro id listed span _
      have near : revision.version ≤ publication.version + limit :=
        Nat.le_of_not_lt fun far => lost ⟨List.ne_nil_of_mem listed, far⟩
      rw [carry, if_pos near]
    have answer := overlappingIn_of_carried carries
    refine ⟨?_, ?_, ?_, ?_⟩
    · intro query gap
      rw [answer]
      exact ⟨fun failed => (nomatch failed), fun far => absurd far.2 lost⟩
    · intro query hits found
      rw [answer] at found
      cases found
      have among : (((publication.outline.images image publication.listed).filter
          (sharesLine revision.document query)).map Prod.fst).Sublist
            ((publication.outline.images image publication.listed).map Prod.fst) :=
        List.filter_sublist.map _
      rw [Outline.map_fst_images complete image] at among
      refine ⟨among, distinct.sublist among, ?_⟩
      intro id moved member
      obtain ⟨listed, span, own, rfl⟩ := Outline.mem_images.1 (List.mem_filter.1 member).1
      exact ⟨span, own, carries id listed span own⟩
    · intro query hits found id listed span moved own moves before behind
      rw [answer] at found
      cases found
      cases (carries id listed span own).symm.trans moves
      exact List.mem_filter.2
        ⟨Outline.mem_images.2 ⟨listed, span, own, rfl⟩, sharesLine_of_touching before behind⟩
    · intro query larger hits encloses found
      rw [answer] at found
      cases found
      refine ⟨_, answer larger, ?_⟩
      exact List.monotone_filter_right _ fun hit => sharesLine_of_encloses encloses

/-- Where the bounds of regions are in order, the two ways to ask about the own revision find the
same regions. -/
theorem overlappingIn_own (complete : publication.Complete)
    (text : publication.outline.document = publication.revision.document)
    (inOrder : ∀ id ∈ publication.listed, ∀ stop,
      (publication.outline.region id).stop? = some stop →
        (publication.outline.region id).start ≤ stop) (query : Span) :
    publication.overlappingIn publication.revision query =
      .ok (publication.outline.images (fun span => span) (publication.overlapping query)) := by
  rw [overlappingIn_of_carried fun _ _ span _ => publication.revision.carry_self span]
  unfold Outline.images overlapping
  rw [List.filter_filterMap, List.filterMap_filter]
  congr 1
  apply List.filterMap_congr
  intro id listed
  obtain ⟨stop, ended⟩ := complete id listed
  have own : (publication.outline.region id).span? =
      some ⟨(publication.outline.region id).start, stop⟩ := by
    rw [Region.span?, ended, Option.map_some, Span.ordered_of_le _ _ (inOrder id listed stop ended)]
  rw [own, Outline.stopLine?, ended, Outline.startLine, text]
  rfl

theorem answersAlike_of_inOrder (complete : publication.Complete)
    (text : publication.outline.document = publication.revision.document)
    (inOrder : ∀ id ∈ publication.listed, ∀ stop,
      (publication.outline.region id).stop? = some stop →
        (publication.outline.region id).start ≤ stop) : publication.AnswersAlike := by
  have answer := overlappingIn_own complete text inOrder
  refine ⟨?_, ?_⟩
  · intro query
    refine ⟨_, answer query, Outline.map_fst_images ?_ _, ?_⟩
    · exact fun id member => complete id (List.mem_filter.1 member).1
    · intro id span member
      obtain ⟨-, other, own, rfl⟩ := Outline.mem_images.1 member
      exact own
  · intro query settings
    rw [foldsIn, answer]
    change Except.ok (List.map _ (List.filterMap _ _)) = _
    rw [List.map_filterMap, folds]
    simp only [Option.map_map]
    rfl

end Answers

end Publication

namespace Publisher

/-- What has been published was made by a publisher with the same rules and the same classifier, if
it is not the blank publication. -/
structure Issues (rules : BraceRules) (classifier : Classifier) (publisher : Publisher Bool) :
    Prop where
  brace : publisher.dialect = .brace rules
  classifier_eq : publisher.classifier = classifier
  issued : publisher.published = .blank ∨ ∃ (earlier : Publisher Bool) (revision : Revision)
    (occasion : Occasion), earlier.dialect = .brace rules ∧ earlier.classifier = classifier ∧
      publisher.published = earlier.publicationOf revision occasion

variable {publisher : Publisher Bool} {rules : BraceRules} {classifier : Classifier}

theorem Issues.publish (issues : publisher.Issues rules classifier) (revision : Revision)
    (occasion : Occasion) : (publisher.publish revision occasion).1.Issues rules classifier := by
  cases skipped : publisher.skips revision.version occasion with
  | true =>
    rw [publish_of_skips _ _ _ skipped]
    exact issues
  | false =>
    rw [publish_of_not_skips _ _ _ skipped]
    exact ⟨issues.brace, issues.classifier_eq, Or.inr
      ⟨publisher, revision, occasion, issues.brace, issues.classifier_eq, rfl⟩⟩

theorem nodup_listed_publicationOf (brace : publisher.dialect = .brace rules)
    (revision : Revision) (occasion : Occasion) :
    (publisher.publicationOf revision occasion).listed.Nodup := by
  have tree := ((Dialect.brace rules).outline_numbered false revision.document
    (publisher.tokens revision)).treeShaped
  rw [← outlineOf_eq brace false] at tree
  have distinct : (publisher.outlineOf revision).descendants.Nodup :=
    tree.increasing.imp Nat.ne_of_lt
  exact (distinct.filter _).filter _

theorem start_le_of_listed (brace : publisher.dialect = .brace rules)
    (ordered : ∀ revision tokens, publisher.classifier revision = .ok tokens →
      Token.Ordered tokens) (revision : Revision) (occasion : Occasion) {id stop : Nat}
    (listed : id ∈ (publisher.publicationOf revision occasion).listed)
    (ended : ((publisher.publicationOf revision occasion).outline.region id).stop? = some stop) :
    ((publisher.publicationOf revision occasion).outline.region id).start ≤ stop := by
  have inOrder : Token.Ordered (publisher.tokens revision) := by
    unfold tokens
    split
    · rename_i found
      exact ordered revision _ found
    · exact fun token member => absurd member List.not_mem_nil
  have made := outlineOf_eq brace false revision
  have tree := ((Dialect.brace rules).outline_numbered false revision.document
    (publisher.tokens revision)).treeShaped
  have nested := (Scan.run_nested rules false revision.document inOrder).strictlyNested
  rw [← Dialect.outline_brace, ← made] at nested
  rw [← made] at tree
  have found := (List.mem_filter.1 (List.mem_filter.1 listed).1).1
  obtain ⟨outer, lists⟩ := (tree.mem_descendants id).1 found
  exact Nat.le_of_lt (nested.filled outer id stop lists ended).1

theorem Issues.complete (issues : publisher.Issues rules classifier) :
    publisher.published.Complete := by
  rcases issues.issued with blank | ⟨earlier, revision, occasion, -, -, made⟩
  · rw [blank]
    exact fun id listed => absurd listed List.not_mem_nil
  · rw [made]
    exact earlier.publicationOf_complete revision occasion

theorem Issues.nodup_listed (issues : publisher.Issues rules classifier) :
    publisher.published.listed.Nodup := by
  rcases issues.issued with blank | ⟨earlier, revision, occasion, brace, -, made⟩
  · rw [blank]
    exact List.nodup_nil
  · rw [made]
    exact nodup_listed_publicationOf brace revision occasion

theorem Issues.answersAlike (issues : publisher.Issues rules classifier)
    (ordered : ∀ revision tokens, classifier revision = .ok tokens → Token.Ordered tokens) :
    publisher.published.AnswersAlike := by
  have complete := issues.complete
  rcases issues.issued with blank | ⟨earlier, revision, occasion, brace, same, made⟩
  · rw [blank] at complete ⊢
    refine Publication.answersAlike_of_inOrder complete rfl ?_
    exact fun id listed => absurd listed List.not_mem_nil
  · rw [made] at complete ⊢
    refine Publication.answersAlike_of_inOrder complete (outlineOf_document brace revision) ?_
    intro id listed stop ended
    exact start_le_of_listed brace (same ▸ ordered) revision occasion listed ended

end Publisher

theorem Classifier.braces_ordered (revision : Revision) (tokens : List Token)
    (found : braces revision = .ok tokens) : Token.Ordered tokens := by
  cases found
  intro token member
  obtain ⟨offset, -, made⟩ := List.mem_filterMap.1 member
  obtain ⟨c, -, made⟩ := Option.bind_eq_some_iff.1 made
  split at made
  · cases made
    exact Nat.le_succ offset
  · exact nomatch made

namespace Session

variable {rules : BraceRules} {classifier : Classifier} {session : Session}

theorem issues_perform (issues : session.publisher.Issues rules classifier) (action : Action) :
    (session.perform action).publisher.Issues rules classifier := by
  cases action with
  | replace span text => exact issues
  | configure settings => exact ⟨issues.brace, issues.classifier_eq, issues.issued⟩
  | outline number occasion =>
    unfold perform
    dsimp only
    split
    · exact issues.publish _ occasion
    · exact issues

theorem issues_run (issues : session.publisher.Issues rules classifier) (actions : List Action) :
    (session.run actions).publisher.Issues rules classifier := by
  unfold run
  induction actions generalizing session with
  | nil => exact issues
  | cons action rest ih => exact ih (issues_perform issues action)

/-- In every session, whatever is published at some time answers questions about its own revision
and about all later ones that the text gets; about its own it does so alike in both ways, since the
bounds of tokens are in order. -/
theorem queries_agree (rules : BraceRules) (announced : Bool) (classifier : Classifier)
    (settings : Settings) (document : Document) (limit : Nat) (before after : List Action)
    {publication : Publication}
    (published : ((start rules announced classifier settings document limit).run
      before).publisher.published = publication) {revision : Revision}
    (produced : revision ∈ ((start rules announced classifier settings document limit).run
      (before ++ after)).chronicle.revisions)
    (later : publication.version ≤ revision.version) :
    publication.AnswersIn (max limit 1) revision ∧
      ((∀ revision tokens, classifier revision = .ok tokens → Token.Ordered tokens) →
        publication.AnswersAlike) := by
  have fresh : (start rules announced classifier settings document limit).publisher.Issues rules
      classifier := ⟨rfl, rfl, Or.inl rfl⟩
  have issues := issues_run fresh before
  have valid := (start_valid rules announced classifier settings document limit).run
    (before ++ after)
  obtain ⟨changes, sound⟩ := valid.chronicle
  have recorded := sound.recorded revision produced
  rw [valid.limit_eq] at recorded
  have complete := issues.complete
  have distinct := issues.nodup_listed
  have alike := issues.answersAlike
  rw [published] at complete distinct alike
  exact ⟨Publication.answersIn_of_carry complete distinct fun span =>
    recorded.carry_eq span later, alike⟩

/-- What is published first is the outline of the text as it was loaded. -/
theorem published_load (rules : BraceRules) (announced : Bool) (classifier : Classifier)
    (settings : Settings) (document : Document) (limit : Nat) :
    ((start rules announced classifier settings document limit).run
      [.outline 0 .load]).publisher.published =
        (Publisher.fresh (.brace rules) announced classifier settings).publicationOf
          (.detached document 0) .load := by
  change (Publisher.publish _ _ _).1.published = _
  rw [Publisher.publish_of_not_skips _ _ _ rfl]
  rfl

/-- A block whose outline is published. -/
def blockShown : Session :=
  (start .unmarked false .braces {} (Document.ofString "\x7b\n\x7d") 1).run [.outline 0 .load]

/-- The block is one line further down after an edit, and its outline answers for both texts. -/
theorem queries_agree_blockShown :
    (blockShown.run [.replace ⟨0, 0⟩ "a\n"]).chronicle.buffer.current ∈
      (blockShown.run [.replace ⟨0, 0⟩ "a\n"]).chronicle.revisions ∧
    blockShown.publisher.published.version <
      (blockShown.run [.replace ⟨0, 0⟩ "a\n"]).chronicle.buffer.current.version ∧
    blockShown.publisher.published.AnswersIn 1
      (blockShown.run [.replace ⟨0, 0⟩ "a\n"]).chronicle.buffer.current ∧
    blockShown.publisher.published.AnswersAlike := by
  have produced : (blockShown.run [.replace ⟨0, 0⟩ "a\n"]).chronicle.buffer.current ∈
      (blockShown.run [.replace ⟨0, 0⟩ "a\n"]).chronicle.revisions := List.mem_cons_self
  have version : blockShown.publisher.published.version = 0 := by
    rw [blockShown, published_load]
    rfl
  have edited : (blockShown.run [.replace ⟨0, 0⟩ "a\n"]).chronicle.buffer.current.version = 1 :=
    rfl
  have answers := queries_agree .unmarked false .braces {} (Document.ofString "\x7b\n\x7d") 1
    [.outline 0 .load] [.replace ⟨0, 0⟩ "a\n"] (rfl : blockShown.publisher.published = _)
    produced (by rw [version]; exact Nat.zero_le _)
  refine ⟨produced, ?_, answers.1, answers.2 Classifier.braces_ordered⟩
  rw [version, edited]
  exact Nat.one_pos

/-- A comment that ends on the line above its start, and whose outline is published. -/
def commentShown : Session :=
  (start .unmarked false (fun _ => .ok [⟨⟨6, 3⟩, .comment⟩]) {}
    (Document.ofString "abc\ndef\ng") 1).run [.outline 0 .load]

theorem published_commentShown :
    commentShown.publisher.published.overlapping ⟨0, 1⟩ = [] ∧
    commentShown.publisher.published.overlappingIn commentShown.publisher.published.revision
      ⟨0, 1⟩ = .ok [(1, ⟨3, 6⟩)] := by
  rw [commentShown, published_load]
  unfold Publisher.publicationOf Publisher.outlineOf Publisher.tokens Publisher.fresh
  dsimp only
  rw [Dialect.outline_of_sorted _ _ _ (by decide)]
  decide +kernel

/-- The block after two edits, the first of which is no longer kept. -/
def blockForgotten : Buffer :=
  (blockShown.run [.replace ⟨0, 0⟩ "a", .replace ⟨0, 0⟩ "b"]).chronicle.buffer

theorem published_blockForgotten :
    blockShown.publisher.published.overlappingIn blockForgotten.current ⟨0, 3⟩ =
      .error ⟨0, 2⟩ := by
  rw [blockShown, published_load]
  unfold Publisher.publicationOf Publisher.outlineOf Publisher.tokens Publisher.fresh
    Classifier.braces
  dsimp only
  rw [Dialect.outline_of_sorted _ _ _ (by decide +kernel)]
  decide +kernel

/-- The two ways to ask find different regions if a comment ends above its start. And a limit that
is raised brings no change back, so that a question fails although the limit is not exceeded. -/
theorem queries_differ_commentShown :
    commentShown.publisher.published.overlapping ⟨0, 1⟩ = [] ∧
    commentShown.publisher.published.overlappingIn commentShown.publisher.published.revision
      ⟨0, 1⟩ = .ok [(1, ⟨3, 6⟩)] ∧
    ¬ commentShown.publisher.published.AnswersAlike ∧
    ¬ blockShown.publisher.published.AnswersIn (blockForgotten.withLimit 64).limit
      (blockForgotten.withLimit 64).current := by
  obtain ⟨own, later⟩ := published_commentShown
  refine ⟨own, later, fun alike => ?_, fun answers => ?_⟩
  · obtain ⟨hits, found, same, -⟩ := alike.overlapping_eq ⟨0, 1⟩
    rw [later] at found
    cases found
    rw [own] at same
    exact nomatch same
  · obtain ⟨-, -, far⟩ := (answers.error_iff ⟨0, 3⟩ ⟨0, 2⟩).1 published_blockForgotten
    rw [blockShown, published_load] at far
    exact absurd far (by decide)

end Session

end CodeFolding
