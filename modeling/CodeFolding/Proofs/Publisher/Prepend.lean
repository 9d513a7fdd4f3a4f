import CodeFolding.Proofs.Buffer.Replacement
import CodeFolding.Proofs.Buffer.Replay
import CodeFolding.Proofs.Outline.Lowered
import CodeFolding.Proofs.Publisher

set_option autoImplicit false

namespace CodeFolding

/-- The classifier sees in a text with `head` in front of it the tokens of the text without it,
further down. -/
def Classifier.LowersWith (classifier : Classifier) (head : List Char) : Prop :=
  ∀ revision lowered : Revision, lowered.document = revision.document.prepend head →
    classifier lowered = (classifier revision).map (List.map (Token.lower head.length))

namespace Buffer

variable (buffer : Buffer) (head : List Char)

theorem insert_zero :
    buffer.insert 0 (String.ofList head) =
      .ok (buffer.replaced (Span.point 0) (String.ofList head)) :=
  buffer.replace_of_within _ ⟨Nat.le_refl 0, Nat.zero_le _⟩

theorem document_insert_zero :
    (buffer.replaced (Span.point 0) (String.ofList head)).current.document =
      buffer.current.document.prepend head := by
  apply Document.ext
  apply Array.ext'
  change (splice _ _ _).toList = _
  rw [splice_toList, Document.chars_prepend, Array.toList_append, Span.point_eq, List.take_zero,
    List.drop_zero, String.toList_ofList, List.nil_append]

variable {buffer}

/-- Text put on top moves every span that is not empty, also one that starts there, as far as there
are offsets. -/
theorem Reachable.carry_insert_zero (reachable : buffer.Reachable) {span : Span}
    (filled : span.start < span.stop) (room : head.length + span.stop ≤ maxOffset) :
    (buffer.replaced (Span.point 0) (String.ofList head)).current.carry span
      buffer.current.version = .ok (span.lower head.length) := by
  have edit : buffer.current.document.edit (Span.point 0) (String.ofList head) =
      ⟨0, "", String.ofList head⟩ := by
    rw [Document.edit, Document.slice_of_empty _ (Nat.le_refl 0)]
    rfl
  have behind : ∀ side offset, 0 < offset →
      Edit.exactOffset ⟨0, "", String.ofList head⟩ side offset = head.length + offset := by
    intro side offset later
    have stop : Edit.stop ⟨0, "", String.ofList head⟩ = 0 := rfl
    simp only [Edit.exactOffset, stop, Nat.not_lt_zero, ↓reduceIte, later, true_or, Nat.sub_zero,
      String.length_ofList, Nat.add_comm]
  have atTop : Edit.exactOffset ⟨0, "", String.ofList head⟩ .after 0 = head.length := by
    change 0 + (String.ofList head).length = head.length
    rw [Nat.zero_add, String.length_ofList]
  have start : Edit.exactOffset ⟨0, "", String.ofList head⟩ .after span.start =
      head.length + span.start := by
    rcases Nat.eq_zero_or_pos span.start with top | later
    · rw [top, atTop, Nat.add_zero]
    · exact behind _ _ later
  have exact : Edit.exactSpan ⟨0, "", String.ofList head⟩ span = span.lower head.length := by
    rw [Edit.exactSpan, start, behind _ _ (Nat.zero_lt_of_lt filled), Span.lower,
      Nat.max_eq_left (by omega)]
  rw [reachable.carry_replaced, edit, Edit.moveSpan_eq_exactSpan (exact ▸ room), exact]

end Buffer

namespace Outline

theorem filled_of_isMultiLine {outline : Outline} {id : Nat} {span : Span}
    (several : outline.isMultiLine id = true) (found : (outline.region id).span? = some span) :
    span.start < span.stop := by
  obtain ⟨stop, ended, rfl⟩ := Option.map_eq_some_iff.1 found
  simp only [isMultiLine, stopLine?, ended, Option.map_some, Option.any_some, bne_iff_ne] at several
  have apart : stop ≠ (outline.region id).start := by
    intro same
    exact several (congrArg outline.document.lineOf same)
  rw [Span.ordered_start, Span.ordered_stop]
  omega

end Outline

namespace Publication

/-- The publication `fresh` is about `revision`, and the regions listed in `old`, which is about an
earlier one, are carried over to those of `fresh`: the same numbers with the same spans. -/
def CarriesOver (old : Publication) (revision : Revision) (fresh : Publication) : Prop :=
  fresh.revision = revision ∧ ∃ carried, old.carried revision = .ok carried ∧
    carried.map Prod.fst = fresh.listed ∧ carried.map Prod.snd = fresh.spans

theorem carried_of_forall {publication : Publication} {revision : Revision} (move : Span → Span)
    (carries : ∀ id ∈ publication.listed, ∀ span,
      (publication.outline.region id).span? = some span →
        revision.carry span publication.version = .ok (move span)) :
    publication.carried revision = .ok (publication.listed.filterMap fun id =>
      (publication.outline.region id).span?.map fun span => (id, move span)) := by
  unfold carried
  generalize publication.listed = listed at carries ⊢
  induction listed with
  | nil => rfl
  | cons id rest ih =>
    have later := ih fun other member => carries other (List.mem_cons_of_mem id member)
    dsimp only at later ⊢
    cases found : (publication.outline.region id).span? with
    | none =>
      rw [List.filterMap_cons_none (by rw [found]; rfl),
        List.filterMap_cons_none (by rw [found]; rfl)]
      exact later
    | some span =>
      have first := carries id List.mem_cons_self span found
      rw [List.filterMap_cons_some (by rw [found]; rfl),
        List.filterMap_cons_some (by rw [found]; rfl), List.mapM_cons, later]
      dsimp only
      rw [first]
      rfl

end Publication

namespace Publisher

variable {publisher later : Publisher Bool} {rules : BraceRules} {head : List Char}

theorem outlineOf_lowered (lines : BlankLines head) (brace : publisher.dialect = .brace rules)
    (stays : later.dialect = .brace rules) (same : later.classifier = publisher.classifier)
    (lowers : publisher.classifier.LowersWith head) {revision lowered : Revision}
    (text : lowered.document = revision.document.prepend head) :
    Outline.Lowered head.length (publisher.outlineOf revision) (later.outlineOf lowered) := by
  have tokens : later.tokens lowered =
      (publisher.tokens revision).map (Token.lower head.length) := by
    unfold Publisher.tokens
    rw [same, lowers revision lowered text]
    cases publisher.classifier revision with
    | ok tokens => rfl
    | error message => rfl
  rw [outlineOf_eq brace false, outlineOf_eq stays false, text, tokens]
  exact Dialect.outline_lowered lines rules false revision.document (publisher.tokens revision)

section Lowered

variable {revision lowered : Revision}
  (down : Outline.Lowered head.length (publisher.outlineOf revision) (later.outlineOf lowered))
  (inner : ∀ id ∈ (publisher.outlineOf revision).descendants,
    (publisher.outlineOf revision).Inner id) (occasion next : Occasion)
include down inner

theorem listed_lowered (settings : later.settings = publisher.settings) :
    (later.publicationOf lowered next).listed =
      (publisher.publicationOf revision occasion).listed := by
  unfold publicationOf Outline.foldable
  dsimp only
  rw [down.descendants, settings, List.filter_filter, List.filter_filter]
  apply List.filter_congr
  intro id member
  rw [down.isMultiLine, down.region id (inner id member)]
  rfl

theorem spans_lowered (settings : later.settings = publisher.settings) :
    (later.publicationOf lowered next).spans =
      (publisher.publicationOf revision occasion).spans.map (Span.lower head.length) := by
  unfold Publication.spans
  rw [listed_lowered down inner occasion next settings, List.map_filterMap]
  apply List.filterMap_congr
  intro id listed
  have found := (List.mem_filter.1 (List.mem_filter.1 listed).1).1
  change ((later.outlineOf lowered).region id).span? = _
  rw [down.region id (inner id found), Region.span?_lower]
  rfl

end Lowered

/-- Text on top that lowers the outline lowers the published spans. -/
theorem publicationOf_carriesOver {buffer : Buffer} (reachable : buffer.Reachable)
    (room : head.length + buffer.current.document.length ≤ maxOffset)
    (settings : later.settings = publisher.settings)
    (down : Outline.Lowered head.length (publisher.outlineOf buffer.current)
      (later.outlineOf (buffer.replaced (Span.point 0) (String.ofList head)).current))
    (inner : ∀ id ∈ (publisher.outlineOf buffer.current).descendants,
      (publisher.outlineOf buffer.current).Inner id) (occasion next : Occasion)
    (within : ∀ span ∈ (publisher.publicationOf buffer.current occasion).spans,
      span.Within buffer.current.document.length) :
    (publisher.publicationOf buffer.current occasion).CarriesOver
      (buffer.replaced (Span.point 0) (String.ofList head)).current
      (later.publicationOf (buffer.replaced (Span.point 0) (String.ofList head)).current next) := by
  refine ⟨rfl, _, Publication.carried_of_forall (Span.lower head.length) ?_, ?_, ?_⟩
  · intro id listed span found
    have several := (List.mem_filter.1 (List.mem_filter.1 listed).1).2
    have inside := (within span (List.mem_filterMap.2 ⟨id, listed, found⟩)).2
    exact reachable.carry_insert_zero head (Outline.filled_of_isMultiLine several found) (by omega)
  · rw [listed_lowered down inner occasion next settings, List.map_filterMap]
    refine Eq.trans (List.filterMap_congr ?_) List.filterMap_some
    intro id listed
    obtain ⟨stop, ended⟩ := publisher.publicationOf_complete buffer.current occasion id listed
    rw [Region.span?, ended]
    rfl
  · rw [spans_lowered down inner occasion next settings, Publication.spans, List.map_filterMap,
      List.map_filterMap]
    simp only [Option.map_map]
    rfl

/-- Blank lines on top only lower outlines. In a language with braces, whatever its rules, the
regions of every text are moved and stay as they are otherwise. So if a classifier sees the same
tokens further down, then for every buffer and after every answer to a request, putting the blank
lines on top takes the published spans to those that the next request gets published, in the same
order. Offsets are words, so that the new text has no more than `maxOffset` characters. -/
theorem publish_lowered {head : List Char} (lines : BlankLines head) :
    (∀ (rules : BraceRules) (announced : Bool) (document : Document) (tokens : List Token),
      Outline.Lowered head.length ((Dialect.brace rules).outline announced document tokens).2
        ((Dialect.brace rules).outline announced (document.prepend head)
          (tokens.map (Token.lower head.length))).2) ∧
    ∀ (publisher : Publisher Bool) (rules : BraceRules) (buffer : Buffer)
      (occasion next : Occasion), publisher.dialect = .brace rules →
      publisher.classifier.LowersWith head → buffer.Reachable →
      head.length + buffer.current.document.length ≤ maxOffset →
      (publisher.publish buffer.current occasion).2.mode ≠ .skipped →
      ∃ later, buffer.insert 0 (String.ofList head) = .ok later ∧
        (publisher.publish buffer.current occasion).2.publication.CarriesOver later.current
          ((publisher.publish buffer.current occasion).1.publish later.current
            next).2.publication := by
  refine ⟨Dialect.outline_lowered lines, ?_⟩
  intro publisher rules buffer occasion next brace lowers reachable room answered
  have tree := ((Dialect.brace rules).outline_numbered false buffer.current.document
    (publisher.tokens buffer.current)).treeShaped
  rw [← outlineOf_eq brace false] at tree
  refine ⟨_, buffer.insert_zero head, ?_⟩
  rw [publisher.publish_of_not_skips buffer.current occasion
    (publisher.not_skips_of_mode _ _ answered)]
  dsimp only
  rw [publish_of_not_skips]
  · refine publicationOf_carriesOver reachable room ?_ ?_ ?_ occasion next
      fun span member => within_of_mem_publicationOf brace _ _ member
    · rfl
    · refine outlineOf_lowered lines brace ?_ ?_ lowers (buffer.document_insert_zero head)
      · exact brace
      · rfl
    · intro id found
      obtain ⟨outer, lists⟩ := (tree.mem_descendants id).1 found
      obtain ⟨-, below, known⟩ := tree.linked outer id lists
      exact ⟨Nat.zero_lt_of_lt below, known⟩
  · -- The new version is later than the one that has just been published.
    simp [skips, Buffer.replaced]

end Publisher

/-- A classifier that sees braces alone. -/
def Classifier.braces : Classifier := fun revision =>
  .ok ((List.range revision.document.length).filterMap fun offset =>
    (revision.document.charAt? offset).bind fun c =>
      if c = '\x7b' ∨ c = '\x7d' then some ⟨⟨offset, offset + 1⟩, .punctuation⟩ else none)

theorem Classifier.braces_lowersWith {head : List Char} (lines : BlankLines head) :
    braces.LowersWith head := by
  rintro revision lowered text
  have above : (List.range head.length).filterMap (fun offset =>
      (lowered.document.charAt? offset).bind fun c =>
        if c = '\x7b' ∨ c = '\x7d' then some (⟨⟨offset, offset + 1⟩, .punctuation⟩ : Token)
        else none) = [] := by
    apply List.filterMap_eq_nil_iff.2
    intro offset member
    have inside := List.mem_range.1 member
    have blank := lines.blank _ (List.getElem_mem inside)
    rw [text, Document.charAt?_prepend_of_lt _ _ inside, List.getElem?_eq_getElem inside,
      Option.bind_some, if_neg]
    rintro (same | same) <;> rw [same] at blank <;> exact nomatch blank
  unfold braces
  rw [text, Document.length_prepend, List.range_add, List.filterMap_append, ← text, above, text,
    List.nil_append, List.filterMap_map, Except.map, List.map_filterMap]
  congr 2
  funext offset
  rw [Function.comp_apply, Document.charAt?_prepend]
  cases revision.document.charAt? offset with
  | none => rfl
  | some c =>
    rw [Option.bind_some, Option.bind_some]
    split <;> rfl

/-- A block, before and after two blank lines are put on top. -/
theorem Publisher.publish_lowered_block :
    BlankLines ['\r', '\n', ' ', '\n'] ∧
    ∃ later, (Buffer.ofDocument (Document.ofString "\x7b\n\x7d")).insert 0
        (String.ofList ['\r', '\n', ' ', '\n']) = .ok later ∧
      ((fresh (.brace .unmarked) false .braces {}).publish
        (Buffer.ofDocument (Document.ofString "\x7b\n\x7d")).current
          .idle).2.publication.CarriesOver later.current
        (((fresh (.brace .unmarked) false .braces {}).publish
          (Buffer.ofDocument (Document.ofString "\x7b\n\x7d")).current .idle).1.publish
            later.current .idle).2.publication := by
  have lines : BlankLines ['\r', '\n', ' ', '\n'] :=
    ⟨List.all_eq_true.1 (by decide), rfl⟩
  have brace : (fresh (.brace .unmarked) false .braces {}).dialect = .brace .unmarked := rfl
  refine ⟨lines, (publish_lowered lines).2 (fresh (.brace .unmarked) false .braces {}) .unmarked
    (.ofDocument (Document.ofString "\x7b\n\x7d")) .idle .idle brace
    (Classifier.braces_lowersWith lines) (.ofDocument _) (by decide) ?_⟩
  rw [Ne, mode_eq_skipped_iff]
  exact Bool.false_ne_true

end CodeFolding
