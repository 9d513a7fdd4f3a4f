import CodeFolding.Proofs.Buffer
import CodeFolding.Proofs.Publisher

set_option autoImplicit false

namespace CodeFolding

/-- What can happen to a text and its outlines: an edit, new settings, or a request for the
outline of the revision with some number in the order of their making, the latest one first. -/
inductive Action where
  | replace (span : Span) (text : String)
  | configure (settings : Settings)
  | outline (number : Nat) (occasion : Occasion)

/-- A buffer with its revisions, and the publisher of their outlines. -/
structure Session where
  chronicle : Chronicle
  publisher : Publisher Bool

namespace Session

/-- A new buffer that keeps `limit` changes, and a publisher that has published nothing. -/
def start (rules : BraceRules) (announced : Bool) (classifier : Classifier) (settings : Settings)
    (document : Document) (limit : Nat) : Session where
  chronicle := .start document limit
  publisher := .fresh (.brace rules) announced classifier settings

def perform (session : Session) : Action → Session
  | .replace span text => { session with chronicle := session.chronicle.replace span text }
  | .configure settings => { session with publisher := session.publisher.setSettings settings }
  | .outline number occasion =>
    match session.chronicle.revisions[number]? with
    | some revision =>
      { session with publisher := (session.publisher.publish revision occasion).1 }
    | none => session

def run (session : Session) (actions : List Action) : Session :=
  actions.foldl perform session

end Session

/-- What an answer to a request for the outline of `revision` promises: the outline of that revision
is published, and nothing is left out that it changes. `before` and `after` are the publisher before
and after it, `limit` is how many changes are kept, and `revisions` are those
that the text has had. Offsets are words, so that no text has more than `maxOffset` characters. -/
structure Update.Complete (limit : Nat) (revisions : List Revision) (revision : Revision)
    (before after : Publisher Bool) (update : Update) : Prop where
  published : after.published = update.publication
  requested : update.publication.revision = revision
  latest : after.lastVersion? = some revision.version
  encloses_new : update.mode = .initial ∨ update.mode = .incremental →
    ∀ span ∈ after.published.spans, ∃ changed, update.changed = some changed ∧
      changed.encloses span = true
  encloses_old : update.mode = .initial ∨ update.mode = .incremental →
    ∀ span ∈ before.published.spans, ∃ image changed,
      revision.carry span before.published.version = .ok image ∧
      update.changed = some changed ∧ changed.encloses image = true
  none_iff : update.mode = .initial ∨ update.mode = .incremental →
    (update.changed = none ↔ before.published.spans = [] ∧ after.published.spans = [])
  refresh_iff : update.mode = .refresh ↔ before.lastVersion? ≠ none ∧
    before.published.spans ≠ [] ∧ before.published.version + limit < revision.version
  full : update.mode = .refresh → update.changed = some revision.document.fullSpan
  within : (∀ other ∈ revisions, other.document.length ≤ maxOffset) →
    ∀ changed, update.changed = some changed → changed.Within revision.document.length
  overlapping : after.published.spans ≠ [] → ∃ changed, update.changed = some changed ∧
    after.published.overlapping changed = after.published.listed

namespace Publisher

/-- Nothing has been published, or the outline of one of `revisions`, with spans in its text. -/
def Stands (revisions : List Revision) (publisher : Publisher Bool) : Prop :=
  publisher.lastVersion? = none ∧ publisher.published = .blank ∨
  publisher.lastVersion? = some publisher.published.version ∧
    publisher.published.revision ∈ revisions ∧
    ∀ span ∈ publisher.published.spans,
      span.Within publisher.published.revision.document.length

variable {publisher : Publisher Bool} {rules : BraceRules} {revisions : List Revision}

theorem Stands.publish (stands : publisher.Stands revisions)
    (brace : publisher.dialect = .brace rules) {revision : Revision}
    (produced : revision ∈ revisions) (occasion : Occasion) :
    (publisher.publish revision occasion).1.Stands revisions := by
  cases skipped : publisher.skips revision.version occasion with
  | true =>
    rw [publish_of_skips _ _ _ skipped]
    exact stands
  | false =>
    rw [publish_of_not_skips _ _ _ skipped]
    refine Or.inr ⟨rfl, produced, ?_⟩
    exact fun span member => within_of_mem_publicationOf brace revision occasion member

/-- A request that is answered is not about an older version than the last one. -/
theorem le_version_of_not_skips {last : Nat} {revision : Revision} {occasion : Occasion}
    (known : publisher.lastVersion? = some last)
    (answered : publisher.skips revision.version occasion = false) : last ≤ revision.version := by
  simp only [skips, known, Option.any_some, Bool.or_eq_false_iff, decide_eq_false_iff_not]
    at answered
  omega

/-- The spans published last can be carried over and are compared with the new ones, unless the
revision has forgotten the changes in between. -/
theorem Stands.compare_cases {limit first : Nat} {changes : List Change} {revision : Revision}
    {occasion : Occasion} (stands : publisher.Stands revisions)
    (recorded : revision.Recorded limit first changes)
    (answered : publisher.skips revision.version occasion = false) (spans : List Span) :
    (∃ mode, (mode = .initial ∨ mode = .incremental) ∧
      ¬ (publisher.lastVersion? ≠ none ∧ publisher.published.spans ≠ [] ∧
        publisher.published.version + limit < revision.version) ∧
      (∀ span ∈ publisher.published.spans,
        revision.carry span publisher.published.version =
          .ok (Change.moveBetween changes publisher.published.version revision.version span)) ∧
      publisher.compare revision spans = (mode,
        Span.changed (publisher.published.spans.map
          (Change.moveBetween changes publisher.published.version revision.version)) spans)) ∨
    (publisher.lastVersion? ≠ none ∧ publisher.published.spans ≠ [] ∧
      publisher.published.version + limit < revision.version) ∧
      publisher.compare revision spans = (.refresh, some revision.document.fullSpan) := by
  rcases stands with ⟨unpublished, blank⟩ | ⟨known, -, -⟩
  · have empty : publisher.published.spans = [] := by rw [blank]; rfl
    refine Or.inl ⟨.initial, Or.inl rfl, fun far => far.1 unpublished, ?_, ?_⟩
    · rw [empty]
      exact fun span member => absurd member List.not_mem_nil
    · rw [empty, Publisher.compare, unpublished]
      rfl
  · have before := le_version_of_not_skips known answered
    have carry := fun span => recorded.carry_eq span before
    by_cases near : revision.version ≤ publisher.published.version + limit
    · simp only [near, ↓reduceIte] at carry
      refine Or.inl ⟨.incremental, Or.inr rfl, fun far => absurd far.2.2 (by omega),
        fun span _ => carry span, ?_⟩
      apply publisher.compare_of_carried revision spans known
      rw [show (fun span => revision.carry span publisher.published.version) =
        fun span => pure (Change.moveBetween changes publisher.published.version revision.version
          span) from funext carry]
      exact List.mapM_pure
    · simp only [near, ↓reduceIte] at carry
      by_cases empty : publisher.published.spans = []
      · refine Or.inl ⟨.incremental, Or.inr rfl, fun far => far.2.1 empty, ?_, ?_⟩
        · rw [empty]
          exact fun span member => absurd member List.not_mem_nil
        · apply publisher.compare_of_carried revision spans known
          rw [empty]
          rfl
      · refine Or.inr ⟨⟨by rw [known]; exact Option.some_ne_none _, empty, by omega⟩, ?_⟩
        obtain ⟨span, rest, split⟩ := List.exists_cons_of_ne_nil empty
        apply publisher.compare_of_gap revision spans known
        rw [split, List.mapM_cons, carry]
        rfl

end Publisher

namespace Session

/-- The invariant of a session. -/
structure Valid (rules : BraceRules) (limit first : Nat) (session : Session) : Prop where
  chronicle : ∃ changes, session.chronicle.Sound first changes
  limit_eq : session.chronicle.buffer.limit = limit
  brace : session.publisher.dialect = .brace rules
  stands : session.publisher.Stands session.chronicle.revisions

variable {rules : BraceRules} {limit first : Nat} {session : Session}

theorem start_valid (rules : BraceRules) (announced : Bool) (classifier : Classifier)
    (settings : Settings) (document : Document) (limit : Nat) :
    (start rules announced classifier settings document limit).Valid rules (max limit 1)
      document.length :=
  ⟨⟨[], Chronicle.start_sound document limit⟩, rfl, rfl, Or.inl ⟨rfl, rfl⟩⟩

theorem Valid.perform (valid : session.Valid rules limit first) (action : Action) :
    (session.perform action).Valid rules limit first := by
  cases action with
  | replace span text =>
    obtain ⟨changes, sound⟩ := valid.chronicle
    refine ⟨?_, ?_, valid.brace, ?_⟩
    · rcases sound.replace span text with same | more
      · exact ⟨changes, same⟩
      · exact ⟨_, more⟩
    · exact (Chronicle.limit_replace ..).trans valid.limit_eq
    · rcases valid.stands with unpublished | ⟨known, produced, within⟩
      · exact Or.inl unpublished
      · exact Or.inr ⟨known, session.chronicle.mem_revisions_replace span text produced, within⟩
  | configure settings => exact ⟨valid.chronicle, valid.limit_eq, valid.brace, valid.stands⟩
  | outline number occasion =>
    unfold Session.perform
    dsimp only
    split
    · rename_i revision found
      refine ⟨valid.chronicle, valid.limit_eq, ?_, ?_⟩
      · rw [Publisher.dialect_publish]
        exact valid.brace
      · exact valid.stands.publish valid.brace (List.mem_of_getElem? found) occasion
    · exact valid

theorem Valid.run (valid : session.Valid rules limit first) (actions : List Action) :
    (session.run actions).Valid rules limit first := by
  unfold Session.run
  induction actions generalizing session with
  | nil => exact valid
  | cons action rest ih => exact ih (valid.perform action)

theorem Valid.complete (valid : session.Valid rules limit first) {revision : Revision}
    (produced : revision ∈ session.chronicle.revisions) {occasion : Occasion}
    (answered : session.publisher.skips revision.version occasion = false) :
    (session.publisher.publish revision occasion).2.Complete limit session.chronicle.revisions
      revision session.publisher (session.publisher.publish revision occasion).1 := by
  obtain ⟨changes, sound⟩ := valid.chronicle
  have recorded := sound.recorded revision produced
  rw [valid.limit_eq] at recorded
  have listed := session.publisher.publicationOf_complete revision occasion
  have inside : ∀ span ∈ (session.publisher.publicationOf revision occasion).spans,
      span.Within revision.document.length :=
    fun _ member => Publisher.within_of_mem_publicationOf valid.brace revision occasion member
  have compared := valid.stands.compare_cases recorded answered
    (session.publisher.publicationOf revision occasion).spans
  rw [Publisher.publish_of_not_skips _ _ _ answered]
  rcases compared with ⟨mode, modes, near, carried, same⟩ | ⟨far, same⟩
  · rw [same]
    refine ⟨rfl, rfl, rfl, ?_, ?_, ?_, ?_, ?_, ?_, ?_⟩
    · intro _ span member
      exact Span.exists_changed_encloses (Or.inr member)
    · intro _ span member
      obtain ⟨outer, bounding, enclosed⟩ := Span.exists_changed_encloses
        (Or.inl (List.mem_map_of_mem member))
      exact ⟨_, outer, carried span member, bounding, enclosed⟩
    · intro _
      rw [Span.changed_eq_none_iff, List.map_eq_nil_iff]
    · constructor
      · rintro rfl
        exact absurd modes (by decide)
      · exact fun far => absurd far near
    · rintro rfl
      exact absurd modes (by decide)
    · intro addressable outer bounding
      refine Span.changed_within bounding ?_
      rintro image (old | new)
      · obtain ⟨span, member, rfl⟩ := List.mem_map.1 old
        rcases valid.stands with ⟨-, blank⟩ | ⟨known, source, within⟩
        · rw [blank] at member
          exact absurd member List.not_mem_nil
        · exact sound.moveBetween_within source produced
            (Publisher.le_version_of_not_skips known answered) addressable (within span member)
      · exact inside image new
    · intro some
      obtain ⟨span, member⟩ := List.exists_mem_of_ne_nil _ some
      obtain ⟨outer, bounding, -⟩ := Span.exists_changed_encloses (Or.inr member)
      refine ⟨outer, bounding, Publication.overlapping_of_encloses listed ?_⟩
      exact fun span member => Span.changed_encloses bounding (Or.inr member)
  · rw [same]
    have full : ∀ span : Span, span.Within revision.document.length →
        revision.document.fullSpan.encloses span = true := by
      rintro span ⟨-, stop⟩
      rw [Span.encloses_iff, Document.fullSpan, Span.ordered_start, Span.ordered_stop]
      omega
    have uncompared : ¬ (Mode.refresh = .initial ∨ Mode.refresh = .incremental) := by decide
    refine ⟨rfl, rfl, rfl, fun mode => absurd mode uncompared, fun mode => absurd mode uncompared,
      fun mode => absurd mode uncompared, ⟨fun _ => far, fun _ => rfl⟩, fun _ => rfl, ?_, ?_⟩
    · rintro _ _ ⟨⟩
      exact Span.ordered_within (Nat.zero_le _) (Nat.le_refl _)
    · intro _
      refine ⟨_, rfl, Publication.overlapping_of_encloses listed ?_⟩
      exact fun span member => full span (inside span member)

/-- In every session, at every request that is not skipped, for any revision that the text has
had, the answer leaves out nothing that has to be shown anew. -/
theorem publish_complete (rules : BraceRules) (announced : Bool) (classifier : Classifier)
    (settings : Settings) (document : Document) (limit : Nat) (actions : List Action)
    {session : Session}
    (reached : (start rules announced classifier settings document limit).run actions = session)
    {revision : Revision} (produced : revision ∈ session.chronicle.revisions)
    {occasion : Occasion}
    (answered : (session.publisher.publish revision occasion).2.mode ≠ .skipped) :
    (session.publisher.publish revision occasion).2.Complete (max limit 1)
      session.chronicle.revisions revision session.publisher
      (session.publisher.publish revision occasion).1 := by
  have valid := (start_valid rules announced classifier settings document limit).run actions
  rw [reached] at valid
  exact valid.complete produced (Publisher.not_skips_of_mode _ _ _ answered)

/-- A block whose outline is published, before and after a letter is put behind it. -/
def blockEdited : Session :=
  (start .unmarked false (fun _ => .ok [⟨⟨0, 1⟩, .punctuation⟩, ⟨⟨2, 3⟩, .punctuation⟩]) {}
    (Document.ofString "\x7b\n\x7d") 1).run [.outline 0 .load, .replace ⟨3, 3⟩ "x"]

theorem publish_complete_blockEdited :
    (blockEdited.publisher.publish blockEdited.chronicle.buffer.current .idle).2.mode ≠ .skipped ∧
    (blockEdited.publisher.publish blockEdited.chronicle.buffer.current .idle).2.Complete 1
      blockEdited.chronicle.revisions blockEdited.chronicle.buffer.current blockEdited.publisher
      (blockEdited.publisher.publish blockEdited.chronicle.buffer.current .idle).1 := by
  have published : blockEdited.publisher.lastVersion? = some 0 := by
    change (Publisher.publish _ _ _).1.lastVersion? = some 0
    rw [Publisher.publish_of_not_skips _ _ _ rfl]
    rfl
  have edited : blockEdited.chronicle.buffer.current.version = 1 := rfl
  have answered : (blockEdited.publisher.publish blockEdited.chronicle.buffer.current
      .idle).2.mode ≠ .skipped := by
    rw [Ne, Publisher.mode_eq_skipped_iff, Publisher.skips, published, edited]
    exact Bool.false_ne_true
  exact ⟨answered, publish_complete _ _ _ _ _ 1 _ rfl List.mem_cons_self answered⟩

end Session

end CodeFolding
