import CodeFolding.Proofs.Publisher

set_option autoImplicit false

namespace CodeFolding

/-- What a publisher can be asked: to use new settings, or to publish the outline of a
revision. -/
inductive Request where
  | configure (settings : Settings)
  | outline (revision : Revision) (occasion : Occasion)

/-- What can be observed of a publisher: new settings, and the answers to its requests. -/
inductive Event where
  | configured (settings : Settings)
  | answered (revision : Revision) (update : Update)

namespace Event

/-- The settings that come into force. -/
def settings? : Event → Option Settings
  | configured settings => some settings
  | answered _ _ => none

/-- The revision whose outline is published. -/
def published? : Event → Option Revision
  | configured _ => none
  | answered revision update => if update.mode = .skipped then none else some revision

/-- The revision whose outline was published last, by events of which the latest one comes
first. -/
def lastPublished? (events : List Event) : Option Revision :=
  events.findSome? published?

/-- Whether settings have come into force since the last publication. -/
def configuredSince (events : List Event) : Bool :=
  (events.takeWhile fun event => event.published?.isNone).any fun event => event.settings?.isSome

/-- The settings in force, which are `first` at the beginning. -/
def inForce (first : Settings) (events : List Event) : Settings :=
  (events.findSome? settings?).getD first

theorem published?_answered (revision : Revision) {update : Update}
    (answered : update.mode ≠ .skipped) :
    (Event.answered revision update).published? = some revision :=
  if_neg answered

theorem published?_skipped (revision : Revision) {update : Update}
    (skipped : update.mode = .skipped) : (Event.answered revision update).published? = none :=
  if_pos skipped

theorem lastPublished?_cons_of_published {event : Event} {revision : Revision}
    (published : event.published? = some revision) (earlier : List Event) :
    lastPublished? (event :: earlier) = some revision := by
  simp only [lastPublished?, List.findSome?_cons, published]

theorem lastPublished?_cons_of_unpublished {event : Event} (unpublished : event.published? = none)
    (earlier : List Event) : lastPublished? (event :: earlier) = lastPublished? earlier := by
  simp only [lastPublished?, List.findSome?_cons, unpublished]

theorem configuredSince_cons_of_published {event : Event} {revision : Revision}
    (published : event.published? = some revision) (earlier : List Event) :
    configuredSince (event :: earlier) = false := by
  simp only [configuredSince, List.takeWhile_cons, published, Option.isNone_some,
    Bool.false_eq_true, ↓reduceIte, List.any_nil]

theorem configuredSince_cons_of_unpublished {event : Event} (unpublished : event.published? = none)
    (earlier : List Event) :
    configuredSince (event :: earlier) = (event.settings?.isSome || configuredSince earlier) := by
  simp only [configuredSince, List.takeWhile_cons, unpublished, Option.isNone_none, ↓reduceIte,
    List.any_cons]

end Event

namespace Publisher

/-- The publisher after requests, the latest one of which comes first. -/
def after (publisher : Publisher Bool) : List Request → Publisher Bool
  | [] => publisher
  | .configure settings :: earlier => (publisher.after earlier).setSettings settings
  | .outline revision occasion :: earlier =>
    ((publisher.after earlier).publish revision occasion).1

/-- What can be observed at requests, the latest event first. -/
def events (publisher : Publisher Bool) : List Request → List Event
  | [] => []
  | .configure settings :: earlier => .configured settings :: publisher.events earlier
  | .outline revision occasion :: earlier =>
    .answered revision ((publisher.after earlier).publish revision occasion).2 ::
      publisher.events earlier

/-- The state of a publisher is what the events of the past make it. -/
structure Remembers (rules : BraceRules) (classifier : Classifier) (first : Settings)
    (events : List Event) (publisher : Publisher Bool) : Prop where
  brace : publisher.dialect = .brace rules
  classifier_eq : publisher.classifier = classifier
  settings_eq : publisher.settings = Event.inForce first events
  last_eq : publisher.lastVersion? = (Event.lastPublished? events).map Revision.version
  pending_eq : publisher.settingsChanged = Event.configuredSince events
  published_eq : publisher.published.revision =
    (Event.lastPublished? events).getD Publication.blank.revision

variable {rules : BraceRules} {classifier : Classifier} {first : Settings}
  {events : List Event} {publisher : Publisher Bool}

theorem fresh_remembers (rules : BraceRules) (announced : Bool) (classifier : Classifier)
    (settings : Settings) :
    (fresh (.brace rules) announced classifier settings).Remembers rules classifier settings [] :=
  ⟨rfl, rfl, rfl, rfl, rfl, rfl⟩

theorem Remembers.setSettings (remembers : publisher.Remembers rules classifier first events)
    (settings : Settings) :
    (publisher.setSettings settings).Remembers rules classifier first
      (.configured settings :: events) := by
  refine ⟨remembers.brace, remembers.classifier_eq, rfl, remembers.last_eq, ?_,
    remembers.published_eq⟩
  rw [Event.configuredSince_cons_of_unpublished rfl]
  rfl

theorem Remembers.publish (remembers : publisher.Remembers rules classifier first events)
    (revision : Revision) (occasion : Occasion) :
    (publisher.publish revision occasion).1.Remembers rules classifier first
      (.answered revision (publisher.publish revision occasion).2 :: events) := by
  cases skipped : publisher.skips revision.version occasion with
  | true =>
    have unpublished := Event.published?_skipped revision
      ((publisher.mode_eq_skipped_iff revision occasion).2 skipped)
    have last := Event.lastPublished?_cons_of_unpublished unpublished events
    have pending := Event.configuredSince_cons_of_unpublished unpublished events
    rw [publish_of_skips _ _ _ skipped] at last pending ⊢
    refine ⟨remembers.brace, remembers.classifier_eq, remembers.settings_eq, ?_, ?_, ?_⟩
    · rw [last]
      exact remembers.last_eq
    · rw [pending]
      exact remembers.pending_eq
    · rw [last]
      exact remembers.published_eq
  | false =>
    have answered : (publisher.publish revision occasion).2.mode ≠ .skipped := by
      rw [Ne, mode_eq_skipped_iff, skipped]
      exact Bool.false_ne_true
    have published := Event.published?_answered revision answered
    have last := Event.lastPublished?_cons_of_published published events
    have pending := Event.configuredSince_cons_of_published published events
    rw [publish_of_not_skips _ _ _ skipped] at last pending ⊢
    refine ⟨remembers.brace, remembers.classifier_eq, remembers.settings_eq, ?_, ?_, ?_⟩
    · rw [last]
      rfl
    · rw [pending]
    · rw [last]
      rfl

theorem after_remembers (rules : BraceRules) (announced : Bool) (classifier : Classifier)
    (settings : Settings) (log : List Request) :
    ((fresh (.brace rules) announced classifier settings).after log).Remembers rules classifier
      settings ((fresh (.brace rules) announced classifier settings).events log) := by
  induction log with
  | nil => exact fresh_remembers rules announced classifier settings
  | cons request earlier ih =>
    cases request with
    | configure settings => exact ih.setSettings settings
    | outline revision occasion => exact ih.publish revision occasion

/-- When a request is skipped, told by the events of the past. -/
theorem Remembers.skips_iff (remembers : publisher.Remembers rules classifier first events)
    (revision : Revision) (occasion : Occasion) :
    publisher.skips revision.version occasion = true ↔
      ∃ last, Event.lastPublished? events = some last ∧ (revision.version < last.version ∨
        revision.version = last.version ∧ occasion = .idle ∧
          Event.configuredSince events = false) := by
  unfold skips
  rw [remembers.last_eq, remembers.pending_eq, Option.any_map, Option.any_eq_true]
  simp only [Bool.or_eq_true, decide_eq_true_eq, Bool.and_eq_true,
    beq_iff_eq, Bool.not_eq_true', Occasion.forces, bne_eq_false_iff_eq, and_assoc]

theorem Remembers.version_le_publish
    (remembers : publisher.Remembers rules classifier first events) (revision : Revision)
    (occasion : Occasion) :
    publisher.published.version ≤
      (publisher.publish revision occasion).1.published.version := by
  cases skipped : publisher.skips revision.version occasion with
  | true =>
    rw [publish_of_skips _ _ _ skipped]
  | false =>
    have answered : ¬ publisher.skips revision.version occasion = true := by
      rw [skipped]
      exact Bool.false_ne_true
    rw [remembers.skips_iff] at answered
    rw [publish_of_not_skips _ _ _ skipped, Publication.version, remembers.published_eq]
    change _ ≤ revision.version
    cases last : Event.lastPublished? events with
    | none => exact Nat.zero_le _
    | some earlier =>
      apply Nat.le_of_not_lt
      exact fun older => answered ⟨earlier, last, Or.inl older⟩

/-- What is published agrees with what a new publisher with the same settings publishes. -/
theorem Remembers.publicationOf_eq
    (remembers : publisher.Remembers rules classifier first events) (announced : Bool)
    (revision : Revision) (occasion other : Occasion) :
    (publisher.publicationOf revision occasion).outline =
        ((fresh (.brace rules) announced classifier
          (Event.inForce first events)).publicationOf revision other).outline ∧
      (publisher.publicationOf revision occasion).listed =
        ((fresh (.brace rules) announced classifier
          (Event.inForce first events)).publicationOf revision other).listed := by
  have tokens : publisher.tokens revision = (fresh (.brace rules) announced classifier
      (Event.inForce first events)).tokens revision := by
    unfold Publisher.tokens
    rw [remembers.classifier_eq]
    rfl
  have outline : publisher.outlineOf revision = (fresh (.brace rules) announced classifier
      (Event.inForce first events)).outlineOf revision := by
    rw [outlineOf_eq remembers.brace announced, tokens]
    rfl
  refine ⟨outline, ?_⟩
  simp only [publicationOf, outline, remembers.settings_eq]
  rfl

theorem version_le_after (rules : BraceRules) (announced : Bool) (classifier : Classifier)
    (settings : Settings) (log later : List Request) :
    ((fresh (.brace rules) announced classifier settings).after log).published.version ≤
      ((fresh (.brace rules) announced classifier settings).after
        (later ++ log)).published.version := by
  induction later with
  | nil => exact Nat.le_refl _
  | cons request earlier ih =>
    refine Nat.le_trans ih ?_
    cases request with
    | configure settings => exact Nat.le_refl _
    | outline revision occasion =>
      exact (after_remembers rules announced classifier settings
        (earlier ++ log)).version_le_publish revision occasion

/-- What a publisher does at a request, told by the events of its past and by what a new publisher
does that has the settings in force. -/
structure Answers (rules : BraceRules) (classifier : Classifier) (first : Settings)
    (events : List Event) (publisher : Publisher Bool) (revision : Revision)
    (occasion : Occasion) : Prop where
  published_eq : ∀ last, Event.lastPublished? events = some last →
    publisher.published.revision = last
  skipped_iff : (publisher.publish revision occasion).2.mode = .skipped ↔
    ∃ last, Event.lastPublished? events = some last ∧ (revision.version < last.version ∨
      revision.version = last.version ∧ occasion = .idle ∧ Event.configuredSince events = false)
  skipped : (publisher.publish revision occasion).2.mode = .skipped →
    publisher.publish revision occasion = (publisher, ⟨.skipped, none, publisher.published⟩)
  outline_eq : (publisher.publish revision occasion).2.mode ≠ .skipped →
    ∀ announced other, (publisher.publish revision occasion).1.published.outline =
      ((fresh (.brace rules) announced classifier (Event.inForce first events)).publish revision
        other).1.published.outline
  listed_eq : (publisher.publish revision occasion).2.mode ≠ .skipped →
    ∀ announced other, (publisher.publish revision occasion).1.published.listed =
      ((fresh (.brace rules) announced classifier (Event.inForce first events)).publish revision
        other).1.published.listed
  isInitial_iff : (publisher.publish revision occasion).2.mode ≠ .skipped →
    ((publisher.publish revision occasion).1.published.isInitial = true ↔
      Event.lastPublished? events = none ∨ occasion = .load)

theorem Remembers.answers (remembers : publisher.Remembers rules classifier first events)
    (revision : Revision) (occasion : Occasion) :
    publisher.Answers rules classifier first events revision occasion := by
  have made : (publisher.publish revision occasion).2.mode ≠ .skipped →
      (publisher.publish revision occasion).1.published =
        publisher.publicationOf revision occasion := by
    intro answered
    rw [publish_of_not_skips _ _ _ (not_skips_of_mode _ _ _ answered)]
  have madeNew : ∀ announced other, ((fresh (.brace rules) announced classifier
      (Event.inForce first events)).publish revision other).1.published =
        (fresh (.brace rules) announced classifier
          (Event.inForce first events)).publicationOf revision other := by
    intro announced other
    rw [publish_of_not_skips _ _ _ rfl]
  refine ⟨?_, ?_, ?_, ?_, ?_, ?_⟩
  · intro last published
    rw [remembers.published_eq, published, Option.getD_some]
  · rw [mode_eq_skipped_iff]
    exact remembers.skips_iff revision occasion
  · intro mode
    exact publish_of_skips _ _ _ ((mode_eq_skipped_iff _ _ _).1 mode)
  · intro answered announced other
    rw [made answered, madeNew]
    exact (remembers.publicationOf_eq announced revision occasion other).1
  · intro answered announced other
    rw [made answered, madeNew]
    exact (remembers.publicationOf_eq announced revision occasion other).2
  · intro answered
    rw [made answered, publicationOf, remembers.last_eq, Bool.or_eq_true, beq_iff_eq,
      Option.isNone_iff_eq_none, Option.map_eq_none_iff]

/-- After all requests, the past of a publisher shows in what it skips and in the settings in
force, and in nothing else that it publishes. -/
theorem publish_history_independent (rules : BraceRules) (announced : Bool)
    (classifier : Classifier) (settings : Settings) (log : List Request) :
    (∀ later, ((fresh (.brace rules) announced classifier settings).after log).published.version ≤
      ((fresh (.brace rules) announced classifier settings).after
        (later ++ log)).published.version) ∧
    ∀ revision occasion,
      ((fresh (.brace rules) announced classifier settings).after log).Answers rules classifier
        settings ((fresh (.brace rules) announced classifier settings).events log) revision
        occasion :=
  ⟨version_le_after rules announced classifier settings log,
    (after_remembers rules announced classifier settings log).answers⟩

end Publisher

end CodeFolding
