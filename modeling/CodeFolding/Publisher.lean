import CodeFolding.Outline.Scan
import CodeFolding.Publication

set_option autoImplicit false

namespace CodeFolding

/-- Why an outline is asked for: the text has come to rest, it was loaded, or its tokens have
changed. -/
inductive Occasion where
  | idle
  | load
  | tokens
deriving DecidableEq, Inhabited, Repr

/-- Whether an outline is made even if the version has one. -/
def Occasion.forces (occasion : Occasion) : Bool :=
  occasion != .idle

/-- How a request for an outline was answered: with the first one, with one compared with the
last, with one that could not be compared, or with the last one. -/
inductive Mode where
  | initial
  | incremental
  | refresh
  | skipped
deriving DecidableEq, Inhabited, Repr

/-- The answer to a request: what has to be shown anew, and the outline now published. -/
structure Update where
  mode : Mode
  changed : Option Span
  publication : Publication

/-- The reading of tokens from a revision; it may fail. -/
abbrev Classifier := Revision → Except String (List Token)

/-- A dialect with its state, a classifier and settings, and what has been published. Nothing has
been as long as there is no last version. -/
structure Publisher (σ : Type) where
  dialect : Dialect σ
  state : σ
  classifier : Classifier
  settings : Settings
  published : Publication
  lastVersion? : Option Nat
  settingsChanged : Bool

namespace Publisher

def fresh {σ : Type} (dialect : Dialect σ) (state : σ) (classifier : Classifier)
    (settings : Settings) : Publisher σ :=
  ⟨dialect, state, classifier, settings, Publication.blank, none, false⟩

/-- Replaces the settings. The next request is answered even if its version has an outline. -/
def setSettings {σ : Type} (publisher : Publisher σ) (settings : Settings) : Publisher σ :=
  { publisher with settings := settings, settingsChanged := true }

def setClassifier {σ : Type} (publisher : Publisher σ) (classifier : Classifier) :
    Publisher σ :=
  { publisher with classifier := classifier }

/-- Whether a request is answered with the last outline: the version is older, or it is the same
and nothing asks for a new outline. -/
def skips {σ : Type} (publisher : Publisher σ) (version : Nat) (occasion : Occasion) : Bool :=
  publisher.lastVersion?.any fun last =>
    version < last || (version == last && !occasion.forces && !publisher.settingsChanged)

/-- The tokens of a revision; none where the classifier fails. -/
def tokens {σ : Type} (publisher : Publisher σ) (revision : Revision) : List Token :=
  match publisher.classifier revision with
  | .ok tokens => tokens
  | .error _ => []

/-- How the spans of a new outline compare with those published last. -/
def compare {σ : Type} (publisher : Publisher σ) (revision : Revision) (spans : List Span) :
    Mode × Option Span :=
  match publisher.lastVersion? with
  | none => (.initial, Span.changed [] spans)
  | some last =>
    match publisher.published.spans.mapM fun span => revision.carry span last with
    | .ok old => (.incremental, Span.changed old spans)
    | .error _ => (.refresh, some revision.document.fullSpan)

/-- Makes the outline of a revision and publishes it, unless the request is skipped. -/
def publish {σ : Type} (publisher : Publisher σ) (revision : Revision) (occasion : Occasion) :
    Publisher σ × Update :=
  if publisher.skips revision.version occasion then
    (publisher, ⟨.skipped, none, publisher.published⟩)
  else
    let (state, outline) :=
      publisher.dialect.outline publisher.state revision.document (publisher.tokens revision)
    let listed := outline.foldable.filter fun id =>
      publisher.settings.lists (outline.region id).kind
    let spans := listed.filterMap fun id => (outline.region id).span?
    let (mode, changed) := publisher.compare revision spans
    let publication : Publication :=
      { edition := publisher.published.edition + 1
        revision := revision
        outline := outline
        listed := listed
        changed := changed
        isInitial := publisher.lastVersion?.isNone || occasion == .load }
    ({ publisher with
        state := state
        published := publication
        lastVersion? := some revision.version
        settingsChanged := false },
      ⟨mode, changed, publication⟩)

end Publisher

end CodeFolding
