import CodeFolding.Proofs.Buffer
import Mathlib.Data.List.Infix

set_option autoImplicit false

namespace CodeFolding

open Change (moveAll moveBetween)

/-- What can be asked of a buffer. -/
inductive Command where
  | insert (offset : Nat) (text : String)
  | delete (span : Span)
  | replace (span : Span) (text : String)

namespace Command

def span : Command → Span
  | insert offset _ => Span.point offset
  | delete span => span
  | replace span _ => span

def text : Command → String
  | insert _ text => text
  | delete _ => ""
  | replace _ text => text

end Command

namespace Buffer

def perform (buffer : Buffer) : Command → Except OutOfBounds Buffer
  | .insert offset text => buffer.insert offset text
  | .delete span => buffer.delete span
  | .replace span text => buffer.replace span text

theorem perform_eq_replace (buffer : Buffer) (command : Command) :
    buffer.perform command = buffer.replace command.span command.text := by
  cases command <;> rfl

theorem replace_eq_ok_iff (before after : Buffer) (span : Span) (text : String) :
    before.replace span text = .ok after ↔
      span.Within before.current.document.length ∧ before.replaced span text = after := by
  by_cases within : span.Within before.current.document.length
  · rw [before.replace_of_within text within, Except.ok.injEq]
    exact ⟨fun same => ⟨within, same⟩, fun facts => facts.2⟩
  · rw [before.replace_of_not_within text within]
    exact ⟨fun same => (nomatch same), fun facts => absurd facts.1 within⟩

end Buffer

/-- A buffer that makes `change` goes from the revision `older` to the revision `newer`. -/
def Change.Makes (change : Change) (older newer : Revision) : Prop :=
  ∃ (before after : Buffer) (span : Span) (text : String),
    before.replace span text = .ok after ∧ before.changeOf span text = change ∧
    before.current = older ∧ after.current = newer

theorem Change.Makes.version {change : Change} {older newer : Revision}
    (makes : change.Makes older newer) : newer.version = older.version + 1 := by
  obtain ⟨before, after, span, text, taken, -, rfl, rfl⟩ := makes
  obtain ⟨-, rfl⟩ := (before.replace_eq_ok_iff after span text).1 taken
  rfl

/-- The revisions that `changes` have made one after the other, the latest one first. -/
inductive Succession : List Revision → List Change → Prop
  | start {revision : Revision} (original : revision.version = 0) : Succession [revision] []
  | next {newer older : Revision} {past : List Revision} {changes : List Change} {change : Change}
      (earlier : Succession (older :: past) changes) (makes : change.Makes older newer) :
      Succession (newer :: older :: past) (changes ++ [change])

namespace Succession

variable {revisions : List Revision} {changes : List Change}

theorem version_latest (succession : Succession revisions changes) {latest : Revision}
    (first : revisions.head? = some latest) : latest.version = changes.length := by
  induction succession generalizing latest with
  | start original =>
    cases first
    exact original
  | @next newer older past changes change earlier makes ih =>
    cases first
    rw [makes.version, ih rfl, List.length_append, List.length_singleton]

theorem versions (succession : Succession revisions changes) :
    revisions.map Revision.version = (List.range (changes.length + 1)).reverse := by
  induction succession with
  | start original => simp [original]
  | @next newer older past changes change earlier makes ih =>
    rw [List.map_cons, ih, makes.version, earlier.version_latest rfl, List.length_append,
      List.length_singleton, @List.range_succ (changes.length + 1), List.reverse_append,
      List.reverse_singleton, List.singleton_append]

theorem version_le (succession : Succession revisions changes) {revision : Revision}
    (member : revision ∈ revisions) : revision.version ≤ changes.length := by
  have listed : revision.version ∈ revisions.map Revision.version := List.mem_map_of_mem member
  rw [succession.versions, List.mem_reverse, List.mem_range] at listed
  omega

end Succession

namespace Chronicle

/-- Takes a command, unless the buffer refuses it. -/
def perform (chronicle : Chronicle) (command : Command) : Chronicle :=
  match chronicle.buffer.perform command with
  | .ok buffer => ⟨buffer, buffer.current :: chronicle.revisions⟩
  | .error _ => chronicle

theorem perform_eq_replace (chronicle : Chronicle) (command : Command) :
    chronicle.perform command = chronicle.replace command.span command.text := by
  rw [perform, chronicle.buffer.perform_eq_replace]
  rfl

def run (chronicle : Chronicle) (commands : List Command) : Chronicle :=
  commands.foldl perform chronicle

/-- The changes that a run makes, the oldest one first: one for each command that is not
refused. -/
def changes (chronicle : Chronicle) : List Command → List Change
  | [] => []
  | command :: rest =>
    match chronicle.buffer.perform command with
    | .ok _ => chronicle.buffer.changeOf command.span command.text ::
        changes (chronicle.perform command) rest
    | .error _ => changes chronicle rest

theorem changes_of_within (chronicle : Chronicle) {command : Command}
    (within : command.span.Within chronicle.buffer.current.document.length)
    (rest : List Command) :
    chronicle.changes (command :: rest) =
      chronicle.buffer.changeOf command.span command.text ::
        (chronicle.perform command).changes rest := by
  rw [changes, chronicle.buffer.perform_eq_replace,
    chronicle.buffer.replace_of_within command.text within]

theorem changes_of_not_within (chronicle : Chronicle) {command : Command}
    (outside : ¬ command.span.Within chronicle.buffer.current.document.length)
    (rest : List Command) : chronicle.changes (command :: rest) = chronicle.changes rest := by
  rw [changes, chronicle.buffer.perform_eq_replace,
    chronicle.buffer.replace_of_not_within command.text outside]

theorem perform_of_not_within (chronicle : Chronicle) {command : Command}
    (outside : ¬ command.span.Within chronicle.buffer.current.document.length) :
    chronicle.perform command = chronicle := by
  rw [perform_eq_replace, chronicle.replace_of_not_within command.text outside]

/-- What is kept by every command that is taken, which adds its change at the end, is kept by every
run. -/
theorem run_induction (kept : List Change → Chronicle → Prop)
    (takes : ∀ changes chronicle span text, kept changes chronicle →
      span.Within chronicle.buffer.current.document.length →
      kept (changes ++ [chronicle.buffer.changeOf span text]) (chronicle.replace span text))
    (chronicle : Chronicle) (before : List Change) (holds : kept before chronicle)
    (commands : List Command) :
    kept (before ++ chronicle.changes commands) (chronicle.run commands) := by
  induction commands generalizing chronicle before with
  | nil =>
    rw [changes, List.append_nil]
    exact holds
  | cons command rest ih =>
    change kept _ ((chronicle.perform command).run rest)
    by_cases within : command.span.Within chronicle.buffer.current.document.length
    · have taken := takes before chronicle command.span command.text holds within
      rw [← perform_eq_replace] at taken
      have done := ih (chronicle.perform command) _ taken
      rw [List.append_assoc, List.singleton_append] at done
      rw [chronicle.changes_of_within within]
      exact done
    · rw [chronicle.changes_of_not_within within, chronicle.perform_of_not_within within]
      exact ih chronicle before holds

/-- The revisions of a chronicle succeed one another up to the current one. -/
def Continuous (changes : List Change) (chronicle : Chronicle) : Prop :=
  Succession chronicle.revisions changes ∧
    chronicle.revisions.head? = some chronicle.buffer.current

theorem start_continuous (document : Document) (limit : Nat) :
    (start document limit).Continuous [] :=
  ⟨.start rfl, rfl⟩

theorem Continuous.replace {changes : List Change} {chronicle : Chronicle}
    (continuous : chronicle.Continuous changes) {span : Span} (text : String)
    (within : span.Within chronicle.buffer.current.document.length) :
    (chronicle.replace span text).Continuous
      (changes ++ [chronicle.buffer.changeOf span text]) := by
  obtain ⟨succession, latest⟩ := continuous
  obtain ⟨past, revisions⟩ := List.head?_eq_some_iff.1 latest
  rw [revisions] at succession
  rw [chronicle.replace_of_within text within]
  refine ⟨?_, rfl⟩
  change Succession (_ :: chronicle.revisions) _
  rw [revisions]
  exact .next succession ⟨chronicle.buffer, _, span, text,
    chronicle.buffer.replace_of_within text within, rfl, rfl, rfl⟩

section Run

variable (document : Document) (limit : Nat) (commands : List Command)

theorem run_sound : ((start document limit).run commands).Sound document.length
    ((start document limit).changes commands) :=
  run_induction (fun changes chronicle => chronicle.Sound document.length changes)
    (fun _ _ _ text sound within => sound.replace_of_within text within)
    _ [] (start_sound document limit) commands

theorem run_continuous : ((start document limit).run commands).Continuous
    ((start document limit).changes commands) :=
  run_induction Continuous
    (fun _ _ _ text continuous within => continuous.replace text within)
    _ [] (start_continuous document limit) commands

theorem limit_run : ((start document limit).run commands).buffer.limit = max limit 1 :=
  run_induction (fun _ chronicle => chronicle.buffer.limit = max limit 1)
    (fun _ chronicle span text same _ => (limit_replace chronicle span text).trans same)
    _ [] rfl commands

end Run

/-- No revision is lost or changed by later commands. -/
theorem revisions_suffix_run (chronicle : Chronicle) (commands : List Command) :
    chronicle.revisions <:+ (chronicle.run commands).revisions := by
  induction commands generalizing chronicle with
  | nil => exact List.suffix_refl _
  | cons command rest ih =>
    refine List.IsSuffix.trans ?_ (ih (chronicle.perform command))
    unfold perform
    split
    · exact List.suffix_cons _ _
    · exact List.suffix_refl _

/-- How the revisions of a chronicle carry spans over when each of them remembers `limit` of the
changes that made them. -/
structure Windowed (limit : Nat) (changes : List Change) (chronicle : Chronicle) : Prop where
  succession : Succession chronicle.revisions changes
  versions : chronicle.revisions.map Revision.version = (List.range (changes.length + 1)).reverse
  carry_eq : ∀ revision ∈ chronicle.revisions, ∀ (span : Span) (source : Nat),
    revision.carry span source =
      if source ≤ revision.version ∧ revision.version - source ≤ limit then
        .ok (moveBetween changes source revision.version span)
      else .error ⟨source, revision.version⟩
  carry_carry : ∀ middle ∈ chronicle.revisions, ∀ last ∈ chronicle.revisions,
    ∀ (span : Span) (source : Nat), source ≤ middle.version → middle.version ≤ last.version →
      last.version - source ≤ limit →
      last.carry span source =
        (middle.carry span source).bind fun image => last.carry image middle.version

theorem moveBetween_trans {changes : List Change} {source middle target : Nat}
    (first : source ≤ middle) (second : middle ≤ target) (known : middle ≤ changes.length)
    (span : Span) :
    moveBetween changes source target span =
      moveBetween changes middle target (moveBetween changes source middle span) := by
  have early : (changes.take target).take middle = changes.take middle := by
    rw [List.take_take, Nat.min_eq_left second]
  have reached : source ≤ (changes.take middle).length := by
    rw [List.length_take]
    omega
  have whole : (changes.take target).drop source =
      (changes.take middle).drop source ++ (changes.take target).drop middle := by
    rw [← early] at reached ⊢
    rw [← List.drop_append_of_le_length reached, List.take_append_drop]
  unfold moveBetween moveAll
  rw [whole, List.foldl_append]

theorem Sound.windowed {first : Nat} {changes : List Change} {chronicle : Chronicle}
    (sound : chronicle.Sound first changes) (continuous : chronicle.Continuous changes) :
    chronicle.Windowed chronicle.buffer.limit changes := by
  have carried : ∀ revision ∈ chronicle.revisions, ∀ (span : Span) (source : Nat),
      revision.carry span source =
        if source ≤ revision.version ∧ revision.version - source ≤ chronicle.buffer.limit then
          .ok (moveBetween changes source revision.version span)
        else .error ⟨source, revision.version⟩ := by
    intro revision member span source
    by_cases before : source ≤ revision.version
    · have near : source ≤ revision.version ∧
          revision.version - source ≤ chronicle.buffer.limit ↔
            revision.version ≤ source + chronicle.buffer.limit := by omega
      rw [(sound.recorded revision member).carry_eq span before]
      simp only [near]
    · have ahead : revision.version < source := Nat.lt_of_not_le before
      rw [Revision.carry, if_neg (Nat.ne_of_gt ahead), if_pos ahead,
        if_neg fun inWindow => before inWindow.1]
  refine ⟨continuous.1, continuous.1.versions, carried, ?_⟩
  intro middle memberMiddle last memberLast span source first second near
  have known := (sound.recorded middle memberMiddle).known
  rw [carried last memberLast, carried middle memberMiddle, if_pos (by omega), if_pos (by omega)]
  change _ = last.carry _ middle.version
  rw [carried last memberLast, if_pos (by omega), moveBetween_trans first second known]

/-- After any run of commands, refused ones among them, every revision that the buffer has had
carries a span over from a version exactly if that is no newer and at most as many versions back as
changes are kept. The image is that under the changes in between, and the way may be broken at any
version. Later commands leave the revisions as they are. -/
theorem run_windowed (document : Document) (limit : Nat) (commands later : List Command) :
    ((start document limit).run commands).Windowed (max limit 1)
      ((start document limit).changes commands) ∧
    ((start document limit).run commands).revisions <:+
      ((start document limit).run (commands ++ later)).revisions := by
  constructor
  · have windowed := (run_sound document limit commands).windowed
      (run_continuous document limit commands)
    rw [limit_run] at windowed
    exact windowed
  · have more : (start document limit).run (commands ++ later) =
        ((start document limit).run commands).run later := List.foldl_append ..
    rw [more]
    exact revisions_suffix_run _ later

/-- With one change kept, the second revision after a text does not know the way from it any more,
and the one in between still does. -/
example : (((start (Document.ofString "abc") 1).run
    [.insert 0 "x", .delete ⟨2, 9⟩, .insert 0 "y"]).revisions.map (·.carry ⟨0, 1⟩ 0)) =
      [.error ⟨0, 2⟩, .ok ⟨1, 2⟩, .ok ⟨0, 1⟩] := by
  rfl

end Chronicle

end CodeFolding
