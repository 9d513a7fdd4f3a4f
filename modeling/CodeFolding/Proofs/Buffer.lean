import CodeFolding.Buffer
import CodeFolding.Proofs.Edit

set_option autoImplicit false

namespace CodeFolding

open Change (Leads Fits moveBetween)

theorem Document.length_slice (document : Document) {span : Span}
    (within : span.Within document.length) :
    (document.slice span).length = span.stop - span.start := by
  obtain ⟨inOrder, inside⟩ := within
  have size : document.chars.size = document.length := rfl
  rw [slice, String.length_ofList, Array.length_toList, extract]
  simp only [Array.size_extract, size]
  omega

namespace Buffer

theorem size_splice (document : Document) {span : Span} (within : span.Within document.length)
    (inserted : Array Char) : (splice document span inserted).size =
      document.length - (span.stop - span.start) + inserted.size := by
  obtain ⟨inOrder, inside⟩ := within
  have size : document.chars.size = document.length := rfl
  simp only [splice, Array.size_append, Array.size_extract, size]
  omega

def changeOf (buffer : Buffer) (span : Span) (text : String) : Change where
  baseVersion := buffer.current.version
  lengthBefore := buffer.current.document.length
  lengthAfter := (splice buffer.current.document span text.toList.toArray).size
  edits := [⟨span.start, buffer.current.document.slice span, text⟩]

def replaced (buffer : Buffer) (span : Span) (text : String) : Buffer :=
  let history := latest buffer.limit (buffer.history ++ [buffer.changeOf span text])
  { buffer with
    current := ⟨Document.ofChars (splice buffer.current.document span text.toList.toArray),
      buffer.current.version + 1, history⟩
    history := history }

theorem replace_of_within (buffer : Buffer) {span : Span} (text : String)
    (within : span.Within buffer.current.document.length) :
    buffer.replace span text = .ok (buffer.replaced span text) := by
  unfold Span.Within at within
  unfold replace
  rw [if_neg (by omega)]
  rfl

theorem replace_of_not_within (buffer : Buffer) {span : Span} (text : String)
    (outside : ¬ span.Within buffer.current.document.length) :
    buffer.replace span text =
      .error ⟨span.start, span.stop, buffer.current.document.length⟩ := by
  unfold Span.Within at outside
  unfold replace
  rw [if_pos (by omega)]

theorem changeOf_fits (buffer : Buffer) {span : Span} (text : String)
    (within : span.Within buffer.current.document.length) : (buffer.changeOf span text).Fits := by
  intro addressable moved movedWithin
  have deleted := buffer.current.document.length_slice within
  have length := size_splice buffer.current.document within text.toList.toArray
  have inserted : text.toList.toArray.size = text.length := by
    rw [List.size_toArray, String.length_toList]
  have inside : span.start + (buffer.current.document.slice span).length ≤
      buffer.current.document.length := by
    obtain ⟨inOrder, stop⟩ := within
    omega
  have image := Edit.moveSpan_within ⟨span.start, buffer.current.document.slice span, text⟩
    inside addressable movedWithin
  rw [deleted, ← inserted, ← length] at image
  exact image

/-- Nothing is lost for good that the limit would have let stay. -/
theorem latest_latest_append (limit : Nat) (changes : List Change) (change : Change) :
    latest limit (latest limit changes ++ [change]) = latest limit (changes ++ [change]) := by
  have joined : changes.drop (changes.length - limit) ++ [change] =
      (changes ++ [change]).drop (changes.length - limit) :=
    (List.drop_append_of_le_length (Nat.sub_le _ _)).symm
  unfold latest
  rw [joined, List.drop_drop, List.length_drop, List.length_append, List.length_singleton]
  congr 1
  omega

end Buffer

namespace Revision

/-- A revision that the first ones of `changes` led to from a text of `first` characters, and
that remembers the latest `limit` of these. -/
structure Recorded (limit first : Nat) (changes : List Change) (revision : Revision) : Prop where
  known : revision.version ≤ changes.length
  history : revision.history = Buffer.latest limit (changes.take revision.version)
  leads : Leads 0 first (changes.take revision.version) revision.version
    revision.document.length

namespace Recorded

variable {limit first : Nat} {changes : List Change} {revision earlier : Revision}

theorem append (recorded : Recorded limit first changes revision) (change : Change) :
    Recorded limit first (changes ++ [change]) revision := by
  have same : (changes ++ [change]).take revision.version = changes.take revision.version :=
    List.take_append_of_le_length recorded.known
  refine ⟨?_, ?_, ?_⟩
  · rw [List.length_append]
    exact Nat.le_trans recorded.known (Nat.le_add_right _ _)
  · rw [same]
    exact recorded.history
  · rw [same]
    exact recorded.leads

theorem leads_from (recorded : Recorded limit first changes revision) {source : Nat}
    (before : source ≤ revision.version) :
    ∃ length, Leads 0 first (changes.take source) source length ∧
      Leads source length ((changes.take revision.version).drop source) revision.version
        revision.document.length := by
  have leads := recorded.leads
  rw [← List.take_append_drop source (changes.take revision.version), List.take_take,
    Nat.min_eq_left before] at leads
  obtain ⟨middle, length, front, back⟩ := leads.split
  have reached := front.last_eq
  rw [List.length_take, Nat.min_eq_left (Nat.le_trans before recorded.known), Nat.zero_add]
    at reached
  subst reached
  exact ⟨length, front, back⟩

/-- The changes between two revisions lead from the one text to the other. -/
theorem leads_between (recorded : Recorded limit first changes revision)
    (source : Recorded limit first changes earlier)
    (before : earlier.version ≤ revision.version) :
    Leads earlier.version earlier.document.length
      ((changes.take revision.version).drop earlier.version) revision.version
      revision.document.length := by
  obtain ⟨length, front, back⟩ := recorded.leads_from before
  rw [(source.leads.unique front).2]
  exact back

/-- The changes from a version on are remembered if that is no further back than the limit. -/
theorem dropWhile_history (recorded : Recorded limit first changes revision) (source : Nat) :
    revision.history.dropWhile (fun change => change.baseVersion != source) =
      if revision.version ≤ source + limit then (changes.take revision.version).drop source
      else [] := by
  have size : (changes.take revision.version).length = revision.version := by
    rw [List.length_take, Nat.min_eq_left recorded.known]
  have history : revision.history =
      (changes.take revision.version).drop (revision.version - limit) := by
    rw [recorded.history, Buffer.latest, size]
  have oldest : revision.version - limit ≤ revision.version := Nat.sub_le _ _
  obtain ⟨_, _, remembered⟩ := recorded.leads_from oldest
  have near : revision.version - limit ≤ source ↔ revision.version ≤ source + limit := by omega
  rw [history, remembered.dropWhile_base source]
  simp only [near]
  by_cases inside : revision.version ≤ source + limit
  · rw [if_pos inside, if_pos inside, List.drop_drop,
      Nat.add_sub_cancel' (near.2 inside)]
  · rw [if_neg inside, if_neg inside]

/-- A span is carried over from a version no further back than the limit. -/
theorem carry_eq (recorded : Recorded limit first changes revision) (span : Span) {source : Nat}
    (before : source ≤ revision.version) :
    revision.carry span source =
      if revision.version ≤ source + limit then
        .ok (moveBetween changes source revision.version span)
      else .error ⟨source, revision.version⟩ := by
  have size : (changes.take revision.version).length = revision.version := by
    rw [List.length_take, Nat.min_eq_left recorded.known]
  unfold carry
  by_cases same : source = revision.version
  · rw [if_pos same, if_pos (by omega), moveBetween, List.drop_eq_nil_of_le (by omega)]
    rfl
  · rw [if_neg same, if_neg (by omega), recorded.dropWhile_history source]
    by_cases near : revision.version ≤ source + limit
    · obtain ⟨_, _, further⟩ := recorded.leads_from before
      have shown := further.follow span
      rw [if_pos near, if_pos near]
      split
      · rename_i none
        have length := congrArg List.length none
        rw [List.length_drop, size, List.length_nil] at length
        omega
      · rw [shown]
        dsimp only
        rw [if_pos rfl, moveBetween]
    · rw [if_neg near, if_neg near]

end Recorded

end Revision

/-- A buffer and all revisions it has had, the latest one first. -/
structure Chronicle where
  buffer : Buffer
  revisions : List Revision

namespace Chronicle

/-- A new buffer that keeps `limit` changes. -/
def start (document : Document) (limit : Nat) : Chronicle :=
  let buffer := (Buffer.ofDocument document).withLimit limit
  ⟨buffer, [buffer.current]⟩

/-- Replaces the characters of a span, if it is within the text. -/
def replace (chronicle : Chronicle) (span : Span) (text : String) : Chronicle :=
  match chronicle.buffer.replace span text with
  | .ok buffer => ⟨buffer, buffer.current :: chronicle.revisions⟩
  | .error _ => chronicle

/-- The changes that a buffer has made, from a text of `first` characters on, and what its
revisions know of them. -/
structure Sound (first : Nat) (changes : List Change) (chronicle : Chronicle) : Prop where
  history : chronicle.buffer.history = Buffer.latest chronicle.buffer.limit changes
  current : chronicle.buffer.current ∈ chronicle.revisions
  version : chronicle.buffer.current.version = changes.length
  recorded : ∀ revision ∈ chronicle.revisions,
    revision.Recorded chronicle.buffer.limit first changes
  fits : ∀ change ∈ changes, change.Fits
  sources : ∀ change ∈ changes, ∃ revision ∈ chronicle.revisions,
    revision.document.length = change.lengthBefore

theorem start_sound (document : Document) (limit : Nat) :
    (start document limit).Sound document.length [] := by
  refine ⟨rfl, List.mem_cons_self, rfl, ?_, ?_, ?_⟩
  · intro revision member
    rw [List.mem_singleton.1 member]
    refine ⟨Nat.le_refl 0, ?_, .nil 0 document.length⟩
    rw [List.take_nil, Buffer.latest, List.drop_nil]
    rfl
  · exact fun change member => absurd member List.not_mem_nil
  · exact fun change member => absurd member List.not_mem_nil

theorem replace_of_within (chronicle : Chronicle) {span : Span} (text : String)
    (within : span.Within chronicle.buffer.current.document.length) :
    chronicle.replace span text = ⟨chronicle.buffer.replaced span text,
      (chronicle.buffer.replaced span text).current :: chronicle.revisions⟩ := by
  rw [Chronicle.replace, chronicle.buffer.replace_of_within text within]

theorem replace_of_not_within (chronicle : Chronicle) {span : Span} (text : String)
    (outside : ¬ span.Within chronicle.buffer.current.document.length) :
    chronicle.replace span text = chronicle := by
  rw [Chronicle.replace, chronicle.buffer.replace_of_not_within text outside]

variable {first : Nat} {changes : List Change} {chronicle : Chronicle}

theorem Sound.replace_of_within (sound : chronicle.Sound first changes) {span : Span}
    (text : String) (within : span.Within chronicle.buffer.current.document.length) :
    (chronicle.replace span text).Sound first
      (changes ++ [chronicle.buffer.changeOf span text]) := by
  have remembered : Buffer.latest chronicle.buffer.limit
      (chronicle.buffer.history ++ [chronicle.buffer.changeOf span text]) =
        Buffer.latest chronicle.buffer.limit
          (changes ++ [chronicle.buffer.changeOf span text]) := by
    rw [sound.history, Buffer.latest_latest_append]
  have whole : (changes ++ [chronicle.buffer.changeOf span text]).take
      (chronicle.buffer.current.version + 1) =
        changes ++ [chronicle.buffer.changeOf span text] := by
    apply List.take_of_length_le
    exact Nat.le_of_eq (by rw [List.length_append, List.length_singleton, sound.version])
  have leads := (sound.recorded _ sound.current).leads
  rw [sound.version, List.take_length] at leads
  rw [chronicle.replace_of_within text within]
  refine ⟨remembered, List.mem_cons_self, ?_, ?_, ?_, ?_⟩
  · rw [List.length_append, List.length_singleton, ← sound.version]
    rfl
  · intro revision member
    rcases List.mem_cons.1 member with rfl | old
    · refine ⟨?_, ?_, ?_⟩
      · rw [List.length_append, List.length_singleton, ← sound.version]
        exact Nat.le_refl _
      · exact remembered.trans (congrArg _ whole.symm)
      · refine Eq.subst (motive := fun path => Leads 0 first path _ _) whole.symm ?_
        refine leads.append (.cons sound.version rfl ?_)
        rw [← sound.version]
        exact .nil _ _
    · exact (sound.recorded revision old).append _
  · intro change member
    rcases List.mem_append.1 member with old | new
    · exact sound.fits change old
    · rw [List.mem_singleton.1 new]
      exact chronicle.buffer.changeOf_fits text within
  · intro change member
    rcases List.mem_append.1 member with old | new
    · obtain ⟨revision, earlier, same⟩ := sound.sources change old
      exact ⟨revision, List.mem_cons_of_mem _ earlier, same⟩
    · rw [List.mem_singleton.1 new]
      exact ⟨chronicle.buffer.current, List.mem_cons_of_mem _ sound.current, rfl⟩

theorem Sound.replace (sound : chronicle.Sound first changes) (span : Span) (text : String) :
    (chronicle.replace span text).Sound first changes ∨
      (chronicle.replace span text).Sound first
        (changes ++ [chronicle.buffer.changeOf span text]) := by
  by_cases within : span.Within chronicle.buffer.current.document.length
  · exact Or.inr (sound.replace_of_within text within)
  · rw [chronicle.replace_of_not_within text within]
    exact Or.inl sound

/-- A span of one revision is carried to a span within the text of a later one. -/
theorem Sound.moveBetween_within (sound : chronicle.Sound first changes)
    {earlier revision : Revision} (source : earlier ∈ chronicle.revisions)
    (target : revision ∈ chronicle.revisions) (before : earlier.version ≤ revision.version)
    (addressable : ∀ other ∈ chronicle.revisions, other.document.length ≤ maxOffset)
    {span : Span} (within : span.Within earlier.document.length) :
    (moveBetween changes earlier.version revision.version span).Within
      revision.document.length := by
  have part : ∀ change ∈ (changes.take revision.version).drop earlier.version,
      change ∈ changes :=
    fun change member => List.mem_of_mem_take (List.mem_of_mem_drop member)
  have leads := (sound.recorded revision target).leads_between (sound.recorded earlier source)
    before
  refine leads.moveAll_within (fun change member => sound.fits change (part change member)) ?_
    within
  intro change member
  obtain ⟨other, known, same⟩ := sound.sources change (part change member)
  rw [← same]
  exact addressable other known

@[simp] theorem limit_replace (chronicle : Chronicle) (span : Span) (text : String) :
    (chronicle.replace span text).buffer.limit = chronicle.buffer.limit := by
  by_cases within : span.Within chronicle.buffer.current.document.length
  · rw [chronicle.replace_of_within text within]
    rfl
  · rw [chronicle.replace_of_not_within text within]

theorem mem_revisions_replace (chronicle : Chronicle) (span : Span) (text : String)
    {revision : Revision} (member : revision ∈ chronicle.revisions) :
    revision ∈ (chronicle.replace span text).revisions := by
  unfold replace
  split
  · exact List.mem_cons_of_mem _ member
  · exact member

end Chronicle

end CodeFolding
