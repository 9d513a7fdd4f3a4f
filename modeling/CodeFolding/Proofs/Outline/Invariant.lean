import CodeFolding.Proofs.Outline.Steps
import Mathlib.Data.List.Chain

set_option autoImplicit false

namespace CodeFolding

namespace Outline

/-- What holds of a region from its start on: it lies inside `parent`, behind all regions that
are listed there. -/
structure Placed (outline : Outline) (parent id : Nat) : Prop where
  known : id < outline.size
  later : parent < id
  linked : (outline.region id).parent? = some parent
  opener : (outline.region id).kind.IsBracket →
    outline.document.charAt? (outline.region id).start ≠ some '\n'
  begins : parent ≠ rootId → (outline.region parent).start < (outline.region id).start
  behind : ∀ sibling ∈ (outline.region parent).children, sibling < id ∧
    ∀ stop, (outline.region sibling).stop? = some stop → stop ≤ (outline.region id).start

/-- What holds of a region that is open inside `parent` when a scan has reached `position`. -/
structure Waiting (outline : Outline) (position parent id : Nat) : Prop extends
    Placed outline parent id where
  unended : (outline.region id).stop? = none
  kind : (outline.region id).kind.IsBracket ∨ (outline.region id).kind = .named
  started : (outline.region id).start < position

/-- The open regions of a scan that has reached `position`, from the inside out. -/
inductive Opened (outline : Outline) (position : Nat) : List Nat → Prop
  | nil : Opened outline position []
  | cons {id : Nat} {outer : List Nat} (around : Opened outline position outer)
      (waiting : Waiting outline position (outer.headD rootId) id) :
      Opened outline position (id :: outer)

/-- What holds of a region that `parent` lists when a scan has reached `position`. -/
structure Listed (outline : Outline) (position parent id : Nat) : Prop where
  known : id < outline.size
  linked : (outline.region id).parent? = some parent
  begins : parent ≠ rootId → (outline.region parent).start < (outline.region id).start
  ends : ∃ stop, (outline.region id).stop? = some stop ∧ (outline.region id).start < stop ∧
    stop ≤ position ∧ ∀ outer, (outline.region parent).stop? = some outer → stop < outer

/-- What holds of neighbours in a list of regions. The second begins in front of the end of the
first only if that end splits a break and the second is a bracket that went back to that line, and
then by one character. -/
structure Follows (outline : Outline) (first second : Nat) : Prop where
  later : first < second
  overlap : ∀ stop, (outline.region first).stop? = some stop →
    stop ≤ (outline.region second).start + 1 ∧
    ((outline.region second).start < stop ↔ outline.document.SplitsBreak stop ∧
      outline.document.lineOf (outline.region second).start = outline.document.lineOf stop ∧
      (outline.region second).kind.IsBracket)

/-- The invariant of the outline of a scan that has reached `position` with `opened` open. -/
structure Nested (outline : Outline) (position : Nat) (opened : List Nat) : Prop where
  positive : 0 < outline.size
  root : (outline.region rootId).stop? = none
  inside : position ≤ outline.document.length
  opened : Opened outline position opened
  listed : ∀ parent id, id ∈ (outline.region parent).children →
    Listed outline position parent id
  inOrder : ∀ parent, (outline.region parent).children.toList.IsChain (Follows outline)

namespace Opened

variable {outline : Outline} {position : Nat} {opened : List Nat}

theorem waiting_of_mem (valid : Opened outline position opened) :
    ∀ id ∈ opened, ∃ parent, Waiting outline position parent id := by
  induction valid with
  | nil => exact fun id member => absurd member List.not_mem_nil
  | cons around waiting ih =>
    intro id member
    rcases List.mem_cons.1 member with rfl | outer
    · exact ⟨_, waiting⟩
    · exact ih id outer

theorem le_head (valid : Opened outline position opened) :
    ∀ id ∈ opened, id ≤ opened.headD rootId := by
  induction valid with
  | nil => exact fun id member => absurd member List.not_mem_nil
  | cons around waiting ih =>
    intro id member
    rcases List.mem_cons.1 member with rfl | outer
    · exact Nat.le_refl _
    · exact Nat.le_trans (ih id outer) (Nat.le_of_lt waiting.later)

theorem headD_mem (opened : List Nat) :
    opened.headD rootId = rootId ∨ opened.headD rootId ∈ opened := by
  cases opened with
  | nil => exact Or.inl rfl
  | cons id outer => exact Or.inr List.mem_cons_self

theorem advance {further : Nat} (valid : Opened outline position opened)
    (forward : position ≤ further) : Opened outline further opened := by
  induction valid with
  | nil => exact .nil
  | cons around waiting ih =>
    exact .cons ih { waiting with started := Nat.lt_of_lt_of_le waiting.started forward }

/-- Open regions stay as they are when another outline agrees on them, on the lists of all of them
but the innermost, and on the ends of the regions in those lists. -/
theorem transfer {changed : Outline} {top : Nat} (valid : Opened outline position opened)
    (sized : outline.size ≤ changed.size) (text : changed.document = outline.document)
    (bounded : ∀ id ∈ opened, id ≤ top)
    (drafts : ∀ id, id = rootId ∨ id ∈ opened →
      (changed.region id).toDraft = (outline.region id).toDraft ∧
        (changed.region id).parent? = (outline.region id).parent?)
    (lists : ∀ id, id = rootId ∨ id ∈ opened → id < top →
      (changed.region id).children = (outline.region id).children ∧
        ∀ sibling ∈ (outline.region id).children,
          (changed.region sibling).stop? = (outline.region sibling).stop?) :
    Opened changed position opened := by
  induction valid with
  | nil => exact .nil
  | @cons id outer around waiting ih =>
    have inner := ih (fun other member => bounded other (List.mem_cons_of_mem id member))
      (fun other member => drafts other (member.imp_right (List.mem_cons_of_mem id)))
      (fun other member => lists other (member.imp_right (List.mem_cons_of_mem id)))
    have parent : outer.headD rootId = rootId ∨ outer.headD rootId ∈ id :: outer :=
      (headD_mem outer).imp_right (List.mem_cons_of_mem id)
    have below : outer.headD rootId < top :=
      Nat.lt_of_lt_of_le waiting.later (bounded id List.mem_cons_self)
    obtain ⟨draft, linked⟩ := drafts id (Or.inr List.mem_cons_self)
    obtain ⟨parentDraft, -⟩ := drafts _ parent
    obtain ⟨children, stops⟩ := lists _ parent below
    refine .cons inner ⟨⟨Nat.lt_of_lt_of_le waiting.known sized, waiting.later, ?_, ?_, ?_, ?_⟩,
      ?_, ?_, ?_⟩
    · rw [linked]
      exact waiting.linked
    · rw [draft, text]
      exact waiting.opener
    · rw [draft, parentDraft]
      exact waiting.begins
    · rw [draft, children]
      intro sibling member
      rw [stops sibling member]
      exact waiting.behind sibling member
    · rw [draft]
      exact waiting.unended
    · rw [draft]
      exact waiting.kind
    · rw [draft]
      exact waiting.started

end Opened

namespace Nested

variable {outline : Outline} {position : Nat} {opened : List Nat}

theorem blank (document : Document) : Nested (Outline.blank document) 0 [] := by
  have childless : ∀ parent, ((Outline.blank document).region parent).children = #[] := by
    intro parent
    cases parent with
    | zero => rfl
    | succ parent => rfl
  refine ⟨Nat.zero_lt_one, rfl, Nat.zero_le _, .nil, ?_, ?_⟩
  · intro parent id member
    rw [childless] at member
    exact absurd member (Array.not_mem_empty id)
  · intro parent
    rw [childless]
    exact List.IsChain.nil

theorem unended_of_open (nested : Nested outline position opened) {id : Nat}
    (isOpen : id = rootId ∨ id ∈ opened) : (outline.region id).stop? = none := by
  rcases isOpen with rfl | member
  · exact nested.root
  · obtain ⟨_, waiting⟩ := nested.opened.waiting_of_mem _ member
    exact waiting.unended

theorem lt_size_of_open (nested : Nested outline position opened) {id : Nat}
    (isOpen : id = rootId ∨ id ∈ opened) : id < outline.size := by
  rcases isOpen with rfl | member
  · exact nested.positive
  · obtain ⟨_, waiting⟩ := nested.opened.waiting_of_mem id member
    exact waiting.known

theorem not_mem_children (nested : Nested outline position opened) {id : Nat}
    (unended : (outline.region id).stop? = none) (parent : Nat) :
    id ∉ (outline.region parent).children := by
  intro member
  obtain ⟨stop, ended, -⟩ := (nested.listed parent id member).ends
  exact nomatch unended.symm.trans ended

theorem advance {further : Nat} (nested : Nested outline position opened)
    (forward : position ≤ further) (inside : further ≤ outline.document.length) :
    Nested outline further opened := by
  refine { nested with
    inside := inside
    opened := nested.opened.advance forward
    listed := ?_ }
  intro parent id member
  obtain ⟨stop, ended, filled, before, inParent⟩ := (nested.listed parent id member).ends
  exact { nested.listed parent id member with
    ends := ⟨stop, ended, filled, Nat.le_trans before forward, inParent⟩ }

end Nested

end Outline

end CodeFolding
