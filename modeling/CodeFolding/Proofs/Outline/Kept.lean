import CodeFolding.Proofs.Outline.Invariant

set_option autoImplicit false

namespace CodeFolding

namespace Outline

/-- What holds of a complete region inside `parent` that is in no list yet. -/
structure Ready (outline : Outline) (position parent id : Nat) : Prop extends
    Placed outline parent id where
  unlisted : ∀ other, id ∉ (outline.region other).children
  kind : (outline.region id).kind.IsBracket ∨ (outline.region id).kind = .named ∨
    (outline.region id).kind = .comment ∧ (outline.region id).children = #[]
  ends : ∃ stop, (outline.region id).stop? = some stop ∧ (outline.region id).start < stop ∧
    stop ≤ position

namespace Nested

variable {outline : Outline} {position further : Nat} {opened : List Nat} {draft : Draft}

/-- A region that starts at the position is placed inside the innermost open one. -/
theorem add_placed (nested : Nested outline position opened) (here : draft.start = position)
    (opener : draft.kind.IsBracket → outline.document.charAt? position ≠ some '\n') :
    Placed (outline.add draft (opened.headD rootId)) (opened.headD rootId) outline.size := by
  have parentKnown := nested.lt_size_of_open (Opened.headD_mem opened)
  have parentOld := outline.region_add_other draft (opened.headD rootId)
    (Nat.ne_of_lt parentKnown)
  have added := outline.region_add_self draft (opened.headD rootId)
  refine ⟨by rw [size_add]; omega, parentKnown, by rw [added], ?_, ?_, ?_⟩
  · rw [added, document_add]
    exact here ▸ opener
  · intro notRoot
    rw [added, parentOld]
    rcases Opened.headD_mem opened with root | member
    · exact absurd root notRoot
    · obtain ⟨_, waiting⟩ := nested.opened.waiting_of_mem _ member
      have started := waiting.started
      change _ < draft.start
      omega
  · intro sibling member
    rw [parentOld] at member
    have facts := nested.listed _ sibling member
    refine ⟨facts.known, ?_⟩
    rw [added, outline.region_add_other draft _ (Nat.ne_of_lt facts.known)]
    intro stop ended
    obtain ⟨last, same, -, before, -⟩ := facts.ends
    cases ended.symm.trans same
    change stop ≤ draft.start
    omega

theorem add (nested : Nested outline position opened) (draft : Draft) (parent : Nat) :
    Nested (outline.add draft parent) position opened := by
  have old : ∀ id, id < outline.size →
      (outline.add draft parent).region id = outline.region id :=
    fun id known => outline.region_add_other draft parent (Nat.ne_of_lt known)
  refine ⟨by rw [size_add]; omega, ?_, nested.inside, ?_, ?_, ?_⟩
  · rw [old rootId nested.positive]
    exact nested.root
  · refine nested.opened.transfer (by rw [size_add]; omega) rfl
      (fun id member => Nat.le_of_lt (nested.lt_size_of_open (Or.inr member))) ?_ ?_
    · intro id isOpen
      rw [old id (nested.lt_size_of_open isOpen)]
      exact ⟨rfl, rfl⟩
    · intro id isOpen _
      rw [old id (nested.lt_size_of_open isOpen)]
      refine ⟨rfl, ?_⟩
      intro sibling sibling_mem
      rw [old sibling (nested.listed id sibling sibling_mem).known]
  · intro other id member
    rw [children_add] at member
    have facts := nested.listed other id member
    have otherKnown := outline.lt_size_of_mem_children member
    refine ⟨by rw [size_add]; exact Nat.lt_succ_of_lt facts.known, ?_, ?_, ?_⟩
    · rw [old id facts.known]
      exact facts.linked
    · rw [old id facts.known, old other otherKnown]
      exact facts.begins
    · rw [old id facts.known, old other otherKnown]
      exact facts.ends
  · intro other
    rw [children_add]
    refine (nested.inOrder other).imp_of_mem_imp ?_
    intro first second firstMem secondMem follows
    rw [Array.mem_toList_iff] at firstMem secondMem
    refine ⟨follows.later, ?_⟩
    rw [old first (nested.listed other first firstMem).known,
      old second (nested.listed other second secondMem).known]
    exact follows.overlap

theorem start (nested : Nested outline position opened) (forward : position < further)
    (inside : further ≤ outline.document.length) (here : draft.start = position)
    (unended : draft.stop? = none) (kind : draft.kind.IsBracket ∨ draft.kind = .named)
    (opener : draft.kind.IsBracket → outline.document.charAt? position ≠ some '\n') :
    Nested (outline.add draft (opened.headD rootId)) further (outline.size :: opened) := by
  have added := outline.region_add_self draft (opened.headD rootId)
  have grown := (nested.add draft (opened.headD rootId)).advance (Nat.le_of_lt forward) inside
  refine { grown with opened := .cons grown.opened ⟨nested.add_placed here opener, ?_, ?_, ?_⟩ }
  · rw [added]
    exact unended
  · rw [added]
    exact kind
  · rw [added]
    change draft.start < further
    omega

theorem add_ready (nested : Nested outline position opened)
    (here : draft.start = position) (ended : draft.stop? = some further)
    (forward : position < further) (kind : draft.kind = .comment) :
    Ready (outline.add draft (opened.headD rootId)) further (opened.headD rootId)
      outline.size := by
  have added := outline.region_add_self draft (opened.headD rootId)
  have opener : draft.kind.IsBracket → outline.document.charAt? position ≠ some '\n' := by
    rw [kind]
    exact fun bracket => absurd bracket (by decide)
  refine ⟨nested.add_placed here opener, ?_, ?_, ?_⟩
  · intro other member
    rw [children_add] at member
    exact absurd (nested.listed other _ member).known (Nat.lt_irrefl _)
  · rw [added]
    exact Or.inr (Or.inr ⟨kind, rfl⟩)
  · rw [added]
    exact ⟨further, ended, by change draft.start < further; omega, Nat.le_refl _⟩

section Close

variable {id : Nat}

theorem region_close (nested : Nested outline position (id :: opened))
    (forward : position < further) :
    (outline.close id further).region id = { outline.region id with stop? := some further } := by
  obtain ⟨_, waiting⟩ := nested.opened.waiting_of_mem id List.mem_cons_self
  have started := waiting.started
  have known : id < outline.size := waiting.known
  rw [outline.region_close_self further known, Nat.max_eq_left (by omega)]

theorem children_close (nested : Nested outline position (id :: opened))
    (forward : position < further) (other : Nat) :
    ((outline.close id further).region other).children = (outline.region other).children := by
  by_cases same : other = id
  · rw [same, nested.region_close forward]
  · rw [outline.region_close_other further same]

/-- The listed regions are not touched when an open one is closed. -/
theorem region_close_listed (nested : Nested outline position (id :: opened)) {parent child : Nat}
    (member : child ∈ (outline.region parent).children) :
    (outline.close id further).region child = outline.region child := by
  apply outline.region_close_other
  rintro rfl
  exact nested.not_mem_children (nested.unended_of_open (Or.inr List.mem_cons_self)) parent member

theorem close (nested : Nested outline position (id :: opened)) (forward : position < further)
    (inside : further ≤ outline.document.length) :
    Nested (outline.close id further) further opened := by
  have closed := nested.region_close forward
  rcases nested.opened with _ | ⟨around, waiting⟩
  have outside : ∀ other, other = rootId ∨ other ∈ opened → other ≠ id := by
    rintro other (rfl | member)
    · exact Nat.ne_of_lt (Nat.zero_lt_of_lt waiting.later)
    · exact Nat.ne_of_lt (Nat.lt_of_le_of_lt (around.le_head other member) waiting.later)
  refine ⟨by rw [size_close]; exact nested.positive, ?_, inside, ?_, ?_, ?_⟩
  · rw [outline.region_close_other further (outside rootId (Or.inl rfl))]
    exact nested.root
  · refine (around.advance (Nat.le_of_lt forward)).transfer (Nat.le_of_eq (size_close ..).symm) rfl
      around.le_head ?_ ?_
    · intro other isOpen
      rw [outline.region_close_other further (outside other isOpen)]
      exact ⟨rfl, rfl⟩
    · intro other isOpen _
      rw [outline.region_close_other further (outside other isOpen)]
      refine ⟨rfl, ?_⟩
      intro sibling member
      rw [nested.region_close_listed member]
  · intro parent child member
    rw [nested.children_close forward] at member
    have facts := nested.listed parent child member
    obtain ⟨stop, ended, filled, before, inParent⟩ := facts.ends
    refine ⟨by rw [size_close]; exact facts.known, ?_, ?_, stop, ?_, ?_, by omega, ?_⟩
    · rw [nested.region_close_listed member]
      exact facts.linked
    · rw [nested.region_close_listed member]
      by_cases same : parent = id
      · rw [same, closed]
        exact same ▸ facts.begins
      · rw [outline.region_close_other further same]
        exact facts.begins
    · rw [nested.region_close_listed member]
      exact ended
    · rw [nested.region_close_listed member]
      exact filled
    · by_cases same : parent = id
      · rw [same, closed]
        rintro outer ⟨⟩
        omega
      · rw [outline.region_close_other further same]
        exact inParent
  · intro parent
    rw [nested.children_close forward]
    refine (nested.inOrder parent).imp_of_mem_imp ?_
    intro first second firstMem secondMem follows
    rw [Array.mem_toList_iff] at firstMem secondMem
    refine ⟨follows.later, ?_⟩
    rw [nested.region_close_listed firstMem, nested.region_close_listed secondMem]
    exact follows.overlap

theorem close_ready (nested : Nested outline position (id :: opened))
    (forward : position < further) :
    Ready (outline.close id further) further (opened.headD rootId) id := by
  have closed := nested.region_close forward
  rcases nested.opened with _ | ⟨around, waiting⟩
  have parentOld := outline.region_close_other further (Nat.ne_of_lt waiting.later)
  have started := waiting.started
  refine ⟨⟨by rw [size_close]; exact waiting.known, waiting.later, ?_, ?_, ?_, ?_⟩, ?_, ?_,
    further, ?_, ?_, Nat.le_refl _⟩
  · rw [closed]
    exact waiting.linked
  · rw [closed]
    exact waiting.opener
  · rw [closed, parentOld]
    exact waiting.begins
  · rw [closed, parentOld]
    intro sibling member
    rw [nested.region_close_listed member]
    exact waiting.behind sibling member
  · intro other member
    rw [nested.children_close forward] at member
    exact nested.not_mem_children waiting.unended other member
  · rw [closed]
    exact waiting.kind.imp_right Or.inl
  · rw [closed]
  · rw [closed]
    change (outline.region id).start < further
    omega

end Close

end Nested

end Outline

end CodeFolding
