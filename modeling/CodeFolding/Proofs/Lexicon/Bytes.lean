import CodeFolding.Proofs.Cursor.Traversal
import CodeFolding.Proofs.Lexicon
import CodeFolding.Proofs.Pattern.Backtrack
import Mathlib.Data.String.Basic

set_option autoImplicit false

namespace CodeFolding

namespace Utf8

def slice (text : String) (first last : Nat) : String :=
  String.Pos.Raw.extract text ⟨first⟩ ⟨last⟩

/-- How many bytes the first characters of a text take. -/
def bytes (text : String) (count : Nat) : Nat :=
  String.utf8Len (text.toList.take count)

/-- Whether an offset that counts bytes is between two characters, or at an end of the text. -/
def OnEdge (text : String) (byte : Nat) : Prop :=
  String.Pos.Raw.IsValid text ⟨byte⟩

theorem bytes_zero (text : String) : bytes text 0 = 0 := by
  rw [bytes, List.take_zero, String.utf8Len_nil]

theorem bytes_add (text : String) (first count : Nat) :
    bytes text (first + count) =
      bytes text first + String.utf8Len ((text.toList.drop first).take count) := by
  rw [bytes, bytes, List.take_add, String.utf8Len_append]

theorem onEdge_iff (text : String) (byte : Nat) :
    OnEdge text byte ↔ ∃ count ≤ text.length, bytes text count = byte := by
  rw [OnEdge, String.Pos.Raw.isValid_iff_exists_append]
  constructor
  · rintro ⟨front, back, rfl, same⟩
    refine ⟨front.length, ?_, ?_⟩
    · rw [String.length_append]
      exact Nat.le_add_right _ _
    · rw [bytes, String.toList_append, ← String.length_toList, List.take_left,
        String.utf8Len_toList]
      exact (congrArg String.Pos.Raw.byteIdx same).symm
  · rintro ⟨count, -, rfl⟩
    refine ⟨String.ofList (text.toList.take count), String.ofList (text.toList.drop count), ?_, ?_⟩
    · rw [← String.ofList_append, List.take_append_drop, String.ofList_toList]
    · rw [String.rawEndPos_ofList, bytes]

theorem lt_bytes {text : String} {first last : Nat} (before : first < last)
    (inside : last ≤ text.length) : bytes text first < bytes text last := by
  obtain ⟨count, rfl⟩ := Nat.exists_eq_add_of_lt before
  have some : (text.toList.drop first).take (count + 1) ≠ [] := by
    intro none
    have length := congrArg List.length none
    rw [List.length_take, List.length_drop, String.length_toList, List.length_nil] at length
    omega
  have positive : String.utf8Len ((text.toList.drop first).take (count + 1)) ≠ 0 := by
    rw [Ne, String.utf8Len_eq_zero]
    exact some
  rw [Nat.add_assoc, bytes_add]
  omega

theorem bytes_le_iff {text : String} {first last : Nat} (one : first ≤ text.length)
    (two : last ≤ text.length) : bytes text first ≤ bytes text last ↔ first ≤ last := by
  constructor
  · intro before
    apply Nat.le_of_not_lt
    intro behind
    have less := lt_bytes behind one
    omega
  · intro before
    rcases Nat.lt_or_eq_of_le before with less | rfl
    · exact Nat.le_of_lt (lt_bytes less two)
    · exact Nat.le_refl _

/-- Between bytes at the edges of characters stand the characters in between. -/
theorem slice_bytes {text : String} {first last : Nat} (before : first ≤ last) :
    slice text (bytes text first) (bytes text last) =
      String.ofList ((text.toList.drop first).take (last - first)) := by
  have parts : text = String.ofList (text.toList.take first ++
      (text.toList.drop first).take (last - first) ++ text.toList.drop last) := by
    have front : text.toList.take first ++ (text.toList.drop first).take (last - first) =
        text.toList.take last := by
      rw [← List.take_add, Nat.add_sub_cancel' before]
    rw [front, List.take_append_drop, String.ofList_toList]
  have stop : bytes text last = String.utf8Len (text.toList.take first) +
      String.utf8Len ((text.toList.drop first).take (last - first)) := by
    rw [← Nat.add_sub_cancel' before, bytes_add, Nat.add_sub_cancel' before, bytes]
  rw [slice, stop, bytes]
  have found := String.extract_of_valid (text.toList.take first)
    ((text.toList.drop first).take (last - first)) (text.toList.drop last)
  rw [← parts] at found
  exact found

theorem length_slice_bytes {text : String} {first last : Nat} (before : first ≤ last)
    (inside : last ≤ text.length) :
    (slice text (bytes text first) (bytes text last)).length = last - first := by
  rw [slice_bytes before, String.length_ofList, List.length_take, List.length_drop,
    String.length_toList]
  omega

/-- In front of a byte at the edge of a character are the characters that take the bytes. -/
theorem length_slice_zero {text : String} {count : Nat} (inside : count ≤ text.length) :
    (slice text 0 (bytes text count)).length = count := by
  have counted := length_slice_bytes (Nat.zero_le count) inside
  rwa [bytes_zero] at counted

end Utf8

theorem Document.length_ofString (text : String) :
    (Document.ofString text).length = text.length := by
  rw [ofString, length_ofChars, List.size_toArray, String.length_toList]

namespace Token

/-- Tokens of a text that stand one behind the other are all walked, in the order in which they are
given. -/
theorem Spaced.arrange_eq {tokens : List Token} (spaced : Spaced tokens) {length : Nat}
    (within : ∀ token ∈ tokens, token.stop ≤ length) : arrange length tokens = tokens := by
  have sorted : tokens.Pairwise fun left right => left.toSpan.le right.toSpan = true := by
    refine spaced.apart.imp_of_mem ?_
    intro left right isLeft _ behind
    have filled := spaced.filled left isLeft
    simp only [Span.le, Bool.or_eq_true, Bool.and_eq_true, beq_iff_eq, decide_eq_true_eq]
    omega
  rw [arrange_of_sorted length sorted]
  -- Whatever is covered so far, all tokens begin behind it.
  suffices all : ∀ covered, (∀ token ∈ tokens, covered ≤ token.start) →
      select length covered tokens = tokens from all 0 fun _ _ => Nat.zero_le _
  clear sorted
  induction tokens with
  | nil => exact fun _ _ => rfl
  | cons first rest ih =>
    intro covered behind
    obtain ⟨apart, further⟩ := List.pairwise_cons.1 spaced.apart
    have filled := spaced.filled first List.mem_cons_self
    have inside := within first List.mem_cons_self
    have begins := behind first List.mem_cons_self
    rw [select, if_neg, ih ⟨fun token member => spaced.filled token
      (List.mem_cons_of_mem first member), further⟩ (fun token member => within token
      (List.mem_cons_of_mem first member)) first.stop apart]
    simp only [Span.isEmpty, Bool.or_eq_true, beq_iff_eq, decide_eq_true_eq, not_or]
    omega

end Token

namespace Cursor

theorem document_of_mem_visits {document : Document} {tokens : List Token} {cursor : Cursor}
    (isVisit : cursor ∈ (ofTokens document tokens).visits) : cursor.document = document :=
  visits_induction (fun cursor => cursor.document = document)
    (fun _ _ same moved => (document_of_advance? moved).trans same) _
    (ofTokens_document document tokens) cursor isVisit

/-- A cursor that walks all tokens it was made from comes by the beginning of each of them, and has
it as the current token there. -/
theorem exists_visit {document : Document} {tokens : List Token} (spaced : Token.Spaced tokens)
    (within : ∀ token ∈ tokens, token.stop ≤ document.length) {token : Token}
    (member : token ∈ tokens) : ∃ cursor ∈ (ofTokens document tokens).visits,
      cursor.position = token.start ∧ cursor.token? = some token := by
  have ordered : Token.Ordered tokens := fun other isToken =>
    Nat.le_of_lt (spaced.filled other isToken)
  have kept := spaced.arrange_eq within
  have first := Travels.ofTokens document ordered
  rw [kept] at first
  have filled := spaced.filled token member
  have inside := within token member
  have reached : Token.isJumped tokens token.start = false := by
    apply Bool.eq_false_iff.2
    intro jumped
    obtain ⟨other, isToken, -, before, behind⟩ := (Token.isJumped_iff ..).1 jumped
    have same := spaced.eq_of_overlap isToken member (by omega) behind
    rw [same] at before
    exact Nat.lt_irrefl _ before
  have comes : token.start ∈ (ofTokens document tokens).visits.map position := by
    have start : (ofTokens document tokens).position = 0 := settle_position ..
    rw [first.positions_visits spaced, start, Nat.sub_zero, ← List.range_eq_range',
      List.mem_append, List.mem_filter, List.mem_range, reached]
    exact Or.inl ⟨by omega, rfl⟩
  obtain ⟨cursor, isVisit, here⟩ := List.mem_map.1 comes
  have travels := visits_induction (Travels document tokens tokens)
    (fun _ _ travels moved => travels.advance spaced moved) _ first cursor isVisit
  refine ⟨cursor, isVisit, here, (travels.walks.current_iff token).2 ?_⟩
  exact ⟨member, by omega, by omega⟩

end Cursor

namespace Plan

theorem matchAmong_start_lt {plan : Plan} {input : Array Char} {found : Match}
    (count position : Nat) (yields : (plan.matchAmong input count position).Yields found) :
    found.start < position + count := by
  induction count generalizing position with
  | zero => exact absurd yields not_yields_failure
  | succ count ih =>
    unfold matchAmong at yields
    rcases yields_orElse yields with here | later
    · obtain ⟨-, start⟩ := matchAt_fits here
      omega
    · have start := ih (position + 1) later
      omega

theorem searchFrom?_within {plan : Plan} {input : Array Char} {found : Match} {position : Nat}
    (search : plan.searchFrom? input position = some found) :
    position ≤ found.start ∧ found.start ≤ found.stop ∧ found.stop ≤ input.size := by
  obtain ⟨fits, behind⟩ := searchFrom?_fits search
  have start := matchAmong_start_lt _ _ ⟨∅, search⟩
  exact ⟨behind, fits.position_le, fits.position_le_size (by dsimp only; omega)⟩

/-- The matches from a position on lie in the text, one behind the other. -/
theorem matchesFrom_apart (plan : Plan) (input : Array Char) (position : Nat) (touching : Bool) :
    (∀ found ∈ plan.matchesFrom input position touching,
      position ≤ found.start ∧ found.start ≤ found.stop ∧ found.stop ≤ input.size) ∧
    (plan.matchesFrom input position touching).Pairwise fun left right =>
      left.stop ≤ right.start := by
  induction left : input.size + 1 - position using Nat.strongRecOn
    generalizing position touching with
  | ind left ih =>
    unfold matchesFrom
    split
    · exact ⟨fun found member => absurd member List.not_mem_nil, List.Pairwise.nil⟩
    · rename_i first search
      obtain ⟨begins, forward, within⟩ := searchFrom?_within search
      have behind : first.stop ≤ first.behind := by
        unfold Match.behind
        split <;> omega
      have further : ∀ rest, rest = (if position < first.behind ∧ position ≤ input.size then
          matchesFrom plan input first.behind (!first.isEmpty) else []) →
          (∀ found ∈ rest, first.behind ≤ found.start ∧ found.start ≤ found.stop ∧
            found.stop ≤ input.size) ∧
          rest.Pairwise fun left right => left.stop ≤ right.start := by
        rintro rest rfl
        split
        · rename_i moves
          exact ih (input.size + 1 - first.behind) (by omega) _ _ rfl
        · exact ⟨fun found member => absurd member List.not_mem_nil, List.Pairwise.nil⟩
      obtain ⟨facts, apart⟩ := further _ rfl
      dsimp only
      split
      · refine ⟨fun found member => ?_, apart⟩
        obtain ⟨later, ordered, inside⟩ := facts found member
        exact ⟨by omega, ordered, inside⟩
      · refine ⟨fun found member => ?_, List.Pairwise.cons ?_ apart⟩
        · rcases List.mem_cons.1 member with rfl | isRest
          · exact ⟨begins, forward, within⟩
          · obtain ⟨later, ordered, inside⟩ := facts found isRest
            exact ⟨by omega, ordered, inside⟩
        · intro found member
          obtain ⟨later, -⟩ := facts found member
          omega

/-- A match with its bounds counted in bytes. -/
def Match.inBytes (text : String) (found : Match) : Match where
  start := Utf8.bytes text found.start
  stop := Utf8.bytes text found.stop
  groups := found.groups.map fun entry =>
    (entry.1, ⟨Utf8.bytes text entry.2.start, Utf8.bytes text entry.2.stop⟩)

/-- All matches in a text from left to right, with their bounds counted in bytes. -/
def reports (plan : Plan) (text : String) : List Match :=
  (plan.allMatches text.toList.toArray).map (Match.inBytes text)

theorem Match.isSome_group?_inBytes (text : String) (found : Match) (index : Nat) :
    ((found.inBytes text).group? index).isSome = (found.group? index).isSome := by
  unfold group? inBytes
  dsimp only
  induction found.groups with
  | nil => rfl
  | cons entry rest ih =>
    rw [List.map_cons, List.lookup_cons, List.lookup_cons]
    split
    · rfl
    · exact ih

end Plan

namespace Lexicon

/-- The tokens of matches whose bounds count bytes. In front of `byte` there are `offset`
characters; those up to the next token are counted when it comes. -/
def tokensBehind (lexicon : Lexicon) (keywords : List String) (text : String) (byte offset : Nat) :
    List Plan.Match → List Token
  | [] => []
  | found :: rest =>
    if found.isEmpty then tokensBehind lexicon keywords text byte offset rest
    else match lexicon.kindOf? found with
      | none => tokensBehind lexicon keywords text byte offset rest
      | some kind =>
        let matched := Utf8.slice text found.start found.stop
        let start := offset + (Utf8.slice text byte found.start).length
        let stop := start + matched.length
        ⟨Span.ordered start stop, refine keywords matched kind⟩ ::
          tokensBehind lexicon keywords text found.stop stop rest

/-- What an engine that searches in UTF-8 promises of its matches: their bounds are between
characters and in order, and no match begins in front of the end of an earlier one. -/
structure Successive (text : String) (found : List Plan.Match) : Prop where
  onEdges : ∀ one ∈ found, Utf8.OnEdge text one.start ∧ Utf8.OnEdge text one.stop
  forward : ∀ one ∈ found, one.start ≤ one.stop
  apart : found.Pairwise fun left right => left.stop ≤ right.start

/-- The token of a match whose bounds count bytes, with the characters in front of its bounds
counted from the beginning of the text. -/
def placed? (lexicon : Lexicon) (keywords : List String) (text : String) (found : Plan.Match) :
    Option Token :=
  if found.isEmpty then none
  else (lexicon.kindOf? found).map fun kind =>
    ⟨⟨(Utf8.slice text 0 found.start).length, (Utf8.slice text 0 found.stop).length⟩,
      refine keywords (Utf8.slice text found.start found.stop) kind⟩

variable {lexicon : Lexicon} {keywords : List String} {text : String}

/-- Counting from token to token gives the same as counting from the beginning of the text. -/
theorem tokensBehind_eq_filterMap (lexicon : Lexicon) (keywords : List String)
    {found : List Plan.Match} (successive : Successive text found) {offset : Nat}
    (known : offset ≤ text.length)
    (behind : ∀ one ∈ found, Utf8.bytes text offset ≤ one.start) :
    lexicon.tokensBehind keywords text (Utf8.bytes text offset) offset found =
      found.filterMap (lexicon.placed? keywords text) := by
  induction found generalizing offset with
  | nil => rfl
  | cons first rest ih =>
    obtain ⟨apart, restApart⟩ := List.pairwise_cons.1 successive.apart
    have further : Successive text rest :=
      ⟨fun one member => successive.onEdges one (List.mem_cons_of_mem first member),
        fun one member => successive.forward one (List.mem_cons_of_mem first member), restApart⟩
    have restBehind : ∀ one ∈ rest, Utf8.bytes text offset ≤ one.start := fun one member =>
      behind one (List.mem_cons_of_mem first member)
    unfold tokensBehind
    split
    · rename_i isEmpty
      rw [ih further known restBehind, List.filterMap_cons_none (by rw [placed?, if_pos isEmpty])]
    · rename_i filled
      split
      · rename_i none
        rw [ih further known restBehind,
          List.filterMap_cons_none (by rw [placed?, if_neg filled, none]; rfl)]
      · rename_i kind kindOf
        obtain ⟨startEdge, stopEdge⟩ := successive.onEdges first List.mem_cons_self
        obtain ⟨start, startKnown, startBytes⟩ := (Utf8.onEdge_iff ..).1 startEdge
        obtain ⟨stop, stopKnown, stopBytes⟩ := (Utf8.onEdge_iff ..).1 stopEdge
        have inOrder := successive.forward first List.mem_cons_self
        have begins := behind first List.mem_cons_self
        rw [← startBytes, ← stopBytes, Utf8.bytes_le_iff startKnown stopKnown] at inOrder
        rw [← startBytes, Utf8.bytes_le_iff known startKnown] at begins
        -- The characters in front of either bound, however they are counted.
        have toStart : offset + (Utf8.slice text (Utf8.bytes text offset) first.start).length =
            start := by
          rw [← startBytes, Utf8.length_slice_bytes begins startKnown]
          omega
        have toStop : start + (Utf8.slice text first.start first.stop).length = stop := by
          rw [← startBytes, ← stopBytes, Utf8.length_slice_bytes inOrder stopKnown]
          omega
        have place : lexicon.placed? keywords text first = some ⟨⟨start, stop⟩,
            refine keywords (Utf8.slice text first.start first.stop) kind⟩ := by
          rw [placed?, if_neg filled, kindOf, Option.map_some, ← startBytes, ← stopBytes,
            Utf8.length_slice_zero startKnown, Utf8.length_slice_zero stopKnown]
        rw [List.filterMap_cons_some place]
        dsimp only
        rw [toStart, toStop, Span.ordered_of_le _ _ inOrder, ← stopBytes,
          ih further stopKnown fun one member => stopBytes ▸ apart one member, stopBytes]

theorem tokensBehind_zero (lexicon : Lexicon) (keywords : List String) {found : List Plan.Match}
    (successive : Successive text found) : lexicon.tokensBehind keywords text 0 0 found =
      found.filterMap (lexicon.placed? keywords text) := by
  have behind : ∀ one ∈ found, Utf8.bytes text 0 ≤ one.start := by
    intro one _
    rw [Utf8.bytes_zero]
    exact Nat.zero_le _
  have counted := tokensBehind_eq_filterMap lexicon keywords successive (Nat.zero_le _) behind
  rwa [Utf8.bytes_zero] at counted

/-- A match of which a token is made: it is not empty, and the group around some rule takes part. -/
def isToken (lexicon : Lexicon) (found : Plan.Match) : Bool :=
  !found.isEmpty && (lexicon.kindOf? found).isSome

/-- A cursor that walks `tokens` reads one of them, `token`, as the text `matched`. -/
structure Reads (document : Document) (tokens : List Token) (token : Token) (matched : String) :
    Prop where
  slice_eq : document.slice token.toSpan = matched
  visited : ∃ cursor ∈ (Cursor.ofTokens document tokens).visits,
    cursor.position = token.start ∧ cursor.token? = some token
  text_eq : ∀ cursor ∈ (Cursor.ofTokens document tokens).visits, cursor.token? = some token →
    cursor.text? = some matched

/-- How tokens fit a cursor through their text: all of them are walked, in their order, and each of
them is read as what the match says that it was made of. -/
structure FitsCursor (lexicon : Lexicon) (text : String) (found : List Plan.Match)
    (tokens : List Token) : Prop where
  filled : ∀ token ∈ tokens, token.start < token.stop
  within : ∀ token ∈ tokens, token.stop ≤ text.length
  increasing : tokens.Pairwise fun left right => left.start < right.start
  apart : tokens.Pairwise fun left right => left.stop ≤ right.start
  kept : Token.arrange (Document.ofString text).length tokens = tokens
  matched : List.Forall₂
    (fun token one =>
      Reads (Document.ofString text) tokens token (Utf8.slice text one.start one.stop))
    tokens (found.filter lexicon.isToken)

/-- The characters of a token take the bytes of its match. -/
structure Places (text : String) (found : Plan.Match) (token : Token) : Prop where
  start_eq : Utf8.bytes text token.start = found.start
  stop_eq : Utf8.bytes text token.stop = found.stop
  filled : token.start < token.stop
  within : token.stop ≤ text.length

theorem placed?_places {found : Plan.Match} {token : Token}
    (edges : Utf8.OnEdge text found.start ∧ Utf8.OnEdge text found.stop)
    (forward : found.start ≤ found.stop)
    (made : lexicon.placed? keywords text found = some token) : Places text found token := by
  obtain ⟨start, startKnown, startBytes⟩ := (Utf8.onEdge_iff ..).1 edges.1
  obtain ⟨stop, stopKnown, stopBytes⟩ := (Utf8.onEdge_iff ..).1 edges.2
  unfold placed? at made
  split at made
  · exact nomatch made
  · rename_i filled
    obtain ⟨kind, -, rfl⟩ := Option.map_eq_some_iff.1 made
    have different : start ≠ stop := by
      rintro rfl
      rw [Span.isEmpty, ← startBytes, ← stopBytes, beq_self_eq_true] at filled
      exact filled rfl
    rw [← startBytes, ← stopBytes, Utf8.bytes_le_iff startKnown stopKnown] at forward
    have starts := Utf8.length_slice_zero startKnown
    have stops := Utf8.length_slice_zero stopKnown
    rw [startBytes] at starts
    rw [stopBytes] at stops
    refine ⟨?_, ?_, ?_, ?_⟩
    · dsimp only
      rw [starts, startBytes]
    · dsimp only
      rw [stops, stopBytes]
    · dsimp only
      omega
    · dsimp only
      omega

theorem Places.slice_eq {found : Plan.Match} {token : Token} (places : Places text found token) :
    (Document.ofString text).slice token.toSpan = Utf8.slice text found.start found.stop := by
  have filled := places.filled
  have within := places.within
  rw [← places.start_eq, ← places.stop_eq, Utf8.slice_bytes (Nat.le_of_lt filled), Document.slice,
    Document.extract]
  rw [Document.length_ofString, Nat.min_eq_left within, Nat.min_eq_left (Nat.le_of_lt filled)]
  rw [Document.ofString, Document.chars_ofChars, List.extract_toArray, List.extract_eq_take_drop]

theorem Successive.places {found : List Plan.Match} (successive : Successive text found)
    {one : Plan.Match} (member : one ∈ found) {token : Token}
    (made : lexicon.placed? keywords text one = some token) : Places text one token :=
  placed?_places (successive.onEdges one member) (successive.forward one member) made

theorem spaced_of_successive (lexicon : Lexicon) (keywords : List String)
    {found : List Plan.Match} (successive : Successive text found) :
    Token.Spaced (found.filterMap (lexicon.placed? keywords text)) := by
  constructor
  · intro token member
    obtain ⟨one, isMatch, made⟩ := List.mem_filterMap.1 member
    exact (successive.places isMatch made).filled
  · rw [List.pairwise_filterMap]
    refine successive.apart.imp_of_mem ?_
    intro left right isLeft isRight behind first madeFirst second madeSecond
    have one := successive.places isLeft madeFirst
    have two := successive.places isRight madeSecond
    have ends := two.filled
    have inside := two.within
    rw [← one.stop_eq, ← two.start_eq, Utf8.bytes_le_iff one.within (by omega)] at behind
    exact behind

theorem forall₂_placed {holds : Token → Plan.Match → Prop} {found : List Plan.Match}
    (each : ∀ one ∈ found, ∀ token, lexicon.placed? keywords text one = some token →
      holds token one) :
    List.Forall₂ holds (found.filterMap (lexicon.placed? keywords text))
      (found.filter lexicon.isToken) := by
  induction found with
  | nil => exact List.Forall₂.nil
  | cons first rest ih =>
    have further := ih fun one member => each one (List.mem_cons_of_mem first member)
    have made : lexicon.isToken first = (lexicon.placed? keywords text first).isSome := by
      unfold isToken placed?
      split
      · rename_i isEmpty
        rw [isEmpty]
        rfl
      · rename_i filled
        rw [Bool.not_eq_true] at filled
        rw [filled, Option.isSome_map]
        rfl
    cases place : lexicon.placed? keywords text first with
    | none =>
      rw [place, Option.isSome_none] at made
      rw [List.filterMap_cons_none place, List.filter_cons_of_neg (by rw [made]; decide)]
      exact further
    | some token =>
      rw [place, Option.isSome_some] at made
      rw [List.filterMap_cons_some place, List.filter_cons_of_pos made]
      exact List.Forall₂.cons (each first List.mem_cons_self token place) further

/-- Whatever matches an engine reports, one behind the other, the tokens made of them fit a cursor
through the text. -/
theorem fitsCursor_of_successive {found : List Plan.Match} (successive : Successive text found) :
    FitsCursor lexicon text found (lexicon.tokensBehind keywords text 0 0 found) := by
  rw [tokensBehind_zero lexicon keywords successive]
  have spaced := spaced_of_successive lexicon keywords successive
  have within : ∀ token ∈ found.filterMap (lexicon.placed? keywords text),
      token.stop ≤ text.length := by
    intro token member
    obtain ⟨one, isMatch, made⟩ := List.mem_filterMap.1 member
    exact (successive.places isMatch made).within
  have inDocument := within
  rw [← Document.length_ofString] at inDocument
  refine ⟨spaced.filled, within, ?_, spaced.apart, spaced.arrange_eq inDocument, ?_⟩
  · refine spaced.apart.imp_of_mem ?_
    intro left right isLeft _ behind
    have filled := spaced.filled left isLeft
    omega
  · refine forall₂_placed fun one isMatch token made => ?_
    have slice := (successive.places isMatch made).slice_eq
    refine ⟨slice, Cursor.exists_visit spaced inDocument
      (List.mem_filterMap.2 ⟨one, isMatch, made⟩), ?_⟩
    intro cursor isVisit current
    rw [Cursor.text?, current, Cursor.document_of_mem_visits isVisit, Option.map_some, slice]

theorem kindOf?_inBytes (lexicon : Lexicon) (text : String) (found : Plan.Match) :
    lexicon.kindOf? (found.inBytes text) = lexicon.kindOf? found := by
  unfold kindOf?
  simp only [Plan.Match.isSome_group?_inBytes]

/-- The matches of a search, with their bounds counted in bytes, are such matches. -/
theorem reports_successive (plan : Plan) (text : String) :
    Successive text (plan.reports text) := by
  obtain ⟨inside, apart⟩ := plan.matchesFrom_apart text.toList.toArray 0 false
  rw [List.size_toArray, String.length_toList] at inside
  refine ⟨?_, ?_, ?_⟩
  · intro one member
    obtain ⟨found, isMatch, rfl⟩ := List.mem_map.1 member
    obtain ⟨-, forward, stop⟩ := inside found isMatch
    exact ⟨(Utf8.onEdge_iff ..).2 ⟨found.start, by omega, rfl⟩,
      (Utf8.onEdge_iff ..).2 ⟨found.stop, stop, rfl⟩⟩
  · intro one member
    obtain ⟨found, isMatch, rfl⟩ := List.mem_map.1 member
    obtain ⟨-, forward, stop⟩ := inside found isMatch
    exact (Utf8.bytes_le_iff (by omega) stop).2 forward
  · refine List.pairwise_map.2 (apart.imp_of_mem ?_)
    intro left right isLeft isRight behind
    obtain ⟨-, -, leftStop⟩ := inside left isLeft
    obtain ⟨-, forward, rightStop⟩ := inside right isRight
    exact (Utf8.bytes_le_iff leftStop (by omega)).2 behind

/-- Counted in characters or in bytes, a match makes the same token. -/
theorem placed?_inBytes {found : Plan.Match} (forward : found.start ≤ found.stop)
    (inside : found.stop ≤ text.length) :
    lexicon.placed? keywords text (found.inBytes text) =
      lexicon.token? keywords text.toList.toArray found := by
  have isEmpty : (found.inBytes text).isEmpty = found.isEmpty := by
    rw [Bool.eq_iff_iff]
    simp only [Span.isEmpty, Plan.Match.inBytes, beq_iff_eq]
    refine ⟨fun same => ?_, fun same => by rw [same]⟩
    have back := (Utf8.bytes_le_iff inside (Nat.le_trans forward inside)).1 (Nat.le_of_eq same.symm)
    omega
  unfold placed? token?
  rw [isEmpty, kindOf?_inBytes]
  split
  · rfl
  · have matched : Utf8.slice text (found.inBytes text).start (found.inBytes text).stop =
        String.ofList (text.toList.toArray.extract found.start found.stop).toList := by
      rw [List.extract_toArray, List.extract_eq_take_drop]
      exact Utf8.slice_bytes forward
    rw [matched]
    congr 1
    funext kind
    have start : (Utf8.slice text 0 (found.inBytes text).start).length = found.start :=
      Utf8.length_slice_zero (Nat.le_trans forward inside)
    have stop : (Utf8.slice text 0 (found.inBytes text).stop).length = found.stop :=
      Utf8.length_slice_zero inside
    rw [start, stop]

/-- Tokens fit a cursor through their text, whatever successive matches an engine reports; the
matches of a search are such ones, and the tokens made of them are those of the lexicon. -/
theorem classify_fitsCursor (lexicon : Lexicon) (keywords : List String) (text : String) :
    (∀ found, Successive text found →
      FitsCursor lexicon text found (lexicon.tokensBehind keywords text 0 0 found)) ∧
    Successive text (lexicon.scanner.reports text) ∧
    lexicon.tokensBehind keywords text 0 0 (lexicon.scanner.reports text) =
      lexicon.classify keywords (Document.ofString text).chars := by
  refine ⟨fun found => fitsCursor_of_successive, reports_successive _ text, ?_⟩
  rw [tokensBehind_zero lexicon keywords (reports_successive _ text), Plan.reports,
    List.filterMap_map]
  refine List.filterMap_congr fun found isMatch => ?_
  obtain ⟨-, forward, inside⟩ :=
    (lexicon.scanner.matchesFrom_apart text.toList.toArray 0 false).1 found isMatch
  rw [List.size_toArray, String.length_toList] at inside
  exact placed?_inBytes forward inside

-- Two letters of two bytes each and one of three; the empty match in between makes no token.
example : (Lexicon.mk .empty [(1, .identifier), (2, .number)]).tokensBehind ["€ö"] "äb €ö" 0 0
    [⟨⟨0, 2⟩, [(1, ⟨0, 2⟩)]⟩, ⟨⟨3, 3⟩, [(2, ⟨3, 3⟩)]⟩, ⟨⟨4, 9⟩, [(1, ⟨4, 9⟩)]⟩] =
    [⟨⟨0, 1⟩, .identifier⟩, ⟨⟨3, 5⟩, .keyword⟩] := by
  decide +kernel

end Lexicon

end CodeFolding
