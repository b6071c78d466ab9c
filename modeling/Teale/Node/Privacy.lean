import Mathlib.Data.List.Sort
import Mathlib.Logic.Function.Basic

/-!
# The privacy filter

What is detected in a message is replaced by placeholders before the message leaves for a remote
device.
-/

namespace Teale.Node

abbrev Text := List Char

structure PrivacyDetectedSpan where
  label : Text
  start : ℕ
  stop : ℕ
  text : Text

structure PlaceholderPlanner where
  placeholderBySemanticKey : List (Text × Text) := []
  placeholderMap : List (Text × Text) := []
  nextIndexByPrefix : Text → ℕ := fun _ => 0

def placeholderPrefix (label : Text) : Text :=
  match String.ofList label with
  | "private_person" => "PRIVATE_PERSON".toList
  | "private_email" => "PRIVATE_EMAIL".toList
  | "private_phone" => "PRIVATE_PHONE".toList
  | "private_date" => "PRIVATE_DATE".toList
  | "private_url" => "PRIVATE_URL".toList
  | "private_address" => "PRIVATE_ADDRESS".toList
  | "account_number" => "PRIVATE_ACCOUNT_NUMBER".toList
  | "secret" => "SECRET".toList
  | _ =>
    let normalized := (label.map Char.toUpper).map fun char =>
      if char = '-' ∨ char = ' ' then '_' else char
    if normalized.isEmpty then "REDACTED".toList else normalized

def placeholderName (stem : Text) (number : ℕ) : Text :=
  '<' :: (stem ++ '_' :: Nat.toDigits 10 number ++ ['>'])

def unitSeparator : Char := Char.ofNat 31

def semanticKey (span : PrivacyDetectedSpan) : Text := span.label ++ unitSeparator :: span.text

namespace PlaceholderPlanner

/-- The placeholder of a span: the one its label and text have already, or a new one. -/
def placeholder (planner : PlaceholderPlanner) (span : PrivacyDetectedSpan) :
    PlaceholderPlanner × Text :=
  let key := semanticKey span
  match planner.placeholderBySemanticKey.lookup key with
  | some existing => (planner, existing)
  | none =>
    let stem := placeholderPrefix span.label
    let next := planner.nextIndexByPrefix stem + 1
    let name := placeholderName stem next
    ({ placeholderBySemanticKey := (key, name) :: planner.placeholderBySemanticKey
       placeholderMap := (name, span.text) :: planner.placeholderMap
       nextIndexByPrefix := Function.update planner.nextIndexByPrefix stem next }, name)

end PlaceholderPlanner

/-- What `replace_spans` pushes to its result. -/
inductive Part
  | copied (start stop : ℕ)
  | replaced (name : Text)
  deriving DecidableEq

def Part.written (text : Text) : Part → Text
  | copied start stop => (text.take stop).drop start
  | replaced name => name

namespace PlaceholderPlanner

/-- The loop of `replace_spans`. An offset has a byte index unless it is past the end, and byte
indices grow with the offsets. -/
def replaceSpansFrom (text : Text) :
    PlaceholderPlanner → ℕ → List PrivacyDetectedSpan → PlaceholderPlanner × List Part
  | planner, cursor, [] => (planner, [.copied cursor text.length])
  | planner, cursor, span :: rest =>
    if span.start < cursor ∨ span.stop < span.start ∨ text.length < span.stop then
      replaceSpansFrom text planner cursor rest
    else
      let named := planner.placeholder span
      let later := replaceSpansFrom text named.1 span.stop rest
      (later.1, .copied cursor span.start :: .replaced named.2 :: later.2)

def sorted (spans : List PrivacyDetectedSpan) : List PrivacyDetectedSpan :=
  spans.insertionSort fun left right =>
    left.start < right.start ∨ left.start = right.start ∧ left.stop ≤ right.stop

def replaceParts (planner : PlaceholderPlanner) (text : Text) (spans : List PrivacyDetectedSpan) :
    PlaceholderPlanner × List Part :=
  planner.replaceSpansFrom text 0 (sorted spans)

def replaceSpans (planner : PlaceholderPlanner) (text : Text) (spans : List PrivacyDetectedSpan) :
    PlaceholderPlanner × Text :=
  let parts := planner.replaceParts text spans
  (parts.1, parts.2.flatMap (Part.written text))

/-- The loop of `prepare_request` over the messages, with the spans detected in each. -/
def prepareMessages : PlaceholderPlanner → List (Text × List PrivacyDetectedSpan) →
    PlaceholderPlanner × List Text
  | planner, [] => (planner, [])
  | planner, (content, spans) :: rest =>
    let sent := if content.isEmpty || spans.isEmpty then (planner, content)
      else planner.replaceSpans content spans
    let later := prepareMessages sent.1 rest
    (later.1, sent.2 :: later.2)

end PlaceholderPlanner

open PlaceholderPlanner List

variable {planner : PlaceholderPlanner} {text : Text} {spans : List PrivacyDetectedSpan}
  {span : PrivacyDetectedSpan} {cursor position : ℕ}

theorem mem_sorted : span ∈ sorted spans ↔ span ∈ spans :=
  (perm_insertionSort _ _).mem_iff

/-! ## What is copied -/

def Covered (spans : List PrivacyDetectedSpan) (position : ℕ) : Prop :=
  ∃ span ∈ spans, span.start ≤ position ∧ position < span.stop

def CopiedAt (parts : List Part) (position : ℕ) : Prop :=
  ∃ start stop, .copied start stop ∈ parts ∧ start ≤ position ∧ position < stop

def InText (text : Text) (spans : List PrivacyDetectedSpan) : Prop :=
  ∀ span ∈ spans, span.start ≤ span.stop ∧ span.stop ≤ text.length

/-- Span after span, those that do not begin before the end of the last one taken. -/
def taken : ℕ → List PrivacyDetectedSpan → List PrivacyDetectedSpan
  | _, [] => []
  | cursor, span :: rest =>
    if span.start < cursor then taken cursor rest else span :: taken span.stop rest

theorem le_of_covered_taken (within : InText text spans)
    (covered : Covered (taken cursor spans) position) : cursor ≤ position := by
  induction spans generalizing cursor with
  | nil => simp [taken, Covered] at covered
  | cons span rest ih =>
    obtain ⟨⟨ordered, -⟩, within⟩ := forall_mem_cons.mp within
    rw [taken] at covered
    split at covered
    · exact ih within covered
    · rcases covered with ⟨other, member, begins, ends⟩
      rcases mem_cons.mp member with rfl | later
      · omega
      · have := ih within ⟨other, later, begins, ends⟩
        omega

theorem copiedAt_replaceSpansFrom (within : InText text spans) (planner : PlaceholderPlanner) :
    CopiedAt (planner.replaceSpansFrom text cursor spans).2 position ↔
      cursor ≤ position ∧ position < text.length ∧ ¬ Covered (taken cursor spans) position := by
  induction spans generalizing planner cursor with
  | nil => simp [replaceSpansFrom, taken, CopiedAt, Covered]
  | cons span rest ih =>
    obtain ⟨⟨ordered, inside⟩, within⟩ := forall_mem_cons.mp within
    rw [replaceSpansFrom, taken]
    by_cases passed : span.start < cursor
    · rw [if_pos (.inl passed), if_pos passed]
      exact ih within planner
    · rw [if_neg (by omega), if_neg passed]
      have later := @ih span.stop within (planner.placeholder span).1
      have beyond := fun covered : Covered (taken span.stop rest) position =>
        le_of_covered_taken within covered
      simp only [CopiedAt, Covered, mem_cons, Part.copied.injEq, reduceCtorEq, false_or,
        or_and_right, exists_or, exists_eq_left] at later beyond ⊢
      constructor
      · rintro (⟨_, _, ⟨rfl, rfl⟩, begins, ends⟩ | copied)
        · refine ⟨begins, by omega, ?_⟩
          rintro (covered | covered)
          · omega
          · have := beyond covered
            omega
        · obtain ⟨begins, ends, uncovered⟩ := later.mp copied
          refine ⟨by omega, ends, ?_⟩
          rintro (covered | covered)
          · omega
          · exact uncovered covered
      · rintro ⟨begins, ends, uncovered⟩
        rw [not_or] at uncovered
        by_cases before : position < span.start
        · exact .inl ⟨_, _, ⟨rfl, rfl⟩, begins, before⟩
        · exact .inr (later.mpr ⟨by omega, ends, uncovered.2⟩)

def Redacts (planner : PlaceholderPlanner) (text : Text) (spans : List PrivacyDetectedSpan) :
    Prop :=
  ∀ position, Covered spans position → ¬ CopiedAt (planner.replaceParts text spans).2 position

/-- Nothing that was detected is copied, exactly when the spans that are taken cover the rest. -/
theorem redacts_iff (planner : PlaceholderPlanner) (within : InText text spans) :
    Redacts planner text spans ↔
      ∀ position, Covered spans position → Covered (taken 0 (sorted spans)) position := by
  have sortedIn : InText text (sorted spans) := fun span member =>
    within span (mem_sorted.mp member)
  refine forall₂_congr fun position covered => ?_
  obtain ⟨span, member, -, ends⟩ := covered
  have inside := (within span member).2
  rw [replaceParts, copiedAt_replaceSpansFrom sortedIn]
  constructor
  · intro uncopied
    by_contra uncovered
    exact uncopied ⟨Nat.zero_le _, by omega, uncovered⟩
  · exact fun isCovered copied => copied.2.2 isCovered

theorem redacts_adjacent : Redacts {} "ab".toList
    [⟨['x'], 0, 1, ['a']⟩, ⟨['x'], 1, 2, ['b']⟩] :=
  (redacts_iff {} (by simp [InText])).mpr fun position covered => covered

/-- Of two spans that overlap the second is passed over, and its end is copied. -/
theorem overlap_not_redacts : ¬ Redacts {} "abcdefgh".toList
    [⟨['x'], 0, 5, "abcde".toList⟩, ⟨['x'], 3, 8, "defgh".toList⟩] := by
  intro redacts
  refine redacts 6 ⟨_, mem_cons_of_mem _ mem_cons_self, by decide, by decide⟩ ?_
  exact ⟨5, 8, by decide, by decide, by decide⟩

end Teale.Node
