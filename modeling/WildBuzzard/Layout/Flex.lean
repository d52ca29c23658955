import Mathlib.Data.List.Sort
import WildBuzzard.Lib.Call

/-!
# Planning a flex container

`plan_flex_layout` of the layout crate: items are sorted, broken into lines, resolved along the main
axis and the cross axis, and placed. Sizes are computed in 128 bits with checked operations; every
pass over the items is charged to a work budget before it runs.

`freezeLoop` is the loop of `resolve_flexible_lengths`. It needs no fuel: the source gives up after
`iteration_limit` rounds, and the rounds that are left are the argument of the recursion. The round
counter stays visible in the state, so that one can say how often the loop went round.
-/

namespace WildBuzzard.Layout

open Lib

/-! ## Values -/

/-- Source: `Au`. -/
structure Au where
  raw : Int32
  deriving DecidableEq, Repr

/-- Source: `raw`. -/
def raw (value : Au) : Int := value.raw.toInt

/-- Source: `FlexFactor`. -/
structure FlexFactor where
  millionths : UInt32
  deriving DecidableEq, Repr

/-- Source: `FlexFactor::ONE`. -/
def FlexFactor.one : FlexFactor := ⟨1000000⟩

/-- Source: `FlexWrap`. -/
inductive FlexWrap where
  | noWrap
  | wrap
  deriving DecidableEq, Repr

/-- Source: `JustifyContent`. -/
inductive JustifyContent where
  | start
  | finish
  | center
  | spaceBetween
  | spaceAround
  | spaceEvenly
  deriving DecidableEq, Repr

/-- Source: `AlignItems`. -/
inductive AlignItems where
  | stretch
  | start
  | finish
  | center
  deriving DecidableEq, Repr

/-- Source: `FlexItemInput`. -/
structure FlexItemInput where
  sourceIndex : Nat
  order : Int32
  baseMain : Au
  minMain : Au
  maxMain : Option Au
  grow : FlexFactor
  shrink : FlexFactor
  outerMain : Au
  baseCross : Au
  minCross : Au
  maxCross : Option Au
  outerCross : Au
  crossAuto : Bool
  align : AlignItems
  deriving DecidableEq, Repr

/-- Source: `FlexConstraints`. -/
structure FlexConstraints where
  mainSize : Option Au
  crossSize : Option Au
  wrap : FlexWrap
  mainGap : Au
  crossGap : Au
  justifyContent : JustifyContent
  maxLines : Nat
  deriving DecidableEq, Repr

/-- Source: `FlexPlacement`. -/
structure FlexPlacement where
  sourceIndex : Nat
  targetMain : Au
  targetCross : Au
  outerMainOffset : Au
  outerCrossOffset : Au
  deriving DecidableEq, Repr

/-- Source: `FlexPlan`. -/
structure FlexPlan where
  placements : List FlexPlacement
  mainExtent : Au
  crossExtent : Au
  deriving DecidableEq, Repr

/-- Source: `FlexError`. -/
inductive FlexError where
  | workLimitExceeded (limit : Nat)
  | lineLimitExceeded (limit : Nat)
  | allocationFailed (resource : String) (requested : Nat)
  | arithmeticOverflow
  deriving DecidableEq, Repr

/-- Source: `FlexWorkBudget`. -/
structure FlexWorkBudget where
  limit : Nat
  used : Nat
  deriving DecidableEq, Repr

/-- Source: `WorkingItem`. -/
structure WorkingItem where
  input : FlexItemInput
  hypothetical : Int
  target : Int
  frozen : Bool
  deriving DecidableEq, Repr

/-- Source: `FlexLine`. -/
structure FlexLine where
  start : Nat
  stop : Nat
  mainSize : Int
  crossSize : Int
  crossOffset : Int
  deriving DecidableEq, Repr

/-! ## Arithmetic -/

/-- A result of 128 bits, or the error of an operation that overflows. -/
@[irreducible] def checked (value : Int) : Except FlexError Int :=
  if -2 ^ 127 ≤ value ∧ value < 2 ^ 127 then .ok value else .error .arithmeticOverflow

/-- Source: `checked_add`. -/
def checkedAdd (left right : Int) : Except FlexError Int := checked (left + right)

/-- Source: `checked_sub`. -/
def checkedSub (left right : Int) : Except FlexError Int := checked (left - right)

/-- Source: `checked_mul`. -/
def checkedMul (left right : Int) : Except FlexError Int := checked (left * right)

/-- Source: `usize::checked_add` and `usize::checked_mul`, with the error of the planner. -/
@[irreducible] def checkedUsize (value : Nat) : Except FlexError Nat :=
  if value < 2 ^ 64 then .ok value else .error .arithmeticOverflow

/-- Source: `checked_signed_au`. -/
def checkedSignedAu (value : Int) : Except FlexError Au :=
  if value < -2 ^ 31 ∨ value > 2 ^ 31 - 1 then .error .arithmeticOverflow
  else .ok ⟨Int32.ofInt value⟩

/-- Source: `checked_au`. -/
def checkedAu (value : Int) : Except FlexError Au :=
  if value < 0 then .error .arithmeticOverflow else checkedSignedAu value

/-- Source: `clamp_main`. -/
def clampMain (value minimum : Int) (maximum : Option Int) : Int :=
  let used := max value 0
  let used :=
    match maximum with
    | some maximum => min used maximum
    | none => used
  max used minimum

/-- Source: `sort_work`; the bits of `len - 1` are `usize::BITS` less its leading zeros. -/
def sortWork (len : Nat) : Except FlexError Nat :=
  if len < 2 then .ok len
  else checkedUsize (len * (Nat.log2 (len - 1) + 1 + 1))

/-- Source: `gap_total`. -/
def gapTotal (itemCount : Nat) (gap : Int) : Except FlexError Int := do
  let count ← checked (itemCount - 1 : Nat)
  checkedMul count gap

/-- Source: `extent_with_gaps`. -/
def extentWithGaps (sizes : List Int) (gap : Int) : Except FlexError Int := do
  let extent ← sizes.foldlM checkedAdd 0
  let count ← checkedUsize sizes.length
  checkedAdd extent (← gapTotal count gap)

/-- Source: `sum_item_sizes`. -/
def sumItemSizes (gapTotal : Int) (size : WorkingItem → Int) (items : List WorkingItem) :
    Except FlexError Int :=
  items.foldlM
    (fun sum item => do checkedAdd (← checkedAdd sum (size item)) (raw item.input.outerMain))
    gapTotal

/-- Source: `remaining_free_space`. -/
def remainingFreeSpace (available gapTotal : Int) (items : List WorkingItem) :
    Except FlexError Int := do
  let used ← sumItemSizes gapTotal
    (fun item => if item.frozen then item.target else raw item.input.baseMain) items
  checkedSub available used

variable (usingGrow : Bool) (constraints : FlexConstraints) (items : List WorkingItem)
  (lines : List FlexLine)

/-- The factor that is active in a line. -/
def FlexItemInput.factor (input : FlexItemInput) : Int :=
  if usingGrow then input.grow.millionths.toNat else input.shrink.millionths.toNat

/-- Source: `flex_weight`. -/
def flexWeight (item : WorkingItem) : Except FlexError Int :=
  if usingGrow then .ok (item.input.factor usingGrow)
  else checkedMul (item.input.factor usingGrow) (raw item.input.baseMain)

/-- Source: `flex_weight_sum`. -/
def flexWeightSum : Except FlexError Int :=
  (items.filter (!·.frozen)).foldlM
    (fun sum item => do checkedAdd sum (← flexWeight usingGrow item)) 0

/-- The sum of the factors that are not frozen. Source: `resolve_flexible_lengths`. -/
def factorSum : Except FlexError Int :=
  (items.filter (!·.frozen)).foldlM
    (fun sum item => checkedAdd sum (item.input.factor usingGrow)) 0

/-! ## The budget -/

/-- What the planner leaves behind: the budget, what will come of the next allocations (any other
succeeds), and the rounds of the loop over the current line. -/
structure Work where
  budget : FlexWorkBudget
  reservations : List Bool
  iterations : Nat
  deriving DecidableEq, Repr

/-- Source: `FlexWorkBudget::charge`. -/
def charge (amount : Nat) : Call Work FlexError Unit := do
  let work ← Call.read
  let used := work.budget.used + amount
  Call.check (used < 2 ^ 64) (.workLimitExceeded work.budget.limit)
  Call.check (used ≤ work.budget.limit) (.workLimitExceeded work.budget.limit)
  Call.modify fun work => { work with budget := { work.budget with used } }

/-- Source: `Vec::try_reserve_exact`. -/
def reserve (resource : String) (requested : Nat) : Call Work FlexError Unit := do
  let work ← Call.read
  Call.modify fun work => { work with reservations := work.reservations.tail }
  Call.check (work.reservations.headD true) (.allocationFailed resource requested)

/-! ## Flexible lengths -/

/-- What the loop over a line knows of it. -/
structure LineSizes where
  usingGrow : Bool
  available : Int
  gapTotal : Int
  initialFree : Int
  deriving DecidableEq, Repr

/-- How a round of the loop ends. -/
inductive Round where
  /-- The loop is left. -/
  | stop (items : List WorkingItem)
  | next (items : List WorkingItem)
  deriving DecidableEq, Repr

namespace WorkingItem

/-- The item starts at its base size. -/
def reset (item : WorkingItem) : WorkingItem :=
  { item with target := raw item.input.baseMain, frozen := false }

/-- Items that cannot flex are frozen from the start. -/
def freezeInflexible (usingGrow : Bool) (item : WorkingItem) : WorkingItem :=
  let base := raw item.input.baseMain
  if item.input.factor usingGrow = 0 ∨ (usingGrow ∧ base > item.hypothetical) ∨
      (¬usingGrow ∧ base < item.hypothetical) then
    { item with target := item.hypothetical, frozen := true }
  else item

/-- Freeze an item that is not frozen at its hypothetical size. -/
def freezeAtHypothetical (item : WorkingItem) : WorkingItem :=
  if item.frozen then item else { item with target := item.hypothetical, frozen := true }

end WorkingItem

/-- The space that a round distributes: a sum of factors below one takes only its part of the space
there was at first. -/
def distributedSpace (sizes : LineSizes) (factorSum : Int) (items : List WorkingItem) :
    Except FlexError Int := do
  let free ← remainingFreeSpace sizes.available sizes.gapTotal items
  if factorSum < FlexFactor.one.millionths.toNat then
    let scaled := (← checkedMul sizes.initialFree factorSum).tdiv FlexFactor.one.millionths.toNat
    if scaled.natAbs < free.natAbs then return scaled
  return free

/-- Cumulative division assigns the remainder while preserving the distributed total. -/
def distribute (usingGrow : Bool) (free weightSum : Int) (cumulativeWeight cumulativeShare : Int) :
    List WorkingItem → Except FlexError (List WorkingItem)
  | [] => .ok []
  | item :: rest =>
    if item.frozen then do
      return item :: (← distribute usingGrow free weightSum cumulativeWeight cumulativeShare rest)
    else do
      let cumulativeWeight ← checkedAdd cumulativeWeight (← flexWeight usingGrow item)
      let nextCumulativeShare := (← checkedMul free cumulativeWeight).tdiv weightSum
      let share ← checkedSub nextCumulativeShare cumulativeShare
      let target ← checkedAdd (raw item.input.baseMain) share
      return { item with target } ::
        (← distribute usingGrow free weightSum cumulativeWeight nextCumulativeShare rest)

/-- Clamp the items that are not frozen; how far each was moved, and how far all were. -/
def clampTargets : Int → List WorkingItem → Except FlexError (List WorkingItem × List Int × Int)
  | totalViolation, [] => .ok ([], [], totalViolation)
  | totalViolation, item :: rest =>
    if item.frozen then do
      let (items, violations, total) ← clampTargets totalViolation rest
      return (item :: items, 0 :: violations, total)
    else do
      let unclamped := item.target
      let target :=
        clampMain unclamped (raw item.input.minMain) (item.input.maxMain.map raw)
      let violation ← checkedSub target unclamped
      let totalViolation ← checkedAdd totalViolation violation
      let (items, violations, total) ← clampTargets totalViolation rest
      return ({ item with target } :: items, violation :: violations, total)

/-- Freeze the items that were moved the way the total was, or all of them. -/
def freezeViolations (totalViolation : Int) (items : List WorkingItem) (violations : List Int) :
    List WorkingItem :=
  items.zipWith (fun item violation =>
    if item.frozen then item
    else if totalViolation = 0 ∨ (totalViolation > 0 ∧ violation > 0) ∨
        (totalViolation < 0 ∧ violation < 0) then { item with frozen := true }
    else item) violations

/-- One round over items that are not all frozen. -/
def freezeRound (sizes : LineSizes) (items : List WorkingItem) : Call Work FlexError Round := do
  charge items.length
  let factors ← Call.ofExcept (factorSum sizes.usingGrow items)
  if factors = 0 then
    charge items.length
    pure (.stop (items.map (·.freezeAtHypothetical)))
  else
    charge items.length
    let free ← Call.ofExcept (distributedSpace sizes factors items)
    charge items.length
    let weightSum ← Call.ofExcept (flexWeightSum sizes.usingGrow items)
    if weightSum = 0 then
      charge items.length
      pure (.stop (items.map (·.freezeAtHypothetical)))
    else
      charge items.length
      let items ← Call.ofExcept (distribute sizes.usingGrow free weightSum 0 0 items)
      charge items.length
      reserve "flex violations" items.length
      let (items, violations, totalViolation) ← Call.ofExcept (clampTargets 0 items)
      charge items.length
      pure (.next (freezeViolations totalViolation items violations))

/-- The loop of `resolve_flexible_lengths`, when `iteration_limit` leaves so many rounds. -/
def freezeLoop (sizes : LineSizes) : Nat → List WorkingItem → Call Work FlexError (List WorkingItem)
  | 0, items => do
    charge items.length
    if items.all (·.frozen) then pure items
    else
      Call.modify fun work => { work with iterations := work.iterations + 1 }
      Call.fail .arithmeticOverflow
  | left + 1, items => do
    charge items.length
    if items.all (·.frozen) then pure items
    else
      Call.modify fun work => { work with iterations := work.iterations + 1 }
      match ← freezeRound sizes items with
      | .stop items => pure items
      | .next items => freezeLoop sizes left items

/-- Up to the loop: whether the line grows, its space, and the items that cannot flex.
Source: `resolve_flexible_lengths`. -/
def startLine : Call Work FlexError (LineSizes × List WorkingItem) := do
  let gapTotal ← Call.ofExcept (gapTotal items.length (raw constraints.mainGap))
  charge items.length
  let hypotheticalOuter ← Call.ofExcept (sumItemSizes gapTotal (·.hypothetical) items)
  let available := constraints.mainSize.elim hypotheticalOuter raw
  let usingGrow := decide (hypotheticalOuter < available)
  charge items.length
  let items := items.map (·.reset)
  charge items.length
  let items := items.map (·.freezeInflexible usingGrow)
  charge items.length
  let initialFree ← Call.ofExcept (remainingFreeSpace available gapTotal items)
  pure ({ usingGrow, available, gapTotal, initialFree }, items)

/-- Source: `resolve_flexible_lengths`. -/
def resolveFlexibleLengths
    (line : FlexLine) : Call Work FlexError (List WorkingItem × FlexLine) := do
  Call.modify fun work => { work with iterations := 0 }
  let (sizes, items) ← startLine constraints items
  let iterationLimit ← Call.ofExcept (checkedUsize (items.length + 1))
  let items ← freezeLoop sizes iterationLimit items
  charge items.length
  let used ← Call.ofExcept (sumItemSizes sizes.gapTotal (·.target) items)
  pure (items, { line with mainSize := constraints.mainSize.elim used raw })

/-! ## Lines -/

/-- Source: `required_line_capacity`. -/
def requiredLineCapacity (itemCount maxLines : Nat) : Nat := min (max itemCount 1) maxLines

/-- Source: `push_line`. -/
def pushLine (start stop limit : Nat) : Except FlexError (List FlexLine) :=
  if lines.length ≥ limit then .error (.lineLimitExceeded limit)
  else .ok (lines ++ [{ start, stop, mainSize := 0, crossSize := 0, crossOffset := 0 }])

/-- Whether an item starts a new line. Source: `build_lines`. -/
def wraps (first : Bool) (occupied withGap : Int) :
    Except FlexError Bool :=
  match constraints.wrap, constraints.mainSize, first with
  | .wrap, some available, false => do return (← checkedAdd occupied withGap) > raw available
  | _, _, _ => .ok false

/-- The loop of `build_lines`, at an index. -/
def buildLinesLoop (constraints : FlexConstraints) : List WorkingItem → Nat → Nat → Int →
    List FlexLine → Except FlexError (List FlexLine)
  | [], index, start, _, lines => pushLine lines start index constraints.maxLines
  | item :: rest, index, start, occupied, lines => do
    let outer ← checkedAdd item.hypothetical (raw item.input.outerMain)
    let withGap ←
      (if index = start then .ok outer else checkedAdd (raw constraints.mainGap) outer)
    if ← wraps constraints (index = start) occupied withGap then
      let lines ← pushLine lines start index constraints.maxLines
      buildLinesLoop constraints rest (index + 1) index outer lines
    else
      buildLinesLoop constraints rest (index + 1) start (← checkedAdd occupied withGap) lines

/-- Source: `build_lines`; an empty container has one line. -/
def buildLines : Except FlexError (List FlexLine) :=
  buildLinesLoop constraints items 0 0 0 []

/-- The items of a line: a slice, which panics out of bounds. -/
def lineItems (line : FlexLine) : Call Work FlexError (List WorkingItem) := do
  Call.assert (line.start ≤ line.stop ∧ line.stop ≤ items.length) "slice index out of range"
  pure ((items.take line.stop).drop line.start)

/-- Resolve the items of every line in place. -/
def resolveLines (constraints : FlexConstraints) : List FlexLine → List WorkingItem →
    Call Work FlexError (List FlexLine × List WorkingItem)
  | [], items => pure ([], items)
  | line :: rest, items => do
    let (slice, line) ← resolveFlexibleLengths constraints (← lineItems items line) line
    let items := items.take line.start ++ slice ++ items.drop line.stop
    let (rest, items) ← resolveLines constraints rest items
    pure (line :: rest, items)

/-! ## The cross axis and the placements -/

/-- The natural size of a line. Source: `resolve_cross_sizes`. -/
def naturalCrossSize : Except FlexError Int :=
  items.foldlM (fun largest item => do
    let size ← checkedAdd
      (clampMain (raw item.input.baseCross) (raw item.input.minCross)
        (item.input.maxCross.map raw))
      (raw item.input.outerCross)
    return max largest size) 0

/-- Hand out the extra space, line by line. Source: `resolve_cross_sizes`. -/
def distributeCross (extra count : Int) : Nat → Int → List FlexLine →
    Except FlexError (List FlexLine)
  | _, _, [] => .ok []
  | index, distributed, line :: rest => do
    let next ← checkedUsize (index + 1)
    let cumulative := (← checkedMul extra (← checked next)).tdiv count
    let crossSize ← checkedAdd line.crossSize (← checkedSub cumulative distributed)
    return { line with crossSize } :: (← distributeCross extra count next cumulative rest)

/-- Stretch several lines to a definite cross size. Source: `resolve_cross_sizes`. -/
def stretchEvenly (available gap : Int) (lines : List FlexLine) :
    Call Work FlexError (List FlexLine) := do
  charge lines.length
  let natural ← Call.ofExcept (extentWithGaps (lines.map (·.crossSize)) gap)
  if natural < available then
    let extra ← Call.ofExcept (checkedSub available natural)
    charge lines.length
    let count ← Call.ofExcept (checked lines.length)
    Call.ofExcept (distributeCross extra count 0 0 lines)
  else pure lines

/-- A single line takes a definite cross size. Source: `resolve_cross_sizes`. -/
def stretchLines : Call Work FlexError (List FlexLine) :=
  match constraints.crossSize with
  | none => pure lines
  | some crossSize =>
    if lines.length = 1 then do
      charge 1
      pure (lines.map fun line => { line with crossSize := raw crossSize })
    else stretchEvenly (raw crossSize) (raw constraints.crossGap) lines

/-- Put the lines one after the other. Source: `resolve_cross_sizes`. -/
def offsetLines (gap : Int) : Int → List FlexLine → Except FlexError (List FlexLine)
  | _, [] => .ok []
  | crossOffset, line :: rest => do
    let next ← checkedAdd crossOffset line.crossSize
    let next ← (if rest.isEmpty then .ok next else checkedAdd next gap)
    return { line with crossOffset } :: (← offsetLines gap next rest)

/-- Source: `resolve_cross_sizes`. -/
def resolveCrossSizes : Call Work FlexError (List FlexLine) := do
  charge items.length
  let lines ← Call.runAll (fun line => do
    let slice ← lineItems items line
    let crossSize ← Call.ofExcept (naturalCrossSize slice)
    pure { line with crossSize }) lines
  let lines ← stretchLines constraints lines
  charge lines.length
  Call.ofExcept (offsetLines (raw constraints.crossGap) 0 lines)

/-- Source: `justify_offsets`. -/
def justifyOffsets (justify : JustifyContent) (free : Int) (itemCount : Nat) :
    Except FlexError (Int × Int) :=
  if itemCount = 0 then .ok (0, 0)
  else do
    let count ← checked itemCount
    match justify with
    | .start => return (0, 0)
    | .finish => return (free, 0)
    | .center => return (free.tdiv 2, 0)
    | .spaceBetween =>
      if itemCount > 1 ∧ free > 0 then return (0, free.tdiv (← checkedSub count 1))
      else return (0, 0)
    | .spaceAround =>
      if free > 0 then return ((free.tdiv count).tdiv 2, free.tdiv count) else return (0, 0)
    | .spaceEvenly =>
      if free > 0 then
        let slots ← checkedAdd count 1
        return (free.tdiv slots, free.tdiv slots)
      else return (0, 0)

/-- The used cross size of an item in its line. Source: `append_line_placements`. -/
def targetCross (line : FlexLine) (input : FlexItemInput) : Except FlexError Int := do
  let unclamped ←
    (if input.align = .stretch ∧ input.crossAuto then
      (max · 0) <$> checkedSub line.crossSize (raw input.outerCross)
    else .ok (raw input.baseCross))
  return clampMain unclamped (raw input.minCross) (input.maxCross.map raw)

/-- Where an item stands inside its line. Source: `append_line_placements`. -/
def crossPacking (align : AlignItems) (crossFree : Int) : Int :=
  match align with
  | .stretch => 0
  | .start => 0
  | .finish => crossFree
  | .center => crossFree.tdiv 2

/-- The loop of `append_line_placements`. -/
def placeItems (constraints : FlexConstraints) (line : FlexLine) (distributedGap : Int) :
    Int → List WorkingItem → Except FlexError (List FlexPlacement)
  | _, [] => .ok []
  | mainOffset, item :: rest => do
    let cross ← targetCross line item.input
    let crossFree ← checkedSub (← checkedSub line.crossSize cross) (raw item.input.outerCross)
    let placement :=
      { sourceIndex := item.input.sourceIndex
        targetMain := ← checkedAu item.target
        targetCross := ← checkedAu cross
        outerMainOffset := ← checkedSignedAu mainOffset
        outerCrossOffset := ← checkedSignedAu
          (← checkedAdd line.crossOffset (crossPacking item.input.align crossFree)) }
    let next ← checkedAdd mainOffset (← checkedAdd item.target (raw item.input.outerMain))
    let next ←
      (if rest.isEmpty then .ok next
      else do checkedAdd (← checkedAdd next (raw constraints.mainGap)) distributedGap)
    return placement :: (← placeItems constraints line distributedGap next rest)

/-- Source: `append_line_placements`. -/
def appendLinePlacements (line : FlexLine) : Except FlexError (List FlexPlacement) := do
  let gapTotal ← gapTotal items.length (raw constraints.mainGap)
  let used ← sumItemSizes gapTotal (·.target) items
  let free ← checkedSub line.mainSize used
  let (initial, distributedGap) ← justifyOffsets constraints.justifyContent free items.length
  placeItems constraints line distributedGap initial items

/-- The size of the container along the cross axis. Source: `plan_flex_layout`. -/
def crossExtent : Call Work FlexError Int :=
  match constraints.crossSize with
  | some crossSize => pure (raw crossSize)
  | none => do
    charge lines.length
    Call.ofExcept (extentWithGaps (lines.map (·.crossSize)) (raw constraints.crossGap))

/-- The size of an item before it flexes. Source: `plan_flex_layout`. -/
def FlexItemInput.hypothetical (input : FlexItemInput) : Int :=
  clampMain (raw input.baseMain) (raw input.minMain) (input.maxMain.map raw)

/-- An item that has not flexed. Source: `plan_flex_layout`. -/
def WorkingItem.ofInput (input : FlexItemInput) : WorkingItem :=
  { input, hypothetical := input.hypothetical, target := raw input.baseMain, frozen := false }

/-- The order of the items: by `order`, and by their place in the document. -/
def keyLe (a b : WorkingItem) : Prop :=
  a.input.order < b.input.order ∨
    (a.input.order = b.input.order ∧ a.input.sourceIndex ≤ b.input.sourceIndex)

instance : DecidableRel keyLe := fun _ _ => inferInstanceAs (Decidable (_ ∨ _))

/-- Source: `plan_flex_layout`. The keys of an unstable sort are unique in a document, so that a
stable sort gives the same. -/
def planFlexLayout (inputs : List FlexItemInput) (constraints : FlexConstraints) :
    Call Work FlexError FlexPlan := do
  let itemCount := inputs.length
  charge itemCount
  reserve "flex items" itemCount
  let items := inputs.map .ofInput
  charge (← Call.ofExcept (sortWork itemCount))
  let items := items.insertionSort keyLe
  charge itemCount
  let lineCapacity := requiredLineCapacity itemCount constraints.maxLines
  reserve "flex lines" lineCapacity
  let lines ← Call.ofExcept (buildLines constraints items)
  charge lines.length
  let (lines, items) ← resolveLines constraints lines items
  let lines ← resolveCrossSizes constraints items lines
  charge itemCount
  charge itemCount
  reserve "flex placements" itemCount
  let placements ← Call.runAll (fun line => do
    let slice ← lineItems items line
    Call.ofExcept (appendLinePlacements constraints slice line)) lines
  charge lines.length
  let mainExtent := (lines.map (·.mainSize)).max?.getD 0
  let crossExtent ← crossExtent constraints lines
  pure
    { placements := placements.flatten
      mainExtent := ← Call.ofExcept (checkedAu mainExtent)
      crossExtent := ← Call.ofExcept (checkedAu crossExtent) }

end WildBuzzard.Layout
