import ClusterScaling.Decision
import ClusterScaling.Fault
import ClusterScaling.Settings

/-!
# The quorum of the primaries

Primaries vote, so their count is odd, and enough of them have to stay
healthy while some are removed. The **guard** turns a candidate count
into an allowed one: the nearest odd count in range on the side to which
the tier moves, unless the removal would leave fewer healthy primaries
than required. Then the tier is held where it is, even at an even count,
or, where the owner allows it, moves anyway and the exception is reported.
-/

namespace ClusterScaling

open Document

/-- What the guard did with a candidate. -/
inductive Verdict where
  /-- The candidate passed as it was. -/
  | allowed
  /-- The candidate was replaced by a near odd count. -/
  | adjusted
  /-- The tier is held. -/
  | vetoed
  /-- The candidate breaks the quorum and passes by permission. -/
  | quorumBreak
  deriving DecidableEq, Repr

namespace Verdict

/-- Every verdict, in the order in which samples list them. -/
def all : List Verdict := [allowed, adjusted, vetoed, quorumBreak]

/-- The name of a verdict. -/
def name : Verdict → String
  | allowed => "allowed"
  | adjusted => "adjusted"
  | vetoed => "vetoed"
  | quorumBreak => "quorum_break"

/-- How grave a verdict is. -/
def gravity : Verdict → Nat
  | allowed => 0
  | adjusted => 1
  | quorumBreak => 2
  | vetoed => 3

/-- The graver of two verdicts. -/
def graver (v w : Verdict) : Verdict := if v.gravity < w.gravity then w else v

@[simp]
theorem mem_all (v : Verdict) : v ∈ all := by cases v <;> decide

/-- **Nothing is graver than a veto**, so a verdict made of two is one exactly if either is. -/
theorem graver_eq_vetoed {v w : Verdict} : v.graver w = vetoed ↔ v = vetoed ∨ w = vetoed := by
  cases v <;> cases w <;> decide

end Verdict

/-- The health of the primaries and what is required of it. -/
structure QuorumState where
  /-- How many primaries are healthy. -/
  healthy : UInt32
  /-- How many have to stay healthy. -/
  minHealthy : UInt32
  /-- Whether a removal may go below that. -/
  allowBreak : Bool
  deriving DecidableEq

namespace QuorumState

/-- The state in a document. -/
def decode (d : Document) : Decoded QuorumState := do
  let r ← Record.ofDocument
    ["current_healthy_primaries", "min_healthy_primaries", "allow_quorum_break"] d
  let healthy ← r.read "current_healthy_primaries" asCount
  let minHealthy ← r.read "min_healthy_primaries" asCount
  let allowBreak ← r.read "allow_quorum_break" asFlag
  pure ⟨← r.required "current_healthy_primaries" healthy,
    ← r.required "min_healthy_primaries" minHealthy,
    ← r.required "allow_quorum_break" allowBreak⟩

/-- The state as a document. -/
def encode (s : QuorumState) : Document :=
  mapping [("current_healthy_primaries", ofCount s.healthy),
    ("min_healthy_primaries", ofCount s.minHealthy), ("allow_quorum_break", flag s.allowBreak)]

end QuorumState

/-- What the guard says about a candidate. -/
structure GuardOutcome where
  /-- The count that the tier may have. -/
  count : UInt32
  /-- What was done with the candidate. -/
  verdict : Verdict
  /-- Why, unless the candidate passed as it was. -/
  reason : Option String
  deriving DecidableEq

/-- The odd counts that the primaries may have. There is one, and all of them are counts. -/
structure OddRange where
  /-- The least one. -/
  lowest : Nat
  /-- The greatest one. -/
  highest : Nat
  /-- The least one is odd. -/
  odd_lowest : lowest % 2 = 1
  /-- The greatest one is odd. -/
  odd_highest : highest % 2 = 1
  /-- The range is not empty. -/
  lowest_le_highest : lowest ≤ highest
  /-- The range ends within the counts. -/
  highest_lt : highest < UInt32.size
  deriving DecidableEq, Repr

namespace OddRange

/-- The odd counts from the greatest of three floors to a ceiling. If
there is none, the floors win over the ceiling. -/
def ofBounds (least most minHealthy : UInt32) : OddRange :=
  let floor := max (max least.toNat minHealthy.toNat) 1
  let lowest := if floor % 2 = 0 then floor + 1 else floor
  let ceiling := if most.toNat % 2 = 1 then most.toNat else most.toNat - 1
  have hleast := least.toNat_lt_size
  have hmost := most.toNat_lt_size
  have hhealthy := minHealthy.toNat_lt_size
  { lowest
    highest := max ceiling lowest
    odd_lowest := by grind
    odd_highest := by grind
    lowest_le_highest := Nat.le_max_right _ _
    highest_lt := by grind }

/-- The odd count for a candidate. An even candidate is rounded down when
the tier shrinks, else up as long as there is room above. -/
def nearest (r : OddRange) (candidate : Nat) (direction : Action) : Nat :=
  let odd :=
    if candidate % 2 = 1 then candidate
    else if direction = .scaleDown ∨ r.highest < candidate + 1 then candidate - 1
    else candidate + 1
  max r.lowest (min odd r.highest)

/-- What speaks against a removal that leaves too few healthy primaries. -/
def shortage? (state : QuorumState) (current allowed : Nat) : Option String :=
  let removed := current - allowed
  let remaining : Int := (state.healthy.toNat : Int) - removed
  if allowed < current ∧ remaining < state.minHealthy.toNat then
    some ("removing " ++ toString removed ++ " of " ++ toString state.healthy.toNat ++
      " healthy primaries leaves " ++ toString remaining ++ ", below minimum " ++
      toString state.minHealthy.toNat)
  else none

/-- What is allowed of a candidate for a tier at a live count. -/
def guard (r : OddRange) (current candidate : UInt32) (state : QuorumState) : GuardOutcome :=
  let n := r.nearest candidate.toNat (.between current candidate)
  match shortage? state current.toNat n with
  | some detail =>
    if state.allowBreak then
      ⟨UInt32.ofNat n, .quorumBreak,
        some ("QUORUM EXCEPTION: " ++ detail ++ " (allow_quorum_break)")⟩
    else
      let parity := if current.toNat % 2 = 0 then
          "; primaries count " ++ toString current.toNat ++ " is even, held until the veto clears"
        else ""
      ⟨current, .vetoed, some ((Fault.quorumVeto detail).message ++ parity)⟩
  | none =>
    if n = candidate.toNat then ⟨candidate, .allowed, none⟩
    else
      ⟨UInt32.ofNat n, .adjusted,
        some ("primaries adjusted " ++ toString candidate.toNat ++ " -> " ++ toString n ++
          " (odd count, quorum floor)")⟩

/-- **The nearest odd count is in range.** -/
theorem nearest_mem (r : OddRange) (candidate : Nat) (direction : Action) :
    r.lowest ≤ r.nearest candidate direction ∧ r.nearest candidate direction ≤ r.highest :=
  ⟨Nat.le_max_left _ _, Nat.max_le.mpr ⟨r.lowest_le_highest, Nat.min_le_right _ _⟩⟩

/-- **The nearest odd count is odd.** Of all candidates only zero can be rounded to an even number,
and that lies below every range. -/
theorem odd_nearest (r : OddRange) (candidate : Nat) (direction : Action) :
    r.nearest candidate direction % 2 = 1 := by
  have hl := r.odd_lowest
  have hh := r.odd_highest
  unfold nearest
  grind

end OddRange

end ClusterScaling
