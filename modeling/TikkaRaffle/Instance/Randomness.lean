import TikkaRaffle.Instance.State

/-! Seeds and winner selection. Every randomness mode ends in a 64-bit seed,
and one selector maps that seed to distinct ticket indices. -/
namespace TikkaRaffle.Instance

open TikkaRaffle.Lib

def lcgAdvance (seed : Nat) : Nat :=
  (seed * 6364136223846793005 + 1442695040888963407) % 2 ^ 64

/-- The inner loop of the selector. A loop over 64-bit states that has not
left after `2 ^ 64` rounds never does, so `none` is a call that does not end. -/
def rejectionSample : Nat → Nat → Nat → Option Nat
  | 0, _, _ => none
  | fuel + 1, limit, seed =>
      if seed < limit then some seed else rejectionSample fuel limit (lcgAdvance seed)

/-- The virtual deck: positions absent from the swap log hold themselves. -/
def resolveSwap (swaps : List (Nat × Nat)) (position : Nat) : Nat :=
  ((swaps.find? fun entry => entry.1 = position).map Prod.snd).getD position

def recordSwap (position value : Nat) : List (Nat × Nat) → List (Nat × Nat)
  | [] => [(position, value)]
  | entry :: rest =>
      if entry.1 = position then (position, value) :: rest
      else entry :: recordSwap position value rest

/-- Partial Fisher-Yates. The accepted sample is also the seed the next round
starts from. The cast of an index to `u32` is made in the twin below alone: on a deck
of `u32` tickets it loses nothing, and the two agree there. -/
def selectRounds : Nat → Nat → Nat → List (Nat × Nat) → Option (List Nat)
  | 0, _, _, _ => some []
  | rounds + 1, remaining, seed, swaps => do
      let largestMultiple := ((2 ^ 64 - 1) / remaining) * remaining
      let candidate ← rejectionSample (2 ^ 64) largestMultiple seed
      let r := candidate % remaining
      let lastActual := resolveSwap swaps (remaining - 1)
      let rest ← selectRounds rounds (remaining - 1) candidate (recordSwap r lastActual swaps)
      return resolveSwap swaps r :: rest

def selectWinnerIndices (seed totalTickets winnerCount : Nat) : Option (List Nat) :=
  if totalTickets = 0 ∨ winnerCount = 0 then some []
  else selectRounds (min winnerCount totalTickets) totalTickets seed []

/-- The overwrite of the twin: by index where the position is logged, at the end
where it is not. -/
def recordSwapAt (position value : Nat) (swaps : List (Nat × Nat)) : List (Nat × Nat) :=
  match swaps.findIdx? fun entry => entry.1 = position with
  | some idx => swaps.modify idx fun entry => (entry.1, value)
  | none => swaps ++ [(position, value)]

def selectRoundsPure : Nat → Nat → Nat → List (Nat × Nat) → List Nat → Option (List Nat)
  | 0, _, _, _, indices => some indices
  | rounds + 1, remaining, seed, swaps, indices => do
      let largestMultipleRemaining := ((2 ^ 64 - 1) / remaining) * remaining
      let candidate ← rejectionSample (2 ^ 64) largestMultipleRemaining seed
      let r := candidate % remaining
      let actual := resolveSwap swaps r
      let lastActual := resolveSwap swaps (remaining - 1)
      selectRoundsPure rounds (remaining - 1) candidate (recordSwapAt r lastActual swaps)
        (indices ++ [actual % 2 ^ 32])

/-- The twin for tests and off-chain tooling, with `r` at the width of the
positions it is compared to. -/
def selectWinnerIndicesPure (seed totalTickets winnerCount : Nat) : Option (List Nat) :=
  if totalTickets = 0 ∨ winnerCount = 0 then some []
  else selectRoundsPure (min winnerCount totalTickets) totalTickets seed [] []

theorem selectRounds_length {rounds remaining seed : Nat} {swaps : List (Nat × Nat)}
    {indices : List Nat} (h : selectRounds rounds remaining seed swaps = some indices) :
    indices.length = rounds := by
  induction rounds generalizing remaining seed swaps indices with
  | zero =>
    simp only [selectRounds, Option.some.injEq] at h
    subst h
    rfl
  | succ rounds ih =>
    simp only [selectRounds, Option.bind_eq_bind, Option.bind_eq_some_iff] at h
    obtain ⟨candidate, -, rest, hrest, hindices⟩ := h
    have hlength := ih hrest
    cases hindices
    simp [hlength]

theorem selectWinnerIndices_length {seed total count : Nat} {indices : List Nat}
    (h : selectWinnerIndices seed total count = some indices) :
    indices.length = min count total := by
  unfold selectWinnerIndices at h
  split at h
  next hzero =>
    cases h
    rcases hzero with hzero | hzero <;> simp [hzero]
  next => exact selectRounds_length h

def buildInternalSeedU64 (h : Host) (c : Ctx) : Nat :=
  seedOfDigest (h.sha256 (h.toXdr
    (.tuple [.u64 c.timestamp, .u32 c.sequence, .address h.self])))

def buildVrfProofMessage (h : Host) (requestId : Nat) : Bytes :=
  h.toXdr (.tuple [.address h.self, .u64 requestId])

def deriveRandomSeedFromProof (h : Host) (proof : Signature) : Nat :=
  seedOfDigest (h.sha256 proof.toList)

def bytesLt : Bytes → Bytes → Bool
  | [], [] => false
  | [], _ :: _ => true
  | _ :: _, [] => false
  | a :: as, b :: bs => if a < b then true else if b < a then false else bytesLt as bs

def insertSeed (h : Host) (pair : Address × Nat) :
    List (Address × Nat) → List (Address × Nat)
  | [] => [pair]
  | last :: rest =>
      if bytesLt (h.toXdr (.address pair.1)) (h.toXdr (.address last.1)) then
        last :: insertSeed h pair rest
      else pair :: last :: rest

def beBytes (seed : Nat) : Bytes :=
  (List.range 8).map fun i => UInt8.ofNat (seed / 256 ^ (7 - i))

def aggregateQuorumSeeds (h : Host) (seeds : List (Address × Nat)) : Nat :=
  if seeds.isEmpty then 0
  else
    let sorted := (seeds.foldl (fun sorted pair => insertSeed h pair sorted) []).reverse
    seedOfDigest (h.sha256 (sorted.flatMap fun pair => beBytes pair.2))

end TikkaRaffle.Instance
