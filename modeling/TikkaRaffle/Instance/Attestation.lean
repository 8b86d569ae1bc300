import TikkaRaffle.Instance.Helpers

/-! The draw attestation, and what a verifier recomputes from it: the selection
run again on the attested seed and the stored ticket owners. -/
namespace TikkaRaffle.Instance

open TikkaRaffle.Lib

structure DrawAttestation where
  fairnessData : FairnessData
  metadataHash : Digest
  winnerAddresses : List Address
  winningTicketIds : List Nat
  randomnessSource : RandomnessSource
  configHash : Digest
  totalTicketsSold : Nat
  prizeDistributionBp : List Nat
  prizeAmount : Int
  ticketPrice : Int
deriving DecidableEq

def computeConfigHash (h : Host) (raffle : Raffle) : Digest :=
  h.sha256 (h.toXdr (.tuple [
    .u32 raffle.maxTickets,
    .i128 raffle.ticketPrice,
    .i128 raffle.prizeAmount,
    .bytes (h.toXdr (.vec (raffle.prizes.map .u32))),
    .bytes (h.toXdr (.randomnessSource raffle.randomnessSource)),
    .bytes (h.toXdr (.address raffle.paymentToken)),
    .bytes (h.toXdr (.address raffle.creator))]))

def getDrawAttestation (h : Host) (w : World) : Result DrawAttestation := do
  let raffle ← readRaffle w
  ensure (raffle.status = .finalized ∨ raffle.status = .claimed) .invalidStatus
  let fairnessMeta ← okOr w.randomnessSeed .invalidStatus
  let winningTicketIds ← fairnessMeta.winningTicketIndices.mapM fun index => trapU32 (index + 1)
  return {
    fairnessData := {
      seed := fairnessMeta.seed
      randomnessSource := fairnessMeta.randomnessSource
      ticketIds := List.range' 1 raffle.ticketsSold
      winningTicketIndices := fairnessMeta.winningTicketIndices
      drawTimestamp := fairnessMeta.drawTimestamp
      drawSequence := fairnessMeta.drawSequence
      uniqueWinners := fairnessMeta.uniqueWinners
      -- missing in this literal of the source; filled as `get_fairness_data` fills it
      quorumContributions := fairnessMeta.quorumContributions }
    metadataHash := raffle.metadataHash
    winnerAddresses := raffle.winners.map Winner.address
    winningTicketIds := winningTicketIds
    randomnessSource := raffle.randomnessSource
    configHash := computeConfigHash h raffle
    totalTicketsSold := raffle.ticketsSold
    prizeDistributionBp := raffle.prizes
    prizeAmount := raffle.prizeAmount
    ticketPrice := raffle.ticketPrice }

def probeTiers (w : World) (totalTickets : Nat) : List Nat → List Address → List Nat
  | [], _ => []
  | candidate :: rest, winners =>
      let index := resolveUniqueWinner w totalTickets winners candidate
      index :: probeTiers w totalTickets rest
        (winners ++ (getTicketOwner w (index + 1)).toList)

/-- The indices a verifier arrives at from a seed, the sizes of the draw and
the ticket owners. -/
def reproduceIndices (w : World) (seed totalTickets winnerCount : Nat) (uniqueWinners : Bool) :
    Option (List Nat) :=
  (selectWinnerIndices seed totalTickets winnerCount).map fun candidates =>
    if uniqueWinners then probeTiers w totalTickets candidates [] else candidates

section Owners

variable {w w' : World} (hticket : w'.ticket = w.ticket)

include hticket

theorem getTicketOwner_congr : getTicketOwner w' = getTicketOwner w := by
  funext ticketId
  unfold getTicketOwner
  rw [hticket]

theorem probeTiers_congr (totalTickets : Nat) (candidates : List Nat) (winners : List Address) :
    probeTiers w' totalTickets candidates winners =
      probeTiers w totalTickets candidates winners := by
  induction candidates generalizing winners with
  | nil => rfl
  | cons candidate rest ih =>
    simp only [probeTiers, resolveUniqueWinner, getTicketOwner_congr hticket, ih]

/-- A verifier reads nothing but the seed, the sizes and the owners. -/
theorem reproduceIndices_congr (seed totalTickets winnerCount : Nat) (uniqueWinners : Bool) :
    reproduceIndices w' seed totalTickets winnerCount uniqueWinners =
      reproduceIndices w seed totalTickets winnerCount uniqueWinners := by
  simp only [reproduceIndices, probeTiers_congr hticket]

end Owners

/-- The tier loop of the draw is the verifier's computation, and its winners
own the tickets it picked. -/
theorem drawTiers_reproducible {c : Ctx} {w : World} {raffle : Raffle}
    {candidates indices : List Nat} {tier : Nat} {before winners : List Address}
    {events : List Event}
    (hok : drawTiers c w raffle candidates tier before = .ok (indices, winners, events)) :
    indices = (if raffle.uniqueWinners then probeTiers w raffle.ticketsSold candidates before
      else candidates) ∧
      ∃ drawn, winners = before ++ drawn ∧
        drawn.map some = indices.map fun index => getTicketOwner w (index + 1) := by
  induction candidates generalizing tier before indices winners events with
  | nil =>
    cases hok
    exact ⟨by simp [probeTiers], [], by simp⟩
  | cons candidate rest ih =>
    simp only [drawTiers, except_bind_ok, okOr_ok, Prod.exists, except_pure_ok,
      Prod.mk.injEq] at hok
    obtain ⟨owner, howner, indices', winners', events', hrest, rfl, rfl, rfl⟩ := hok
    obtain ⟨hindices, drawn, hwinners, howners⟩ := ih hrest
    refine ⟨?_, owner :: drawn, ?_, ?_⟩
    · rw [hindices]
      by_cases hunique : raffle.uniqueWinners = true
      · simp only [hunique, if_true] at howner ⊢
        rw [probeTiers, howner]
        rfl
      · simp only [hunique, Bool.false_eq_true, if_false]
    · rw [hwinners, List.append_assoc]
      rfl
    · rw [List.map_cons, List.map_cons, howners, howner]

end TikkaRaffle.Instance
