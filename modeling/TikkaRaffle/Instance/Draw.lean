import TikkaRaffle.Instance.Helpers

/-! The draw: closing ticket sales, requesting randomness, accepting it from
one oracle or a quorum, and the timeout fallback. -/
namespace TikkaRaffle.Instance

open TikkaRaffle.Lib Constants

/-- Commit hashes of the sold tickets in id order. -/
def combinedCommits (w : World) (ticketsSold : Nat) : List Digest :=
  (List.range' 1 ticketsSold).filterMap fun ticketId =>
    (w.commitEntry ticketId).map CommitRevealEntry.hash

def announceRequest (c : Ctx) (w : World) (raffle : Raffle) (oracles : List Address)
    (requestId : Nat) : World :=
  let w := emit w (.drawTriggered raffle.creator raffle.ticketsSold c.timestamp)
  oracles.foldl (fun w oracle => emit w (.randomnessRequested oracle requestId c.timestamp)) w

/-- A refused request undoes the transition before the error is returned. -/
def requestForDraw (h : Host) (c : Ctx) (w : World) (raffle : Raffle)
    (preStatus : RaffleStatus) (oracles : List Address) : Result World :=
  match requestRandomness h c w with
  | .ok (w, requestId) => .ok (announceRequest c w raffle oracles requestId)
  | .error e => do
      let _ ← revertStatus w raffle preStatus
      .error e

def failRaffle (c : Ctx) (w : World) (raffle : Raffle) : Result World := do
  let reason := if raffle.ticketsSold = 0 then FailureReason.zeroTicketsSold else .minTicketsNotMet
  let (w, raffle) ← transitionStatus w raffle .failed c.timestamp
  return emit w (.raffleFailed raffle.creator reason raffle.ticketsSold c.timestamp)

def onChainSeed (h : Host) (c : Ctx) (w : World) (raffle : Raffle) : Nat :=
  let commits := combinedCommits w raffle.ticketsSold
  if raffle.randomnessSource = .commitReveal ∧ commits ≠ [] then
    seedOfDigest (h.sha256 (commits.flatMap Vector.toList))
  else buildInternalSeedU64 h c

def finalizeRaffle (h : Host) (c : Ctx) (w : World) : Result World := do
  ensure (w.drawingLock.getD false = false) .drawingAlreadyInProgress
  let raffle ← readRaffle w
  requireAuth h c raffle.creator
  ensure (raffle.status = .active ∨ raffle.status = .drawing) .invalidStatus
  let timeEnded := raffle.noDeadline = false ∧ raffle.endTime ≤ c.timestamp
  let ticketsFull := raffle.maxTickets ≤ raffle.ticketsSold
  ensure (¬(raffle.status = .active ∧ ¬timeEnded ∧ ¬ticketsFull)) .invalidStateTransition
  if raffle.ticketsSold = 0 ∨ raffle.ticketsSold < raffle.minTickets then
    failRaffle c w raffle
  else
    let preStatus := raffle.status
    let (w, raffle) ← transitionToDrawing w raffle c.timestamp
    match raffle.randomnessSource with
    | .quorum quorum => do
        let w ← requestForDraw h c w raffle preStatus quorum.oracles
        return { w with quorumSubmittedOracles := some [] }
    | .external => requestForDraw h c w raffle preStatus [raffle.oracleAddress.getD h.self]
    | _ =>
        let seed := onChainSeed h c w raffle
        doFinalizeWithSeed h c
          (emit w (.drawTriggered raffle.creator raffle.ticketsSold c.timestamp))
          raffle seed .prng none

def provideRandomness (h : Host) (c : Ctx) (w : World) (randomSeed : Nat) (publicKey : Digest)
    (proof : Signature) (requestId : Nat) : Result World := do
  ensure (w.drawingLock.getD false = true) .drawingAlreadyComplete
  let raffle ← readRaffle w
  match raffle.randomnessSource with
  | .quorum _ => .error (.err .invalidParameters)
  | _ => do
      let oracle ← okOr raffle.oracleAddress .oracleNotSet
      requireAuth h c oracle
      ensure (raffle.status = .drawing) .invalidStateTransition
      ensure (w.randomnessRequested.getD false = true) .noRandomnessRequest
      let earliest ←
        trapU32 (w.randomnessRequestLedger.getD 0 + randomnessMinDelayLedgers)
      ensure (earliest ≤ c.sequence) .randomnessTooEarly
      let stored ← okOr w.randomnessRequestId .noRandomnessRequest
      ensure (stored = requestId) .invalidParameters
      ensure (deriveRandomSeedFromProof h proof = randomSeed) .invalidParameters
      if h.ed25519Verify publicKey (buildVrfProofMessage h requestId) proof then
        doFinalizeWithSeed h c
          (emit w (.randomnessReceived oracle randomSeed requestId c.timestamp))
          raffle randomSeed .vrf none
      else .error .trap

def storedSeeds (w : World) (submitted : List Address) : List (Address × Nat) :=
  submitted.filterMap fun oracle => (w.quorumSeed oracle).map fun seed => (oracle, seed)

def provideQuorumRandomness (h : Host) (c : Ctx) (w : World) (oracle : Address)
    (randomSeed requestId : Nat) : Result World := do
  ensure (w.drawingLock.getD false = true) .drawingNotStarted
  requireAuth h c oracle
  let raffle ← readRaffle w
  let stored ← okOr w.randomnessRequestId .noRandomnessRequest
  ensure (stored = requestId) .invalidParameters
  match raffle.randomnessSource with
  | .quorum quorum => do
      ensure (oracle ∈ quorum.oracles) .oracleNotRegistered
      ensure ((w.quorumSeed oracle).isNone) .duplicateOracleSubmission
      let submitted := w.quorumSubmittedOracles.getD [] ++ [oracle]
      let w := emit { w with
        quorumSeed := fun a => if a = oracle then some randomSeed else w.quorumSeed a
        quorumSubmittedOracles := some submitted }
        (.oracleSeedDelivered oracle randomSeed requestId submitted.length quorum.k c.timestamp)
      if quorum.k ≤ submitted.length then
        let seeds := storedSeeds w submitted
        doFinalizeWithSeed h c w raffle (aggregateQuorumSeeds h seeds) .quorum (some seeds)
      else .ok w
  | _ => .error (.err .invalidParameters)

def triggerRandomnessFallback (h : Host) (c : Ctx) (w : World) (caller : Address)
    (doRefund : Bool) : Result World := do
  ensure (w.drawingLock.getD false = false) .drawingAlreadyInProgress
  requireAuth h c caller
  let raffle ← readRaffle w
  let admin ← okOr w.admin .notAuthorized
  ensure (caller = raffle.creator ∨ caller = admin) .notAuthorized
  ensure (raffle.status = .drawing) .invalidStateTransition
  ensure (w.randomnessRequested.getD false = true) .noRandomnessRequest
  let requestLedger := w.randomnessRequestLedger.getD 0
  let earliest ← trapU32 (requestLedger + oracleTimeoutLedgers)
  ensure (earliest ≤ c.sequence) .fallbackTooEarly
  if doRefund then
    let (w, raffle) ← transitionStatus w raffle .cancelled c.timestamp
    return emit (clearLock (clearRequest w))
      (.raffleCancelled raffle.creator .oracleTimeout raffle.ticketsSold raffle.prizeDeposited
        c.timestamp)
  else
    let seed := buildInternalSeedU64 h c
    doFinalizeWithSeed h c (emit w (.randomnessFallbackTriggered caller seed requestLedger
      c.sequence c.timestamp)) raffle seed .fallback none

end TikkaRaffle.Instance
