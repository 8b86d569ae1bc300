import TikkaRaffle.Factory.Governance

/-! What the deployed raffles report to the factory: volumes, participants and
leaderboard entries. Each report names the contract that makes the call. -/
namespace TikkaRaffle.Factory

open TikkaRaffle.Lib TikkaRaffle.Instance Function

def leaderboardCap : Nat := 10

def requireAuthFrom (h : Host) (c : Ctx) (caller a : Address) : Result Unit :=
  check ((a ∈ c.auths ∧ a ≠ h.self) ∨ a = caller) .trap

def requireFactoryRaffle (s : State) (caller : Address) : Result Unit :=
  ensure ((s.isFactoryRaffle caller).getD false = true) .callerNotRegisteredRaffle

def recordVolume (s : State) (caller asset : Address) (amount : Int) : Result State := do
  requireFactoryRaffle s caller
  let totalVolume := (s.totalVolumePerAsset asset).getD 0 + amount
  ensure (fitsI128 totalVolume) .arithmeticOverflow
  return { s with totalVolumePerAsset := update s.totalVolumePerAsset asset (some totalVolume) }

def trackParticipant (h : Host) (c : Ctx) (s : State) (caller participant : Address) :
    Result State := do
  requireFactoryRaffle s caller
  requireAuthFrom h c caller participant
  if (s.uniqueParticipant participant).isNone then
    let count ← trapU32 (s.totalUniqueParticipants.getD 0 + 1)
    return { s with
      uniqueParticipant := update s.uniqueParticipant participant (some true)
      totalUniqueParticipants := some count }
  else return s

def exchange (board : List (Address × Int)) (i j : Nat) : List (Address × Int) :=
  match board[i]?, board[j]? with
  | some left, some right => if left.2 < right.2 then (board.set i right).set j left else board
  | _, _ => board

def sortBoard (board : List (Address × Int)) : List (Address × Int) :=
  (List.range board.length).foldl (fun board i =>
    (List.range' (i + 1) (board.length - (i + 1))).foldl (fun board j => exchange board i j)
      board) board

def upsertLeaderboard (board : Option (List (Address × Int))) (raffle : Address) (metric : Int) :
    Option (List (Address × Int)) :=
  some ((sortBoard ((board.getD []).filter (·.1 ≠ raffle) ++ [(raffle, metric)])).take
    leaderboardCap)

def recordLeaderboardEntry (h : Host) (c : Ctx) (s : State) (caller raffleAddress : Address)
    (ticketsSold prizeAmount totalVolume : Int) : Result State := do
  requireFactoryRaffle s caller
  requireAuthFrom h c caller raffleAddress
  ensure ((s.validRaffle raffleAddress).isSome) .notAuthorized
  return { s with
    topByTickets := upsertLeaderboard s.topByTickets raffleAddress ticketsSold
    topByPrize := upsertLeaderboard s.topByPrize raffleAddress prizeAmount
    topByVolume := upsertLeaderboard s.topByVolume raffleAddress totalVolume }

def answer (h : Host) (c : Ctx) (caller : Address) (s : State) : FactoryCall → Result State
  | .recordVolume asset amount => Factory.recordVolume s caller asset amount
  | .trackParticipant participant => Factory.trackParticipant h c s caller participant
  | .recordLeaderboardEntry raffle ticketsSold prizeAmount totalVolume =>
      Factory.recordLeaderboardEntry h c s caller raffle ticketsSold prizeAmount totalVolume

/-- Several reports of one call; the first refusal ends them. -/
def answerAll (h : Host) (c : Ctx) (caller : Address) (s : State) (notices : List FactoryCall) :
    Result State :=
  notices.foldlM (answer h c caller) s

example : sortBoard [(⟨1⟩, 3), (⟨2⟩, 9), (⟨3⟩, 5)] = [(⟨2⟩, 9), (⟨3⟩, 5), (⟨1⟩, 3)] := by decide

end TikkaRaffle.Factory
