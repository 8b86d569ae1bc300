import TikkaRaffle.Instance.Admin

/-! The solvency assertion the tests run after every successful call. It derives
what is owed from storage and panics when the balance does not cover it; a
panic is a trap here. -/
namespace TikkaRaffle.Instance

open TikkaRaffle.Lib

/-- `expect` and `unwrap_or_else(panic)`. -/
def expect {α : Type} (result : Result α) : Result α :=
  match result with
  | .ok a => .ok a
  | .error _ => .error .trap

def assertThat (condition : Prop) [Decidable condition] : Result Unit :=
  if condition then .ok () else .error .trap

def checkedAdd (lhs rhs : Int) : Result Int := trapI128 (lhs + rhs)

def ticketPaymentAmount (raffle : Raffle) (ticketId : Nat) : Result Int :=
  let discountedTickets := raffle.maxTickets * raffle.earlyBirdTicketPercentage / 100 % 2 ^ 32
  if discountedTickets < ticketId ∨ raffle.earlyBirdDiscountBp = 0 then .ok raffle.ticketPrice
  else do
    let scaled ← trapI128 (raffle.ticketPrice * raffle.earlyBirdDiscountBp)
    trapI128 (raffle.ticketPrice - scaled.tdiv 10000)

def unrefundedTicketTotal (refunded : Nat → Option Bool) (raffle : Raffle) : Result Int :=
  if raffle.status = .finalized ∨ raffle.status = .claimed then .ok 0
  else
    (List.range' 1 raffle.ticketsSold).foldlM (fun total ticketId =>
      if (refunded ticketId).isSome then .ok total
      else do
        let payment ← ticketPaymentAmount raffle ticketId
        checkedAdd total payment) 0

/-- The claim flags are those of the winner entries; the separate list the
assertion names is not a field of the raffle. -/
def unclaimedPrizeTotal (reading : TierReading) (raffle : Raffle) : Result Int :=
  if raffle.prizeDeposited = false then .ok 0
  else if raffle.status ≠ .finalized then .ok raffle.prizeAmount
  else
    (List.range raffle.winners.length).foldlM (fun total tierIndex =>
      if (raffle.winners[tierIndex]?.map Winner.claimed).getD false then .ok total
      else do
        let amount ← expect (calculateTierPrize reading raffle tierIndex)
        checkedAdd total amount) 0

def assertSolvent (h : Host) (w : World) : Result Unit := do
  let raffle ← expect (readRaffle w)
  let prizeOwed ← unclaimedPrizeTotal h.tierReading raffle
  let unrefunded ← unrefundedTicketTotal w.ticketRefunded raffle
  let paymentOwed ← checkedAdd unrefunded (w.accumulatedFees.getD 0)
  let paymentBalance := w.balance raffle.paymentToken h.self
  if raffle.paymentToken = raffle.prizeToken then do
    let combinedOwed ← checkedAdd paymentOwed prizeOwed
    assertThat (combinedOwed ≤ paymentBalance)
  else do
    assertThat (prizeOwed ≤ w.balance raffle.prizeToken h.self)
    assertThat (paymentOwed ≤ paymentBalance)

end TikkaRaffle.Instance
