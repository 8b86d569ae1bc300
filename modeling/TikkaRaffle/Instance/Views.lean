import TikkaRaffle.Instance.Tickets

/-! The views of a raffle that compute something: the quote, the dashboard, and how
many tickets an address may still receive. The entry point and the view module each
have a function of that last name. -/
namespace TikkaRaffle.Instance

open TikkaRaffle.Lib

def previewBuy (w : World) (quantity : Nat) : Result BuyQuote := do
  let raffle ← readRaffle w
  calculateBuyQuote raffle quantity

def getStats (c : Ctx) (w : World) : Result RaffleStats := do
  let raffle ← readRaffle w
  let buyers := w.ticketBuyers.getD []
  let timeRemaining :=
    if raffle.noDeadline then 0
    else if c.timestamp < raffle.endTime then raffle.endTime - c.timestamp
    else 0
  let grossRevenue ← checkedI128 (raffle.ticketsSold * raffle.ticketPrice)
  return {
    ticketsSold := raffle.ticketsSold
    uniqueBuyers := buyers.length
    grossRevenue := grossRevenue
    feesAccrued := w.accumulatedFees.getD 0
    prizeFunded := raffle.prizeDeposited
    status := raffle.status
    timeRemaining := timeRemaining }

/-- The per-address cap; when it is not set, an address without multiple tickets is
held to one. -/
def effectiveMaxTicketsPerAddress (raffle : Raffle) : Option Nat :=
  if 0 < raffle.maxTicketsPerAddress then some raffle.maxTicketsPerAddress
  else if raffle.allowMultiple = false then some 1
  else none

/-- The entry point; without a cap it answers the largest number there is. -/
def getRemainingTicketAllowance (w : World) (owner : Address) : Result Nat := do
  let raffle ← readRaffle w
  match effectiveMaxTicketsPerAddress raffle with
  | none => return 2 ^ 32 - 1
  | some cap => return cap - (w.ticketCount owner).getD 0

namespace Views

def getRemainingTicketAllowance (w : World) (owner : Address) : Result Nat := do
  let raffle ← readRaffle w
  let currentCount := (w.ticketCount owner).getD 0
  let perAddressLimit :=
    if 0 < raffle.maxTicketsPerAddress then raffle.maxTicketsPerAddress
    else if raffle.allowMultiple = false then 1
    else raffle.maxTickets
  let globalRemaining := raffle.maxTickets - raffle.ticketsSold
  return min globalRemaining (perAddressLimit - currentCount)

end Views

theorem getRemainingTicketAllowance_ok {w : World} {r : Raffle} (hr : w.raffle = some r)
    (owner : Address) :
    getRemainingTicketAllowance w owner =
      .ok (match effectiveMaxTicketsPerAddress r with
        | none => 2 ^ 32 - 1
        | some cap => cap - (w.ticketCount owner).getD 0) := by
  rw [getRemainingTicketAllowance, readRaffle_ok.mpr hr]
  cases hcap : effectiveMaxTicketsPerAddress r <;>
    simp only [bind, Except.bind, hcap, pure, Except.pure]

theorem checkCaps_iff {w : World} {raffle : Raffle} {holder : Address} {quantity : Nat} :
    (checkCaps w raffle holder quantity).isOk = true ↔
      raffle.ticketsSold + quantity < 2 ^ 32 ∧ raffle.ticketsSold + quantity ≤ raffle.maxTickets ∧
        ¬(raffle.maxTicketsPerAddress = 0 ∧ raffle.allowMultiple = false ∧
          (0 < (w.ticketCount holder).getD 0 ∨ 1 < quantity)) ∧
        (0 < raffle.maxTicketsPerAddress →
          (w.ticketCount holder).getD 0 + quantity < 2 ^ 32 ∧
            (w.ticketCount holder).getD 0 + quantity ≤ raffle.maxTicketsPerAddress) := by
  rw [except_isOk_iff]
  by_cases hcap : 0 < raffle.maxTicketsPerAddress
  · simp only [checkCaps, except_bind_ok, checkedU32_ok, ensure_ok, hcap, if_true, true_implies,
      exists_const, and_assoc, exists_eq_left', exists_and_left]
  · simp only [checkCaps, except_bind_ok, checkedU32_ok, ensure_ok, hcap, if_false, false_implies,
      and_true, exists_const, and_assoc, exists_eq_left', exists_and_left]

end TikkaRaffle.Instance
