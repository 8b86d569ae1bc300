import TikkaRaffle.Instance.Admin
import TikkaRaffle.Lib.Tally
import TikkaRaffle.Lib.Trace

/-! The raffle as an escrow. The books hold what the entry points account for:
the raffle record, its tickets, the draw flags, the balance of the payment
token and the logs. `Move` lists every way the books can change; storage
layout, authorisation and notifications are left behind. -/
namespace TikkaRaffle.Escrow

open TikkaRaffle.Lib TikkaRaffle.Instance

inductive Receipt where
  | purchase (ticketIds : List Nat) (paid fee : Int)
  | claim (tier : Nat) (gross net fee : Int)
  | sweep (tier : Nat) (amount : Int)
deriving DecidableEq

structure Books where
  raffle : Raffle
  ticket : Nat → Option Ticket
  refunded : Nat → Option Bool
  fees : Int
  lock : Bool
  requested : Bool
  requestId : Option Nat
  drawn : Bool
  /-- The escrow's balance of the payment token. -/
  held : Int
  transfers : List Transfer
  receipts : List Receipt
  trail : List (RaffleStatus × RaffleStatus)

def inflow (self token : Address) (t : Transfer) : Int :=
  if t.token = token then
    (if t.target = self then t.amount else 0) - (if t.source = self then t.amount else 0)
  else 0

def netInflow (self token : Address) (ts : List Transfer) : Int :=
  (ts.map (inflow self token)).sum

def feeTransfers (self : Address) (raffle : Raffle) (purpose : Purpose) (fee : Int) :
    List Transfer :=
  if 0 < fee then
    raffle.treasuryAddress.toList.map fun treasury =>
      ⟨purpose, raffle.paymentToken, self, treasury, fee⟩
  else []

def payoutTransfers (self : Address) (raffle : Raffle) (winner : Address) (tier : Nat)
    (net : Int) : List Transfer :=
  if 0 < net then [⟨.prizePayout tier, raffle.paymentToken, self, winner, net⟩] else []

/-- Who pays for how many tickets, who gets them, and whether bundles and the
early-bird window apply. -/
structure Order where
  payer : Address
  holder : Address
  quantity : Nat
  bundled : Bool
deriving DecidableEq

def Order.Priced (order : Order) (raffle : Raffle) (total fee : Int) : Prop :=
  if order.bundled then
    ∃ quote, calculateBuyQuote raffle order.quantity = .ok quote ∧
      quote.netToPay = total ∧ quote.fee = fee
  else
    total = raffle.ticketPrice * order.quantity ∧
      fee = (total * raffle.protocolFeeBp).tdiv 10000

namespace Books

def post (self : Address) (b : Books) (ts : List Transfer) : Books :=
  { b with
    held := b.held + netInflow self b.raffle.paymentToken ts
    transfers := b.transfers ++ ts }

def enter (b : Books) (status : RaffleStatus) : Books :=
  { b with
    raffle := b.raffle.setStatus status
    trail := b.trail ++ [(b.raffle.status, status)] }

def setDeposited (b : Books) (deposited : Bool) : Books :=
  { b with raffle := b.raffle.setPrizeDeposited deposited }

def arm (b : Books) (requestId : Option Nat) : Books :=
  { b with
    lock := true
    requested := b.requested || requestId.isSome
    requestId := requestId.or b.requestId }

def disarm (b : Books) : Books :=
  { b with lock := false, requested := false, requestId := none }

def sell (self : Address) (b : Books) (order : Order) (total fee : Int) (time : Nat) : Books :=
  { b.post self (⟨.ticketPayment, b.raffle.paymentToken, order.payer, self, total⟩ ::
      feeTransfers self b.raffle .ticketFee fee) with
    raffle := b.raffle.setTicketsSold (b.raffle.ticketsSold + order.quantity)
    fees := b.fees + max fee 0
    ticket := fun i =>
      if b.raffle.ticketsSold < i ∧ i ≤ b.raffle.ticketsSold + order.quantity then
        some ⟨i, order.holder, time, i, order.payer, b.raffle.ticketPrice⟩
      else b.ticket i
    receipts := b.receipts ++
      [.purchase (List.range' (b.raffle.ticketsSold + 1) order.quantity) total fee] }

def crown (b : Books) (winners : List Address) (time : Nat) : Books :=
  { b with
    raffle := { b.raffle with
      winners := winners.map fun address => ⟨address, false⟩
      finalizedAt := some time }
    drawn := true }

def settle (b : Books) : Books :=
  if b.raffle.winners.all Winner.claimed then b.enter .claimed else b

def markTier (b : Books) (tier : Nat) : Books :=
  settle { b with raffle := b.raffle.claimTier tier }

def file (b : Books) (receipt : Receipt) : Books :=
  { b with receipts := b.receipts ++ [receipt] }

def addFees (b : Books) (amount : Int) : Books := { b with fees := b.fees + amount }

def markRefund (b : Books) (ticketId : Nat) : Books :=
  { b with refunded := fun i => if i = ticketId then some true else b.refunded i }

def wiped (b : Books) : Books :=
  { b.disarm with
    ticket := fun i => if 1 ≤ i ∧ i ≤ b.raffle.ticketsSold then none else b.ticket i
    refunded := fun i => if 1 ≤ i ∧ i ≤ b.raffle.ticketsSold then none else b.refunded i
    fees := 0 }

@[simp] theorem post_raffle (self : Address) (b : Books) (ts : List Transfer) :
    (b.post self ts).raffle = b.raffle := rfl

@[simp] theorem file_raffle (b : Books) (receipt : Receipt) : (b.file receipt).raffle = b.raffle :=
  rfl

@[simp] theorem addFees_raffle (b : Books) (amount : Int) : (b.addFees amount).raffle = b.raffle :=
  rfl

theorem post_nil (self : Address) (b : Books) : b.post self [] = b := by
  simp only [post, netInflow, List.map_nil, List.sum_nil, add_zero, List.append_nil]

theorem post_post (self : Address) (b : Books) (first last : List Transfer) :
    (b.post self first).post self last = b.post self (first ++ last) := by
  simp only [post, netInflow, List.map_append, List.sum_append, add_assoc, List.append_assoc]

theorem settle_open {b : Books} (hopen : b.raffle.winners.all Winner.claimed = false) :
    b.settle = b := by
  simp [settle, hopen]

theorem settle_closed {b : Books} (hall : b.raffle.winners.all Winner.claimed = true) :
    b.settle = b.enter .claimed := by
  simp only [settle, hall, if_true]

theorem settle_raffle (b : Books) :
    b.settle.raffle.paymentToken = b.raffle.paymentToken ∧
      b.settle.raffle.prizeToken = b.raffle.prizeToken ∧
      b.settle.raffle.treasuryAddress = b.raffle.treasuryAddress := by
  unfold settle
  split <;> exact ⟨rfl, rfl, rfl⟩

section MarkTier

variable (b : Books) (tier : Nat)

theorem markTier_raffle : (b.markTier tier).raffle = (b.raffle.claimTier tier).setStatus
    (if (markClaimed b.raffle.winners tier).all Winner.claimed then .claimed
      else b.raffle.status) := by
  unfold markTier settle
  by_cases hall : (markClaimed b.raffle.winners tier).all Winner.claimed = true
  · simp only [Raffle.claimTier_winners, hall, if_true]
    rfl
  · simp only [Raffle.claimTier_winners, hall]
    rfl

theorem markTier_raffle_congr {b' : Books} (hraffle : b'.raffle = b.raffle) :
    (b'.markTier tier).raffle = (b.markTier tier).raffle := by
  rw [markTier_raffle, markTier_raffle, hraffle]

@[simp] theorem markTier_ticket : (b.markTier tier).ticket = b.ticket := by
  unfold markTier settle
  split <;> rfl

@[simp] theorem markTier_refunded : (b.markTier tier).refunded = b.refunded := by
  unfold markTier settle
  split <;> rfl

@[simp] theorem markTier_fees : (b.markTier tier).fees = b.fees := by
  unfold markTier settle
  split <;> rfl

@[simp] theorem markTier_held : (b.markTier tier).held = b.held := by
  unfold markTier settle
  split <;> rfl

@[simp] theorem markTier_transfers : (b.markTier tier).transfers = b.transfers := by
  unfold markTier settle
  split <;> rfl

@[simp] theorem markTier_receipts : (b.markTier tier).receipts = b.receipts := by
  unfold markTier settle
  split <;> rfl

@[simp] theorem markTier_requestId : (b.markTier tier).requestId = b.requestId := by
  unfold markTier settle
  split <;> rfl

end MarkTier

theorem markTier_pay (self : Address) (b : Books) (tier : Nat) (ts : List Transfer)
    (fee : Int) (receipt : Receipt) :
    (((b.markTier tier).post self ts).addFees fee).file receipt =
      (((b.post self ts).addFees fee).file receipt).markTier tier := by
  by_cases hall : (markClaimed b.raffle.winners tier).all Winner.claimed = true
  · simp only [markTier]
    rw [settle_closed hall, settle_closed hall]
    rfl
  · rw [Bool.not_eq_true] at hall
    simp only [markTier]
    rw [settle_open hall, settle_open hall]
    rfl

theorem addFees_zero (b : Books) : b.addFees 0 = b := by
  simp only [addFees, add_zero]

/-- A request after the lock is the same as a draw armed with the request. -/
theorem arm_request (b : Books) (requestId : Nat) :
    { b.arm none with requested := true, requestId := some requestId } =
      b.arm (some requestId) := by
  simp only [arm, Option.isSome_some, Bool.or_true, Option.some_or]

end Books

/-- The part of a move that conditions on a run may mention. -/
inductive Act where
  | retune
  | setFee (bp : Nat)
  | deposit
  | buy (order : Order)
  | startDraw
  | finish
  | fail
  | cancel
  | abandon
  | emergency
  | claim (tier : Nat)
  | sweep (tier : Nat)
  | returnPrize
  | refund (ticketId : Nat)
  | withdraw (amount : Int)
  | release (token : Address)
  | wipe
  | outside (t : Transfer)

structure Sellable (escrow : Address) (b : Books) (order : Order) (total fee : Int) : Prop where
  active : b.raffle.status = .active
  unlocked : b.lock = false
  deposited : b.raffle.prizeDeposited = true
  quantity_pos : 0 < order.quantity
  payer_ne : order.payer ≠ escrow
  priced : order.Priced b.raffle total fee
  total_nonneg : 0 ≤ total

/-- A tier that can be settled now, with its amount. -/
structure Payable (h : Host) (b : Books) (tier : Nat) (winner : Address) (amount : Int) :
    Prop where
  finalized : b.raffle.status = .finalized
  unclaimed : b.raffle.winners[tier]? = some ⟨winner, false⟩
  priced : calculateTierPrize h.tierReading b.raffle tier = .ok amount
  positive : 0 < amount
  covered : amount ≤ b.held

def Refundable (r : Raffle) : Prop := r.status = .cancelled ∨ r.status = .failed

def Settled (r : Raffle) : Prop := r.status = .finalized ∨ r.status = .claimed

instance (r : Raffle) : Decidable (Settled r) := inferInstanceAs (Decidable (_ ∨ _))

/-- Every way the books can change. -/
inductive Move (h : Host) : Act → Books → Books → Prop where
  | retune (b : Books) (oracle : Option Address) (deadline : Nat) (salesPaused : Bool) :
      Move h .retune b { b with
        raffle := { b.raffle with
          oracleAddress := oracle
          swapDeadlineSeconds := deadline
          ticketSalesPaused := salesPaused } }
  | setFee (b : Books) (bp : Nat) (hbp : bp ≤ Constants.maxProtocolFeeBp)
      (hsold : b.raffle.ticketsSold = 0) :
      Move h (.setFee bp) b { b with raffle := { b.raffle with protocolFeeBp := bp } }
  | deposit (b : Books) (hstatus : b.raffle.status = .pendingPrize)
      (hdeposited : b.raffle.prizeDeposited = false) (hcreator : b.raffle.creator ≠ h.self)
      (hprize : 0 ≤ b.raffle.prizeAmount) :
      Move h .deposit b (((b.post h.self [⟨.prizeDeposit, b.raffle.paymentToken,
        b.raffle.creator, h.self, b.raffle.prizeAmount⟩]).setDeposited true).enter .active)
  | buy (b : Books) (order : Order) (total fee : Int) (time : Nat)
      (hsale : Sellable h.self b order total fee)
      (hsupply : b.raffle.ticketsSold + order.quantity < b.raffle.maxTickets) :
      Move h (.buy order) b (b.sell h.self order total fee time)
  | sellOut (b : Books) (order : Order) (total fee : Int) (time : Nat) (request : Option Nat)
      (hsale : Sellable h.self b order total fee)
      (hsupply : b.raffle.ticketsSold + order.quantity = b.raffle.maxTickets)
      (hrequest : request.isSome = true ↔ b.raffle.randomnessSource = .external)
      (hfresh : request.isSome = true → b.requested = false) :
      Move h (.buy order) b
        (((b.sell h.self order total fee time).enter .drawing).arm request)
  | startDraw (b : Books) (request : Option Nat) (hstatus : b.raffle.status = .active)
      (hlock : b.lock = false) (hsold : 0 < b.raffle.ticketsSold)
      (hmin : b.raffle.minTickets ≤ b.raffle.ticketsSold)
      (hrequest : request.isSome = true ↔ b.raffle.randomnessSource = .external ∨
        ∃ config, b.raffle.randomnessSource = .quorum config)
      (hfresh : request.isSome = true → b.requested = false) :
      Move h .startDraw b ((b.enter .drawing).arm request)
  | finish (b : Books) (winners : List Address) (time : Nat)
      (hstatus : b.raffle.status = .drawing)
      (hwinners : winners.length = b.raffle.prizes.length)
      (htiers : b.raffle.prizes.length ≤ b.raffle.ticketsSold) :
      Move h .finish b (((b.enter .finalized).crown winners time).disarm)
  | fail (b : Books) (hstatus : b.raffle.status = .active)
      (hsold : b.raffle.ticketsSold = 0 ∨ b.raffle.ticketsSold < b.raffle.minTickets) :
      Move h .fail b (b.enter .failed)
  | cancel (b : Books) (hstatus : b.raffle.status = .active ∨ b.raffle.status = .drawing) :
      Move h .cancel b (b.enter .cancelled)
  | abandon (b : Books) (hstatus : b.raffle.status = .drawing) (hlock : b.lock = false) :
      Move h .abandon b ((b.enter .cancelled).disarm)
  | emergency (b : Books) (refunds : Int) (hstatus : b.raffle.status = .drawing)
      (hdeposited : b.raffle.prizeDeposited = true)
      (hrefunds : outstandingTicketRefunds b.refunded b.raffle = .ok refunds)
      (hcover : refunds + b.fees ≤ b.held - b.raffle.prizeAmount)
      (hprize : 0 ≤ b.raffle.prizeAmount) :
      Move h .emergency b (((b.setDeposited false).enter .cancelled).post h.self
        [⟨.emergencyWithdrawal, b.raffle.paymentToken, h.self, b.raffle.creator,
          b.raffle.prizeAmount⟩])
  | claim (b : Books) (tier : Nat) (winner : Address) (amount fee : Int)
      (hpay : Payable h b tier winner amount) (hwinner : winner ≠ h.self)
      (hfee : claimFee b.raffle amount = .ok fee) :
      Move h (.claim tier) b ((((b.post h.self
        (payoutTransfers h.self b.raffle winner tier (amount - fee) ++
          feeTransfers h.self b.raffle (.claimFee tier) fee)).addFees (max fee 0)).file
            (.claim tier amount (amount - fee) fee)).markTier tier)
  | sweep (b : Books) (tier : Nat) (winner treasury : Address) (amount : Int)
      (hpay : Payable h b tier winner amount)
      (htreasury : b.raffle.treasuryAddress = some treasury) :
      Move h (.sweep tier) b (((b.post h.self [⟨.prizeSweep tier, b.raffle.paymentToken,
        h.self, treasury, amount⟩]).file (.sweep tier amount)).markTier tier)
  | returnPrize (b : Books) (hstatus : Refundable b.raffle)
      (hdeposited : b.raffle.prizeDeposited = true) (hcreator : b.raffle.creator ≠ h.self)
      (hprize : 0 ≤ b.raffle.prizeAmount) :
      Move h .returnPrize b ((b.setDeposited false).post h.self [⟨.prizeRefund,
        b.raffle.paymentToken, h.self, b.raffle.creator, b.raffle.prizeAmount⟩])
  | refund (b : Books) (ticketId : Nat) (ticket : Ticket) (recipient : Address) (amount : Int)
      (hstatus : Refundable b.raffle) (hticket : b.ticket ticketId = some ticket)
      (hunmarked : b.refunded ticketId = none)
      (hrecipient : recipient = ticket.owner ∨ recipient = ticket.payer)
      (hamount : amount = ticket.pricePaid ∨ amount = b.raffle.ticketPrice)
      (hnonneg : 0 ≤ amount) :
      Move h (.refund ticketId) b ((b.markRefund ticketId).post h.self
        [⟨.ticketRefund ticketId, b.raffle.paymentToken, h.self, recipient, amount⟩])
  | withdraw (b : Books) (recipient : Address) (amount : Int) (hstatus : Settled b.raffle)
      (hpositive : 0 < amount) (hbooked : amount ≤ b.fees) :
      Move h (.withdraw amount) b ((b.post h.self [⟨.feeWithdrawal, b.raffle.paymentToken,
        h.self, recipient, amount⟩]).addFees (-amount))
  | release (b : Books) (purpose : Purpose) (token recipient : Address)
      (amount entitlement : Int) (hpurpose : purpose = .rescue ∨ purpose = .dust)
      (hpositive : 0 < amount)
      (hentitlement : tokenEntitlement h.tierReading b.refunded b.fees b.raffle token =
        .ok entitlement)
      (hsurplus : token = b.raffle.paymentToken → entitlement + amount ≤ b.held) :
      Move h (.release token) b
        (b.post h.self [⟨purpose, token, h.self, recipient, amount⟩])
  | wipe (b : Books) (hstatus : Refundable b.raffle ∨ b.raffle.status = .claimed)
      (hrefunded : Refundable b.raffle → b.raffle.prizeDeposited = false ∧
        ∀ i, 1 ≤ i → i ≤ b.raffle.ticketsSold → (b.refunded i).isSome = true)
      (hheld : b.held = 0) :
      Move h .wipe b b.wiped
  | outside (b : Books) (t : Transfer) (hpurpose : t.purpose = .outside)
      (hsource : t.source ≠ h.self) (hnonneg : 0 ≤ t.amount) :
      Move h (.outside t) b (b.post h.self [t])

end TikkaRaffle.Escrow
