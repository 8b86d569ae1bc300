import TikkaRaffle.Escrow.Books
import TikkaRaffle.Instance.Entry

/-! The books of a world, and how the primitive writes of the entry points
look on them. -/
namespace TikkaRaffle.Escrow

open TikkaRaffle.Lib TikkaRaffle.Instance

def receiptOf : Event → Option Receipt
  | .ticketPurchased _ ids _ _ _ paid fee _ => some (.purchase ids paid fee)
  | .prizeClaimed _ tier _ gross net fee _ => some (.claim tier gross net fee)
  | .prizeSwept _ tier _ amount _ => some (.sweep tier amount)
  | _ => none

def hopOf : Event → Option (RaffleStatus × RaffleStatus)
  | .raffleStatusChanged old new _ => some (old, new)
  | _ => none

def receiptsOf (events : List Event) : List Receipt := events.filterMap receiptOf

def trailOf (events : List Event) : List (RaffleStatus × RaffleStatus) := events.filterMap hopOf

def view (h : Host) (w : World) (raffle : Raffle) : Books where
  raffle := raffle
  ticket := w.ticket
  refunded := w.ticketRefunded
  fees := w.accumulatedFees.getD 0
  lock := w.drawingLock.getD false
  requested := w.randomnessRequested.getD false
  requestId := w.randomnessRequestId
  drawn := w.randomnessSeed.isSome
  held := w.balance raffle.paymentToken h.self
  transfers := w.transfers
  receipts := receiptsOf w.events
  trail := trailOf w.events

/-- Events that report neither an amount nor a status change. -/
def silent (e : Event) : Bool := (receiptOf e).isNone && (hopOf e).isNone

section Writes

variable {h : Host} {w : World} {r : Raffle}

@[simp] theorem view_raffle : (view h w r).raffle = r := rfl

@[simp] theorem receiptsOf_append (first last : List Event) :
    receiptsOf (first ++ last) = receiptsOf first ++ receiptsOf last := by
  simp [receiptsOf]

@[simp] theorem trailOf_append (first last : List Event) :
    trailOf (first ++ last) = trailOf first ++ trailOf last := by
  simp [trailOf]

theorem receiptsOf_emit (e : Event) :
    receiptsOf (emit w e).events = receiptsOf w.events ++ (receiptOf e).toList := by
  cases hreceipt : receiptOf e <;> simp [emit, receiptsOf, hreceipt]

theorem trailOf_emit (e : Event) :
    trailOf (emit w e).events = trailOf w.events ++ (hopOf e).toList := by
  cases hhop : hopOf e <;> simp [emit, trailOf, hhop]

theorem view_emit (e : Event) :
    view h (emit w e) r = { view h w r with
      receipts := receiptsOf w.events ++ (receiptOf e).toList
      trail := trailOf w.events ++ (hopOf e).toList } := by
  rw [← receiptsOf_emit, ← trailOf_emit]
  rfl

theorem view_emit_silent {e : Event} (hsilent : silent e = true) :
    view h (emit w e) r = view h w r := by
  simp only [silent, Bool.and_eq_true, Option.isNone_iff_eq_none] at hsilent
  rw [view_emit, hsilent.1, hsilent.2]
  simp only [Option.toList_none, List.append_nil]
  rfl

theorem view_emit_receipt {e : Event} {receipt : Receipt} (hreceipt : receiptOf e = some receipt)
    (hhop : hopOf e = none) : view h (emit w e) r = (view h w r).file receipt := by
  rw [view_emit, hreceipt, hhop]
  simp only [Option.toList_none, Option.toList_some, List.append_nil]
  rfl

theorem view_emit_hop (r' : Raffle) (status : RaffleStatus) (time : Nat) :
    view h (emit (writeRaffle w r') (.raffleStatusChanged r.status status time))
      (r.setStatus status) = (view h w r).enter status := by
  rw [view_emit]
  simp only [receiptOf, hopOf, Option.toList_none, Option.toList_some, List.append_nil]
  rfl

@[simp] theorem view_writeRaffle (r' : Raffle) : view h (writeRaffle w r') r = view h w r := rfl

theorem moveBalance_self (token source target holder : Address) (amount : Int) (t : Address) :
    moveBalance w.balance token source target amount t holder =
      w.balance t holder +
        inflow holder t ⟨.outside, token, source, target, amount⟩ := by
  unfold moveBalance inflow
  by_cases htoken : t = token
  · subst htoken
    simp only [if_true, eq_comm (a := target), eq_comm (a := source)]
    omega
  · have : ¬ token = t := fun heq => htoken heq.symm
    simp [htoken, this]

theorem view_applyTransfer (purpose : Purpose) (token source target : Address) (amount : Int) :
    view h (applyTransfer w purpose token source target amount) r =
      (view h w r).post h.self [⟨purpose, token, source, target, amount⟩] := by
  simp only [view, applyTransfer, Books.post, netInflow, List.map_cons, List.map_nil,
    List.sum_cons, List.sum_nil, moveBalance_self]
  simp [inflow]

end Writes

/-- What the log has gained are payments of `token` from `source` to `target`,
`total` in all. -/
def PaidTo (source token target : Address) (total : Int) (w w' : World) : Prop :=
  ∃ ts, w'.transfers = w.transfers ++ ts ∧
    (∀ t ∈ ts, t.token = token ∧ t.source = source ∧ t.target = target) ∧
    (ts.map Transfer.amount).sum = total

namespace PaidTo

variable {source token target : Address} {total : Int} {w w' w'' : World}

theorem nothing (htransfers : w'.transfers = w.transfers) : PaidTo source token target 0 w w' :=
  ⟨[], by rw [htransfers, List.append_nil], by simp, rfl⟩

theorem one {purpose : Purpose}
    (htransfers : w'.transfers = w.transfers ++ [⟨purpose, token, source, target, total⟩]) :
    PaidTo source token target total w w' :=
  ⟨_, htransfers, by simp, by simp⟩

theorem trans {more : Int} (hfirst : PaidTo source token target total w w')
    (hlast : PaidTo source token target more w' w'') :
    PaidTo source token target (total + more) w w'' := by
  obtain ⟨ts, hts, hto, hsum⟩ := hfirst
  obtain ⟨ts', hts', hto', hsum'⟩ := hlast
  refine ⟨ts ++ ts', ?_, fun t ht => ?_, ?_⟩
  · rw [hts', hts, List.append_assoc]
  · exact (List.mem_append.mp ht).elim (hto t) (hto' t)
  · rw [List.map_append, List.sum_append, hsum, hsum']

/-- The log says how much was paid. -/
theorem unique {more : Int} (hpaid : PaidTo source token target total w w')
    (hpaid' : PaidTo source token target more w w') : total = more := by
  obtain ⟨ts, hts, -, hsum⟩ := hpaid
  obtain ⟨ts', hts', -, hsum'⟩ := hpaid'
  rw [hts, List.append_cancel_left_eq] at hts'
  rw [← hsum, ← hsum', hts']

theorem congr (htransfers : w''.transfers = w'.transfers)
    (hpaid : PaidTo source token target total w w') : PaidTo source token target total w w'' := by
  unfold PaidTo
  rw [htransfers]
  exact hpaid

end PaidTo

end TikkaRaffle.Escrow
