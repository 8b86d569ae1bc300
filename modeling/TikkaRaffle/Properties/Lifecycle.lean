import TikkaRaffle.Escrow.Lifecycle

/-! The status of a raffle over whole runs: which changes happen, what each
status implies, and which calls exclude each other. -/
namespace TikkaRaffle.Properties

open TikkaRaffle.Lib TikkaRaffle.Instance TikkaRaffle.Escrow

def StatusPath (w w' : World) : Prop :=
  ∃ r r' hops, w.raffle = some r ∧ w'.raffle = some r' ∧
    trailOf w'.events = trailOf w.events ++ hops ∧
    Trail (fun s t => s.canTransitionTo t = true) r.status hops r'.status ∧
    (r.status.isTerminal = true → r'.status = r.status)

structure StatusFields (w : World) (r : Raffle) : Prop where
  pending : r.status = .pendingPrize → r.prizeDeposited = false ∧ r.ticketsSold = 0
  selling : r.status = .active ∨ r.status = .drawing →
    r.prizeDeposited = true ∧ r.winners = [] ∧ r.finalizedAt = none
  settled : r.status = .finalized ∨ r.status = .claimed →
    r.winners.length = r.prizes.length ∧ 0 < r.prizes.length ∧ r.finalizedAt.isSome = true ∧
      w.randomnessSeed.isSome = true
  allClaimed : r.status = .finalized ∨ r.status = .claimed →
    (r.status = .claimed ↔ ∀ winner ∈ r.winners, winner.claimed = true)
  returned : r.status = .cancelled ∨ r.status = .failed → r.winners = []

def isTicketRefund : Call → Bool
  | .refundTicket .. | .batchRefundTickets .. | .batchRefundTicketsOwned .. => true
  | _ => false

def isPrizeClaim : Call → Bool
  | .claimPrize .. => true
  | _ => false

variable {h : Host} {w w' : World} {r r' : Raffle}

theorem hops_statusPath (hr : w.raffle = some r) (hr' : w'.raffle = some r')
    (hh : Hops (view h w r) (view h w' r')) : StatusPath w w' := by
  have hterminal : r.status.isTerminal = true → r'.status = r.status := hh.terminal
  obtain ⟨hops, htrail, hpath⟩ := hh
  exact ⟨r, r', hops, hr, hr', htrail, hpath, hterminal⟩

theorem statusFields_of_lifecycle (hl : Lifecycle (view h w r)) : StatusFields w r where
  pending hs := ⟨(hl.pending hs).1, (hl.pending hs).2.1⟩
  selling := hl.selling
  settled hs := by
    obtain ⟨hlength, hat, hdrawn, -⟩ := hl.settled hs
    exact ⟨hlength, List.length_pos_of_ne_nil hl.terms.prizes_ne, hat, hdrawn⟩
  allClaimed hs := by
    rw [← List.all_eq_true]
    constructor
    · exact hl.noTier
    · intro hall
      rcases hs with hs | hs
      · have hopen : r.winners.all Winner.claimed = false := hl.openTier hs
        rw [hall] at hopen
        cases hopen
      · exact hs
  returned := hl.returned

theorem refund_returning {i : Invocation} (hw : Holds h Lifecycle w)
    (hrefund : isTicketRefund i.call = true) (hok : invoke h i w = .ok w') :
    StatusIn returning w' := by
  refine StatusIn.step returning_closed hw ?_ hok
  obtain ⟨r, r', acts, hr, -, -, hyields, hpath⟩ := committed_path hw hok
  refine ⟨r, hr, ?_⟩
  cases hcall : i.call <;> rw [hcall] at hrefund hyields <;> try cases hrefund
  case refundTicket caller ticketId =>
    cases hyields
    exact hpath.of_single.refundable
  case batchRefundTickets caller ticketIds => exact hyields.1
  case batchRefundTicketsOwned owner ticketIds => exact hyields.1

theorem claim_paying {i : Invocation} (hw : Holds h Lifecycle w)
    (hclaim : isPrizeClaim i.call = true) (hok : invoke h i w = .ok w') :
    StatusIn paying w' := by
  refine StatusIn.step paying_closed hw ?_ hok
  obtain ⟨r, r', acts, hr, -, -, hyields, hpath⟩ := committed_path hw hok
  refine ⟨r, hr, .inl ?_⟩
  cases hcall : i.call <;> rw [hcall] at hclaim hyields <;> try cases hclaim
  cases hyields
  exact hpath.of_single.finalized

/-- Status changes follow the transition graph, every status keeps its field
conditions, and refunds and claims never meet in one run. -/
theorem lifecycle_of_run (hinit : Initialised h w) (calls : List Invocation) :
    (machine h).Each (fun w _ w' => StatusPath w w') w calls ∧
    (machine h).Always (fun w => ∃ r, w.raffle = some r ∧ StatusFields w r) w calls ∧
    ¬((∃ i ∈ (machine h).committed w calls, isTicketRefund i.call = true) ∧
      ∃ i ∈ (machine h).committed w calls, isPrizeClaim i.call = true) := by
  have hstart : Holds h Lifecycle w := initialised_lifecycle hinit
  refine ⟨?_, ?_, ?_⟩
  · refine Machine.each_of_step (Holds h Lifecycle)
      (fun w i w' hw hok => lifecycle_step hw hok) (fun w i w' hw hok => ?_) hstart calls
    obtain ⟨r, r', acts, hr, hr', -, -, hpath⟩ := committed_path hw hok
    exact hops_statusPath hr hr' (Hops.path hpath)
  · refine (lifecycle_always hinit calls).mono fun w hw => ?_
    obtain ⟨r, hr, hl⟩ := hw
    exact ⟨r, hr, statusFields_of_lifecycle hl⟩
  · exact Machine.not_both_committed (Holds h Lifecycle) (StatusIn returning) (StatusIn paying)
      (fun w i w' hw hok => lifecycle_step hw hok)
      (fun w i w' hw hs hok => hs.step returning_closed hw hok)
      (fun w i w' hw hs hok => hs.step paying_closed hw hok)
      (fun w i w' hw hrefund hok => refund_returning hw hrefund hok)
      (fun w i w' hw hclaim hok => claim_paying hw hclaim hok)
      (fun w => not_returning_paying) hstart

def claimedRun : List Invocation :=
  [Sample.signed [Sample.creator] 1 1 .depositPrize,
    Sample.signed [Sample.buyer] 2 2 (.buyTickets Sample.buyer 1),
    Sample.signed [Sample.creator] 1000 3 .finalizeRaffle,
    Sample.signed [Sample.buyer] 5000 4 (.claimPrize Sample.buyer 0)]

theorem lifecycle_of_claimedRun :
    Initialised (Sample.host .ifElse) (Sample.start .ifElse Sample.config) ∧
    (machine (Sample.host .ifElse)).Each (fun w _ w' => StatusPath w w')
      (Sample.start .ifElse Sample.config) claimedRun :=
  have hinit := Sample.start_initialised (by decide +kernel)
  ⟨hinit, (lifecycle_of_run hinit claimedRun).1⟩

end TikkaRaffle.Properties
