import TikkaRaffle.Properties.Fees
import TikkaRaffle.Properties.Prize
import TikkaRaffle.Properties.Tickets

/-! What the published events say. An observer who only reads them knows the status
of the raffle, the tickets sold, the tiers settled and what has been paid for each. -/
namespace TikkaRaffle.Properties

open TikkaRaffle.Lib TikkaRaffle.Instance TikkaRaffle.Escrow

/-- What an observer keeps. -/
structure Shadow where
  status : RaffleStatus
  sold : List Nat
  settled : List Nat
  paidIn : Int
  paidOut : Int
  swept : Int
  fees : Int
deriving DecidableEq

namespace Shadow

def start : Shadow := ⟨.pendingPrize, [], [], 0, 0, 0, 0⟩

def observe (s : Shadow) : Event → Shadow
  | .raffleStatusChanged _ status _ => { s with status := status }
  | .ticketPurchased _ ids _ _ _ paid fee _ =>
      { s with sold := s.sold ++ ids, paidIn := s.paidIn + paid, fees := s.fees + fee }
  | .prizeClaimed _ tier _ _ net fee _ =>
      { s with settled := s.settled ++ [tier], paidOut := s.paidOut + net, fees := s.fees + fee }
  | .prizeSwept _ tier _ amount _ =>
      { s with settled := s.settled ++ [tier], swept := s.swept + amount }
  | _ => s

end Shadow

def replay (events : List Event) : Shadow := events.foldl Shadow.observe .start

variable {h : Host} {w w' : World} {r : Raffle} {b b' : Books} {a : Act}

namespace Receipt

def sold : Receipt → List Nat
  | .purchase ids _ _ => ids
  | _ => []

def settled : Receipt → List Nat
  | .claim tier .. | .sweep tier _ => [tier]
  | _ => []

end Receipt

inductive Line where
  | paidIn
  | paidOut
  | swept

namespace Line

def amount : Line → Receipt → Int
  | .paidIn, .purchase _ paid _ => paid
  | .paidOut, .claim _ _ net _ => net
  | .swept, .sweep _ amount => amount
  | _, _ => 0

def settledBy : Line → Purpose → Bool
  | .paidIn, .ticketPayment => true
  | .paidOut, .prizePayout _ => true
  | .swept, .prizeSweep _ => true
  | _, _ => false

def stated (line : Line) (receipts : List Receipt) : Int := (receipts.map line.amount).sum

def moved (line : Line) (ts : List Transfer) : Int :=
  tally (fun t => line.settledBy t.purpose) (·.amount) ts

theorem stated_append (line : Line) (first last : List Receipt) :
    line.stated (first ++ last) = line.stated first + line.stated last := by
  simp [stated]

end Line

def statusSaid (trail : List (RaffleStatus × RaffleStatus)) : RaffleStatus :=
  (trail.getLast?.map Prod.snd).getD .pendingPrize

def shadowOf (trail : List (RaffleStatus × RaffleStatus)) (receipts : List Receipt) : Shadow where
  status := statusSaid trail
  sold := receipts.flatMap Receipt.sold
  settled := receipts.flatMap Receipt.settled
  paidIn := Line.stated .paidIn receipts
  paidOut := Line.stated .paidOut receipts
  swept := Line.stated .swept receipts
  fees := chargedFees receipts

theorem observe_shadowOf (trail : List (RaffleStatus × RaffleStatus)) (receipts : List Receipt)
    (e : Event) : (shadowOf trail receipts).observe e =
      shadowOf (trail ++ (hopOf e).toList) (receipts ++ (receiptOf e).toList) := by
  have hquiet : shadowOf trail receipts = shadowOf (trail ++ []) (receipts ++ []) := by
    rw [List.append_nil, List.append_nil]
  cases e with
  | raffleStatusChanged => simp [Shadow.observe, shadowOf, statusSaid, receiptOf, hopOf]
  | ticketPurchased | prizeClaimed | prizeSwept =>
    simp [Shadow.observe, shadowOf, receiptOf, hopOf, Line.stated, Line.amount, chargedFees,
      Receipt.fee, Receipt.sold, Receipt.settled]
  | _ => exact hquiet

theorem replay_eq (events : List Event) :
    replay events = shadowOf (trailOf events) (receiptsOf events) := by
  induction events using List.reverseRecOn with
  | nil => rfl
  | append_singleton events e ih =>
    have hreceipt : receiptsOf [e] = (receiptOf e).toList := by
      cases hstated : receiptOf e <;> simp [receiptsOf, hstated]
    have htrail : trailOf [e] = (hopOf e).toList := by
      cases hhop : hopOf e <;> simp [trailOf, hhop]
    rw [trailOf_append, receiptsOf_append, hreceipt, htrail, ← observe_shadowOf, ← ih]
    simp only [replay, List.foldl_append, List.foldl_cons, List.foldl_nil]

/-- What the receipts and the status changes say is what the books hold. -/
structure Recounted (b : Books) : Prop where
  status : statusSaid b.trail = b.raffle.status
  sold : b.receipts.flatMap Receipt.sold = List.range' 1 b.raffle.ticketsSold
  lines : ∀ line : Line, line.stated b.receipts = line.moved b.transfers

theorem last_of_trail {s t : RaffleStatus} {trail hops : List (RaffleStatus × RaffleStatus)}
    (hlast : statusSaid trail = s) (hpath : Trail allowed s hops t) :
    statusSaid (trail ++ hops) = t := by
  induction hpath generalizing trail with
  | nil => rw [List.append_nil, hlast]
  | cons hhop _ ih =>
    rw [List.append_cons]
    refine ih ?_
    rw [hhop.1, statusSaid, List.getLast?_concat]
    rfl

/-- Only sales, claims and sweeps settle an amount that a receipt states. -/
theorem settledBy_posts {line : Line} {purpose : Purpose} (hposts : a.posts purpose = true)
    (hsettles : line.settledBy purpose = true) :
    (∃ order, a = .buy order) ∨ (∃ tier, a = .claim tier) ∨ ∃ tier, a = .sweep tier := by
  cases a with
  | buy order => exact .inl ⟨order, rfl⟩
  | claim tier => exact .inr (.inl ⟨tier, rfl⟩)
  | sweep tier => exact .inr (.inr ⟨tier, rfl⟩)
  | _ =>
    cases line <;> cases purpose <;> first
      | cases hsettles; done
      | cases hposts

namespace Recounted

theorem of_fresh (hf : Fresh b) : Recounted b where
  status := by rw [hf.trail, hf.pending]; rfl
  sold := by rw [hf.receipts, hf.unsold]; rfl
  lines line := by rw [hf.receipts, hf.transfers]; rfl

theorem of_quiet (hk : Recounted b) (hm : Move h a b b') (hreceipts : b'.receipts = b.receipts)
    (hbuy : ∀ order, a ≠ .buy order) (hclaim : ∀ tier, a ≠ .claim tier)
    (hsweep : ∀ tier, a ≠ .sweep tier) : Recounted b' := by
  obtain ⟨hops, htrail, hpath⟩ := Hops.move hm
  obtain ⟨ts, hposted⟩ := hm.posted
  refine ⟨?_, ?_, fun line => ?_⟩
  · rw [htrail]
    exact last_of_trail hk.status hpath
  · rw [hreceipts, Move.sold_same hm hbuy]
    exact hk.sold
  · have hother (purpose : Purpose) (hposts : a.posts purpose = true) :
        line.settledBy purpose = false := by
      by_contra hsettles
      rcases settledBy_posts hposts (Bool.eq_true_of_not_eq_false hsettles) with
        ⟨order, ha⟩ | ⟨tier, ha⟩ | ⟨tier, ha⟩
      · exact hbuy order ha
      · exact hclaim tier ha
      · exact hsweep tier ha
    rw [hreceipts, hk.lines]
    exact (hposted.tally_same hother).symm

theorem of_filed (hk : Recounted b) (hm : Move h a b b') {receipt : Receipt}
    (hreceipts : b'.receipts = b.receipts ++ [receipt])
    (hsold : List.range' 1 b'.raffle.ticketsSold =
      List.range' 1 b.raffle.ticketsSold ++ Receipt.sold receipt)
    (hlines : ∀ line : Line,
      line.moved b'.transfers = line.moved b.transfers + line.amount receipt) :
    Recounted b' := by
  obtain ⟨hops, htrail, hpath⟩ := Hops.move hm
  refine ⟨?_, ?_, fun line => ?_⟩
  · rw [htrail]
    exact last_of_trail hk.status hpath
  · rw [hreceipts, List.flatMap_append, hk.sold, hsold, List.flatMap_singleton]
  · rw [hreceipts, Line.stated_append, hk.lines, hlines]
    simp [Line.stated]

theorem of_sale (hk : Recounted b) {order : Order} {total fee : Int} (time : Nat)
    (hm : Move h (.buy order) b b')
    (hreceipts : b'.receipts = (b.sell h.self order total fee time).receipts)
    (htransfers : b'.transfers = (b.sell h.self order total fee time).transfers)
    (hsold : b'.raffle.ticketsSold = b.raffle.ticketsSold + order.quantity) : Recounted b' := by
  refine hk.of_filed hm hreceipts ?_ fun line => ?_
  · rw [hsold, ← List.range'_append, Nat.one_mul, Nat.add_comm 1]
    rfl
  · rw [htransfers]
    simp only [Line.moved, Books.sell, Books.post, tally_append, tally_cons, tally_feeTransfers]
    cases line <;> simp [Line.settledBy, Line.amount]

theorem move (hl : Lifecycle b) (hk : Recounted b) (hm : Move h a b b') : Recounted b' := by
  have hquiet := hk.of_quiet hm
  cases hm with
  | buy _ order total fee time hsale hsupply =>
    exact hk.of_sale time (.buy b order total fee time hsale hsupply) rfl rfl rfl
  | sellOut _ order total fee time request hsale hsupply hrequest hfresh =>
    exact hk.of_sale time (.sellOut b order total fee time request hsale hsupply hrequest hfresh)
      rfl rfl rfl
  | claim _ tier winner amount fee hpay hwinner hfee =>
    have hbounds := claimFee_bounds hl.terms hpay.positive hfee
    refine hk.of_filed (.claim b tier winner amount fee hpay hwinner hfee)
      (Books.markTier_receipts ..) ?_ fun line => ?_
    · rw [Books.markTier_raffle]
      exact (List.append_nil _).symm
    · rw [Books.markTier_transfers]
      simp only [Line.moved, Books.file, Books.addFees, Books.post, tally_append,
        tally_feeTransfers, tally_payoutTransfers]
      cases line <;> simp [Line.settledBy, Line.amount, max_eq_left (sub_nonneg.mpr hbounds.2)]
  | sweep _ tier winner treasury amount hpay htreasury =>
    refine hk.of_filed (.sweep b tier winner treasury amount hpay htreasury)
      (Books.markTier_receipts ..) ?_ fun line => ?_
    · rw [Books.markTier_raffle]
      exact (List.append_nil _).symm
    · rw [Books.markTier_transfers]
      simp only [Line.moved, Books.file, Books.post, tally_append, tally_singleton]
      cases line <;> simp [Line.settledBy, Line.amount]
  | _ =>
    exact hquiet rfl (fun _ => Act.noConfusion) (fun _ => Act.noConfusion)
      (fun _ => Act.noConfusion)

end Recounted

def Accrued (b : Books) : Prop := b.fees + withdrawnFees b.transfers = chargedFees b.receipts

namespace Accrued

theorem of_charge (hk : Accrued b) (hm : Move h a b b') (fee : Int)
    (ha : ∀ amount, a ≠ .withdraw amount) (hfees : b'.fees = b.fees + fee)
    (hcharged : chargedFees b'.receipts = chargedFees b.receipts + fee) : Accrued b' := by
  obtain ⟨ts, hposted⟩ := hm.posted
  have hsame := hposted.tally_same (p := fun purpose => purpose = .feeWithdrawal)
    fun purpose hposts => by
      cases a with
      | withdraw amount => exact absurd rfl (ha amount)
      | _ => cases purpose <;> first | rfl | cases hposts
  have hwithdrawn : withdrawnFees b'.transfers = withdrawnFees b.transfers := hsame
  unfold Accrued at hk ⊢
  omega

theorem move (hl : Lifecycle b) (hk : Accrued b) (hm : Move h a b b') (hwipe : a ≠ .wipe) :
    Accrued b' := by
  have hcharge := @of_charge h b b' a hk hm
  cases hm with
  | buy _ order total fee time hsale | sellOut _ order total fee time request hsale =>
    have hfee := hsale.priced.fee_nonneg hsale.total_nonneg
    refine hcharge fee (fun _ => Act.noConfusion) (congrArg (b.fees + ·) (max_eq_left hfee)) ?_
    simp [chargedFees, Books.sell, Books.enter, Books.arm, Receipt.fee]
  | claim _ tier winner amount fee hpay hwinner hfee =>
    have hnonneg := (claimFee_bounds hl.terms hpay.positive hfee).1
    refine hcharge fee (fun _ => Act.noConfusion) ?_ ?_
    · simp [Books.file, Books.addFees, Books.post, max_eq_left hnonneg]
    · simp [chargedFees, Books.file, Books.addFees, Books.post, Receipt.fee]
  | sweep _ tier winner treasury amount =>
    refine hcharge 0 (fun _ => Act.noConfusion) ?_ ?_
    · simp [Books.file, Books.post]
    · simp [chargedFees, Books.file, Books.post, Receipt.fee]
  | withdraw _ recipient amount =>
    unfold Accrued at hk ⊢
    simp only [withdrawnFees, Books.addFees, Books.post, tally_append, tally_singleton] at hk ⊢
    simp only [decide_true, if_true]
    omega
  | wipe => exact absurd rfl hwipe
  | _ =>
    exact hcharge 0 (fun _ => Act.noConfusion) (Int.add_zero _).symm (Int.add_zero _).symm

end Accrued

theorem accrued_run (hinit : Initialised h w) {calls : List Invocation}
    (heach : (machine h).Each (fun _ i _ => i.call ≠ .wipeStorage) w calls) :
    Holds h (fun b => Lifecycle b ∧ Accrued b) ((machine h).run w calls) := by
  have hstart : Holds h (fun b => Lifecycle b ∧ Accrued b) w :=
    (initialised_fresh hinit).mono fun b hf => ⟨.of_fresh hf, by
      rw [Accrued, hf.fees, hf.transfers, hf.receipts]
      rfl⟩
  refine (Machine.always_of_each (Holds h fun b => Lifecycle b ∧ Accrued b)
    (fun w i w' hw hwipe hok => ?_) hstart heach).last
  refine hw.call (fun _ hb => hb.1.ready) (fun r acts b' _ hb hyields hpath => ?_) hok
  exact hpath.preserves (fun b => Lifecycle b ∧ Accrued b) (· ≠ .wipe)
    (fun a b b' ha hb hm => ⟨hb.1.move hm, hb.2.move hb.1 hm ha⟩) (yields_no_wipe hyields hwipe) hb

theorem count_settled (receipts : List Receipt) (tier : Nat) :
    (receipts.flatMap Receipt.settled).count tier = receipts.countP (settles tier) := by
  induction receipts with
  | nil => rfl
  | cons receipt rest ih =>
    rw [List.flatMap_cons, List.count_append, ih, List.countP_cons, Nat.add_comm]
    cases receipt <;> simp [Receipt.settled, settles, List.count_cons]

theorem settled_said (hk : PrizeBooks h.tierReading b) :
    (b.receipts.flatMap Receipt.settled).Nodup ∧
      ∀ tier, tier ∈ b.receipts.flatMap Receipt.settled ↔ claimedAt b.raffle tier = true := by
  have hcount (tier : Nat) : (b.receipts.flatMap Receipt.settled).count tier =
      if claimedAt b.raffle tier then 1 else 0 := (count_settled ..).trans (hk.tiers tier)
  refine ⟨List.nodup_iff_count_le_one.mpr fun tier => ?_, fun tier => ?_⟩
  · rw [hcount]
    split <;> decide
  · rw [← List.count_pos_iff, hcount]
    split <;> simp_all

structure Told (w : World) (r : Raffle) (s : Shadow) : Prop where
  status : s.status = r.status
  sold : s.sold = List.range' 1 r.ticketsSold
  settled_nodup : s.settled.Nodup
  settled : ∀ tier, tier ∈ s.settled ↔ claimedAt r tier = true
  paidIn : s.paidIn = Line.moved .paidIn w.transfers
  paidOut : s.paidOut = Line.moved .paidOut w.transfers
  swept : s.swept = Line.moved .swept w.transfers

theorem told_run (hinit : Initialised h w) (calls : List Invocation)
    (hr : ((machine h).run w calls).raffle = some r) :
    Told ((machine h).run w calls) r (replay ((machine h).run w calls).events) := by
  have hrecounted := (always_of_fresh hinit (fun _ => Recounted.of_fresh)
    (fun _ _ _ hl hk hm => hk.move hl hm) calls).last
  have hprize := (always_of_fresh hinit (fun _ => PrizeBooks.of_fresh)
    (fun _ _ _ => PrizeBooks.move) calls).last
  have hbooks := (hrecounted.view hr).2
  obtain ⟨hnodup, hsettled⟩ := settled_said (hprize.view hr).2
  rw [replay_eq]
  exact ⟨hbooks.status, hbooks.sold, hnodup, hsettled, hbooks.lines .paidIn,
    hbooks.lines .paidOut, hbooks.lines .swept⟩

theorem fees_run (hinit : Initialised h w) {calls : List Invocation}
    (heach : (machine h).Each (fun _ i _ => i.call ≠ .wipeStorage) w calls) :
    ((machine h).run w calls).accumulatedFees.getD 0 +
        withdrawnFees ((machine h).run w calls).transfers =
      (replay ((machine h).run w calls).events).fees := by
  obtain ⟨r, hr, -, haccrued⟩ := accrued_run hinit heach
  rw [replay_eq]
  exact haccrued

/-- Whoever replays the published events of a run knows the status, the tickets sold, the
tiers settled and, to the unit, what was transferred for tickets, to winners and in
sweeps; until the storage is wiped the fees published are those in the counter and those
withdrawn. -/
theorem events_tell (hinit : Initialised h w) (calls : List Invocation)
    (hr : ((machine h).run w calls).raffle = some r) :
    Told ((machine h).run w calls) r (replay ((machine h).run w calls).events) ∧
      ((machine h).Each (fun _ i _ => i.call ≠ .wipeStorage) w calls →
        ((machine h).run w calls).accumulatedFees.getD 0 +
            withdrawnFees ((machine h).run w calls).transfers =
          (replay ((machine h).run w calls).events).fees) :=
  ⟨told_run hinit calls hr, fun heach => fees_run hinit heach⟩

/-- The log of two claimed tiers replays to both of them. -/
theorem events_tell_tierRun : ∃ r,
    (Sample.after .fallThrough tierConfig tierRun).raffle = some r ∧
      Told (Sample.after .fallThrough tierConfig tierRun) r
        (replay (Sample.after .fallThrough tierConfig tierRun).events) ∧
      (replay (Sample.after .fallThrough tierConfig tierRun).events).settled = [0, 1] := by
  have hinit : Initialised (Sample.host .fallThrough) (Sample.start .fallThrough tierConfig) :=
    Sample.start_initialised (by decide +kernel)
  have hthere : (Sample.after .fallThrough tierConfig tierRun).raffle.isSome = true := by
    decide +kernel
  obtain ⟨r, hr⟩ := Option.isSome_iff_exists.mp hthere
  exact ⟨r, hr, (events_tell hinit tierRun hr).1, by decide +kernel⟩

end TikkaRaffle.Properties
