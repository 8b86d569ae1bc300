import TikkaRaffle.Instance.Views
import TikkaRaffle.Properties.Balance
import TikkaRaffle.Properties.EventLog
import TikkaRaffle.Properties.Lifecycle
import TikkaRaffle.Properties.Suspensions

/-! The dashboard of a raffle. `get_stats` always answers, and its answer is what the
tickets on record and the published events come to. -/
namespace TikkaRaffle.Properties

open TikkaRaffle.Lib TikkaRaffle.Instance TikkaRaffle.Escrow

variable {h : Host} {w w' : World} {r : Raffle} {b b' : Books} {a : Act}

structure Takings (b : Books) : Prop where
  atMost : b.raffle.bundles = [] →
    Line.stated .paidIn b.receipts ≤ b.raffle.ticketsSold * b.raffle.ticketPrice
  exactly : PlainTerms b.raffle →
    Line.stated .paidIn b.receipts = b.raffle.ticketsSold * b.raffle.ticketPrice

theorem charge_le_list {order : Order} (hprice : 0 < r.ticketPrice) (hbundles : r.bundles = []) :
    order.charge r ≤ r.ticketPrice * order.quantity := by
  have hcut : 0 ≤ earlyBirdCut r order.quantity := by
    rw [earlyBirdCut, bundleUnit_plain hbundles]
    have hscaled := Int.mul_nonneg hprice.le (Int.natCast_nonneg r.earlyBirdDiscountBp)
    exact Int.mul_nonneg (Int.tdiv_nonneg hscaled (by decide)) (Int.natCast_nonneg _)
  rw [Order.charge, bundleUnit_plain hbundles]
  split
  · omega
  · exact le_rfl

namespace Takings

theorem of_fresh (hf : Fresh b) : Takings b := by
  constructor <;> intro <;> simp [hf.receipts, hf.unsold, Line.stated]

theorem of_quiet (hk : Takings b) (hm : Move h a b b')
    (hstated : Line.stated .paidIn b'.receipts = Line.stated .paidIn b.receipts)
    (hbuy : ∀ order, a ≠ .buy order) : Takings b' := by
  have hterms := SameTerms.move hm
  have hsold := Move.sold_same hm hbuy
  refine ⟨fun hbundles => ?_, fun hplain => ?_⟩
  · rw [hstated, hsold, hterms.ticketPrice]
    exact hk.atMost (hterms.bundles.symm.trans hbundles)
  · rw [hstated, hsold, hterms.ticketPrice]
    refine hk.exactly ⟨?_, hterms.bundles.symm.trans hplain.noBundles⟩
    rw [← hterms.earlyBirdTicketPercentage, ← hterms.earlyBirdDiscountBp]
    exact hplain.noEarlyBird

theorem of_sale (hl : Lifecycle b) (hk : Takings b) {order : Order} {total fee : Int}
    {ids : List Nat} (hm : Move h a b b') (hpriced : order.Priced b.raffle total fee)
    (hreceipts : b'.receipts = b.receipts ++ [.purchase ids total fee])
    (hsold : b'.raffle.ticketsSold = b.raffle.ticketsSold + order.quantity) : Takings b' := by
  have hterms := SameTerms.move hm
  have hstated : Line.stated .paidIn b'.receipts = Line.stated .paidIn b.receipts + total := by
    rw [hreceipts, Line.stated_append]
    simp [Line.stated, Line.amount]
  have hlist : ((b.raffle.ticketsSold + order.quantity : Nat) : Int) * b.raffle.ticketPrice =
      b.raffle.ticketsSold * b.raffle.ticketPrice + b.raffle.ticketPrice * order.quantity := by
    push_cast
    ring
  refine ⟨fun hbundles => ?_, fun hplain => ?_⟩
  · have hbundles' := hterms.bundles.symm.trans hbundles
    have hcharge : order.charge b.raffle ≤ b.raffle.ticketPrice * order.quantity :=
      charge_le_list hl.terms.price_pos hbundles'
    have hbefore := hk.atMost hbundles'
    rw [← hpriced.charge_eq.1] at hcharge
    rw [hstated, hsold, hterms.ticketPrice, hlist]
    omega
  · have hplain' : PlainTerms b.raffle := by
      refine ⟨?_, hterms.bundles.symm.trans hplain.noBundles⟩
      rw [← hterms.earlyBirdTicketPercentage, ← hterms.earlyBirdDiscountBp]
      exact hplain.noEarlyBird
    have hbefore := hk.exactly hplain'
    have hcharge : total = b.raffle.ticketPrice * order.quantity := by
      rw [hpriced.charge_eq.1, Order.charge, bundleUnit_plain hplain'.noBundles,
        earlyBirdCut_plain hplain']
      split <;> simp
    rw [hstated, hsold, hterms.ticketPrice, hlist]
    omega

theorem move (hl : Lifecycle b) (hk : Takings b) (hm : Move h a b b') : Takings b' := by
  have hquiet := hk.of_quiet hm
  have hsale := @of_sale h b b' a hl hk
  cases hm with
  | buy _ order total fee time hsellable hsupply =>
    exact hsale (.buy b order total fee time hsellable hsupply) hsellable.priced rfl rfl
  | sellOut _ order total fee time request hsellable hsupply hrequest hfresh =>
    exact hsale (.sellOut b order total fee time request hsellable hsupply hrequest hfresh)
      hsellable.priced rfl rfl
  | claim | sweep =>
    refine hquiet ?_ (fun _ => Act.noConfusion)
    rw [Books.markTier_receipts]
    simp [Books.file, Books.addFees, Books.post, Line.stated, Line.amount]
  | _ => exact hquiet rfl (fun _ => Act.noConfusion)

end Takings

theorem takings_run (hinit : Initialised h w) (calls : List Invocation) :
    Holds h (fun b => Lifecycle b ∧ Takings b) ((machine h).run w calls) :=
  (always_of_fresh hinit (fun _ => Takings.of_fresh) (fun _ _ _ hl hk hm => hk.move hl hm)
    calls).last

theorem revenue_fits (hl : Lifecycle b) :
    fitsI128 (b.raffle.ticketsSold * b.raffle.ticketPrice) := by
  have hsold : b.raffle.ticketsSold ≤ 100000 := hl.supply.trans hl.terms.maxTickets_le
  have hprice : b.raffle.ticketPrice ≤ 1000000000000000000000 :=
    hl.terms.price_le.trans hl.terms.prize_le
  have hpos := hl.terms.price_pos
  have hproduct : (b.raffle.ticketsSold : Int) * b.raffle.ticketPrice ≤
      100000 * 1000000000000000000000 :=
    Int.mul_le_mul (by exact_mod_cast hsold) hprice hpos.le (by decide)
  have hnonneg := Int.mul_nonneg (Int.natCast_nonneg b.raffle.ticketsSold) hpos.le
  constructor
  · exact le_trans (by decide) hnonneg
  · exact hproduct.trans (by decide)

theorem getStats_ok {c : Ctx} (hr : w.raffle = some r)
    (hfits : fitsI128 (r.ticketsSold * r.ticketPrice)) :
    getStats c w = .ok {
      ticketsSold := r.ticketsSold
      uniqueBuyers := (w.ticketBuyers.getD []).length
      grossRevenue := r.ticketsSold * r.ticketPrice
      feesAccrued := w.accumulatedFees.getD 0
      prizeFunded := r.prizeDeposited
      status := r.status
      timeRemaining :=
        if r.noDeadline then 0
        else if c.timestamp < r.endTime then r.endTime - c.timestamp
        else 0 } := by
  rw [getStats, readRaffle_ok.mpr hr]
  simp only [bind, Except.bind, checkedI128, if_pos hfits, pure, Except.pure]

theorem buyers_length {cap : Nat} (hw : Indexed h cap w) (hr : w.raffle = some r) :
    (w.ticketBuyers.getD []).length = {a | ∃ i, getTicketOwner w i = some a}.ncard := by
  have hindex := hw.index hr
  have hset : {a | ∃ i, getTicketOwner w i = some a} = (w.ticketBuyers.getD []).toFinset := by
    ext a
    simp only [Set.mem_ofPred_eq, List.coe_toFinset]
    exact (hindex.buyers_own a).symm
  rw [hset, Set.ncard_coe_finset, List.toFinset_card_of_nodup hindex.buyers_nodup]

theorem indexed_run (hinit : Initialised h w) {calls : List Invocation}
    (heach : (machine h).Each (fun _ i _ => i.call ≠ .wipeStorage) w calls) :
    ∃ cap, Indexed h cap ((machine h).run w calls) := by
  obtain ⟨c, holdings, factory, admin, creator, config, hok⟩ := hinit
  have hall := Machine.always_of_each (Indexed h (addressCap config))
    (fun w i w' hw hwipe hok => indexed_step hw hwipe hok) (init_indexed hok) heach
  exact ⟨_, hall.last⟩

structure TrueStats (h : Host) (c : Ctx) (w : World) (r : Raffle) (s : Shadow)
    (stats : RaffleStats) : Prop where
  status : stats.status = s.status
  sold : stats.ticketsSold = s.sold.length
  buyers : stats.uniqueBuyers = {a | ∃ i, getTicketOwner w i = some a}.ncard
  fees : stats.feesAccrued + withdrawnFees w.transfers = s.fees
  atMost : r.bundles = [] → s.paidIn ≤ stats.grossRevenue
  exactly : PlainTerms r → s.paidIn = stats.grossRevenue
  /-- Tickets are only sold while it shows a funded, active raffle with time left. -/
  selling : ∀ i w', i.ctx = c → orderOf i.call ≠ none → invoke h i w = .ok w' →
    stats.status = .active ∧ stats.prizeFunded = true ∧
      (r.noDeadline = true ∨ 0 < stats.timeRemaining)

/-- In every reachable state whose storage has not been wiped `get_stats` answers, and
its answer is true. -/
theorem stats_true (hinit : Initialised h w) {calls : List Invocation}
    (heach : (machine h).Each (fun _ i _ => i.call ≠ .wipeStorage) w calls)
    (hr : ((machine h).run w calls).raffle = some r) (c : Ctx) :
    ∃ stats, getStats c ((machine h).run w calls) = .ok stats ∧
      TrueStats h c ((machine h).run w calls) r (replay ((machine h).run w calls).events)
        stats := by
  have htold := told_run hinit calls hr
  obtain ⟨hlife, htakings⟩ := (takings_run hinit calls).view hr
  obtain ⟨cap, hindexed⟩ := indexed_run hinit heach
  refine ⟨_, getStats_ok hr (revenue_fits hlife), ?_⟩
  have hpaid : (replay ((machine h).run w calls).events).paidIn =
      Line.stated .paidIn (receiptsOf ((machine h).run w calls).events) := by
    rw [replay_eq]
    rfl
  refine ⟨htold.status.symm, ?_, buyers_length hindexed hr, fees_run hinit heach, ?_, ?_, ?_⟩
  · rw [htold.sold, List.length_range']
  · rw [hpaid]
    exact htakings.atMost
  · rw [hpaid]
    exact htakings.exactly
  · intro i w' hctx horder hok
    have hselling := order_selling hr horder hok
    refine ⟨hselling.active, hselling.funded, ?_⟩
    rw [← hctx]
    have htime := hselling.inTime
    cases hdeadline : r.noDeadline with
    | true => exact .inl rfl
    | false =>
      have hbefore : i.ctx.timestamp < r.endTime := by
        by_contra hlate
        exact htime ⟨hdeadline, not_lt.mp hlate⟩
      simp [hbefore]

theorem stats_true_claimedRun : ∃ r,
    (Sample.after .ifElse Sample.config claimedRun).raffle = some r ∧
      ∃ stats, getStats (Sample.ctx 6000 5 []) (Sample.after .ifElse Sample.config claimedRun) =
          .ok stats ∧
        TrueStats (Sample.host .ifElse) (Sample.ctx 6000 5 [])
          (Sample.after .ifElse Sample.config claimedRun) r
          (replay (Sample.after .ifElse Sample.config claimedRun).events) stats := by
  have hinit : Initialised (Sample.host .ifElse) (Sample.start .ifElse Sample.config) :=
    Sample.start_initialised (by decide +kernel)
  have hthere : (Sample.after .ifElse Sample.config claimedRun).raffle.isSome = true := by
    decide +kernel
  have heach : (machine (Sample.host .ifElse)).Each (fun _ i _ => i.call ≠ .wipeStorage)
      (Sample.start .ifElse Sample.config) claimedRun := by
    decide +kernel
  obtain ⟨r, hr⟩ := Option.isSome_iff_exists.mp hthere
  exact ⟨r, hr, stats_true hinit heach hr _⟩

end TikkaRaffle.Properties
