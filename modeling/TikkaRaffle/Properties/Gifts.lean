import TikkaRaffle.Escrow.Obligations
import TikkaRaffle.Escrow.Purchase
import TikkaRaffle.Properties.Drawing
import TikkaRaffle.Properties.Tickets

/-! A gift to oneself against a purchase. The two calls make the same checks,
apart from where they ask for the buyer's authorisation, but a gift is charged
at the list price whatever bundles and the early-bird window say. -/
namespace TikkaRaffle.Properties

open TikkaRaffle.Lib TikkaRaffle.Instance TikkaRaffle.Escrow

variable {h : Host} {c : Ctx} {w w' : World} {r : Raffle} {buyer : Address} {quantity : Nat}

/-- The same error, or the same transfers, published amounts and entries. -/
def Agree (bought gifted : Result (World × Nat)) : Prop :=
  match bought, gifted with
  | .ok (w₁, _), .ok (w₂, _) =>
      w₁.transfers = w₂.transfers ∧ receiptsOf w₁.events = receiptsOf w₂.events ∧
        w₁.raffle = w₂.raffle ∧ w₁.ticket = w₂.ticket ∧ w₁.ticketCount = w₂.ticketCount ∧
        w₁.ticketBuyers = w₂.ticketBuyers ∧ w₁.accumulatedFees = w₂.accumulatedFees
  | .error e₁, .error e₂ => e₁ = e₂
  | _, _ => False

def saleChecks (c : Ctx) (w : World) (r : Raffle) (buyer : Address) (quantity : Nat) :
    Result Unit := do
  validatePurchasePreconditions c w r quantity
  checkCaps w r buyer quantity

def listCharge (r : Raffle) (quantity : Nat) : Int := r.ticketPrice * quantity

def quotedCharge (r : Raffle) (quantity : Nat) : Int :=
  bundleUnit r quantity * quantity - earlyBirdCut r quantity

def feeOn (r : Raffle) (total : Int) : Int := (total * r.protocolFeeBp).tdiv 10000

/-- The quote is the list price, or the purchase is refused alike at both. -/
def PricedAlike (h : Host) (c : Ctx) (w : World) (r : Raffle) (buyer : Address)
    (quantity : Nat) : Prop :=
  let stops := fun total => stopsAt h c w r buyer total (feeOn r total)
  quotedCharge r quantity = listCharge r quantity ∨
    (calculateBuyQuote r quantity).isOk = true ∧ (stops (listCharge r quantity)).isSome = true ∧
      stops (quotedCharge r quantity) = stops (listCharge r quantity)

/-- An authorised purchase that passes its checks is priced alike. One without
authorisation is well formed and comes outside a draw. -/
def ChargedAlike (h : Host) (c : Ctx) (w : World) (r : Raffle) (buyer : Address)
    (quantity : Nat) : Prop :=
  if buyer ∈ c.auths ∧ buyer ≠ h.self then
    (saleChecks c w r buyer quantity).isOk = true → PricedAlike h c w r buyer quantity
  else
    w.reentrancyGuard = none ∧ w.drawingLock.getD false = false ∧ quantity ≠ 0 ∧
      quantity ≤ r.maxTicketsPerTx

instance (h : Host) (c : Ctx) (w : World) (r : Raffle) (buyer : Address) (quantity : Nat) :
    Decidable (PricedAlike h c w r buyer quantity) :=
  inferInstanceAs (Decidable (_ ∨ _))

instance (h : Host) (c : Ctx) (w : World) (r : Raffle) (buyer : Address) (quantity : Nat) :
    Decidable (ChargedAlike h c w r buyer quantity) := by
  unfold ChargedAlike
  infer_instance

theorem unit_pos {unit : Int} {bp cut count : Nat} (hbp : bp ≤ 10000) (hcut : cut ≤ count)
    (hpos : 0 < unit * count - (unit * bp).tdiv 10000 * cut) : 0 < unit := by
  by_contra hneg
  have hcounts : (cut : Int) ≤ count := by exact_mod_cast hcut
  have hflip : 0 ≤ -unit := by omega
  have hbounds := discount_bounds hflip hbp
  rw [neg_mul, Int.neg_tdiv] at hbounds
  have hcutoff := Int.mul_le_mul_of_nonneg_right
    (show unit ≤ (unit * bp).tdiv 10000 by omega) (Int.natCast_nonneg cut)
  have hrest := Int.mul_le_mul_of_nonneg_left hcounts hflip
  rw [neg_mul, neg_mul] at hrest
  omega

/-- A discount that leaves something leaves a ten-thousandth. -/
theorem unit_le_discounted {unit : Int} {bp : Nat} (hunit : 0 < unit) (hbp : bp ≤ 10000)
    (hleft : 0 < unit - (unit * bp).tdiv 10000) :
    unit ≤ 10000 * (unit - (unit * bp).tdiv 10000) := by
  have hscaled := scaled_bounds hunit.le hbp
  rw [Int.tdiv_eq_ediv_of_nonneg hscaled.1] at hleft ⊢
  rcases Nat.eq_or_lt_of_le hbp with rfl | hless
  · push_cast at hleft
    omega
  · have hrate : (bp : Int) ≤ 9999 := by omega
    have hcap := Int.mul_le_mul_of_nonneg_left hrate hunit.le
    omega

theorem unit_le {unit : Int} {bp cut count : Nat} (hbp : bp ≤ 10000) (hcut : cut ≤ count)
    (hpos : 0 < unit * count - (unit * bp).tdiv 10000 * cut) :
    unit ≤ 10000 * (unit * count - (unit * bp).tdiv 10000 * cut) := by
  have hunit := unit_pos hbp hcut hpos
  have hcost := discount_bounds hunit.le hbp
  obtain ⟨rest, rfl⟩ := Nat.exists_eq_add_of_le hcut
  have hsplit : unit * ((cut + rest : Nat) : Int) - (unit * bp).tdiv 10000 * cut =
      (unit - (unit * bp).tdiv 10000) * cut + unit * rest := by
    push_cast
    ring
  rw [hsplit] at hpos ⊢
  have hinside : 0 ≤ (unit - (unit * bp).tdiv 10000) * cut :=
    Int.mul_nonneg (by omega) (Int.natCast_nonneg cut)
  rcases Nat.eq_zero_or_pos rest with rfl | hrest
  · have hcutpos : (1 : Int) ≤ cut := by
      by_contra hnone
      have hzero : (cut : Int) = 0 := by omega
      simp [hzero] at hpos
    have hleft : 0 < unit - (unit * bp).tdiv 10000 := by
      by_contra hnone
      have hzero : unit - (unit * bp).tdiv 10000 = 0 := by omega
      simp [hzero] at hpos
    have hbound := unit_le_discounted hunit hbp hleft
    have hmore := Int.mul_le_mul_of_nonneg_left hcutpos hleft.le
    simp only [mul_one, Nat.cast_zero, mul_zero, add_zero] at hmore ⊢
    omega
  · have hone : (1 : Int) ≤ rest := by omega
    have hmore := Int.mul_le_mul_of_nonneg_left hone hunit.le
    omega

theorem quotedCharge_eq (r : Raffle) (quantity : Nat) :
    quotedCharge r quantity = bundleUnit r quantity * quantity -
      (bundleUnit r quantity * r.earlyBirdDiscountBp).tdiv 10000 *
        earlyBirdQuantity r quantity := rfl

theorem earlyBirdDiscountBp_le (ht : Terms r) (hcut : 0 < earlyBirdQuantity r quantity) :
    r.earlyBirdDiscountBp ≤ 10000 := by
  apply ht.earlyBird_le
  by_contra hnone
  simp [earlyBirdQuantity, hnone] at hcut

theorem listCharge_bounds (ht : Terms r) (hpos : 0 < quantity) (hfew : quantity ≤ r.maxTickets) :
    0 < listCharge r quantity ∧ listCharge r quantity ≤ 1000000000000000000000 * 100000 := by
  have hprice : r.ticketPrice ≤ 1000000000000000000000 := ht.price_le.trans ht.prize_le
  have hcount : (quantity : Int) ≤ 100000 := by
    have hlimit : r.maxTickets ≤ 100000 := ht.maxTickets_le
    omega
  refine ⟨Int.mul_pos ht.price_pos (by omega), ?_⟩
  exact Int.mul_le_mul hprice hcount (by omega) (by decide)

theorem scaledFee_fits (ht : Terms r) {total : Int} (hlow : 0 ≤ total)
    (hhigh : total ≤ 1000000000000000000000 * 100000) :
    fitsI128 (total * r.protocolFeeBp) := by
  have hscaled := scaled_bounds hlow ht.feeBp_le
  refine fits_of_bounds ?_ (by omega)
  simp only [i128Min]
  omega

theorem bundleUnit_bounds (ht : Terms r) (hpos : 0 < quotedCharge r quantity) :
    0 < bundleUnit r quantity ∧ bundleUnit r quantity ≤ 10000 * quotedCharge r quantity := by
  have hcut := earlyBirdQuantity_le r quantity
  rw [quotedCharge_eq] at hpos ⊢
  rcases Nat.eq_zero_or_pos (earlyBirdQuantity r quantity) with hnone | hsome
  · rw [hnone, Nat.cast_zero, mul_zero, sub_zero] at hpos ⊢
    have hplain : 0 < bundleUnit r quantity * quantity -
        (bundleUnit r quantity * (0 : Nat)).tdiv 10000 * (0 : Nat) := by simpa using hpos
    have hle := unit_le (by decide) (Nat.zero_le quantity) hplain
    exact ⟨unit_pos (by decide) (Nat.zero_le quantity) hplain, by simpa using hle⟩
  · have hbp := earlyBirdDiscountBp_le ht hsome
    exact ⟨unit_pos hbp hcut hpos, unit_le hbp hcut hpos⟩

theorem fits_of_nonneg {value : Int} (hlow : 0 ≤ value)
    (hhigh : value ≤ 1000000000000000000000000000000 * 100000) : fitsI128 value :=
  ⟨le_trans (by decide) hlow, hhigh.trans (by decide)⟩

theorem earlyBirdDiscount_some (ht : Terms r) (hunit : 0 < bundleUnit r quantity)
    (hcap : bundleUnit r quantity ≤ 1000000000000000000000000000000)
    (hfew : quantity ≤ 100000) :
    earlyBirdDiscount r (bundleUnit r quantity) quantity = .ok (earlyBirdCut r quantity) := by
  unfold earlyBirdDiscount
  split
  next hsome =>
    have hbp := earlyBirdDiscountBp_le ht hsome
    have hscaled := scaled_bounds hunit.le hbp
    have hcost := discount_bounds hunit.le hbp
    have hcount : (earlyBirdQuantity r quantity : Int) ≤ 100000 := by
      have hle := earlyBirdQuantity_le r quantity
      omega
    have htotal : (bundleUnit r quantity * r.earlyBirdDiscountBp).tdiv 10000 *
        earlyBirdQuantity r quantity ≤ 1000000000000000000000000000000 * 100000 :=
      Int.mul_le_mul (by omega) hcount (Int.natCast_nonneg _) (by decide)
    simp only [except_bind_ok, checkedI128_ok]
    refine ⟨_, ⟨fits_of_nonneg hscaled.1 (by omega), rfl⟩, fits_of_nonneg ?_ htotal, rfl⟩
    exact Int.mul_nonneg hcost.1 (Int.natCast_nonneg _)
  next hnone =>
    have hzero : earlyBirdQuantity r quantity = 0 := by omega
    rw [earlyBirdCut, hzero]
    simp

theorem calculateBuyQuote_some (ht : Terms r) (hpos : 0 < quantity)
    (hfew : quantity ≤ r.maxTickets) (hlist : quotedCharge r quantity = listCharge r quantity) :
    ∃ quote, calculateBuyQuote r quantity = .ok quote := by
  have hcount : quantity ≤ 100000 := hfew.trans ht.maxTickets_le
  obtain ⟨hlow, hhigh⟩ := listCharge_bounds ht hpos hfew
  rw [← hlist] at hlow hhigh
  obtain ⟨hunit, hbound⟩ := bundleUnit_bounds ht hlow
  have hcap : bundleUnit r quantity ≤ 1000000000000000000000000000000 := by omega
  have hgross : bundleUnit r quantity * quantity ≤ 1000000000000000000000000000000 * 100000 :=
    Int.mul_le_mul hcap (by omega) (by omega) (by decide)
  have hnet : quotedCharge r quantity ≤ 1000000000000000000000000000000 * 100000 :=
    hhigh.trans (by decide)
  simp only [calculateBuyQuote, except_bind_ok, ensure_ok, checkedI128_ok, except_pure_ok,
    exists_const]
  refine ⟨_, by omega, _, ⟨fits_of_nonneg ?_ hgross, rfl⟩, _,
    earlyBirdDiscount_some ht hunit hcap hcount, _, ⟨fits_of_nonneg hlow.le hnet, rfl⟩, _,
    ⟨scaledFee_fits ht hlow.le hhigh, rfl⟩, rfl⟩
  exact Int.mul_nonneg hunit.le (Int.natCast_nonneg _)

theorem checkedI128_error {value : Int} {abort : Abort}
    (herror : checkedI128 value = .error abort) : abort = .err .arithmeticOverflow := by
  unfold checkedI128 at herror
  split at herror
  · cases herror
  · exact (Except.error.inj herror).symm

theorem earlyBirdDiscount_error {unit : Int} {abort : Abort}
    (herror : earlyBirdDiscount r unit quantity = .error abort) :
    abort = .err .arithmeticOverflow := by
  unfold earlyBirdDiscount at herror
  split at herror
  · rcases except_bind_error.mp herror with hscaled | ⟨_, -, htotal⟩
    · exact checkedI128_error hscaled
    · exact checkedI128_error htotal
  · cases herror

theorem calculateBuyQuote_error {abort : Abort} (hsome : quantity ≠ 0)
    (herror : calculateBuyQuote r quantity = .error abort) :
    abort = .err .arithmeticOverflow := by
  unfold calculateBuyQuote at herror
  simp only [ensure, if_pos hsome] at herror
  rcases except_bind_error.mp herror with hnone | ⟨_, -, herror⟩
  · cases hnone
  rcases except_bind_error.mp herror with hgross | ⟨_, -, herror⟩
  · exact checkedI128_error hgross
  rcases except_bind_error.mp herror with hdiscount | ⟨_, -, herror⟩
  · exact earlyBirdDiscount_error hdiscount
  rcases except_bind_error.mp herror with hnet | ⟨_, -, herror⟩
  · exact checkedI128_error hnet
  rcases except_bind_error.mp herror with hfee | ⟨_, -, herror⟩
  · exact checkedI128_error hfee
  · cases herror

theorem requireAuth_some (hauth : buyer ∈ c.auths ∧ buyer ≠ h.self) :
    requireAuth h c buyer = .ok () := requireAuth_ok.mpr hauth

theorem buyTickets_checked (hauth : buyer ∈ c.auths ∧ buyer ≠ h.self) (hr : w.raffle = some r) :
    buyTickets h c w buyer quantity = (saleChecks c w r buyer quantity >>= fun _ =>
      calculateBuyQuote r quantity >>= fun quote =>
        completePurchase h c w r buyer buyer quantity quote.netToPay quote.fee) := by
  rw [buyTickets, requireAuth_some hauth, readRaffle_ok.mpr hr, saleChecks]
  simp only [bind_assoc]
  rfl

theorem buyTicketsFor_checked (hauth : buyer ∈ c.auths ∧ buyer ≠ h.self) (hr : w.raffle = some r) :
    buyTicketsFor h c w buyer buyer quantity = (saleChecks c w r buyer quantity >>= fun _ =>
      checkedI128 (listCharge r quantity) >>= fun total =>
        checkedI128 (total * r.protocolFeeBp) >>= fun scaledFee =>
          completePurchase h c w r buyer buyer quantity total (scaledFee.tdiv 10000)) := by
  rw [buyTicketsFor, requireAuth_some hauth, readRaffle_ok.mpr hr, saleChecks,
    validatePurchasePreconditions]
  simp only [bind_assoc]
  rfl

theorem saleChecks_ok (hok : saleChecks c w r buyer quantity = .ok ()) :
    w.drawingLock.getD false = false ∧ quantity ≠ 0 ∧ w.factory.isSome = true ∧
      r.status = .active ∧ r.ticketsSold + quantity ≤ r.maxTickets := by
  simp only [saleChecks, validatePurchasePreconditions, requireGlobalNotPaused, checkCaps,
    except_bind_ok, ensure_ok, okOr_ok, checkedU32_ok, exists_const] at hok
  obtain ⟨⟨_, -, hlock, hsome, -, _, -, ⟨factory, hfactory, -⟩, hactive, -⟩, _, ⟨-, rfl⟩, hsupply,
    -⟩ := hok
  exact ⟨hlock, hsome, by rw [hfactory]; rfl, hactive, hsupply⟩

/-- Without authorisation a purchase traps at once and a gift only after its
first checks. -/
theorem unauthorised_agree_iff (hauth : ¬(buyer ∈ c.auths ∧ buyer ≠ h.self))
    (hr : w.raffle = some r) :
    Agree (buyTickets h c w buyer quantity) (buyTicketsFor h c w buyer buyer quantity) ↔
      w.reentrancyGuard = none ∧ w.drawingLock.getD false = false ∧ quantity ≠ 0 ∧
        quantity ≤ r.maxTicketsPerTx := by
  have hdenied : requireAuth h c buyer = .error .trap := if_neg hauth
  have hbought : buyTickets h c w buyer quantity = .error .trap := by
    rw [buyTickets, hdenied]
    rfl
  rw [hbought, buyTicketsFor, hdenied, readRaffle_ok.mpr hr]
  by_cases hguard : w.reentrancyGuard = none
  · by_cases hlock : w.drawingLock.getD false = false
    · by_cases hsome : quantity = 0
      · simp [Agree, acquireGuard, ensure, bind, Except.bind, hguard, hlock, hsome]
      · by_cases hmany : quantity ≤ r.maxTicketsPerTx
        · simp [Agree, acquireGuard, ensure, bind, Except.bind, hguard, hlock, hsome, hmany]
        · simp [Agree, acquireGuard, ensure, bind, Except.bind, hguard, hlock, hsome, hmany]
    · simp [Agree, acquireGuard, ensure, bind, Except.bind, hguard, hlock]
  · simp [Agree, acquireGuard, bind, Except.bind, hguard, Option.isSome_iff_ne_none]

theorem onSale_of_checks (hinit : Initialised h w) (calls : List Invocation)
    (hr : ((machine h).run w calls).raffle = some r)
    (hok : saleChecks c ((machine h).run w calls) r buyer quantity = .ok ()) :
    OnSale ((machine h).run w calls) r buyer quantity := by
  obtain ⟨hlock, -, hfactory, hactive, hsupply⟩ := saleChecks_ok hok
  obtain ⟨hlife, hkeys⟩ := (drawKeys_always hinit calls).last.view hr
  have hlimit : r.maxTickets ≤ 100000 := hlife.terms.maxTickets_le
  have hheld : (((machine h).run w calls).ticketCount buyer).getD 0 ≤ r.ticketsSold := by
    rcases (indexed_until_ended hinit calls).last.2 with hended | ⟨cap, hindex⟩
    · have hover : ended r.status := hended.stored hr
      exact absurd hactive hover.1.2
    · exact hindex.held_le hr buyer
  exact {
    stored := hr
    factory := hfactory
    active := hactive
    unlocked := hlock
    unasked := (hkeys.idle (.inr hactive)).2
    supply := hsupply
    limit := by omega
    count := by omega }

theorem Agree.refl (result : Result (World × Nat)) : Agree result result := by
  cases result with
  | error abort => exact Eq.refl abort
  | ok result => exact ⟨rfl, rfl, rfl, rfl, rfl, rfl, rfl⟩

theorem Agree.transfers {bought gifted : Result (World × Nat)} (hagree : Agree bought gifted) :
    (bought.toOption.map fun result => result.1.transfers) =
      gifted.toOption.map fun result => result.1.transfers := by
  cases bought <;> cases gifted
  · rfl
  · exact absurd hagree id
  · exact absurd hagree id
  · exact congrArg some hagree.1

theorem Move.payment {b b' : Books} {order : Order} (hm : Move h (.buy order) b b') :
    b'.transfers[b.transfers.length]? =
      some ⟨.ticketPayment, b.raffle.paymentToken, order.payer, h.self, order.charge b.raffle⟩ := by
  cases hm with
  | buy _ _ total fee time hsale | sellOut _ _ total fee time request hsale =>
    rw [← hsale.priced.charge_eq.1]
    simp [Books.sell, Books.post, Books.enter, Books.arm]

theorem buyTickets_payment {n : Nat} (hr : w.raffle = some r)
    (hok : buyTickets h c w buyer quantity = .ok (w', n)) :
    w'.transfers[w.transfers.length]? =
      some ⟨.ticketPayment, r.paymentToken, buyer, h.self, quotedCharge r quantity⟩ := by
  obtain ⟨r', acts, -, hyields, hpath⟩ := buyTickets_refines hr hok
  cases hyields
  exact Move.payment hpath.of_single

theorem buyTicketsFor_payment {n : Nat} (hr : w.raffle = some r)
    (hok : buyTicketsFor h c w buyer buyer quantity = .ok (w', n)) :
    w'.transfers[w.transfers.length]? =
      some ⟨.ticketPayment, r.paymentToken, buyer, h.self, listCharge r quantity⟩ := by
  obtain ⟨r', acts, -, hyields, hpath⟩ := buyTicketsFor_refines hr hok
  cases hyields
  exact Move.payment hpath.of_single

theorem stopsAt_not_overflow {total fee : Int} :
    stopsAt h c w r buyer total fee ≠ some (.err .arithmeticOverflow) := by
  unfold stopsAt
  split
  · decide
  · split
    · decide
    · split <;> decide

/-- The price of a gift always fits. -/
theorem buyTicketsFor_listed (ht : Terms r) (hs : OnSale w r buyer quantity)
    (hsome : quantity ≠ 0) (hauth : buyer ∈ c.auths ∧ buyer ≠ h.self)
    (hok : saleChecks c w r buyer quantity = .ok ()) :
    buyTicketsFor h c w buyer buyer quantity =
      completePurchase h c w r buyer buyer quantity (listCharge r quantity)
        (feeOn r (listCharge r quantity)) := by
  have hfew : quantity ≤ r.maxTickets := le_trans (Nat.le_add_left ..) hs.supply
  obtain ⟨hlow, hhigh⟩ := listCharge_bounds ht (Nat.pos_of_ne_zero hsome) hfew
  have htotal : checkedI128 (listCharge r quantity) = .ok (listCharge r quantity) :=
    if_pos (fits_of_nonneg hlow.le (hhigh.trans (by decide)))
  have hfee : checkedI128 (listCharge r quantity * r.protocolFeeBp) =
      .ok (listCharge r quantity * r.protocolFeeBp) := if_pos (scaledFee_fits ht hlow.le hhigh)
  rw [buyTicketsFor_checked hauth hs.stored, hok]
  simp only [bind, Except.bind, htotal, hfee]
  rfl

section Checked

variable (ht : Terms r) (hs : OnSale w r buyer quantity) (hsome : quantity ≠ 0)
  (hauth : buyer ∈ c.auths ∧ buyer ≠ h.self) (hok : saleChecks c w r buyer quantity = .ok ())

include ht hs hsome hauth hok

/-- A quote that overflows is never the list price, and no gift overflows. -/
theorem overflow_disagrees {abort : Abort} (herror : calculateBuyQuote r quantity = .error abort) :
    ¬Agree (buyTickets h c w buyer quantity) (buyTicketsFor h c w buyer buyer quantity) ∧
      ¬PricedAlike h c w r buyer quantity := by
  have hoverflow := calculateBuyQuote_error hsome herror
  have hbought : buyTickets h c w buyer quantity = .error abort := by
    rw [buyTickets_checked hauth hs.stored, hok, herror]
    rfl
  constructor
  · intro hagree
    rw [hbought, buyTicketsFor_listed ht hs hsome hauth hok] at hagree
    rcases completePurchase_outcome (h := h) (c := c) hs hauth.2 (listCharge r quantity)
      (feeOn r (listCharge r quantity)) with ⟨refusal, hstops, hresult⟩ | ⟨-, result, hresult⟩
    · rw [hresult] at hagree
      have hsame : abort = refusal := hagree
      rw [← hsame, hoverflow] at hstops
      exact stopsAt_not_overflow hstops
    · rw [hresult] at hagree
      exact hagree
  · rintro (hlist | ⟨hquoted, -⟩)
    · have hfew : quantity ≤ r.maxTickets := le_trans (Nat.le_add_left ..) hs.supply
      obtain ⟨quote, hquoted⟩ := calculateBuyQuote_some ht (Nat.pos_of_ne_zero hsome) hfew hlist
      rw [herror] at hquoted
      cases hquoted
    · rw [herror] at hquoted
      cases hquoted

theorem quoted_agree_iff {quote : BuyQuote} (hquote : calculateBuyQuote r quantity = .ok quote) :
    Agree (buyTickets h c w buyer quantity) (buyTicketsFor h c w buyer buyer quantity) ↔
      PricedAlike h c w r buyer quantity := by
  obtain ⟨hnet, hfee⟩ := calculateBuyQuote_ok hquote
  have hcharged : quote.netToPay = quotedCharge r quantity := hnet
  have hbought : buyTickets h c w buyer quantity =
      completePurchase h c w r buyer buyer quantity (quotedCharge r quantity)
        (feeOn r (quotedCharge r quantity)) := by
    rw [buyTickets_checked hauth hs.stored, hok, hquote]
    change completePurchase h c w r buyer buyer quantity quote.netToPay quote.fee = _
    rw [hfee, hcharged]
    rfl
  have hgift := buyTicketsFor_listed ht hs hsome hauth hok
  have hquoted : (calculateBuyQuote r quantity).isOk = true := by
    rw [hquote]
    rfl
  by_cases hlist : quotedCharge r quantity = listCharge r quantity
  · rw [hbought, hgift, hlist]
    exact iff_of_true (Agree.refl _) (.inl hlist)
  · have hpriced : PricedAlike h c w r buyer quantity ↔
        (stopsAt h c w r buyer (listCharge r quantity)
          (feeOn r (listCharge r quantity))).isSome = true ∧
        stopsAt h c w r buyer (quotedCharge r quantity) (feeOn r (quotedCharge r quantity)) =
          stopsAt h c w r buyer (listCharge r quantity) (feeOn r (listCharge r quantity)) := by
      simp [PricedAlike, hlist, hquoted]
    rw [hpriced]
    rcases completePurchase_outcome (h := h) (c := c) hs hauth.2 (quotedCharge r quantity)
        (feeOn r (quotedCharge r quantity)) with
      ⟨refusal, hstops, hresult⟩ | ⟨hstops, ⟨w₁, n₁⟩, hresult⟩ <;>
    rcases completePurchase_outcome (h := h) (c := c) hs hauth.2 (listCharge r quantity)
        (feeOn r (listCharge r quantity)) with
      ⟨refusal', hstops', hresult'⟩ | ⟨hstops', ⟨w₂, n₂⟩, hresult'⟩
    · rw [hbought, hgift, hresult, hresult', hstops, hstops']
      simp [Agree]
    · rw [hbought, hgift, hresult, hresult', hstops']
      simp [Agree]
    · rw [hbought, hgift, hresult, hresult', hstops, hstops']
      simp [Agree]
    · rw [hresult] at hbought
      rw [hresult'] at hgift
      have hpaid := buyTickets_payment hs.stored hbought
      have hgiven := buyTicketsFor_payment hs.stored hgift
      rw [hbought, hgift, hstops']
      refine iff_of_false (fun hagree => ?_) (by simp)
      rw [hagree.1, hgiven] at hpaid
      simp only [Option.some.injEq, Transfer.mk.injEq, true_and] at hpaid
      exact hlist hpaid.symm

/-- A purchase that has passed its checks agrees with the gift exactly if the
two are priced alike. -/
theorem checked_agree_iff :
    Agree (buyTickets h c w buyer quantity) (buyTicketsFor h c w buyer buyer quantity) ↔
      PricedAlike h c w r buyer quantity := by
  cases hquote : calculateBuyQuote r quantity with
  | error abort =>
    have hdisagree := overflow_disagrees ht hs hsome hauth hok hquote
    exact iff_of_false hdisagree.1 hdisagree.2
  | ok quote => exact quoted_agree_iff ht hs hsome hauth hok hquote

end Checked

/-- In every reachable state a gift to oneself agrees with a purchase exactly if
the two are charged alike. -/
theorem selfGift_agrees_iff (hinit : Initialised h w) (calls : List Invocation)
    (hr : ((machine h).run w calls).raffle = some r) (c : Ctx) (buyer : Address)
    (quantity : Nat) :
    Agree (buyTickets h c ((machine h).run w calls) buyer quantity)
        (buyTicketsFor h c ((machine h).run w calls) buyer buyer quantity) ↔
      ChargedAlike h c ((machine h).run w calls) r buyer quantity := by
  unfold ChargedAlike
  split
  next hauth =>
    cases hok : saleChecks c ((machine h).run w calls) r buyer quantity with
    | error abort =>
      rw [buyTickets_checked hauth hr, buyTicketsFor_checked hauth hr, hok]
      exact iff_of_true (Eq.refl abort) nofun
    | ok u =>
      have hterms : Terms r := ((lifecycle_always hinit calls).last.view hr).terms
      have hs := onSale_of_checks hinit calls hr hok
      have hsome := (saleChecks_ok hok).2.1
      rw [checked_agree_iff hterms hs hsome hauth hok]
      exact ⟨fun hpriced _ => hpriced, fun hpriced => hpriced rfl⟩
  next hauth => exact unauthorised_agree_iff hauth hr

def openedRun : List Invocation := [Sample.signed [Sample.creator] 1 1 .depositPrize]

/-- At the list price the two calls agree. -/
theorem selfGift_agrees_iff_openedRun :
    (buyTickets (Sample.host .ifElse) (Sample.ctx 2 2 [Sample.buyer])
      (Sample.after .ifElse Sample.config openedRun) Sample.buyer 2).isOk = true ∧
    Agree
      (buyTickets (Sample.host .ifElse) (Sample.ctx 2 2 [Sample.buyer])
        (Sample.after .ifElse Sample.config openedRun) Sample.buyer 2)
      (buyTicketsFor (Sample.host .ifElse) (Sample.ctx 2 2 [Sample.buyer])
        (Sample.after .ifElse Sample.config openedRun) Sample.buyer Sample.buyer 2) := by
  have hinit : Initialised (Sample.host .ifElse) (Sample.start .ifElse Sample.config) :=
    Sample.start_initialised (by decide +kernel)
  have halike : ∃ r, r ∈ (Sample.after .ifElse Sample.config openedRun).raffle ∧
      ChargedAlike (Sample.host .ifElse) (Sample.ctx 2 2 [Sample.buyer])
        (Sample.after .ifElse Sample.config openedRun) r Sample.buyer 2 := by decide +kernel
  obtain ⟨r, hr, halike⟩ := halike
  exact ⟨by decide +kernel, (selfGift_agrees_iff hinit openedRun hr _ _ _).mpr halike⟩

def discountedConfig : RaffleConfig :=
  { Sample.config with earlyBirdTicketPercentage := 50, earlyBirdDiscountBp := 5000 }

/-- The first ticket costs 5000, or 10000 as a gift to oneself. -/
theorem selfGift_undiscounted :
    Initialised (Sample.host .ifElse) (Sample.start .ifElse discountedConfig) ∧
    ((buyTickets (Sample.host .ifElse) (Sample.ctx 2 2 [Sample.buyer])
      (Sample.after .ifElse discountedConfig openedRun) Sample.buyer 1).toOption.map
        fun result => result.1.balance Sample.token Sample.buyer) = some 995000 ∧
    ((buyTicketsFor (Sample.host .ifElse) (Sample.ctx 2 2 [Sample.buyer])
      (Sample.after .ifElse discountedConfig openedRun) Sample.buyer Sample.buyer 1).toOption.map
        fun result => result.1.balance Sample.token Sample.buyer) = some 990000 ∧
    ¬Agree
      (buyTickets (Sample.host .ifElse) (Sample.ctx 2 2 [Sample.buyer])
        (Sample.after .ifElse discountedConfig openedRun) Sample.buyer 1)
      (buyTicketsFor (Sample.host .ifElse) (Sample.ctx 2 2 [Sample.buyer])
        (Sample.after .ifElse discountedConfig openedRun) Sample.buyer Sample.buyer 1) := by
  refine ⟨Sample.start_initialised (by decide +kernel), by decide +kernel, by decide +kernel, ?_⟩
  intro hagree
  exact absurd hagree.transfers (by decide +kernel)

end TikkaRaffle.Properties
