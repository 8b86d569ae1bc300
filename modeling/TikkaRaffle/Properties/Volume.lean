import TikkaRaffle.Escrow.Notices
import TikkaRaffle.Properties.Attestation
import TikkaRaffle.Properties.Tickets

/-! The volume on the leaderboard against the volume recorded sale by sale.
The one is recomputed from the counters when the raffle is drawn, the other is
the sum of what buyers were charged. -/
namespace TikkaRaffle.Properties

open TikkaRaffle.Lib TikkaRaffle.Instance TikkaRaffle.Escrow

variable {h : Host} {w w' : World} {r r' : Raffle} {b b' : Books} {a : Act} {i : Invocation}
  {quantity : Nat}

def volumeOf : FactoryCall → Option Int
  | .recordVolume _ amount => some amount
  | _ => none

def leaderboardOf : FactoryCall → Option Int
  | .recordLeaderboardEntry _ _ _ totalVolume => some totalVolume
  | _ => none

def recordedVolume (calls : List FactoryCall) : Int := (calls.filterMap volumeOf).sum

def reportedVolumes (calls : List FactoryCall) : List Int := calls.filterMap leaderboardOf

/-- A finalized raffle has reported its volume once, and what it reported is
what it had recorded. -/
def VolumesAgree (w : World) : Prop :=
  ∀ r ∈ w.raffle, r.status = .finalized →
    reportedVolumes w.factoryCalls = [recordedVolume w.factoryCalls]

/-- No bundle applies, and a ticket of the early-bird window has a discount
without a rounding error. -/
def ExactlyDiscounted (r : Raffle) (quantity : Nat) : Prop :=
  bundleUnit r quantity = r.ticketPrice ∧
    (earlyBirdQuantity r quantity = 0 ∨ (10000 : Int) ∣ r.ticketPrice * r.earlyBirdDiscountBp)

/-- The condition on an order. Gifts pay the list price, so they must lie
outside the early-bird window. -/
def Tallied (r : Raffle) (order : Order) : Prop :=
  if order.bundled then ExactlyDiscounted r order.quantity
  else earlyBirdQuantity r order.quantity = 0

def TalliedCall (w : World) (call : Call) : Prop :=
  ∀ r ∈ w.raffle, ∀ order ∈ orderOf call, Tallied r order

instance (w : World) : Decidable (VolumesAgree w) :=
  inferInstanceAs (Decidable (∀ r ∈ w.raffle, r.status = .finalized → _ = _))

instance (r : Raffle) (quantity : Nat) : Decidable (ExactlyDiscounted r quantity) :=
  inferInstanceAs (Decidable (_ ∧ _))

instance (r : Raffle) (order : Order) : Decidable (Tallied r order) :=
  inferInstanceAs (Decidable (if order.bundled then ExactlyDiscounted r order.quantity
    else earlyBirdQuantity r order.quantity = 0))

instance (w : World) (call : Call) : Decidable (TalliedCall w call) :=
  inferInstanceAs (Decidable (∀ r ∈ w.raffle, ∀ order ∈ orderOf call, _))

def windowSize (r : Raffle) : Nat := r.maxTickets * r.earlyBirdTicketPercentage / 100

def discountedPrice (r : Raffle) : Int :=
  r.ticketPrice * (10000 - r.earlyBirdDiscountBp) / 10000

/-- What the leaderboard counts for the first `sold` tickets. -/
def listVolume (r : Raffle) (sold : Nat) : Int :=
  r.ticketPrice * sold - (r.ticketPrice - discountedPrice r) * min sold (windowSize r)

theorem windowSize_lt (ht : Terms r) : r.maxTickets * r.earlyBirdTicketPercentage < 2 ^ 32 := by
  have hmax : r.maxTickets ≤ 100000 := ht.maxTickets_le
  have hproduct := Nat.mul_le_mul hmax ht.percentage_le
  omega

theorem saturateI128_small {value : Int} (hlow : 0 ≤ value) (hhigh : value ≤ 2 ^ 126) :
    saturateI128 value = value := by
  unfold saturateI128 i128Min i128Max
  omega

theorem volume_le (ht : Terms r) {count : Nat} (hcount : count ≤ r.maxTickets) {price : Int}
    (hprice : price ≤ r.ticketPrice) : (count : Int) * price ≤ 2 ^ 120 := by
  have hmax : (count : Int) ≤ 100000 := by
    have hlimit : r.maxTickets ≤ 100000 := ht.maxTickets_le
    exact_mod_cast hcount.trans hlimit
  have hlist : r.ticketPrice ≤ 1000000000000000000000 := ht.price_le.trans ht.prize_le
  have hpos := ht.price_pos
  calc (count : Int) * price
      ≤ count * r.ticketPrice := Int.mul_le_mul_of_nonneg_left hprice (Int.natCast_nonneg _)
    _ ≤ 100000 * r.ticketPrice := Int.mul_le_mul_of_nonneg_right hmax hpos.le
    _ ≤ 2 ^ 120 := by omega

theorem discounted_rate (ht : Terms r) (hbp : r.earlyBirdDiscountBp ≤ 10000) :
    0 ≤ r.ticketPrice * (10000 - r.earlyBirdDiscountBp) ∧
      r.ticketPrice * (10000 - r.earlyBirdDiscountBp) ≤ r.ticketPrice * 10000 := by
  have hleft : 10000 - r.earlyBirdDiscountBp ≤ 10000 := Nat.sub_le ..
  have hrate := scaled_bounds ht.price_pos.le hleft
  rwa [Nat.cast_sub hbp, Nat.cast_ofNat] at hrate

theorem discountedPrice_bounds (ht : Terms r) (hbp : r.earlyBirdDiscountBp ≤ 10000) :
    0 ≤ discountedPrice r ∧ discountedPrice r ≤ r.ticketPrice := by
  have hrate := discounted_rate ht hbp
  unfold discountedPrice
  omega

theorem discounted_count (ht : Terms r) :
    (if r.ticketsSold < saturateU32 (r.maxTickets * r.earlyBirdTicketPercentage) / 100 then
      r.ticketsSold
    else saturateU32 (r.maxTickets * r.earlyBirdTicketPercentage) / 100) =
      min r.ticketsSold (windowSize r) := by
  have hsmall := windowSize_lt ht
  have hsame : saturateU32 (r.maxTickets * r.earlyBirdTicketPercentage) =
      r.maxTickets * r.earlyBirdTicketPercentage := by
    unfold saturateU32
    omega
  rw [hsame, windowSize]
  split <;> omega

theorem saturate_volume (ht : Terms r) {inside sold : Nat} {price : Int} (hinside : inside ≤ sold)
    (hsupply : sold ≤ r.maxTickets) (hlow : 0 ≤ price) (hprice : price ≤ r.ticketPrice) :
    saturateI128 (saturateI128 (inside * price) +
      saturateI128 ((sold - inside : Nat) * r.ticketPrice)) =
        r.ticketPrice * sold - (r.ticketPrice - price) * inside := by
  have hfirst := volume_le ht (hinside.trans hsupply) hprice
  have hrest : sold - inside ≤ r.maxTickets := (Nat.sub_le ..).trans hsupply
  have hsecond := volume_le ht hrest le_rfl
  have hfirst_nonneg : 0 ≤ (inside : Int) * price := Int.mul_nonneg (Int.natCast_nonneg _) hlow
  have hsecond_nonneg : 0 ≤ ((sold - inside : Nat) : Int) * r.ticketPrice :=
    Int.mul_nonneg (Int.natCast_nonneg _) ht.price_pos.le
  rw [saturateI128_small hfirst_nonneg (by omega), saturateI128_small hsecond_nonneg (by omega),
    saturateI128_small (by omega) (by omega), Nat.cast_sub hinside]
  ring

/-- Without an early-bird window the leaderboard counts list prices, with one
it counts the discounted price inside. -/
theorem leaderboardVolume_eq (ht : Terms r) (hsupply : r.ticketsSold ≤ r.maxTickets) :
    leaderboardVolume r = listVolume r r.ticketsSold := by
  have hlist : r.ticketPrice ≤ 1000000000000000000000 := ht.price_le.trans ht.prize_le
  have hpos := ht.price_pos
  simp only [leaderboardVolume, discounted_count ht]
  rcases Nat.eq_zero_or_pos r.earlyBirdTicketPercentage with hnone | hsome
  · have hempty : windowSize r = 0 := by simp [windowSize, hnone]
    have hvolume := saturate_volume ht (Nat.zero_le _) hsupply (le_refl 0) hpos.le
    rw [listVolume, hempty, Nat.min_zero, Nat.cast_zero, Int.mul_zero, Int.sub_zero]
    simpa using hvolume
  · have hbp := ht.earlyBird_le hsome
    obtain ⟨hlow, hhigh⟩ := discountedPrice_bounds ht hbp
    have hrate := discounted_rate ht hbp
    rw [saturateI128_small hrate.1 (by omega), Int.tdiv_eq_ediv_of_nonneg hrate.1]
    exact saturate_volume ht (Nat.min_le_left ..) hsupply hlow hhigh

def insideWindow (r : Raffle) (quantity : Nat) : Nat :=
  min (windowSize r - r.ticketsSold) quantity

theorem listVolume_add (r : Raffle) (quantity : Nat) :
    listVolume r (r.ticketsSold + quantity) = listVolume r r.ticketsSold +
      (r.ticketPrice * quantity -
        (r.ticketPrice - discountedPrice r) * insideWindow r quantity) := by
  have hinside : min (r.ticketsSold + quantity) (windowSize r) =
      min r.ticketsSold (windowSize r) + insideWindow r quantity := by
    unfold insideWindow
    omega
  rw [listVolume, listVolume, hinside, Nat.cast_add, Nat.cast_add]
  ring

theorem undiscounted (hnone : earlyBirdQuantity r quantity = 0) :
    (r.ticketPrice - discountedPrice r) * insideWindow r quantity = 0 := by
  unfold earlyBirdQuantity at hnone
  split at hnone
  next =>
    have hinside : insideWindow r quantity = 0 := hnone
    rw [hinside, Nat.cast_zero, Int.mul_zero]
  next hoff =>
    rcases Nat.eq_zero_or_pos r.earlyBirdTicketPercentage with hzero | hpos
    · simp [insideWindow, windowSize, hzero]
    · have hbp : r.earlyBirdDiscountBp = 0 := by
        by_contra hne
        exact hoff ⟨hpos, Nat.pos_of_ne_zero hne⟩
      have hsame : discountedPrice r = r.ticketPrice := by
        rw [discountedPrice, hbp]
        omega
      rw [hsame, Int.sub_self, Int.zero_mul]

/-- A discount that divides evenly is the one the closed form subtracts. -/
theorem discounted (ht : Terms r) (hsome : earlyBirdQuantity r quantity ≠ 0)
    (heven : (10000 : Int) ∣ r.ticketPrice * r.earlyBirdDiscountBp) :
    (r.ticketPrice * r.earlyBirdDiscountBp).tdiv 10000 * earlyBirdQuantity r quantity =
      (r.ticketPrice - discountedPrice r) * insideWindow r quantity := by
  have hnonneg : 0 ≤ r.ticketPrice * (r.earlyBirdDiscountBp : Int) :=
    Int.mul_nonneg ht.price_pos.le (Int.natCast_nonneg _)
  have hcut : r.ticketPrice - discountedPrice r =
      r.ticketPrice * r.earlyBirdDiscountBp / 10000 := by
    rw [discountedPrice, Int.mul_sub]
    omega
  unfold earlyBirdQuantity at hsome ⊢
  split at hsome
  next hon =>
    rw [if_pos hon, hcut, Int.tdiv_eq_ediv_of_nonneg hnonneg]
    rfl
  next => exact absurd rfl hsome

/-- Under its condition an order is charged what it adds to the closed form. -/
theorem charge_eq_listVolume {order : Order} (ht : Terms r) (htallied : Tallied r order) :
    listVolume r (r.ticketsSold + order.quantity) =
      listVolume r r.ticketsSold + order.charge r := by
  rw [listVolume_add]
  congr 1
  unfold Tallied at htallied
  unfold Order.charge
  split at htallied
  next hbundled =>
    obtain ⟨hunit, hcut⟩ := htallied
    rw [if_pos hbundled, earlyBirdCut, hunit]
    by_cases hnone : earlyBirdQuantity r order.quantity = 0
    · rw [undiscounted hnone, hnone, Nat.cast_zero, Int.mul_zero]
    · rw [discounted ht hnone (hcut.resolve_left hnone)]
  next hgift => rw [if_neg hgift, undiscounted htallied, Int.sub_zero]

theorem settled_iff_path {acts : List Act} (hpath : Path (Move h) b acts b')
    (hacts : ∀ a ∈ acts, a ≠ .finish) : Settled b'.raffle ↔ Settled b.raffle :=
  hpath.preserves (fun b₁ : Books => Settled b₁.raffle ↔ Settled b.raffle) (· ≠ .finish)
    (fun _ _ _ ha hsame hm =>
      ⟨fun hs => hsame.mp (Move.settled_same hm ha hs).1,
        fun hs => (Hops.move hm).stays paying paying_closed (hsame.mpr hs)⟩) hacts .rfl

theorem notifies_order {call : Call} {order : Order} (hn : call.Notifies h w r w')
    (horder : orderOf call = some order) : SaleNotifies w r w' order := by
  cases call with
  | buyTickets | buyTicketsFor =>
    cases horder
    exact hn
  | _ => cases horder

theorem notifies_quiet {call : Call} (hn : call.Notifies h w r w')
    (horder : orderOf call = none) (hdraw : isDraw call = false) : channel w' = channel w := by
  cases call with
  | buyTickets | buyTicketsFor => cases horder
  | finalizeRaffle | provideRandomness | provideQuorumRandomness | triggerRandomnessFallback =>
    cases hdraw
  | _ => exact hn

theorem notifies_draw {call : Call} (hn : call.Notifies h w r w') (hdraw : isDraw call = true) :
    DrawNotifies h w r w' := by
  cases call with
  | finalizeRaffle | provideRandomness | provideQuorumRandomness | triggerRandomnessFallback =>
    exact hn
  | _ => cases hdraw

theorem recordedVolume_append (first last : List FactoryCall) :
    recordedVolume (first ++ last) = recordedVolume first + recordedVolume last := by
  simp [recordedVolume]

theorem reportedVolumes_append (first last : List FactoryCall) :
    reportedVolumes (first ++ last) = reportedVolumes first ++ reportedVolumes last := by
  simp [reportedVolumes]

/-- The recorded volume follows the counters, and it is reported when the
raffle is drawn. -/
structure Reported (w : World) (r : Raffle) : Prop where
  factory : w.factory.isSome = true
  recorded : recordedVolume w.factoryCalls = leaderboardVolume r
  pending : ¬Settled r → reportedVolumes w.factoryCalls = []
  reported : Settled r → reportedVolumes w.factoryCalls = [leaderboardVolume r]

theorem Reported.quiet (hw : Reported w r) (hsaid : channel w' = channel w)
    (hterms : SameTerms r r') (hsold : r'.ticketsSold = r.ticketsSold)
    (hsettled : Settled r' ↔ Settled r) : Reported w' r' := by
  have hcalls : w'.factoryCalls = w.factoryCalls := congrArg Prod.snd hsaid
  have hfactory : w'.factory = w.factory := congrArg Prod.fst hsaid
  have hvolume := leaderboardVolume_congr hterms hsold
  refine ⟨?_, ?_, ?_, ?_⟩
  · rw [hfactory]
    exact hw.factory
  · rw [hcalls, hvolume]
    exact hw.recorded
  · rw [hcalls, hsettled]
    exact hw.pending
  · rw [hcalls, hsettled, hvolume]
    exact hw.reported

theorem Reported.sale {order : Order} (hw : Reported w r) (ht : Terms r)
    (hsupply : r.ticketsSold ≤ r.maxTickets) (htallied : Tallied r order)
    (hsaid : SaleNotifies w r w' order) (hterms : SameTerms r r')
    (hsold : r'.ticketsSold = r.ticketsSold + order.quantity)
    (hsupply' : r'.ticketsSold ≤ r'.maxTickets) (ht' : Terms r') (hopen : ¬Settled r)
    (hopen' : ¬Settled r') : Reported w' r' := by
  have hcalls : w'.factoryCalls =
      w.factoryCalls ++ saleNotice r order.holder (order.charge r) := congrArg Prod.snd hsaid
  have hfactory : w'.factory = w.factory := congrArg Prod.fst hsaid
  have hlist : listVolume r' r'.ticketsSold = listVolume r r'.ticketsSold := by
    simp only [listVolume, windowSize, discountedPrice, hterms.ticketPrice, hterms.maxTickets,
      hterms.earlyBirdTicketPercentage, hterms.earlyBirdDiscountBp]
  refine ⟨?_, ?_, fun _ => ?_, fun hs => absurd hs hopen'⟩
  · rw [hfactory]
    exact hw.factory
  · have hcharge : recordedVolume (saleNotice r order.holder (order.charge r)) =
        order.charge r := by
      simp [recordedVolume, saleNotice, List.filterMap_cons, volumeOf]
    rw [hcalls, recordedVolume_append, hcharge, hw.recorded, leaderboardVolume_eq ht hsupply,
      leaderboardVolume_eq ht' hsupply', hlist, hsold, charge_eq_listVolume ht htallied]
  · rw [hcalls, reportedVolumes_append, hw.pending hopen]
    rfl

theorem Reported.drawn (hw : Reported w r) (hsaid : channel w' = told w (drawNotice h r))
    (hterms : SameTerms r r') (hsold : r'.ticketsSold = r.ticketsSold) (hopen : ¬Settled r)
    (hsettled : Settled r') : Reported w' r' := by
  have hcalls : w'.factoryCalls = w.factoryCalls ++ drawNotice h r := congrArg Prod.snd hsaid
  have hfactory : w'.factory = w.factory := congrArg Prod.fst hsaid
  have hvolume := leaderboardVolume_congr hterms hsold
  refine ⟨?_, ?_, fun hs => absurd hsettled hs, fun _ => ?_⟩
  · rw [hfactory]
    exact hw.factory
  · have hnone : recordedVolume (drawNotice h r) = 0 := rfl
    rw [hcalls, recordedVolume_append, hnone, hw.recorded, hvolume, Int.add_zero]
  · rw [hcalls, reportedVolumes_append, hw.pending hopen, hvolume]
    rfl

def ReportedWorld (h : Host) (w : World) : Prop :=
  Holds h Lifecycle w ∧ ∃ r, w.raffle = some r ∧ Reported w r

theorem reported_initialised (hinit : Initialised h w) : ReportedWorld h w := by
  obtain ⟨r, hr, hf⟩ := initialised_fresh hinit
  obtain ⟨factory, hsaid⟩ := initialised_channel hinit
  have hcalls : w.factoryCalls = [] := congrArg Prod.snd hsaid
  have hfactory : w.factory = some factory := congrArg Prod.fst hsaid
  have hopen : ¬Settled r := by
    have hpending : r.status = .pendingPrize := hf.pending
    simp [Settled, hpending]
  have hunsold : r.ticketsSold = 0 := hf.unsold
  refine ⟨⟨r, hr, .of_fresh hf⟩, r, hr, ?_, ?_, fun _ => by rw [hcalls]; rfl,
    fun hs => absurd hs hopen⟩
  · rw [hfactory]
    rfl
  · have hterms : Terms r := hf.terms
    rw [hcalls, leaderboardVolume_eq hterms (by omega), hunsold]
    simp [recordedVolume, listVolume]

theorem reported_step (hw : ReportedWorld h w)
    (htallied : TalliedCall w i.call) (hok : invoke h i w = .ok w') :
    ReportedWorld h w' := by
  obtain ⟨hbooks, r, hr, hreported⟩ := hw
  have hlater := lifecycle_step hbooks hok
  obtain ⟨r', acts, hr', hyields, hpath⟩ := committed_path_from hbooks hr hok
  obtain ⟨factory, hfactory⟩ := Option.isSome_iff_exists.mp hreported.factory
  have hnotifies := invoke_notifies hr hfactory hok
  have hterms : SameTerms r r' := SameTerms.path hpath
  have hlife := hbooks.view hr
  have hlife' := hlater.view hr'
  refine ⟨hlater, r', hr', ?_⟩
  cases horder : orderOf i.call with
  | some order =>
    have hacts := yields_order hyields horder
    subst hacts
    have hmove := hpath.of_single
    have hactive := Move.sale_active hmove
    have hopen : ¬Settled r := not_settled_of_open (.inl hactive)
    have hopen' : ¬Settled r' := fun hs => hopen (Move.settled_same hmove nofun hs).1
    exact hreported.sale hlife.terms hlife.supply (htallied r hr order horder)
      (notifies_order hnotifies horder) hterms (Move.issued hmove).2.1 hlife'.supply hlife'.terms
      hopen hopen'
  | none =>
    have hsold : r'.ticketsSold = r.ticketsSold :=
      sold_same_path hpath (yields_no_sale hyields horder)
    cases hdraw : isDraw i.call with
    | false =>
      exact hreported.quiet (notifies_quiet hnotifies horder hdraw) hterms hsold
        (settled_iff_path hpath (yields_no_finish hyields hdraw))
    | true =>
      have hstays : Settled r → Settled r' :=
        (Hops.path hpath).stays paying paying_closed
      rcases notifies_draw hnotifies hdraw with ⟨hquiet, r₁, hr₁, hopen⟩ |
        ⟨htold, hopen, r₁, hr₁, hsettled⟩
      · rw [hr'] at hr₁
        cases hr₁
        refine hreported.quiet hquiet hterms hsold ⟨fun hs => ?_, hstays⟩
        rwa [hopen hs] at hs
      · rw [hr'] at hr₁
        cases hr₁
        exact hreported.drawn htold hterms hsold hopen hsettled

/-- Where every purchase meets its condition the leaderboard agrees with the
recorded volume. -/
theorem volumes_agree (hinit : Initialised h w) {calls : List Invocation}
    (htallied : (machine h).Each (fun w i _ => TalliedCall w i.call) w calls) :
    (machine h).Always VolumesAgree w calls := by
  have hall := Machine.always_of_each (ReportedWorld h)
    (fun w i w' hw hP hok => reported_step hw hP hok) (reported_initialised hinit) htallied
  refine hall.mono fun w₁ hw₁ => ?_
  obtain ⟨-, r, hr, hreported⟩ := hw₁
  refine forall_stored hr fun hfinalized => ?_
  rw [hreported.reported (.inl hfinalized), hreported.recorded]

def windowConfig : RaffleConfig :=
  { Sample.config with earlyBirdTicketPercentage := 50, earlyBirdDiscountBp := 5000 }

def tallyRun : List Invocation :=
  [Sample.signed [Sample.creator] 1 1 .depositPrize,
    Sample.signed [Sample.buyer] 2 2 (.buyTickets Sample.buyer 1),
    Sample.signed [Sample.treasury] 3 3 (.buyTicketsFor Sample.treasury Sample.buyer 1),
    Sample.signed [Sample.creator] 1000 4 .finalizeRaffle]

theorem volumes_agree_tallyRun :
    Initialised (Sample.host .ifElse) (Sample.start .ifElse windowConfig) ∧
    (Sample.after .ifElse windowConfig tallyRun).raffle.map Raffle.status = some .finalized ∧
    reportedVolumes (Sample.after .ifElse windowConfig tallyRun).factoryCalls = [15000] ∧
    (machine (Sample.host .ifElse)).Always VolumesAgree (Sample.start .ifElse windowConfig)
      tallyRun :=
  have hinit := Sample.start_initialised (by decide +kernel)
  have heach : (machine (Sample.host .ifElse)).Each (fun w i _ => TalliedCall w i.call)
      (Sample.start .ifElse windowConfig) tallyRun := by decide +kernel
  ⟨hinit, by decide +kernel, by decide +kernel, volumes_agree hinit heach⟩

def earlyGiftRun : List Invocation :=
  [Sample.signed [Sample.creator] 1 1 .depositPrize,
    Sample.signed [Sample.buyer] 2 2 (.buyTicketsFor Sample.buyer Sample.treasury 1),
    Sample.signed [Sample.creator] 1000 3 .finalizeRaffle]

/-- The gift is recorded with 10000 and reported with 5000. -/
theorem earlyGift_volumes_differ :
    Initialised (Sample.host .ifElse) (Sample.start .ifElse windowConfig) ∧
    recordedVolume (Sample.after .ifElse windowConfig earlyGiftRun).factoryCalls = 10000 ∧
    reportedVolumes (Sample.after .ifElse windowConfig earlyGiftRun).factoryCalls = [5000] ∧
    ¬VolumesAgree (Sample.after .ifElse windowConfig earlyGiftRun) :=
  ⟨Sample.start_initialised (by decide +kernel), by decide +kernel, by decide +kernel,
    by decide +kernel⟩

end TikkaRaffle.Properties
