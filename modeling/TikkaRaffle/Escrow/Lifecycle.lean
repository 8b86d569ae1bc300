import TikkaRaffle.Escrow.Refinement

/-! The terms an accepted configuration fixes, the books right after
initialisation, and the lifecycle invariant every move keeps. -/
namespace TikkaRaffle.Escrow

open TikkaRaffle.Lib TikkaRaffle.Instance

/-- Bounds that initialisation checks and that no call can leave. -/
structure Terms (r : Raffle) : Prop where
  token : r.prizeToken = r.paymentToken
  minPrice : Constants.minTicketPrice ≤ r.ticketPrice
  price_le : r.ticketPrice ≤ r.prizeAmount
  prize_le : r.prizeAmount ≤ Constants.maxPrizeAmount
  prizes_ne : r.prizes ≠ []
  prizes_sum : r.prizes.sum = 10000
  feeBp_le : r.protocolFeeBp ≤ 10000
  percentage_le : r.earlyBirdTicketPercentage ≤ 100
  earlyBird_le : 0 < r.earlyBirdTicketPercentage → r.earlyBirdDiscountBp ≤ 10000
  maxTickets_pos : 0 < r.maxTickets
  maxTickets_le : r.maxTickets ≤ Constants.maxTicketsLimit

namespace Terms

variable {r : Raffle}

theorem prize_pos (ht : Terms r) : 0 < r.prizeAmount :=
  lt_of_lt_of_le (by decide) (ht.minPrice.trans ht.price_le)

theorem price_pos (ht : Terms r) : 0 < r.ticketPrice :=
  lt_of_lt_of_le (by decide) ht.minPrice

end Terms

structure Fresh (b : Books) : Prop where
  terms : Terms b.raffle
  pending : b.raffle.status = .pendingPrize
  undeposited : b.raffle.prizeDeposited = false
  unsold : b.raffle.ticketsSold = 0
  winners : b.raffle.winners = []
  undrawn : b.raffle.finalizedAt = none
  ticket : ∀ i, b.ticket i = none
  refunded : ∀ i, b.refunded i = none
  fees : b.fees = 0
  lock : b.lock = false
  requested : b.requested = false
  unasked : b.requestId = none
  held_nonneg : 0 ≤ b.held
  transfers : b.transfers = []
  receipts : b.receipts = []
  trail : b.trail = []

theorem totalPrizesBp_ok {prizes : List Nat} {total : Nat}
    (hok : totalPrizesBp prizes = .ok total) : prizes.sum = total := by
  have hsum : total = 0 + (prizes.map id).sum := by
    refine foldlM_sum (fun acc bp acc' _ hround => ?_) hok
    simp only [addPrizeBp, except_bind_ok, ensure_ok, except_pure_ok, exists_const] at hround
    exact hround.2.2.symm
  simpa using hsum.symm

variable {h : Host} {w : World}

theorem resolveTicketCap_terms (config : RaffleConfig) :
    ∃ cap, resolveTicketCap config = { config with maxTicketsPerAddress := cap } := by
  unfold resolveTicketCap
  split
  · exact ⟨1, rfl⟩
  · exact ⟨config.maxTicketsPerAddress, rfl⟩

theorem initialised_fresh (hinit : Initialised h w) : Holds h Fresh w := by
  obtain ⟨c, holdings, factory, admin, creator, config, hok⟩ := hinit
  obtain ⟨cap, hcap⟩ := resolveTicketCap_terms config.resolveDefaults
  simp only [init, validateSupply, validatePrize, validateWindows, hcap, except_bind_ok,
    ensure_ok, except_pure_ok, exists_const] at hok
  obtain ⟨-, ⟨-, -, -, -, ⟨hmax, hlimit⟩, -, -, -⟩, ⟨hmin, hprice, hprize, -, hprizes, -, htiers,
    total, htotal, rfl, hfee, -⟩, _, -, -, -, ⟨-, -, -, -, hpercent, hearly⟩, rfl⟩ := hok
  refine ⟨_, rfl, ⟨rfl, hmin, hprice, hprize, hprizes, totalPrizesBp_ok htotal, hfee, hpercent, ?_,
    Nat.pos_of_ne_zero hmax, hlimit⟩, rfl, rfl, rfl, rfl, rfl, fun _ => rfl, fun _ => rfl, rfl,
    rfl, rfl, rfl, Int.natCast_nonneg _, rfl, rfl, rfl⟩
  intro hpercentage
  exact not_lt.mp fun hlt => hearly ⟨hpercentage, hlt⟩

structure Lifecycle (b : Books) : Prop where
  terms : Terms b.raffle
  pending : b.raffle.status = .pendingPrize →
    b.raffle.prizeDeposited = false ∧ b.raffle.ticketsSold = 0 ∧ b.raffle.winners = [] ∧
      b.raffle.finalizedAt = none
  selling : b.raffle.status = .active ∨ b.raffle.status = .drawing →
    b.raffle.prizeDeposited = true ∧ b.raffle.winners = [] ∧ b.raffle.finalizedAt = none
  settled : Settled b.raffle → b.raffle.winners.length = b.raffle.prizes.length ∧
    b.raffle.finalizedAt.isSome = true ∧ b.drawn = true ∧ b.raffle.prizeDeposited = true
  openTier : b.raffle.status = .finalized → b.raffle.winners.all Winner.claimed = false
  noTier : b.raffle.status = .claimed → b.raffle.winners.all Winner.claimed = true
  returned : Refundable b.raffle → b.raffle.winners = []
  supply : b.raffle.ticketsSold ≤ b.raffle.maxTickets
  onSale : b.raffle.status = .active → b.raffle.ticketsSold < b.raffle.maxTickets

namespace Lifecycle

variable {b b' : Books}

theorem ready (hl : Lifecycle b) : Ready b.raffle := ⟨hl.terms.token, hl.openTier⟩

theorem of_fresh (hf : Fresh b) : Lifecycle b where
  terms := hf.terms
  pending _ := ⟨hf.undeposited, hf.unsold, hf.winners, hf.undrawn⟩
  selling hs := by simp [hf.pending] at hs
  settled hs := by simp [Settled, hf.pending] at hs
  openTier hs := by simp [hf.pending] at hs
  noTier hs := by simp [hf.pending] at hs
  returned hs := hf.winners
  supply := by simp [hf.unsold]
  onSale hs := by simp [hf.pending] at hs

theorem of_same (hl : Lifecycle b) (hraffle : b'.raffle = b.raffle)
    (hdrawn : b'.drawn = b.drawn) : Lifecycle b' := by
  obtain ⟨r', _, _, _, _, _, _, d', _, _, _, _⟩ := b'
  cases hraffle
  cases hdrawn
  exact { hl with }

theorem close (hl : Lifecycle b) {status : RaffleStatus}
    (hstatus : status = .cancelled ∨ status = .failed) (hwinners : b.raffle.winners = []) :
    Lifecycle (b.enter status) := by
  have hne : status ≠ .pendingPrize ∧ status ≠ .active ∧ status ≠ .drawing ∧
      status ≠ .finalized ∧ status ≠ .claimed := by
    rcases hstatus with rfl | rfl <;> decide
  obtain ⟨hpending, hactive, hdrawing, hfinalized, hclaimed⟩ := hne
  exact { hl with
    terms := { hl.terms with }
    pending := fun hs => absurd hs hpending
    selling := fun hs => absurd hs (not_or.mpr ⟨hactive, hdrawing⟩)
    settled := fun hs => absurd hs (not_or.mpr ⟨hfinalized, hclaimed⟩)
    openTier := fun hs => absurd hs hfinalized
    noTier := fun hs => absurd hs hclaimed
    returned := fun _ => hwinners
    onSale := fun hs => absurd hs hactive }

theorem startDraw (hl : Lifecycle b) (hactive : b.raffle.status = .active) (request : Option Nat) :
    Lifecycle ((b.enter .drawing).arm request) :=
  { hl with
    terms := { hl.terms with }
    pending := nofun
    selling := fun _ => hl.selling (.inl hactive)
    settled := by simp [Settled, Books.enter, Books.arm]
    openTier := nofun
    noTier := nofun
    returned := by simp [Refundable, Books.enter, Books.arm]
    onSale := nofun }

theorem sell (hl : Lifecycle b) {self : Address} {order : Order} {total fee : Int} {time : Nat}
    (hactive : b.raffle.status = .active)
    (hsupply : b.raffle.ticketsSold + order.quantity < b.raffle.maxTickets) :
    Lifecycle (b.sell self order total fee time) :=
  { hl with
    terms := { hl.terms with }
    pending := fun hs => by simp [Books.sell, hactive] at hs
    supply := hsupply.le
    onSale := fun _ => hsupply }

theorem sellOut (hl : Lifecycle b) {self : Address} {order : Order} {total fee : Int}
    {time : Nat} (hactive : b.raffle.status = .active)
    (hsupply : b.raffle.ticketsSold + order.quantity = b.raffle.maxTickets)
    (request : Option Nat) :
    Lifecycle (((b.sell self order total fee time).enter .drawing).arm request) :=
  { hl with
    terms := { hl.terms with }
    pending := nofun
    selling := fun _ => hl.selling (.inl hactive)
    settled := by simp [Settled, Books.enter, Books.arm]
    openTier := nofun
    noTier := nofun
    returned := by simp [Refundable, Books.enter, Books.arm]
    supply := hsupply.le
    onSale := nofun }

theorem finish (hl : Lifecycle b) {winners : List Address} {time : Nat}
    (hdrawing : b.raffle.status = .drawing)
    (hwinners : winners.length = b.raffle.prizes.length) :
    Lifecycle (((b.enter .finalized).crown winners time).disarm) :=
  { hl with
    terms := { hl.terms with }
    pending := nofun
    selling := by simp [Books.enter, Books.crown, Books.disarm]
    settled := fun _ => ⟨by simp [Books.crown, Books.disarm, Books.enter, hwinners], rfl, rfl,
      (hl.selling (.inr hdrawing)).1⟩
    openTier := fun _ => by
      have hne : winners ≠ [] := fun hnil =>
        hl.terms.prizes_ne (List.length_eq_zero_iff.mp (by rw [← hwinners, hnil]; rfl))
      obtain ⟨first, rest, rfl⟩ := List.exists_cons_of_ne_nil hne
      simp [Books.crown, Books.disarm]
    noTier := nofun
    returned := by simp [Refundable, Books.enter, Books.crown, Books.disarm]
    onSale := nofun }

theorem markClaimed_length (winners : List Winner) (tier : Nat) :
    (markClaimed winners tier).length = winners.length := by
  simp [markClaimed]

theorem markTier (hl : Lifecycle b) (tier : Nat) (hfinalized : b.raffle.status = .finalized) :
    Lifecycle (b.markTier tier) := by
  obtain ⟨hlength, hat, hdrawn, hdeposited⟩ := hl.settled (.inl hfinalized)
  have hcount := (markClaimed_length b.raffle.winners tier).trans hlength
  unfold Books.markTier
  rcases Bool.eq_false_or_eq_true ((b.raffle.claimTier tier).winners.all Winner.claimed) with
    hall | hopen
  · rw [Books.settle_closed hall]
    exact { hl with
      terms := { hl.terms with }
      pending := nofun
      selling := by simp [Books.enter]
      settled := fun _ => ⟨hcount, hat, hdrawn, hdeposited⟩
      openTier := nofun
      noTier := fun _ => hall
      returned := by simp [Refundable, Books.enter]
      onSale := nofun }
  · rw [Books.settle_open hopen]
    exact { hl with
      terms := { hl.terms with }
      pending := fun hs => by simp [hfinalized] at hs
      selling := fun hs => by simp [hfinalized] at hs
      settled := fun _ => ⟨hcount, hat, hdrawn, hdeposited⟩
      openTier := fun _ => hopen
      noTier := fun hs => by simp [hfinalized] at hs
      returned := fun hs => by simp [Refundable, hfinalized] at hs }

theorem deposit (hl : Lifecycle b) {self : Address} {ts : List Transfer}
    (hpending : b.raffle.status = .pendingPrize) :
    Lifecycle (((b.post self ts).setDeposited true).enter .active) := by
  obtain ⟨-, hunsold, hnew⟩ := hl.pending hpending
  exact { hl with
    terms := { hl.terms with }
    pending := nofun
    selling := fun _ => ⟨rfl, hnew⟩
    settled := by simp [Settled, Books.enter]
    openTier := nofun
    noTier := nofun
    returned := by simp [Refundable, Books.enter]
    onSale := fun _ => by
      simp only [Books.enter, Books.setDeposited, Books.post, Raffle.setStatus_ticketsSold,
        Raffle.setPrizeDeposited_ticketsSold, Raffle.setStatus_maxTickets,
        Raffle.setPrizeDeposited_maxTickets, hunsold]
      exact hl.terms.maxTickets_pos }

theorem giveBack (hl : Lifecycle b) (hstatus : Refundable b.raffle) :
    Lifecycle (b.setDeposited false) :=
  { hl with
    terms := { hl.terms with }
    pending := fun hs => ⟨rfl, (hl.pending hs).2⟩
    selling := fun hs => by rcases hstatus with hr | hr <;> simp [Books.setDeposited, hr] at hs
    settled := fun hs => by
      rcases hstatus with hr | hr <;> simp [Settled, Books.setDeposited, hr] at hs }

theorem move {h : Host} {a : Act} (hl : Lifecycle b) (hm : Move h a b b') : Lifecycle b' := by
  cases hm with
  | retune _ oracle deadline salesPaused => exact { hl with terms := { hl.terms with } }
  | setFee _ bp hbp hsold =>
    exact { hl with terms := { hl.terms with feeBp_le := hbp.trans (by decide) } }
  | deposit _ hstatus hdeposited hcreator hprize => exact hl.deposit hstatus
  | buy _ order total fee time hsale hsupply => exact hl.sell hsale.active hsupply
  | sellOut _ order total fee time request hsale hsupply hrequest hfresh =>
    exact hl.sellOut hsale.active hsupply request
  | startDraw _ request hstatus hlock hsold hmin hrequest hfresh =>
    exact hl.startDraw hstatus request
  | finish _ winners time hstatus hwinners htiers => exact hl.finish hstatus hwinners
  | fail _ hstatus hsold =>
    exact hl.close (.inr rfl) (hl.selling (.inl hstatus)).2.1
  | cancel _ hstatus =>
    exact hl.close (.inl rfl) (hl.selling hstatus).2.1
  | abandon _ hstatus hlock =>
    have hclosed := hl.close (.inl rfl) (hl.selling (.inr hstatus)).2.1
    exact hclosed.of_same rfl rfl
  | emergency _ refunds hstatus =>
    have hclosed := hl.close (.inl rfl) (hl.selling (.inr hstatus)).2.1
    exact (hclosed.giveBack (.inl rfl)).of_same rfl rfl
  | claim _ tier winner amount fee hpay =>
    refine markTier ?_ tier hpay.finalized
    exact hl.of_same rfl rfl
  | sweep _ tier winner treasury amount hpay =>
    refine markTier ?_ tier hpay.finalized
    exact hl.of_same rfl rfl
  | returnPrize _ hstatus => exact (hl.giveBack hstatus).of_same rfl rfl
  | refund _ ticketId ticket recipient amount =>
    exact hl.of_same rfl rfl
  | withdraw _ recipient amount hstatus hpositive hbooked => exact hl.of_same rfl rfl
  | release _ purpose token recipient amount =>
    exact hl.of_same rfl rfl
  | wipe _ hstatus hrefunded hheld => exact hl.of_same rfl rfl
  | outside _ t hpurpose hsource hnonneg => exact hl.of_same rfl rfl

end Lifecycle

structure SameTerms (r r' : Raffle) : Prop where
  creator : r'.creator = r.creator
  paymentToken : r'.paymentToken = r.paymentToken
  ticketPrice : r'.ticketPrice = r.ticketPrice
  prizeAmount : r'.prizeAmount = r.prizeAmount
  prizes : r'.prizes = r.prizes
  maxTickets : r'.maxTickets = r.maxTickets
  treasuryAddress : r'.treasuryAddress = r.treasuryAddress
  earlyBirdTicketPercentage : r'.earlyBirdTicketPercentage = r.earlyBirdTicketPercentage
  earlyBirdDiscountBp : r'.earlyBirdDiscountBp = r.earlyBirdDiscountBp
  bundles : r'.bundles = r.bundles

namespace SameTerms

variable {b b' : Books} {r r' r'' : Raffle}

theorem refl (r : Raffle) : SameTerms r r :=
  ⟨rfl, rfl, rfl, rfl, rfl, rfl, rfl, rfl, rfl, rfl⟩

theorem trans (h₁ : SameTerms r r') (h₂ : SameTerms r' r'') : SameTerms r r'' :=
  ⟨h₂.1.trans h₁.1, h₂.2.trans h₁.2, h₂.3.trans h₁.3, h₂.4.trans h₁.4, h₂.5.trans h₁.5,
    h₂.6.trans h₁.6, h₂.7.trans h₁.7, h₂.8.trans h₁.8, h₂.9.trans h₁.9, h₂.10.trans h₁.10⟩

theorem markTier {tier : Nat} (hr : b.raffle = r) : SameTerms r (b.markTier tier).raffle := by
  subst hr
  rw [Books.markTier_raffle]
  exact ⟨rfl, rfl, rfl, rfl, rfl, rfl, rfl, rfl, rfl, rfl⟩

theorem move {h : Host} {a : Act} (hm : Move h a b b') : SameTerms b.raffle b'.raffle := by
  cases hm with
  | claim | sweep => exact markTier (by rfl)
  | _ => exact ⟨rfl, rfl, rfl, rfl, rfl, rfl, rfl, rfl, rfl, rfl⟩

theorem path {h : Host} {acts : List Act} (hp : Path (Move h) b acts b') :
    SameTerms b.raffle b'.raffle :=
  hp.preserves_all (fun b₁ => SameTerms b.raffle b₁.raffle)
    (fun _ _ _ hsame hm => hsame.trans (move hm)) (refl _)

end SameTerms

def allowed (s t : RaffleStatus) : Prop := s.canTransitionTo t = true

/-- The status changes between two states of the books, all of them recorded. -/
def Hops (b b' : Books) : Prop :=
  ∃ hops, b'.trail = b.trail ++ hops ∧ Trail allowed b.raffle.status hops b'.raffle.status

namespace Hops

variable {b b' b'' : Books}

theorem none (htrail : b'.trail = b.trail) (hstatus : b'.raffle.status = b.raffle.status) :
    Hops b b' :=
  ⟨[], by rw [htrail, List.append_nil], hstatus ▸ .nil _⟩

theorem enter {status : RaffleStatus} (hallowed : allowed b.raffle.status status)
    (htrail : b'.trail = b.trail ++ [(b.raffle.status, status)])
    (hstatus : b'.raffle.status = status) : Hops b b' := by
  subst hstatus
  exact ⟨_, htrail, .single ⟨rfl, hallowed⟩⟩

theorem trans (h₁ : Hops b b') (h₂ : Hops b' b'') : Hops b b'' := by
  obtain ⟨hops₁, htrail₁, hpath₁⟩ := h₁
  obtain ⟨hops₂, htrail₂, hpath₂⟩ := h₂
  exact ⟨hops₁ ++ hops₂, by rw [htrail₂, htrail₁, List.append_assoc], hpath₁.append hpath₂⟩

theorem settle (hfinalized : b.raffle.status = .finalized) : Hops b b.settle := by
  unfold Books.settle
  split
  · exact enter (by simp [allowed, hfinalized]) rfl rfl
  · exact none rfl rfl

theorem move {h : Host} {a : Act} (hm : Move h a b b') : Hops b b' := by
  cases hm with
  | deposit _ hstatus => exact enter (by simp [allowed, hstatus]) rfl rfl
  | sellOut _ order total fee time request hsale =>
    exact enter (by simp [allowed, hsale.active]) rfl rfl
  | startDraw _ request hstatus => exact enter (by simp [allowed, hstatus]) rfl rfl
  | finish _ winners time hstatus => exact enter (by simp [allowed, hstatus]) rfl rfl
  | fail _ hstatus => exact enter (by simp [allowed, hstatus]) rfl rfl
  | cancel _ hstatus => exact enter (by simp [allowed, hstatus]) rfl rfl
  | abandon _ hstatus => exact enter (by simp [allowed, hstatus]) rfl rfl
  | emergency _ refunds hstatus => exact enter (by simp [allowed, hstatus]) rfl rfl
  | claim _ tier winner amount fee hpay => exact settle hpay.finalized
  | sweep _ tier winner treasury amount hpay => exact settle hpay.finalized
  | _ => exact none rfl rfl

theorem path {h : Host} {acts : List Act} (hp : Path (Move h) b acts b') : Hops b b' := by
  induction hp with
  | nil => exact none rfl rfl
  | cons hm _ ih => exact (move hm).trans ih

/-- A set of statuses the graph cannot leave is never left. -/
theorem stays (set : RaffleStatus → Prop) (hclosed : ∀ s t, set s → allowed s t → set t)
    (hh : Hops b b') (hb : set b.raffle.status) : set b'.raffle.status := by
  obtain ⟨hops, -, hpath⟩ := hh
  exact hpath.preserves_all set (fun _ s t hs hhop => hclosed s t hs hhop.2) hb

theorem terminal (hh : Hops b b') (hterminal : b.raffle.status.isTerminal = true) :
    b'.raffle.status = b.raffle.status := by
  apply hh.stays (fun s => s = b.raffle.status) _ rfl
  rintro s t rfl hallowed
  rw [allowed, RaffleStatus.isTerminal_stuck hterminal] at hallowed
  cases hallowed

end Hops

theorem Move.refundable {b b' : Books} {ticketId : Nat} (hm : Move h (.refund ticketId) b b') :
    Refundable b.raffle := by
  cases hm with
  | refund _ _ ticket recipient amount hstatus => exact hstatus

theorem Move.sale_active {b b' : Books} {order : Order} (hm : Move h (.buy order) b b') :
    b.raffle.status = .active := by
  cases hm with
  | buy _ _ total fee time hsale => exact hsale.active
  | sellOut _ _ total fee time request hsale => exact hsale.active

theorem Move.start_active {a : Act} {b b' : Books} (hm : Move h a b b')
    (ha : a = .startDraw ∨ a = .fail) : b.raffle.status = .active := by
  rcases ha with rfl | rfl
  · cases hm with
    | startDraw _ request hstatus => exact hstatus
  · cases hm with
    | fail _ hstatus => exact hstatus

theorem Move.finalized {b b' : Books} {tier : Nat} (hm : Move h (.claim tier) b b') :
    b.raffle.status = .finalized := by
  cases hm with
  | claim _ _ winner amount fee hpay => exact hpay.finalized

theorem finalizeRaffle_active {r : Raffle} {b b' : Books} {acts : List Act}
    (hyields : Call.finalizeRaffle.Yields w r acts) (hpath : Path (Move h) b acts b') :
    b.raffle.status = .active := by
  rcases hyields with rfl | rfl | ⟨-, rfl⟩
  · exact Move.start_active hpath.of_single (.inr rfl)
  · exact Move.start_active hpath.of_single (.inl rfl)
  · cases hpath with
    | cons hmove _ => exact Move.start_active hmove (.inl rfl)

theorem initialised_lifecycle (hinit : Initialised h w) : Holds h Lifecycle w :=
  (initialised_fresh hinit).mono fun _ => Lifecycle.of_fresh

theorem lifecycle_always (hinit : Initialised h w) (calls : List Invocation) :
    (machine h).Always (Holds h Lifecycle) w calls :=
  always_of_moves (fun _ => Lifecycle.ready) (fun _ _ _ => Lifecycle.move)
    (initialised_lifecycle hinit) calls

variable {w' : World} {r : Raffle} {i : Invocation}

theorem committed_path_from (hw : Holds h Lifecycle w) (hr : w.raffle = some r)
    (hok : invoke h i w = .ok w') :
    ∃ r' acts, w'.raffle = some r' ∧ i.call.Yields w r acts ∧
      Path (Move h) (view h w r) acts (view h w' r') :=
  invoke_refines hr (hw.view hr).ready hok

theorem committed_path (hw : Holds h Lifecycle w) (hok : invoke h i w = .ok w') :
    ∃ r r' acts, w.raffle = some r ∧ w'.raffle = some r' ∧ Lifecycle (view h w r) ∧
      i.call.Yields w r acts ∧ Path (Move h) (view h w r) acts (view h w' r') := by
  obtain ⟨r, hr, hl⟩ := hw
  obtain ⟨r', acts, hr', hyields, hpath⟩ := invoke_refines hr hl.ready hok
  exact ⟨r, r', acts, hr, hr', hl, hyields, hpath⟩

theorem lifecycle_step (hw : Holds h Lifecycle w) (hok : invoke h i w = .ok w') :
    Holds h Lifecycle w' :=
  hw.call (fun _ => Lifecycle.ready)
    (fun _ _ _ _ hl _ hpath => hpath.preserves_all Lifecycle (fun _ _ _ => Lifecycle.move) hl) hok

def StatusIn (set : RaffleStatus → Prop) (w : World) : Prop :=
  ∃ r, w.raffle = some r ∧ set r.status

instance (set : RaffleStatus → Prop) [DecidablePred set] (w : World) :
    Decidable (StatusIn set w) :=
  inferInstanceAs (Decidable (∃ r, r ∈ w.raffle ∧ set r.status))

theorem StatusIn.stored {set : RaffleStatus → Prop} (hset : StatusIn set w)
    (hr : w.raffle = some r) : set r.status := by
  obtain ⟨r', hr', hs⟩ := hset
  rw [hr] at hr'
  cases hr'
  exact hs

theorem StatusIn.step {set : RaffleStatus → Prop}
    (hclosed : ∀ s t, set s → allowed s t → set t) (hw : Holds h Lifecycle w)
    (hset : StatusIn set w) (hok : invoke h i w = .ok w') : StatusIn set w' := by
  obtain ⟨r, r', acts, hr, hr', -, -, hpath⟩ := committed_path hw hok
  exact ⟨r', hr', (Hops.path hpath).stays set hclosed (hset.stored hr)⟩

def returning (s : RaffleStatus) : Prop := s = .cancelled ∨ s = .failed

def paying (s : RaffleStatus) : Prop := s = .finalized ∨ s = .claimed

theorem returning_closed (s t : RaffleStatus) (hs : returning s) (hst : allowed s t) :
    returning t := by
  rcases hs with rfl | rfl <;> cases t <;> cases hst

theorem paying_closed (s t : RaffleStatus) (hs : paying s) (hst : allowed s t) : paying t := by
  rcases hs with rfl | rfl <;> cases t <;> first | exact .inr rfl | cases hst

/-- The draw has begun, or the raffle was closed before it. -/
def begun (s : RaffleStatus) : Prop := s ≠ .pendingPrize ∧ s ≠ .active

def ended (s : RaffleStatus) : Prop := begun s ∧ s ≠ .drawing

theorem begun_closed (s t : RaffleStatus) : begun s → allowed s t → begun t := by
  unfold begun allowed
  cases s <;> cases t <;> decide

theorem ended_closed (s t : RaffleStatus) : ended s → allowed s t → ended t := by
  unfold ended begun allowed
  cases s <;> cases t <;> decide

theorem ended_of_terminal {s : RaffleStatus} (hs : s.isTerminal = true) : ended s := by
  revert hs
  unfold ended begun
  cases s <;> decide

theorem not_returning_paying (hret : StatusIn returning w) (hpay : StatusIn paying w) : False := by
  obtain ⟨r, hr, hs⟩ := hret
  have hs' := hpay.stored hr
  rcases hs with hs | hs <;> rcases hs' with hs' | hs' <;> rw [hs] at hs' <;> cases hs'

variable {Inv : Books → Prop} {P : World → Invocation → World → Prop}

theorem Holds.step (hmove : ∀ a b b', Lifecycle b → Inv b → Move h a b b' → Inv b')
    (hw : Holds h (fun b => Lifecycle b ∧ Inv b) w) (hok : invoke h i w = .ok w') :
    Holds h (fun b => Lifecycle b ∧ Inv b) w' := by
  refine hw.call (fun _ hb => hb.1.ready) (fun r acts b' _ hb _ hpath => ?_) hok
  exact hpath.preserves_all (fun b => Lifecycle b ∧ Inv b)
    (fun a b b' hb hm => ⟨hb.1.move hm, hmove a b b' hb.1 hb.2 hm⟩) hb

/-- The invariant rule for books whose lifecycle is already known. -/
theorem always_of_fresh (hinit : Initialised h w) (hfresh : ∀ b, Fresh b → Inv b)
    (hmove : ∀ a b b', Lifecycle b → Inv b → Move h a b b' → Inv b')
    (calls : List Invocation) :
    (machine h).Always (Holds h fun b => Lifecycle b ∧ Inv b) w calls :=
  always_of_moves (fun _ hb => hb.1.ready)
    (fun a b b' hb hm => ⟨hb.1.move hm, hmove a b b' hb.1 hb.2 hm⟩)
    ((initialised_fresh hinit).mono fun b hb => ⟨.of_fresh hb, hfresh b hb⟩) calls

end TikkaRaffle.Escrow
