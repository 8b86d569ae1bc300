import TikkaRaffle.Escrow.Margin
import TikkaRaffle.Lib.Discharge
import TikkaRaffle.Properties.Balance

/-! Leaving a raffle that was called off. Whoever has an open ticket and the creator
with a deposited prize can take their money out in any order, and then nothing is left
and the storage can be wiped. -/
namespace TikkaRaffle.Properties

open TikkaRaffle.Lib TikkaRaffle.Instance TikkaRaffle.Escrow

variable {h : Host} {w w' : World} {r : Raffle} {c : Ctx}

/-- What a raffle that was called off still owes. -/
inductive Due where
  | ticket (ticketId : Nat)
  | prize
  deriving DecidableEq, Repr

structure Departure where
  due : Due
  ctx : Ctx
  caller : Address

def Departure.call (d : Departure) : Invocation :=
  match d.due with
  | .ticket ticketId => ⟨d.ctx, .refundTicket d.caller ticketId⟩
  | .prize => ⟨d.ctx, .refundPrize⟩

def Outstanding (w : World) : Due → Prop
  | .ticket ticketId => ticketId ∈ openTickets w
  | .prize => ∃ r, w.raffle = some r ∧ r.prizeDeposited = true

def Departure.Signed (w : World) (d : Departure) : Prop :=
  match d.due with
  | .ticket ticketId => ∀ ticket, w.ticket ticketId = some ticket → ticket.payer ∈ d.ctx.auths
  | .prize => ∀ r, w.raffle = some r → r.creator ∈ d.ctx.auths

def Due.payout (h : Host) (w : World) (r : Raffle) : Due → Option Transfer
  | .ticket ticketId => (w.ticket ticketId).map fun ticket =>
      ⟨.ticketRefund ticketId, r.paymentToken, h.self, ticket.owner, r.ticketPrice⟩
  | .prize => some ⟨.prizeRefund, r.paymentToken, h.self, r.creator, r.prizeAmount⟩

def departures (h : Host) : (machine h).Agenda Departure Due where
  due := Departure.due
  call := Departure.call
  owed := Outstanding
  may w d := d.Signed w

structure Leaving (h : Host) (w₀ : World) (r₀ : Raffle) (gone : List Departure) (w : World) :
    Prop where
  books : Holds h (PlainBooks h.self) w
  free : w.reentrancyGuard = none
  ticket : w.ticket = w₀.ticket
  factory : w.factory = w₀.factory
  raffle : ∃ deposited, w.raffle = some (r₀.setPrizeDeposited deposited)
  transfers : w.transfers = w₀.transfers ++ gone.filterMap fun d => d.due.payout h w₀ r₀

theorem plainBooks_call {i : Invocation} (hw : Holds h (PlainBooks h.self) w)
    (hok : invoke h i w = .ok w') (hplain : PlainCall h i.call) :
    Holds h (PlainBooks h.self) w' := by
  refine hw.call (fun _ hb => hb.life.ready) ?_ hok
  intro r acts b' _ hb hyields hpath
  exact hpath.preserves (PlainBooks h.self) (plainAct h.self)
    (fun a b b' hact hb hm => hb.move hact hm) (yields_plain hyields hplain) hb

theorem openTickets_finite (hb : PlainBooks h.self (view h w r)) : (openTickets w).Finite := by
  refine (Set.finite_le_nat r.ticketsSold).subset fun i hopen => ?_
  obtain ⟨ticket, hticket⟩ := Option.ne_none_iff_exists'.mp hopen.1
  exact (hb.registry.sold i ticket hticket).1.2

theorem owed_eq (hr : w.raffle = some r) (hb : PlainBooks h.self (view h w r))
    (hrefundable : Refundable r) :
    w.balance r.paymentToken h.self =
      (if r.prizeDeposited then r.prizeAmount else 0) +
        r.ticketPrice * (openTickets w).ncard := by
  obtain ⟨r', hr', hexact⟩ := exactBalance_of_books hr hb
  obtain rfl : r = r' := Option.some.inj (hr.symm.trans hr')
  rcases hrefundable with hstatus | hstatus <;> exact hexact (by simp [hstatus])

theorem openTicket_covered (hr : w.raffle = some r) (hb : PlainBooks h.self (view h w r))
    (hrefundable : Refundable r) {ticketId : Nat} (hopen : ticketId ∈ openTickets w) :
    r.ticketPrice ≤ w.balance r.paymentToken h.self := by
  have hprice : 0 < r.ticketPrice := hb.life.terms.price_pos
  have hprize : 0 < r.prizeAmount := hb.life.terms.prize_pos
  have hsome : 1 ≤ (openTickets w).ncard :=
    (Set.ncard_pos (openTickets_finite hb)).mpr ⟨ticketId, hopen⟩
  have hshare : r.ticketPrice * 1 ≤ r.ticketPrice * ((openTickets w).ncard : Int) :=
    Int.mul_le_mul_of_nonneg_left (by exact_mod_cast hsome) hprice.le
  rw [owed_eq hr hb hrefundable]
  split <;> omega

theorem prize_covered (hr : w.raffle = some r) (hb : PlainBooks h.self (view h w r))
    (hrefundable : Refundable r) (hdeposited : r.prizeDeposited = true) :
    r.prizeAmount ≤ w.balance r.paymentToken h.self := by
  have hshare : 0 ≤ r.ticketPrice * ((openTickets w).ncard : Int) :=
    Int.mul_nonneg hb.life.terms.price_pos.le (Int.natCast_nonneg _)
  rw [owed_eq hr hb hrefundable, if_pos hdeposited]
  omega

theorem refundTicket_commits (hr : w.raffle = some r) (hb : PlainBooks h.self (view h w r))
    (hrefundable : Refundable r) (hfree : w.reentrancyGuard = none) {ticketId : Nat}
    {ticket : Ticket} (hticket : w.ticket ticketId = some ticket)
    (hunmarked : w.ticketRefunded ticketId = none) (hsigned : ticket.payer ∈ c.auths)
    (caller : Address) :
    invoke h ⟨c, .refundTicket caller ticketId⟩ w =
      .ok (emit (applyTransfer (markRefunded w ticketId) (.ticketRefund ticketId) r.paymentToken
        h.self ticket.owner r.ticketPrice)
          (.ticketRefunded ticket.owner ticket.ticketNumber r.ticketPrice c.timestamp)) := by
  have hpaid : ticket.pricePaid = r.ticketPrice := (hb.registry.sold ticketId ticket hticket).2
  have hpayer : ticket.payer ≠ h.self := (hb.holders ticketId ticket hticket).2
  have hcovered := openTicket_covered hr hb hrefundable ⟨by simp [hticket], hunmarked⟩
  have hallowed : transferAllowed (markRefunded w ticketId) r.paymentToken h.self
      ticket.pricePaid := by
    rw [hpaid]
    exact ⟨hb.life.terms.price_pos.le, hcovered⟩
  have hok : refundTicket h c w caller ticketId = .ok
      (emit (applyTransfer (markRefunded w ticketId) (.ticketRefund ticketId) r.paymentToken
        h.self ticket.owner ticket.pricePaid) (.ticketRefunded ticket.owner ticket.ticketNumber
          ticket.pricePaid c.timestamp), ticket.pricePaid) := by
    simp only [refundTicket, except_bind_ok, readRaffle_ok, ensure_ok, okOr_ok, requireAuth_ok,
      tryTransfer_ok, except_pure_ok, exists_const]
    exact ⟨r, hr, hrefundable, _, acquireGuard_some hfree, ticket, hticket, ⟨hsigned, hpayer⟩,
      by rw [hunmarked]; rfl, _, ⟨hallowed, rfl⟩, rfl⟩
  rw [← hpaid]
  simp only [invoke, hok]
  rfl

theorem refundPrize_commits (hr : w.raffle = some r) (hb : PlainBooks h.self (view h w r))
    (hrefundable : Refundable r) (hfree : w.reentrancyGuard = none)
    (hdeposited : r.prizeDeposited = true) (hsigned : r.creator ∈ c.auths) :
    invoke h ⟨c, .refundPrize⟩ w =
      .ok (emit (applyTransfer (writeRaffle w (r.setPrizeDeposited false)) .prizeRefund
        r.paymentToken h.self r.creator r.prizeAmount)
          (.prizeRefunded r.creator r.prizeAmount r.paymentToken c.timestamp)) := by
  have hcreator : r.creator ≠ h.self := hb.creator_ne hdeposited
  have htoken : r.prizeToken = r.paymentToken := hb.life.terms.token
  have hcovered := prize_covered hr hb hrefundable hdeposited
  have hallowed : transferAllowed (writeRaffle w (r.setPrizeDeposited false)) r.paymentToken h.self
      r.prizeAmount := ⟨hb.life.terms.prize_pos.le, hcovered⟩
  simp only [invoke, refundPrize, except_bind_ok, readRaffle_ok, ensure_ok, requireAuth_ok,
    tryTransfer_ok, except_pure_ok, exists_const]
  refine ⟨_, acquireGuard_some hfree, r, hr, ⟨hsigned, hcreator⟩, hrefundable, hdeposited, _,
    ⟨?_, rfl⟩, ?_⟩
  · rw [htoken]
    exact hallowed
  · rw [htoken]

variable {w₀ : World} {r₀ : Raffle} {gone : List Departure}

theorem leaving_start (hw : Holds h (PlainBooks h.self) w) (hfree : w.reentrancyGuard = none)
    (hr : w.raffle = some r) : Leaving h w r [] w where
  books := hw
  free := hfree
  ticket := rfl
  factory := rfl
  raffle := ⟨r.prizeDeposited, hr⟩
  transfers := by simp

theorem ticket_settles (hrefundable : Refundable r₀) (hl : Leaving h w₀ r₀ gone w)
    {ticketId : Nat} {caller : Address} (hopen : Outstanding w (.ticket ticketId))
    (hsigned : Departure.Signed w ⟨.ticket ticketId, c, caller⟩) :
    ∃ w', invoke h ⟨c, .refundTicket caller ticketId⟩ w = .ok w' ∧
      Leaving h w₀ r₀ (gone ++ [⟨.ticket ticketId, c, caller⟩]) w' ∧
      (∀ d, Outstanding w' d ↔ Outstanding w d ∧ d ≠ .ticket ticketId) ∧
      ∀ d : Departure, d.Signed w → d.Signed w' := by
  obtain ⟨deposited, hr⟩ := hl.raffle
  have hb := hl.books.view hr
  obtain ⟨ticket, hticket⟩ := Option.ne_none_iff_exists'.mp hopen.1
  have hok := refundTicket_commits hr hb hrefundable hl.free hticket hopen.2
    (hsigned ticket hticket) caller
  refine ⟨_, hok, ⟨plainBooks_call hl.books hok trivial, hl.free, hl.ticket, hl.factory,
    ⟨deposited, hr⟩, ?_⟩, ?_, ?_⟩
  · have hpayout : Due.payout h w₀ r₀ (.ticket ticketId) =
        some ⟨.ticketRefund ticketId, r₀.paymentToken, h.self, ticket.owner, r₀.ticketPrice⟩ := by
      rw [Due.payout, ← hl.ticket, hticket]
      rfl
    simp [emit, applyTransfer, markRefunded, hl.transfers, hpayout]
  · rintro (other | _)
    · by_cases hsame : other = ticketId
      · simp [Outstanding, openTickets, emit, applyTransfer, markRefunded, hsame]
      · simp [Outstanding, openTickets, emit, applyTransfer, markRefunded, hsame]
    · simp [Outstanding, emit, applyTransfer, markRefunded]
  · rintro ⟨due, ctx, caller'⟩ hbefore
    cases due <;> exact hbefore

theorem prize_settles (hrefundable : Refundable r₀) (hl : Leaving h w₀ r₀ gone w)
    {caller : Address} (hopen : Outstanding w .prize)
    (hsigned : Departure.Signed w ⟨.prize, c, caller⟩) :
    ∃ w', invoke h ⟨c, .refundPrize⟩ w = .ok w' ∧
      Leaving h w₀ r₀ (gone ++ [⟨.prize, c, caller⟩]) w' ∧
      (∀ d, Outstanding w' d ↔ Outstanding w d ∧ d ≠ .prize) ∧
      ∀ d : Departure, d.Signed w → d.Signed w' := by
  obtain ⟨deposited, hr⟩ := hl.raffle
  have hb := hl.books.view hr
  obtain ⟨r, hr', hdeposited⟩ := hopen
  obtain rfl : r = r₀.setPrizeDeposited deposited := Option.some.inj (hr'.symm.trans hr)
  have hok := refundPrize_commits hr hb hrefundable hl.free hdeposited (hsigned _ hr)
  refine ⟨_, hok, ⟨plainBooks_call hl.books hok trivial, hl.free, hl.ticket, hl.factory,
    ⟨false, rfl⟩, ?_⟩, ?_, ?_⟩
  · simp [emit, applyTransfer, writeRaffle, hl.transfers, Due.payout]
  · rintro (other | _)
    · simp [Outstanding, openTickets, emit, applyTransfer, writeRaffle]
    · simp [Outstanding, emit, applyTransfer, writeRaffle]
  · rintro ⟨due, ctx, caller'⟩ hbefore
    cases due with
    | ticket other => exact hbefore
    | prize =>
      rintro r' hr'
      obtain rfl := Option.some.inj hr'
      have hcreator := hbefore _ hr
      exact hcreator

theorem departures_settle (hrefundable : Refundable r₀) :
    (departures h).Settles (Leaving h w₀ r₀) := by
  rintro gone w ⟨due, ctx, caller⟩ hl hopen hsigned
  cases due with
  | ticket ticketId => exact ticket_settles hrefundable hl hopen hsigned
  | prize => exact prize_settles hrefundable hl hopen hsigned

theorem settled_of_nothing (hr : w.raffle = some r) (hb : PlainBooks h.self (view h w r))
    (hrefundable : Refundable r) (hnothing : ∀ d, ¬Outstanding w d) :
    w.balance r.paymentToken h.self = 0 ∧ r.prizeDeposited = false ∧
      ((∀ i, 1 ≤ i → i ≤ r.ticketsSold → w.ticket i ≠ none) → allRefunded w r = true) := by
  have hempty : openTickets w = ∅ := Set.eq_empty_of_forall_notMem fun i => hnothing (.ticket i)
  have hgone : r.prizeDeposited = false :=
    Bool.eq_false_iff.mpr fun hdeposited => hnothing .prize ⟨r, hr, hdeposited⟩
  refine ⟨?_, hgone, fun hrecorded => ?_⟩
  · rw [owed_eq hr hb hrefundable, hempty, hgone]
    simp
  · refine List.all_eq_true.mpr fun i hi => Option.isSome_iff_ne_none.mpr fun hunmarked => ?_
    have hbounds := List.mem_range'_1.mp hi
    exact hnothing (.ticket i) ⟨hrecorded i hbounds.1 (by omega), hunmarked⟩

theorem wipe_commits (hr : w.raffle = some r) (hb : PlainBooks h.self (view h w r))
    (hrefundable : Refundable r) (hnothing : ∀ d, ¬Outstanding w d)
    (hrecorded : ∀ i, 1 ≤ i → i ≤ r.ticketsSold → w.ticket i ≠ none) {factory : Address}
    (hfactory : w.factory = some factory) (hsigned : requireAuth h c factory = .ok ()) :
    (invoke h ⟨c, .wipeStorage⟩ w).isOk = true := by
  obtain ⟨hbalance, hgone, hall⟩ := settled_of_nothing hr hb hrefundable hnothing
  have htoken : r.prizeToken = r.paymentToken := hb.life.terms.token
  have hstatus : r.status = .cancelled ∨ r.status = .claimed ∨ r.status = .failed := by
    rcases hrefundable with hs | hs
    · exact .inl hs
    · exact .inr (.inr hs)
  refine except_isOk_iff.mpr ?_
  simp only [invoke, wipeStorage, except_bind_ok, readRaffle_ok, okOr_ok, ensure_ok,
    except_pure_ok, exists_const]
  exact ⟨_, factory, hfactory, (), hsigned, r, hr, hstatus, fun _ => ⟨hgone, hall hrecorded⟩,
    ⟨hbalance, htoken ▸ hbalance⟩, rfl⟩

/-- Everyone can leave, in any order. -/
structure Leavable (h : Host) (w : World) (r : Raffle) (order : List Departure) : Prop where
  committed : (machine h).committed w (order.map Departure.call) = order.map Departure.call
  paid : ((machine h).run w (order.map Departure.call)).transfers =
    w.transfers ++ order.filterMap fun d => d.due.payout h w r
  /-- After the last departure nothing is left behind. -/
  emptied : (∀ d, Outstanding w d → d ∈ order.map Departure.due) →
    ((machine h).run w (order.map Departure.call)).balance r.paymentToken h.self = 0
  wiped : (∀ d, Outstanding w d → d ∈ order.map Departure.due) →
    (∀ i, 1 ≤ i → i ≤ r.ticketsSold → w.ticket i ≠ none) →
    ∀ c factory, w.factory = some factory → requireAuth h c factory = .ok () →
      (invoke h ⟨c, .wipeStorage⟩ ((machine h).run w (order.map Departure.call))).isOk = true

theorem leavable_of_books (hw : Holds h (PlainBooks h.self) w) (hfree : w.reentrancyGuard = none)
    (hr : w.raffle = some r) (hrefundable : Refundable r) {order : List Departure}
    (hdistinct : (order.map Departure.due).Nodup)
    (horder : ∀ d ∈ order, Outstanding w d.due ∧ d.Signed w) : Leavable h w r order := by
  obtain ⟨hcommitted, hend, hdues⟩ :=
    (departures_settle hrefundable).run (leaving_start hw hfree hr) hdistinct horder
  obtain ⟨deposited, hraffle⟩ := hend.raffle
  have hbooks := hend.books.view hraffle
  have hnothing (hall : ∀ d, Outstanding w d → d ∈ order.map Departure.due) (d : Due) :
      ¬Outstanding ((machine h).run w (order.map Departure.call)) d :=
    fun howed => ((hdues d).mp howed).2 (hall d ((hdues d).mp howed).1)
  refine ⟨hcommitted, hend.transfers, fun hall => ?_, ?_⟩
  · exact (settled_of_nothing hraffle hbooks hrefundable (hnothing hall)).1
  · intro hall hrecorded c factory hfactory hsigned
    exact wipe_commits hraffle hbooks hrefundable (hnothing hall)
      (fun i hlow hhigh => (congrFun hend.ticket i).trans_ne (hrecorded i hlow hhigh))
      (hend.factory.trans hfactory) hsigned

/-- In a plain raffle that was called off, in whatever state, everyone can leave. -/
theorem everyone_leaves (hinit : Initialised h w) (hr : w.raffle = some r) (hterms : PlainTerms r)
    (hfee : r.protocolFeeBp = 0) (hempty : w.balance r.paymentToken h.self = 0)
    {calls : List Invocation}
    (hplain : (machine h).Each (fun _ i _ => PlainCall h i.call) w calls) :
    (machine h).Always (fun w => ∀ r order, w.raffle = some r → Refundable r →
      (order.map Departure.due).Nodup → (∀ d ∈ order, Outstanding w d.due ∧ d.Signed w) →
        Leavable h w r order) w calls := by
  have hfresh : Fresh (view h w r) := (initialised_fresh hinit).view hr
  have hstart : Holds h (PlainBooks h.self) w := ⟨r, hr, .of_fresh hfresh hterms hfee hempty⟩
  have hrun : (machine h).Always
      (fun w => Holds h (PlainBooks h.self) w ∧ w.reentrancyGuard = none) w calls := by
    refine Machine.always_of_each
      (fun w => Holds h (PlainBooks h.self) w ∧ w.reentrancyGuard = none)
      (fun w i w' hw hcall hok => ?_) ⟨hstart, (guard_free hinit []).head⟩ hplain
    obtain ⟨r, hr, -⟩ := hw.1
    exact ⟨plainBooks_call hw.1 hok hcall, invoke_guard hr hw.2 hok⟩
  exact hrun.mono fun w hw r order hr hrefundable hdistinct horder =>
    leavable_of_books hw.1 hw.2 hr hrefundable hdistinct horder

def calledOffRun : List Invocation :=
  [Sample.signed [Sample.creator] 1 1 .depositPrize,
    Sample.signed [Sample.buyer] 2 2 (.buyTicketsFor Sample.buyer Sample.treasury 2),
    Sample.signed [Sample.creator] 3 3 (.cancelRaffle .creatorCancelled)]

def sampleOrder : List Departure :=
  [⟨.ticket 2, Sample.ctx 4 4 [Sample.buyer], Sample.treasury⟩,
    ⟨.prize, Sample.ctx 5 5 [Sample.creator], Sample.creator⟩,
    ⟨.ticket 1, Sample.ctx 6 6 [Sample.buyer], Sample.buyer⟩]

theorem everyone_leaves_calledOffRun :
    ∃ r, (Sample.after .ifElse Sample.config calledOffRun).raffle = some r ∧
      Leavable (Sample.host .ifElse) (Sample.after .ifElse Sample.config calledOffRun) r
        sampleOrder ∧
      ((machine (Sample.host .ifElse)).run (Sample.after .ifElse Sample.config calledOffRun)
        (sampleOrder.map Departure.call)).balance Sample.token Sample.self = 0 := by
  have hinit : Initialised (Sample.host .ifElse) (Sample.start .ifElse Sample.config) :=
    Sample.start_initialised (by decide +kernel)
  have hplain : (machine (Sample.host .ifElse)).Each
      (fun _ i _ => PlainCall (Sample.host .ifElse) i.call) (Sample.start .ifElse Sample.config)
        calledOffRun := by
    simp [calledOffRun, Machine.Each, PlainCall, Sample.signed, Sample.host, Sample.treasury,
      Sample.self]
  obtain ⟨r, hr⟩ : ∃ r, (Sample.start .ifElse Sample.config).raffle = some r :=
    Option.isSome_iff_exists.mp (by decide +kernel)
  have hterms : (Sample.start .ifElse Sample.config).raffle.map (fun r =>
      (r.earlyBirdDiscountBp, r.bundles, r.protocolFeeBp, r.paymentToken)) =
        some (0, [], 0, Sample.token) := by
    decide +kernel
  simp only [hr, Option.map_some, Option.some.injEq, Prod.mk.injEq] at hterms
  obtain ⟨hbird, hbundles, hfee, htoken⟩ := hterms
  have hempty : (Sample.start .ifElse Sample.config).balance r.paymentToken Sample.self = 0 := by
    rw [htoken]
    decide +kernel
  obtain ⟨r₁, hr₁⟩ : ∃ r, (Sample.after .ifElse Sample.config calledOffRun).raffle = some r :=
    Option.isSome_iff_exists.mp (by decide +kernel)
  have hstanding : (Sample.after .ifElse Sample.config calledOffRun).raffle.map (fun r =>
      (r.status, r.prizeDeposited, r.creator)) = some (.cancelled, true, Sample.creator) := by
    decide +kernel
  simp only [hr₁, Option.map_some, Option.some.injEq, Prod.mk.injEq] at hstanding
  obtain ⟨hstatus, hdeposited, hcreator⟩ := hstanding
  have hticket (i : Nat) (hi : i = 1 ∨ i = 2) :
      i ∈ openTickets (Sample.after .ifElse Sample.config calledOffRun) ∧
        ∀ ticket, (Sample.after .ifElse Sample.config calledOffRun).ticket i = some ticket →
          ticket.payer = Sample.buyer := by
    have hpayer : ((Sample.after .ifElse Sample.config calledOffRun).ticket i).map (·.payer) =
        some Sample.buyer := by
      rcases hi with rfl | rfl <;> decide +kernel
    refine ⟨⟨fun hnone => by simp [hnone] at hpayer, ?_⟩, fun ticket hticket => ?_⟩
    · rcases hi with rfl | rfl <;> decide +kernel
    · simpa [hticket] using hpayer
  have hall := (everyone_leaves hinit hr ⟨.inr hbird, hbundles⟩ hfee hempty hplain).last
  refine ⟨r₁, hr₁, hall r₁ sampleOrder hr₁ (.inl hstatus) (by decide) ?_, by decide +kernel⟩
  intro d hd
  simp only [sampleOrder, List.mem_cons, List.not_mem_nil, or_false] at hd
  rcases hd with rfl | rfl | rfl
  · exact ⟨(hticket 2 (.inr rfl)).1, fun ticket hsome => by
      rw [(hticket 2 (.inr rfl)).2 ticket hsome]; decide⟩
  · refine ⟨⟨r₁, hr₁, hdeposited⟩, fun r hr => ?_⟩
    obtain rfl : r₁ = r := Option.some.inj (hr₁.symm.trans hr)
    rw [hcreator]
    decide
  · exact ⟨(hticket 1 (.inl rfl)).1, fun ticket hsome => by
      rw [(hticket 1 (.inl rfl)).2 ticket hsome]; decide⟩

end TikkaRaffle.Properties
