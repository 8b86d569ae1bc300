import TikkaRaffle.Escrow.Registry

/-! Ticket refunds over whole runs: no ticket is paid back twice, the total is
the list price of the marked tickets, and a batch is all or nothing. -/
namespace TikkaRaffle.Properties

open TikkaRaffle.Lib TikkaRaffle.Instance TikkaRaffle.Escrow

variable {h : Host} {w w' : World} {r : Raffle} {b b' : Books} {a : Act}

def refundsPaid (ts : List Transfer) : Int := tally (fun t => (refundOf t).isSome) (·.amount) ts

def refundCount (ts : List Transfer) (ticketId : Nat) : Nat :=
  ts.countP fun t => t.purpose = .ticketRefund ticketId

def Marked (ticketId : Nat) (w : World) : Prop := w.ticketRefunded ticketId ≠ none

theorem refundCount_eq (ts : List Transfer) (ticketId : Nat) :
    refundCount ts ticketId = (refundedIds ts).count ticketId := by
  rw [refundCount, refundedIds, List.count_filterMap]
  apply List.countP_congr
  intro t _
  simp [refundOf_eq_some]

theorem refundsPaid_eq (hk : Registry b) :
    refundsPaid b.transfers = b.raffle.ticketPrice * (refundedIds b.transfers).length := by
  rw [refundedIds, List.length_filterMap_eq_countP]
  apply tally_const
  intro t ht hsome
  obtain ⟨ticketId, hrefund⟩ := Option.isSome_iff_exists.mp hsome
  exact hk.list_price t ht ticketId hrefund

theorem payment_marks {ticketId : Nat} (hm : Move h a b b') (hact : a ≠ .wipe)
    (hb : ticketId ∈ refundedIds b.transfers → b.refunded ticketId ≠ none) :
    ticketId ∈ refundedIds b'.transfers → b'.refunded ticketId ≠ none := by
  obtain ⟨ts, hp⟩ := hm.posted
  cases hm with
  | refund _ paidId ticket recipient amount =>
    intro hpaid
    rw [Books.post, refundedIds_append] at hpaid
    by_cases hsame : ticketId = paidId
    · simp [Books.markRefund, Books.post, hsame]
    · rcases List.mem_append.mp hpaid with hold | hlast
      · simpa [Books.markRefund, Books.post, hsame] using hb hold
      · exact absurd (List.mem_singleton.mp hlast) hsame
  | wipe => exact absurd rfl hact
  | claim _ tier | sweep _ tier =>
    rw [hp.refundedIds_same fun _ => rfl, Books.markTier_refunded]
    exact hb
  | _ =>
    rw [hp.refundedIds_same fun _ => rfl]
    exact hb

theorem yields_wipe {call : Call} {acts : List Act} (hyields : call.Yields w r acts) :
    acts = [.wipe] ∨ ∀ a ∈ acts, a ≠ .wipe := by
  cases call <;> grind [Call.Yields]

theorem marked_of_paid {i : Invocation} {ticketId : Nat} (hw : Holds h Lifecycle w)
    (hbefore : ticketId ∉ refundedIds w.transfers) (hafter : ticketId ∈ refundedIds w'.transfers)
    (hok : invoke h i w = .ok w') : Marked ticketId w' := by
  obtain ⟨r, r', acts, hr, hr', -, hyields, hpath⟩ := committed_path hw hok
  rcases yields_wipe hyields with rfl | hacts
  · have hsame : refundedIds w'.transfers = refundedIds w.transfers := by
      obtain ⟨ts, hp⟩ := hpath.of_single.posted
      exact hp.refundedIds_same fun _ => rfl
    rw [hsame] at hafter
    exact absurd hafter hbefore
  · have hstart : ticketId ∈ refundedIds (view h w r).transfers →
        (view h w r).refunded ticketId ≠ none := fun hpaid => absurd hpaid hbefore
    have hend := hpath.preserves
      (fun b : Books => ticketId ∈ refundedIds b.transfers → b.refunded ticketId ≠ none)
      (fun a => a ≠ .wipe) (fun a b b' ha hb hm => payment_marks hm ha hb) hacts hstart
    exact hend hafter

theorem registry_step {i : Invocation} (hw : Holds h (fun b => Lifecycle b ∧ Registry b) w)
    (hok : invoke h i w = .ok w') : Holds h (fun b => Lifecycle b ∧ Registry b) w' :=
  hw.step (fun _ _ _ _ => Registry.move) hok

theorem ever_marked_iff (hinit : Initialised h w) {calls : List Invocation} {ticketId : Nat} :
    (machine h).Ever (Marked ticketId) w calls ↔
      ticketId ∈ refundedIds ((machine h).run w calls).transfers := by
  have hfresh := initialised_fresh hinit
  have hstart : Holds h (fun b => Lifecycle b ∧ Registry b) w :=
    hfresh.mono fun _ hf => ⟨.of_fresh hf, .of_fresh hf⟩
  constructor
  · intro hever
    refine hever.persists (Holds h fun b => Lifecycle b ∧ Registry b)
      (P := fun w => ticketId ∈ refundedIds w.transfers) (fun w i w' hw hok => registry_step hw hok)
      (fun w i w' hw hpaid hok => ?_) (fun w hw hmark => ?_) hstart
    · obtain ⟨r, r', acts, -, -, -, -, hpath⟩ := committed_path hw.left hok
      obtain ⟨ts, hlog⟩ := path_log_grows hpath
      have hgrown : w'.transfers = w.transfers ++ ts := hlog.symm
      rw [hgrown, refundedIds_append]
      exact List.mem_append_left _ hpaid
    · obtain ⟨r, -, hb⟩ := hw
      exact hb.2.mark_paid ticketId hmark
  · intro hpaid
    refine Machine.ever_of_gained (Holds h fun b => Lifecycle b ∧ Registry b)
      (P := fun w => ticketId ∈ refundedIds w.transfers) (fun w i w' hw hok => registry_step hw hok)
      (fun w i w' hw hbefore hafter hok => ?_) hstart ?_ hpaid
    · exact marked_of_paid hw.left hbefore hafter hok
    · obtain ⟨r, -, hf⟩ := hfresh
      have htransfers : w.transfers = [] := hf.transfers
      simp [htransfers, refundedIds]

def batchIds : Call → Option (List Nat)
  | .batchRefundTickets _ ticketIds | .batchRefundTicketsOwned _ ticketIds => some ticketIds
  | _ => none

def mayList : Call → Ticket → Prop
  | .batchRefundTickets caller _, ticket => caller = ticket.payer ∨ caller = ticket.owner
  | .batchRefundTicketsOwned owner _, ticket => ticket.owner = owner
  | _, _ => False

/-- A batch either changes nothing or deals with every listed ticket. -/
def AllOrNothing (h : Host) (w : World) : Prop :=
  ∀ i ids, batchIds i.call = some ids →
    (machine h).exec w i = w ∨
      (∃ w', invoke h i w = .ok w') ∧ ∀ ticketId ∈ ids,
        ∃ ticket, w.ticket ticketId = some ticket ∧ mayList i.call ticket ∧
          Marked ticketId ((machine h).exec w i)

theorem refundBatch_lists {mayRefund : Ticket → Bool} {recipient : Ticket → Address}
    {published : Ticket → Event} {ids : List Nat} {total paid : Int}
    (hok : refundBatch h r mayRefund recipient published w ids total = .ok (w', paid)) :
    (∀ ticketId, Marked ticketId w → Marked ticketId w') ∧ ∀ ticketId ∈ ids,
      ∃ ticket, w.ticket ticketId = some ticket ∧ mayRefund ticket = true ∧
        Marked ticketId w' := by
  induction ids generalizing w total with
  | nil =>
    cases hok
    exact ⟨fun _ hmark => hmark, by simp⟩
  | cons first rest ih =>
    simp only [refundBatch, except_bind_ok, okOr_ok, ensure_ok, exists_const] at hok
    obtain ⟨ticket, hticket, hmay, hok⟩ := hok
    split at hok
    next hmarked =>
      obtain ⟨hkeep, hrest⟩ := ih hok
      refine ⟨hkeep, fun ticketId hid => ?_⟩
      rcases List.mem_cons.mp hid with rfl | hid
      · exact ⟨ticket, hticket, hmay, hkeep _ (Option.isSome_iff_ne_none.mp hmarked)⟩
      · exact hrest ticketId hid
    next hunmarked =>
      simp only [except_bind_ok, tryTransfer_ok, checkedI128_ok] at hok
      obtain ⟨_, ⟨-, rfl⟩, _, ⟨-, rfl⟩, hok⟩ := hok
      obtain ⟨hkeep, hrest⟩ := ih hok
      have hfirst : Marked first w' :=
        hkeep first (by simp [Marked, emit, applyTransfer, markRefunded])
      refine ⟨fun ticketId hmark => ?_, fun ticketId hid => ?_⟩
      · apply hkeep
        by_cases hsame : ticketId = first
        · simp [Marked, emit, applyTransfer, markRefunded, hsame]
        · simpa [Marked, emit, applyTransfer, markRefunded, hsame] using hmark
      · rcases List.mem_cons.mp hid with rfl | hid
        · exact ⟨ticket, hticket, hmay, hfirst⟩
        · exact hrest ticketId hid

theorem allOrNothing (w : World) : AllOrNothing h w := by
  intro i ids hids
  obtain ⟨c, call⟩ := i
  rcases (machine h).exec_cases w ⟨c, call⟩ with hok | ⟨-, hsame⟩
  · refine .inr ⟨⟨_, hok⟩, ?_⟩
    generalize (machine h).exec w ⟨c, call⟩ = after at hok ⊢
    cases call with
    | batchRefundTickets caller listed =>
      cases hids
      obtain ⟨⟨_, paid⟩, hcall, rfl⟩ := except_map_ok.mp hok
      simp only [batchRefundTickets, except_bind_ok] at hcall
      obtain ⟨r, -, -, -, -, -, -, -, hcall⟩ := hcall
      intro ticketId hid
      obtain ⟨ticket, hticket, hmay, hmark⟩ := (refundBatch_lists hcall).2 ticketId hid
      exact ⟨ticket, hticket, by simpa [mayList] using hmay, hmark⟩
    | batchRefundTicketsOwned owner listed =>
      cases hids
      obtain ⟨⟨_, paid⟩, hcall, rfl⟩ := except_map_ok.mp hok
      simp only [batchRefundTicketsOwned, except_bind_ok] at hcall
      obtain ⟨-, -, r, -, -, -, -, -, hcall⟩ := hcall
      intro ticketId hid
      obtain ⟨ticket, hticket, hmay, hmark⟩ := (refundBatch_lists hcall).2 ticketId hid
      exact ⟨ticket, hticket, by simpa [mayList] using hmay, hmark⟩
    | _ => cases hids
  · exact .inl hsame

/-- Over any run a ticket is paid back at most once and only if it was sold,
the total is the list price of the tickets ever marked, and every batch is all
or nothing. -/
theorem refunds_once (hinit : Initialised h w) (calls : List Invocation) :
    ∃ r, ((machine h).run w calls).raffle = some r ∧
      (∀ ticketId, refundCount ((machine h).run w calls).transfers ticketId ≤ 1) ∧
      (∀ ticketId, 0 < refundCount ((machine h).run w calls).transfers ticketId →
        1 ≤ ticketId ∧ ticketId ≤ r.ticketsSold) ∧
      refundsPaid ((machine h).run w calls).transfers =
        r.ticketPrice * {ticketId | (machine h).Ever (Marked ticketId) w calls}.ncard ∧
      (machine h).Always (AllOrNothing h) w calls := by
  have hrun :=
    always_of_fresh hinit (fun _ => Registry.of_fresh) (fun _ _ _ _ => Registry.move) calls
  obtain ⟨r, hr, -, hk⟩ := hrun.last
  have honce : (refundedIds ((machine h).run w calls).transfers).Nodup := hk.paid_once
  have hever : {ticketId | (machine h).Ever (Marked ticketId) w calls} =
      ((refundedIds ((machine h).run w calls).transfers).toFinset : Set Nat) := by
    ext ticketId
    rw [Set.mem_ofPred_eq, ever_marked_iff hinit, Finset.mem_coe, List.mem_toFinset]
  refine ⟨r, hr, fun ticketId => ?_, fun ticketId hpaid => ?_, ?_, ?_⟩
  · rw [refundCount_eq]
    exact List.nodup_iff_count_le_one.mp honce ticketId
  · rw [refundCount_eq] at hpaid
    exact hk.paid_sold ticketId (List.count_pos_iff.mp hpaid)
  · rw [hever, Set.ncard_coe_finset, List.toFinset_card_of_nodup honce]
    exact refundsPaid_eq hk
  · exact hrun.mono fun w _ => allOrNothing w

def refundRun : List Invocation :=
  [Sample.signed [Sample.creator] 1 1 .depositPrize,
    Sample.signed [Sample.buyer] 2 2 (.buyTickets Sample.buyer 2),
    Sample.signed [Sample.creator] 3 3 (.cancelRaffle .creatorCancelled),
    Sample.signed [Sample.buyer] 4 4 (.batchRefundTickets Sample.buyer [1, 1, 2]),
    Sample.signed [Sample.buyer] 5 5 (.batchRefundTicketsOwned Sample.buyer [2, 1]),
    Sample.signed [Sample.buyer] 6 6 (.refundTicket Sample.buyer 1)]

/-- Six requests for two tickets pay each of them once. -/
theorem refunds_once_refundRun :
    Initialised (Sample.host .ifElse) (Sample.start .ifElse Sample.config) ∧
    refundsPaid (Sample.after .ifElse Sample.config refundRun).transfers = 20000 ∧
    ∀ ticketId,
      refundCount (Sample.after .ifElse Sample.config refundRun).transfers ticketId ≤ 1 := by
  have hinit : Initialised (Sample.host .ifElse) (Sample.start .ifElse Sample.config) :=
    Sample.start_initialised (by decide +kernel)
  obtain ⟨r, -, honce, -⟩ := refunds_once hinit refundRun
  exact ⟨hinit, by decide +kernel, honce⟩

end TikkaRaffle.Properties
