import TikkaRaffle.Escrow.Margin
import TikkaRaffle.Escrow.Purchase
import TikkaRaffle.Escrow.Terms

/-! When tickets are for sale. A purchase checks three switches, and each of them is
set and released by calls of its own. -/
namespace TikkaRaffle.Escrow

open TikkaRaffle.Lib TikkaRaffle.Instance

variable {h : Host} {c : Ctx} {w w' : World} {r r' : Raffle}

theorem invoke_paused {i : Invocation} (hpause : i.call ≠ .pause) (hunpause : i.call ≠ .unpause)
    (hwipe : i.call ≠ .wipeStorage) (hr : w.raffle = some r) (hok : invoke h i w = .ok w') :
    w'.paused = w.paused := by
  by_cases hcommit : ∃ ticketId hash, i.call = .submitCommit ticketId hash
  · obtain ⟨ticketId, hash, hcall⟩ := hcommit
    simp only [invoke, hcall, submitCommit, except_bind_ok, ensure_ok, except_pure_ok,
      exists_const] at hok
    obtain ⟨_, -, -, -, _, -, _, -, ticket, -, _, -, -, rfl⟩ := hok
    rfl
  · have hrecess := invoke_recess (fun ticketId hash hcall => hcommit ⟨ticketId, hash, hcall⟩)
      hwipe hr hok
    have hafter : w'.paused = Call.pauses w i.call := congrArg (fun keys => keys.2.2) hrecess
    rw [hafter]
    cases hcall : i.call with
    | pause => exact absurd hcall hpause
    | unpause => exact absurd hcall hunpause
    | _ => rfl

variable {a : Act} {b b' : Books} {i : Invocation}

theorem Move.ticketSalesPaused_kept (hm : Move h a b b') (ha : a ≠ .retune) :
    b'.raffle.ticketSalesPaused = b.raffle.ticketSalesPaused := by
  cases hm with
  | retune => exact absurd rfl ha
  | claim | sweep =>
    rw [Books.markTier_raffle]
    rfl
  | _ => rfl

/-- Only `resume_ticket_sales` takes the pause of ticket sales back. -/
theorem ticketSalesPaused_step (hw : Holds h Lifecycle w) (hr : w.raffle = some r)
    (hset : r.ticketSalesPaused = true) (hcall : ∀ caller, i.call ≠ .resumeTicketSales caller)
    (hok : invoke h i w = .ok w') :
    ∃ r', w'.raffle = some r' ∧ r'.ticketSalesPaused = true := by
  obtain ⟨c, call⟩ := i
  cases call with
  | resumeTicketSales caller => exact absurd rfl (hcall caller)
  | pauseTicketSales caller =>
    simp only [invoke, pauseTicketSales, setTicketSalesPaused, except_bind_ok,
      except_pure_ok] at hok
    obtain ⟨_, -, r₁, -, _, -, _, -, _, -, rfl⟩ := hok
    exact ⟨_, rfl, rfl⟩
  | updateOracleAddress oracle =>
    simp only [invoke, updateOracleAddress, except_bind_ok, readRaffle_ok, hr, Option.some.injEq,
      exists_eq_left', except_pure_ok] at hok
    obtain ⟨_, -, _, -, _, -, _, -, rfl⟩ := hok
    exact ⟨_, rfl, hset⟩
  | setSwapDeadline deadline =>
    simp only [invoke, setSwapDeadline, except_bind_ok, readRaffle_ok, hr, Option.some.injEq,
      exists_eq_left', except_pure_ok] at hok
    obtain ⟨_, -, _, -, _, -, rfl⟩ := hok
    exact ⟨_, rfl, hset⟩
  | _ =>
    obtain ⟨r', acts, hr', hyields, hpath⟩ := committed_path_from hw hr hok
    refine ⟨r', hr', ?_⟩
    exact hpath.preserves (fun b => b.raffle.ticketSalesPaused = true) (· ≠ .retune)
      (fun a b b' ha hb hm => (Move.ticketSalesPaused_kept hm ha).trans hb)
      (yields_no_retune hyields rfl) hset

structure Selling (c : Ctx) (w : World) (r : Raffle) : Prop where
  active : r.status = .active
  unpaused : w.paused.getD false = false
  salesOpen : r.ticketSalesPaused = false
  systemOpen : c.factory.isGlobalPaused = some false
  funded : r.prizeDeposited = true
  inTime : ¬(r.noDeadline = false ∧ r.endTime ≤ c.timestamp)

theorem buyTickets_selling {buyer : Address} {quantity n : Nat} (hr : w.raffle = some r)
    (hok : buyTickets h c w buyer quantity = .ok (w', n)) : Selling c w r := by
  simp only [buyTickets, validatePurchasePreconditions, requireNotPaused,
    requireGlobalNotPaused, except_bind_ok, readRaffle_ok, hr, Option.some.injEq,
    exists_eq_left', ensure_ok, orTrap_ok, exists_const] at hok
  obtain ⟨_, -, ⟨_, -, -, -, -, hunpaused, ⟨_, -, paused, hpaused, rfl⟩, hactive, hselling,
    hfunded, htime⟩, -⟩ := hok
  exact ⟨hactive, hunpaused, hselling, hpaused, hfunded, htime⟩

theorem buyTicketsFor_selling {buyer recipient : Address} {quantity n : Nat}
    (hr : w.raffle = some r)
    (hok : buyTicketsFor h c w buyer recipient quantity = .ok (w', n)) : Selling c w r := by
  simp only [buyTicketsFor, requireNotPaused, requireGlobalNotPaused, except_bind_ok,
    readRaffle_ok, hr, Option.some.injEq, exists_eq_left', ensure_ok, orTrap_ok,
    exists_const] at hok
  obtain ⟨_, -, -, -, -, _, -, hunpaused, ⟨_, -, paused, hpaused, rfl⟩, hactive, hselling,
    hfunded, htime, -⟩ := hok
  exact ⟨hactive, hunpaused, hselling, hpaused, hfunded, htime⟩

inductive Switch where
  | contract
  | ticketSales
deriving DecidableEq

def Switch.isOn (w : World) : Switch → Bool
  | .contract => w.paused.getD false
  | .ticketSales => w.raffle.any (·.ticketSalesPaused)

def Switch.releasedBy (switch : Switch) (call : Call) : Bool :=
  match switch, call with
  | .contract, .unpause => true
  | .ticketSales, .resumeTicketSales _ => true
  | _, _ => false

theorem Selling.off {switch : Switch} (hs : Selling c w r) (hr : w.raffle = some r) :
    switch.isOn w = false := by
  cases switch with
  | contract => exact hs.unpaused
  | ticketSales =>
    rw [Switch.isOn, hr]
    exact hs.salesOpen

theorem pause_contract (hok : pause h c w = .ok w') : w'.paused = some true := by
  simp only [pause, except_bind_ok, except_pure_ok] at hok
  obtain ⟨_, -, _, -, rfl⟩ := hok
  rfl

theorem isOn_step {switch : Switch} (hw : Holds h Lifecycle w) (hon : switch.isOn w = true)
    (hcall : switch.releasedBy i.call = false) (hwipe : i.call ≠ .wipeStorage)
    (hok : invoke h i w = .ok w') : switch.isOn w' = true := by
  obtain ⟨r, hr, -⟩ := id hw
  cases switch with
  | contract =>
    by_cases hpause : i.call = .pause
    · rw [invoke, hpause] at hok
      rw [Switch.isOn, pause_contract hok]
      rfl
    · have hunpause : i.call ≠ .unpause := by
        intro heq
        rw [heq] at hcall
        cases hcall
      rw [Switch.isOn, invoke_paused hpause hunpause hwipe hr hok]
      exact hon
  | ticketSales =>
    rw [Switch.isOn, hr] at hon
    have hresume (caller : Address) : i.call ≠ .resumeTicketSales caller := by
      intro heq
      rw [heq] at hcall
      cases hcall
    obtain ⟨r', hr', hset⟩ := ticketSalesPaused_step hw hr hon hresume hok
    rw [Switch.isOn, hr']
    exact hset

end TikkaRaffle.Escrow
