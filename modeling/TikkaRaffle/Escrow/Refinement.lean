import TikkaRaffle.Escrow.Drawing
import TikkaRaffle.Escrow.Exits
import TikkaRaffle.Escrow.Settlement

/-! The machine refines the books: every committed call is a path of moves.
Invariants proved move by move therefore hold along every run. -/
namespace TikkaRaffle.Escrow

open TikkaRaffle.Lib TikkaRaffle.Instance

/-- What the refinement needs to know about the stored raffle. -/
structure Ready (r : Raffle) : Prop where
  token : r.prizeToken = r.paymentToken
  openTier : r.status = .finalized → r.winners.all Winner.claimed = false

variable {h : Host} {w w' : World} {r : Raffle}

theorem invoke_refines {i : Invocation} (hr : w.raffle = some r) (hready : Ready r)
    (hok : invoke h i w = .ok w') : Refines h i.call w r w' := by
  obtain ⟨c, call⟩ := i
  cases call with
  | depositPrize => exact depositPrize_refines hr hok
  | buyTickets buyer quantity =>
    obtain ⟨⟨_, n⟩, hcall, rfl⟩ := except_map_ok.mp hok
    exact buyTickets_refines hr hcall
  | buyTicketsFor buyer recipient quantity =>
    obtain ⟨⟨_, n⟩, hcall, rfl⟩ := except_map_ok.mp hok
    exact buyTicketsFor_refines hr hcall
  | submitCommit ticketId hash => exact submitCommit_refines hr hok
  | finalizeRaffle => exact finalizeRaffle_refines hr hok
  | provideRandomness randomSeed publicKey proof requestId =>
    exact provideRandomness_refines hr hok
  | provideQuorumRandomness oracle randomSeed requestId =>
    exact provideQuorumRandomness_refines hr hok
  | triggerRandomnessFallback caller doRefund => exact triggerRandomnessFallback_refines hr hok
  | claimPrize winner tierIndex =>
    obtain ⟨⟨_, paid⟩, hcall, rfl⟩ := except_map_ok.mp hok
    exact claimPrize_refines hr hready.token hcall
  | sweepUnclaimed startIndex limit =>
    obtain ⟨⟨_, n⟩, hcall, rfl⟩ := except_map_ok.mp hok
    exact sweepUnclaimed_refines hr hready.token hready.openTier hcall
  | withdrawFees recipient amount => exact withdrawFees_refines hr hok
  | cancelRaffle reason => exact cancelRaffle_refines hr hok
  | executeAdminCancel => exact executeAdminCancel_refines hr hok
  | refundPrize => exact refundPrize_refines hr hready.token hok
  | emergencyWithdraw caller => exact emergencyWithdraw_refines hr hready.token hok
  | refundTicket caller ticketId =>
    obtain ⟨⟨_, paid⟩, hcall, rfl⟩ := except_map_ok.mp hok
    exact refundTicket_refines hr hcall
  | batchRefundTickets caller ticketIds =>
    obtain ⟨⟨_, paid⟩, hcall, rfl⟩ := except_map_ok.mp hok
    exact batchRefundTickets_refines hr hcall
  | batchRefundTicketsOwned owner ticketIds =>
    obtain ⟨⟨_, paid⟩, hcall, rfl⟩ := except_map_ok.mp hok
    exact batchRefundTicketsOwned_refines hr hcall
  | wipeStorage => exact wipeStorage_refines hr hok
  | pause => exact pause_refines hr hok
  | unpause => exact unpause_refines hr hok
  | pauseTicketSales caller => exact setTicketSalesPaused_refines hr rfl rfl hok
  | resumeTicketSales caller => exact setTicketSalesPaused_refines hr rfl rfl hok
  | rescueTokens token recipient amount => exact rescueTokens_refines hr hok
  | sweepDust => exact sweepDust_refines hr hok
  | updateOracleAddress newOracle => exact updateOracleAddress_refines hr hok
  | setProtocolFeeBp newFeeBp => exact setProtocolFeeBp_refines hr hok
  | setSwapDeadline newDeadlineSeconds => exact setSwapDeadline_refines hr hok
  | updateMetadataHash newHash => exact updateMetadataHash_refines hr hok
  | extendTtl startTicketId limit =>
    obtain ⟨⟨_, n⟩, hcall, rfl⟩ := except_map_ok.mp hok
    exact extendTtl_refines hr hcall
  | tokenTransfer token source target amount => exact tokenTransfer_refines hr hok

/-- The books of the world satisfy `Inv`. -/
def Holds (h : Host) (Inv : Books → Prop) (w : World) : Prop :=
  ∃ r, w.raffle = some r ∧ Inv (view h w r)

theorem Holds.view {Inv : Books → Prop} (hw : Holds h Inv w) (hr : w.raffle = some r) :
    Inv (view h w r) := by
  obtain ⟨r', hr', hinv⟩ := hw
  rw [hr] at hr'
  cases hr'
  exact hinv

theorem Holds.mono {Inv Inv' : Books → Prop} (himp : ∀ b, Inv b → Inv' b) (hw : Holds h Inv w) :
    Holds h Inv' w := by
  obtain ⟨r, hr, hinv⟩ := hw
  exact ⟨r, hr, himp _ hinv⟩

theorem Holds.left {Inv Inv' : Books → Prop} (hw : Holds h (fun b => Inv b ∧ Inv' b) w) :
    Holds h Inv w :=
  hw.mono fun _ hb => hb.1

theorem forall_stored {P : Raffle → Prop} (hr : w.raffle = some r) (hP : P r) :
    ∀ r', w.raffle = some r' → P r' := by
  intro r' hr'
  rw [hr] at hr'
  cases hr'
  exact hP

variable {Inv : Books → Prop} {P : World → Invocation → World → Prop}

theorem Holds.call {i : Invocation} (hready : ∀ b, Inv b → Ready b.raffle)
    (hpath : ∀ r acts b', w.raffle = some r → Inv (Escrow.view h w r) → i.call.Yields w r acts →
      Path (Move h) (Escrow.view h w r) acts b' → Inv b')
    (hw : Holds h Inv w) (hok : invoke h i w = .ok w') : Holds h Inv w' := by
  obtain ⟨r, hr, hinv⟩ := hw
  obtain ⟨r', acts, hr', hyields, hmoves⟩ := invoke_refines hr (hready _ hinv) hok
  exact ⟨r', hr', hpath r acts _ hr hinv hyields hmoves⟩

theorem always_of_moves (hready : ∀ b, Inv b → Ready b.raffle)
    (hmove : ∀ a b b', Inv b → Move h a b b' → Inv b') (hw : Holds h Inv w)
    (calls : List Invocation) : (machine h).Always (Holds h Inv) w calls := by
  refine Machine.always_of_step (Holds h Inv) (fun w i w' hw hok => ?_) hw calls
  exact hw.call hready (fun r acts b' _ hinv _ hmoves => hmoves.preserves_all Inv hmove hinv) hok

theorem always_of_calls (hready : ∀ b, Inv b → Ready b.raffle)
    (hpath : ∀ w i w' r acts b', P w i w' → w.raffle = some r → Inv (Escrow.view h w r) →
      i.call.Yields w r acts → Path (Move h) (Escrow.view h w r) acts b' → Inv b')
    (hw : Holds h Inv w) {calls : List Invocation} (heach : (machine h).Each P w calls) :
    (machine h).Always (Holds h Inv) w calls := by
  refine Machine.always_of_each (Holds h Inv) (fun w i w' hw hP hok => ?_) hw heach
  exact hw.call hready (fun r acts b' => hpath w i w' r acts b' hP) hok

end TikkaRaffle.Escrow
