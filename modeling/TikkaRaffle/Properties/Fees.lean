import TikkaRaffle.Escrow.Postings
import TikkaRaffle.Escrow.Prices

/-! Protocol fees over whole runs: what purchases and claims charge, what is
sent to the treasury at once, and what is withdrawn from the counter later. -/
namespace TikkaRaffle.Properties

open TikkaRaffle.Lib TikkaRaffle.Instance TikkaRaffle.Escrow

variable {h : Host} {w w' : World} {r : Raffle} {b b' : Books} {a : Act}

def Purpose.isFee : Purpose → Bool
  | .ticketFee | .claimFee _ => true
  | _ => false

def Receipt.fee : Receipt → Int
  | .purchase _ _ fee => fee
  | .claim _ _ _ fee => fee
  | .sweep _ _ => 0

def sentFees (ts : List Transfer) : Int := tally (fun t => Purpose.isFee t.purpose) (·.amount) ts

def withdrawnFees (ts : List Transfer) : Int :=
  tally (fun t => t.purpose = .feeWithdrawal) (·.amount) ts

def chargedFees (receipts : List Receipt) : Int := (receipts.map Receipt.fee).sum

/-- No unit of fee has left twice. -/
def FeesPaidOnce (w : World) : Prop :=
  sentFees w.transfers + withdrawnFees w.transfers ≤ chargedFees (receiptsOf w.events)

/-- Without a treasury every fee waits in the counter; with one, every fee has
already been sent. -/
structure FeeBooks (b : Books) : Prop where
  fees_nonneg : 0 ≤ b.fees
  withdrawn_nonneg : 0 ≤ withdrawnFees b.transfers
  kept : b.raffle.treasuryAddress = none → sentFees b.transfers = 0 ∧
    b.fees + withdrawnFees b.transfers ≤ chargedFees b.receipts
  sent : b.raffle.treasuryAddress ≠ none → sentFees b.transfers = chargedFees b.receipts

namespace FeeBooks

theorem of_fresh (hf : Fresh b) : FeeBooks b where
  fees_nonneg := hf.fees.ge
  withdrawn_nonneg := by simp [hf.transfers, withdrawnFees]
  kept _ := by simp [hf.transfers, hf.receipts, hf.fees, sentFees, withdrawnFees, chargedFees]
  sent _ := by simp [hf.transfers, hf.receipts, sentFees, chargedFees]

theorem of_same (hk : FeeBooks b) (hsent : sentFees b'.transfers = sentFees b.transfers)
    (hwithdrawn : withdrawnFees b'.transfers = withdrawnFees b.transfers)
    (htreasury : b'.raffle.treasuryAddress = b.raffle.treasuryAddress)
    (hfees : b'.fees = b.fees)
    (hcharged : chargedFees b'.receipts = chargedFees b.receipts) : FeeBooks b' := by
  obtain ⟨hnonneg, hpositive, hkept, hall⟩ := hk
  refine ⟨?_, ?_, ?_, ?_⟩
  · rwa [hfees]
  · rwa [hwithdrawn]
  · rwa [htreasury, hsent, hwithdrawn, hfees, hcharged]
  · rwa [htreasury, hsent, hcharged]

theorem of_charge (hk : FeeBooks b) (ts : List Transfer) (purpose : Purpose) (self : Address)
    {fee : Int} (hfee : 0 ≤ fee)
    (htreasury : b'.raffle.treasuryAddress = b.raffle.treasuryAddress)
    (hfees : b'.fees = b.fees + max fee 0)
    (htransfers : b'.transfers = b.transfers ++ (ts ++ feeTransfers self b.raffle purpose fee))
    (hpurpose : Purpose.isFee purpose = true) (hsent : sentFees ts = 0)
    (hwithdrawn : withdrawnFees ts = 0)
    (hcharged : chargedFees b'.receipts = chargedFees b.receipts + fee) : FeeBooks b' := by
  have hs : sentFees b'.transfers = sentFees b.transfers +
      if b.raffle.treasuryAddress = none then 0 else fee := by
    have hpart := tally_feeTransfers Purpose.isFee b.raffle self purpose fee
    simp only [hpurpose, true_and, ne_eq, ite_not, max_eq_left hfee] at hpart
    rw [htransfers]
    simp only [sentFees, tally_append] at hsent ⊢
    omega
  have hw : withdrawnFees b'.transfers = withdrawnFees b.transfers := by
    have hne : purpose ≠ .feeWithdrawal := by
      rintro rfl
      cases hpurpose
    have hnone : withdrawnFees (feeTransfers self b.raffle purpose fee) = 0 := by
      apply tally_eq_zero
      intro t ht
      simpa [feeTransfers_purpose ht] using hne
    rw [htransfers]
    simp only [withdrawnFees, tally_append] at hwithdrawn hnone ⊢
    omega
  rw [max_eq_left hfee] at hfees
  refine ⟨?_, by rw [hw]; exact hk.withdrawn_nonneg, fun hnone => ?_, fun hsome => ?_⟩
  · have := hk.fees_nonneg
    omega
  · rw [htreasury] at hnone
    obtain ⟨hzero, hle⟩ := hk.kept hnone
    rw [hs, hw, hfees, hcharged, if_pos hnone]
    omega
  · rw [htreasury] at hsome
    rw [hs, hcharged, if_neg hsome, hk.sent hsome]

theorem move (hl : Lifecycle b) (hk : FeeBooks b) (hm : Move h a b b') : FeeBooks b' := by
  have hterms := SameTerms.move hm
  obtain ⟨ts, hposted⟩ := hm.posted
  cases hm with
  | buy _ order total fee time hsale =>
    exact hk.of_charge [⟨.ticketPayment, _, _, _, _⟩] .ticketFee h.self
      (hsale.priced.fee_nonneg hsale.total_nonneg) rfl rfl rfl rfl rfl rfl
      (by simp [chargedFees, Books.sell, Receipt.fee])
  | sellOut _ order total fee time request hsale =>
    exact hk.of_charge [⟨.ticketPayment, _, _, _, _⟩] .ticketFee h.self
      (hsale.priced.fee_nonneg hsale.total_nonneg) rfl rfl rfl rfl rfl rfl
      (by simp [chargedFees, Books.sell, Books.enter, Books.arm, Receipt.fee])
  | claim _ tier winner amount fee hpay hwinner hfee =>
    have hs : sentFees (payoutTransfers h.self b.raffle winner tier (amount - fee)) = 0 :=
      tally_payoutTransfers Purpose.isFee b.raffle h.self winner tier (amount - fee)
    have hw : withdrawnFees (payoutTransfers h.self b.raffle winner tier (amount - fee)) = 0 :=
      tally_payoutTransfers (fun purpose => purpose = .feeWithdrawal) b.raffle h.self winner tier
        (amount - fee)
    refine hk.of_charge _ (.claimFee tier) h.self
      (claimFee_bounds hl.terms hpay.positive hfee).1 hterms.treasuryAddress ?_ ?_ rfl hs hw ?_
    · simp [Books.file, Books.addFees, Books.post]
    · simp [Books.file, Books.addFees, Books.post]
    · simp [chargedFees, Books.file, Books.addFees, Books.post, Receipt.fee]
  | withdraw _ recipient amount hstatus hpositive hbooked =>
    have hs : sentFees (b.transfers ++ [⟨.feeWithdrawal, b.raffle.paymentToken, h.self, recipient,
        amount⟩]) = sentFees b.transfers := by simp [sentFees, Purpose.isFee]
    have hw : withdrawnFees (b.transfers ++ [⟨.feeWithdrawal, b.raffle.paymentToken, h.self,
        recipient, amount⟩]) = withdrawnFees b.transfers + amount := by simp [withdrawnFees]
    have hnonneg := hk.withdrawn_nonneg
    refine ⟨?_, ?_, fun hnone => ?_, fun hsome => hs.trans (hk.sent hsome)⟩
    · simp only [Books.addFees, Books.post]
      omega
    · simp only [Books.addFees, Books.post, hw]
      omega
    · obtain ⟨hzero, hle⟩ := hk.kept hnone
      simp only [Books.addFees, Books.post, hs, hw]
      omega
  | sweep _ tier winner treasury amount =>
    refine hk.of_same ?_ ?_ hterms.treasuryAddress ?_ ?_ <;>
      simp [sentFees, withdrawnFees, chargedFees, Books.file, Books.post, Purpose.isFee,
        Receipt.fee]
  | wipe =>
    refine ⟨le_rfl, hk.withdrawn_nonneg, fun hnone => ?_, hk.sent⟩
    obtain ⟨hzero, hle⟩ := hk.kept hnone
    have hnonneg := hk.fees_nonneg
    simp only [Books.wiped, Books.disarm]
    omega
  | _ =>
    have hs := hposted.tally_same (p := Purpose.isFee) fun purpose hp => by
      cases purpose <;> first | rfl | cases hp
    have hw := hposted.tally_same (p := fun purpose => purpose = .feeWithdrawal)
      fun purpose hp => by cases purpose <;> first | rfl | cases hp
    exact hk.of_same hs hw hterms.treasuryAddress rfl rfl

end FeeBooks

def isFeeWithdrawal : Call → Bool
  | .withdrawFees .. => true
  | _ => false

def WithdrawsSentFees (w : World) (i : Invocation) : Prop :=
  isFeeWithdrawal i.call = true ∧ ∃ r, w.raffle = some r ∧ r.treasuryAddress ≠ none

theorem withdrawnFees_path {acts : List Act} (hp : Path (Move h) b acts b')
    (hacts : ∀ a ∈ acts, ∀ amount, a ≠ .withdraw amount) :
    withdrawnFees b'.transfers = withdrawnFees b.transfers := by
  refine hp.preserves (fun b₁ => withdrawnFees b₁.transfers = withdrawnFees b.transfers)
    (fun a => ∀ amount, a ≠ .withdraw amount)
    (fun a b₁ b₂ ha hsame hm => ?_) hacts rfl
  obtain ⟨ts, hposted⟩ := hm.posted
  rw [← hsame]
  exact hposted.tally_same (p := fun purpose => purpose = .feeWithdrawal) fun purpose hpost => by
    cases purpose <;> first | rfl | skip
    cases a <;> first | exact absurd rfl (ha _) | cases hpost

theorem yields_no_withdrawal {call : Call} {acts : List Act} (hyields : call.Yields w r acts)
    (hcall : isFeeWithdrawal call = false) : ∀ a ∈ acts, ∀ amount, a ≠ .withdraw amount := by
  intro a ha amount
  cases call <;> grind [Call.Yields, isFeeWithdrawal]

theorem yields_withdrawal {call : Call} {acts : List Act} (hyields : call.Yields w r acts)
    (hcall : isFeeWithdrawal call = true) (hp : Path (Move h) b acts b') :
    ∃ amount, Move h (.withdraw amount) b b' := by
  cases call <;> try cases hcall
  case withdrawFees recipient amount =>
    cases hyields
    exact ⟨amount, hp.of_single⟩

theorem withdrawnFees_withdraw {amount : Int} (hm : Move h (.withdraw amount) b b') :
    0 < amount ∧ withdrawnFees b'.transfers = withdrawnFees b.transfers + amount := by
  cases hm with
  | withdraw _ recipient _ hstatus hpositive hbooked =>
    exact ⟨hpositive, by simp [withdrawnFees, Books.addFees, Books.post]⟩

theorem feesPaidOnce_step {i : Invocation} (hw : Holds h (fun b => Lifecycle b ∧ FeeBooks b) w)
    (honce : FeesPaidOnce w) (hok : invoke h i w = .ok w') :
    FeesPaidOnce w' ↔ ¬WithdrawsSentFees w i := by
  have hw' := hw.step (fun _ _ _ => FeeBooks.move) hok
  obtain ⟨r, r', acts, hr, hr', -, hyields, hpath⟩ := committed_path hw.left hok
  have hk : FeeBooks (view h w r) := (hw.view hr).2
  have hk' : FeeBooks (view h w' r') := (hw'.view hr').2
  have htreasury : r'.treasuryAddress = r.treasuryAddress := (SameTerms.path hpath).treasuryAddress
  by_cases hnone : r.treasuryAddress = none
  · -- without a treasury the counter bounds what can be withdrawn
    have hkept := hk'.kept (htreasury.trans hnone)
    have hnonneg := hk'.fees_nonneg
    refine iff_of_true ?_ ?_
    · simp only [FeesPaidOnce]
      simp only [view] at hkept hnonneg
      omega
    · rintro ⟨-, r₀, hr₀, hsome⟩
      rw [hr] at hr₀
      cases hr₀
      exact hsome hnone
  · -- with one, every charge has already been sent, so nothing may be withdrawn
    have hsent : sentFees w.transfers = chargedFees (receiptsOf w.events) := hk.sent hnone
    have hsent' : sentFees w'.transfers = chargedFees (receiptsOf w'.events) :=
      hk'.sent (by rw [view_raffle, htreasury]; exact hnone)
    have hnonneg : 0 ≤ withdrawnFees w.transfers := hk.withdrawn_nonneg
    simp only [FeesPaidOnce] at honce ⊢
    rcases Bool.eq_false_or_eq_true (isFeeWithdrawal i.call) with hcall | hcall
    · obtain ⟨amount, hmove⟩ := yields_withdrawal hyields hcall hpath
      obtain ⟨hpositive, hadded⟩ := withdrawnFees_withdraw hmove
      simp only [view] at hadded
      have hdraws : WithdrawsSentFees w i := ⟨hcall, r, hr, hnone⟩
      simp only [hdraws, not_true_eq_false, iff_false]
      omega
    · have hsame : withdrawnFees w'.transfers = withdrawnFees w.transfers :=
        withdrawnFees_path hpath (yields_no_withdrawal hyields hcall)
      refine iff_of_true (by omega) fun hdraws => ?_
      rw [hdraws.1] at hcall
      cases hcall

/-- Fees leave at most once along a run exactly when no committed call of it
withdraws fees from a raffle whose treasury has been paid already. -/
theorem feesPaidOnce_iff (hinit : Initialised h w) (calls : List Invocation) :
    (machine h).Always FeesPaidOnce w calls ↔
      (machine h).Each (fun w i _ => ¬WithdrawsSentFees w i) w calls := by
  have hfresh := initialised_fresh hinit
  have hstart : FeesPaidOnce w := by
    obtain ⟨r, -, hf⟩ := hfresh
    have htransfers : w.transfers = [] := hf.transfers
    have hreceipts : receiptsOf w.events = [] := hf.receipts
    simp [FeesPaidOnce, htransfers, hreceipts, sentFees, withdrawnFees, chargedFees]
  exact Machine.always_iff_each (Holds h fun b => Lifecycle b ∧ FeeBooks b)
    (fun w i w' hw hok => hw.step (fun _ _ _ => FeeBooks.move) hok)
    (fun w i w' hw honce hok => feesPaidOnce_step hw honce hok)
    (hfresh.mono fun _ hf => ⟨.of_fresh hf, .of_fresh hf⟩) hstart calls

def feeConfig : RaffleConfig := { Sample.config with protocolFeeBp := 500 }

def withdrawalRun : List Invocation :=
  [Sample.signed [Sample.creator] 1 1 .depositPrize,
    Sample.signed [Sample.buyer] 2 2 (.buyTickets Sample.buyer 1),
    Sample.signed [Sample.creator] 1000 3 .finalizeRaffle,
    Sample.signed [Sample.admin] 1001 4 (.withdrawFees Sample.treasury 500)]

theorem feesPaidOnce_iff_withdrawal :
    Initialised (Sample.host .ifElse) (Sample.start .ifElse feeConfig) ∧
    ((machine (Sample.host .ifElse)).Always FeesPaidOnce (Sample.start .ifElse feeConfig)
        withdrawalRun ↔
      (machine (Sample.host .ifElse)).Each (fun w i _ => ¬WithdrawsSentFees w i)
        (Sample.start .ifElse feeConfig) withdrawalRun) :=
  have hinit := Sample.start_initialised (by decide +kernel)
  ⟨hinit, feesPaidOnce_iff hinit withdrawalRun⟩

instance (w : World) : Decidable (FeesPaidOnce w) := inferInstanceAs (Decidable (_ ≤ _))

/-- The same 500 units reach the treasury twice. -/
theorem fees_paid_twice :
    Initialised (Sample.host .ifElse) (Sample.start .ifElse feeConfig) ∧
    ¬FeesPaidOnce ((machine (Sample.host .ifElse)).run (Sample.start .ifElse feeConfig)
      withdrawalRun) :=
  ⟨Sample.start_initialised (by decide +kernel), by decide +kernel⟩

end TikkaRaffle.Properties
