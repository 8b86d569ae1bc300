import TikkaRaffle.Escrow.Lifecycle

/-! The transfers each move posts, by purpose, and what they do to the balance.
Totals over one purpose only change in the moves that post it. -/
namespace TikkaRaffle.Escrow

open TikkaRaffle.Lib TikkaRaffle.Instance

/-- The purposes a move may post under. -/
def Act.posts : Act → Purpose → Bool
  | .deposit, .prizeDeposit => true
  | .buy _, .ticketPayment => true
  | .buy _, .ticketFee => true
  | .emergency, .emergencyWithdrawal => true
  | .claim tier, .prizePayout t => t = tier
  | .claim tier, .claimFee t => t = tier
  | .sweep tier, .prizeSweep t => t = tier
  | .returnPrize, .prizeRefund => true
  | .refund id, .ticketRefund i => i = id
  | .withdraw _, .feeWithdrawal => true
  | .release _, .rescue => true
  | .release _, .dust => true
  | .outside _, .outside => true
  | _, _ => false

/-- A move appends its transfers to the log and they account for the change of
the balance. -/
structure Posted (escrow : Address) (a : Act) (b b' : Books) (ts : List Transfer) : Prop where
  logged : b'.transfers = b.transfers ++ ts
  balanced : b'.held = b.held + netInflow escrow b.raffle.paymentToken ts
  purposes : ∀ t ∈ ts, a.posts t.purpose = true

variable {h : Host} {a : Act} {b b' : Books} {self : Address} {ts : List Transfer}

theorem Posted.nothing (htransfers : b'.transfers = b.transfers) (hheld : b'.held = b.held) :
    Posted self a b b' [] where
  logged := by rw [htransfers, List.append_nil]
  balanced := by simp [hheld, netInflow]
  purposes := nofun

theorem Posted.one {t : Transfer} (htransfers : b'.transfers = b.transfers ++ [t])
    (hheld : b'.held = b.held + netInflow self b.raffle.paymentToken [t])
    (hpurpose : a.posts t.purpose = true) : Posted self a b b' [t] where
  logged := htransfers
  balanced := hheld
  purposes t' ht' := by
    rw [List.mem_singleton.mp ht']
    exact hpurpose

theorem feeTransfers_purpose {r : Raffle} {purpose : Purpose} {fee : Int} {t : Transfer}
    (ht : t ∈ feeTransfers self r purpose fee) : t.purpose = purpose := by
  unfold feeTransfers at ht
  split at ht
  · obtain ⟨treasury, -, rfl⟩ := List.mem_map.mp ht
    rfl
  · cases ht

theorem payoutTransfers_purpose {r : Raffle} {winner : Address} {tier : Nat} {net : Int}
    {t : Transfer} (ht : t ∈ payoutTransfers self r winner tier net) :
    t.purpose = .prizePayout tier := by
  unfold payoutTransfers at ht
  split at ht
  · rw [List.mem_singleton.mp ht]
  · cases ht

theorem Move.posted (hm : Move h a b b') : ∃ ts, Posted h.self a b b' ts := by
  cases hm with
  | buy _ order total fee time | sellOut _ order total fee time =>
    refine ⟨_, rfl, rfl, fun t ht => ?_⟩
    rcases List.mem_cons.mp ht with rfl | ht
    · rfl
    · rw [feeTransfers_purpose ht]
      rfl
  | claim _ tier winner amount fee =>
    refine ⟨payoutTransfers h.self b.raffle winner tier (amount - fee) ++
      feeTransfers h.self b.raffle (.claimFee tier) fee, ?_, ?_, fun t ht => ?_⟩
    · simp [Books.file, Books.addFees, Books.post]
    · simp [Books.file, Books.addFees, Books.post]
    · rcases List.mem_append.mp ht with ht | ht
      · simp [payoutTransfers_purpose ht, Act.posts]
      · simp [feeTransfers_purpose ht, Act.posts]
  | sweep _ tier winner treasury amount =>
    exact ⟨_, .one (t := ⟨.prizeSweep tier, b.raffle.paymentToken, h.self, treasury, amount⟩)
      (by simp [Books.file, Books.post]) (by simp [Books.file, Books.post])
      (by simp [Act.posts])⟩
  | refund _ ticketId => exact ⟨_, .one rfl rfl (by simp [Act.posts])⟩
  | release _ purpose token recipient amount entitlement hpurpose =>
    exact ⟨_, .one rfl rfl (by rcases hpurpose with rfl | rfl <;> rfl)⟩
  | outside _ t hpurpose => exact ⟨_, .one rfl rfl (by rw [hpurpose]; rfl)⟩
  | deposit | emergency | returnPrize | withdraw => exact ⟨_, .one rfl rfl rfl⟩
  | _ => exact ⟨_, .nothing rfl rfl⟩

theorem Move.log_grows (hm : Move h a b b') : b.transfers <+: b'.transfers := by
  obtain ⟨ts, hp⟩ := hm.posted
  exact ⟨ts, hp.logged.symm⟩

theorem path_log_grows {acts : List Act} (hp : Path (Move h) b acts b') :
    b.transfers <+: b'.transfers := by
  induction hp with
  | nil => exact List.prefix_rfl
  | cons hm _ ih => exact hm.log_grows.trans ih

theorem Posted.tally_same {p : Purpose → Bool} (hp : Posted self a b b' ts)
    (hother : ∀ purpose, a.posts purpose = true → p purpose = false) :
    tally (fun t => p t.purpose) (·.amount) b'.transfers =
      tally (fun t => p t.purpose) (·.amount) b.transfers := by
  rw [hp.logged, tally_append, tally_eq_zero fun t ht => hother _ (hp.purposes t ht), add_zero]

theorem Posted.countP_same {p : Purpose → Bool} (hp : Posted self a b b' ts)
    (hother : ∀ purpose, a.posts purpose = true → p purpose = false) :
    b'.transfers.countP (fun t => p t.purpose) = b.transfers.countP fun t => p t.purpose := by
  have hnone : ts.countP (fun t => p t.purpose) = 0 := by
    apply List.countP_eq_zero.mpr
    intro t ht
    simp [hother _ (hp.purposes t ht)]
  rw [hp.logged, List.countP_append, hnone, Nat.add_zero]

section Balance

variable {purpose : Purpose} {token source target : Address} {amount : Int}

theorem netInflow_in (hsource : source ≠ self) :
    netInflow self token [⟨purpose, token, source, self, amount⟩] = amount := by
  simp [netInflow, inflow, hsource]

theorem netInflow_out (htarget : target ≠ self) :
    netInflow self token [⟨purpose, token, self, target, amount⟩] = -amount := by
  simp [netInflow, inflow, htarget]

theorem netInflow_out_ge (purpose : Purpose) (self token target : Address)
    (hamount : 0 ≤ amount) :
    -amount ≤ netInflow self token [⟨purpose, token, self, target, amount⟩] := by
  by_cases htarget : target = self
  · simpa [netInflow, inflow, htarget] using hamount
  · exact (netInflow_out htarget).ge

theorem netInflow_elsewhere (hsource : source ≠ self) (htarget : target ≠ self) (held : Address) :
    netInflow self held [⟨purpose, token, source, target, amount⟩] = 0 := by
  simp [netInflow, inflow, hsource, htarget]

theorem netInflow_nonneg {t : Transfer} (hsource : t.source ≠ self) (hamount : 0 ≤ t.amount)
    (held : Address) : 0 ≤ netInflow self held [t] := by
  simp only [netInflow, inflow, hsource, List.map_singleton, List.sum_singleton, if_false]
  split
  · split <;> omega
  · exact le_rfl

theorem netInflow_foreign {held : Address} (htoken : token ≠ held) :
    netInflow self held [⟨purpose, token, source, target, amount⟩] = 0 := by
  simp [netInflow, inflow, htoken]

end Balance

section Totals

variable (p : Purpose → Bool) (r : Raffle)

theorem tally_feeTransfers (self : Address) (purpose : Purpose) (fee : Int) :
    tally (fun t => p t.purpose) (·.amount) (feeTransfers self r purpose fee) =
      if p purpose = true ∧ r.treasuryAddress ≠ none then max fee 0 else 0 := by
  unfold feeTransfers
  cases htreasury : r.treasuryAddress with
  | none => simp
  | some treasury =>
    by_cases hpos : 0 < fee
    · simp [hpos, max_eq_left hpos.le]
    · simp [hpos, max_eq_right (not_lt.mp hpos)]

theorem tally_payoutTransfers (self winner : Address) (tier : Nat) (net : Int) :
    tally (fun t => p t.purpose) (·.amount) (payoutTransfers self r winner tier net) =
      if p (.prizePayout tier) = true then max net 0 else 0 := by
  unfold payoutTransfers
  by_cases hpos : 0 < net
  · simp [hpos, max_eq_left hpos.le]
  · simp [hpos, max_eq_right (not_lt.mp hpos)]

end Totals

end TikkaRaffle.Escrow
