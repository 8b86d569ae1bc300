import TikkaRaffle.Escrow.Terms
import TikkaRaffle.Instance.Views

/-! When the remaining allowance of an address is what it can still buy. -/
namespace TikkaRaffle.Properties

open TikkaRaffle.Lib TikkaRaffle.Instance TikkaRaffle.Escrow

variable {h : Host} {w : World} {r r' : Raffle}

/-- Initialisation gives a raffle without multiple tickets a cap of one, and no cap
exceeds the supply. -/
structure Resolved (r : Raffle) : Prop where
  multiple : r.maxTicketsPerAddress = 0 → r.allowMultiple = true
  cap_le : r.maxTicketsPerAddress ≤ r.maxTickets

theorem resolveTicketCap_resolved (config : RaffleConfig) (hpos : 0 < config.maxTickets)
    (hcap : ¬(0 < config.maxTicketsPerAddress ∧ config.maxTickets < config.maxTicketsPerAddress)) :
    ((resolveTicketCap config).maxTicketsPerAddress = 0 →
        (resolveTicketCap config).allowMultiple = true) ∧
      (resolveTicketCap config).maxTicketsPerAddress ≤ (resolveTicketCap config).maxTickets := by
  unfold resolveTicketCap
  split
  next => exact ⟨fun hzero => absurd hzero Nat.one_ne_zero, hpos⟩
  next hnot => exact ⟨fun hzero => by simpa [hzero] using hnot, by omega⟩

theorem initialised_resolved (hinit : Initialised h w) (hr : w.raffle = some r) : Resolved r := by
  obtain ⟨c, holdings, factory, admin, creator, config, hok⟩ := hinit
  simp only [init, validateSupply, except_bind_ok, except_pure_ok, ensure_ok, exists_const] at hok
  obtain ⟨-, ⟨-, -, -, -, ⟨hmax, -⟩, -, -, hcap⟩, _, -, _, -, -, -, _, -, rfl⟩ := hok
  cases hr
  have hresolved := resolveTicketCap_resolved config.resolveDefaults
    (Nat.pos_of_ne_zero hmax) hcap
  exact ⟨hresolved.1, hresolved.2⟩

theorem resolved_run (hinit : Initialised h w) (calls : List Invocation)
    (hr : ((machine h).run w calls).raffle = some r) : Resolved r := by
  have hlife := initialised_lifecycle hinit
  have ⟨r₀, hr₀, _⟩ := hlife
  obtain ⟨r₁, hr₁, hfixed⟩ := fixed_run hlife hr₀ calls
  rw [hr] at hr₁
  cases hr₁
  have hstart := initialised_resolved hinit hr₀
  have hcap := fixed_field Raffle.maxTicketsPerAddress (fun _ => rfl) hfixed
  have hmultiple := fixed_field Raffle.allowMultiple (fun _ => rfl) hfixed
  have hmax := fixed_field Raffle.maxTickets (fun _ => rfl) hfixed
  exact ⟨by rw [hcap, hmultiple]; exact hstart.multiple, by rw [hcap, hmax]; exact hstart.cap_le⟩

/-- The entry point predicts the purchase checks and agrees with the view. -/
structure AllowanceExact (w : World) (r : Raffle) (owner : Address) : Prop where
  caps : r.status = .active → ∀ quantity, 1 ≤ quantity → quantity ≤ r.maxTicketsPerTx →
    ((checkCaps w r owner quantity).isOk = true ↔
      ∃ allowance, getRemainingTicketAllowance w owner = .ok allowance ∧ quantity ≤ allowance)
  agrees : getRemainingTicketAllowance w owner = Views.getRemainingTicketAllowance w owner

/-- There is a cap, and what it leaves to the owner is not more than what is left. -/
def CapBinds (w : World) (r : Raffle) (owner : Address) : Prop :=
  0 < r.maxTicketsPerAddress ∧
    r.maxTicketsPerAddress - (w.ticketCount owner).getD 0 ≤ r.maxTickets - r.ticketsSold

theorem allowance_exact_of_stored (hr : w.raffle = some r) (hterms : Terms r)
    (hresolved : Resolved r) (owner : Address) :
    AllowanceExact w r owner ↔ CapBinds w r owner := by
  have hmax : r.maxTickets ≤ 100000 := hterms.maxTickets_le
  have hentry := getRemainingTicketAllowance_ok hr owner
  have hview : Views.getRemainingTicketAllowance w owner = .ok (min (r.maxTickets - r.ticketsSold)
      ((if 0 < r.maxTicketsPerAddress then r.maxTicketsPerAddress
        else if r.allowMultiple = false then 1 else r.maxTickets) -
          (w.ticketCount owner).getD 0)) := by
    rw [Views.getRemainingTicketAllowance, readRaffle_ok.mpr hr]
    rfl
  by_cases hcap : 0 < r.maxTicketsPerAddress
  · rw [effectiveMaxTicketsPerAddress, if_pos hcap] at hentry
    rw [if_pos hcap] at hview
    simp only at hentry
    constructor
    · intro hexact
      have hagree := hexact.agrees
      rw [hentry, hview, Except.ok.injEq] at hagree
      exact ⟨hcap, by omega⟩
    · rintro ⟨-, hle⟩
      have hcap_le := hresolved.cap_le
      refine ⟨fun _ quantity hone _ => ?_, by rw [hentry, hview, Except.ok.injEq]; omega⟩
      rw [checkCaps_iff, hentry]
      simp only [Except.ok.injEq, exists_eq_left', hcap, true_implies]
      omega
  · -- without a cap the entry point answers the largest number, the view what is left
    refine iff_of_false (fun hexact => ?_) fun hbinds => hcap hbinds.1
    have hmultiple : r.allowMultiple = true := hresolved.multiple (by omega)
    have hagree := hexact.agrees
    rw [effectiveMaxTicketsPerAddress, if_neg hcap, hmultiple] at hentry
    rw [hentry, hview, Except.ok.injEq] at hagree
    simp only [Bool.true_eq_false, ↓reduceIte] at hagree
    omega

instance (w : World) (r : Raffle) (owner : Address) : Decidable (CapBinds w r owner) :=
  inferInstanceAs (Decidable (_ ∧ _))

/-- In every reached state the allowance is exact for an owner if and only if the
cap binds. -/
theorem allowance_exact_iff (hinit : Initialised h w) (calls : List Invocation)
    (hr : ((machine h).run w calls).raffle = some r) (owner : Address) :
    AllowanceExact ((machine h).run w calls) r owner ↔
      CapBinds ((machine h).run w calls) r owner :=
  have hlife := (lifecycle_always hinit calls).last
  allowance_exact_of_stored hr (hlife.view hr).terms (resolved_run hinit calls hr) owner

def pairedConfig : RaffleConfig := { Sample.config with maxTicketsPerAddress := 2 }

def firstSale : List Invocation :=
  [Sample.signed [Sample.creator] 1 1 .depositPrize,
    Sample.signed [Sample.buyer] 2 2 (.buyTickets Sample.buyer 1)]

theorem allowance_exact_paired : ∃ r,
    (Sample.after .ifElse pairedConfig firstSale).raffle = some r ∧ r.status = .active ∧
      AllowanceExact (Sample.after .ifElse pairedConfig firstSale) r Sample.buyer := by
  have hinit : Initialised (Sample.host .ifElse) (Sample.start .ifElse pairedConfig) :=
    Sample.start_initialised (by decide +kernel)
  have hfound : ∃ r, r ∈ (Sample.after .ifElse pairedConfig firstSale).raffle ∧
      r.status = .active ∧
      CapBinds (Sample.after .ifElse pairedConfig firstSale) r Sample.buyer := by
    decide +kernel
  obtain ⟨r, hr, hactive, hbinds⟩ := hfound
  exact ⟨r, hr, hactive, (allowance_exact_iff hinit firstSale hr Sample.buyer).mpr hbinds⟩

/-- Two tickets are left of a raffle without a cap: three are refused, although the
entry point answers the largest number and the view two. -/
theorem allowance_inexact_uncapped :
    Initialised (Sample.host .ifElse) (Sample.start .ifElse Sample.config) ∧ ∃ r,
      (Sample.after .ifElse Sample.config firstSale).raffle = some r ∧ r.status = .active ∧
      ¬AllowanceExact (Sample.after .ifElse Sample.config firstSale) r Sample.buyer ∧
      3 ≤ r.maxTicketsPerTx ∧
      (checkCaps (Sample.after .ifElse Sample.config firstSale) r Sample.buyer 3).isOk = false ∧
      getRemainingTicketAllowance (Sample.after .ifElse Sample.config firstSale) Sample.buyer =
        .ok (2 ^ 32 - 1) ∧
      Views.getRemainingTicketAllowance (Sample.after .ifElse Sample.config firstSale)
        Sample.buyer = .ok 2 := by
  have hfound : ∃ r, r ∈ (Sample.after .ifElse Sample.config firstSale).raffle ∧
      r.status = .active ∧ 3 ≤ r.maxTicketsPerTx ∧
      (checkCaps (Sample.after .ifElse Sample.config firstSale) r Sample.buyer 3).isOk = false := by
    decide +kernel
  have hentry : getRemainingTicketAllowance (Sample.after .ifElse Sample.config firstSale)
      Sample.buyer = .ok (2 ^ 32 - 1) := by
    decide +kernel
  have hview : Views.getRemainingTicketAllowance (Sample.after .ifElse Sample.config firstSale)
      Sample.buyer = .ok 2 := by
    decide +kernel
  obtain ⟨r, hr, hactive, htx, hrefused⟩ := hfound
  refine ⟨Sample.start_initialised (by decide +kernel), r, hr, hactive, fun hexact => ?_, htx,
    hrefused, hentry, hview⟩
  have hagree := hexact.agrees
  rw [hentry, hview, Except.ok.injEq] at hagree
  exact absurd hagree (by decide)

end TikkaRaffle.Properties
