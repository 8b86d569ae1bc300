import TikkaRaffle.Escrow.Lifecycle

/-! The fields of the raffle record that a running raffle never rewrites. Every
entry point stores the whole record again, so this is a statement about all of
them: some fields are fixed from initialisation on, the fee and the swap
deadline from the first ticket on. -/
namespace TikkaRaffle.Instance

/-- The record with everything that follows the lifecycle reset: what a buyer
has been promised. -/
def Raffle.terms (r : Raffle) : Raffle :=
  { r with
    ticketsSold := 0
    status := .pendingPrize
    prizeDeposited := false
    winners := []
    oracleAddress := none
    finalizedAt := none
    ticketSalesPaused := false }

/-- The terms less the two fields an admin may change before the first sale. -/
def Raffle.fixed (r : Raffle) : Raffle :=
  { r.terms with protocolFeeBp := 0, swapDeadlineSeconds := 0 }

end TikkaRaffle.Instance

namespace TikkaRaffle.Escrow

open TikkaRaffle.Lib TikkaRaffle.Instance

variable {h : Host} {w w' : World} {r r' : Raffle} {b b' : Books} {a : Act} {i : Invocation}

theorem markTier_terms (b : Books) (tier : Nat) :
    (b.markTier tier).raffle.terms = b.raffle.terms := by
  rw [Books.markTier_raffle]
  rfl

theorem Move.fixed (hm : Move h a b b') : b'.raffle.fixed = b.raffle.fixed := by
  cases hm with
  | claim | sweep =>
    unfold Raffle.fixed
    rw [markTier_terms]
    rfl
  | _ => rfl

theorem fixed_path {acts : List Act} (hpath : Path (Move h) b acts b') :
    b'.raffle.fixed = b.raffle.fixed :=
  hpath.preserves_all (fun b₁ => b₁.raffle.fixed = b.raffle.fixed)
    (fun _ _ _ hsame hm => (Move.fixed hm).trans hsame) rfl

theorem fixed_field {α : Type} (field : Raffle → α) (hfield : ∀ r, field r.fixed = field r)
    (hfixed : r'.fixed = r.fixed) : field r' = field r := by
  rw [← hfield r', hfixed, hfield r]

theorem Move.ticketsSold_le (hm : Move h a b b') :
    b.raffle.ticketsSold ≤ b'.raffle.ticketsSold := by
  cases hm with
  | buy _ order | sellOut _ order => exact Nat.le_add_right ..
  | claim | sweep =>
    rw [Books.markTier_raffle]
    exact le_rfl
  | _ => exact le_rfl

theorem ticketsSold_le_path {acts : List Act} (hpath : Path (Move h) b acts b') :
    b.raffle.ticketsSold ≤ b'.raffle.ticketsSold :=
  hpath.preserves_all (fun b₁ => b.raffle.ticketsSold ≤ b₁.raffle.ticketsSold)
    (fun _ _ _ hle hm => hle.trans (Move.ticketsSold_le hm)) le_rfl

/-- Once a ticket is sold the fee is settled as well. -/
theorem Move.terms (hm : Move h a b b') (ha : a ≠ .retune) (hsold : 0 < b.raffle.ticketsSold) :
    b'.raffle.terms = b.raffle.terms := by
  cases hm with
  | retune => exact absurd rfl ha
  | setFee _ bp hbp hnone => omega
  | claim | sweep =>
    rw [markTier_terms]
    rfl
  | _ => rfl

theorem setTicketSalesPaused_terms {c : Ctx} {caller : Address} {paused : Bool}
    {published : Event} (hr : w.raffle = some r) (hr' : w'.raffle = some r')
    (hok : setTicketSalesPaused h c w caller paused published = .ok w') :
    r'.terms = r.terms := by
  simp only [setTicketSalesPaused, except_bind_ok, readRaffle_ok, hr, Option.some.injEq,
    exists_eq_left', ensure_ok, except_pure_ok, exists_const] at hok
  obtain ⟨_, -, admin, -, -, -, rfl⟩ := hok
  cases hr'
  rfl

theorem updateOracleAddress_terms {c : Ctx} {newOracle : Address} (hr : w.raffle = some r)
    (hr' : w'.raffle = some r') (hok : updateOracleAddress h c w newOracle = .ok w') :
    r'.terms = r.terms := by
  simp only [updateOracleAddress, except_bind_ok, readRaffle_ok, hr, Option.some.injEq,
    exists_eq_left', ensure_ok, except_pure_ok, exists_const] at hok
  obtain ⟨admin, -, -, -, -, rfl⟩ := hok
  cases hr'
  rfl

/-- The swap deadline is refused after the first sale. -/
theorem setSwapDeadline_unsold {c : Ctx} {newDeadline : Nat} (hr : w.raffle = some r)
    (hok : setSwapDeadline h c w newDeadline = .ok w') : r.ticketsSold = 0 := by
  simp only [setSwapDeadline, except_bind_ok, readRaffle_ok, hr, Option.some.injEq,
    exists_eq_left', ensure_ok, except_pure_ok, exists_const] at hok
  obtain ⟨admin, -, -, hunsold, -⟩ := hok
  exact hunsold

def isRetune : Call → Bool
  | .pauseTicketSales _ | .resumeTicketSales _ | .updateOracleAddress _ | .setSwapDeadline _ => true
  | _ => false

theorem yields_no_retune {call : Call} {acts : List Act} (hyields : call.Yields w r acts)
    (hcall : isRetune call = false) : ∀ a ∈ acts, a ≠ .retune := by
  intro a ha
  cases call <;> grind [Call.Yields, isRetune]

theorem terms_step (hw : Holds h Lifecycle w) (hr : w.raffle = some r)
    (hsold : 0 < r.ticketsSold) (hok : invoke h i w = .ok w') :
    ∃ r', w'.raffle = some r' ∧ r'.terms = r.terms ∧ 0 < r'.ticketsSold := by
  obtain ⟨r', acts, hr', hyields, hpath⟩ := committed_path_from hw hr hok
  have hgrown : r.ticketsSold ≤ r'.ticketsSold := ticketsSold_le_path hpath
  refine ⟨r', hr', ?_, by omega⟩
  rcases Bool.eq_false_or_eq_true (isRetune i.call) with hretune | hother
  · obtain ⟨c, call⟩ := i
    cases call with
    | pauseTicketSales caller => exact setTicketSalesPaused_terms hr hr' hok
    | resumeTicketSales caller => exact setTicketSalesPaused_terms hr hr' hok
    | updateOracleAddress newOracle => exact updateOracleAddress_terms hr hr' hok
    | setSwapDeadline newDeadline =>
      have hunsold := setSwapDeadline_unsold hr hok
      omega
    | _ => cases hretune
  · have hkept := hpath.preserves
      (fun b => b.raffle.terms = r.terms ∧ 0 < b.raffle.ticketsSold) (· ≠ .retune)
      (fun a b b' ha hb hm => ⟨(Move.terms hm ha hb.2).trans hb.1,
        hb.2.trans_le (Move.ticketsSold_le hm)⟩)
      (yields_no_retune hyields hother) ⟨rfl, hsold⟩
    exact hkept.1

theorem fixed_step (hw : Holds h Lifecycle w) (hr : w.raffle = some r)
    (hok : invoke h i w = .ok w') : ∃ r', w'.raffle = some r' ∧ r'.fixed = r.fixed := by
  obtain ⟨r', acts, hr', -, hpath⟩ := committed_path_from hw hr hok
  exact ⟨r', hr', fixed_path hpath⟩

theorem fixed_run (hw : Holds h Lifecycle w) (hr : w.raffle = some r) (calls : List Invocation) :
    ∃ r', ((machine h).run w calls).raffle = some r' ∧ r'.fixed = r.fixed := by
  have hall := (Machine.always_of_step (m := machine h)
    (fun w => Holds h Lifecycle w ∧ ∃ r', w.raffle = some r' ∧ r'.fixed = r.fixed)
    (fun w i w' hw hok => by
      obtain ⟨r₁, hr₁, hsame⟩ := hw.2
      obtain ⟨r₂, hr₂, hstep⟩ := fixed_step hw.1 hr₁ hok
      exact ⟨lifecycle_step hw.1 hok, r₂, hr₂, hstep.trans hsame⟩)
    ⟨hw, r, hr, rfl⟩ calls).last
  exact hall.2

/-- Bounds that initialisation checks on fields no call rewrites. -/
structure Bounded (r : Raffle) : Prop where
  tiers : r.prizes.length ≤ Constants.maxPrizes
  lockup_le : r.claimLockupSeconds ≤ Constants.maxClaimLockupSeconds
  expiry_ge : Constants.minClaimExpirySeconds ≤ r.claimExpirySeconds
  lockup_lt : r.claimLockupSeconds < r.claimExpirySeconds

theorem initialised_bounded (hinit : Initialised h w) (hr : w.raffle = some r) : Bounded r := by
  obtain ⟨c, holdings, factory, admin, creator, config, hok⟩ := hinit
  obtain ⟨cap, hcap⟩ := resolveTicketCap_terms config.resolveDefaults
  simp only [init, validateSupply, validatePrize, validateWindows, hcap, except_bind_ok,
    except_pure_ok, ensure_ok, exists_const] at hok
  obtain ⟨-, -, ⟨-, -, -, -, -, hcount, -⟩, _, -, -, -, ⟨hlockup, hexpiry, horder, -⟩, rfl⟩ := hok
  cases hr
  exact ⟨hcount, hlockup, hexpiry, horder⟩

theorem Bounded.of_fixed (hb : Bounded r) (hfixed : r'.fixed = r.fixed) : Bounded r' := by
  have hprizes := fixed_field Raffle.prizes (fun _ => rfl) hfixed
  have hlockup := fixed_field Raffle.claimLockupSeconds (fun _ => rfl) hfixed
  have hexpiry := fixed_field Raffle.claimExpirySeconds (fun _ => rfl) hfixed
  exact ⟨hprizes ▸ hb.tiers, hlockup ▸ hb.lockup_le, hexpiry ▸ hb.expiry_ge,
    hlockup ▸ hexpiry ▸ hb.lockup_lt⟩

theorem bounded_run (hinit : Initialised h w) (calls : List Invocation)
    (hr : ((machine h).run w calls).raffle = some r) : Bounded r := by
  have hlife := initialised_lifecycle hinit
  have ⟨r₀, hr₀, _⟩ := hlife
  obtain ⟨r₁, hr₁, hfixed⟩ := fixed_run hlife hr₀ calls
  rw [hr] at hr₁
  cases hr₁
  exact (initialised_bounded hinit hr₀).of_fixed hfixed

end TikkaRaffle.Escrow
