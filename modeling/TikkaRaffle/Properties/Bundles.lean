import TikkaRaffle.Lib.Brackets
import TikkaRaffle.Properties.Validation

/-! Bundles and the list price. The builder orders the bundles among each other
and never compares the first one with the list price, so a purchase may become
dearer by the ticket when it reaches the first bundle. -/
namespace TikkaRaffle.Properties

open TikkaRaffle.Lib TikkaRaffle.Instance TikkaRaffle.Escrow Constants

variable {config normal : RaffleConfig} {now : Nat} {tokenValid : Address → Bool}
  {instanceAddress : Option Address}

structure OnlyLowers (r : Raffle) : Prop where
  below_list : ∀ quantity, 1 ≤ quantity → bundleUnit r quantity ≤ r.ticketPrice
  falling : ∀ fewer more, 1 ≤ fewer → fewer ≤ more → bundleUnit r more ≤ bundleUnit r fewer

theorem bundleUnit_eq_bracket (r : Raffle) (quantity : Nat) :
    bundleUnit r quantity =
      bracket TicketBundle.quantity TicketBundle.pricePerTicket r.ticketPrice r.bundles quantity :=
  rfl

theorem validateConfig_bundles
    (hok : validateConfig now tokenValid config instanceAddress = .ok normal) :
    normal.bundles = config.bundles ∧ normal.ticketPrice = config.ticketPrice ∧
      (∀ bundle ∈ config.bundles, 1 ≤ bundle.quantity) ∧
      Descending TicketBundle.quantity TicketBundle.pricePerTicket config.bundles := by
  obtain ⟨cap, hcap⟩ := normalizeCap_eq config
  simp only [validateConfig, except_bind_ok, check_ok, except_pure_ok, validateLimits_ok,
    exists_const] at hok
  obtain ⟨_, ⟨-, rfl⟩, _, hprices, _, -, -, _, -, -, -, rfl⟩ := hok
  rw [hcap] at hprices ⊢
  obtain ⟨-, -, hbundles⟩ := validatePrices_ok.mp hprices
  obtain ⟨hsizes, hchain⟩ := validateBundles_ok.mp hbundles
  refine ⟨rfl, rfl, fun bundle hbundle => Nat.pos_of_ne_zero (hsizes bundle hbundle).1, ?_⟩
  have : IsTrans TicketBundle fun a b =>
      a.quantity < b.quantity ∧ b.pricePerTicket ≤ a.pricePerTicket :=
    ⟨fun _ _ _ hab hbc => ⟨hab.1.trans hbc.1, hbc.2.trans hab.2⟩⟩
  exact List.isChain_iff_pairwise.mp hchain

theorem storedRaffle_bundles (creator : Address) (config : RaffleConfig) :
    (storedRaffle creator config).bundles = config.bundles ∧
      (storedRaffle creator config).ticketPrice = config.ticketPrice := by
  obtain ⟨cap, hcap⟩ := resolveTicketCap_terms config.resolveDefaults
  unfold storedRaffle
  rw [hcap]
  exact ⟨rfl, rfl⟩

/-- Bundles only lower the price exactly when the first one is no dearer than
the list price. -/
theorem bundles_only_lower_iff
    (hok : validateConfig now tokenValid config instanceAddress = .ok normal) (creator : Address) :
    OnlyLowers (storedRaffle creator normal) ↔
      ∀ first ∈ config.bundles.head?, first.pricePerTicket ≤ config.ticketPrice := by
  obtain ⟨hbundles, hprice, hsizes, hitems⟩ := validateConfig_bundles hok
  obtain ⟨hstored, hlist⟩ := storedRaffle_bundles creator normal
  have hunit : ∀ quantity, bundleUnit (storedRaffle creator normal) quantity =
      bracket TicketBundle.quantity TicketBundle.pricePerTicket config.ticketPrice config.bundles
        quantity := by
    intro quantity
    rw [bundleUnit_eq_bracket, hstored, hlist, hbundles, hprice]
  constructor
  · intro hlowers first hfirst
    obtain ⟨rest, hrest⟩ := List.head?_eq_some_iff.mp hfirst
    have hbelow := hlowers.below_list first.quantity
      (hsizes first (hrest ▸ List.mem_cons_self ..))
    rw [hunit, hlist, hprice, hrest, bracket_first (hrest ▸ hitems)] at hbelow
    exact hbelow
  · intro hfirst
    have hvalues := (values_le_start_iff hitems).mpr hfirst
    refine ⟨fun quantity _ => ?_, fun fewer more _ hmore => ?_⟩
    · rw [hunit, hlist, hprice]
      exact bracket_le le_rfl hvalues
    · rw [hunit, hunit]
      exact bracket_antitone hitems hvalues hmore

def dearBundleConfig : RaffleConfig := { Sample.config with bundles := [⟨2, 20000⟩] }

def cheapBundleConfig : RaffleConfig :=
  { Sample.config with ticketPrice := 20000, bundles := [⟨2, 15000⟩, ⟨3, 10000⟩] }

theorem bundles_only_lower_iff_cheapBundle : ∃ normal,
    validateConfig 0 (fun _ => true) cheapBundleConfig none = .ok normal ∧
    OnlyLowers (storedRaffle Sample.creator normal) := by
  have haccepted : (validateConfig 0 (fun _ => true) cheapBundleConfig none).isOk = true := by
    decide +kernel
  obtain ⟨normal, hok⟩ := except_isOk haccepted
  refine ⟨normal, hok, (bundles_only_lower_iff hok Sample.creator).mpr ?_⟩
  decide

theorem bundle_raises_price : ∃ normal,
    validateConfig 0 (fun _ => true) dearBundleConfig none = .ok normal ∧
    bundleUnit (storedRaffle Sample.creator normal) 1 = 10000 ∧
    bundleUnit (storedRaffle Sample.creator normal) 2 = 20000 ∧
    ¬OnlyLowers (storedRaffle Sample.creator normal) := by
  have haccepted : (validateConfig 0 (fun _ => true) dearBundleConfig none).isOk = true := by
    decide +kernel
  obtain ⟨normal, hok⟩ := except_isOk haccepted
  obtain ⟨hbundles, hprice, -, -⟩ := validateConfig_bundles hok
  obtain ⟨hstored, hlist⟩ := storedRaffle_bundles Sample.creator normal
  have hunit : ∀ quantity, bundleUnit (storedRaffle Sample.creator normal) quantity =
      bracket TicketBundle.quantity TicketBundle.pricePerTicket 10000 [⟨2, 20000⟩] quantity := by
    intro quantity
    rw [bundleUnit_eq_bracket, hstored, hlist, hbundles, hprice]
    rfl
  refine ⟨normal, hok, by rw [hunit]; rfl, by rw [hunit]; rfl, fun hlowers => ?_⟩
  have hbelow := hlowers.below_list 2 (by decide)
  rw [hunit, hlist, hprice] at hbelow
  exact absurd hbelow (by decide)

end TikkaRaffle.Properties
