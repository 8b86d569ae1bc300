import TikkaRaffle.Escrow.Lifecycle
import TikkaRaffle.Shared.ConfigBuilder

/-! The two validators of a configuration. The builder of the factory and the
initialiser of the instance share most of their rules; each also has rules of
its own, and they agree on a configuration exactly when those do. -/
namespace TikkaRaffle.Properties

open TikkaRaffle.Lib TikkaRaffle.Instance TikkaRaffle.Escrow Constants

variable {config : RaffleConfig} {now : Nat} {tokenValid : Address → Bool}

structure SupplyRules (now : Nat) (config : RaffleConfig) : Prop where
  description : config.description.length ≤ maxDescriptionLength
  deadline : if config.noDeadline then config.endTime = 0 else now < config.endTime
  supply : config.maxTickets ≠ 0 ∧ config.maxTickets ≤ maxTicketsLimit
  minTickets : config.minTickets ≤ config.maxTickets
  perTx : config.maxTicketsPerTx ≠ 0 ∧ config.maxTicketsPerTx ≤ config.maxTickets
  perAddress : config.maxTicketsPerAddress ≤ config.maxTickets

structure PrizeRules (config : RaffleConfig) : Prop where
  price : minTicketPrice ≤ config.ticketPrice
  prize : config.ticketPrice ≤ config.prizeAmount ∧ config.prizeAmount ≤ maxPrizeAmount
  tiers : config.prizes ≠ [] ∧ config.prizes.length ≤ maxPrizes
  total : config.prizes.sum = 10000
  fee : config.protocolFeeBp ≤ 10000
  treasury : 0 < config.protocolFeeBp → config.treasuryAddress ≠ none

structure WindowRules (config : RaffleConfig) : Prop where
  lockup : config.claimLockupSeconds.getD defaultClaimLockupSeconds ≤ maxClaimLockupSeconds
  expiry : minClaimExpirySeconds ≤ config.claimExpirySeconds.getD defaultClaimExpirySeconds
  order : config.claimLockupSeconds.getD defaultClaimLockupSeconds <
    config.claimExpirySeconds.getD defaultClaimExpirySeconds
  swap : config.swapDeadlineSeconds.getD defaultSwapDeadlineSeconds ≤ maxSwapDeadlineSeconds

structure SharedRules (now : Nat) (tokenValid : Address → Bool) (config : RaffleConfig) : Prop where
  limits : SupplyRules now config
  prices : PrizeRules config
  oracle : config.oracleAddress ≠ none ↔ config.randomnessSource = .external
  metadata : config.metadataHash ≠ Vector.replicate 32 0
  token : tokenValid config.paymentToken = true
  windows : WindowRules config

/-- What only the builder requires: at most sixteen bundles, larger ones no
dearer by the ticket, and a well-spelled category. -/
structure BuilderRules (config : RaffleConfig) : Prop where
  bundleCount : config.bundles.length ≤ 16
  bundles : ∀ bundle ∈ config.bundles,
    bundle.quantity ≠ 0 ∧ minTicketPrice ≤ bundle.pricePerTicket
  bundleOrder : config.bundles.IsChain fun a b =>
    a.quantity < b.quantity ∧ b.pricePerTicket ≤ a.pricePerTicket
  category : ∀ category ∈ config.category, category.length ≠ 0 ∧
    category.length ≤ maxCategoryLength ∧ category.all isCategoryByte = true

/-- What only the initialiser requires: a prize within reach of internal
randomness, no more tiers than tickets, a quorum its oracles can reach by
number, and an early-bird window within bounds. -/
structure InitRules (config : RaffleConfig) : Prop where
  cap : exceedsInternalRandomnessCap config.randomnessSource config.prizeAmount = false
  tiers : config.prizes.length ≤ config.maxTickets
  quorum : ∀ quorum, config.randomnessSource = .quorum quorum →
    quorum.k ≠ 0 ∧ quorum.k ≤ quorum.oracles.length ∧ quorum.oracles.length ≤ 10
  percentage : config.earlyBirdTicketPercentage ≤ 100
  discount : 0 < config.earlyBirdTicketPercentage → config.earlyBirdDiscountBp ≤ 10000

/-- An oracle of the configuration is the instance itself. -/
def NamesInstance (self : Address) (config : RaffleConfig) : Prop :=
  config.randomnessSource = .external ∧ config.oracleAddress = some self ∨
    ∃ quorum, config.randomnessSource = .quorum quorum ∧ self ∈ quorum.oracles

theorem validateBundles_ok {previous : Option TicketBundle} {bundles : List TicketBundle} :
    validateBundles previous bundles = .ok () ↔
      (∀ bundle ∈ bundles, bundle.quantity ≠ 0 ∧ minTicketPrice ≤ bundle.pricePerTicket) ∧
        (previous.toList ++ bundles).IsChain fun a b =>
          a.quantity < b.quantity ∧ b.pricePerTicket ≤ a.pricePerTicket := by
  induction bundles generalizing previous with
  | nil => cases previous <;> simp [validateBundles]
  | cons bundle rest ih =>
    simp only [validateBundles, except_bind_ok, check_ok, exists_const, ih, List.forall_mem_cons]
    cases previous with
    | none => simp [and_assoc]
    | some before =>
      simp only [Option.mem_def, Option.some.injEq, forall_eq', Option.toList_some,
        List.singleton_append, List.isChain_cons_cons]
      tauto

theorem validateCategory_ok {category : Option Bytes} :
    validateCategory category = .ok () ↔ ∀ bytes ∈ category, bytes.length ≠ 0 ∧
      bytes.length ≤ maxCategoryLength ∧ bytes.all isCategoryByte = true := by
  cases category with
  | none => simp [validateCategory]
  | some bytes =>
    simp only [validateCategory, except_bind_ok, check_ok, exists_const, Option.mem_def,
      Option.some.injEq, forall_eq', and_assoc]

theorem addBasisPoints_total {prizes : List Nat} :
    (∃ total, prizes.foldlM addBasisPoints 0 = .ok total ∧ total = 10000) ↔
      prizes.sum = 10000 := by
  constructor
  · rintro ⟨total, hok, rfl⟩
    have hsum := foldlM_sum (f := id) (fun acc bp acc' _ hround => by
      simp only [addBasisPoints, except_bind_ok, check_ok, except_pure_ok, exists_const] at hround
      exact hround.2.symm) hok
    simpa using hsum.symm
  · intro hsum
    refine ⟨10000, foldlM_sum_of_le (fun acc bp _ hle => ?_) (by omega), rfl⟩
    have hfits : acc + bp < 2 ^ 32 := by omega
    simp only [addBasisPoints, check, hfits, if_true]
    rfl

theorem deadline_iff : (¬(config.noDeadline = true ∧ config.endTime ≠ 0) ∧
    ¬(config.noDeadline = false ∧ config.endTime ≤ now) ∧
    ¬(config.endTime ≠ 0 ∧ config.endTime ≤ now)) ↔
      if config.noDeadline then config.endTime = 0 else now < config.endTime := by
  cases config.noDeadline with
  | false =>
    simp only [Bool.false_eq_true, false_and, not_false_eq_true, true_and, if_false]
    omega
  | true =>
    simp only [Bool.true_eq_false, true_and, false_and, not_false_eq_true, if_true]
    omega

theorem validateLimits_ok {normal : RaffleConfig} : validateLimits now config = .ok normal ↔
    SupplyRules now config ∧ normal = config.normalizeCap := by
  have hcap (hsome : config.maxTickets ≠ 0) :
      config.normalizeCap.maxTicketsPerAddress ≤ config.normalizeCap.maxTickets ↔
        config.maxTicketsPerAddress ≤ config.maxTickets := by
    unfold RaffleConfig.normalizeCap
    split
    next hmissing =>
      change 1 ≤ config.maxTickets ↔ config.maxTicketsPerAddress ≤ config.maxTickets
      omega
    next => rfl
  simp only [validateLimits, except_bind_ok, check_ok, except_pure_ok, exists_const]
  constructor
  · rintro ⟨hdescription, hopen, hahead, hend, hsupply, hmin, htx, hper, rfl⟩
    exact ⟨⟨hdescription, deadline_iff.mp ⟨hopen, hahead, hend⟩, hsupply, hmin, htx,
      (hcap hsupply.1).mp hper⟩, rfl⟩
  · rintro ⟨hrules, rfl⟩
    obtain ⟨hopen, hahead, hend⟩ := deadline_iff.mpr hrules.deadline
    exact ⟨hrules.description, hopen, hahead, hend, hrules.supply, hrules.minTickets,
      hrules.perTx, (hcap hrules.supply.1).mpr hrules.perAddress, rfl⟩

theorem validatePrices_ok : validatePrices config = .ok () ↔ PrizeRules config ∧
    config.bundles.length ≤ 16 ∧ validateBundles none config.bundles = .ok () := by
  simp only [validatePrices, except_bind_ok, check_ok, exists_const]
  constructor
  · rintro ⟨hprice, hcount, _, hbundles, hprize, hsome, htiers, total, htotal, heq, hfee,
      htreasury⟩
    have hsum := addBasisPoints_total.mp ⟨total, htotal, heq⟩
    exact ⟨⟨hprice, hprize, ⟨hsome, htiers⟩, hsum, hfee, fun hpos hnone => htreasury ⟨hpos, hnone⟩⟩,
      hcount, hbundles⟩
  · rintro ⟨hrules, hcount, hbundles⟩
    obtain ⟨total, htotal, heq⟩ := addBasisPoints_total.mpr hrules.total
    exact ⟨hrules.price, hcount, (), hbundles, hrules.prize, hrules.tiers.1, hrules.tiers.2, total,
      htotal, heq, hrules.fee, fun hboth => hrules.treasury hboth.1 hboth.2⟩

theorem validateOracle_ok : validateOracle config none = .ok () ↔
    (config.oracleAddress ≠ none ↔ config.randomnessSource = .external) := by
  unfold validateOracle
  split
  next hexternal =>
    cases config.oracleAddress with
    | none => simp [hexternal]
    | some address => simp [hexternal]
  next hother => simp [hother]

theorem builderRules_iff : BuilderRules config ↔ config.bundles.length ≤ 16 ∧
    validateBundles none config.bundles = .ok () ∧ validateCategory config.category = .ok () := by
  rw [validateBundles_ok, validateCategory_ok]
  constructor
  · intro hrules
    exact ⟨hrules.bundleCount, ⟨hrules.bundles, hrules.bundleOrder⟩, hrules.category⟩
  · rintro ⟨hcount, ⟨hbundles, horder⟩, hcategory⟩
    exact ⟨hcount, hbundles, horder, hcategory⟩

theorem resolveDefaults_lockup (config : RaffleConfig) :
    config.resolveDefaults.claimLockupSeconds.getD defaultClaimLockupSeconds =
      config.claimLockupSeconds.getD defaultClaimLockupSeconds := by
  unfold RaffleConfig.resolveDefaults
  cases config.claimLockupSeconds <;> rfl

theorem resolveDefaults_expiry (config : RaffleConfig) :
    config.resolveDefaults.claimExpirySeconds.getD defaultClaimExpirySeconds =
      config.claimExpirySeconds.getD defaultClaimExpirySeconds := by
  unfold RaffleConfig.resolveDefaults
  cases config.claimExpirySeconds <;> rfl

theorem resolveDefaults_swap (config : RaffleConfig) :
    config.resolveDefaults.swapDeadlineSeconds.getD defaultSwapDeadlineSeconds =
      config.swapDeadlineSeconds.getD defaultSwapDeadlineSeconds := by
  unfold RaffleConfig.resolveDefaults
  cases config.swapDeadlineSeconds <;> rfl

theorem build_ok {normal : RaffleConfig} :
    (RaffleConfigBuilder.fromConfig config).build now tokenValid = .ok normal ↔
      (SharedRules now tokenValid config ∧ BuilderRules config) ∧
        normal = config.normalizeCap.resolveDefaults := by
  obtain ⟨cap, hcap⟩ := normalizeCap_eq config
  rw [RaffleConfigBuilder.build_fromConfig, builderRules_iff]
  simp only [validateConfig, except_bind_ok, check_ok, except_pure_ok, validateLimits_ok,
    exists_const, resolveDefaults_lockup, resolveDefaults_expiry, resolveDefaults_swap]
  constructor
  · rintro ⟨_, ⟨hlimits, rfl⟩, _, hprices, _, horacle, hmetadata, _, hcategory, htoken,
      ⟨hlockup, hexpiry, horder, hswap⟩, rfl⟩
    rw [hcap] at hprices horacle hmetadata hcategory htoken hlockup hexpiry horder hswap
    obtain ⟨⟨hprice, hprize, htiers, htotal, hfee, htreasury⟩, hcount, hbundles⟩ :=
      validatePrices_ok.mp hprices
    exact ⟨⟨⟨hlimits, ⟨hprice, hprize, htiers, htotal, hfee, htreasury⟩,
      validateOracle_ok.mp horacle, hmetadata, htoken, ⟨hlockup, hexpiry, horder, hswap⟩⟩, hcount,
      hbundles, hcategory⟩, rfl⟩
  · rintro ⟨⟨⟨hlimits, hprices, horacle, hmetadata, htoken, hwindows⟩, hcount, hbundles,
      hcategory⟩, rfl⟩
    refine ⟨_, ⟨hlimits, rfl⟩, (), ?_, (), ?_, ?_, (), ?_, ?_, ?_, rfl⟩ <;> rw [hcap]
    · exact validatePrices_ok.mpr ⟨⟨hprices.price, hprices.prize, hprices.tiers, hprices.total,
        hprices.fee, hprices.treasury⟩, hcount, hbundles⟩
    · exact validateOracle_ok.mpr horacle
    · exact hmetadata
    · exact hcategory
    · exact htoken
    · exact ⟨hwindows.lockup, hwindows.expiry, hwindows.order, hwindows.swap⟩

variable {h : Host} {c : Ctx} {holdings : Address → Address → Nat}
  {factory admin creator : Address} {w : World}

theorem validateSupply_ok : validateSupply c config = .ok () ↔ SupplyRules c.timestamp config := by
  simp only [validateSupply, except_bind_ok, ensure_ok, exists_const]
  constructor
  · rintro ⟨hdescription, hopen, hahead, hend, hsupply, hmin, htx, hper⟩
    exact ⟨hdescription, deadline_iff.mp ⟨hopen, hahead, hend⟩, hsupply, hmin, htx, by omega⟩
  · intro hrules
    obtain ⟨hopen, hahead, hend⟩ := deadline_iff.mpr hrules.deadline
    have hper := hrules.perAddress
    exact ⟨hrules.description, hopen, hahead, hend, hrules.supply, hrules.minTickets,
      hrules.perTx, by omega⟩

theorem totalPrizesBp_total {prizes : List Nat} :
    (∃ total, totalPrizesBp prizes = .ok total ∧ total = 10000) ↔ prizes.sum = 10000 := by
  constructor
  · rintro ⟨total, hok, rfl⟩
    exact totalPrizesBp_ok hok
  · intro hsum
    refine ⟨10000, foldlM_sum_of_le (fun acc bp _ hle => ?_) (by omega), rfl⟩
    have hsmall : bp ≤ 10000 := by omega
    have hfits : acc + bp < 2 ^ 32 := by omega
    simp only [addPrizeBp, ensure, hsmall, hfits, if_true]
    rfl

theorem validatePrize_ok : validatePrize config = .ok () ↔ PrizeRules config ∧
    exceedsInternalRandomnessCap config.randomnessSource config.prizeAmount = false ∧
    config.prizes.length ≤ config.maxTickets := by
  simp only [validatePrize, except_bind_ok, ensure_ok, exists_const]
  constructor
  · rintro ⟨hprice, hprize, hlimit, hcap, hsome, htiers, hsupply, total, htotal, heq, hfee,
      htreasury⟩
    have hsum := totalPrizesBp_total.mp ⟨total, htotal, heq⟩
    exact ⟨⟨hprice, ⟨hprize, hlimit⟩, ⟨hsome, htiers⟩, hsum, hfee,
      fun hpos hnone => htreasury ⟨hpos, hnone⟩⟩, hcap, hsupply⟩
  · rintro ⟨hrules, hcap, hsupply⟩
    obtain ⟨total, htotal, heq⟩ := totalPrizesBp_total.mpr hrules.total
    exact ⟨hrules.price, hrules.prize.1, hrules.prize.2, hcap, hrules.tiers.1, hrules.tiers.2,
      hsupply, total, htotal, heq, hrules.fee, fun hboth => hrules.treasury hboth.1 hboth.2⟩

theorem validateRandomness_ok : validateRandomness h config = .ok () ↔
    (config.oracleAddress ≠ none ↔ config.randomnessSource = .external) ∧
      (∀ quorum, config.randomnessSource = .quorum quorum →
        quorum.k ≠ 0 ∧ quorum.k ≤ quorum.oracles.length ∧ quorum.oracles.length ≤ 10) ∧
      ¬NamesInstance h.self config := by
  unfold NamesInstance
  cases hsource : config.randomnessSource with
  | internal => simp [validateRandomness, validateQuorum, hsource]
  | commitReveal => simp [validateRandomness, validateQuorum, hsource]
  | external =>
    cases horacle : config.oracleAddress <;>
      simp [validateRandomness, validateQuorum, hsource, horacle]
  | quorum quorum =>
    simp only [validateRandomness, validateQuorum, hsource, except_bind_ok, ensure_ok,
      exists_const, reduceCtorEq, false_and, false_or, RandomnessSource.quorum.injEq,
      exists_eq_left', forall_eq', iff_false, not_not, false_implies, true_and]
    constructor
    · rintro ⟨⟨⟨hpos, hle⟩, hten, hself, hnone⟩, -⟩
      exact ⟨hnone, ⟨hpos, hle, hten⟩, hself⟩
    · rintro ⟨hnone, ⟨hpos, hle, hten⟩, hself⟩
      exact ⟨⟨⟨hpos, hle⟩, hten, hself, hnone⟩, fun hother => hother.2.2 hnone⟩

theorem validateWindows_ok : validateWindows config
    (config.claimLockupSeconds.getD defaultClaimLockupSeconds)
    (config.claimExpirySeconds.getD defaultClaimExpirySeconds)
    (config.swapDeadlineSeconds.getD defaultSwapDeadlineSeconds) = .ok () ↔
      WindowRules config ∧ config.earlyBirdTicketPercentage ≤ 100 ∧
        (0 < config.earlyBirdTicketPercentage → config.earlyBirdDiscountBp ≤ 10000) := by
  simp only [validateWindows, except_bind_ok, ensure_ok, exists_const, not_and, not_lt]
  constructor
  · rintro ⟨hlockup, hexpiry, horder, hswap, hpercentage, hdiscount⟩
    exact ⟨⟨hlockup, hexpiry, horder, hswap⟩, hpercentage, hdiscount⟩
  · rintro ⟨hrules, hpercentage, hdiscount⟩
    exact ⟨hrules.lockup, hrules.expiry, hrules.order, hrules.swap, hpercentage, hdiscount⟩

def storedRaffle (creator : Address) (config : RaffleConfig) : Raffle :=
  let config := resolveTicketCap config.resolveDefaults
  initialRaffle creator config (config.claimLockupSeconds.getD defaultClaimLockupSeconds)
    (config.claimExpirySeconds.getD defaultClaimExpirySeconds)
    (config.swapDeadlineSeconds.getD defaultSwapDeadlineSeconds)

theorem init_stored {w₀ : World} (hok : init h c w₀ factory admin creator config = .ok w) :
    w.raffle = some (storedRaffle creator config) := by
  simp only [init, except_bind_ok, except_pure_ok, ensure_ok, exists_const] at hok
  obtain ⟨-, _, -, _, -, _, -, -, -, _, -, rfl⟩ := hok
  rfl

theorem windowRules_resolveDefaults (config : RaffleConfig) :
    WindowRules config.resolveDefaults ↔ WindowRules config := by
  constructor
  · rintro ⟨hlockup, hexpiry, horder, hswap⟩
    rw [resolveDefaults_lockup] at hlockup horder
    rw [resolveDefaults_expiry] at hexpiry horder
    rw [resolveDefaults_swap] at hswap
    exact ⟨hlockup, hexpiry, horder, hswap⟩
  · rintro ⟨hlockup, hexpiry, horder, hswap⟩
    rw [← resolveDefaults_lockup] at hlockup horder
    rw [← resolveDefaults_expiry] at hexpiry horder
    rw [← resolveDefaults_swap] at hswap
    exact ⟨hlockup, hexpiry, horder, hswap⟩

/-- The initialiser accepts what meets the shared rules and its own and does not
name the instance. -/
theorem init_ok {w₀ : World} (hnone : w₀.raffle = none) :
    (∃ w, init h c w₀ factory admin creator config = .ok w) ↔
    SharedRules c.timestamp h.tokenValid config ∧ InitRules config ∧
      ¬NamesInstance h.self config := by
  obtain ⟨cap, hcap⟩ := resolveTicketCap_terms config.resolveDefaults
  have hwindows : validateWindows (resolveTicketCap config.resolveDefaults)
      ((resolveTicketCap config.resolveDefaults).claimLockupSeconds.getD defaultClaimLockupSeconds)
      ((resolveTicketCap config.resolveDefaults).claimExpirySeconds.getD defaultClaimExpirySeconds)
      ((resolveTicketCap config.resolveDefaults).swapDeadlineSeconds.getD
        defaultSwapDeadlineSeconds) = .ok () ↔ WindowRules config ∧
      config.earlyBirdTicketPercentage ≤ 100 ∧
        (0 < config.earlyBirdTicketPercentage → config.earlyBirdDiscountBp ≤ 10000) := by
    have hsame : WindowRules (resolveTicketCap config.resolveDefaults) ↔ WindowRules config := by
      rw [hcap, ← windowRules_resolveDefaults config]
      exact ⟨fun hw => ⟨hw.lockup, hw.expiry, hw.order, hw.swap⟩,
        fun hw => ⟨hw.lockup, hw.expiry, hw.order, hw.swap⟩⟩
    rw [validateWindows_ok, hsame, hcap]
    rfl
  simp only [init, except_bind_ok, ensure_ok, except_pure_ok, exists_const]
  constructor
  · rintro ⟨_, -, _, hsupply, _, hprize, _, hrandomness, hmetadata, htoken, _, hwindow, -⟩
    obtain ⟨hprices, hinternal, htiers⟩ := validatePrize_ok.mp hprize
    obtain ⟨horacle, hquorum, hnames⟩ := validateRandomness_ok.mp hrandomness
    obtain ⟨hrules, hpercentage, hdiscount⟩ := hwindows.mp hwindow
    exact ⟨⟨validateSupply_ok.mp hsupply, hprices, horacle, hmetadata, htoken, hrules⟩,
      ⟨hinternal, htiers, hquorum, hpercentage, hdiscount⟩, hnames⟩
  · rintro ⟨hshared, hown, hnames⟩
    exact ⟨_, by rw [hnone]; rfl, (), validateSupply_ok.mpr hshared.limits, (),
      validatePrize_ok.mpr ⟨hshared.prices, hown.cap, hown.tiers⟩, (),
      validateRandomness_ok.mpr ⟨hshared.oracle, hown.quorum, hnames⟩, hshared.metadata,
      hshared.token, (), hwindows.mpr ⟨hshared.windows, hown.percentage, hown.discount⟩, rfl⟩

structure StoredAs (config : RaffleConfig) (r : Raffle) : Prop where
  maxTickets : r.maxTickets = config.maxTickets
  perTx : r.maxTicketsPerTx = config.maxTicketsPerTx
  perAddress : r.maxTicketsPerAddress = config.maxTicketsPerAddress
  lockup : config.claimLockupSeconds = some r.claimLockupSeconds
  expiry : config.claimExpirySeconds = some r.claimExpirySeconds
  swap : config.swapDeadlineSeconds = some r.swapDeadlineSeconds

/-- Both validators accept the configuration or both refuse it, unless an
oracle of it is the instance; and what both accept is stored as normalised. -/
def ValidatorsAgree (h : Host) (c : Ctx) (holdings : Address → Address → Nat)
    (factory admin creator : Address) (config : RaffleConfig) : Prop :=
  (NamesInstance h.self config ∨
    (((RaffleConfigBuilder.fromConfig config).build c.timestamp h.tokenValid).isOk = true ↔
      (init h c (World.deployed holdings) factory admin creator config).isOk = true)) ∧
  ∀ normal w, (RaffleConfigBuilder.fromConfig config).build c.timestamp h.tokenValid = .ok normal →
    init h c (World.deployed holdings) factory admin creator config = .ok w →
    ∃ r, w.raffle = some r ∧ StoredAs normal r

theorem storedAs_normal (creator : Address) (config : RaffleConfig) :
    StoredAs config.normalizeCap.resolveDefaults (storedRaffle creator config) := by
  have hsome {α : Type} (value : Option α) (d : α) : value.or (some d) =
      some ((value.or (some d)).getD d) := by
    cases value <;> rfl
  by_cases hmissing : config.maxTicketsPerAddress = 0 ∧ config.allowMultiple = false
  · have hlegacy : config.resolveDefaults.allowMultiple = false ∧
        config.resolveDefaults.maxTicketsPerAddress = 0 := hmissing.symm
    simp only [storedRaffle, resolveTicketCap, if_pos hlegacy, RaffleConfig.normalizeCap,
      if_pos hmissing]
    exact ⟨rfl, rfl, rfl, hsome .., hsome .., hsome ..⟩
  · have hlegacy : ¬(config.resolveDefaults.allowMultiple = false ∧
        config.resolveDefaults.maxTicketsPerAddress = 0) := fun hboth => hmissing hboth.symm
    simp only [storedRaffle, resolveTicketCap, if_neg hlegacy, RaffleConfig.normalizeCap,
      if_neg hmissing]
    exact ⟨rfl, rfl, rfl, hsome .., hsome .., hsome ..⟩

/-- The validators agree on a configuration exactly when, as far as the shared
rules let it through, the rules of each are met together. -/
theorem validatorsAgree_iff (h : Host) (c : Ctx) (holdings : Address → Address → Nat)
    (factory admin creator : Address) (config : RaffleConfig) :
    ValidatorsAgree h c holdings factory admin creator config ↔
      NamesInstance h.self config ∨ (SharedRules c.timestamp h.tokenValid config →
        (BuilderRules config ↔ InitRules config)) := by
  have hbuilt : ((RaffleConfigBuilder.fromConfig config).build c.timestamp
      h.tokenValid).isOk = true ↔ SharedRules c.timestamp h.tokenValid config ∧
        BuilderRules config := by
    rw [except_isOk_iff]
    simp only [build_ok, exists_and_left, exists_eq, and_true]
  have hstored : ∀ normal w,
      (RaffleConfigBuilder.fromConfig config).build c.timestamp h.tokenValid = .ok normal →
      init h c (World.deployed holdings) factory admin creator config = .ok w →
      ∃ r, w.raffle = some r ∧ StoredAs normal r := by
    intro normal w hbuild hinit
    obtain ⟨-, rfl⟩ := build_ok.mp hbuild
    exact ⟨storedRaffle creator config, init_stored hinit, storedAs_normal creator config⟩
  rw [ValidatorsAgree, and_iff_left hstored, hbuilt, except_isOk_iff, init_ok rfl]
  by_cases hnames : NamesInstance h.self config
  · simp only [hnames, true_or]
  · simp only [hnames, false_or, not_false_eq_true, and_true]
    tauto

def wideWindow : RaffleConfig := { Sample.config with earlyBirdTicketPercentage := 101 }

def blankCategory : RaffleConfig := { Sample.config with category := some [] }

/-- The builder lets a window through that the initialiser stops, and stops a
category that the initialiser lets through. -/
theorem validators_differ :
    ¬ValidatorsAgree (Sample.host .ifElse) (Sample.ctx 0 0 []) Sample.holdings Sample.factory
      Sample.admin Sample.creator wideWindow ∧
    ¬ValidatorsAgree (Sample.host .ifElse) (Sample.ctx 0 0 []) Sample.holdings Sample.factory
      Sample.admin Sample.creator blankCategory := by
  constructor
  · rintro ⟨hnames | hagree, -⟩
    · rcases hnames with ⟨hsource, -⟩ | ⟨quorum, hsource, -⟩ <;> cases hsource
    · exact absurd (hagree.mp (by decide +kernel)) (by decide +kernel)
  · rintro ⟨hnames | hagree, -⟩
    · rcases hnames with ⟨hsource, -⟩ | ⟨quorum, hsource, -⟩ <;> cases hsource
    · exact absurd (hagree.mpr (by decide +kernel)) (by decide +kernel)

end TikkaRaffle.Properties
