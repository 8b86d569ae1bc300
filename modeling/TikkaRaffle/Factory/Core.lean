import TikkaRaffle.Factory.Entry

/-! The core of the factory: its configuration, its pauses, its registry and its
schedules, each with the changes that can be made to it. The rest of the storage
is bookkeeping that none of them depends on. -/
namespace TikkaRaffle.Factory

open TikkaRaffle.Lib TikkaRaffle.Instance Constants Function

structure Governance where
  initialized : Option Bool
  admin : Option Address
  pendingAdmin : Option Address
  treasury : Option Address
  protocolFeeBp : Option Nat
  instanceWasmHash : Option Digest
  pendingOp : Nat → Option PendingOp
  opCounter : Option Nat

structure Pauses where
  paused : Option Bool
  creationPaused : Option Bool
  globalEmergencyPause : Option Bool
deriving DecidableEq

structure Registry where
  raffleById : Nat → Option Address
  nextRaffleId : Option Nat
  raffleCount : Option Nat
  totalRafflesCreated : Option Nat
  isFactoryRaffle : Address → Option Bool
  validRaffle : Address → Option Bool
  creatorRaffles : Address → Option (List Address)
  categoryRaffles : Bytes → Option (List Address)
  raffleCreator : Nat → Option Address
  raffleCategory : Nat → Option Bytes

structure Schedules where
  recurringRaffle : Nat → Option RecurringRaffleEntry
  nextRecurringId : Option Nat

structure Core where
  governance : Governance
  pauses : Pauses
  registry : Registry
  schedules : Schedules

def State.core (s : State) : Core where
  governance := ⟨s.initialized, s.admin, s.pendingAdmin, s.treasury, s.protocolFeeBp,
    s.instanceWasmHash, s.pendingOp, s.opCounter⟩
  pauses := ⟨s.paused, s.creationPaused, s.globalEmergencyPause⟩
  registry := ⟨s.raffleById, s.nextRaffleId, s.raffleCount, s.totalRafflesCreated,
    s.isFactoryRaffle, s.validRaffle, s.creatorRaffles, s.categoryRaffles, s.raffleCreator,
    s.raffleCategory⟩
  schedules := ⟨s.recurringRaffle, s.nextRecurringId⟩

namespace Governance

def initial (admin : Address) (wasmHash : Digest) (protocolFeeBp : Nat) (treasury : Address) :
    Governance where
  initialized := some true
  admin := some admin
  pendingAdmin := none
  treasury := some treasury
  protocolFeeBp := some protocolFeeBp
  instanceWasmHash := some wasmHash
  pendingOp := fun _ => none
  opCounter := none

def nextOp (g : Governance) : Nat := Factory.saturateU32 (g.opCounter.getD 0 + 1)

def propose (g : Governance) (op : AdminOp) (effectiveTimestamp : Nat) (admin : Address) :
    Governance :=
  { g with
    opCounter := some g.nextOp
    pendingOp := update g.pendingOp g.nextOp (some ⟨op, effectiveTimestamp, admin⟩) }

def closeOp (g : Governance) (opId : Nat) : Governance :=
  { g with pendingOp := update g.pendingOp opId none }

def apply (g : Governance) : AdminOp → Governance
  | .setConfig .treasury address => { g with treasury := some address }
  | .setProtocolFeeBp protocolFeeBp => { g with protocolFeeBp := some protocolFeeBp }
  | .updateWasmHash newHash => { g with instanceWasmHash := some newHash }
  | _ => g

end Governance

namespace Registry

def index (k : Registry) (raffle creator : Address) (category : Option Bytes) : Registry :=
  let stableId := k.nextRaffleId.getD 0
  { k with
    raffleById := update k.raffleById stableId (some raffle)
    isFactoryRaffle := update k.isFactoryRaffle raffle (some true)
    nextRaffleId := some (Factory.saturateU32 (stableId + 1))
    validRaffle := update k.validRaffle raffle (some true)
    creatorRaffles := update k.creatorRaffles creator
      (some ((k.creatorRaffles creator).getD [] ++ [raffle]))
    categoryRaffles := match category with
      | some category => update k.categoryRaffles category
          (some ((k.categoryRaffles category).getD [] ++ [raffle]))
      | none => k.categoryRaffles
    raffleCount := some (Factory.saturateU32 (k.raffleCount.getD 0 + 1))
    totalRafflesCreated := some (k.totalRafflesCreated.getD 0 + 1) }

def unindex (k : Registry) (raffleId : Nat) (raffle creator : Address)
    (category : Option Bytes) : Registry :=
  { k with
    raffleById := update k.raffleById raffleId none
    raffleCreator := update k.raffleCreator raffleId none
    raffleCategory := if category.isSome then update k.raffleCategory raffleId none
      else k.raffleCategory
    creatorRaffles := update k.creatorRaffles creator (prune (k.creatorRaffles creator) raffle)
    categoryRaffles := match category with
      | some category =>
          update k.categoryRaffles category (prune (k.categoryRaffles category) raffle)
      | none => k.categoryRaffles
    raffleCount := some (k.raffleCount.getD 0 - 1) }

end Registry

def Schedules.store (k : Schedules) (recurringId : Nat) (entry : RecurringRaffleEntry) :
    Schedules :=
  { k with recurringRaffle := update k.recurringRaffle recurringId (some entry) }

theorem Schedules.found_cases {k : Schedules} {id recurringId : Nat}
    {stored entry : RecurringRaffleEntry}
    (hfound : (k.store recurringId stored).recurringRaffle id = some entry) :
    id = recurringId ∧ entry = stored ∨ k.recurringRaffle id = some entry := by
  simp only [store] at hfound
  by_cases hid : id = recurringId
  · rw [hid, update_self, Option.some.injEq] at hfound
    exact .inl ⟨hid, hfound.symm⟩
  · rw [update_of_ne hid] at hfound
    exact .inr hfound

theorem Initialised.core {h : Host} {net : Net} {raffleCreator : Nat → Option Address}
    {raffleCategory : Nat → Option Bytes}
    (hinit : Initialised h raffleCreator raffleCategory net) :
    ∃ admin wasmHash protocolFeeBp treasury, protocolFeeBp ≤ maxProtocolFeeBp ∧
      net.factory.core = { (State.deployed raffleCreator raffleCategory).core with
        governance := .initial admin wasmHash protocolFeeBp treasury } ∧
      ∀ a, net.raffle a = none := by
  obtain ⟨c, holdings, admin, wasmHash, protocolFeeBp, treasury, s, hok, rfl⟩ := hinit
  simp only [initFactory, except_bind_ok, Factory.ensure_ok, except_pure_ok] at hok
  obtain ⟨_, -, _, hfee, _, -, _, -, rfl⟩ := hok
  exact ⟨admin, wasmHash, protocolFeeBp, treasury, hfee, rfl, fun _ => rfl⟩

def AdminSigned (h : Host) (c : Ctx) (s : State) (admin : Address) : Prop :=
  s.admin = some admin ∧ admin ∈ c.auths ∧ admin ≠ h.self

section Guards

variable {h : Host} {c : Ctx} {s s' : State}

@[simp] theorem requireAdmin_ok {admin : Address} :
    requireAdmin h c s = .ok admin ↔ AdminSigned h c s admin := by
  simp [requireAdmin, AdminSigned, and_assoc]

@[simp] theorem maybeCreateCheckpoint_core {count : Nat} :
    (maybeCreateCheckpoint h c s count).core = s.core := by
  unfold maybeCreateCheckpoint
  split <;> rfl

theorem limitCreation_core {creator : Address} (hok : limitCreation c s creator = .ok s') :
    s'.core = s.core := by
  unfold limitCreation at hok
  split at hok
  next =>
    cases hok
    rfl
  next =>
    simp only [except_bind_ok, except_pure_ok] at hok
    obtain ⟨_, -, _, -, rfl⟩ := hok
    rfl

def State.answered (s : State) : FactoryCall → State
  | .recordVolume asset amount =>
      { s with
        totalVolumePerAsset := update s.totalVolumePerAsset asset
          (some ((s.totalVolumePerAsset asset).getD 0 + amount)) }
  | .trackParticipant participant =>
      if (s.uniqueParticipant participant).isNone then
        { s with
          uniqueParticipant := update s.uniqueParticipant participant (some true)
          totalUniqueParticipants := some (s.totalUniqueParticipants.getD 0 + 1) }
      else s
  | .recordLeaderboardEntry raffle ticketsSold prizeAmount totalVolume =>
      { s with
        topByTickets := upsertLeaderboard s.topByTickets raffle ticketsSold
        topByPrize := upsertLeaderboard s.topByPrize raffle prizeAmount
        topByVolume := upsertLeaderboard s.topByVolume raffle totalVolume }

theorem answer_writes {caller : Address} {notice : FactoryCall}
    (hok : answer h c caller s notice = .ok s') : s' = s.answered notice := by
  cases notice with
  | recordVolume asset amount =>
    simp only [answer, Factory.recordVolume, except_bind_ok, except_pure_ok] at hok
    obtain ⟨_, -, _, -, rfl⟩ := hok
    rfl
  | trackParticipant participant =>
    simp only [answer, Factory.trackParticipant, except_bind_ok] at hok
    obtain ⟨_, -, _, -, hok⟩ := hok
    simp only [State.answered]
    split at hok
    next hnew =>
      simp only [except_bind_ok, Factory.trapU32_ok, except_pure_ok] at hok
      obtain ⟨_, ⟨-, rfl⟩, rfl⟩ := hok
      exact (if_pos hnew).symm
    next hold =>
      cases hok
      exact (if_neg hold).symm
  | recordLeaderboardEntry raffle ticketsSold prizeAmount totalVolume =>
    simp only [answer, Factory.recordLeaderboardEntry, except_bind_ok, except_pure_ok] at hok
    obtain ⟨_, -, _, -, _, -, rfl⟩ := hok
    rfl

theorem answer_core {caller : Address} {notice : FactoryCall}
    (hok : answer h c caller s notice = .ok s') : s'.core = s.core := by
  rw [answer_writes hok]
  cases notice with
  | recordVolume | recordLeaderboardEntry => rfl
  | trackParticipant =>
    simp only [State.answered]
    split <;> rfl

/-- What the answers do to a part of the factory, one after the other. -/
theorem answerAll_reads {β : Type} (part : State → β) (answered : β → FactoryCall → β)
    {caller : Address} (hone : ∀ {s s' : State} {notice : FactoryCall},
      answer h c caller s notice = .ok s' → part s' = answered (part s) notice)
    {notices : List FactoryCall} (hok : answerAll h c caller s notices = .ok s') :
    part s' = notices.foldl answered (part s) := by
  induction notices generalizing s with
  | nil =>
    cases hok
    rfl
  | cons notice rest ih =>
    simp only [answerAll, List.foldlM_cons, except_bind_ok] at hok
    obtain ⟨s₁, hfirst, hrest⟩ := hok
    rw [ih hrest, hone hfirst, List.foldl_cons]

theorem answerAll_core {caller : Address} {notices : List FactoryCall}
    (hok : answerAll h c caller s notices = .ok s') : s'.core = s.core := by
  have hreads := answerAll_reads State.core (fun core _ => core) answer_core hok
  rwa [List.foldl_fixed] at hreads

end Guards

end TikkaRaffle.Factory
