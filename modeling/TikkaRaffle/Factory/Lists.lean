import TikkaRaffle.Factory.Tallies
import TikkaRaffle.Lib.Membership

/-! The partner list and the leaderboards as functions of what was entered into
them. Whitelist changes and leaderboard reports make entries, no other call does. -/
namespace TikkaRaffle.Factory

open TikkaRaffle.Lib TikkaRaffle.Instance Function

inductive ListEntry where
  | whitelisted (partner : Address) (status : Bool)
  | ranked (raffle : Address) (ticketsSold prizeAmount totalVolume : Int)
deriving DecidableEq, Repr

inductive LeaderboardMetric where
  | ticketsSold | prizeAmount | totalVolume
deriving DecidableEq, Repr

def ListEntry.rank (metric : LeaderboardMetric) : ListEntry → Option (Address × Int)
  | .whitelisted .. => none
  | .ranked raffle ticketsSold prizeAmount totalVolume =>
      some (raffle, match metric with
        | .ticketsSold => ticketsSold
        | .prizeAmount => prizeAmount
        | .totalVolume => totalVolume)

def ListEntry.change : ListEntry → Option (Address × Bool)
  | .whitelisted partner status => some (partner, status)
  | .ranked .. => none

def setFlag (flags : Address → Option Bool) (change : Address × Bool) : Address → Option Bool :=
  update flags change.1 (some change.2)

namespace Lists

def empty : Lists := ⟨fun _ => none, none, none, none, none⟩

/-- The partners after a change of status; absence and the empty list differ. -/
def listPartner (partners : Option (List Address)) (partner : Address) (status : Bool) :
    Option (List Address) :=
  if status then
    if partner ∈ partners.getD [] then partners else some (partners.getD [] ++ [partner])
  else if partner ∈ partners.getD [] then some ((partners.getD []).erase partner)
  else partners

def enter (k : Lists) : ListEntry → Lists
  | .whitelisted partner status =>
      { k with
        whitelistedPartner := update k.whitelistedPartner partner (some status)
        partnersList := listPartner k.partnersList partner status }
  | .ranked raffle ticketsSold prizeAmount totalVolume =>
      { k with
        topByTickets := upsertLeaderboard k.topByTickets raffle ticketsSold
        topByPrize := upsertLeaderboard k.topByPrize raffle prizeAmount
        topByVolume := upsertLeaderboard k.topByVolume raffle totalVolume }

def board (k : Lists) : LeaderboardMetric → Option (List (Address × Int))
  | .ticketsSold => k.topByTickets
  | .prizeAmount => k.topByPrize
  | .totalVolume => k.topByVolume

theorem enter_board (k : Lists) (entry : ListEntry) (metric : LeaderboardMetric) :
    (k.enter entry).board metric =
      (entry.rank metric).toList.foldl (fun board e => upsertLeaderboard board e.1 e.2)
        (k.board metric) := by
  cases entry <;> cases metric <;> rfl

theorem foldl_enter_board (entries : List ListEntry) (k : Lists) (metric : LeaderboardMetric) :
    (entries.foldl enter k).board metric =
      (entries.filterMap (ListEntry.rank metric)).foldl
        (fun board e => upsertLeaderboard board e.1 e.2) (k.board metric) := by
  induction entries generalizing k with
  | nil => rfl
  | cons entry rest ih =>
    rw [List.foldl_cons, ih, enter_board]
    cases hrank : entry.rank metric <;> simp [hrank]

theorem enter_partners (k : Lists) (entry : ListEntry) :
    ((k.enter entry).partnersList.getD [] =
        entry.change.toList.foldl toggle (k.partnersList.getD [])) ∧
      (k.enter entry).whitelistedPartner =
        entry.change.toList.foldl setFlag k.whitelistedPartner := by
  cases entry with
  | ranked => exact ⟨rfl, rfl⟩
  | whitelisted partner status =>
    refine ⟨?_, rfl⟩
    simp only [enter, listPartner, ListEntry.change, Option.toList_some, List.foldl_cons,
      List.foldl_nil, toggle]
    cases status <;> by_cases hmem : partner ∈ k.partnersList.getD [] <;> simp [hmem]

theorem foldl_enter_partners (entries : List ListEntry) (k : Lists) :
    ((entries.foldl enter k).partnersList.getD [] =
        (entries.filterMap ListEntry.change).foldl toggle (k.partnersList.getD [])) ∧
      (entries.foldl enter k).whitelistedPartner =
        (entries.filterMap ListEntry.change).foldl setFlag k.whitelistedPartner := by
  induction entries generalizing k with
  | nil => exact ⟨rfl, rfl⟩
  | cons entry rest ih =>
    obtain ⟨hlist, hflags⟩ := enter_partners k entry
    rw [List.foldl_cons, (ih _).1, (ih _).2, hlist, hflags]
    cases hchange : entry.change <;> simp [hchange]

end Lists

def getLeaderboard (s : State) (metric : LeaderboardMetric) : List (Address × Int) :=
  (match metric with
    | .ticketsSold => s.topByTickets
    | .prizeAmount => s.topByPrize
    | .totalVolume => s.topByVolume).getD []

theorem getLeaderboard_eq (s : State) (metric : LeaderboardMetric) :
    getLeaderboard s metric = (s.lists.board metric).getD [] := by
  cases metric <;> rfl

def entryOf : FactoryCall → Option ListEntry
  | .recordLeaderboardEntry raffle ticketsSold prizeAmount totalVolume =>
      some (.ranked raffle ticketsSold prizeAmount totalVolume)
  | _ => none

def listEntries (net : Net) (i : Invocation) (net' : Net) : List ListEntry :=
  match i.call with
  | .setWhitelistStatus partner status => [.whitelisted partner status]
  | _ => (noticesOf net i.call net').filterMap entryOf

section Calls

variable {h : Host} {c : Ctx} {s s' : State} {net net' : Net}

theorem setWhitelistStatus_lists {partner : Address} {status : Bool}
    (hok : setWhitelistStatus h c s partner status = .ok s') :
    s'.lists = s.lists.enter (.whitelisted partner status) := by
  simp only [setWhitelistStatus, except_bind_ok] at hok
  obtain ⟨_, -, hok⟩ := hok
  unfold Lists.enter Lists.listPartner
  cases status with
  | true =>
    by_cases hmem : partner ∈ s.partnersList.getD []
    · rw [if_pos rfl, if_pos hmem] at hok
      cases hok
      simp [State.lists, hmem]
    · rw [if_pos rfl, if_neg hmem] at hok
      cases hok
      simp [State.lists, hmem]
  | false =>
    by_cases hmem : partner ∈ s.partnersList.getD []
    · rw [if_neg Bool.false_ne_true, if_pos hmem] at hok
      cases hok
      simp [State.lists, hmem]
    · rw [if_neg Bool.false_ne_true, if_neg hmem] at hok
      cases hok
      simp [State.lists, hmem]

theorem recordLeaderboardEntry_lists {caller raffle : Address}
    {ticketsSold prizeAmount totalVolume : Int}
    (hok : recordLeaderboardEntry h c s caller raffle ticketsSold prizeAmount totalVolume =
      .ok s') :
    s'.lists = s.lists.enter (.ranked raffle ticketsSold prizeAmount totalVolume) := by
  simp only [recordLeaderboardEntry, except_bind_ok, except_pure_ok] at hok
  obtain ⟨_, -, _, -, _, -, rfl⟩ := hok
  rfl

theorem answer_lists {caller : Address} {notice : FactoryCall}
    (hok : answer h c caller s notice = .ok s') :
    s'.lists = (entryOf notice).toList.foldl Lists.enter s.lists := by
  rw [answer_writes hok]
  cases notice with
  | recordVolume | recordLeaderboardEntry => rfl
  | trackParticipant =>
    simp only [State.answered]
    split <;> rfl

theorem foldl_entries (notices : List FactoryCall) (k : Lists) :
    (notices.filterMap entryOf).foldl Lists.enter k =
      notices.foldl (fun k notice => (entryOf notice).toList.foldl Lists.enter k) k := by
  induction notices generalizing k with
  | nil => rfl
  | cons notice rest ih =>
    rw [List.foldl_cons, ← ih, List.filterMap_cons]
    cases entryOf notice <;> rfl

theorem invoke_lists {i : Invocation} (hok : invoke h i net = .ok net') :
    net'.factory.lists = (listEntries net i net').foldl Lists.enter net.factory.lists := by
  obtain ⟨c, call⟩ := i
  unfold listEntries
  cases call with
  | setWhitelistStatus partner status =>
    simp only [invoke, invokeSigned, except_map_ok] at hok
    obtain ⟨s', hstatus, rfl⟩ := hok
    exact setWhitelistStatus_lists hstatus
  | raffle | report =>
    rw [foldl_entries]
    exact invokeSigned_reads State.lists _ answer_lists rfl hok
  | _ => exact invokeSigned_lists rfl hok

theorem lists_of_run {raffleCreator : Nat → Option Address}
    {raffleCategory : Nat → Option Bytes}
    (hinit : Initialised h raffleCreator raffleCategory net) (calls : List Invocation) :
    ((machine h).run net calls).factory.lists =
      ((machine h).journal listEntries net calls).foldl Lists.enter .empty := by
  have hstep (log : List ListEntry) (net : Net) (i : Invocation) (net' : Net)
      (hlists : net.factory.lists = log.foldl Lists.enter .empty)
      (hok : (machine h).step i net = .ok net') :
      net'.factory.lists = (log ++ listEntries net i net').foldl Lists.enter .empty := by
    rw [invoke_lists hok, hlists, List.foldl_append]
  have hstart : net.factory.lists = ([] : List ListEntry).foldl Lists.enter .empty := hinit.lists
  exact Machine.journal_of_step
    (fun log (net : Net) => net.factory.lists = log.foldl Lists.enter .empty) hstep hstart calls

end Calls

structure ListCall where
  ctx : Ctx
  /-- The contract that reports; a change of the whitelist needs none. -/
  caller : Address
  entry : ListEntry

def listCall (h : Host) (call : ListCall) (s : State) : Result State :=
  match call.entry with
  | .whitelisted partner status => setWhitelistStatus h call.ctx s partner status
  | .ranked raffle ticketsSold prizeAmount totalVolume =>
      recordLeaderboardEntry h call.ctx s call.caller raffle ticketsSold prizeAmount totalVolume

def listMachine (h : Host) : Machine State ListCall Abort := ⟨listCall h⟩

theorem listCall_lists {h : Host} {call : ListCall} {s s' : State}
    (hok : listCall h call s = .ok s') : s'.lists = s.lists.enter call.entry := by
  unfold listCall at hok
  cases hentry : call.entry with
  | whitelisted partner status =>
    rw [hentry] at hok
    exact setWhitelistStatus_lists hok
  | ranked raffle ticketsSold prizeAmount totalVolume =>
    rw [hentry] at hok
    exact recordLeaderboardEntry_lists hok

theorem lists_of_calls {h : Host} (s : State) (calls : List ListCall) :
    ((listMachine h).run s calls).lists =
      (((listMachine h).committed s calls).map (·.entry)).foldl Lists.enter s.lists := by
  induction calls generalizing s with
  | nil => rfl
  | cons call rest ih =>
    cases hc : (listMachine h).step call s with
    | error e =>
      rw [Machine.run_cons, (listMachine h).exec_error hc, Machine.committed_error hc, ih]
    | ok t =>
      rw [Machine.run_cons, (listMachine h).exec_ok hc, Machine.committed_ok hc, ih,
        List.map_cons, List.foldl_cons, listCall_lists hc]

end TikkaRaffle.Factory
