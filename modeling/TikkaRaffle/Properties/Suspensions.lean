import TikkaRaffle.Escrow.Suspension
import TikkaRaffle.Properties.Appointments
import TikkaRaffle.Properties.Income
import TikkaRaffle.Properties.Pauses

/-! Sales under a pause. Tickets are sold under none of the three pauses: that of the
whole system, that of one contract and that of its ticket sales. -/
namespace TikkaRaffle.Properties

open TikkaRaffle.Lib TikkaRaffle.Factory

section Raffle

open TikkaRaffle.Instance TikkaRaffle.Escrow

variable {h : Instance.Host} {w w' v v' : World} {r r' : Raffle} {i : Instance.Invocation}

def salesOf (w : World) : Nat × (Address → Int) :=
  ((w.raffle.map (·.ticketsSold)).getD 0, fun asset => ticketIncome asset w.transfers)

theorem order_selling (hr : w.raffle = some r) (horder : orderOf i.call ≠ none)
    (hok : Instance.invoke h i w = .ok w') : Selling i.ctx w r := by
  obtain ⟨c, call⟩ := i
  cases call with
  | buyTickets buyer quantity =>
    obtain ⟨⟨_, n⟩, hcall, rfl⟩ := except_map_ok.mp hok
    exact buyTickets_selling hr hcall
  | buyTicketsFor buyer recipient quantity =>
    obtain ⟨⟨_, n⟩, hcall, rfl⟩ := except_map_ok.mp hok
    exact buyTicketsFor_selling hr hcall
  | _ => exact absurd rfl horder

theorem salesOf_quiet (hw : Holds h Lifecycle w) (horder : orderOf i.call = none)
    (hok : Instance.invoke h i w = .ok w') : salesOf w' = salesOf w := by
  obtain ⟨r, r', acts, hr, hr', -, hyields, hpath⟩ := committed_path hw hok
  have hacts := yields_no_sale hyields horder
  have hsold : r'.ticketsSold = r.ticketsSold := sold_same_path hpath hacts
  have hincome (asset : Address) :
      ticketIncome asset w'.transfers = ticketIncome asset w.transfers :=
    hpath.preserves (fun b => ticketIncome asset b.transfers = ticketIncome asset w.transfers)
      (fun a => ∀ order, a ≠ .buy order)
      (fun _ _ _ ha hsame hm => (Move.income_same hm ha asset).trans hsame) hacts rfl
  simp only [salesOf, hr, hr', hsold, hincome, Option.map_some]

theorem salesOf_step (hw : Holds h Lifecycle w) (hok : Instance.invoke h i w = .ok w') :
    salesOf w' = salesOf w ∨ ∃ r, w.raffle = some r ∧ Selling i.ctx w r := by
  cases horder : orderOf i.call with
  | none => exact .inl (salesOf_quiet hw horder hok)
  | some order =>
    obtain ⟨r, hr, -⟩ := hw
    exact .inr ⟨r, hr, order_selling hr (Option.ne_none_iff_exists'.mpr ⟨order, horder⟩) hok⟩

/-- No ticket will be sold: the switch is on or the raffle is over. -/
def Shut (switch : Switch) (w : World) : Prop :=
  switch.isOn w = true ∨ StatusIn (·.isTerminal = true) w

theorem isTerminal_closed (s t : RaffleStatus) (hs : s.isTerminal = true) (hst : allowed s t) :
    t.isTerminal = true := by
  rw [allowed, RaffleStatus.isTerminal_stuck hs] at hst
  cases hst

theorem Shut.unsold {switch : Switch} {c : Instance.Ctx} (hs : Shut switch w)
    (hr : w.raffle = some r) : ¬Selling c w r := by
  intro hselling
  rcases hs with hon | hover
  · rw [hselling.off hr] at hon
    cases hon
  · have hterminal := hover.stored hr
    rw [hselling.active] at hterminal
    cases hterminal

/-- A wiped raffle is over, so it stays shut without its switches. -/
theorem Shut.step {switch : Switch} (hw : Holds h Lifecycle w) (hs : Shut switch w)
    (hkept : switch.releasedBy i.call = false) (hok : Instance.invoke h i w = .ok w') :
    Shut switch w' := by
  rcases hs with hon | hover
  · by_cases hwipe : i.call = .wipeStorage
    · obtain ⟨r, hr, -⟩ := id hw
      obtain ⟨c, call⟩ := i
      subst hwipe
      have hstep := hok
      simp only [Instance.invoke, wipeStorage, except_bind_ok, readRaffle_ok, hr,
        Option.some.injEq, exists_eq_left', Instance.ensure_ok, exists_const] at hok
      obtain ⟨_, -, _, -, hstatus, -⟩ := hok
      have hterminal : r.status.isTerminal = true :=
        RaffleStatus.isTerminal_iff.mpr (by tauto)
      exact .inr (StatusIn.step isTerminal_closed hw ⟨r, hr, hterminal⟩ hstep)
    · exact .inl (isOn_step hw hon hkept hwipe hok)
  · exact .inr (hover.step isTerminal_closed hw hok)

theorem salesOf_initialised (hinit : Instance.Initialised h w) : salesOf w = (0, fun _ => 0) := by
  obtain ⟨r, hr, hfresh⟩ := initialised_fresh hinit
  have htransfers : w.transfers = [] := hfresh.transfers
  have hunsold : r.ticketsSold = 0 := hfresh.unsold
  rw [salesOf, hr, htransfers, Option.map_some, hunsold]
  rfl

theorem salesOf_alike (halike : Alike w v) : salesOf w = salesOf v := by
  rw [salesOf, salesOf, halike.raffle]
  exact congrArg (Prod.mk _) (funext (ticketIncome_alike halike))

theorem isOn_alike {switch : Switch} (halike : Alike w v) : switch.isOn w = switch.isOn v := by
  rw [halike.fields]
  cases switch <;> rfl

theorem Shut.alike {switch : Switch} (halike : Alike w v) (hs : Shut switch w) :
    Shut switch v := by
  rcases hs with hon | ⟨r, hr, hterminal⟩
  · exact .inl ((isOn_alike halike).symm.trans hon)
  · exact .inr ⟨r, halike.raffle.symm.trans hr, hterminal⟩

end Raffle

variable {h : Host} {net net' : Net} {x : Address} {i : Invocation}

/-- A pause of the whole system, or a switch of one raffle. -/
inductive SalesPause where
  | emergency
  | raffle (x : Address) (switch : Escrow.Switch)
deriving DecidableEq

namespace SalesPause

def covers : SalesPause → Address → Prop
  | .emergency, _ => True
  | .raffle y _, x => y = x

def isSet (net : Net) : SalesPause → Bool
  | .emergency => isGlobalPaused net.factory
  | .raffle x switch => (net.raffle x).any switch.isOn

def releasedBy : SalesPause → Call → Bool
  | .emergency, .emergencyUnpauseAll => true
  | .raffle x .contract, .unpauseInstance target => target = x
  | .raffle x switch, .raffle target call => target = x ∧ switch.releasedBy call = true
  | _, _ => false

end SalesPause

def salesAt (net : Net) (x : Address) : Nat × (Address → Int) :=
  ((net.raffle x).map salesOf).getD (0, fun _ => 0)

theorem salesAt_world {v : Instance.World} (hv : net.world x = some v) :
    salesAt net x = salesOf v := by
  obtain ⟨stored, hstored, rfl⟩ := Option.map_eq_some_iff.mp hv
  rw [salesAt, hstored]
  rfl

theorem salesAt_congr (hsame : net'.raffle x = net.raffle x) : salesAt net' x = salesAt net x := by
  rw [salesAt, salesAt, hsame]

theorem isOn_world {switch : Escrow.Switch} {v : Instance.World} (hv : net.world x = some v) :
    (net.raffle x).any switch.isOn = switch.isOn v := by
  obtain ⟨stored, hstored, rfl⟩ := Option.map_eq_some_iff.mp hv
  rw [hstored]
  cases switch <;> rfl

theorem reached_emergency {target : Address} {received : Instance.Invocation}
    (hreached : reached h net i = some (target, received)) :
    received.ctx.factory.isGlobalPaused = some (isGlobalPaused net.factory) := by
  have hasked := asked_of_reached hreached
  obtain ⟨c, call⟩ := i
  cases call with
  | raffle | pauseInstance | unpauseInstance =>
    cases hasked
    rfl
  | cleanOldRaffle =>
    obtain ⟨_, -, hpair⟩ := Option.map_eq_some_iff.mp hasked
    cases hpair
    rfl
  | _ => cases hasked

/-- A raffle's switch is released by the calls that reach it with its release. -/
theorem reached_release {switch : Escrow.Switch} {received : Instance.Invocation}
    (hreached : reached h net i = some (x, received))
    (hkept : (SalesPause.raffle x switch).releasedBy i.call = false) :
    switch.releasedBy received.call = false := by
  have hasked := asked_of_reached hreached
  obtain ⟨c, call⟩ := i
  cases call with
  | raffle target call =>
    cases hasked
    cases switch <;> simpa [SalesPause.releasedBy] using hkept
  | pauseInstance =>
    cases hasked
    cases switch <;> rfl
  | unpauseInstance =>
    cases hasked
    cases switch with
    | contract => simp [SalesPause.releasedBy] at hkept
    | ticketSales => rfl
  | cleanOldRaffle =>
    obtain ⟨_, -, hpair⟩ := Option.map_eq_some_iff.mp hasked
    cases hpair
    cases switch <;> rfl
  | _ => cases hasked

theorem Genuine.shut {log : List Instance.Invocation} {received : Instance.Invocation}
    {switch : Escrow.Switch} {v v' : Instance.World} (hv : Genuine h x log v)
    (hs : Shut switch v) (hkept : switch.releasedBy received.call = false)
    (hok : Instance.invoke (h.at x) received v = .ok v') : Shut switch v' := by
  obtain ⟨w, hlife, halike⟩ := hv.lawful
  obtain ⟨w', hstep, halike'⟩ := halike.step hok
  have hshut : Shut switch w := hs.alike halike.symm
  exact (hshut.step hlife hkept hstep).alike halike'

theorem Genuine.sold {log : List Instance.Invocation} {received : Instance.Invocation}
    {v v' : Instance.World} (hv : Genuine h x log v)
    (hok : Instance.invoke (h.at x) received v = .ok v') :
    salesOf v' = salesOf v ∨
      ∃ r, v.raffle = some r ∧ Escrow.Selling received.ctx v r := by
  obtain ⟨w, hlife, halike⟩ := hv.lawful
  obtain ⟨w', hstep, halike'⟩ := halike.step hok
  rcases salesOf_step hlife hstep with hsame | ⟨r, hr, hselling⟩
  · exact .inl ((salesOf_alike halike').symm.trans (hsame.trans (salesOf_alike halike)))
  · have hpaused : w.paused = v.paused := by rw [halike.fields]
    exact .inr ⟨r, halike.raffle.symm.trans hr, hselling.active,
      (congrArg (·.getD false) hpaused).symm.trans hselling.unpaused, hselling.salesOpen,
      hselling.systemOpen, hselling.funded, hselling.inTime⟩

/-- Nothing can be sold at the address because of the pause. -/
def Suspended (pause : SalesPause) (net : Net) : Prop :=
  match pause with
  | .emergency => isGlobalPaused net.factory = true
  | .raffle y switch => ∃ v, net.world y = some v ∧ Shut switch v

theorem suspended_of_isSet {pause : SalesPause} (hset : pause.isSet net = true) :
    Suspended pause net := by
  cases pause with
  | emergency => exact hset
  | raffle y switch =>
    cases hstored : net.raffle y with
    | none =>
      rw [SalesPause.isSet, hstored] at hset
      cases hset
    | some stored =>
      have hv : net.world y = some { stored with balance := net.balance } :=
        Option.map_eq_some_iff.mpr ⟨stored, hstored, rfl⟩
      refine ⟨_, hv, .inl ?_⟩
      rw [← isOn_world hv]
      exact hset

theorem suspended_step {pause : SalesPause} (hs : ∀ x, Attached h x net)
    (hsuspended : Suspended pause net) (hkept : pause.releasedBy i.call = false)
    (hok : invoke h i net = .ok net') : Suspended pause net' := by
  cases pause with
  | emergency =>
    have hcleared : PauseFlag.emergency.clearedBy i.call = false := by
      obtain ⟨c, call⟩ := i
      cases call with
      | emergencyUnpauseAll => cases hkept
      | _ => rfl
    have hstill : PauseFlag.emergency.isSet net' = true :=
      isSet_step (invoke_effect hok) hsuspended hcleared
    exact hstill
  | raffle y switch =>
    obtain ⟨v, hv, hshut⟩ := hsuspended
    cases invoke_touchesAt hok y with
    | spared _ hsame =>
      obtain ⟨stored, hstored, rfl⟩ := Option.map_eq_some_iff.mp hv
      refine ⟨_, Option.map_eq_some_iff.mpr ⟨stored, hsame.trans hstored, rfl⟩, ?_⟩
      cases switch <;> exact hshut
    | @ran received w w' hreached hw hrun _ hw' =>
      obtain rfl : v = w := Option.some.inj (hv.symm.trans hw)
      obtain ⟨log, hhosted⟩ := (hs y).hosted
      exact ⟨w', hw', (hhosted.genuine v hv).shut hshut (reached_release hreached hkept) hrun⟩
    | deployed _ hunused =>
      rw [Net.world, unused_raffle hunused] at hv
      cases hv

theorem salesAt_step {pause : SalesPause} (hs : Attached h x net) (hcovers : pause.covers x)
    (hsuspended : Suspended pause net) (hok : invoke h i net = .ok net') :
    salesAt net' x = salesAt net x := by
  cases invoke_touchesAt hok x with
  | spared _ hsame => exact salesAt_congr hsame
  | @ran received w w' hreached hw hrun _ hw' =>
    obtain ⟨log, hhosted⟩ := hs.hosted
    rcases (hhosted.genuine w hw).sold hrun with hsame | ⟨r, hr, hselling⟩
    · rw [salesAt_world hw', salesAt_world hw, hsame]
    · exfalso
      cases pause with
      | emergency =>
        have hopen := hselling.systemOpen
        rw [reached_emergency hreached, Option.some.injEq] at hopen
        exact absurd hsuspended (by rw [Suspended, hopen]; exact Bool.false_ne_true)
      | raffle y switch =>
        obtain rfl : y = x := hcovers
        obtain ⟨v, hv, hshut⟩ := hsuspended
        obtain rfl : v = w := Option.some.inj (hv.symm.trans hw)
        exact hshut.unsold hr hselling
  | @deployed _ _ _ _ w _ hunused _ hinit hraffle hw =>
    obtain ⟨log, hhosted⟩ := hs.hosted
    rw [salesAt_world hw, salesOf_initialised (initialised_deployed hhosted.nonneg hinit), salesAt,
      unused_raffle hunused]
    rfl

/-- In every run of the system, from a state in which a pause is set and as long as no
committed call takes the pause back, the raffles under it sell no ticket and earn nothing. -/
theorem pauses_stop_sales {creators : Nat → Option Address} {categories : Nat → Option Bytes}
    (hinit : Initialised h creators categories net) (pause : SalesPause)
    (first mid : List Invocation) (hset : pause.isSet ((machine h).run net first) = true)
    (hkept : ∀ i ∈ (machine h).committed ((machine h).run net first) mid,
      pause.releasedBy i.call = false)
    (hcovers : pause.covers x) :
    salesAt ((machine h).run net (first ++ mid)) x = salesAt ((machine h).run net first) x := by
  have hattached : ∀ x, Attached h x ((machine h).run net first) := by
    have hall := Machine.always_of_step (m := machine h) (fun net => ∀ x, Attached h x net)
      (fun _ _ _ hs hok x => attached_step (hs x) hok) (fun x => attached_start hinit x) first
    exact hall.last
  have hall := Machine.always_of_each (m := machine h)
    (fun t => (∀ x, Attached h x t) ∧ Suspended pause t ∧
      salesAt t x = salesAt ((machine h).run net first) x)
    (P := fun _ i _ => pause.releasedBy i.call = false)
    (fun t i t' hs hreleased hok => ⟨fun x => attached_step (hs.1 x) hok,
      suspended_step hs.1 hs.2.1 hreleased hok,
      (salesAt_step (hs.1 x) hcovers hs.2.1 hok).trans hs.2.2⟩)
    ⟨hattached, suspended_of_isSet hset, rfl⟩ (Machine.each_call_iff.mpr hkept)
  rw [Machine.run_append]
  exact hall.last.2.2

open Instance.Sample (admin buyer creator) in
def pausedSale : List Invocation :=
  [Sample.signed [creator] 300 (.createRaffle creator Instance.Sample.config),
    Sample.signed [creator] 310 (.raffle Sample.firstRaffle .depositPrize),
    Sample.signed [buyer] 320 (.raffle Sample.firstRaffle (.buyTickets buyer 1)),
    Sample.signed [admin] 330 (.pauseInstance Sample.firstRaffle),
    Sample.signed [buyer] 340 (.raffle Sample.firstRaffle (.buyTickets buyer 1)),
    Sample.signed [admin] 350 (.unpauseInstance Sample.firstRaffle),
    Sample.signed [buyer] 360 (.raffle Sample.firstRaffle (.buyTickets buyer 1))]

/-- The purchase under the pause is refused, the one after it is not. -/
theorem pauses_stop_sales_pausedSale :
    (salesAt (Sample.after pausedSale) Sample.firstRaffle).1 = 2 ∧
    salesAt (Sample.after (pausedSale.take 5)) Sample.firstRaffle =
      salesAt (Sample.after (pausedSale.take 4)) Sample.firstRaffle :=
  ⟨by decide +kernel, pauses_stop_sales Sample.start_fresh
    (.raffle Sample.firstRaffle .contract) (pausedSale.take 4) ((pausedSale.take 5).drop 4)
    (by decide +kernel) (by decide +kernel) rfl⟩

end TikkaRaffle.Properties
