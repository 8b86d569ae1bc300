import TikkaRaffle.Escrow.Notices
import TikkaRaffle.Factory.Enrolment
import TikkaRaffle.Properties.Gifts

/-! Gifts and the participant the factory tracks. A raffle asks the buyer of a
gift to sign, the factory then asks the recipient, whom it takes for the
participant; so a gift that the buyer alone has signed fails, unless the raffle
is the recipient. -/
namespace TikkaRaffle.Properties

open TikkaRaffle.Lib TikkaRaffle.Factory TikkaRaffle.Escrow

def TakesGift (h : Host) (c : Ctx) (net : Net) (raffle : Address) (w : Instance.World)
    (buyer recipient : Address) (quantity : Nat) : Prop :=
  (Instance.buyTicketsFor (h.at raffle)
    (raffleCtx (net.signed h c) net.factory (net.signed h c).auths) w buyer recipient
      quantity).isOk = true

instance (h : Host) (c : Ctx) (net : Net) (raffle : Address) (w : Instance.World)
    (buyer recipient : Address) (quantity : Nat) :
    Decidable (TakesGift h c net raffle w buyer recipient quantity) :=
  inferInstanceAs (Decidable (_ = true))

/-- The recipient is the raffle itself, and the counters of the factory have
room for the gift. -/
structure SelfTracked (s : State) (raffle : Address) (r : Instance.Raffle) (recipient : Address)
    (quantity : Nat) : Prop where
  self : recipient = raffle
  volume : Instance.fitsI128
    ((s.totalVolumePerAsset r.paymentToken).getD 0 + listCharge r quantity)
  countable : s.uniqueParticipant recipient = none → s.totalUniqueParticipants.getD 0 + 1 < 2 ^ 32

section Gifts

variable {h : Host} {c : Ctx} {net : Net} {s : State} {raffle buyer recipient : Address}
  {quantity : Nat} {r : Instance.Raffle} {w w' : Instance.World}

/-- Whom the factory takes for the participant must have signed, or be the
reporting raffle. -/
theorem trackParticipant_succeeds (hraffle : s.isFactoryRaffle raffle = some true) :
    (∃ s', trackParticipant h c s raffle recipient = .ok s') ↔
      (recipient ∈ c.auths ∧ recipient ≠ h.self ∨ recipient = raffle) ∧
        (s.uniqueParticipant recipient = none → s.totalUniqueParticipants.getD 0 + 1 < 2 ^ 32) := by
  simp only [trackParticipant, requireFactoryRaffle, requireAuthFrom, hraffle, except_bind_ok,
    Factory.ensure_ok, check_ok, Option.getD_some, exists_const, true_and, exists_and_left]
  refine and_congr_right fun _ => ?_
  cases hknown : s.uniqueParticipant recipient with
  | none => simp
  | some known => simp

theorem answerAll_sale (hraffle : s.isFactoryRaffle raffle = some true) {total : Int} :
    (∃ s', answerAll h c raffle s (Instance.saleNotice r recipient total) = .ok s') ↔
      Instance.fitsI128 ((s.totalVolumePerAsset r.paymentToken).getD 0 + total) ∧
        (recipient ∈ c.auths ∧ recipient ≠ h.self ∨ recipient = raffle) ∧
        (s.uniqueParticipant recipient = none → s.totalUniqueParticipants.getD 0 + 1 < 2 ^ 32) := by
  -- Recording the volume leaves what the second report reads.
  have htrack : (∃ s', trackParticipant h c { s with
      totalVolumePerAsset := Function.update s.totalVolumePerAsset r.paymentToken
        (some ((s.totalVolumePerAsset r.paymentToken).getD 0 + total)) } raffle recipient =
          .ok s') ↔ _ := trackParticipant_succeeds hraffle
  simp only [answerAll, Instance.saleNotice, List.foldlM_cons, List.foldlM_nil, answer,
    recordVolume, requireFactoryRaffle, hraffle, except_bind_ok, Factory.ensure_ok, except_pure_ok,
    Option.getD_some, exists_const, true_and, and_assoc, exists_and_left, exists_eq_left']
  refine and_congr_right fun _ => ?_
  rw [← htrack]
  simp

theorem gift_reports {ci : Instance.Ctx} {hi : Instance.Host} {n : Nat} (hr : w.raffle = some r)
    (hok : Instance.buyTicketsFor hi ci w buyer recipient quantity = .ok (w', n)) :
    w'.factoryCalls.drop w.factoryCalls.length =
      Instance.saleNotice r recipient (listCharge r quantity) := by
  have hfactory : ∃ factory, w.factory = some factory := by
    simp only [Instance.buyTicketsFor, Instance.requireGlobalNotPaused, except_bind_ok,
      Instance.okOr_ok] at hok
    obtain ⟨_, -, _, -, _, -, _, -, _, -, _, -, _, -, _, ⟨factory, hfactory, -⟩, -⟩ := hok
    exact ⟨factory, hfactory⟩
  obtain ⟨factory, hfactory⟩ := hfactory
  have hsaid := buyTicketsFor_notifies hr hfactory hok
  have hcalls : w'.factoryCalls = w.factoryCalls ++
      Instance.saleNotice r recipient (listCharge r quantity) := congrArg Prod.snd hsaid
  rw [hcalls, List.drop_left]

theorem callRaffle_gift (hw : net.world raffle = some w) (hr : w.raffle = some r)
    (haccepts : TakesGift h c net raffle w buyer recipient quantity) :
    (∃ net', callRaffle h (net.signed h c) net raffle (.buyTicketsFor buyer recipient quantity) =
        .ok net') ↔
      ∃ s', answerAll h (net.signed h c) raffle net.factory
        (Instance.saleNotice r recipient (listCharge r quantity)) = .ok s' := by
  obtain ⟨⟨w', n⟩, hok⟩ := except_isOk haccepts
  have hinvoked : Instance.invoke (h.at raffle) ⟨raffleCtx (net.signed h c) net.factory
      (net.signed h c).auths, .buyTicketsFor buyer recipient quantity⟩ w = .ok w' :=
    except_map_ok.mpr ⟨(w', n), hok, rfl⟩
  have hreports := gift_reports hr hok
  simp only [callRaffle, except_bind_ok, found_ok, hw, Option.some.injEq, exists_eq_left',
    except_mapError_ok, hinvoked, Except.ok.injEq, hreports, except_pure_ok]
  constructor
  · rintro ⟨net', s', hanswers, -⟩
    exact ⟨s', hanswers⟩
  · rintro ⟨s', hanswers⟩
    exact ⟨_, s', hanswers, rfl⟩

/-- In every reachable state a gift that its raffle accepts and that only the
buyer has signed succeeds exactly if the raffle gives the ticket to itself. -/
theorem gift_succeeds_iff {creatorOf : Nat → Option Address} {categoryOf : Nat → Option Bytes}
    (hinit : Initialised h creatorOf categoryOf net) (calls : List Invocation)
    (hw : ((machine h).run net calls).world raffle = some w) (hr : w.raffle = some r)
    (hbuyer : c.auths = [buyer]) (hother : recipient ≠ buyer)
    (haccepts : TakesGift h c ((machine h).run net calls) raffle w buyer recipient quantity) :
    (invoke h ⟨c, .raffle raffle (.buyTicketsFor buyer recipient quantity)⟩
        ((machine h).run net calls)).isOk = true ↔
      SelfTracked ((machine h).run net calls).factory raffle r recipient quantity := by
  have hroll := enrolled_run hinit calls
  generalize hnow : (machine h).run net calls = now at *
  have hdeployed : now.raffle raffle ≠ none := by
    intro hnone
    simp [Net.world, hnone] at hw
  have hregistered : now.factory.isFactoryRaffle raffle = some true :=
    hroll.member raffle ((hroll.deployed raffle).mp hdeployed)
  have hunsigned : recipient ∉ (now.signed h c).auths := by
    intro hsigned
    have hlisted := List.mem_of_mem_filter hsigned
    rw [hbuyer, List.mem_singleton] at hlisted
    exact hother hlisted
  have hsuccess :
      (invoke h ⟨c, .raffle raffle (.buyTicketsFor buyer recipient quantity)⟩ now).isOk = true ↔
        ∃ net', callRaffle h (now.signed h c) now raffle
          (.buyTicketsFor buyer recipient quantity) = .ok net' := by
    refine ⟨except_isOk, ?_⟩
    rintro ⟨net', hok⟩
    rw [invoke, invokeSigned, hok]
    rfl
  rw [hsuccess, callRaffle_gift hw hr haccepts, answerAll_sale hregistered]
  constructor
  · rintro ⟨hvolume, hauth, hcount⟩
    exact ⟨hauth.resolve_left fun hsigned => hunsigned hsigned.1, hvolume, hcount⟩
  · intro htracked
    exact ⟨htracked.volume, .inr htracked.self, htracked.countable⟩

end Gifts

open Instance.Sample (creator buyer treasury)
open Sample (firstRaffle)

def onSaleRun : List Invocation :=
  [Sample.signed [creator] 300 (.createRaffle creator Instance.Sample.config),
    Sample.signed [creator] 301 (.raffle firstRaffle .depositPrize)]

def TakesOne (recipient : Address) (w : Instance.World) : Prop :=
  TakesGift Sample.host (Sample.ctx 302 [buyer]) (Sample.after onSaleRun) firstRaffle w buyer
    recipient 1

instance (recipient : Address) (w : Instance.World) : Decidable (TakesOne recipient w) :=
  inferInstanceAs (Decidable (TakesGift ..))

def gift (recipient : Address) : Invocation :=
  Sample.signed [buyer] 302 (.raffle firstRaffle (.buyTicketsFor buyer recipient 1))

/-- A gift to the raffle itself needs nobody else's signature. -/
theorem gift_succeeds_iff_self :
    Fresh Sample.host Sample.start ∧
    (invoke Sample.host (gift firstRaffle) (Sample.after onSaleRun)).isOk = true ∧
    ∃ w r, (Sample.after onSaleRun).world firstRaffle = some w ∧ w.raffle = some r ∧
      SelfTracked (Sample.after onSaleRun).factory firstRaffle r firstRaffle 1 := by
  have hsucceeds :
      (invoke Sample.host (gift firstRaffle) (Sample.after onSaleRun)).isOk = true := by
    decide +kernel
  have haccepted : ∃ w, w ∈ (Sample.after onSaleRun).world firstRaffle ∧ w.raffle.isSome = true ∧
      TakesOne firstRaffle w := by decide +kernel
  obtain ⟨w, hw, hsome, haccepts⟩ := haccepted
  obtain ⟨r, hr⟩ := Option.isSome_iff_exists.mp hsome
  exact ⟨Sample.start_fresh, hsucceeds, w, r, hw, hr,
    (gift_succeeds_iff Sample.start_fresh onSaleRun hw hr rfl (by decide +kernel) haccepts).mp
      hsucceeds⟩

/-- The raffle accepts the buyer's gift to somebody else and the call fails. -/
theorem gift_to_other_fails :
    Fresh Sample.host Sample.start ∧ treasury ≠ buyer ∧
    (∃ w, w ∈ (Sample.after onSaleRun).world firstRaffle ∧ w.raffle.isSome = true ∧
      TakesOne treasury w) ∧
    (invoke Sample.host (gift treasury) (Sample.after onSaleRun)).isOk = false :=
  ⟨Sample.start_fresh, by decide, by decide +kernel, by decide +kernel⟩

end TikkaRaffle.Properties
