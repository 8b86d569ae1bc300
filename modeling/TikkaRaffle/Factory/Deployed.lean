import TikkaRaffle.Factory.Effects

/-! The raffles of the system one at a time: which of them a call runs, what the
raffle is asked to do, and what the call does to all the others. -/
namespace TikkaRaffle.Factory

open TikkaRaffle.Lib TikkaRaffle.Instance Function

/-- The contract a call is passed on to and what it asks of a raffle. The factory
invokes a raffle directly, so it counts among those who have authorised. -/
def asked (h : Host) (net : Net) (i : Invocation) : Option (Address × Instance.Invocation) :=
  let c := net.signed h i.ctx
  let own := raffleCtx c net.factory c.auths
  let forwarded := raffleCtx c net.factory (h.self :: c.auths)
  match i.call with
  | .raffle target call => some (target, ⟨own, call⟩)
  | .pauseInstance target => some (target, ⟨forwarded, .pause⟩)
  | .unpauseInstance target => some (target, ⟨forwarded, .unpause⟩)
  | .cleanOldRaffle raffleId =>
      (net.factory.raffleById raffleId).map fun target => (target, ⟨forwarded, .wipeStorage⟩)
  | _ => none

def reached (h : Host) (net : Net) (i : Invocation) : Option (Address × Instance.Invocation) :=
  (asked h net i).filter fun order => (net.raffle order.1).isSome

theorem asked_of_reached {h : Host} {net : Net} {i : Invocation}
    {order : Address × Instance.Invocation} (hreached : reached h net i = some order) :
    asked h net i = some order :=
  (Option.filter_eq_some_iff.mp hreached).1

theorem deployed_of_world {net : Net} {x : Address} {w : World} (hw : net.world x = some w) :
    net.raffle x ≠ none := by
  obtain ⟨stored, hstored, -⟩ := Option.map_eq_some_iff.mp hw
  rw [hstored]
  exact Option.some_ne_none _

theorem reached_of_asked {h : Host} {net : Net} {i : Invocation} {target : Address}
    {received : Instance.Invocation} (hasked : asked h net i = some (target, received))
    (hdeployed : net.raffle target ≠ none) : reached h net i = some (target, received) :=
  Option.filter_eq_some_iff.mpr ⟨hasked, Option.isSome_iff_ne_none.mpr hdeployed⟩

theorem reached_none {h : Host} {net : Net} {i : Invocation}
    (hasked : ∀ target received, asked h net i = some (target, received) →
      net.raffle target = none) : reached h net i = none := by
  refine Option.filter_eq_none_iff.mpr fun order horder => ?_
  rw [hasked order.1 order.2 horder]
  decide

/-- What a committed call does to the raffles. -/
inductive Touch (h : Host) (net net' : Net) (i : Invocation) : Prop where
  /-- No raffle is run or deployed. -/
  | aside (hnone : reached h net i = none) (hraffles : net'.raffle = net.raffle)
  /-- One raffle runs on the shared ledger. -/
  | runs {target : Address} {received : Instance.Invocation} {w w' : World}
      (hreached : reached h net i = some (target, received)) (hw : net.world target = some w)
      (hok : Instance.invoke (h.at target) received w = .ok w')
      (hraffles : net'.raffle = update net.raffle target (some w'))
      (hbalance : net'.balance = w'.balance)
  /-- One raffle is deployed and initialised. -/
  | deploys {target admin creator : Address} {c : Instance.Ctx} {config : RaffleConfig} {w : World}
      (hnone : reached h net i = none) (hunused : ¬addressInUse h net target)
      (hadmin : net.factory.admin = some admin)
      (hok : init (h.at target) c { World.deployed (fun _ _ => 0) with balance := net.balance }
        h.self admin creator config = .ok w)
      (hraffles : net'.raffle = update net.raffle target (some w))
      (hbalance : net'.balance = w.balance)

inductive TouchAt (h : Host) (net net' : Net) (i : Invocation) (x : Address) : Prop where
  | spared (hspared : ∀ call, reached h net i ≠ some (x, call))
      (hsame : net'.raffle x = net.raffle x)
  | ran {received : Instance.Invocation} {w w' : World}
      (hreached : reached h net i = some (x, received)) (hw : net.world x = some w)
      (hok : Instance.invoke (h.at x) received w = .ok w') (hraffle : net'.raffle x = some w')
      (hw' : net'.world x = some w')
  | deployed {admin creator : Address} {c : Instance.Ctx} {config : RaffleConfig} {w : World}
      (hspared : ∀ call, reached h net i ≠ some (x, call)) (hunused : ¬addressInUse h net x)
      (hadmin : net.factory.admin = some admin)
      (hok : init (h.at x) c { World.deployed (fun _ _ => 0) with balance := net.balance }
        h.self admin creator config = .ok w)
      (hraffle : net'.raffle x = some w) (hw : net'.world x = some w)

section Touch

variable {h : Host} {c : Ctx} {net net' : Net}

theorem init_balance {host : Instance.Host} {ctx : Instance.Ctx} {w w' : World}
    {factory admin creator : Address} {config : RaffleConfig}
    (hok : init host ctx w factory admin creator config = .ok w') :
    w'.balance = w.balance := by
  simp only [init, except_bind_ok, except_pure_ok] at hok
  obtain ⟨_, -, _, -, _, -, _, -, _, -, _, -, _, -, rfl⟩ := hok
  rfl

theorem createRaffleInternal_balance {creator raffle : Address} {config : RaffleConfig}
    (hok : createRaffleInternal h c net creator config = .ok (net', raffle)) :
    net'.balance = net.balance := by
  simp only [createRaffleInternal, except_bind_ok, trapped, except_mapError_ok, except_pure_ok,
    Prod.mk.injEq] at hok
  obtain ⟨_, -, _, -, _, -, w, hinit, _, -, rfl, -⟩ := hok
  exact init_balance hinit

theorem createRaffle_balance {creator raffle : Address} {config : RaffleConfig}
    (hok : createRaffle h c net creator config = .ok (net', raffle)) :
    net'.balance = net.balance := by
  simp only [createRaffle, except_bind_ok] at hok
  obtain ⟨_, -, _, -, _, -, _, -, _, -, _, -, _, -, hcreate⟩ := hok
  have hkept := createRaffleInternal_balance hcreate
  exact hkept

theorem triggerNextRound_balance {recurringId : Nat} {raffle : Address}
    (hok : triggerNextRound h c net recurringId = .ok (net', raffle)) :
    net'.balance = net.balance := by
  simp only [triggerNextRound, except_bind_ok, except_pure_ok, Prod.mk.injEq] at hok
  obtain ⟨_, -, _, -, _, -, _, -, _, -, _, -, ⟨net₁, _⟩, hcreate, rfl, -⟩ := hok
  have hkept := createRaffleInternal_balance hcreate
  exact hkept

theorem forward_touches {i : Invocation} {target : Address} {order : Forwarded}
    {call : Instance.Call} {s : State}
    (hasked : asked h net i =
      some (target, ⟨raffleCtx c net.factory (h.self :: c.auths), call⟩))
    (hentry : order.entry = some fun host ctx => Instance.invoke host ⟨ctx, call⟩)
    (hforward : forward h c net target order = .ok net') :
    Touch h net { net' with factory := s } i := by
  rcases forward_cases hforward with ⟨entry, w, w', hsome, hw, hrun, rfl⟩ | ⟨hnone, -, rfl⟩
  · obtain rfl := Option.some.inj (hentry.symm.trans hsome)
    exact .runs (reached_of_asked hasked (deployed_of_world hw)) hw hrun rfl rfl
  · refine .aside (reached_none fun other received hother => ?_) rfl
    have htarget : target = other := congrArg Prod.fst (Option.some.inj (hasked.symm.trans hother))
    exact htarget ▸ hnone

/-- No raffle accepts a new admin from the factory. -/
theorem forward_setAdmin {target admin : Address}
    (hok : forward h c net target (.setAdmin admin) = .ok net') :
    ¬addressInUse h net target ∧ net' = net := by
  rcases forward_cases hok with ⟨entry, _, _, hentry, -⟩ | houtside
  · cases hentry
  · obtain ⟨hnone, hother, rfl⟩ := houtside
    refine ⟨?_, rfl⟩
    rintro (hself | hdeployed)
    · exact hother hself
    · rw [hnone] at hdeployed
      cases hdeployed

theorem Creates.touches {i : Invocation} {creator raffle : Address} {config : RaffleConfig}
    {w : World} (hnone : reached h net i = none) (hbalance : net'.balance = net.balance)
    (hcreates : Creates h c net net' creator config raffle w) : Touch h net net' i := by
  obtain ⟨admin, hadmin, hinit⟩ := hcreates.initialised
  exact .deploys hnone hcreates.unused hadmin hinit hcreates.raffles
    (hbalance.trans (init_balance hinit).symm)

theorem invoke_touches {i : Invocation} (hok : invoke h i net = .ok net') :
    Touch h net net' i := by
  have heffect := invoke_effect hok
  obtain ⟨c, call⟩ := i
  cases call with
  | createRaffle creator config =>
    obtain ⟨_, _, _, _, -, -, -, -, hcreates, -⟩ := heffect
    obtain ⟨⟨_, _⟩, hcreate, rfl⟩ := except_map_ok.mp hok
    exact hcreates.touches rfl (createRaffle_balance hcreate)
  | triggerNextRound =>
    obtain ⟨_, _, _, _, -, -, -, hcreates, -⟩ := heffect
    obtain ⟨⟨_, _⟩, htrigger, rfl⟩ := except_map_ok.mp hok
    exact hcreates.touches rfl (triggerNextRound_balance htrigger)
  | cleanOldRaffle raffleId =>
    simp only [invoke, invokeSigned, cleanOldRaffle, except_bind_ok, Factory.okOr_ok,
      except_pure_ok] at hok
    obtain ⟨_, -, target, htarget, _, -, net₁, hforward, rfl⟩ := hok
    exact forward_touches (Option.map_eq_some_iff.mpr ⟨target, htarget, rfl⟩) rfl hforward
  | pauseInstance =>
    simp only [invoke, invokeSigned, pauseInstance, except_bind_ok] at hok
    obtain ⟨_, -, hforward⟩ := hok
    exact forward_touches rfl rfl hforward
  | unpauseInstance =>
    simp only [invoke, invokeSigned, unpauseInstance, except_bind_ok] at hok
    obtain ⟨_, -, hforward⟩ := hok
    exact forward_touches rfl rfl hforward
  | syncAdmin =>
    simp only [invoke, invokeSigned, syncAdmin, except_bind_ok] at hok
    obtain ⟨_, -, hforward⟩ := hok
    obtain ⟨-, rfl⟩ := forward_setAdmin hforward
    exact .aside rfl rfl
  | raffle target call =>
    simp only [invoke, invokeSigned, callRaffle, except_bind_ok, found_ok, except_mapError_ok,
      except_pure_ok] at hok
    obtain ⟨w, hw, w', hrun, _, -, rfl⟩ := hok
    exact .runs (reached_of_asked rfl (deployed_of_world hw)) hw hrun rfl rfl
  | rescueTokens =>
    have hwrites : Writes net net' net.factory.core := heffect
    exact .aside rfl hwrites.raffle
  | _ =>
    obtain ⟨_, -, rfl⟩ := except_map_ok.mp hok
    exact .aside rfl rfl

theorem unused_raffle {x : Address} (hunused : ¬addressInUse h net x) : net.raffle x = none := by
  by_contra hdeployed
  exact hunused (.inr (Option.isSome_iff_ne_none.mpr hdeployed))

theorem world_stored {x : Address} {w : World}
    (hraffles : net'.raffle = update net.raffle x (some w)) (hbalance : net'.balance = w.balance) :
    net'.world x = some w := by
  rw [Net.world, hraffles, update_self, hbalance]
  rfl

theorem invoke_touchesAt {i : Invocation} (hok : invoke h i net = .ok net') (x : Address) :
    TouchAt h net net' i x := by
  cases invoke_touches hok with
  | aside hnone hraffles => exact .spared (by simp [hnone]) (by rw [hraffles])
  | @runs target received w w' hreached hw hrun hraffles hbalance =>
    by_cases hx : target = x
    · subst hx
      exact .ran hreached hw hrun (by rw [hraffles, update_self]) (world_stored hraffles hbalance)
    · refine .spared (fun call heq => ?_) (by rw [hraffles, update_of_ne (Ne.symm hx)])
      exact hx (congrArg Prod.fst (Option.some.inj (hreached.symm.trans heq)))
  | @deploys target admin creator c config w hnone hunused hadmin hinit hraffles hbalance =>
    have hspared (call : Instance.Invocation) : reached h net i ≠ some (x, call) := by simp [hnone]
    by_cases hx : target = x
    · subst hx
      exact .deployed hspared hunused hadmin hinit (by rw [hraffles, update_self])
        (world_stored hraffles hbalance)
    · exact .spared hspared (by rw [hraffles, update_of_ne (Ne.symm hx)])

end Touch

end TikkaRaffle.Factory
