import TikkaRaffle.Properties.Deployed
import TikkaRaffle.Escrow.Notices

/-! Whom a deployed raffle obeys. It answers to the factory that deployed it and
to the admin of that day; later admins of the factory have no say in it. -/
namespace TikkaRaffle.Properties

open TikkaRaffle.Lib TikkaRaffle.Factory

variable {h : Host} {net net' : Net} {x : Address}

/-- A genuine raffle is lawful, up to the transfers of others. -/
theorem Genuine.lawful {log : List Instance.Invocation} {v : Instance.World}
    (hv : Genuine h x log v) :
    ∃ w, Escrow.Holds (h.at x) Escrow.Lifecycle w ∧ Escrow.Alike w v := by
  obtain ⟨w₀, calls, w, hinit, hleads, -, halike⟩ := hv
  refine ⟨w, ?_, halike⟩
  exact hleads.preserves_all (Escrow.Holds (h.at x) Escrow.Lifecycle)
    (fun _ _ _ hw hok => Escrow.lifecycle_step hw hok) (Escrow.initialised_lifecycle hinit)

theorem Genuine.started {log : List Instance.Invocation} {v : Instance.World}
    (hv : Genuine h x log v) : ∃ r, v.raffle = some r := by
  obtain ⟨w, ⟨r, hr, -⟩, halike⟩ := hv.lawful
  exact ⟨r, (congrArg Instance.World.raffle halike.fields).symm.trans hr⟩

theorem invoke_masters {host : Instance.Host} {w w' : Instance.World} {r : Instance.Raffle}
    {factory : Address} {i : Instance.Invocation} (hr : w.raffle = some r)
    (hf : w.factory = some factory) (hok : Instance.invoke host i w = .ok w') :
    w'.factory = w.factory ∧ w'.admin = w.admin :=
  ⟨Escrow.notifies_factory (Escrow.invoke_notifies hr hf hok),
    Escrow.stores_admin (Escrow.invoke_stores hr hok)⟩

theorem init_appoints {host : Instance.Host} {c : Instance.Ctx} {w w' : Instance.World}
    {factory admin creator : Address} {config : RaffleConfig}
    (hok : Instance.init host c w factory admin creator config = .ok w') :
    w'.factory = some factory ∧ w'.admin = some admin := by
  simp only [Instance.init, except_bind_ok, except_pure_ok] at hok
  obtain ⟨_, -, _, -, _, -, _, -, _, -, _, -, _, -, rfl⟩ := hok
  exact ⟨rfl, rfl⟩

/-- The raffle at the address, if there is one, was brought about by its own
machine and answers to this factory. -/
structure Attached (h : Host) (x : Address) (net : Net) : Prop where
  hosted : ∃ log, Hosted h x log net
  factory : ∀ v, net.world x = some v → v.factory = some h.self

theorem Attached.started (hs : Attached h x net) {v : Instance.World}
    (hv : net.world x = some v) : ∃ r, v.raffle = some r := by
  obtain ⟨log, hhosted⟩ := hs.hosted
  exact (hhosted.genuine v hv).started

theorem Attached.kept {i : Invocation} {v : Instance.World} (hs : Attached h x net)
    (hv : net.world x = some v) (hok : invoke h i net = .ok net') :
    ∃ v', net'.world x = some v' ∧ v'.factory = v.factory ∧ v'.admin = v.admin := by
  cases invoke_touchesAt hok x with
  | spared _ hsame =>
    obtain ⟨stored, hstored, rfl⟩ := Option.map_eq_some_iff.mp hv
    exact ⟨_, Option.map_eq_some_iff.mpr ⟨stored, hsame.trans hstored, rfl⟩, rfl, rfl⟩
  | @ran received w w' _ hw hrun _ hw' =>
    obtain rfl : v = w := Option.some.inj (hv.symm.trans hw)
    obtain ⟨r, hr⟩ := hs.started hv
    have hmasters := invoke_masters hr (hs.factory _ hv) hrun
    exact ⟨w', hw', hmasters.1, hmasters.2⟩
  | deployed _ hunused =>
    rw [Net.world, unused_raffle hunused] at hv
    cases hv

theorem deployed_now {i : Invocation} (hnone : net.raffle x = none)
    (hok : invoke h i net = .ok net') {v : Instance.World} (hv : net'.world x = some v) :
    v.factory = some h.self ∧ v.admin = net.factory.admin := by
  cases invoke_touchesAt hok x with
  | spared _ hsame =>
    rw [Net.world, hsame, hnone] at hv
    cases hv
  | ran _ hw =>
    rw [Net.world, hnone] at hw
    cases hw
  | @deployed _ _ _ _ w _ _ hadmin hinit _ hw =>
    obtain rfl : w = v := Option.some.inj (hw.symm.trans hv)
    obtain ⟨hfactory, happointed⟩ := init_appoints hinit
    exact ⟨hfactory, happointed.trans hadmin.symm⟩

theorem attached_step {i : Invocation} (hs : Attached h x net) (hok : invoke h i net = .ok net') :
    Attached h x net' := by
  obtain ⟨log, hhosted⟩ := hs.hosted
  refine ⟨⟨_, hosted_step hhosted hok⟩, fun v' hv' => ?_⟩
  cases hv : net.world x with
  | none => exact (deployed_now (Option.map_eq_none_iff.mp hv) hok hv').1
  | some v =>
    obtain ⟨v₁, hv₁, hfactory, -⟩ := hs.kept hv hok
    rw [← Option.some.inj (hv₁.symm.trans hv'), hfactory]
    exact hs.factory v hv

theorem attached_start {creators : Nat → Option Address} {categories : Nat → Option Bytes}
    (hinit : Initialised h creators categories net) (x : Address) : Attached h x net := by
  refine ⟨⟨_, hosted_run hinit x []⟩, fun v hv => ?_⟩
  obtain ⟨_, _, _, _, -, -, hnone⟩ := hinit.core
  rw [Net.world, hnone] at hv
  cases hv

/-- The forwarded change of an admin is accepted outside the system only. -/
theorem syncAdmin_outside {c : Ctx} {target : Address}
    (hok : invoke h ⟨c, .syncAdmin target⟩ net = .ok net') :
    ¬addressInUse h net target ∧ net' = net := by
  simp only [invoke, invokeSigned, syncAdmin, except_bind_ok] at hok
  obtain ⟨_, -, hforward⟩ := hok
  exact forward_setAdmin hforward

/-- The admin of a raffle is that of the factory at the step of its deployment. -/
def AppointedAt (h : Host) (net : Net) (calls : List Invocation) (x : Address)
    (v : Instance.World) : Prop :=
  ∃ first deploy rest t, calls = first ++ deploy :: rest ∧
    (machine h).step deploy ((machine h).run net first) = .ok t ∧
    ((machine h).run net first).raffle x = none ∧
    v.admin = ((machine h).run net first).factory.admin

theorem appointed_of_run {creators : Nat → Option Address} {categories : Nat → Option Bytes}
    (hinit : Initialised h creators categories net) (calls : List Invocation)
    {v : Instance.World} (hv : ((machine h).run net calls).world x = some v) :
    AppointedAt h net calls x v := by
  have hsince := Machine.held_since (m := machine h) (Attached h x)
    (fun s => ∃ v', s.world x = some v' ∧ v'.admin = v.admin) (p := fun s _ => s.raffle x = none)
    (fun _ _ _ hs hok => attached_step hs hok) ?_ (attached_start hinit x) ⟨v, hv, rfl⟩
  · rcases hsince with ⟨⟨v₀, hv₀, -⟩, -⟩ |
      ⟨first, deploy, rest, t, hcalls, hnone, hok, -, hend, -⟩
    · obtain ⟨_, _, _, _, -, -, hnone⟩ := hinit.core
      rw [Net.world, hnone] at hv₀
      cases hv₀
    · obtain ⟨v', hv', hadmin⟩ := hend
      exact ⟨first, deploy, rest, t, hcalls, hok, hnone,
        hadmin.symm.trans (deployed_now hnone hok hv').2⟩
  · rintro s i s' hs hthere hok ⟨v', hv', hadmin⟩
    obtain ⟨stored, hstored⟩ := Option.ne_none_iff_exists'.mp hthere
    have hworld : s.world x = some { stored with balance := s.balance } := by
      rw [Net.world, hstored]
      rfl
    obtain ⟨v₁, hv₁, -, hkept⟩ := hs.kept hworld hok
    obtain rfl : v₁ = v' := Option.some.inj (hv₁.symm.trans hv')
    exact ⟨_, hworld, hkept.symm.trans hadmin⟩

/-- In every run of the system each raffle answers to the factory that deployed
it, and its admin is the factory's admin at the step of its deployment, however
often the factory has changed hands since. A `sync_admin` commits at an address
outside the system only, and changes nothing in it. -/
theorem raffle_masters {creators : Nat → Option Address} {categories : Nat → Option Bytes}
    (hinit : Initialised h creators categories net) (calls : List Invocation) :
    (∀ x v, ((machine h).run net calls).world x = some v →
      v.factory = some h.self ∧ AppointedAt h net calls x v) ∧
    ∀ first c target rest t, calls = first ++ ⟨c, .syncAdmin target⟩ :: rest →
      (machine h).step ⟨c, .syncAdmin target⟩ ((machine h).run net first) = .ok t →
      ¬addressInUse h ((machine h).run net first) target ∧ t = (machine h).run net first := by
  refine ⟨fun x v hv => ⟨?_, appointed_of_run hinit calls hv⟩,
    fun _ _ _ _ _ _ hok => syncAdmin_outside hok⟩
  have hall := Machine.always_of_step (m := machine h) (Attached h x)
    (fun _ _ _ hs hok => attached_step hs hok) (attached_start hinit x) calls
  exact hall.last.factory v hv

open Instance.Sample (admin creator) in
/-- The factory changes hands after a raffle was created. Its new admin is refused by
the raffle and accepted by another contract. -/
def succeededRun : List Invocation :=
  [Sample.signed [creator] 300 (.createRaffle creator Instance.Sample.config),
    Sample.signed [admin] 310 (.transferFactoryAdmin creator),
    Sample.signed [creator] 320 .acceptFactoryAdmin,
    Sample.signed [creator] 330 (.syncAdmin Sample.firstRaffle),
    ⟨{ Sample.ctx 340 [creator] with accepts := fun _ _ => true }, .syncAdmin ⟨60⟩⟩]

open Instance.Sample (admin creator) in
theorem raffle_masters_succeededRun :
    (Sample.after succeededRun).factory.admin = some creator ∧
    ((machine Sample.host).committed Sample.start succeededRun).length = 4 ∧
    (∃ v, (Sample.after succeededRun).world Sample.firstRaffle = some v ∧ v.admin = some admin ∧
      v.factory = some Sample.host.self ∧
      AppointedAt Sample.host Sample.start succeededRun Sample.firstRaffle v) ∧
    ∀ first c target rest t, succeededRun = first ++ ⟨c, .syncAdmin target⟩ :: rest →
      (machine Sample.host).step ⟨c, .syncAdmin target⟩
        ((machine Sample.host).run Sample.start first) = .ok t →
      ¬addressInUse Sample.host ((machine Sample.host).run Sample.start first) target ∧
        t = (machine Sample.host).run Sample.start first := by
  have hthere : ((Sample.after succeededRun).world Sample.firstRaffle).map (·.admin) =
      some (some admin) := by decide +kernel
  obtain ⟨v, hv, hadmin⟩ := Option.map_eq_some_iff.mp hthere
  obtain ⟨hmasters, hsync⟩ := raffle_masters Sample.start_fresh succeededRun
  exact ⟨by decide +kernel, by decide +kernel, ⟨v, hv, hadmin, hmasters _ v hv⟩, hsync⟩

end TikkaRaffle.Properties
