import TikkaRaffle.Escrow.Logs
import TikkaRaffle.Lib.Trace
import TikkaRaffle.Properties.Wallets

/-! A raffle inside the system is a raffle on its own. What the factory, the
other raffles and the token holders do to it between its calls comes down to
token transfers from other accounts, so whatever holds in every run of the
raffle's machine holds of each deployed raffle. -/
namespace TikkaRaffle.Properties

open TikkaRaffle.Lib TikkaRaffle.Factory

variable {h : Host} {net net' : Net} {x : Address}

def entryPoint : Instance.Call → Bool
  | .tokenTransfer .. => false
  | _ => true

/-- The entry points a call of the system runs at the raffle of an address. -/
def received (h : Host) (x : Address) (net : Net) (i : Invocation) (_ : Net) :
    List Instance.Invocation :=
  match reached h net i with
  | some (target, call) => if target = x ∧ entryPoint call.call = true then [call] else []
  | none => []

abbrev Leads (h : Instance.Host) :
    Instance.World → List Instance.Invocation → Instance.World → Prop :=
  Path fun i w w' => Instance.invoke h i w = .ok w'

/-- Anyone but the raffle can make the transfer of a posting on the token contract. -/
theorem posting_transfers (host : Instance.Host) {w v : Instance.World}
    {balance balance' : Address → Address → Int}
    (halike : Escrow.Alike w { v with balance := balance })
    (hposting : Ledger.Posting (· ≠ host.self) balance balance') :
    ∃ i w', entryPoint i.call = false ∧ Instance.invoke host i w = .ok w' ∧
      Escrow.Alike w' { v with balance := balance' } := by
  obtain ⟨token, source, target, amount, hne, hpos, hcovered, rfl⟩ := hposting
  have hbalance : w.balance = balance := congrArg Instance.World.balance halike.fields
  have hallowed : Instance.transferAllowed w token source amount :=
    ⟨hpos, by rw [hbalance]; exact hcovered⟩
  have hsigned : Instance.requireAuth host ⟨0, 0, [source], ⟨none, false, false, false⟩⟩ source =
      .ok () :=
    Instance.requireAuth_ok.mpr ⟨List.mem_singleton_self _, hne⟩
  refine ⟨⟨⟨0, 0, [source], ⟨none, false, false, false⟩⟩,
    .tokenTransfer token source target amount⟩, _, rfl, except_bind_ok _ _ _ |>.mpr
      ⟨(), hsigned, Instance.transfer_ok.mpr ⟨hallowed, rfl⟩⟩, ?_, ?_⟩
  · rw [halike.fields]
    rfl
  · simp only [Instance.applyTransfer, List.filter_append, halike.log]
    simp

theorem postings_transfer (host : Instance.Host) {w v : Instance.World}
    {balance balance' : Address → Address → Int}
    (halike : Escrow.Alike w { v with balance := balance })
    (hpostings : Ledger.Postings (· ≠ host.self) balance balance') :
    ∃ calls w', (∀ i ∈ calls, entryPoint i.call = false) ∧ Leads host w calls w' ∧
      Escrow.Alike w' { v with balance := balance' } := by
  induction hpostings with
  | refl => exact ⟨[], w, by simp, .nil _, halike⟩
  | tail _ hlast ih =>
    obtain ⟨calls, w₁, houtside, hleads, halike₁⟩ := ih
    obtain ⟨i, w₂, hoff, hstep, halike₂⟩ := posting_transfers host halike₁ hlast
    refine ⟨calls ++ [i], w₂, ?_, hleads.append (.single hstep), halike₂⟩
    intro j hj
    rcases List.mem_append.mp hj with hearlier | hnew
    · exact houtside j hearlier
    · rw [List.mem_singleton.mp hnew]
      exact hoff

/-- The machine of a raffle can bring about the world through the entry points
in the log and transfers of others. -/
def Genuine (h : Host) (x : Address) (log : List Instance.Invocation) (v : Instance.World) :
    Prop :=
  ∃ w₀ calls w, Instance.Initialised (h.at x) w₀ ∧ Leads (h.at x) w₀ calls w ∧
    calls.filter (entryPoint ·.call) = log ∧ Escrow.Alike w v

structure Hosted (h : Host) (x : Address) (log : List Instance.Invocation) (net : Net) : Prop where
  nonneg : ∀ token a, 0 ≤ net.balance token a
  apart : net.raffle h.self = none
  absent : net.raffle x = none → log = []
  genuine : ∀ v, net.world x = some v → Genuine h x log v

theorem world_ledger {v : Instance.World} (hv : net.world x = some v) :
    v.balance = net.balance := by
  obtain ⟨stored, -, rfl⟩ := Option.map_eq_some_iff.mp hv
  rfl

theorem world_kept {v' : Instance.World} (hsame : net'.raffle x = net.raffle x)
    (hv' : net'.world x = some v') :
    ∃ v, net.world x = some v ∧ v' = { v with balance := net'.balance } := by
  rw [Net.world, hsame] at hv'
  obtain ⟨stored, hstored, rfl⟩ := Option.map_eq_some_iff.mp hv'
  exact ⟨_, Option.map_eq_some_iff.mpr ⟨stored, hstored, rfl⟩, rfl⟩

theorem spared_postings {i : Invocation} (hdeployed : net.raffle x ≠ none)
    (hapart : net.raffle h.self = none)
    (hspared : ∀ call, reached h net i ≠ some (x, call)) (hok : invoke h i net = .ok net') :
    Ledger.Postings (· ≠ x) net.balance net'.balance := by
  refine (invoke_postings hok).mono fun a ha heq => ?_
  subst heq
  rcases ha with ⟨-, hunused⟩ | ⟨call, hcall⟩ | ⟨hself, -⟩
  · exact hunused (.inr (Option.isSome_iff_ne_none.mpr hdeployed))
  · obtain ⟨c, _⟩ := i
    subst hcall
    exact hspared _ (reached_of_asked rfl hdeployed)
  · exact hdeployed (hself ▸ hapart)

theorem received_spared {i : Invocation} (hspared : ∀ call, reached h net i ≠ some (x, call)) :
    received h x net i net' = [] := by
  unfold received
  split
  next target call hreached =>
    refine if_neg fun hcall => hspared call ?_
    rw [hreached, hcall.1]
  next => rfl

variable {log : List Instance.Invocation}

theorem Hosted.spared {i : Invocation} (hs : Hosted h x log net)
    (hspared : ∀ call, reached h net i ≠ some (x, call)) (hsame : net'.raffle x = net.raffle x)
    (hok : invoke h i net = .ok net') {v' : Instance.World} (hv' : net'.world x = some v') :
    Genuine h x (log ++ received h x net i net') v' := by
  obtain ⟨v, hv, rfl⟩ := world_kept hsame hv'
  obtain ⟨w₀, calls, w, hinit, hleads, hlog, halike⟩ := hs.genuine v hv
  have hpostings := spared_postings (deployed_of_world hv) hs.apart hspared hok
  rw [← world_ledger hv] at hpostings
  obtain ⟨others, w', houtside, hothers, halike'⟩ :=
    postings_transfer (h.at x) halike hpostings
  refine ⟨w₀, calls ++ others, w', hinit, hleads.append hothers, ?_, halike'⟩
  rw [received_spared hspared, List.filter_append, hlog, List.filter_eq_nil_iff.mpr]
  intro i hi
  rw [houtside i hi]
  exact Bool.false_ne_true

theorem Hosted.untouched {i : Invocation} (hs : Hosted h x log net)
    (hspared : ∀ call, reached h net i ≠ some (x, call)) (hsame : net'.raffle x = net.raffle x)
    (hapart : net'.raffle h.self = none) (hok : invoke h i net = .ok net') :
    Hosted h x (log ++ received h x net i net') net' := by
  refine ⟨(invoke_postings hok).nonneg hs.nonneg, hapart, fun habsent => ?_, fun v' hv' => ?_⟩
  · rw [received_spared hspared, hs.absent (hsame ▸ habsent), List.append_nil]
  · exact hs.spared hspared hsame hok hv'

theorem Hosted.ran {i : Invocation} {call : Instance.Invocation} {w w' : Instance.World}
    (hs : Hosted h x log net) (hreached : reached h net i = some (x, call))
    (hw : net.world x = some w) (hok : Instance.invoke (h.at x) call w = .ok w') :
    Genuine h x (log ++ received h x net i net') w' := by
  obtain ⟨w₀, calls, v, hinit, hleads, hlog, halike⟩ := hs.genuine w hw
  obtain ⟨v', hstep, halike'⟩ := halike.step hok
  refine ⟨w₀, calls ++ [call], v', hinit, hleads.append (.single hstep), ?_, halike'⟩
  rw [List.filter_append, hlog, received, hreached]
  simp only [List.filter_cons, List.filter_nil, true_and]

theorem initialised_deployed {c : Instance.Ctx} {admin creator : Address} {config : RaffleConfig}
    {w : Instance.World} (hnonneg : ∀ token a, 0 ≤ net.balance token a)
    (hok : Instance.init (h.at x) c
      { Instance.World.deployed (fun _ _ => 0) with balance := net.balance } h.self admin creator
        config = .ok w) : Instance.Initialised (h.at x) w := by
  refine ⟨c, fun token a => (net.balance token a).toNat, h.self, admin, creator, config, ?_⟩
  have hholdings : (fun token a => ((net.balance token a).toNat : Int)) = net.balance := by
    funext token a
    exact Int.toNat_of_nonneg (hnonneg token a)
  rw [← hok, Instance.World.deployed, hholdings]
  rfl

theorem apart_step {i : Invocation} (hapart : net.raffle h.self = none)
    (hok : invoke h i net = .ok net') : net'.raffle h.self = none := by
  cases invoke_touchesAt hok h.self with
  | spared _ hsame => exact hsame.trans hapart
  | ran _ hw =>
    rw [Net.world, hapart] at hw
    cases hw
  | deployed _ hunused => exact absurd (.inl rfl) hunused

theorem hosted_step {i : Invocation} (hs : Hosted h x log net) (hok : invoke h i net = .ok net') :
    Hosted h x (log ++ received h x net i net') net' := by
  have hnonneg := (invoke_postings hok).nonneg hs.nonneg
  have hapart := apart_step hs.apart hok
  cases invoke_touchesAt hok x with
  | spared hspared hsame => exact hs.untouched hspared hsame hapart hok
  | @ran received w w' hreached hw hrun hraffle hw' =>
    refine ⟨hnonneg, hapart, fun habsent => ?_, fun v' hv' => ?_⟩
    · rw [hraffle] at habsent
      cases habsent
    · obtain rfl : w' = v' := Option.some.inj (hw'.symm.trans hv')
      exact hs.ran hreached hw hrun
  | @deployed admin creator c config w hspared hunused hadmin hinit hraffle hw =>
    refine ⟨hnonneg, hapart, fun habsent => ?_, fun v' hv' => ?_⟩
    · rw [hraffle] at habsent
      cases habsent
    · obtain rfl : w = v' := Option.some.inj (hw.symm.trans hv')
      refine ⟨w, [], w, initialised_deployed hs.nonneg hinit, .nil _, ?_, .refl _⟩
      rw [received_spared hspared, hs.absent (unused_raffle hunused)]
      rfl

theorem hosted_run {creators : Nat → Option Address} {categories : Nat → Option Bytes}
    (hinit : Initialised h creators categories net) (x : Address) (calls : List Invocation) :
    Hosted h x ((machine h).journal (received h x) net calls) ((machine h).run net calls) := by
  obtain ⟨_, holdings, _, _, _, _, s, -, rfl⟩ := hinit
  have hstart : Hosted h x [] (Net.launched s holdings) :=
    ⟨fun _ _ => Int.natCast_nonneg _, rfl, fun _ => rfl, fun v hv => nomatch hv⟩
  exact Machine.journal_of_step (Hosted h x) (fun _ _ _ _ hs hok => hosted_step hs hok) hstart
    calls

/-- In every run of the system the raffle at an address is, up to the log of
transfers made outside it, where a run of its own machine ends: one that starts
from an accepted `init`, commits every call, and consists of the entry points
the system ran at that address, in their order, and of token transfers. -/
theorem deployed_refines {creators : Nat → Option Address} {categories : Nat → Option Bytes}
    (hinit : Initialised h creators categories net) (calls : List Invocation)
    {v : Instance.World} (hv : ((machine h).run net calls).world x = some v) :
    ∃ w₀ own, Instance.Initialised (h.at x) w₀ ∧
      (Instance.machine (h.at x)).committed w₀ own = own ∧
      own.filter (entryPoint ·.call) = (machine h).journal (received h x) net calls ∧
      Escrow.Alike ((Instance.machine (h.at x)).run w₀ own) v := by
  obtain ⟨w₀, own, w, hstart, hleads, hlog, halike⟩ := (hosted_run hinit x calls).genuine v hv
  obtain ⟨hrun, hall⟩ := Machine.run_of_path (m := Instance.machine (h.at x)) hleads
  exact ⟨w₀, own, hstart, hall, hlog, hrun.symm ▸ halike⟩

/-- Of the four calls one creates the raffle and one is refused. -/
theorem deployed_refines_paidRun :
    ((machine Sample.host).journal (received Sample.host Sample.firstRaffle) Sample.start
      paidRun).length = 2 ∧
    ∃ v, (Sample.after paidRun).world Sample.firstRaffle = some v ∧
      ∃ w₀ own, Instance.Initialised (Sample.host.at Sample.firstRaffle) w₀ ∧
        (Instance.machine (Sample.host.at Sample.firstRaffle)).committed w₀ own = own ∧
        own.filter (entryPoint ·.call) =
          (machine Sample.host).journal (received Sample.host Sample.firstRaffle) Sample.start
            paidRun ∧
        Escrow.Alike ((Instance.machine (Sample.host.at Sample.firstRaffle)).run w₀ own) v := by
  have hthere : ((Sample.after paidRun).world Sample.firstRaffle).isSome = true := by
    decide +kernel
  obtain ⟨v, hv⟩ := Option.isSome_iff_exists.mp hthere
  exact ⟨by decide +kernel, v, hv, deployed_refines Sample.start_fresh paidRun hv⟩

end TikkaRaffle.Properties
