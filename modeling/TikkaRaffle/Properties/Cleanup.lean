import TikkaRaffle.Factory.Enrolment

/-! The cleanup of settled raffles. It reads the creator stored under the stable
identifier, which no creation stores, so it fails for every raffle. -/
namespace TikkaRaffle.Properties

open TikkaRaffle.Lib TikkaRaffle.Factory

def Wipeable (h : Host) (c : Ctx) (net : Net) (raffle : Address) : Prop :=
  ((net.world raffle).any fun w => (Instance.wipeStorage (h.at raffle)
    (raffleCtx c net.factory (h.self :: c.auths)) w).isOk) = true

variable {h : Host} {c : Ctx} {net : Net} {admin raffle : Address} {raffleId : Nat}

theorem cleanOldRaffle_unattributed (hw : Unattributed net)
    (hadmin : AdminSigned h c net.factory admin)
    (hlive : net.factory.raffleById raffleId = some raffle) :
    cleanOldRaffle h c net raffleId = .error (.err .invalidRaffleId) := by
  have hcreator : net.factory.raffleCreator raffleId = none := hw raffleId
  have hsigned : requireAdmin h c net.factory = .ok admin := requireAdmin_ok.mpr hadmin
  simp only [cleanOldRaffle, hsigned, hlive, hcreator]
  rfl

/-- No raffle is ever cleaned, whatever its state. -/
theorem cleanup_never (hfresh : Fresh h net) (calls : List Invocation)
    (hadmin : AdminSigned h (((machine h).run net calls).signed h c)
      ((machine h).run net calls).factory admin)
    (hlive : ((machine h).run net calls).factory.raffleById raffleId = some raffle) :
    invoke h ⟨c, .cleanOldRaffle raffleId⟩ ((machine h).run net calls) =
      .error (.err .invalidRaffleId) := by
  have hw := (Machine.always_of_step (m := machine h) Unattributed
    (fun _ _ _ hw hok => unattributed_step hw hok) (unattributed_fresh hfresh) calls).last
  exact cleanOldRaffle_unattributed hw hadmin hlive

open Instance.Sample (creator) in
open Sample (firstRaffle) in
def settledRun : List Invocation :=
  [Sample.signed [creator] 300 (.createRaffle creator Instance.Sample.config),
    Sample.signed [creator] 301 (.raffle firstRaffle .depositPrize),
    Sample.signed [creator] 302 (.raffle firstRaffle (.cancelRaffle .creatorCancelled)),
    Sample.signed [creator] 303 (.raffle firstRaffle .refundPrize)]

def adminCtx : Ctx := Sample.ctx 400 [Instance.Sample.admin]

theorem cleanup_never_settledRun :
    (Sample.after settledRun).factory.raffleById 0 = some Sample.firstRaffle ∧
    invoke Sample.host ⟨adminCtx, .cleanOldRaffle 0⟩ (Sample.after settledRun) =
      .error (.err .invalidRaffleId) := by
  have hlive : (Sample.after settledRun).factory.raffleById 0 = some Sample.firstRaffle := by
    decide +kernel
  have hadmin : AdminSigned Sample.host ((Sample.after settledRun).signed Sample.host adminCtx)
      (Sample.after settledRun).factory Instance.Sample.admin :=
    ⟨by decide +kernel, by decide +kernel, by decide⟩
  exact ⟨hlive, cleanup_never Sample.start_fresh settledRun hadmin hlive⟩

/-- The settled raffle would accept the wipe, and its cleanup fails. -/
theorem settled_not_cleaned :
    Fresh Sample.host Sample.start ∧
    (Sample.after settledRun).factory.raffleById 0 = some Sample.firstRaffle ∧
    Wipeable Sample.host adminCtx (Sample.after settledRun) Sample.firstRaffle ∧
    (invoke Sample.host ⟨adminCtx, .cleanOldRaffle 0⟩ (Sample.after settledRun)).isOk = false := by
  refine ⟨Sample.start_fresh, by decide +kernel, ?_, by decide +kernel⟩
  unfold Wipeable
  decide +kernel

end TikkaRaffle.Properties
