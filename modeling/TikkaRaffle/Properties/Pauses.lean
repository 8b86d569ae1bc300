import TikkaRaffle.Factory.Enrolment
import Mathlib.Data.Fintype.Defs

/-! The three pause flags of the factory and the registry. Neither creating
entry point reads the emergency flag, and the one for recurring rounds does not
read the creation flag; where no creation runs under a flag it does not read,
the registry stands still for as long as a flag is set. -/
namespace TikkaRaffle.Properties

open TikkaRaffle.Lib TikkaRaffle.Factory

inductive PauseFlag where
  | factory
  | emergency
  | creation
deriving DecidableEq

instance : Fintype PauseFlag :=
  ⟨{.factory, .emergency, .creation}, fun flag => by cases flag <;> decide⟩

def PauseFlag.isSet (net : Net) : PauseFlag → Bool
  | .factory => net.factory.paused.getD false
  | .emergency => isGlobalPaused net.factory
  | .creation => net.factory.creationPaused.getD false

def PauseFlag.clearedBy (flag : PauseFlag) (call : Call) : Bool :=
  match flag, call with
  | .factory, .unpauseFactory => true
  | .emergency, .emergencyUnpauseAll => true
  | .creation, .setCreationPaused false => true
  | _, _ => false

structure Registered where
  nextRaffleId : Option Nat
  raffleCount : Option Nat
  raffleById : Nat → Option Address
  deployed : Address → Bool

def registered (net : Net) : Registered :=
  ⟨net.factory.nextRaffleId, net.factory.raffleCount, net.factory.raffleById,
    fun a => (net.raffle a).isSome⟩

/-- Wherever a flag is set in the run, nothing is deployed or registered until
its own entry point clears it. -/
def HeldBack (h : Host) (start : Net) (calls : List Invocation) : Prop :=
  ∀ first mid rest (flag : PauseFlag), calls = first ++ mid ++ rest →
    flag.isSet ((machine h).run start first) = true →
    (∀ i ∈ (machine h).committed ((machine h).run start first) mid,
      flag.clearedBy i.call = false) →
    registered ((machine h).run start (first ++ mid)) = registered ((machine h).run start first)

/-- A creating entry point does not read the flag. -/
def PauseFlag.ignoredBy (flag : PauseFlag) (call : Call) : Bool :=
  match flag, call with
  | .emergency, .createRaffle _ _ => true
  | .emergency, .triggerNextRound _ => true
  | .creation, .triggerNextRound _ => true
  | _, _ => false

/-- No creation under a flag that its entry point does not read. -/
def RespectsPauses (net : Net) (i : Invocation) : Prop :=
  ∀ flag : PauseFlag, flag.ignoredBy i.call = true → flag.isSet net = false

instance (net : Net) (i : Invocation) : Decidable (RespectsPauses net i) :=
  inferInstanceAs (Decidable (∀ _, _))

variable {h : Host} {c : Ctx} {net net' : Net} {i : Invocation} {flag : PauseFlag}

def setIn (p : Pauses) : PauseFlag → Bool
  | .factory => p.paused.getD false
  | .emergency => p.globalEmergencyPause.getD false
  | .creation => p.creationPaused.getD false

theorem isSet_eq (net : Net) (flag : PauseFlag) :
    flag.isSet net = setIn net.factory.core.pauses flag := by
  cases flag <;> rfl

theorem isSet_step (he : i.call.Effect h c net net') (hset : flag.isSet net = true)
    (hkept : flag.clearedBy i.call = false) : flag.isSet net' = true := by
  rw [isSet_eq] at hset ⊢
  obtain ⟨ctx, call⟩ := i
  have hquiet : call.switches = false → setIn net'.factory.core.pauses flag = true := fun hc => by
    rw [he.frame.pauses hc]
    exact hset
  cases call with
  | pauseFactory | emergencyPauseAll =>
    rw [Switches.pauses he]
    cases flag with
    | _ => first | rfl | exact hset
  | unpauseFactory | emergencyUnpauseAll =>
    rw [Switches.pauses he]
    cases flag with
    | _ => first | cases hkept; done | exact hset
  | setCreationPaused paused =>
    rw [Switches.pauses he]
    cases flag with
    | creation =>
      cases paused with
      | true => rfl
      | false => cases hkept
    | factory | emergency => exact hset
  | _ => exact hquiet rfl

/-- Only creations ignore a flag, and they clear none. -/
theorem ignoredBy_creates {call : Call} (hignored : flag.ignoredBy call = true) :
    call.creates = true ∧ flag.clearedBy call = false := by
  cases call with
  | createRaffle | triggerNextRound => cases flag <;> exact ⟨rfl, rfl⟩
  | _ => cases flag <;> cases hignored

theorem creates_respecting (hrespects : RespectsPauses net i) (he : i.call.Effect h c net net')
    (hset : flag.isSet net = true) : i.call.creates = false := by
  obtain ⟨ctx, call⟩ := i
  cases call with
  | createRaffle =>
    obtain ⟨_, _, _, _, hpaused, hcreation, -⟩ := he
    have hclear : flag.isSet net = false := by
      cases flag with
      | factory => exact hpaused
      | emergency => exact hrespects .emergency rfl
      | creation => exact hcreation
    rw [hclear] at hset
    cases hset
  | triggerNextRound =>
    obtain ⟨_, _, _, _, hpaused, -⟩ := he
    have hclear : flag.isSet net = false := by
      cases flag with
      | factory => exact hpaused
      | emergency => exact hrespects .emergency rfl
      | creation => exact hrespects .creation rfl
    rw [hclear] at hset
    cases hset
  | _ => rfl

theorem registered_quiet (hw : Unattributed net) (he : i.call.Effect h c net net')
    (hc : i.call.creates = false) : registered net' = registered net := by
  have hregistry := he.frame.registry hc (hw.not_cleans he)
  have hdeployed : (fun a => (net'.raffle a).isSome) = fun a => (net.raffle a).isSome := by
    funext a
    rw [Bool.eq_iff_iff, Option.isSome_iff_ne_none, Option.isSome_iff_ne_none, Ne, Ne,
      he.deployed hc a]
  exact congrArg₂ (fun (k : Registry) deployed =>
    Registered.mk k.nextRaffleId k.raffleCount k.raffleById deployed) hregistry hdeployed

theorem registered_creation (he : i.call.Effect h c net net') (hc : i.call.creates = true) :
    registered net' ≠ registered net := by
  intro hsame
  obtain ⟨creator, built, raffle, w, hcreates, -⟩ := he.creation hc
  have hdeployed : (net'.raffle raffle).isSome = (net.raffle raffle).isSome :=
    congrArg (fun k : Registered => k.deployed raffle) hsame
  have hnew : (net.raffle raffle).isSome ≠ true := fun hold => hcreates.unused (.inr hold)
  rw [hcreates.raffles, Function.update_self] at hdeployed
  exact hnew hdeployed.symm

theorem heldBack_from (hw : Unattributed net) {calls : List Invocation}
    (hrespects : (machine h).Each (fun net i _ => RespectsPauses net i) net calls)
    (hset : flag.isSet net = true)
    (hkept : ∀ i ∈ (machine h).committed net calls, flag.clearedBy i.call = false) :
    registered ((machine h).run net calls) = registered net := by
  induction calls generalizing net with
  | nil => rfl
  | cons i rest ih =>
    cases hok : (machine h).step i net with
    | error e =>
      have hsame := (machine h).exec_error hok
      rw [Machine.committed_error hok] at hkept
      have htail := hrespects.2
      rw [hsame] at htail
      rw [Machine.run_cons, hsame]
      exact ih hw htail hset hkept
    | ok t =>
      have hnext := (machine h).exec_ok hok
      have he := invoke_effect hok
      rw [Machine.committed_ok hok] at hkept
      have htail := hrespects.2
      rw [hnext] at htail
      have hquiet := creates_respecting (hrespects.1 t hok) he hset
      have hflag := isSet_step he hset (hkept i (List.mem_cons_self ..))
      rw [Machine.run_cons, hnext, ih (unattributed_step hw hok) htail hflag
        fun d hd => hkept d (List.mem_cons_of_mem _ hd)]
      exact registered_quiet hw he hquiet

/-- The registry stands still under every flag exactly in the runs without a
creation under a flag that its entry point does not read. -/
theorem heldBack_iff (hfresh : Fresh h net) (calls : List Invocation) :
    HeldBack h net calls ↔ (machine h).Each (fun net i _ => RespectsPauses net i) net calls := by
  constructor
  · intro hheld
    refine Machine.each_of_split fun first i rest t hcalls hok => ?_
    have he := invoke_effect hok
    have hrun : (machine h).run net (first ++ [i]) = t := by
      rw [Machine.run_append, Machine.run_cons, Machine.run_nil, (machine h).exec_ok hok]
    intro flag hignored
    obtain ⟨hc, hkept⟩ := ignoredBy_creates hignored
    by_contra hnot
    -- the creation would be a change while the flag is set
    refine registered_creation he hc ?_
    rw [← hrun]
    refine hheld first [i] rest flag (by simp [hcalls]) (Bool.eq_true_of_not_eq_false hnot)
      fun d hd => ?_
    have hmem := (Machine.committed_sublist _ _).subset hd
    rw [List.mem_singleton.mp hmem]
    exact hkept
  · intro hrespects first mid rest flag hcalls hset hkept
    rw [hcalls, Machine.each_append, Machine.each_append] at hrespects
    have hw := (Machine.always_of_step (m := machine h) Unattributed
      (fun _ _ _ hw hok => unattributed_step hw hok) (unattributed_fresh hfresh) first).last
    rw [Machine.run_append]
    exact heldBack_from hw hrespects.1.2 hset hkept

open Instance.Sample (admin creator) in
def pausedRun : List Invocation :=
  [Sample.signed [creator] 300 (.createRaffle creator Instance.Sample.config),
    Sample.signed [admin] 400 .pauseFactory,
    Sample.signed [creator] 700 (.createRaffle creator
      { Instance.Sample.config with description := [1] })]

theorem heldBack_iff_pausedRun :
    Fresh Sample.host Sample.start ∧
    PauseFlag.factory.isSet (Sample.after (pausedRun.take 2)) = true ∧
    HeldBack Sample.host Sample.start pausedRun :=
  ⟨Sample.start_fresh, by decide +kernel,
    (heldBack_iff Sample.start_fresh _).mpr (by decide +kernel)⟩

open Instance.Sample (admin creator) in
def emergencyRun : List Invocation :=
  [Sample.signed [admin] 10 (.emergencyPauseAll []),
    Sample.signed [creator] 300 (.createRaffle creator Instance.Sample.config)]

/-- The raffle is registered although the emergency flag is set. -/
theorem emergency_not_heldBack :
    Fresh Sample.host Sample.start ∧
    PauseFlag.emergency.isSet (Sample.after (emergencyRun.take 1)) = true ∧
    (Sample.after emergencyRun).factory.nextRaffleId = some 1 ∧
    ¬HeldBack Sample.host Sample.start emergencyRun := by
  refine ⟨Sample.start_fresh, by decide +kernel, by decide +kernel, fun hheld => ?_⟩
  have hsame := hheld (emergencyRun.take 1) (emergencyRun.drop 1) [] .emergency rfl
    (by decide +kernel) (by decide +kernel)
  exact absurd (congrArg Registered.nextRaffleId hsame) (by decide +kernel)

end TikkaRaffle.Properties
