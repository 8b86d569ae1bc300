import TikkaRaffle.Factory.Effects

/-! The configuration of the factory over whole runs. Treasury, fee and code
hash change only by operations that an admin proposed a full delay before, each
of which is carried out at most once. -/
namespace TikkaRaffle.Properties

open TikkaRaffle.Lib TikkaRaffle.Factory Constants

structure Settings where
  treasury : Option Address
  protocolFeeBp : Option Nat
  instanceWasmHash : Option Digest
deriving DecidableEq

def settings (net : Net) : Settings :=
  ⟨net.factory.treasury, net.factory.protocolFeeBp, net.factory.instanceWasmHash⟩

def settingsOf (g : Governance) : Settings := ⟨g.treasury, g.protocolFeeBp, g.instanceWasmHash⟩

def Settings.put (s : Settings) : AdminOp → Settings
  | .setConfig .treasury address => { s with treasury := some address }
  | .setProtocolFeeBp protocolFeeBp => { s with protocolFeeBp := some protocolFeeBp }
  | .updateWasmHash newHash => { s with instanceWasmHash := some newHash }
  | _ => s

def proposalOf : Call → Option AdminOp
  | .setConfig key address => some (.setConfig key address)
  | .proposeFeeChange protocolFeeBp => some (.setProtocolFeeBp protocolFeeBp)
  | .proposeWasmUpgrade newWasmHash => some (.updateWasmHash newWasmHash)
  | _ => none

/-- A call proposes, executes or cancels the operation with this number. -/
def Touches (opId : Nat) (net : Net) (i : Invocation) : Prop :=
  match i.call with
  | .setConfig .. | .proposeFeeChange _ | .proposeWasmUpgrade _ =>
      net.factory.core.governance.nextOp = opId
  | .executeConfigChange id | .cancelConfigChange id => id = opId
  | _ => False

structure Proposed (h : Host) (net : Net) (d : Invocation) (opId : Nat) (op : AdminOp) : Prop where
  call : proposalOf d.call = some op
  number : net.factory.core.governance.nextOp = opId
  signed : ∃ admin, AdminSigned h (net.signed h d.ctx) net.factory admin
  committed : (invoke h d net).isOk = true

structure Executed (h : Host) (net : Net) (i : Invocation) (opId : Nat) : Prop where
  call : i.call = .executeConfigChange opId
  signed : ∃ admin, AdminSigned h (net.signed h i.ctx) net.factory admin
  committed : (invoke h i net).isOk = true

/-- The proposal `d` made after `pre` takes effect in the call `i`, which comes
after `mid`: a delay has passed, no committed call in between has touched the
operation, and the settings change to its value. -/
def TakesEffect (h : Host) (start : Net) (pre : List Invocation) (d : Invocation)
    (mid : List Invocation) (i : Invocation) : Prop :=
  ∃ opId op, Proposed h ((machine h).run start pre) d opId op ∧
    Executed h ((machine h).run start (pre ++ d :: mid)) i opId ∧
    d.ctx.timestamp + timelockDelaySeconds ≤ i.ctx.timestamp ∧
    (machine h).Each (fun net i _ => ¬Touches opId net i) ((machine h).run start (pre ++ [d])) mid ∧
    settings ((machine h).run start (pre ++ d :: mid ++ [i])) =
      (settings ((machine h).run start (pre ++ d :: mid))).put op

variable {h : Host} {c : Ctx} {net net' : Net} {i : Invocation} {opId : Nat}

theorem apply_pendingOp (g : Governance) (op : AdminOp) : (g.apply op).pendingOp = g.pendingOp := by
  cases op with
  | setConfig key => cases key <;> rfl
  | _ => rfl

theorem pendingOp_congr (hcore : net'.factory.core.governance = net.factory.core.governance) :
    net'.factory.pendingOp opId = net.factory.pendingOp opId :=
  congrArg (fun g : Governance => g.pendingOp opId) hcore

/-- What is left of an operation that a call touched. -/
def Replaced (h : Host) (c : Ctx) (net net' : Net) (call : Call) (opId : Nat) : Prop :=
  net'.factory.pendingOp opId = none ∨ ∃ admin op, proposalOf call = some op ∧
    net.factory.core.governance.nextOp = opId ∧ AdminSigned h c net.factory admin ∧
    net'.factory.pendingOp opId = some ⟨op, c.timestamp + timelockDelaySeconds, admin⟩

theorem proposes_pendingOp {op : AdminOp} {call : Call} (hcall : proposalOf call = some op)
    (hp : Proposes h c net net' op) :
    (net.factory.core.governance.nextOp = opId → Replaced h c net net' call opId) ∧
      (net.factory.core.governance.nextOp ≠ opId →
        net'.factory.pendingOp opId = net.factory.pendingOp opId) := by
  obtain ⟨admin, hadmin, hgoverns⟩ := hp
  have hpending : net'.factory.pendingOp opId = Function.update net.factory.pendingOp
      net.factory.core.governance.nextOp
      (some ⟨op, c.timestamp + timelockDelaySeconds, admin⟩) opId :=
    congrArg (fun g : Governance => g.pendingOp opId) hgoverns.governance
  constructor
  · intro hsame
    rw [hsame, Function.update_self] at hpending
    exact .inr ⟨admin, op, hcall, hsame, hadmin, hpending⟩
  · intro hother
    rw [hpending, Function.update_of_ne (Ne.symm hother)]

theorem closes_pendingOp {g : Governance} {id : Nat} {call : Call}
    (hsame : g.pendingOp = net.factory.pendingOp) (hgoverns : Governs net net' (g.closeOp id)) :
    (id = opId → Replaced h c net net' call opId) ∧
      (id ≠ opId → net'.factory.pendingOp opId = net.factory.pendingOp opId) := by
  have hpending : net'.factory.pendingOp opId = Function.update g.pendingOp id none opId :=
    congrArg (fun g : Governance => g.pendingOp opId) hgoverns.governance
  constructor
  · intro heq
    rw [heq, Function.update_self] at hpending
    exact .inl hpending
  · intro hother
    rw [hpending, Function.update_of_ne (Ne.symm hother), hsame]

theorem pendingOp_step (he : i.call.Effect h c net net') :
    (Touches opId net i → Replaced h c net net' i.call opId) ∧
      (¬Touches opId net i → net'.factory.pendingOp opId = net.factory.pendingOp opId) := by
  obtain ⟨ctx, call⟩ := i
  have hquiet : call.governs = false → net'.factory.pendingOp opId = net.factory.pendingOp opId :=
    fun hc => pendingOp_congr (he.frame.governance hc)
  cases call with
  | setConfig | proposeFeeChange | proposeWasmUpgrade => exact proposes_pendingOp (by rfl) he
  | executeConfigChange id =>
    obtain ⟨_, pending, -, -, -, -, hgoverns⟩ := he
    exact closes_pendingOp (apply_pendingOp _ pending.op) hgoverns
  | cancelConfigChange id => exact closes_pendingOp (by rfl) he
  | initFactory =>
    have hpending := congrArg (fun g : Governance => g.pendingOp opId) he.2.2.governance
    exact ⟨False.elim, fun _ => hpending⟩
  | transferFactoryAdmin | acceptFactoryAdmin =>
    obtain ⟨_, hgoverns⟩ := he
    have hpending := congrArg (fun g : Governance => g.pendingOp opId) hgoverns.governance
    exact ⟨False.elim, fun _ => hpending⟩
  | _ => exact ⟨False.elim, fun _ => hquiet rfl⟩

structure Configured (g : Governance) : Prop where
  initialized : g.initialized = some true
  admin : g.admin.isSome = true
  wasmHash : g.instanceWasmHash.isSome = true
  fee : ∃ bp, g.protocolFeeBp = some bp ∧ bp ≤ maxProtocolFeeBp

theorem executes_settings (he : Executes h c net net' opId) :
    ∃ admin pending, AdminSigned h c net.factory admin ∧
      net.factory.pendingOp opId = some pending ∧ pending.effectiveTimestamp ≤ c.timestamp ∧
      settings net' = (settings net).put pending.op := by
  obtain ⟨admin, ⟨op, due, proposer⟩, hadmin, hpending, hdue, -, hgoverns⟩ := he
  refine ⟨admin, ⟨op, due, proposer⟩, hadmin, hpending, hdue, ?_⟩
  have hsettings := congrArg settingsOf hgoverns.governance
  cases op with
  | setConfig key => cases key <;> exact hsettings
  | _ => exact hsettings

theorem settings_step (hw : Configured net.factory.core.governance)
    (he : i.call.Effect h c net net') (hother : ∀ id, i.call ≠ .executeConfigChange id) :
    settings net' = settings net := by
  obtain ⟨ctx, call⟩ := i
  have hquiet : call.governs = false → settings net' = settings net :=
    fun hc => congrArg settingsOf (he.frame.governance hc)
  cases call with
  | initFactory =>
    have hfirst : net.factory.core.governance.initialized = none := he.1
    rw [hw.initialized] at hfirst
    cases hfirst
  | executeConfigChange id => exact absurd rfl (hother id)
  | setConfig | proposeFeeChange | proposeWasmUpgrade =>
    obtain ⟨_, -, hgoverns⟩ := he
    exact congrArg settingsOf hgoverns.governance
  | cancelConfigChange => exact congrArg settingsOf (Governs.governance he)
  | transferFactoryAdmin | acceptFactoryAdmin =>
    obtain ⟨_, hgoverns⟩ := he
    exact congrArg settingsOf hgoverns.governance
  | _ => exact hquiet rfl

theorem Configured.apply {g : Governance} {op : AdminOp} (hg : Configured g)
    (hbound : ∀ bp, op = .setProtocolFeeBp bp → bp ≤ maxProtocolFeeBp) :
    Configured (g.apply op) := by
  cases op with
  | setConfig key => cases key <;> exact ⟨hg.initialized, hg.admin, hg.wasmHash, hg.fee⟩
  | setProtocolFeeBp bp => exact ⟨hg.initialized, hg.admin, hg.wasmHash, bp, rfl, hbound bp rfl⟩
  | updateWasmHash => exact ⟨hg.initialized, hg.admin, rfl, hg.fee⟩
  | _ => exact ⟨hg.initialized, hg.admin, hg.wasmHash, hg.fee⟩

theorem configured_step (hw : Configured net.factory.core.governance)
    (he : i.call.Effect h c net net') : Configured net'.factory.core.governance := by
  obtain ⟨ctx, call⟩ := i
  have hquiet : call.governs = false → Configured net'.factory.core.governance := fun hc => by
    rw [he.frame.governance hc]
    exact hw
  cases call with
  | initFactory =>
    have hfirst : net.factory.core.governance.initialized = none := he.1
    rw [hw.initialized] at hfirst
    cases hfirst
  | setConfig | proposeFeeChange | proposeWasmUpgrade =>
    obtain ⟨_, -, hgoverns⟩ := he
    rw [hgoverns.governance]
    exact ⟨hw.initialized, hw.admin, hw.wasmHash, hw.fee⟩
  | executeConfigChange =>
    obtain ⟨_, _, -, -, -, hbound, hgoverns⟩ := he
    have happlied := hw.apply hbound
    rw [hgoverns.governance]
    exact ⟨happlied.initialized, happlied.admin, happlied.wasmHash, happlied.fee⟩
  | cancelConfigChange =>
    rw [Governs.governance he]
    exact ⟨hw.initialized, hw.admin, hw.wasmHash, hw.fee⟩
  | transferFactoryAdmin =>
    obtain ⟨_, hgoverns⟩ := he
    rw [hgoverns.governance]
    exact ⟨hw.initialized, hw.admin, hw.wasmHash, hw.fee⟩
  | acceptFactoryAdmin =>
    obtain ⟨_, hgoverns⟩ := he
    rw [hgoverns.governance]
    exact ⟨hw.initialized, rfl, hw.wasmHash, hw.fee⟩
  | _ => exact hquiet rfl

theorem configured_initialised {creatorOf : Nat → Option Address} {categoryOf : Nat → Option Bytes}
    (hinit : Initialised h creatorOf categoryOf net) :
    Configured net.factory.core.governance ∧ ∀ id, net.factory.pendingOp id = none := by
  obtain ⟨admin, wasmHash, bp, treasury, hfee, hcore, -⟩ := hinit.core
  have hgovernance := congrArg Core.governance hcore
  refine ⟨?_, fun id => congrArg (fun g : Governance => g.pendingOp id) hgovernance⟩
  rw [hgovernance]
  exact ⟨rfl, rfl, rfl, bp, rfl, hfee⟩

theorem configured_run (hw : Configured net.factory.core.governance) (calls : List Invocation) :
    (machine h).Always (fun net => Configured net.factory.core.governance) net calls :=
  Machine.always_of_step (fun net : Net => Configured net.factory.core.governance)
    (fun _ _ _ hw hok => configured_step hw (invoke_effect hok)) hw calls

/-- A pending operation goes back to its proposal, untouched since. -/
theorem proposed_of_pending (hnone : ∀ id, net.factory.pendingOp id = none)
    {calls : List Invocation} {pending : PendingOp}
    (hpending : ((machine h).run net calls).factory.pendingOp opId = some pending) :
    ∃ pre d mid, calls = pre ++ d :: mid ∧
      Proposed h ((machine h).run net pre) d opId pending.op ∧
      pending.effectiveTimestamp = d.ctx.timestamp + timelockDelaySeconds ∧
      (machine h).Each (fun net i _ => ¬Touches opId net i)
        ((machine h).run net (pre ++ [d])) mid := by
  have hsince := Machine.held_since (m := machine h) (p := Touches opId) (fun _ => True)
    (fun net => net.factory.pendingOp opId = some pending) (fun _ _ _ _ _ => trivial)
    (fun net i net' _ hnot hok hstored => by
      rw [← (pendingOp_step (invoke_effect hok)).2 hnot]
      exact hstored) trivial hpending
  rcases hsince with ⟨hstart, -⟩ | ⟨pre, d, mid, t, rfl, htouches, hok, -, hstored, hnone⟩
  · rw [hnone opId] at hstart
    cases hstart
  · have hexec := (machine h).exec_ok hok
    rcases (pendingOp_step (invoke_effect hok)).1 htouches with
      hgone | ⟨admin, op, hproposal, hnumber, hadmin, hfresh⟩
    · rw [hgone] at hstored
      cases hstored
    · rw [hfresh] at hstored
      cases hstored
      refine ⟨pre, d, mid, rfl, ⟨hproposal, hnumber, ⟨admin, hadmin⟩, ?_⟩, rfl, ?_⟩
      · exact except_isOk_iff.mpr ⟨t, hok⟩
      · rw [Machine.run_append, Machine.run_cons, hexec, Machine.run_nil]
        exact hnone

theorem change_takesEffect {creatorOf : Nat → Option Address} {categoryOf : Nat → Option Bytes}
    (hinit : Initialised h creatorOf categoryOf net) (first : List Invocation)
    (hchange : settings ((machine h).run net (first ++ [i])) ≠
      settings ((machine h).run net first)) :
    ∃ pre d mid, first = pre ++ d :: mid ∧ TakesEffect h net pre d mid i := by
  obtain ⟨hstart, hnone⟩ := configured_initialised hinit
  have hconfigured := (configured_run (h := h) hstart first).last
  have hnext : (machine h).run net (first ++ [i]) =
      (machine h).exec ((machine h).run net first) i := by
    rw [Machine.run_append, Machine.run_cons, Machine.run_nil]
  rw [hnext] at hchange
  rcases (machine h).exec_cases ((machine h).run net first) i with hok | ⟨-, hsame⟩
  · have heffect := invoke_effect hok
    by_cases hexecute : ∃ id, i.call = .executeConfigChange id
    · obtain ⟨id, hcall⟩ := hexecute
      rw [hcall] at heffect
      obtain ⟨admin, pending, hadmin, hpending, hdue, hput⟩ := executes_settings heffect
      obtain ⟨pre, d, mid, rfl, hproposed, htime, hquiet⟩ := proposed_of_pending hnone hpending
      have hexecuted : Executed h ((machine h).run net (pre ++ d :: mid)) i id :=
        ⟨hcall, ⟨admin, hadmin⟩, except_isOk_iff.mpr ⟨_, hok⟩⟩
      refine ⟨pre, d, mid, rfl, id, pending.op, hproposed, hexecuted, ?_, hquiet, ?_⟩
      · rw [← htime]
        exact hdue
      · rw [hnext]
        exact hput
    · exact absurd (settings_step hconfigured heffect (not_exists.mp hexecute)) hchange
  · rw [hsame] at hchange
    exact absurd rfl hchange

/-- No execution of the same operation lies before an effective one. -/
theorem takesEffect_first {pre mid mid' : List Invocation} {d i' : Invocation}
    (hfirst : TakesEffect h net pre d mid i) (hlater : TakesEffect h net pre d mid' i') :
    ¬(mid ++ [i]) <+: mid' := by
  rintro ⟨rest, rfl⟩
  obtain ⟨opId, op, hproposed, hexecuted, -, -, -⟩ := hfirst
  obtain ⟨opId', op', hproposed', -, -, hquiet, -⟩ := hlater
  have hnumber : opId' = opId := hproposed'.number.symm.trans hproposed.number
  have hrun : (machine h).run net (pre ++ d :: mid) =
      (machine h).run ((machine h).run net (pre ++ [d])) mid := by
    rw [← Machine.run_append, List.append_assoc, List.singleton_append]
  obtain ⟨t, hok⟩ := except_isOk hexecuted.committed
  rw [hrun] at hok
  rw [List.append_assoc, List.singleton_append] at hquiet
  have hnot := hquiet.at hok
  rw [Touches, hexecuted.call, hnumber] at hnot
  exact hnot rfl

theorem takesEffect_once {calls pre mid mid' : List Invocation} {d i' : Invocation}
    (hwithin : (pre ++ d :: mid ++ [i]) <+: calls) (hwithin' : (pre ++ d :: mid' ++ [i']) <+: calls)
    (heffect : TakesEffect h net pre d mid i) (heffect' : TakesEffect h net pre d mid' i') :
    mid = mid' := by
  have hdrop (mid : List Invocation) (i : Invocation) :
      pre ++ d :: mid ++ [i] = (pre ++ [d]) ++ (mid ++ [i]) := by simp
  rw [hdrop] at hwithin hwithin'
  rcases List.prefix_or_prefix_of_prefix hwithin hwithin' with hle | hle
  · rcases List.prefix_concat_iff.mp ((List.prefix_append_right_inj _).mp hle) with heq | hshort
    · exact (List.append_inj' heq rfl).1
    · exact absurd hshort (takesEffect_first heffect heffect')
  · rcases List.prefix_concat_iff.mp ((List.prefix_append_right_inj _).mp hle) with heq | hshort
    · exact (List.append_inj' heq rfl).1.symm
    · exact absurd hshort (takesEffect_first heffect' heffect)

/-- In every run each change of the settings carries out an operation that was
proposed a full delay before and not touched since, no proposal takes effect
twice, and the fee stays within its bound. -/
theorem configuration_timelocked {creatorOf : Nat → Option Address}
    {categoryOf : Nat → Option Bytes} (hinit : Initialised h creatorOf categoryOf net)
    (calls : List Invocation) :
    (∀ first i rest, calls = first ++ i :: rest →
      settings ((machine h).run net (first ++ [i])) ≠ settings ((machine h).run net first) →
      ∃ pre d mid, first = pre ++ d :: mid ∧ TakesEffect h net pre d mid i) ∧
    (∀ pre d mid mid' i i', (pre ++ d :: mid ++ [i]) <+: calls →
      (pre ++ d :: mid' ++ [i']) <+: calls → TakesEffect h net pre d mid i →
      TakesEffect h net pre d mid' i' → mid = mid') ∧
    (machine h).Always (fun net => ∀ bp, net.factory.protocolFeeBp = some bp →
      bp ≤ maxProtocolFeeBp) net calls := by
  refine ⟨?_, ?_, ?_⟩
  · intro first i rest _ hchange
    exact change_takesEffect hinit first hchange
  · intro pre d mid mid' i i' hwithin hwithin' heffect heffect'
    exact takesEffect_once hwithin hwithin' heffect heffect'
  · refine (configured_run (configured_initialised hinit).1 calls).mono fun net hw bp hbp => ?_
    obtain ⟨bp', hstored, hbound⟩ := hw.fee
    have hsame : net.factory.protocolFeeBp = some bp' := hstored
    rw [hbp] at hsame
    cases hsame
    exact hbound

open Instance.Sample (admin) in
def feeRun : List Invocation :=
  [Sample.signed [admin] 10 (.proposeFeeChange 250),
    Sample.signed [admin] (10 + timelockDelaySeconds) (.executeConfigChange 1)]

theorem configuration_timelocked_feeRun :
    Fresh Sample.host Sample.start ∧
    (settings (Sample.after feeRun)).protocolFeeBp = some 250 ∧
    ∃ pre d mid, feeRun.take 1 = pre ++ d :: mid ∧
      TakesEffect Sample.host Sample.start pre d mid
        (Sample.signed [Instance.Sample.admin] (10 + timelockDelaySeconds)
          (.executeConfigChange 1)) :=
  ⟨Sample.start_fresh, by decide +kernel,
    (configuration_timelocked Sample.start_fresh feeRun).1 _ _ [] rfl (by decide +kernel)⟩

end TikkaRaffle.Properties
