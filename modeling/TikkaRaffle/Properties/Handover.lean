import TikkaRaffle.Properties.Configuration

/-! The two-step change of the factory's admin. The office only passes to an
address that the admin of the time has nominated, that has itself signed, and
whose nomination nothing has disturbed in between. -/
namespace TikkaRaffle.Properties

open TikkaRaffle.Lib TikkaRaffle.Factory

def handsOver : Call → Bool
  | .transferFactoryAdmin _ | .acceptFactoryAdmin => true
  | _ => false

structure Nominated (h : Host) (net : Net) (d : Invocation) (current successor : Address) :
    Prop where
  call : d.call = .transferFactoryAdmin successor
  signed : AdminSigned h (net.signed h d.ctx) net.factory current
  other : successor ≠ current
  existing : d.ctx.existing successor = true
  committed : (invoke h d net).isOk = true

structure Accepted (net net' : Net) (i : Invocation) (current successor : Address) : Prop where
  call : i.call = .acceptFactoryAdmin
  signed : successor ∈ i.ctx.auths
  before : net.factory.admin = some current
  after : net'.factory.admin = some successor

def office (net : Net) : Option Address × Option Address :=
  (net.factory.admin, net.factory.pendingAdmin)

variable {h : Host} {c : Ctx} {net net' : Net} {i : Invocation} {current successor : Address}

/-- A nomination is made by the admin and only when none is open; naming
oneself withdraws an open one. -/
theorem transferFactoryAdmin_ok {s s' : State}
    (hok : transferFactoryAdmin h c s successor = .ok s') :
    ∃ admin, AdminSigned h c s admin ∧ s'.admin = some admin ∧
      (s'.pendingAdmin = none ∨ s.pendingAdmin = none ∧ s'.pendingAdmin = some successor ∧
        successor ≠ admin ∧ c.existing successor = true ∧ successor ≠ h.self) := by
  simp only [transferFactoryAdmin, except_bind_ok, requireAdmin_ok] at hok
  obtain ⟨admin, hadmin, hok⟩ := hok
  refine ⟨admin, hadmin, ?_⟩
  split at hok
  next =>
    cases hok
    exact ⟨hadmin.1, .inl rfl⟩
  next hother =>
    simp only [requireValidRoleAddress, except_bind_ok, Factory.ensure_ok, exists_const,
      except_pure_ok, Option.isNone_iff_eq_none] at hok
    obtain ⟨⟨hexisting, hself⟩, hnone, rfl⟩ := hok
    exact ⟨hadmin.1, .inr ⟨hnone, rfl, hother, hexisting, hself⟩⟩

theorem acceptFactoryAdmin_ok {s s' : State} (hok : acceptFactoryAdmin h c s = .ok s') :
    ∃ pending, s.pendingAdmin = some pending ∧ pending ∈ c.auths ∧ pending ≠ h.self ∧
      s'.admin = some pending ∧ s'.pendingAdmin = none := by
  simp only [acceptFactoryAdmin, except_bind_ok, Factory.okOr_ok, requireAuth_ok, exists_const,
    except_pure_ok] at hok
  obtain ⟨pending, hpending, ⟨hsigned, hself⟩, _, -, rfl⟩ := hok
  exact ⟨pending, hpending, hsigned, hself, rfl, rfl⟩

theorem apply_office (g : Governance) (op : AdminOp) :
    ((g.apply op).admin, (g.apply op).pendingAdmin) = (g.admin, g.pendingAdmin) := by
  cases op with
  | setConfig key => cases key <;> rfl
  | _ => rfl

theorem office_step (hw : Configured net.factory.core.governance)
    (he : i.call.Effect h c net net') (hother : handsOver i.call = false) :
    office net' = office net := by
  obtain ⟨ctx, call⟩ := i
  let held (g : Governance) : Option Address × Option Address := (g.admin, g.pendingAdmin)
  cases call with
  | initFactory =>
    have hfirst : net.factory.core.governance.initialized = none := he.1
    rw [hw.initialized] at hfirst
    cases hfirst
  | setConfig | proposeFeeChange | proposeWasmUpgrade =>
    obtain ⟨_, -, hgoverns⟩ := he
    exact congrArg held hgoverns.governance
  | executeConfigChange =>
    obtain ⟨_, pending, -, -, -, -, hgoverns⟩ := he
    have heffect := congrArg held hgoverns.governance
    exact heffect.trans (apply_office ..)
  | cancelConfigChange => exact congrArg held (Governs.governance he)
  | transferFactoryAdmin | acceptFactoryAdmin => cases hother
  | _ => exact congrArg held (he.frame.governance rfl)

/-- The admin is not the factory, and the nominee is neither of the two. -/
def Governed (h : Host) (net : Net) : Prop :=
  Configured net.factory.core.governance ∧ ∃ admin, net.factory.admin = some admin ∧
    admin ≠ h.self ∧ ∀ pending, net.factory.pendingAdmin = some pending →
      pending ≠ admin ∧ pending ≠ h.self

theorem governed_step (hw : Governed h net) (hok : invoke h i net = .ok net') :
    Governed h net' := by
  obtain ⟨hconfigured, admin, hadmin, hself, hpending⟩ := hw
  refine ⟨configured_step hconfigured (invoke_effect hok), ?_⟩
  by_cases hother : handsOver i.call = false
  · have hsame := office_step hconfigured (invoke_effect hok) hother
    simp only [office, Prod.mk.injEq] at hsame
    rw [hsame.1, hsame.2]
    exact ⟨admin, hadmin, hself, hpending⟩
  obtain ⟨ctx, call⟩ := i
  cases call with
  | transferFactoryAdmin successor =>
    obtain ⟨s', htransfer, rfl⟩ := except_map_ok.mp hok
    obtain ⟨current, ⟨-, -, hsigner⟩, hstays, hnext⟩ := transferFactoryAdmin_ok htransfer
    refine ⟨current, hstays, hsigner, fun pending hstored => ?_⟩
    have hstored' : s'.pendingAdmin = some pending := hstored
    rcases hnext with hnone | ⟨-, hsome, hne, -, hnself⟩
    · rw [hnone] at hstored'
      cases hstored'
    · rw [hsome] at hstored'
      cases hstored'
      exact ⟨hne, hnself⟩
  | acceptFactoryAdmin =>
    obtain ⟨s', haccept, rfl⟩ := except_map_ok.mp hok
    obtain ⟨pending, -, -, hnself, hstays, hnone⟩ := acceptFactoryAdmin_ok haccept
    refine ⟨pending, hstays, hnself, fun _ hstored => ?_⟩
    have hstored' : s'.pendingAdmin = _ := hstored
    rw [hnone] at hstored'
    cases hstored'
  | _ => exact absurd rfl hother

theorem change_accepted (hw : Governed h net) (hok : invoke h i net = .ok net')
    (hchange : net'.factory.admin ≠ net.factory.admin) :
    ∃ current successor, Accepted net net' i current successor ∧
      net.factory.pendingAdmin = some successor := by
  obtain ⟨hconfigured, admin, hadmin, -⟩ := hw
  by_cases hother : handsOver i.call = false
  · have hsame := office_step hconfigured (invoke_effect hok) hother
    exact absurd (congrArg Prod.fst hsame) hchange
  obtain ⟨ctx, call⟩ := i
  cases call with
  | transferFactoryAdmin successor =>
    obtain ⟨s', htransfer, rfl⟩ := except_map_ok.mp hok
    obtain ⟨current, ⟨hcurrent, -⟩, hstays, -⟩ := transferFactoryAdmin_ok htransfer
    exact absurd (hstays.trans hcurrent.symm) hchange
  | acceptFactoryAdmin =>
    obtain ⟨s', haccept, rfl⟩ := except_map_ok.mp hok
    obtain ⟨pending, hpending, hsigned, -, hstays, -⟩ := acceptFactoryAdmin_ok haccept
    exact ⟨admin, pending, ⟨rfl, (List.mem_filter.mp hsigned).1, hadmin, hstays⟩, hpending⟩
  | _ => exact absurd rfl hother

theorem governed_initialised {creatorOf : Nat → Option Address}
    {categoryOf : Nat → Option Bytes} (hinit : Initialised h creatorOf categoryOf net) :
    Governed h net ∧ net.factory.pendingAdmin = none := by
  have hconfigured := (configured_initialised hinit).1
  obtain ⟨c, holdings, admin, wasmHash, protocolFeeBp, treasury, s, hok, rfl⟩ := hinit
  simp only [initFactory, requireValidRoleAddress, except_bind_ok, Factory.ensure_ok, exists_const,
    except_pure_ok] at hok
  obtain ⟨-, -, ⟨-, hself⟩, -, rfl⟩ := hok
  refine ⟨⟨hconfigured, admin, rfl, hself, fun _ hpending => ?_⟩, rfl⟩
  cases hpending

theorem nominated_of_pending (hw : Governed h net) (hnone : net.factory.pendingAdmin = none)
    {calls : List Invocation}
    (hoffice : office ((machine h).run net calls) = (some current, some successor)) :
    ∃ pre d mid, calls = pre ++ d :: mid ∧
      Nominated h ((machine h).run net pre) d current successor ∧
      ∀ e ∈ (machine h).committed ((machine h).run net (pre ++ [d])) mid,
        handsOver e.call = false := by
  have hsince := Machine.holds_since (m := machine h) (p := fun i => handsOver i.call = true)
    (Governed h) (fun net => office net = (some current, some successor))
    (fun _ _ _ hw hok => governed_step hw hok)
    (fun net i net' hw hnot hok hstored => by
      rw [← office_step hw.1 (invoke_effect hok) (Bool.not_eq_true _ ▸ hnot)]
      exact hstored) hw hoffice
  rcases hsince with ⟨hstart, -⟩ | ⟨pre, d, mid, t, rfl, hp, hok, -, hheld, hquiet⟩
  · have hpending := congrArg Prod.snd hstart
    rw [office, hnone] at hpending
    cases hpending
  have hpending : t.factory.pendingAdmin = some successor := congrArg Prod.snd hheld
  have hadmin : t.factory.admin = some current := congrArg Prod.fst hheld
  refine ⟨pre, d, mid, rfl, ?_, fun e he => ?_⟩
  · obtain ⟨ctx, call⟩ := d
    have hcommitted := except_isOk_iff.mpr ⟨t, hok⟩
    cases call with
    | transferFactoryAdmin named =>
      obtain ⟨s', htransfer, rfl⟩ := except_map_ok.mp hok
      obtain ⟨admin, hsigned, hstays, hnext⟩ := transferFactoryAdmin_ok htransfer
      cases hstays.symm.trans hadmin
      rcases hnext with hgone | ⟨-, hnamed, hne, hexisting, -⟩
      · cases hgone.symm.trans hpending
      · cases hnamed.symm.trans hpending
        exact ⟨rfl, hsigned, hne, hexisting, hcommitted⟩
    | acceptFactoryAdmin =>
      obtain ⟨s', haccept, rfl⟩ := except_map_ok.mp hok
      obtain ⟨_, -, -, -, -, hgone⟩ := acceptFactoryAdmin_ok haccept
      cases hgone.symm.trans hpending
    | _ => cases hp
  · rw [Machine.run_append, Machine.run_cons, (machine h).exec_ok hok, Machine.run_nil] at he
    simpa using hquiet e he

/-- In every run the admin of the factory changes only when the nominee accepts
with its own signature, after the admin it replaces has nominated it and no
other nomination, withdrawal or acceptance has come in between; there always is
an admin, and neither it nor a nominee is the factory itself. -/
theorem admin_handover {creatorOf : Nat → Option Address} {categoryOf : Nat → Option Bytes}
    (hinit : Initialised h creatorOf categoryOf net) (calls : List Invocation) :
    (∀ first i rest, calls = first ++ i :: rest →
      ((machine h).run net (first ++ [i])).factory.admin ≠
        ((machine h).run net first).factory.admin →
      ∃ current successor, Accepted ((machine h).run net first)
          ((machine h).run net (first ++ [i])) i current successor ∧
        ∃ pre d mid, first = pre ++ d :: mid ∧
          Nominated h ((machine h).run net pre) d current successor ∧
          ∀ e ∈ (machine h).committed ((machine h).run net (pre ++ [d])) mid,
            handsOver e.call = false) ∧
    (machine h).Always (fun net => ∃ admin, net.factory.admin = some admin ∧ admin ≠ h.self ∧
      ∀ pending, net.factory.pendingAdmin = some pending →
        pending ≠ admin ∧ pending ≠ h.self) net calls := by
  obtain ⟨hstart, hnone⟩ := governed_initialised hinit
  have hrun (calls : List Invocation) : (machine h).Always (Governed h) net calls :=
    Machine.always_of_step (Governed h) (fun _ _ _ hw hok => governed_step hw hok) hstart calls
  refine ⟨fun first i rest _ hchange => ?_, (hrun calls).mono fun _ hw => hw.2⟩
  have hnext : (machine h).run net (first ++ [i]) =
      (machine h).exec ((machine h).run net first) i := by
    rw [Machine.run_append, Machine.run_cons, Machine.run_nil]
  rw [hnext] at hchange ⊢
  rcases (machine h).exec_cases ((machine h).run net first) i with hok | ⟨-, hsame⟩
  · obtain ⟨current, successor, haccepted, hpending⟩ :=
      change_accepted (hrun first).last hok hchange
    refine ⟨current, successor, haccepted, nominated_of_pending hstart hnone ?_⟩
    rw [office, haccepted.before, hpending]
  · rw [hsame] at hchange
    exact absurd rfl hchange

open Instance.Sample (admin creator) in
def handoverRun : List Invocation :=
  [Sample.signed [admin] 10 (.transferFactoryAdmin creator),
    Sample.signed [creator] 20 .acceptFactoryAdmin]

theorem admin_handover_handoverRun :
    (Sample.after handoverRun).factory.admin = some Instance.Sample.creator ∧
    ∃ current successor, Accepted ((machine Sample.host).run Sample.start (handoverRun.take 1))
        (Sample.after handoverRun) (Sample.signed [Instance.Sample.creator] 20 .acceptFactoryAdmin)
        current successor ∧
      ∃ pre d mid, handoverRun.take 1 = pre ++ d :: mid ∧
        Nominated Sample.host ((machine Sample.host).run Sample.start pre) d current successor ∧
        ∀ e ∈ (machine Sample.host).committed
            ((machine Sample.host).run Sample.start (pre ++ [d])) mid,
          handsOver e.call = false :=
  ⟨by decide +kernel, (admin_handover Sample.start_fresh handoverRun).1 _ _ [] rfl
    (by decide +kernel)⟩

end TikkaRaffle.Properties
