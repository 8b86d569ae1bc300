import TikkaRaffle.Escrow.Wallets
import TikkaRaffle.Factory.Deployed

/-! What the contracts can do to token balances. Over the whole system no call
takes from an account that has not signed it, and a raffle only ever spends its
own holdings; tokens are neither made nor lost and nothing is overdrawn. -/
namespace TikkaRaffle.Properties

open TikkaRaffle.Lib TikkaRaffle.Factory

variable {h : Host} {c : Ctx} {net net' : Net}

/-- The accounts whose balance a call of the system may lower: the signers that
are not contracts, the raffle it addresses, and the factory in a rescue. -/
def spendable (h : Host) (net : Net) (i : Invocation) (a : Address) : Prop :=
  a ∈ i.ctx.auths ∧ ¬addressInUse h net a ∨ (∃ call, i.call = .raffle a call) ∨
    a = h.self ∧ ∃ token recipient amount, i.call = .rescueTokens token recipient amount

theorem signed_outside {a : Address} (ha : a ∈ (net.signed h c).auths) :
    a ∈ c.auths ∧ ¬addressInUse h net a := by
  simpa [Net.signed, addressInUse] using ha

/-- No call that the factory forwards moves tokens. -/
theorem forwarded_balance {order : Forwarded}
    {entry : Instance.Host → Instance.Ctx → Instance.World → Instance.Result Instance.World}
    (hentry : order.entry = some entry) {host : Instance.Host} {ctx : Instance.Ctx}
    {w w' : Instance.World} (hok : entry host ctx w = .ok w') : w'.balance = w.balance := by
  cases order with
  | pause =>
    cases hentry
    exact Escrow.invoke_still (i := ⟨ctx, .pause⟩) rfl hok
  | unpause =>
    cases hentry
    exact Escrow.invoke_still (i := ⟨ctx, .unpause⟩) rfl hok
  | wipeStorage =>
    cases hentry
    exact Escrow.invoke_still (i := ⟨ctx, .wipeStorage⟩) rfl hok
  | setAdmin => cases hentry

theorem forward_balance {target : Address} {order : Forwarded}
    (hok : forward h c net target order = .ok net') : net'.balance = net.balance := by
  rcases forward_cases hok with ⟨entry, w, w', hentry, hw, hrun, rfl⟩ | ⟨-, -, rfl⟩
  · obtain ⟨stored, -, rfl⟩ := Option.map_eq_some_iff.mp hw
    exact forwarded_balance hentry hrun
  · rfl

theorem callRaffle_postings {raffle : Address} {call : Instance.Call}
    (hok : callRaffle h c net raffle call = .ok net') :
    Ledger.Postings (fun a => a = raffle ∨ a ∈ c.auths) net.balance net'.balance := by
  simp only [callRaffle, except_bind_ok, found_ok, except_mapError_ok, except_pure_ok, Net.world,
    Option.map_eq_some_iff] at hok
  obtain ⟨w, ⟨stored, -, rfl⟩, w', hinvoke, _, -, rfl⟩ := hok
  exact Escrow.invoke_debits hinvoke

theorem rescueTokens_postings {token recipient : Address} {amount : Int}
    (hok : rescueTokens h c net token recipient amount = .ok net') :
    Ledger.Postings (· = h.self) net.balance net'.balance := by
  simp only [rescueTokens, except_bind_ok, Factory.ensure_ok, exists_const, except_pure_ok] at hok
  obtain ⟨_, -, hpos, hcovered, rfl⟩ := hok
  exact .single ⟨token, h.self, recipient, amount, rfl, hpos.le, hcovered, rfl⟩

def Call.internal : Call → Bool
  | .createRaffle .. | .triggerNextRound _ | .cleanOldRaffle _ | .pauseInstance _
  | .unpauseInstance _ | .syncAdmin _ | .rescueTokens .. | .raffle .. => false
  | _ => true

theorem internal_balance {call : Call} (hinternal : Call.internal call = true)
    (hok : invokeSigned h c net call = .ok net') : net'.balance = net.balance := by
  cases call with
  | createRaffle | triggerNextRound | cleanOldRaffle | pauseInstance | unpauseInstance
  | syncAdmin | rescueTokens | raffle => cases hinternal
  | _ =>
    obtain ⟨_, -, rfl⟩ := except_map_ok.mp hok
    rfl

/-- Every committed call moves tokens by covered postings of spendable accounts. -/
theorem invoke_postings {i : Invocation} (hok : invoke h i net = .ok net') :
    Ledger.Postings (spendable h net i) net.balance net'.balance := by
  obtain ⟨c, call⟩ := i
  have hkept (heq : net'.balance = net.balance) :
      Ledger.Postings (spendable h net ⟨c, call⟩) net.balance net'.balance := by rw [heq]
  cases call with
  | createRaffle =>
    obtain ⟨⟨_, _⟩, hcreate, rfl⟩ := except_map_ok.mp hok
    exact hkept (createRaffle_balance hcreate)
  | triggerNextRound =>
    obtain ⟨⟨_, _⟩, htrigger, rfl⟩ := except_map_ok.mp hok
    exact hkept (triggerNextRound_balance htrigger)
  | cleanOldRaffle =>
    simp only [invoke, invokeSigned, cleanOldRaffle, except_bind_ok, except_pure_ok] at hok
    obtain ⟨_, -, _, -, _, -, net₁, hforward, rfl⟩ := hok
    have hwiped := forward_balance hforward
    exact hkept hwiped
  | pauseInstance | unpauseInstance | syncAdmin =>
    simp only [invoke, invokeSigned, pauseInstance, unpauseInstance, syncAdmin,
      except_bind_ok] at hok
    obtain ⟨_, -, hforward⟩ := hok
    exact hkept (forward_balance hforward)
  | rescueTokens token recipient amount =>
    exact (rescueTokens_postings hok).mono fun a ha => .inr (.inr ⟨ha, _, _, _, rfl⟩)
  | raffle raffle call =>
    refine (callRaffle_postings hok).mono fun a ha => ?_
    rcases ha with rfl | hsigned
    · exact .inr (.inl ⟨call, rfl⟩)
    · exact .inl (signed_outside hsigned)
  | _ => exact hkept (internal_balance rfl hok)

/-- In every run of the system a balance only falls in a call its holder has
signed, a call to the raffle that holds it, or a rescue of the factory's own
tokens; no balance is ever negative, and the tokens are conserved. -/
theorem wallets_safe {creators : Nat → Option Address} {categories : Nat → Option Bytes}
    (hinit : Initialised h creators categories net) (calls : List Invocation) :
    (machine h).Each (fun s i s' => ∀ token a, s'.balance token a < s.balance token a →
        spendable h s i a) net calls ∧
      (machine h).Always (fun s => ∀ token a, 0 ≤ s.balance token a) net calls ∧
      Ledger.Conserved net.balance ((machine h).run net calls).balance := by
  obtain ⟨_, holdings, _, _, _, _, s, -, rfl⟩ := hinit
  refine ⟨?_, ?_, ?_⟩
  · refine Machine.each_of_step (fun _ => True) (fun _ _ _ _ _ => trivial) ?_ trivial calls
    intro s i s' _ hok token a hfell
    by_contra hnot
    exact hfell.not_ge ((invoke_postings hok).kept hnot token)
  · refine Machine.always_of_step _ (fun s i s' hs hok => ?_) (fun token a => ?_) calls
    · exact (invoke_postings hok).nonneg hs
    · exact Int.natCast_nonneg _
  · have hall : (machine h).Always (fun s' => Ledger.Conserved (Net.launched s holdings).balance
        s'.balance) (Net.launched s holdings) calls :=
      Machine.always_of_step _ (fun s i s' hs hok => hs.trans (invoke_postings hok).conserved)
        (.refl _) calls
    exact hall.last

def paidRun : List Invocation :=
  [Sample.signed [Instance.Sample.creator] 300
      (.createRaffle Instance.Sample.creator Instance.Sample.config),
    Sample.signed [Instance.Sample.creator] 310 (.raffle Sample.firstRaffle .depositPrize),
    Sample.signed [Instance.Sample.creator] 320
      (.raffle Sample.firstRaffle (.buyTickets Instance.Sample.buyer 1)),
    Sample.signed [Instance.Sample.buyer] 330
      (.raffle Sample.firstRaffle (.buyTickets Instance.Sample.buyer 1))]

theorem wallets_safe_paidRun :
    (machine Sample.host).Each (fun s i s' => ∀ token a, s'.balance token a < s.balance token a →
        spendable Sample.host s i a) Sample.start paidRun ∧
      (machine Sample.host).Always (fun s => ∀ token a, 0 ≤ s.balance token a) Sample.start
        paidRun ∧
      Ledger.Conserved Sample.start.balance (Sample.after paidRun).balance :=
  wallets_safe Sample.start_fresh paidRun

example : (Sample.after paidRun).balance Instance.Sample.token Instance.Sample.buyer = 990000 ∧
    (Sample.after paidRun).balance Instance.Sample.token Sample.firstRaffle = 29900 := by
  decide +kernel

end TikkaRaffle.Properties
