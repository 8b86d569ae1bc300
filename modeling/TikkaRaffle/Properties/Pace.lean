import TikkaRaffle.Factory.Tallies
import TikkaRaffle.Lib.Spacing

/-! The wait between two creations. A creator who is not a partner leaves the
delay in force between any two raffles, whatever else is called in between. -/
namespace TikkaRaffle.Properties

open TikkaRaffle.Lib TikkaRaffle.Factory

variable {h : Host} {c : Ctx} {net net' : Net} {s s' : State} {creator : Address}
  {log : List Admission}

/-- A creation that had to wait, with the delay then in force. -/
def limitedCreation (creator : Address) (net : Net) (i : Invocation) (_ : Net) : List Admission :=
  match i.call with
  | .createRaffle own _ =>
      if own = creator ∧ (net.factory.whitelistedPartner creator).getD false = false then
        [⟨i.ctx.timestamp, net.factory.minCreationDelay.getD 300⟩]
      else []
  | _ => []

theorem setWhitelistStatus_times {partner : Address} {status : Bool}
    (hok : setWhitelistStatus h c s partner status = .ok s') :
    s'.lastCreationTime = s.lastCreationTime := by
  simp only [setWhitelistStatus, except_bind_ok] at hok
  obtain ⟨_, -, hok⟩ := hok
  split at hok
  next =>
    split at hok <;>
    · cases hok
      rfl
  next =>
    split at hok <;>
    · cases hok
      rfl

theorem answer_times {caller : Address} {notice : Instance.FactoryCall}
    (hok : answer h c caller s notice = .ok s') : s'.lastCreationTime = s.lastCreationTime := by
  rw [answer_writes hok]
  cases notice with
  | recordVolume | recordLeaderboardEntry => rfl
  | trackParticipant =>
    simp only [State.answered]
    split <;> rfl

theorem createRaffleInternal_times {raffle : Address} {config : RaffleConfig}
    (hok : createRaffleInternal h c net creator config = .ok (net', raffle)) :
    net'.factory.lastCreationTime = net.factory.lastCreationTime := by
  simp only [createRaffleInternal, register, except_bind_ok, except_pure_ok, Prod.mk.injEq] at hok
  obtain ⟨_, -, _, -, _, -, w, -, s, ⟨count, -, rfl⟩, rfl, -⟩ := hok
  unfold maybeCreateCheckpoint
  split <;> rfl

theorem createRaffle_times {raffle : Address} {config : RaffleConfig}
    (hok : createRaffle h c net creator config = .ok (net', raffle)) :
    ∃ s, limitCreation c net.factory creator = .ok s ∧
      net'.factory.lastCreationTime = s.lastCreationTime := by
  simp only [createRaffle, except_bind_ok] at hok
  obtain ⟨_, -, _, -, _, -, s, hlimit, _, -, _, -, _, -, hcreate⟩ := hok
  exact ⟨s, hlimit, createRaffleInternal_times hcreate⟩

theorem invokeSigned_times {call : Call} (hother : ∀ own config, call ≠ .createRaffle own config)
    (hok : invokeSigned h c net call = .ok net') :
    net'.factory.lastCreationTime = net.factory.lastCreationTime := by
  cases call with
  | createRaffle own config => exact absurd rfl (hother own config)
  | setWhitelistStatus =>
    obtain ⟨s', hset, rfl⟩ := except_map_ok.mp hok
    exact setWhitelistStatus_times hset
  | createRecurringRaffle =>
    simp only [invokeSigned, except_map_ok, createRecurringRaffle, except_bind_ok,
      except_pure_ok] at hok
    obtain ⟨_, ⟨_, -, _, -, _, -, _, -, rfl⟩, rfl⟩ := hok
    rfl
  | triggerNextRound =>
    simp only [invokeSigned, except_map_ok, triggerNextRound, except_bind_ok,
      except_pure_ok] at hok
    obtain ⟨_, ⟨_, -, _, -, _, -, _, -, _, -, _, -, ⟨net₁, raffle⟩, hcreate, rfl⟩, rfl⟩ := hok
    have hsame := createRaffleInternal_times hcreate
    exact hsame
  | report =>
    simp only [invokeSigned, except_map_ok, report, except_bind_ok] at hok
    obtain ⟨_, ⟨_, -, hanswer⟩, rfl⟩ := hok
    exact answer_times hanswer
  | raffle =>
    simp only [invokeSigned, callRaffle, except_bind_ok, except_pure_ok] at hok
    obtain ⟨w, -, w', -, s, hanswers, rfl⟩ := hok
    have hreads := answerAll_reads State.lastCreationTime (fun times _ => times) answer_times
      hanswers
    rwa [List.foldl_fixed] at hreads
  | _ => exact congrArg Prod.snd (invokeSigned_margin rfl rfl hok)

/-- The admissions so far are spaced and none is later than the stored time. -/
structure Paced (creator : Address) (log : List Admission) (net : Net) : Prop where
  spaced : Spaced log
  latest : ∀ e ∈ log, e.time ≤ (net.factory.lastCreationTime creator).getD 0

theorem Paced.quiet (hs : Paced creator log net)
    (hsame : net'.factory.lastCreationTime creator = net.factory.lastCreationTime creator) :
    Paced creator log net' :=
  ⟨hs.spaced, by rw [hsame]; exact hs.latest⟩

theorem Paced.limited {unlock : Nat} (hs : Paced creator log net)
    (hunlock : (net.factory.lastCreationTime creator).getD 0 +
      net.factory.minCreationDelay.getD 300 = unlock) {time : Nat} (hwait : unlock ≤ time)
    (hstored : net'.factory.lastCreationTime creator = some time) :
    Paced creator (log ++ [⟨time, net.factory.minCreationDelay.getD 300⟩]) net' := by
  have hlast := hs.latest
  refine ⟨hs.spaced.grant hlast (hunlock.trans_le hwait), fun e he => ?_⟩
  rw [hstored, Option.getD_some]
  rcases List.mem_append.mp he with hold | hnew
  · have hbefore := hlast e hold
    omega
  · rw [List.mem_singleton.mp hnew]

theorem paced_create {own raffle : Address} {config : RaffleConfig} (hs : Paced creator log net)
    (hok : createRaffle h (net.signed h c) net own config = .ok (net', raffle)) :
    Paced creator (log ++ limitedCreation creator net ⟨c, .createRaffle own config⟩ net') net' := by
  obtain ⟨s, hlimit, htimes⟩ := createRaffle_times hok
  unfold limitCreation at hlimit
  split at hlimit
  next hpartner =>
    cases hlimit
    have hnone : limitedCreation creator net ⟨c, .createRaffle own config⟩ net' = [] := by
      refine if_neg ?_
      rintro ⟨rfl, hlimited⟩
      rw [hpartner] at hlimited
      cases hlimited
    rw [hnone, List.append_nil]
    exact hs.quiet (congrFun htimes creator)
  next hpartner =>
    simp only [except_bind_ok, Factory.trapU64_ok, Factory.ensure_ok, exists_const,
      except_pure_ok] at hlimit
    obtain ⟨unlock, ⟨-, hunlock⟩, hwait, rfl⟩ := hlimit
    by_cases hown : own = creator
    · subst hown
      have hnote : limitedCreation own net ⟨c, .createRaffle own config⟩ net' =
          [⟨c.timestamp, net.factory.minCreationDelay.getD 300⟩] :=
        if_pos ⟨rfl, Bool.eq_false_iff.mpr hpartner⟩
      rw [hnote]
      refine hs.limited hunlock hwait ?_
      rw [htimes]
      exact Function.update_self ..
    · have hnone : limitedCreation creator net ⟨c, .createRaffle own config⟩ net' = [] :=
        if_neg fun hboth => hown hboth.1
      rw [hnone, List.append_nil]
      refine hs.quiet ?_
      rw [htimes]
      exact Function.update_of_ne (Ne.symm hown) ..

theorem paced_step {i : Invocation} (hs : Paced creator log net)
    (hok : invoke h i net = .ok net') :
    Paced creator (log ++ limitedCreation creator net i net') net' := by
  obtain ⟨c, call⟩ := i
  cases call with
  | createRaffle own config =>
    obtain ⟨⟨_, raffle⟩, hcreate, rfl⟩ := except_map_ok.mp hok
    exact paced_create hs hcreate
  | _ =>
    have hsame := invokeSigned_times (fun _ _ => Call.noConfusion) hok
    rw [limitedCreation, List.append_nil]
    exact hs.quiet (congrFun hsame creator)

/-- In every run of the system the creations of a creator that were not waived
are spaced by the delays in force, so in a window of time there are at most as
many as the least of these delays has room for. -/
theorem creations_spaced (h : Host) (net : Net) (calls : List Invocation) (creator : Address) :
    Spaced ((machine h).journal (limitedCreation creator) net calls) ∧
      ∀ delay first last,
        (∀ e ∈ (machine h).journal (limitedCreation creator) net calls, delay ≤ e.delay) →
        delay * ((((machine h).journal (limitedCreation creator) net calls).filter
          fun e => first ≤ e.time ∧ e.time ≤ last).length - 1) ≤ last - first := by
  have hstart : Paced creator [] net := ⟨.nil, fun e he => nomatch he⟩
  have hall : Paced creator ((machine h).journal (limitedCreation creator) net calls)
      ((machine h).run net calls) :=
    Machine.journal_of_step (Paced creator) (fun _ _ _ _ hs hok => paced_step hs hok) hstart calls
  exact ⟨hall.spaced, fun delay first last hdelay => hall.spaced.window hdelay⟩

def hastyRun : List Invocation :=
  [Sample.signed [Instance.Sample.creator] 300
      (.createRaffle Instance.Sample.creator Instance.Sample.config),
    Sample.signed [Instance.Sample.creator] 400 (.createRaffle Instance.Sample.creator
      { Instance.Sample.config with description := [1] }),
    Sample.signed [Instance.Sample.admin] 410 (.setCreationDelay 120),
    Sample.signed [Instance.Sample.creator] 420 (.createRaffle Instance.Sample.creator
      { Instance.Sample.config with description := [1] })]

theorem creations_spaced_hastyRun :
    (machine Sample.host).journal (limitedCreation Instance.Sample.creator) Sample.start hastyRun =
      [⟨300, 300⟩, ⟨420, 120⟩] ∧
    Spaced ((machine Sample.host).journal (limitedCreation Instance.Sample.creator) Sample.start
      hastyRun) :=
  ⟨by decide +kernel, (creations_spaced _ _ _ _).1⟩

end TikkaRaffle.Properties
