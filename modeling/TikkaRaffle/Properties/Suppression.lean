import Mathlib.Data.Int.Order.Basic
import TikkaRaffle.Properties.Alerts

/-! What silences an alert. The rate limit goes by a time that a rejected alert
has already moved. -/
namespace TikkaRaffle.Properties

open TikkaRaffle.Oracle TikkaRaffle.Oracle.Alerting

variable {alerter : Alerter} {alert : AlertPayload} {now t : Int} {reply : FetchReply}
  {s : AlerterState}

theorem sentAt_eq_some {type other : String} {last : Int}
    (h : (s.sentAt type now).lastSentAt other = some last) :
    other = type ∧ last = now ∨ s.lastSentAt other = some last := by
  by_cases hsame : other = type
  · subst hsame
    rw [AlerterState.lastSentAt_sentAt] at h
    exact .inl ⟨rfl, (Option.some.inj h).symm⟩
  · rw [AlerterState.lastSentAt_sentAt_of_ne hsame] at h
    exact .inr h

/-- The times are in the past and no request is later than the time of its type;
requests under the limit stand apart. -/
structure Ordered (alerter : Alerter) (t : Int) (s : AlerterState) : Prop where
  recent : ∀ type last, s.lastSentAt type = some last → last ≤ t
  noted : ∀ post ∈ s.posts, ∃ last, s.lastSentAt post.alert.type = some last ∧ post.time ≤ last
  spaced : s.posts.Pairwise fun p q => p.alert.type = q.alert.type →
    q.alert.bypasses = false → alerter.rateLimitMs ≤ q.time - p.time

namespace Ordered

theorem empty (alerter : Alerter) (t : Int) : Ordered alerter t {} :=
  ⟨fun _ _ h => (by cases h), fun _ h => (by cases h), List.Pairwise.nil⟩

theorem mono (h : Ordered alerter t s) (ht : t ≤ now) : Ordered alerter now s :=
  ⟨fun type last hlast => (h.recent type last hlast).trans ht, h.noted, h.spaced⟩

theorem sentAt (h : Ordered alerter t s) (ht : t ≤ now) (type : String) :
    Ordered alerter now (s.sentAt type now) := by
  refine ⟨fun other last hlast => ?_, fun post hpost => ?_, h.spaced⟩
  · rcases sentAt_eq_some hlast with ⟨-, rfl⟩ | hold
    · exact le_rfl
    · exact (h.recent other last hold).trans ht
  · obtain ⟨last, hlast, hle⟩ := h.noted post hpost
    by_cases hsame : post.alert.type = type
    · refine ⟨now, ?_, hle.trans ((h.recent _ _ hlast).trans ht)⟩
      rw [hsame, AlerterState.lastSentAt_sentAt]
    · exact ⟨last, by rwa [AlerterState.lastSentAt_sentAt_of_ne hsame], hle⟩

theorem posted (h : Ordered alerter t s) (ht : t ≤ now)
    (hpasses : ¬ alerter.suppresses alert now s) :
    Ordered alerter now ((s.sentAt alert.type now).posted alert now reply) := by
  have hsent := h.sentAt ht alert.type
  refine ⟨hsent.recent, fun post hpost => ?_, ?_⟩
  · rcases List.mem_append.mp hpost with hold | hnew
    · exact hsent.noted post hold
    · rw [List.mem_singleton.mp hnew]
      exact ⟨now, AlerterState.lastSentAt_sentAt alert.type now s, le_rfl⟩
  · refine List.pairwise_append.mpr ⟨h.spaced, List.pairwise_singleton .., ?_⟩
    intro p hp q hq htype hlimited
    rw [List.mem_singleton.mp hq] at htype hlimited ⊢
    obtain ⟨last, hlast, hle⟩ := h.noted p hp
    have hapart : ¬ now - last < alerter.rateLimitMs := by
      intro hnear
      refine hpasses ⟨hlimited, ?_⟩
      rw [← htype, hlast]
      exact hnear
    change alerter.rateLimitMs ≤ now - p.time
    omega

theorem notify (h : Ordered alerter t s) (ht : t ≤ now) (henabled : alerter.enabled = true)
    (alert : AlertPayload) (reply : FetchReply) :
    Ordered alerter now (alerter.notify alert now reply s).2 := by
  have hcases := notify_cases alert now reply s henabled
  generalize alerter.notify alert now reply s = result at hcases ⊢
  cases hcases with
  | suppressed => exact h.mono ht
  | requested hpasses => exact h.posted ht hpasses
  | unserialised => exact h.sentAt ht alert.type
  | refused => exact h.mono ht
  | noted => exact h.sentAt ht alert.type

theorem run (h : Ordered alerter t s) (henabled : alerter.enabled = true)
    {calls : List NotifyCall} (hclock : (t :: (calls.map (·.now) ++ [now])).Pairwise (· ≤ ·)) :
    Ordered alerter now (alerter.run s calls) := by
  induction calls generalizing s t with
  | nil => exact h.mono (List.rel_of_pairwise_cons hclock (by simp))
  | cons call rest ih =>
    obtain ⟨hfirst, hrest⟩ := List.pairwise_cons.mp hclock
    exact ih (h.notify (hfirst call.now (by simp)) henabled call.alert call.reply) hrest

end Ordered

/-- Every time of the rate limit is that of a request that went out. -/
def Truthful (s : AlerterState) : Prop :=
  ∀ type last, s.lastSentAt type = some last →
    ∃ post ∈ s.posts, post.alert.type = type ∧ post.time = last ∧ post.reply.reached = true

/-- The request of the alert goes out if one is made. -/
def Deliverable (call : NotifyCall) : Prop :=
  serialises (call.alert.payload call.now) = true ∧ call.reply.reached = true

/-- A call that the rate limit holds back, or that bypasses it and is rejected, or
whose time is on record, or whose request goes out. -/
def Harmless (alerter : Alerter) (call : NotifyCall) (s : AlerterState) : Prop :=
  alerter.suppresses call.alert call.now s ∨
    call.alert.bypasses = true ∧ ¬ Clean call.alert call.now ∨
    s.lastSentAt call.alert.type = some call.now ∨
    Clean call.alert call.now ∧ Deliverable call

theorem Truthful.posted (h : Truthful s) (hreached : reply.reached = true) :
    Truthful ((s.sentAt alert.type now).posted alert now reply) := by
  intro type last hlast
  rcases sentAt_eq_some hlast with ⟨rfl, rfl⟩ | hold
  · exact ⟨⟨alert, last, reply⟩, List.mem_append_right _ (List.mem_singleton_self _), rfl, rfl,
      hreached⟩
  · obtain ⟨post, hpost, hsent⟩ := h type last hold
    exact ⟨post, List.mem_append_left _ hpost, hsent⟩

theorem Truthful.sentAt (h : Truthful s) {type : String} (hlast : s.lastSentAt type = some now)
    {posts : List Post} (hposts : s.posts ⊆ posts) :
    Truthful { s.sentAt type now with posts := posts } := by
  intro other last hother
  have hold : s.lastSentAt other = some last := by
    rcases sentAt_eq_some hother with ⟨rfl, rfl⟩ | hold
    · exact hlast
    · exact hold
  obtain ⟨post, hpost, hsent⟩ := h other last hold
  exact ⟨post, hposts hpost, hsent⟩

theorem Truthful.notify (h : Truthful s) (henabled : alerter.enabled = true) {call : NotifyCall}
    (hharmless : Harmless alerter call s) :
    Truthful (alerter.notify call.alert call.now call.reply s).2 := by
  have hcases := notify_cases call.alert call.now call.reply s henabled
  generalize alerter.notify call.alert call.now call.reply s = result at hcases ⊢
  cases hcases with
  | suppressed => exact h
  | refused => exact h
  | requested hpasses hclean =>
    rcases hharmless with hsuppressed | ⟨-, hrejected⟩ | hlast | ⟨-, -, hreached⟩
    · exact (hpasses hsuppressed).elim
    · exact (hrejected hclean).elim
    · exact h.sentAt hlast (List.subset_append_left ..)
    · exact h.posted hreached
  | unserialised hpasses hclean hserial =>
    rcases hharmless with hsuppressed | ⟨-, hrejected⟩ | hlast | ⟨-, hserialises, -⟩
    · exact (hpasses hsuppressed).elim
    · exact (hrejected hclean).elim
    · exact h.sentAt hlast (List.Subset.refl _)
    · rw [hserial] at hserialises
      cases hserialises
  | noted hpasses hrejected hlimited =>
    rcases hharmless with hsuppressed | ⟨hbypass, -⟩ | hlast | ⟨hclean, -⟩
    · exact (hpasses hsuppressed).elim
    · rw [hlimited] at hbypass
      cases hbypass
    · exact h.sentAt hlast (List.Subset.refl _)
    · exact (hrejected hclean).elim

def AllHarmless (alerter : Alerter) (s : AlerterState) (calls : List NotifyCall) : Prop :=
  ∀ first call rest, calls = first ++ call :: rest → Harmless alerter call (alerter.run s first)

theorem Truthful.run (h : Truthful s) (henabled : alerter.enabled = true)
    {calls : List NotifyCall} (hharmless : AllHarmless alerter s calls) :
    Truthful (alerter.run s calls) := by
  induction calls generalizing s with
  | nil => exact h
  | cons call rest ih =>
    refine ih (h.notify henabled (hharmless [] call rest rfl)) ?_
    intro first later last heq
    exact hharmless (call :: first) later last (by rw [heq]; rfl)

theorem exists_latest (times : List Int) :
    ∃ latest, 0 ≤ latest ∧ ∀ time ∈ times, time ≤ latest := by
  induction times with
  | nil => exact ⟨0, le_rfl, by simp⟩
  | cons time rest ih =>
    obtain ⟨latest, hpos, hle⟩ := ih
    refine ⟨max time latest, hpos.trans (Int.le_max_right ..), ?_⟩
    intro other hother
    rcases List.mem_cons.mp hother with rfl | hother
    · exact Int.le_max_left ..
    · exact (hle other hother).trans (Int.le_max_right ..)

/-- A request for an alert of the type went out less than the rate limit ago. -/
def RecentlyPosted (alerter : Alerter) (type : String) (now : Int) (s : AlerterState) : Prop :=
  ∃ post ∈ s.posts, post.alert.type = type ∧ post.reply.reached = true ∧ post.time ≤ now ∧
    now - post.time < alerter.rateLimitMs

/-- In a state whose times are those of requests, an alert is only held back by one. -/
theorem suppressed_by_post (h : Ordered alerter now s) (htruthful : Truthful s)
    (henabled : alerter.enabled = true) (hlate : alerter.rateLimitMs ≤ now)
    (hfalse : (alerter.notify alert now reply s).1 = .ok false) :
    RecentlyPosted alerter alert.type now s := by
  have hcases := notify_cases alert now reply s henabled
  generalize alerter.notify alert now reply s = result at hcases hfalse
  cases hcases with
  | suppressed hsuppressed =>
    obtain ⟨-, hnear⟩ := hsuppressed
    cases hlast : s.lastSentAt alert.type with
    | none =>
      rw [hlast] at hnear
      exact absurd hnear (by simp only [Option.getD_none]; omega)
    | some last =>
      rw [hlast] at hnear
      obtain ⟨post, hpost, htype, rfl, hreached⟩ := htruthful alert.type last hlast
      exact ⟨post, hpost, htype, hreached, h.recent _ _ hlast, hnear⟩
  | requested => cases hfalse
  | unserialised => cases hfalse
  | refused => cases hfalse
  | noted => cases hfalse

/-- A call that is not harmless moves the time of its type to its own, at which no
request of the type has gone out. -/
theorem harmful_moves (h : Ordered alerter t s) (henabled : alerter.enabled = true)
    {call : NotifyCall} (ht : t ≤ call.now) (hharmful : ¬ Harmless alerter call s) :
    let s' := (alerter.notify call.alert call.now call.reply s).2
    s'.lastSentAt call.alert.type = some call.now ∧
      ∀ post ∈ s'.posts, post.alert.type = call.alert.type → post.reply.reached = true →
        post.time < call.now := by
  have hearlier : ∀ post ∈ s.posts, post.alert.type = call.alert.type →
      post.time < call.now := by
    intro post hpost htype
    obtain ⟨last, hlast, hle⟩ := h.noted post hpost
    rw [htype] at hlast
    have hne : last ≠ call.now := by
      rintro rfl
      exact hharmful (.inr (.inr (.inl hlast)))
    have hrecent := h.recent _ _ hlast
    omega
  have hcases := notify_cases call.alert call.now call.reply s henabled
  generalize alerter.notify call.alert call.now call.reply s = result at hcases ⊢
  cases hcases with
  | suppressed hsuppressed => exact (hharmful (.inl hsuppressed)).elim
  | refused _ hrejected hbypass => exact (hharmful (.inr (.inl ⟨hbypass, hrejected⟩))).elim
  | requested _ hclean hserial =>
    refine ⟨AlerterState.lastSentAt_sentAt .., fun post hpost htype hreached => ?_⟩
    rcases List.mem_append.mp hpost with hold | hnew
    · exact hearlier post hold htype
    · rw [List.mem_singleton.mp hnew] at hreached
      exact (hharmful (.inr (.inr (.inr ⟨hclean, hserial, hreached⟩)))).elim
  | unserialised =>
    exact ⟨AlerterState.lastSentAt_sentAt .., fun post hpost htype _ => hearlier post hpost htype⟩
  | noted =>
    exact ⟨AlerterState.lastSentAt_sentAt .., fun post hpost htype _ => hearlier post hpost htype⟩

/-- After a call that is not harmless, the last alert of its type within the rate
limit is held back without a request in that time. -/
theorem harmful_silences (h : Ordered alerter t s) (henabled : alerter.enabled = true)
    (hlimit : 0 < alerter.rateLimitMs) {call : NotifyCall} (ht : t ≤ call.now)
    (hharmful : ¬ Harmless alerter call s) {later : AlertPayload}
    (htype : later.type = call.alert.type) (hlimited : later.bypasses = false)
    (reply : FetchReply) :
    let s' := (alerter.notify call.alert call.now call.reply s).2
    ∃ now, call.now ≤ now ∧ (alerter.notify later now reply s').1 = .ok false ∧
      ¬ RecentlyPosted alerter later.type now s' := by
  intro s'
  obtain ⟨hlast, hbefore⟩ := harmful_moves h henabled ht hharmful
  have hnear : alerter.suppresses later (call.now + alerter.rateLimitMs - 1) s' := by
    refine ⟨hlimited, ?_⟩
    rw [htype, hlast, Option.getD_some]
    omega
  refine ⟨call.now + alerter.rateLimitMs - 1, by omega, ?_, ?_⟩
  · rw [notify_suppressed later _ reply s' henabled hnear]
  · rintro ⟨post, hpost, hsame, hreached, -, hclose⟩
    have hearlier := hbefore post hpost (hsame.trans htype) hreached
    omega

/-- Without a rate limit nothing is held back. -/
theorem not_held_back (h : Ordered alerter now s) (henabled : alerter.enabled = true)
    (hlimit : alerter.rateLimitMs = 0) (hlate : 0 ≤ now) :
    (alerter.notify alert now reply s).1 ≠ .ok false := by
  have hcases := notify_cases alert now reply s henabled
  generalize alerter.notify alert now reply s = result at hcases
  cases hcases with
  | suppressed hsuppressed =>
    obtain ⟨-, hnear⟩ := hsuppressed
    rw [hlimit] at hnear
    cases hlast : s.lastSentAt alert.type with
    | none =>
      rw [hlast, Option.getD_none] at hnear
      omega
    | some last =>
      have hrecent := h.recent _ _ hlast
      rw [hlast, Option.getD_some] at hnear
      omega
  | requested | unserialised | refused | noted => exact nofun

/-- In a run of harmless calls, and in every run without a rate limit, only a request of
the same type less than the rate limit ago holds an alert back. In every run, a request
that is under the rate limit comes that long after all others of its type. -/
theorem alerts_suppressed_by_requests (alerter : Alerter) {calls : List NotifyCall}
    (henabled : alerter.enabled = true) (hclock : (calls.map (·.now)).Pairwise (· ≤ ·))
    (hlate : ∀ call ∈ calls, alerter.rateLimitMs ≤ call.now) :
    (alerter.rateLimitMs = 0 ∨ AllHarmless alerter {} calls →
      ∀ first call rest, calls = first ++ call :: rest →
        (alerter.notify call.alert call.now call.reply (alerter.run {} first)).1 = .ok false →
        RecentlyPosted alerter call.alert.type call.now (alerter.run {} first)) ∧
    (alerter.run {} calls).posts.Pairwise fun p q => p.alert.type = q.alert.type →
      q.alert.bypasses = false → alerter.rateLimitMs ≤ q.time - p.time := by
  have hstart : ∀ time ∈ calls.map (·.now), 0 ≤ time := by
    intro time htime
    obtain ⟨call, hcall, rfl⟩ := List.mem_map.mp htime
    exact alerter.rateLimitMs_nonneg.trans (hlate call hcall)
  constructor
  · intro hharmless first call rest heq hfalse
    have hbefore : (0 :: (first.map (·.now) ++ [call.now])).Pairwise (· ≤ ·) := by
      refine List.Pairwise.sublist ?_ (List.pairwise_cons.mpr ⟨hstart, hclock⟩)
      rw [heq, List.map_append, List.map_cons]
      exact ((List.singleton_sublist.mpr (by simp)).append_left _).cons_cons 0
    have hordered := (Ordered.empty alerter 0).run henabled hbefore
    have hnow : alerter.rateLimitMs ≤ call.now := hlate call (by rw [heq]; simp)
    rcases hharmless with hlimit | hharmless
    · exact (not_held_back hordered henabled hlimit (hlimit ▸ hnow) hfalse).elim
    have htruthful : Truthful (alerter.run {} first) := by
      refine Truthful.run (fun _ _ h => by cases h) henabled ?_
      intro first' call' rest' heq'
      exact hharmless first' call' (rest' ++ call :: rest)
        (by rw [heq, heq', List.append_assoc, List.cons_append])
    exact suppressed_by_post hordered htruthful henabled hnow hfalse
  · obtain ⟨latest, hlatest⟩ := exists_latest (calls.map (·.now))
    have hall : (0 :: (calls.map (·.now) ++ [latest])).Pairwise (· ≤ ·) := by
      have htimes : (calls.map (·.now) ++ [latest]).Pairwise (· ≤ ·) :=
        List.pairwise_append.mpr ⟨hclock, List.pairwise_singleton .., fun time htime b hb =>
          List.mem_singleton.mp hb ▸ hlatest.2 time htime⟩
      refine List.pairwise_cons.mpr ⟨fun time htime => ?_, htimes⟩
      rcases List.mem_append.mp htime with htime | htime
      · exact hstart time htime
      · exact List.mem_singleton.mp htime ▸ hlatest.1
    exact ((Ordered.empty alerter 0).run henabled hall).spaced

def fetchFailed : AlertPayload := failing.failureAlert alerting "fetch failed"

theorem fetchFailed_clean (now : Int) : Clean fetchFailed now :=
  failureAlert_clean_iff.mpr ⟨by decide, not_shaped_of_length (by decide)⟩

theorem fetchFailed_serialises (now : Int) : serialises (fetchFailed.payload now) = true :=
  failureAlert_serialises

theorem alerts_suppressed_by_requests_twice :
    RecentlyPosted testAlerter fetchFailed.type 60001
      (testAlerter.run {} [⟨fetchFailed, 60000, .response true⟩]) := by
  let first : NotifyCall := ⟨fetchFailed, 60000, .response true⟩
  let second : NotifyCall := ⟨fetchFailed, 60001, .response true⟩
  have hharmless : AllHarmless testAlerter {} [first, second] := by
    intro before call rest heq
    have hmem : call ∈ [first, second] := by rw [heq]; simp
    rcases List.mem_pair.mp hmem with rfl | rfl
    all_goals
      exact .inr (.inr (.inr ⟨fetchFailed_clean _, fetchFailed_serialises _, rfl⟩))
  have hdelivered : Delivered testAlerter fetchFailed 60000 (.response true) {} := by
    refine (delivered_iff (by decide) ?_).mpr
      ⟨fetchFailed_clean 60000, fetchFailed_serialises 60000⟩
    rintro ⟨-, hnear⟩
    exact absurd hnear (by decide)
  have hsecond : (testAlerter.notify fetchFailed 60001 (.response true)
      (testAlerter.run {} [first])).1 = .ok false := by
    rw [Alerter.run_singleton, hdelivered,
      notify_suppressed fetchFailed 60001 _ _ (by decide) ⟨rfl, by decide⟩]
  exact (alerts_suppressed_by_requests testAlerter (by decide) (by decide) (by decide)).1
    (.inr hharmless) [first] second [] rfl hsecond

/-- The alert of a failed transaction is rejected, and the next alert of its type
is held back although nothing was sent. -/
theorem rejected_alert_silences_clean :
    let s := testAlerter.run {} [⟨failedOnChain, 60000, .response true⟩]
    Clean fetchFailed 60001 ∧
      (testAlerter.notify fetchFailed 60001 (.response true) s).1 = .ok false ∧ s.posts = [] := by
  intro s
  have hrun : s = (testAlerter.notify failedOnChain 60000 (.response true) {}).2 :=
    testAlerter.run_singleton failedOnChain 60000 (.response true) {}
  refine ⟨fetchFailed_clean 60001, ?_⟩
  rw [hrun]
  have hcases := notify_cases failedOnChain 60000 (.response true) {}
    (show testAlerter.enabled = true by decide)
  generalize testAlerter.notify failedOnChain 60000 (.response true) {} = result at hcases ⊢
  cases hcases with
  | suppressed hsuppressed => exact absurd hsuppressed.2 (by decide)
  | requested _ hclean => exact (failedOnChain_unclean 60000 hclean).elim
  | unserialised _ hclean => exact (failedOnChain_unclean 60000 hclean).elim
  | refused _ _ hbypass => cases hbypass
  | noted =>
    have hnear : testAlerter.suppresses fetchFailed 60001
        (AlerterState.sentAt failedOnChain.type 60000 {}) := ⟨rfl, by decide⟩
    rw [notify_suppressed fetchFailed 60001 _ _ (by decide) hnear]
    exact ⟨rfl, rfl⟩

end TikkaRaffle.Properties
