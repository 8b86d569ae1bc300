import TikkaRaffle.Factory.Lists
import TikkaRaffle.Factory.Pages

/-! The list of partners against the flags of the whitelist. -/
namespace TikkaRaffle.Factory

open TikkaRaffle.Lib Function

theorem foldl_flags (changes : List (Address × Bool)) (a : Address) :
    changes.foldl setFlag (fun _ => none) a = lastStatus changes a := by
  induction changes using List.reverseRecOn with
  | nil => rfl
  | append_singleton changes e ih =>
    rw [List.foldl_append, lastStatus_append]
    by_cases h : e.1 = a
    · subst h
      simp [setFlag]
    · simp [setFlag, update_of_ne (Ne.symm h), ih, h]

theorem foldl_toggle_mirrors (changes : List (Address × Bool)) :
    Mirrors changes (changes.foldl toggle []) := by
  induction changes using List.reverseRecOn with
  | nil => exact .start
  | append_singleton changes e ih =>
    rw [List.foldl_append]
    exact ih.toggle e

def PagedOut (s : State) (limit : Nat) : Prop :=
  ∃ count, (∀ k < count, getAllPartners s ⟨k * effectiveLimit limit, limit⟩ ≠ []) ∧
    getAllPartners s ⟨count * effectiveLimit limit, limit⟩ = [] ∧
    (List.range count).flatMap (fun k => getAllPartners s ⟨k * effectiveLimit limit, limit⟩) =
      s.partnersList.getD []

theorem getAllPartners_eq {s : State} (hsize : (s.partnersList.getD []).length < 2 ^ 32)
    (offset limit : Nat) :
    getAllPartners s ⟨offset, limit⟩ =
      window (s.partnersList.getD []) offset (effectiveLimit limit) := by
  rw [getAllPartners]
  split
  next hpast => exact ((window_eq_nil_iff (effectiveLimit_pos limit)).mpr hpast).symm
  next hin =>
    have hstop := page_stop offset (effectiveLimit limit) hsize
    simp only [hstop]
    rw [filterMap_range'_eq_window, window_min (Nat.le_of_not_le hin)]

theorem pagedOut {s : State} (hsize : (s.partnersList.getD []).length < 2 ^ 32) (limit : Nat) :
    PagedOut s limit := by
  have hpos := effectiveLimit_pos limit
  have hnonempty := lt_windowCount_iff hpos (s.partnersList.getD []).length
  unfold PagedOut
  simp only [getAllPartners_eq hsize]
  refine ⟨windowCount (s.partnersList.getD []).length (effectiveLimit limit), fun k hk => ?_, ?_,
    flatMap_window_count hpos⟩
  · rw [Ne, window_eq_nil_iff hpos]
    exact Nat.not_le.mpr ((hnonempty k).mp hk)
  · rw [window_eq_nil_iff hpos]
    exact Nat.le_of_not_lt ((hnonempty _).not.mp (Nat.lt_irrefl _))

/-- What a sequence of changes makes of the flags and of the list. -/
structure PartnersMirror (changes : List (Address × Bool)) (s : State) : Prop where
  flags : ∀ a, s.whitelistedPartner a = lastStatus changes a
  members : ∀ a, a ∈ s.partnersList.getD [] ↔ s.whitelistedPartner a = some true
  nodup : (s.partnersList.getD []).Nodup
  joined : ∀ a ∈ s.partnersList.getD [], ∃ n, Joined changes a n
  ordered : (s.partnersList.getD []).Pairwise fun a b =>
    ∀ n m, Joined changes a n → Joined changes b m → n < m
  /-- A list has at most `u32::MAX` items. -/
  paged : (s.partnersList.getD []).length < 2 ^ 32 → ∀ limit, PagedOut s limit

theorem foldl_enter_mirror {k : Lists} (hlist : k.partnersList = none)
    (hflags : k.whitelistedPartner = fun _ => none) (entries : List ListEntry) {s : State}
    (hs : s.lists = entries.foldl Lists.enter k) :
    PartnersMirror (entries.filterMap ListEntry.change) s := by
  obtain ⟨hpartners, hstatus⟩ := Lists.foldl_enter_partners entries k
  rw [← hs, hlist] at hpartners
  rw [← hs, hflags] at hstatus
  have hmirrors := foldl_toggle_mirrors (entries.filterMap ListEntry.change)
  rw [show List.foldl toggle [] _ = s.partnersList.getD [] from hpartners.symm] at hmirrors
  have hlast : ∀ a, s.whitelistedPartner a = lastStatus (entries.filterMap ListEntry.change) a :=
    fun a => (congrFun hstatus a).trans (foldl_flags _ a)
  refine ⟨hlast, fun a => ?_, hmirrors.nodup, hmirrors.joined, hmirrors.ordered,
    fun hsize limit => pagedOut hsize limit⟩
  rw [hmirrors.mem_iff, hlast, Listed]

/-- After any calls of the entry point the list mirrors the flags. -/
theorem partners_mirror (h : Host) (s : State)
    (hempty : s.partnersList = none ∧ s.whitelistedPartner = fun _ => none)
    (calls : List ListCall) :
    PartnersMirror
      ((((listMachine h).committed s calls).map (·.entry)).filterMap ListEntry.change)
      ((listMachine h).run s calls) :=
  foldl_enter_mirror hempty.1 hempty.2 _ (lists_of_calls s calls)

/-- A partner leaves and joins again behind another. -/
theorem partners_mirror_rejoined :
    let s : State := { State.deployed (fun _ => none) (fun _ => none) with
      admin := some Instance.Sample.admin }
    let call (id : Nat) (status : Bool) : ListCall :=
      ⟨Sample.ctx 0 [Instance.Sample.admin], ⟨0⟩, .whitelisted ⟨id⟩ status⟩
    let calls := [call 1 true, call 2 true, call 1 false, call 1 true]
    PartnersMirror
      ((((listMachine Sample.host).committed s calls).map (·.entry)).filterMap ListEntry.change)
      ((listMachine Sample.host).run s calls) :=
  partners_mirror Sample.host _ ⟨rfl, rfl⟩ _

/-- The same over the calls of a whole system. -/
theorem partners_mirror_of_run {h : Host} {net : Net} {raffleCreator : Nat → Option Address}
    {raffleCategory : Nat → Option Bytes} (hinit : Initialised h raffleCreator raffleCategory net)
    (calls : List Invocation) :
    PartnersMirror (((machine h).journal listEntries net calls).filterMap ListEntry.change)
      ((machine h).run net calls).factory :=
  foldl_enter_mirror rfl rfl _ (lists_of_run hinit calls)

end TikkaRaffle.Factory
