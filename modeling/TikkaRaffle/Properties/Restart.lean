import TikkaRaffle.Oracle.DeadLetterStore

/-! What dead letters are after a restart. Everything but the time at which the
request was observed comes back. -/
namespace TikkaRaffle.Properties

open TikkaRaffle.Oracle TikkaRaffle.Oracle.Persistence

variable {storePath : String}

/-- A new store on the path lists what the old one lists exactly if no entry
carries the time of observation, as in every run that adds none with it. A replay
from the new store is the old one's without that time. -/
theorem dead_letters_survive_iff (bigInt : BigIntReading) (disk : Disk)
    (hpath : storePath ≠ ":memory:") (writes : List Write) :
    let s := session bigInt disk storePath writes
    let reopened := DeadLetterStore.open bigInt s.2 storePath
    (reopened.list = s.1.list ↔ ∀ entry ∈ s.1.list, entry.job.observedAtMs = none) ∧
    ((∀ entry, .add entry ∈ writes → entry.job.observedAtMs = none) →
      reopened.list = s.1.list) ∧
    ∀ raffleContract requestId,
      (reopened.remove s.2 raffleContract requestId).1 =
        (s.1.remove s.2 raffleContract requestId).1.map (·.kept) := by
  intro s reopened
  have hreopened : reopened.list = s.1.list.map (·.kept) :=
    (session_synced disk hpath writes).reopened hpath
  have hlists : reopened.list = s.1.list ↔
      ∀ entry ∈ s.1.list, entry.job.observedAtMs = none := by
    rw [hreopened]
    conv_lhs => rhs; rw [← List.map_id s.1.list]
    rw [List.map_inj_left]
    exact forall₂_congr fun entry _ => DeadLetterEntry.kept_eq_iff
  refine ⟨hlists, fun hadd => hlists.mpr (session_entries disk hadd), ?_⟩
  intro raffleContract requestId
  rw [DeadLetterStore.remove_fst, DeadLetterStore.remove_fst]
  change reopened.list.find? _ = (s.1.list.find? _).map _
  rw [hreopened, List.find?_map]
  rfl

def observedEntry (observedAtMs : Option Int) : Persistence.DeadLetterEntry :=
  ⟨⟨7, "raffle", 100, observedAtMs⟩, "Error(Contract, #8)", 1, 1000, 2000, .fatal⟩

theorem dead_letters_survive_one :
    (DeadLetterStore.open .decimal
        (session .decimal (fun _ => .missing) "data/dead-letter.json"
          [.add (observedEntry none)]).2 "data/dead-letter.json").list =
      (session .decimal (fun _ => .missing) "data/dead-letter.json"
        [.add (observedEntry none)]).1.list :=
  (dead_letters_survive_iff .decimal (fun _ => .missing) (by decide)
    [.add (observedEntry none)]).2.1 (fun entry hmem => by
      cases List.mem_singleton.mp hmem
      rfl)

/-- The declared field is gone after a restart. -/
theorem observed_at_is_lost :
    let s := session .decimal (fun _ => .missing) "data/dead-letter.json"
      [.add (observedEntry (some 1700000000000))]
    s.1.list = [observedEntry (some 1700000000000)] ∧
      (DeadLetterStore.open .decimal s.2 "data/dead-letter.json").list = [observedEntry none] := by
  decide +kernel

/-- The queue's own dead letters lose nothing. -/
theorem queued_dead_letters_survive (bigInt : BigIntReading) (disk : Disk)
    (hpath : storePath ≠ ":memory:") (q : MonitoredQueue) :
    let s := session bigInt disk storePath (.clear :: (q.deadLetterStore.map ofQueued).map .add)
    s.1.list = q.deadLetterStore.map ofQueued ∧
      (DeadLetterStore.open bigInt s.2 storePath).list = q.deadLetterStore.map ofQueued := by
  intro s
  have hlist : s.1.list = q.deadLetterStore.map ofQueued := foldl_adds _ _
  refine ⟨hlist, ?_⟩
  rw [(session_synced disk hpath _).reopened hpath]
  change s.1.list.map _ = _
  rw [hlist, List.map_map]
  rfl

end TikkaRaffle.Properties
