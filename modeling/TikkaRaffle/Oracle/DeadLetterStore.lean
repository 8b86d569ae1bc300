import Mathlib.Logic.Function.Basic
import TikkaRaffle.Oracle.DeadLetters

/-! The file behind the dead letters. An entry is written through a type of its
own and read back field by field. -/
namespace TikkaRaffle.Oracle.Persistence

structure RandomnessJob where
  requestId : Int
  raffleContract : String
  timestamp : Int
  /-- Declared as a number; the listener builds its jobs without it. -/
  observedAtMs : Option Int
  deriving DecidableEq, Repr

structure DeadLetterEntry where
  job : RandomnessJob
  error : String
  attemptCount : Int
  firstEnqueuedAtMs : Int
  deadLetteredAtMs : Int
  reason : DeadLetterReason
  deriving DecidableEq, Repr

structure SerializedJob where
  requestId : String
  raffleContract : String
  timestamp : String
  deriving DecidableEq, Repr

structure SerializedDeadLetterEntry where
  job : SerializedJob
  error : String
  attemptCount : Int
  firstEnqueuedAtMs : Int
  deadLetteredAtMs : Int
  reason : DeadLetterReason
  deriving DecidableEq, Repr

/-- `BigInt` on strings: it may throw, and it inverts `toString`. -/
structure BigIntReading where
  read : String → Option Int
  read_toString : ∀ n : Int, read (toString n) = some n

def readDecimal (text : String) : Option Int :=
  match text.toList with
  | '-' :: digits =>
      if digits ≠ [] ∧ digits.all Char.isDigit then some (-(Nat.ofDigitChars 10 digits 0 : Int))
      else none
  | digits =>
      if digits ≠ [] ∧ digits.all Char.isDigit then some (Nat.ofDigitChars 10 digits 0 : Int)
      else none

theorem digits_readable (n : Nat) :
    Nat.toDigits 10 n ≠ [] ∧ (Nat.toDigits 10 n).all Char.isDigit = true :=
  ⟨Nat.toDigits_ne_nil, List.all_eq_true.mpr fun _ hc =>
    Nat.isDigit_of_mem_toDigits (by decide) (by decide) hc⟩

theorem readDecimal_toString (n : Int) : readDecimal (toString n) = some n := by
  cases n with
  | ofNat n =>
    have htext : (toString (Int.ofNat n)).toList = Nat.toDigits 10 n := Nat.toList_repr
    obtain ⟨d, rest, hdigits⟩ := List.exists_cons_of_ne_nil (digits_readable n).1
    have hsign : d ≠ '-' := by
      rintro rfl
      have hall := (digits_readable n).2
      rw [hdigits] at hall
      cases hall
    have hread := digits_readable n
    have hvalue := Nat.ofDigitChars_ten_toDigits (n := n)
    unfold readDecimal
    rw [htext]
    rw [hdigits] at hread hvalue ⊢
    split
    next heq => exact (hsign (List.cons.inj heq).1).elim
    next =>
      refine (if_pos hread).trans ?_
      rw [hvalue]
      rfl
  | negSucc n =>
    have htext : (toString (Int.negSucc n)).toList = '-' :: Nat.toDigits 10 (n + 1) := by
      rw [← Nat.toList_repr]
      exact String.toList_append
    unfold readDecimal
    rw [htext]
    refine (if_pos (digits_readable (n + 1))).trans ?_
    rw [Nat.ofDigitChars_ten_toDigits]
    rfl

def BigIntReading.decimal : BigIntReading where
  read := readDecimal
  read_toString := readDecimal_toString

def serializeEntry (entry : DeadLetterEntry) : SerializedDeadLetterEntry where
  job :=
    { requestId := toString entry.job.requestId
      raffleContract := entry.job.raffleContract
      timestamp := toString entry.job.timestamp }
  error := entry.error
  attemptCount := entry.attemptCount
  firstEnqueuedAtMs := entry.firstEnqueuedAtMs
  deadLetteredAtMs := entry.deadLetteredAtMs
  reason := entry.reason

variable (bigInt : BigIntReading)

def deserializeEntry (raw : SerializedDeadLetterEntry) : Option DeadLetterEntry := do
  let requestId ← bigInt.read raw.job.requestId
  let timestamp ← bigInt.read raw.job.timestamp
  return {
    job := ⟨requestId, raw.job.raffleContract, timestamp, none⟩
    error := raw.error
    attemptCount := raw.attemptCount
    firstEnqueuedAtMs := raw.firstEnqueuedAtMs
    deadLetteredAtMs := raw.deadLetteredAtMs
    reason := raw.reason }

/-- What a path holds. A file that does not parse into the expected shape is
malformed; the `entries` of one that does may be absent. -/
inductive StoredFile where
  | missing
  | malformed
  | data (entries : Option (List SerializedDeadLetterEntry))
  deriving DecidableEq, Repr

abbrev Disk := String → StoredFile

structure DeadLetterStore where
  entries : List DeadLetterEntry
  filePath : String
  inMemoryMode : Bool
  deriving DecidableEq, Repr

/-- Whatever fails on the way leaves the store empty. -/
def loadFromDisk : StoredFile → List DeadLetterEntry
  | .missing => []
  | .malformed => []
  | .data entries => ((entries.getD []).mapM (deserializeEntry bigInt)).getD []

def DeadLetterStore.open (disk : Disk) (storePath : String) : DeadLetterStore where
  entries := if storePath = ":memory:" then [] else loadFromDisk bigInt (disk storePath)
  filePath := storePath
  inMemoryMode := storePath = ":memory:"

namespace DeadLetterStore

variable (s : DeadLetterStore) (disk : Disk)

def saveToDisk : Disk :=
  if s.inMemoryMode then disk
  else Function.update disk s.filePath (.data (some (s.entries.map serializeEntry)))

def add (entry : DeadLetterEntry) : DeadLetterStore × Disk :=
  let s := { s with entries := s.entries ++ [entry] }
  (s, s.saveToDisk disk)

def list : List DeadLetterEntry := s.entries

def isFor (raffleContract : String) (requestId : Int) (entry : DeadLetterEntry) : Bool :=
  entry.job.raffleContract = raffleContract && entry.job.requestId = requestId

def remove (raffleContract : String) (requestId : Int) :
    Option DeadLetterEntry × DeadLetterStore × Disk :=
  match s.entries.find? (isFor raffleContract requestId) with
  | none => (none, s, disk)
  | some removed =>
      let s := { s with entries := s.entries.eraseP (isFor raffleContract requestId) }
      (some removed, s, s.saveToDisk disk)

def clear : DeadLetterStore × Disk :=
  let s := { s with entries := [] }
  (s, s.saveToDisk disk)

end DeadLetterStore

inductive Write where
  | add (entry : DeadLetterEntry)
  | remove (raffleContract : String) (requestId : Int)
  | clear
  deriving DecidableEq, Repr

def Write.apply (write : Write) (s : DeadLetterStore × Disk) : DeadLetterStore × Disk :=
  match write with
  | .add entry => s.1.add s.2 entry
  | .remove raffleContract requestId => (s.1.remove s.2 raffleContract requestId).2
  | .clear => s.1.clear s.2

def session (disk : Disk) (storePath : String) (writes : List Write) : DeadLetterStore × Disk :=
  writes.foldl (fun s write => write.apply s) (.open bigInt disk storePath, disk)

/-- The entry without the one field that the file has no place for. -/
def DeadLetterEntry.kept (entry : DeadLetterEntry) : DeadLetterEntry :=
  { entry with job.observedAtMs := none }

theorem DeadLetterEntry.kept_eq_iff {entry : DeadLetterEntry} :
    entry.kept = entry ↔ entry.job.observedAtMs = none := by
  obtain ⟨⟨requestId, raffleContract, timestamp, observedAtMs⟩, _⟩ := entry
  simp [kept, eq_comm]

theorem deserialize_serialize (entry : DeadLetterEntry) :
    deserializeEntry bigInt (serializeEntry entry) = some entry.kept := by
  simp only [deserializeEntry, serializeEntry, bigInt.read_toString, Option.bind_eq_bind,
    Option.bind_some]
  rfl

theorem load_saved (entries : List DeadLetterEntry) :
    loadFromDisk bigInt (.data (some (entries.map serializeEntry))) = entries.map (·.kept) := by
  have hread : (entries.map serializeEntry).mapM (deserializeEntry bigInt) =
      some (entries.map (·.kept)) := by
    induction entries with
    | nil => rfl
    | cons entry rest ih =>
      rw [List.map_cons, List.mapM_cons, deserialize_serialize, ih]
      rfl
  rw [loadFromDisk, Option.getD_some, hread, Option.getD_some]

theorem deserialized_kept {raw : SerializedDeadLetterEntry} {entry : DeadLetterEntry}
    (h : deserializeEntry bigInt raw = some entry) : entry.kept = entry := by
  simp only [deserializeEntry, Option.bind_eq_bind, Option.bind_eq_some_iff, Option.pure_def,
    Option.some.injEq] at h
  obtain ⟨requestId, -, timestamp, -, rfl⟩ := h
  rfl

theorem exists_of_mem_mapM {α β : Type} {f : α → Option β} {xs : List α} {ys : List β}
    (h : xs.mapM f = some ys) {y : β} (hy : y ∈ ys) : ∃ x ∈ xs, f x = some y := by
  induction xs generalizing ys with
  | nil =>
    cases h
    cases hy
  | cons x rest ih =>
    rw [List.mapM_cons] at h
    simp only [Option.bind_eq_bind, Option.bind_eq_some_iff, Option.pure_def,
      Option.some.injEq] at h
    obtain ⟨first, hfirst, tail, htail, rfl⟩ := h
    rcases List.mem_cons.mp hy with rfl | hy
    · exact ⟨x, List.mem_cons_self .., hfirst⟩
    · obtain ⟨x', hx', hf⟩ := ih htail hy
      exact ⟨x', List.mem_cons_of_mem _ hx', hf⟩

theorem loaded_kept (file : StoredFile) :
    ∀ entry ∈ loadFromDisk bigInt file, entry.kept = entry := by
  intro entry hentry
  cases file with
  | missing => cases hentry
  | malformed => cases hentry
  | data entries =>
    rw [loadFromDisk] at hentry
    cases hread : (entries.getD []).mapM (deserializeEntry bigInt) with
    | none =>
      rw [hread] at hentry
      cases hentry
    | some loaded =>
      rw [hread] at hentry
      obtain ⟨raw, -, hraw⟩ := exists_of_mem_mapM hread hentry
      exact deserialized_kept bigInt hraw

/-- The file and the store agree, up to the field that the file leaves out. -/
structure Synced (storePath : String) (s : DeadLetterStore × Disk) : Prop where
  path : s.1.filePath = storePath
  onDisk : s.1.inMemoryMode = false
  reloads : loadFromDisk bigInt (s.2 storePath) = s.1.entries.map (·.kept)

variable {bigInt} {storePath : String} {s : DeadLetterStore × Disk}

theorem Synced.save (h : Synced bigInt storePath s) (entries : List DeadLetterEntry) :
    Synced bigInt storePath
      ({ s.1 with entries }, ({ s.1 with entries } : DeadLetterStore).saveToDisk s.2) := by
  refine ⟨h.path, h.onDisk, ?_⟩
  have hfile : ({ s.1 with entries } : DeadLetterStore).saveToDisk s.2 storePath =
      .data (some (entries.map serializeEntry)) := by
    simp only [DeadLetterStore.saveToDisk, h.onDisk, h.path, Bool.false_eq_true, if_false,
      Function.update_self]
  exact (congrArg (loadFromDisk bigInt) hfile).trans (load_saved bigInt entries)

theorem Synced.apply (h : Synced bigInt storePath s) (write : Write) :
    Synced bigInt storePath (write.apply s) := by
  cases write with
  | add entry => exact h.save _
  | remove raffleContract requestId =>
    unfold Write.apply DeadLetterStore.remove
    dsimp only
    split
    next => exact h
    next => exact h.save _
  | clear => exact h.save _

theorem session_synced (disk : Disk) (hpath : storePath ≠ ":memory:") (writes : List Write) :
    Synced bigInt storePath (session bigInt disk storePath writes) := by
  have hopened : Synced bigInt storePath (.open bigInt disk storePath, disk) := by
    refine ⟨rfl, decide_eq_false hpath, ?_⟩
    have hloaded := List.map_congr_left (g := id) (loaded_kept bigInt (disk storePath))
    rw [List.map_id] at hloaded
    rw [DeadLetterStore.open, if_neg hpath, hloaded]
  unfold session
  generalize (DeadLetterStore.open bigInt disk storePath, disk) = s at hopened
  induction writes generalizing s with
  | nil => exact hopened
  | cons write rest ih => exact ih (write.apply s) (hopened.apply write)

/-- A new store on the same path has the old one's entries without that field. -/
theorem Synced.reopened (h : Synced bigInt storePath s) (hpath : storePath ≠ ":memory:") :
    (DeadLetterStore.open bigInt s.2 storePath).list = s.1.list.map (·.kept) := by
  rw [DeadLetterStore.list, DeadLetterStore.open, if_neg hpath, h.reloads]
  rfl

theorem Write.entries_subset (write : Write) {p : DeadLetterEntry → Prop}
    (hadd : ∀ entry, write = .add entry → p entry) (h : ∀ entry ∈ s.1.entries, p entry) :
    ∀ entry ∈ (write.apply s).1.entries, p entry := by
  intro entry hentry
  cases write with
  | add added =>
    rcases List.mem_append.mp hentry with hold | hnew
    · exact h entry hold
    · exact hadd entry (by rw [List.mem_singleton.mp hnew])
  | remove raffleContract requestId =>
    unfold Write.apply DeadLetterStore.remove at hentry
    dsimp only at hentry
    split at hentry
    next => exact h entry hentry
    next => exact h entry (List.mem_of_mem_eraseP hentry)
  | clear => cases hentry

theorem session_entries (disk : Disk) {writes : List Write}
    (hadd : ∀ entry, .add entry ∈ writes → entry.job.observedAtMs = none) :
    ∀ entry ∈ (session bigInt disk storePath writes).1.entries,
      entry.job.observedAtMs = none := by
  have hopened : ∀ entry ∈ (DeadLetterStore.open bigInt disk storePath).entries,
      entry.job.observedAtMs = none := by
    intro entry hentry
    rw [DeadLetterStore.open] at hentry
    split at hentry
    next => cases hentry
    next => exact DeadLetterEntry.kept_eq_iff.mp (loaded_kept bigInt _ entry hentry)
  unfold session
  have hstart : ∀ entry ∈ (DeadLetterStore.open bigInt disk storePath, disk).1.entries,
      entry.job.observedAtMs = none := hopened
  generalize (DeadLetterStore.open bigInt disk storePath, disk) = s at hstart
  induction writes generalizing s with
  | nil => exact hstart
  | cons write rest ih =>
    refine ih (fun entry hmem => hadd entry (List.mem_cons_of_mem _ hmem)) (write.apply s) ?_
    exact write.entries_subset
      (fun entry heq => hadd entry (heq ▸ List.mem_cons_self ..)) hstart

theorem foldl_adds (s : DeadLetterStore × Disk) (entries : List DeadLetterEntry) :
    ((entries.map Write.add).foldl (fun s write => write.apply s) s).1.entries =
      s.1.entries ++ entries := by
  induction entries generalizing s with
  | nil => exact (List.append_nil _).symm
  | cons entry rest ih =>
    rw [List.map_cons, List.foldl_cons, ih]
    exact List.append_assoc s.1.entries [entry] rest

/-- What `remove` hands back for a replay. -/
theorem DeadLetterStore.remove_fst (s : DeadLetterStore) (disk : Disk) (raffleContract : String)
    (requestId : Int) :
    (s.remove disk raffleContract requestId).1 =
      s.entries.find? (isFor raffleContract requestId) := by
  unfold remove
  split
  next hnone => exact hnone.symm
  next hfound => exact hfound.symm

def ofQueued (entry : Oracle.DeadLetterEntry) : DeadLetterEntry where
  job := ⟨entry.job.requestId, entry.job.raffleContract, entry.job.timestamp, none⟩
  error := entry.error
  attemptCount := entry.attemptCount
  firstEnqueuedAtMs := entry.firstEnqueuedAtMs
  deadLetteredAtMs := entry.deadLetteredAtMs
  reason := entry.reason

end TikkaRaffle.Oracle.Persistence
