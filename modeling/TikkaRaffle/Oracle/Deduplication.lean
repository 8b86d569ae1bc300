import Mathlib.Data.List.Basic
import TikkaRaffle.Oracle.Queue

/-! The store of seen requests, in memory and in its file. -/
namespace TikkaRaffle.Oracle

/-- The key of a request: the address, a colon and the number in decimal. -/
def dedupKey (requestId : Nat) (raffleAddress : String) : String :=
  raffleAddress ++ ":" ++ toString requestId

def RandomnessJob.key (job : RandomnessJob) : String :=
  dedupKey job.requestId job.raffleContract

theorem colon_notMem_digits (n : Nat) : ':' ∉ Nat.toDigits 10 n := by
  intro h
  have hdigit := Nat.isDigit_of_mem_toDigits (by decide) (by decide) h
  exact absurd hdigit (by decide)

/-- The last separator splits a text in one way only. -/
theorem append_separator_inj {α : Type} {a : α} {xs ys ds es : List α} (hds : a ∉ ds)
    (hes : a ∉ es) (h : xs ++ a :: ds = ys ++ a :: es) : xs = ys ∧ ds = es := by
  rcases List.append_eq_append_iff.mp h with ⟨zs, rfl, hsplit⟩ | ⟨zs, rfl, hsplit⟩
  · cases zs with
    | nil => simpa using hsplit
    | cons z zs =>
      obtain ⟨-, rfl⟩ := List.cons.inj hsplit
      exact absurd (by simp) hds
  · cases zs with
    | nil => simpa [eq_comm] using hsplit
    | cons z zs =>
      obtain ⟨-, rfl⟩ := List.cons.inj hsplit
      exact absurd (by simp) hes

theorem dedupKey_inj {requestId requestId' : Nat} {raffle raffle' : String} :
    dedupKey requestId raffle = dedupKey requestId' raffle' ↔
      requestId = requestId' ∧ raffle = raffle' := by
  constructor
  · intro h
    have hlist := congrArg String.toList h
    simp only [dedupKey, String.toList_append, Nat.toString_eq_ofList_toDigits,
      String.toList_ofList, List.append_assoc] at hlist
    obtain ⟨hraffle, hdigits⟩ := append_separator_inj (colon_notMem_digits requestId)
      (colon_notMem_digits requestId') hlist
    have hid := congrArg (fun digits => Nat.ofDigitChars 10 digits 0) hdigits
    exact ⟨by simpa using hid, String.toList_injective hraffle⟩
  · rintro ⟨rfl, rfl⟩
    rfl

structure DeduplicationStore where
  seen : List String := []
  /-- What the file holds. -/
  saved : List String := []
  /-- Whether the file can be written; a failure is only logged. -/
  writable : Bool := true
  deriving DecidableEq, Repr

namespace DeduplicationStore

/-- A new process reads the file; what it cannot read it takes for empty. -/
def loadFromDisk (readable : Bool) (d : DeduplicationStore) : DeduplicationStore :=
  { d with seen := if readable then d.saved else [] }

def saveToDisk (d : DeduplicationStore) : DeduplicationStore :=
  if d.writable then { d with saved := d.seen } else d

def add (key : String) (d : DeduplicationStore) : DeduplicationStore :=
  saveToDisk { d with seen := d.seen ++ [key] }

/-- The test also marks. -/
def isDuplicate (requestId : Nat) (raffleAddress : String) (d : DeduplicationStore) :
    Bool × DeduplicationStore :=
  let key := dedupKey requestId raffleAddress
  if key ∈ d.seen then (true, d)
  else (false, d.add key)

variable {d : DeduplicationStore} {requestId : Nat} {raffleAddress key : String}

@[simp] theorem add_seen : (d.add key).seen = d.seen ++ [key] := by
  unfold add saveToDisk
  split <;> rfl

@[simp] theorem add_writable : (d.add key).writable = d.writable := by
  unfold add saveToDisk
  split <;> rfl

theorem add_saved (h : d.writable = true) : (d.add key).saved = d.seen ++ [key] := by
  simp [add, saveToDisk, h]

theorem mem_add_saved {key' : String} (h : key' ∈ (d.add key).saved) :
    key' ∈ (d.add key).seen ∨ key' ∈ d.saved := by
  unfold add saveToDisk at h
  split at h
  · exact .inl (add_seen ▸ h)
  · exact .inr h

theorem isDuplicate_of_mem (h : dedupKey requestId raffleAddress ∈ d.seen) :
    d.isDuplicate requestId raffleAddress = (true, d) := by
  simp [isDuplicate, h]

theorem isDuplicate_of_notMem (h : dedupKey requestId raffleAddress ∉ d.seen) :
    d.isDuplicate requestId raffleAddress = (false, d.add (dedupKey requestId raffleAddress)) := by
  simp [isDuplicate, h]

end DeduplicationStore
end TikkaRaffle.Oracle
