import TikkaRaffle.Factory.Effects
import Mathlib.Data.Nat.Digits.Lemmas

/-! The predicted address of a raffle and the address it is deployed to. The
prediction hashes the creator and the next identifier, the deployment the
creator and the description, so the two never meet. -/
namespace TikkaRaffle.Properties

open TikkaRaffle.Lib TikkaRaffle.Factory

def predictedPayload (creator : Address) (nonce : Nat) : Instance.ScVal :=
  .tuple [.address creator, .u64 nonce]

def deployedPayload (creator : Address) (description : Bytes) : Instance.ScVal :=
  .tuple [.address creator, .string description]

/-- The address derivation, the hash and the encoding tell the two payloads of
one creation apart. -/
structure Separates (h : Host) (creator : Address) (nonce : Nat) (description : Bytes) :
    Prop where
  address : Function.Injective (h.deployedAddress h.self)
  hash : Set.InjOn h.sha256
    {h.toXdr (predictedPayload creator nonce), h.toXdr (deployedPayload creator description)}
  encoding : Set.InjOn h.toXdr {predictedPayload creator nonce, deployedPayload creator description}

theorem payloads_ne (creator : Address) (nonce : Nat) (description : Bytes) :
    predictedPayload creator nonce ≠ deployedPayload creator description := by
  simp [predictedPayload, deployedPayload]

theorem Separates.addresses_ne {h : Host} {creator : Address} {nonce : Nat} {description : Bytes}
    (hs : Separates h creator nonce description) :
    raffleAddress h creator description ≠ predictRaffleAddress h creator nonce := by
  intro heq
  have hsalts : h.sha256 (h.toXdr (predictedPayload creator nonce)) =
      h.sha256 (h.toXdr (deployedPayload creator description)) := (hs.address heq).symm
  have hencoded := Set.injOn_pair.mp hs.hash hsalts
  exact payloads_ne creator nonce description (Set.injOn_pair.mp hs.encoding hencoded)

/-- A raffle is never deployed to the predicted address. -/
theorem created_unpredicted {h : Host} {c : Ctx} {net net' : Net} {creator raffle : Address}
    {config : RaffleConfig}
    (hs : Separates h creator (net.factory.nextRaffleId.getD 0) config.description)
    (hok : createRaffle h c net creator config = .ok (net', raffle)) :
    raffle ≠ predictRaffleAddress h creator (net.factory.nextRaffleId.getD 0) := by
  obtain ⟨treasury, built, w, -, -, -, hbuilt, hcreates, -⟩ := createRaffle_creates hok
  have hdescription : built.description = config.description :=
    (buildConfig_offer hbuilt).description
  rw [hcreates.address, hdescription]
  exact hs.addresses_ne

theorem sample_injective : Function.Injective (Sample.host.deployedAddress Sample.host.self) := by
  intro salt salt' heq
  have hdigits : Nat.ofDigits 256 (salt.toList.map UInt8.toNat) =
      Nat.ofDigits 256 (salt'.toList.map UInt8.toNat) :=
    Nat.add_left_cancel (congrArg Address.id heq)
  have hsmall (salt : Digest) : ∀ d ∈ salt.toList.map UInt8.toNat, d < 256 := by
    intro d hd
    obtain ⟨byte, -, rfl⟩ := List.mem_map.mp hd
    exact byte.toNat_lt
  have hbytes := Nat.ofDigits_inj_of_len_eq (by decide) (by simp) (hsmall salt) (hsmall salt')
    hdigits
  have hlists : salt.toList = salt'.toList :=
    List.map_injective_iff.mpr (fun _ _ => UInt8.toNat_inj.mp) hbytes
  exact Vector.toList_inj.mp hlists

theorem sample_separates : Separates Sample.host Instance.Sample.creator 0 [] where
  address := sample_injective
  hash := Set.injOn_pair.mpr fun heq => absurd heq (by decide +kernel)
  encoding := Set.injOn_pair.mpr fun heq => absurd heq (by decide +kernel)

def firstCreation : Result (Net × Address) :=
  createRaffle Sample.host (Sample.ctx 300 [Instance.Sample.creator]) Sample.start
    Instance.Sample.creator Instance.Sample.config

theorem created_unpredicted_first : ∃ net' raffle, firstCreation = .ok (net', raffle) ∧
    raffle ≠ predictRaffleAddress Sample.host Instance.Sample.creator 0 := by
  have hok : firstCreation.isOk = true := by decide +kernel
  have hnext : Sample.start.factory.nextRaffleId.getD 0 = 0 := by decide +kernel
  obtain ⟨⟨net', raffle⟩, hcreated⟩ := except_isOk hok
  refine ⟨net', raffle, hcreated, ?_⟩
  unfold firstCreation at hcreated
  rw [← hnext]
  refine created_unpredicted ?_ hcreated
  rw [hnext]
  exact sample_separates

/-- The creation succeeds, away from the predicted address. -/
theorem firstCreation_elsewhere :
    Fresh Sample.host Sample.start ∧
    Separates Sample.host Instance.Sample.creator 0 Instance.Sample.config.description ∧
    firstCreation.isOk = true ∧
    firstCreation.toOption.map Prod.snd ≠
      some (predictRaffleAddress Sample.host Instance.Sample.creator 0) :=
  ⟨Sample.start_fresh, sample_separates, by decide +kernel, by decide +kernel⟩

end TikkaRaffle.Properties
