/-
  What a transaction names.

  The keys of validators start with a mark.  A transaction that starts with it names
  a validator, or is refused, and the key of any other transaction is a front of it.
  So no plain key has the mark, and different validators have different keys.
-/
import ChainHost.Store.Basic
import ChainHost.Proofs.Text.Hex

set_option autoImplicit false

namespace ChainHost

namespace Bytes

/-- Dropping a text in front leaves what is behind it. -/
theorem dropText?_eq_some_iff {text : String} {bytes rest : Bytes} :
    dropText? text bytes = some rest ↔ bytes = ofText text ++ rest := by
  constructor
  · intro h
    unfold dropText? at h
    dsimp only at h
    split at h
    · next htake =>
        cases h
        calc bytes
            = bytes.take (ofText text).length ++ bytes.drop (ofText text).length :=
              (List.take_append_drop ..).symm
          _ = ofText text ++ bytes.drop (ofText text).length := by rw [htake]
    · cases h
  · rintro rfl
    simp only [dropText?, List.take_left, List.drop_left, if_true]

theorem dropText?_eq_none_iff {text : String} {bytes : Bytes} :
    dropText? text bytes = none ↔ ¬ ofText text <+: bytes := by
  rw [Option.eq_none_iff_forall_ne_some]
  constructor
  · rintro h ⟨rest, rfl⟩
    exact h rest (dropText?_eq_some_iff.mpr rfl)
  · exact fun h rest hrest => h ⟨rest, (dropText?_eq_some_iff.mp hrest).symm⟩

end Bytes

namespace Store

/-- A key of a validator: the mark of validators is in front. -/
def Marked (key : Bytes) : Prop := Bytes.ofText Transaction.validatorMark <+: key

theorem marked_validatorKey (key : PublicKey) : Marked (validatorKey key) :=
  List.prefix_append ..

/-- Different validators of the one key type have different keys. -/
theorem validatorKey_injective {data other : Bytes}
    (h : validatorKey (.ed25519 data) = validatorKey (.ed25519 other)) : data = other :=
  Hex.encode_injective (List.append_cancel_left h)

namespace Transaction

/-- No plain transaction writes to the key of a validator. -/
theorem not_marked_of_read {tx key value : Bytes} (h : read tx = .ok (.set key value)) :
    ¬ Marked key := by
  unfold read at h
  split at h
  · cases h
  · split at h
    · next body hbody =>
        cases hread : readValidator body <;> rw [hread] at h <;> cases h
    · next hplain =>
        have hfree := Bytes.dropText?_eq_none_iff.mp hplain
        dsimp only at h
        split at h
        · cases h
          exact hfree
        · split at h
          · cases h
          · cases h
            exact fun hmarked => hfree (hmarked.trans (List.takeWhile_prefix _))

/-- A transaction names validators of one key type. -/
theorem ed25519_of_readValidator {body : Bytes} {update : ValidatorUpdate}
    (h : readValidator body = .ok update) : ∃ data, update.publicKey = .ed25519 data := by
  unfold readValidator at h
  dsimp only at h
  split at h
  · cases h
  · split at h
    · cases h
    · split at h
      · cases h
      · next data hdata =>
          split at h
          · cases h
          · cases h
            exact ⟨data, rfl⟩

theorem ed25519_of_read {tx : Bytes} {update : ValidatorUpdate}
    (h : read tx = .ok (.validator update)) : ∃ data, update.publicKey = .ed25519 data := by
  unfold read at h
  split at h
  · cases h
  · split at h
    · next body hbody =>
        cases hread : readValidator body with
        | error fault =>
            rw [hread] at h
            cases h
        | ok found =>
            rw [hread] at h
            cases h
            exact ed25519_of_readValidator hread
    · dsimp only at h
      split at h
      · cases h
      · split at h <;> cases h

end Transaction

end Store

end ChainHost
