/-
  The transactions of the key/value store.

      key=value           puts a value under a key
      key                 puts a key under itself
      val:<hex>!<power>   gives a validator a power

  A transaction that starts like a validator update is one, or is refused.
-/
import ChainHost.Message.Record
import ChainHost.Text.Utf8
import ChainHost.Text.Decimal
import ChainHost.Text.Hex

set_option autoImplicit false

namespace ChainHost.Store

/-- A transaction. -/
inductive Transaction where
  | set (key value : Bytes)
  | validator (update : ValidatorUpdate)
  deriving DecidableEq, Repr

namespace Transaction

/-- What a validator update, and the key of a validator, start with. -/
def validatorMark : String := "val:"

/-- Why a validator key cannot be read. -/
inductive KeyFault where
  | empty
  | notHex (fault : Hex.Fault)
  deriving DecidableEq, Repr

/-- The words for a fault of a key. -/
def KeyFault.message : KeyFault → String
  | empty => "empty key"
  | notHex fault => fault.message

/-- Why bytes are no transaction. -/
inductive Fault where
  | empty
  | emptyKey
  /-- The validator update has no power. -/
  | malformedValidator
  | badKey (fault : KeyFault)
  | badPower (text : String)
  deriving DecidableEq, Repr

/-- The words for a fault. -/
def Fault.message : Fault → String
  | empty => "transaction is empty"
  | emptyKey => "transaction key is empty"
  | malformedValidator => "validator update must look like val:<hex pubkey>!<power>"
  | badKey fault => "validator public key is not valid hex: " ++ fault.message
  | badPower text => "validator power '" ++ text ++ "' is not a non-negative integer"

/-- The byte between the key and the power of a validator. -/
def bang : UInt8 := 33

/-- The byte between a key and its value. -/
def equals : UInt8 := 61

/-- Reads what follows the mark of a validator update. -/
def readValidator (body : Bytes) : Except Fault ValidatorUpdate :=
  let text := (Utf8.decodeLossy body).flatMap String.utf8EncodeChar
  let key := text.takeWhile (· != bang)
  match text.drop key.length with
  | [] => .error .malformedValidator
  | _ :: power =>
      if key = [] then .error (.badKey .empty)
      else
        match Hex.decode key with
        | .error fault => .error (.badKey (.notHex fault))
        | .ok data =>
            match Decimal.word? power with
            | none => .error (.badPower (String.ofList (Utf8.decodeLossy power)))
            | some power => .ok ⟨.ed25519 data, power⟩

/-- Reads a transaction. -/
def read (tx : Bytes) : Except Fault Transaction :=
  if tx = [] then .error .empty
  else
    match Bytes.dropText? validatorMark tx with
    | some body => (readValidator body).map validator
    | none =>
        let key := tx.takeWhile (· != equals)
        match tx.drop key.length with
        | [] => .ok (set tx tx)
        | _ :: value => if key = [] then .error .emptyKey else .ok (set key value)

/-- The transaction of a validator update. -/
def writeValidator (u : ValidatorUpdate) : Bytes :=
  Bytes.ofText validatorMark ++ Hex.encode u.publicKey.data ++ bang
    :: Decimal.digits u.power.toNat

end Transaction

end ChainHost.Store
